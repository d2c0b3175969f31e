import Referent.Proofs.Document.Coordinates
import Referent.Proofs.Pair.Windows

namespace Referent

def SyntaxTree.Ordered (t : SyntaxTree) : Prop :=
  ∀ id < t.size, (t.children id).Pairwise fun a b => (t.range a).stop ≤ (t.range b).start

instance (t : SyntaxTree) : Decidable t.Ordered :=
  inferInstanceAs (Decidable (∀ id < t.size, _))

namespace SyntaxTree

variable {t : SyntaxTree}

lemma Ordered.pairwise (h : t.Ordered) (id : Nat) :
    (t.children id).Pairwise fun a b => (t.range a).stop ≤ (t.range b).start := by
  by_cases hid : id < t.size
  · exact h id hid
  · rw [children, get_of_size_le (Nat.not_lt.mp hid)]
    exact List.Pairwise.nil

end SyntaxTree

structure PairMatch.Around (p : PairMatch) (r : Range) : Prop where
  opening : p.opening.stop ≤ r.start
  closing : r.stop ≤ p.closing.start

namespace PairMatch.Around

variable {p : PairMatch} {r : Range}

lemma ordered (h : p.Around r) : p.opening.stop ≤ p.closing.start :=
  Position.le_trans h.opening (Position.le_trans r.start_le_stop h.closing)

end PairMatch.Around

namespace PairSearch

open Occurrence

variable {s : PairSearch} {cx : Context} {d : Document} {r : Range} {p : PairMatch}

/-- The ways in which a pair around a range may be found: in the text of a string or comment, among the
nodes around one, and in a window of the text. -/
inductive FoundBy (s : PairSearch) (cx : Context) (d : Document) (r : Range) (p : PairMatch) : Prop
  | inFragment {t : SyntaxTree} {id : Nat} (htree : cx.tree? d = some t)
    (h : s.findInFragment t id d r = some p)
  | inTree {t : SyntaxTree} {id : Nat} (htree : cx.tree? d = some t)
    (h : s.findInTree t id r = some p)
  | inText (h : s.findInText cx.config.scan d r = .ok (some p))

lemma foundBy_of_findInSyntax (h : s.findInSyntax cx d r = some p) : s.FoundBy cx d r p := by
  unfold findInSyntax at h
  split at h
  · cases h
  · next t htree =>
    rw [Option.orElse_eq_or, Option.or_eq_some_iff] at h
    rcases h with h | ⟨_, h⟩
    · exact .inFragment htree h
    · exact .inTree htree h

lemma foundBy_of_find (h : s.find cx d r = .ok (some p)) : s.FoundBy cx d r p := by
  unfold find at h
  split at h
  · next q hfound =>
    obtain rfl : q = p := Option.some.inj (Except.ok.inj h)
    exact foundBy_of_findInSyntax hfound
  · exact .inText h

def IsWritten (d : Document) (r : Range) (p : PairMatch) : Prop :=
  ∃ base q, p = matchAt d base q ∧ q.1.Precedes q.2 ∧ base + q.1.stop ≤ d.offsetAt r.start ∧
    d.offsetAt r.stop ≤ base + q.2.start

lemma IsWritten.around (hr : d.Holds r) (h : IsWritten d r p) : p.Around r := by
  obtain ⟨base, q, rfl, ⟨hfirst, _, hsecond⟩, hbefore, hbehind⟩ := h
  have hopen := d.positionAt_mono (Nat.add_le_add_left (Nat.le_of_lt hfirst) base)
  have hclose := d.positionAt_mono (Nat.add_le_add_left (Nat.le_of_lt hsecond) base)
  refine ⟨?_, ?_⟩
  · show (occurrenceRange d base q.1).stop ≤ r.start
    rw [occurrenceRange, Range.stop_between hopen, ← Document.positionAt_offsetAt hr.1]
    exact d.positionAt_mono hbefore
  · show r.stop ≤ (occurrenceRange d base q.2).start
    rw [occurrenceRange, Range.start_between hclose, ← Document.positionAt_offsetAt hr.2]
    exact d.positionAt_mono hbehind

lemma IsWritten.offsetAt_lt (h : IsWritten d r p) :
    d.offsetAt p.opening.start < d.offsetAt r.start := by
  obtain ⟨base, q, rfl, ⟨hfirst, _, _⟩, hbefore, _⟩ := h
  have hopen := d.positionAt_mono (Nat.add_le_add_left (Nat.le_of_lt hfirst) base)
  have hle := d.offsetAt_positionAt_le (base + q.1.start)
  show d.offsetAt (occurrenceRange d base q.1).start < _
  rw [occurrenceRange, Range.start_between hopen]
  omega

section Strong

variable (hs : s.isStrong = true)

include hs

lemma isWritten_of_findInWindow {window : Range} (h : s.findInWindow d window r = some p) :
    IsWritten d r p := by
  obtain ⟨q, hq, rfl⟩ := Option.map_eq_some_iff.mp h
  obtain ⟨hmem, hencloses⟩ := List.mem_filter.mp (mem_of_lastMax? hq)
  have hprecedes := s.precedes_of_mem_pairsIn _ _ q hmem
  -- The opening delimiter is not empty, so the selection begins behind the start of the window.
  have hfirst := hprecedes.1
  rw [encloses, if_pos hs, Bool.and_eq_true, decide_eq_true_eq, decide_eq_true_eq] at hencloses
  exact ⟨_, q, rfl, hprecedes, by omega, by omega⟩

lemma isWritten_of_findInText {scan : ScanConfig} (h : s.findInText scan d r = .ok (some p)) :
    IsWritten d r p := by
  obtain ⟨length, hfound⟩ := exists_of_findInText h
  exact isWritten_of_findInWindow hs (Option.filter_eq_some_iff.mp hfound).1

lemma isWritten_of_findInFragment {t : SyntaxTree} {id : Nat}
    (h : s.findInFragment t id d r = some p) : IsWritten d r p := by
  unfold findInFragment at h
  split at h
  · cases h
  · split at h
    · exact isWritten_of_findInWindow hs h
    · cases h

lemma around_of_nodePair? {t : SyntaxTree} {id : Nat} (ht : t.Ordered)
    (h : s.nodePair? t r id = some p) : p.Around r := by
  obtain ⟨first, rest, last, hlast, hchildren, rfl, hcontains⟩ := exists_of_nodePair? h
  have hchildren' := ht.pairwise id
  rw [hchildren] at hchildren'
  have hordered : (t.range first).stop ≤ (t.range last).start :=
    (List.pairwise_cons.mp hchildren').1 last hlast
  obtain ⟨hstart, hstop⟩ := PairMatch.interior_eq (p := ⟨t.range first, t.range last⟩) hordered
  rw [if_pos hs, Range.containsRange_iff, hstart, hstop] at hcontains
  exact ⟨hcontains.1, hcontains.2⟩

lemma around_of_findInTree {t : SyntaxTree} {id : Nat} (ht : t.Ordered)
    (h : s.findInTree t id r = some p) : p.Around r := by
  obtain ⟨id', _, hpair⟩ := List.exists_of_findSome?_eq_some h
  exact around_of_nodePair? hs ht hpair

lemma FoundBy.around (ht : ∀ t, cx.tree? d = some t → t.Ordered) (hr : d.Holds r)
    (h : s.FoundBy cx d r p) : p.Around r := by
  cases h with
  | inFragment htree h => exact (isWritten_of_findInFragment hs h).around hr
  | inTree htree h => exact around_of_findInTree hs (ht _ htree) h
  | inText h => exact (isWritten_of_findInText hs h).around hr

end Strong

end PairSearch

end Referent
