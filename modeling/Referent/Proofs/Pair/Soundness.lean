import Referent.Proofs.Document.LineTexts
import Referent.Proofs.Pair.Around
import Referent.Proofs.Pair.Order

namespace Referent

open Occurrence (textOf)

lemma Delimiter.ofChar?_of_mem_textOf {d : Delimiter} (hd : d ∈ table) (side : Side) :
    ∀ c ∈ textOf d side, LineEnding.ofChar? c = none := by
  intro c hc
  have hall : ∀ d ∈ table, ∀ text ∈ [d.opening, d.closing],
      text.all (fun c => (LineEnding.ofChar? c).isNone) = true := by decide
  have hplain := List.all_eq_true.mp (hall d hd _ (d.textOf_mem side)) c hc
  exact Option.isNone_iff_eq_none.mp hplain

namespace PairSearch

open Occurrence

variable {s : PairSearch} {cx : Context} {d : Document} {window r : Range} {p : PairMatch}

structure FoundIn (s : PairSearch) (d : Document) (window r : Range) (p : PairMatch)
    (q : Occurrence × Occurrence) : Prop where
  eq : p = matchAt d (d.offsetAt window.start) q
  opening : q.1 ∈ ofText s.delimiters (d.textIn window)
  closing : q.2 ∈ ofText s.delimiters (d.textIn window)
  precedes : q.1.Precedes q.2
  start : q.1.start ≤ d.offsetAt r.start - d.offsetAt window.start
  stop : d.offsetAt r.stop - d.offsetAt window.start ≤ q.2.stop

lemma exists_of_findInWindow (h : s.findInWindow d window r = some p) :
    ∃ q, s.FoundIn d window r p q := by
  obtain ⟨q, hq, rfl⟩ := Option.map_eq_some_iff.mp h
  obtain ⟨hmem, hencloses⟩ := List.mem_filter.mp (mem_of_lastMax? hq)
  obtain ⟨hopening, hclosing⟩ := mem_of_mem_pairsIn hmem
  have hprecedes := s.precedes_of_mem_pairsIn _ _ q hmem
  obtain ⟨hfirst, hbetween, hsecond⟩ := hprecedes
  have hends : q.1.start ≤ d.offsetAt r.start - d.offsetAt window.start ∧
      d.offsetAt r.stop - d.offsetAt window.start ≤ q.2.stop := by
    rw [encloses] at hencloses
    split at hencloses
    · simp only [Bool.and_eq_true, decide_eq_true_eq] at hencloses
      omega
    · simp only [Bool.and_eq_true, decide_eq_true_eq] at hencloses
      exact hencloses
  exact ⟨q, rfl, hopening, hclosing, ⟨hfirst, hbetween, hsecond⟩, hends.1, hends.2⟩

namespace FoundIn

variable {q : Occurrence × Occurrence} (h : s.FoundIn d window r p q)

include h

lemma content :
    p.content.start = d.positionAt (d.offsetAt window.start + q.1.start) ∧
      p.content.stop = d.positionAt (d.offsetAt window.start + q.2.stop) := by
  obtain ⟨hfirst, _, hsecond⟩ := h.precedes
  have hopen := d.positionAt_mono (Nat.add_le_add_left (Nat.le_of_lt hfirst) (d.offsetAt window.start))
  have hclose := d.positionAt_mono (Nat.add_le_add_left (Nat.le_of_lt hsecond) (d.offsetAt window.start))
  obtain ⟨hstart, hstop⟩ := PairMatch.content_eq (h.eq ▸ (fits_matchAt d _ h.precedes).ordered)
  rw [hstart, hstop, h.eq]
  exact ⟨Range.start_between hopen, Range.stop_between hclose⟩

lemma content_containsRange (hr : d.Holds r) (hbefore : d.offsetAt window.start ≤ d.offsetAt r.start) :
    p.content.containsRange r = true := by
  have hstart := h.start
  have hstop := h.stop
  rw [Range.containsRange_iff, h.content.1, h.content.2, ← Document.positionAt_offsetAt hr.1,
    ← Document.positionAt_offsetAt hr.2]
  exact ⟨d.positionAt_mono (by omega), d.positionAt_mono (by omega)⟩

lemma containsRange_content (htable : ∀ δ ∈ s.delimiters, δ ∈ Delimiter.table) :
    window.containsRange p.content = true := by
  obtain ⟨hfirst, hbetween, hsecond⟩ := h.precedes
  obtain ⟨hmem, hcovers⟩ := covers_of_mem_ofText htable h.opening
  have hlast := stop_le_of_mem_ofText h.closing
  rw [Document.textIn, List.length_take, List.length_drop] at hlast
  rw [Range.containsRange_iff, h.content.1, h.content.2]
  constructor
  · have hwidth := hcovers.stop
    obtain ⟨c, hc⟩ : ∃ c, (textOf q.1.delimiter q.1.side)[0]? = some c :=
      ⟨_, List.getElem?_eq_getElem (by omega)⟩
    have hplain := Delimiter.ofChar?_of_mem_textOf hmem q.1.side c (List.mem_of_getElem? hc)
    have hchar : d.text[d.offsetAt window.start + q.1.start]? = some c := by
      have hin := hcovers.getElem? (k := 0) (by omega)
      rwa [Nat.add_zero, hc, Document.textIn, List.getElem?_take_of_lt (by omega),
        List.getElem?_drop] at hin
    exact Document.le_positionAt hchar hplain (Nat.le_add_right _ _)
  · apply Position.le_trans (d.positionAt_mono (b := d.offsetAt window.stop) (by omega))
    exact Document.positionAt_offsetAt_le window.stop

end FoundIn

lemma content_containsRange_of_findInText {scan : ScanConfig} (hr : d.Holds r)
    (h : s.findInText scan d r = .ok (some p)) : p.content.containsRange r = true := by
  obtain ⟨length, hfound⟩ := exists_of_findInText h
  obtain ⟨q, hq⟩ := exists_of_findInWindow (Option.filter_eq_some_iff.mp hfound).1
  apply hq.content_containsRange hr
  apply Nat.le_trans (d.offsetAt_start_between_le _ _)
  exact Nat.sub_le _ _

lemma content_containsRange_of_findInFragment {t : SyntaxTree} {id : Nat} (hr : d.Holds r)
    (h : s.findInFragment t id d r = some p) : p.content.containsRange r = true := by
  rw [findInFragment] at h
  split at h
  · cases h
  · next fragment hfragment =>
    split at h
    · next hin =>
      obtain ⟨q, hq⟩ := exists_of_findInWindow h
      exact hq.content_containsRange hr
        (d.offsetAt_mono ((Range.containsRange_iff _ _).mp hin).1)
    · cases h

lemma content_containsRange_of_interior (h : p.opening.stop ≤ p.closing.start)
    (hr : p.interior.containsRange r = true) : p.content.containsRange r = true := by
  obtain ⟨hstart, hstop⟩ := PairMatch.content_eq h
  obtain ⟨hstart', hstop'⟩ := PairMatch.interior_eq h
  rw [Range.containsRange_iff, hstart', hstop'] at hr
  rw [Range.containsRange_iff, hstart, hstop]
  exact ⟨Position.le_trans p.opening.start_le_stop hr.1,
    Position.le_trans hr.2 p.closing.start_le_stop⟩

lemma sound_of_findInTree {t : SyntaxTree} {id : Nat} (ht : t.Ordered)
    (h : s.findInTree t id r = some p) :
    p.opening.stop ≤ p.closing.start ∧ p.content.containsRange r = true := by
  obtain ⟨id', _, hpair⟩ := List.exists_of_findSome?_eq_some h
  obtain ⟨first, rest, last, hlast, hchildren, hp, hcontains⟩ := exists_of_nodePair? hpair
  have hordered : p.opening.stop ≤ p.closing.start := by
    have hchildren' := ht.pairwise id'
    rw [hchildren] at hchildren'
    exact hp ▸ (List.pairwise_cons.mp hchildren').1 last hlast
  refine ⟨hordered, ?_⟩
  split at hcontains
  · exact content_containsRange_of_interior hordered hcontains
  · exact hcontains

lemma FoundBy.sound (ht : ∀ t, cx.tree? d = some t → t.Ordered) (hr : d.Holds r)
    (h : s.FoundBy cx d r p) :
    p.opening.stop ≤ p.closing.start ∧ p.content.containsRange r = true := by
  cases h with
  | inFragment htree h =>
    exact ⟨(fits_findInFragment h).ordered, content_containsRange_of_findInFragment hr h⟩
  | inTree htree h => exact sound_of_findInTree (ht _ htree) h
  | inText h => exact ⟨(fits_findInText h).ordered, content_containsRange_of_findInText hr h⟩

lemma find_eq_of_fragment {t : SyntaxTree} {fragment : Range} (htree : cx.tree? d = some t)
    (hfragment : (Language.ofName d.language).textFragment? t (t.nodeAt r) = some fragment)
    (hin : fragment.containsRange r = true) (h : s.findInWindow d fragment r = some p) :
    s.find cx d r = .ok (some p) := by
  simp only [find, findInSyntax, htree, findInFragment, hfragment, hin, if_true, h]
  rfl

/-- What a search yields, in whichever way it has found it. -/
theorem find_sound (name : PairName) (language : String) (direction : Option PairDirection)
    (isStrong : Bool) {cx : Context} {d : Document} {r : Range} {p : PairMatch}
    (ht : ∀ t, cx.tree? d = some t → t.Ordered) (hr : d.Holds r) :
    let s : PairSearch := ⟨Delimiter.ofName name language, direction, isStrong⟩
    s.find cx d r = .ok (some p) →
      p.opening.stop ≤ p.closing.start ∧ p.content.containsRange r = true ∧
      (isStrong = true → p.interior.containsRange r = true) ∧
      ∀ t fragment, cx.tree? d = some t →
        (Language.ofName d.language).textFragment? t (t.nodeAt r) = some fragment →
        fragment.containsRange r = true → (s.findInWindow d fragment r).isSome = true →
        fragment.containsRange p.content = true := by
  intro s h
  have hfound := foundBy_of_find h
  obtain ⟨hordered, hcontent⟩ := hfound.sound ht hr
  refine ⟨hordered, hcontent, fun hs => ?_, fun t fragment htree hfragment hin hsome => ?_⟩
  · have haround := FoundBy.around (s := s) hs ht hr hfound
    obtain ⟨hstart, hstop⟩ := PairMatch.interior_eq hordered
    rw [Range.containsRange_iff, hstart, hstop]
    exact ⟨haround.opening, haround.closing⟩
  · obtain ⟨q, hq⟩ := Option.isSome_iff_exists.mp hsome
    have hsame := (find_eq_of_fragment htree hfragment hin hq).symm.trans h
    obtain rfl := Option.some.inj (Except.ok.inj hsame)
    obtain ⟨_, hin⟩ := exists_of_findInWindow hq
    exact hin.containsRange_content fun δ hδ => Delimiter.mem_table_of_mem_ofName hδ

def bracketsInString : SyntaxTree :=
  .ofNode (.node "list" (.onLine 0 0 7) true none
    [.node "(" (.onLine 0 0 1) false none [],
      .node "string" (.onLine 0 1 6) true none
        [.node "\"" (.onLine 0 1 2) false none [], .node "\"" (.onLine 0 5 6) false none []],
      .node ")" (.onLine 0 6 7) false none []])

theorem find_sound_inString :
    let cx : Context := { trees := [(1, bracketsInString)] }
    let d : Document := .ofText 1 "plaintext" "(\"(a)\")".toList
    let r : Range := .onLine 0 3 4
    let p : PairMatch := ⟨.onLine 0 2 3, .onLine 0 4 5⟩
    (∀ t, cx.tree? d = some t → t.Ordered) ∧ d.Holds r ∧
      (ofName .parentheses "plaintext").strong.find cx d r = .ok (some p) ∧
      p.interior.containsRange r = true ∧ (Range.onLine 0 2 5).containsRange p.content = true := by
  intro cx d r p
  have ht : ∀ t, cx.tree? d = some t → t.Ordered := by
    rintro t ⟨⟩
    decide +kernel
  have hr : d.Holds r := by decide +kernel
  have hfind : (ofName .parentheses "plaintext").strong.find cx d r = .ok (some p) := by decide +kernel
  obtain ⟨_, _, hinterior, hfragment⟩ := find_sound .parentheses "plaintext" none true ht hr hfind
  exact ⟨ht, hr, hfind, hinterior rfl, hfragment _ (.onLine 0 2 5) rfl (by decide +kernel)
    (by decide +kernel) (by decide +kernel)⟩

end PairSearch

end Referent
