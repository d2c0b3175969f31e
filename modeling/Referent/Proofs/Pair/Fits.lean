import Referent.Proofs.Except
import Referent.Proofs.Syntax.Fits

namespace Referent

namespace Occurrence

def Precedes (a b : Occurrence) : Prop := a.start < a.stop ∧ a.stop ≤ b.start ∧ b.start < b.stop

lemma textOf_of_isSymmetric {d : Delimiter} (h : d.isSymmetric = true) (side side' : Side) :
    textOf d side = textOf d side' := by
  have heq : d.opening = d.closing := beq_iff_eq.mp h
  cases side with
  | left =>
    cases side' with
    | left => rfl
    | right => exact heq
  | right =>
    cases side' with
    | left => exact heq.symm
    | right => rfl

lemma starts_of_delimiterAt? {delimiters : List Delimiter} {d : Delimiter} {side : Side}
    {text : List Char} (h : delimiterAt? delimiters text = some (d, side)) :
    d ∈ delimiters ∧ textOf d side <+: text := by
  obtain ⟨d', hd', h⟩ := List.exists_of_findSome?_eq_some h
  split at h
  · cases h
    exact ⟨hd', List.isPrefixOf_iff_prefix.mp ‹_›⟩
  · split at h
    · cases h
      exact ⟨hd', List.isPrefixOf_iff_prefix.mp ‹_›⟩
    · cases h

lemma scan_cons (delimiters opened : List Delimiter) (index : Nat) (prev : Option Char) (c : Char)
    (rest : List Char) :
    (∃ opened', scan delimiters opened index prev (c :: rest) =
      scan delimiters opened' (index + 1) (some c) rest) ∨
    ∃ width d side opened' last, width = max 1 (textOf d side).length ∧
      (∃ side', delimiterAt? delimiters (c :: rest) = some (d, side') ∧
        textOf d side' = textOf d side) ∧
      scan delimiters opened index prev (c :: rest) =
        ⟨index, index + width, d, side⟩ ::
          scan delimiters opened' (index + width) last ((c :: rest).drop width) := by
  rw [scan]
  split
  · exact Or.inl ⟨_, by rw [‹c = '\n'›]⟩
  · split
    · exact Or.inl ⟨_, rfl⟩
    · split
      · exact Or.inl ⟨_, rfl⟩
      · next d side hd =>
        dsimp only
        split
        · next hsymmetric =>
          have htext (side' : Side) := textOf_of_isSymmetric hsymmetric side side'
          have hwidth (side' : Side) : max 1 (textOf d side).length = max 1 (textOf d side').length := by
            rw [htext side']
          split
          · exact Or.inr ⟨_, _, _, _, _, hwidth _, ⟨_, hd, htext _⟩, rfl⟩
          · exact Or.inr ⟨_, _, _, _, _, hwidth _, ⟨_, hd, htext _⟩, rfl⟩
        · exact Or.inr ⟨_, _, _, _, _, rfl, ⟨_, hd, rfl⟩, rfl⟩

lemma scan_bounds (delimiters opened : List Delimiter) (index : Nat) (prev : Option Char)
    (text : List Char) (o : Occurrence) (h : o ∈ scan delimiters opened index prev text) :
    index ≤ o.start ∧ o.start < o.stop ∧ o.stop ≤ index + text.length := by
  induction hn : text.length using Nat.strongRecOn generalizing opened index prev text with
  | ind n ih =>
    cases text with
    | nil => simp [scan] at h
    | cons c rest =>
      rw [List.length_cons] at hn
      have hrest : rest.length < n := by omega
      rcases scan_cons delimiters opened index prev c rest with
        ⟨opened', hs⟩ | ⟨width, d, side, opened', last, hw, ⟨side', hd, htext⟩, hs⟩
      · have hb := ih _ hrest _ _ _ _ (hs ▸ h) rfl
        omega
      · have hfits := (starts_of_delimiterAt? hd).2.length_le
        rw [htext, List.length_cons] at hfits
        rw [hs] at h
        rcases List.mem_cons.mp h with rfl | h
        · dsimp only
          omega
        · have hdrop : ((c :: rest).drop width).length < n := by
            rw [List.length_drop, List.length_cons]
            omega
          have hb := ih _ hdrop _ _ _ _ h rfl
          rw [List.length_drop, List.length_cons] at hb
          omega

lemma stop_le_of_mem_ofText {delimiters : List Delimiter} {text : List Char} {o : Occurrence}
    (h : o ∈ ofText delimiters text) : o.stop ≤ text.length := by
  have hb := (scan_bounds delimiters [] 0 none text o h).2.2
  omega

lemma precedes_scan {delimiters opened : List Delimiter} {index width : Nat} {last : Option Char}
    {text : List Char} {d : Delimiter} {side : Side} (hw : 1 ≤ width) :
    ∀ o ∈ scan delimiters opened (index + width) last text,
      Precedes ⟨index, index + width, d, side⟩ o := by
  intro o ho
  have hb := scan_bounds _ _ _ _ _ o ho
  exact ⟨by dsimp only; omega, hb.1, hb.2.1⟩

lemma scan_pairwise (delimiters opened : List Delimiter) (index : Nat) (prev : Option Char)
    (text : List Char) : (scan delimiters opened index prev text).Pairwise Precedes := by
  induction hn : text.length using Nat.strongRecOn generalizing opened index prev text with
  | ind n ih =>
    cases text with
    | nil => simp [scan]
    | cons c rest =>
      have hrest : rest.length < n := by simp [← hn]
      rcases scan_cons delimiters opened index prev c rest with
        ⟨opened', hs⟩ | ⟨width, d, side, opened', last, hw, _, hs⟩
      · rw [hs]
        exact ih _ hrest _ _ _ _ rfl
      · have hdrop : ((c :: rest).drop width).length < n := by
          rw [List.length_drop, List.length_cons]
          omega
        rw [hs]
        exact List.pairwise_cons.mpr ⟨precedes_scan (by omega), ih _ hdrop _ _ _ _ rfl⟩

lemma ofText_pairwise (delimiters : List Delimiter) (text : List Char) :
    (ofText delimiters text).Pairwise Precedes := scan_pairwise delimiters [] 0 none text

lemma precedes_of_mem_matchFrom (opened l : List Occurrence)
    (ho : ∀ p ∈ opened, ∀ o ∈ l, Precedes p o) (hl : l.Pairwise Precedes)
    (q : Occurrence × Occurrence) (hq : q ∈ matchFrom opened l) : Precedes q.1 q.2 := by
  induction l generalizing opened with
  | nil => exact absurd hq List.not_mem_nil
  | cons o rest ih =>
    obtain ⟨hfirst, hrest⟩ := List.pairwise_cons.mp hl
    have hlater : ∀ p ∈ opened, ∀ o ∈ rest, Precedes p o :=
      fun p hp o' ho' => ho p hp o' (List.mem_cons_of_mem _ ho')
    unfold matchFrom at hq
    split at hq
    · refine ih (o :: opened) (fun p hp => ?_) hrest hq
      rcases List.mem_cons.mp hp with rfl | hp
      · exact hfirst
      · exact hlater p hp
    · split at hq
      · next p hfind =>
        rcases List.mem_cons.mp hq with rfl | hq
        · exact ho p (List.mem_of_find?_eq_some hfind) o List.mem_cons_self
        · exact ih _ (fun p hp => hlater p (List.mem_of_mem_eraseP hp)) hrest hq
      · exact ih opened hlater hrest hq

lemma precedes_of_mem_matched {l : List Occurrence} (hl : l.Pairwise Precedes)
    (q : Occurrence × Occurrence) (hq : q ∈ matched l) : Precedes q.1 q.2 :=
  precedes_of_mem_matchFrom [] l (fun _ h => absurd h List.not_mem_nil) hl q hq

lemma precedes_of_pairFromLeft {l : List Occurrence} (hl : l.Pairwise Precedes) {selection : Span}
    {q : Occurrence × Occurrence} (hq : pairFromLeft l selection = some q) :
    Precedes q.1 q.2 := by
  unfold pairFromLeft at hq
  split at hq
  · cases hq
  · next opening before hdrop =>
    obtain ⟨closing, hfind, rfl⟩ := Option.map_eq_some_iff.mp hq
    -- What was dropped from the reversed list stands behind the opening one.
    have hsplit := List.takeWhile_append_dropWhile (p := fun o : Occurrence =>
      decide (selection.1 < o.start)) (l := l.reverse)
    rw [hdrop] at hsplit
    have hlist := congrArg List.reverse hsplit
    simp only [List.reverse_append, List.reverse_cons, List.reverse_reverse] at hlist
    rw [← hlist] at hl hfind
    have hmem := List.mem_of_find?_eq_some hfind
    rw [List.drop_left' (by simp)] at hmem
    exact (List.pairwise_append.mp hl).2.2 opening (by simp) closing hmem

lemma precedes_of_pairFromRight {l : List Occurrence} (hl : l.Pairwise Precedes) {selection : Span}
    {q : Occurrence × Occurrence} (hq : pairFromRight l selection = some q) :
    Precedes q.1 q.2 := by
  unfold pairFromRight at hq
  split at hq
  · cases hq
  · next closing after hdrop =>
    obtain ⟨opening, hfind, rfl⟩ := Option.map_eq_some_iff.mp hq
    have hsplit := List.takeWhile_append_dropWhile (p := fun o : Occurrence =>
      decide (o.stop < selection.2)) (l := l)
    rw [hdrop] at hsplit
    rw [← hsplit] at hl hfind
    have hmem := List.mem_reverse.mp (List.mem_of_find?_eq_some hfind)
    rw [List.take_left' (by simp)] at hmem
    exact (List.pairwise_append.mp hl).2.2 opening hmem closing List.mem_cons_self

lemma precedes_of_mem_matchedToward {l : List Occurrence} (hl : l.Pairwise Precedes)
    (direction : PairDirection) (selection : Span) (d : Delimiter) (q : Occurrence × Occurrence)
    (hq : q ∈ matchedToward direction selection l d) : Precedes q.1 q.2 := by
  have hsame := hl.filter fun o => decide (o.delimiter = d)
  unfold matchedToward at hq
  dsimp only at hq
  split at hq
  · have hforced := Option.mem_toList.mp hq
    cases direction with
    | left => exact precedes_of_pairFromLeft hsame hforced
    | right => exact precedes_of_pairFromRight hsame hforced
  · exact precedes_of_mem_matched hsame q hq

end Occurrence

structure PairMatch.Fits (d : Document) (p : PairMatch) : Prop where
  opening : d.Holds p.opening
  closing : d.Holds p.closing
  ordered : p.opening.stop ≤ p.closing.start

namespace PairMatch

variable {d : Document} {p : PairMatch}

lemma content_eq (h : p.opening.stop ≤ p.closing.start) :
    p.content.start = p.opening.start ∧ p.content.stop = p.closing.stop := by
  have hle : p.opening.start ≤ p.closing.stop :=
    Position.le_trans p.opening.start_le_stop (Position.le_trans h p.closing.start_le_stop)
  rw [content, Range.between_of_le hle]
  exact ⟨rfl, rfl⟩

lemma interior_eq (h : p.opening.stop ≤ p.closing.start) :
    p.interior.start = p.opening.stop ∧ p.interior.stop = p.closing.start := by
  rw [interior, Range.between_of_le h]
  exact ⟨rfl, rfl⟩

lemma Fits.content (h : p.Fits d) : d.Holds p.content :=
  Document.holds_between h.opening.1 h.closing.2

lemma Fits.interior (h : p.Fits d) : d.Holds p.interior :=
  Document.holds_between h.opening.2 h.closing.1

end PairMatch

namespace PairSearch

lemma precedes_of_mem_pairsIn (s : PairSearch) (text : List Char)
    (selection : Option Occurrence.Span) (q : Occurrence × Occurrence)
    (hq : q ∈ s.pairsIn text selection) : q.1.Precedes q.2 := by
  have hl := Occurrence.ofText_pairwise s.delimiters text
  unfold pairsIn at hq
  dsimp only at hq
  split at hq
  · obtain ⟨d, _, hd⟩ := List.mem_flatMap.mp hq
    exact Occurrence.precedes_of_mem_matchedToward hl _ _ d q hd
  · exact Occurrence.precedes_of_mem_matched hl q hq

lemma fits_matchAt (d : Document) (base : Nat) {q : Occurrence × Occurrence}
    (h : q.1.Precedes q.2) : (matchAt d base q).Fits d where
  opening := d.holds_positions _ _
  closing := d.holds_positions _ _
  ordered := by
    obtain ⟨hfirst, hbetween, hsecond⟩ := h
    have hopen := d.positionAt_mono (Nat.add_le_add_left (Nat.le_of_lt hfirst) base)
    have hclose := d.positionAt_mono (Nat.add_le_add_left (Nat.le_of_lt hsecond) base)
    simp only [matchAt, occurrenceRange, Range.between_of_le hopen, Range.between_of_le hclose]
    exact d.positionAt_mono (Nat.add_le_add_left hbetween base)

lemma fits_of_mem_findAll (s : PairSearch) (d : Document) (p : PairMatch)
    (h : p ∈ s.findAll d) : p.Fits d := by
  obtain ⟨q, hq, rfl⟩ := List.mem_map.mp h
  exact fits_matchAt d 0 (s.precedes_of_mem_pairsIn _ _ q (List.mem_mergeSort.mp hq))

end PairSearch

lemma word_eq_ok {n m : Nat} : word n = .ok m ↔ n < UInt64.size ∧ n = m := by
  unfold word
  split
  · next h => rw [Except.ok.injEq, and_iff_right h]
  · next h => exact ⟨fun h => (by cases h), fun h' => absurd h'.1 h⟩

lemma word_eq_error {n : Nat} {e : TargetError} :
    word n = .error e ↔ UInt64.size ≤ n ∧ e = .overflow := by
  unfold word
  split
  · next h => exact ⟨fun h => (by cases h), fun h' => absurd h (Nat.not_lt.mpr h'.1)⟩
  · next h => rw [Except.error.injEq, and_iff_right (Nat.not_lt.mp h), eq_comm]

lemma mem_of_lastMax? {α : Type} {le : α → α → Bool} {l : List α} {a : α}
    (h : lastMax? le l = some a) : a ∈ l := by
  cases l with
  | nil => cases h
  | cons b rest =>
    have hfold : ∀ (l : List α) (b : α), l.foldl (fun x y => if le x y then y else x) b ∈ b :: l := by
      intro l
      induction l with
      | nil => exact fun b => List.mem_singleton_self b
      | cons c l ih =>
        intro b
        have hmem := ih (if le b c then c else b)
        simp only [List.foldl_cons, List.mem_cons] at hmem ⊢
        split at hmem <;> grind
    simp only [lastMax?, Option.some.injEq] at h
    exact h ▸ hfold rest b

namespace PairSearch

lemma fits_findInWindow {s : PairSearch} {d : Document} {window r : Range} {p : PairMatch}
    (h : s.findInWindow d window r = some p) : p.Fits d := by
  obtain ⟨q, hq, rfl⟩ := Option.map_eq_some_iff.mp h
  have hmem := (List.mem_filter.mp (mem_of_lastMax? hq)).1
  exact fits_matchAt d _ (s.precedes_of_mem_pairsIn _ _ q hmem)

def window (d : Document) (r : Range) (length : Nat) : Occurrence.Span :=
  (d.offsetAt r.start - length, min (d.offsetAt r.stop + length) d.length)

def findWithin (s : PairSearch) (d : Document) (r : Range) (length : Nat) : Option PairMatch :=
  s.findBetween d r (window d r length)

lemma windowAround_eq_ok {d : Document} {r : Range} {length : Nat} {w : Occurrence.Span} :
    windowAround d r length = .ok w ↔
      d.offsetAt r.stop + length < UInt64.size ∧ window d r length = w := by
  rw [windowAround, map_eq_ok]
  simp only [word_eq_ok, window, and_assoc, exists_and_left, exists_eq_left']

lemma exists_of_scanFrom {s : PairSearch} {scan : ScanConfig} {d : Document} {r : Range}
    {rounds length : Nat} {p : PairMatch} (h : s.scanFrom scan d r rounds length = .ok (some p)) :
    ∃ length, s.findWithin d r length = some p := by
  induction rounds generalizing length with
  | zero => cases h
  | succ rounds ih =>
    obtain ⟨w, hw, h⟩ := bind_eq_ok.mp h
    obtain ⟨_, rfl⟩ := windowAround_eq_ok.mp hw
    split at h
    · exact ⟨length, Except.ok.inj h⟩
    · obtain ⟨next, _, h⟩ := bind_eq_ok.mp h
      exact ih h

lemma exists_of_findInText {s : PairSearch} {scan : ScanConfig} {d : Document} {r : Range}
    {p : PairMatch} (h : s.findInText scan d r = .ok (some p)) :
    ∃ length, s.findWithin d r length = some p := exists_of_scanFrom h

lemma fits_findInText {s : PairSearch} {scan : ScanConfig} {d : Document} {r : Range} {p : PairMatch}
    (h : s.findInText scan d r = .ok (some p)) : p.Fits d := by
  obtain ⟨length, hfound⟩ := exists_of_findInText h
  exact fits_findInWindow (Option.filter_eq_some_iff.mp hfound).1

lemma exists_of_nodePair? {s : PairSearch} {t : SyntaxTree} {r : Range} {id : Nat} {p : PairMatch}
    (h : s.nodePair? t r id = some p) :
    ∃ first rest, ∃ last ∈ rest, t.children id = first :: rest ∧ p = ⟨t.range first, t.range last⟩ ∧
      (if s.isStrong then p.interior else p.content).containsRange r = true := by
  unfold nodePair? at h
  split at h
  · next first second rest hchildren =>
    obtain ⟨hpair, h⟩ := Option.ite_none_right_eq_some.mp h
    obtain rfl := Option.some.inj h
    have hlast : (second :: rest).getLastD second ∈ second :: rest := by
      rw [List.getLastD_eq_getLast?]
      cases hl : (second :: rest).getLast? with
      | none => exact absurd (List.getLast?_eq_none_iff.mp hl) (by simp)
      | some last => exact List.mem_of_getLast? hl
    exact ⟨first, _, _, hlast, hchildren, rfl, (Bool.and_eq_true _ _ ▸ hpair).2⟩
  · cases h

lemma fits_nodePair? {s : PairSearch} {t : SyntaxTree} {d : Document} {r : Range} {id : Nat}
    {p : PairMatch} (ht : t.Fits d) (h : s.nodePair? t r id = some p) : p.Fits d := by
  obtain ⟨first, rest, last, hlast, hchildren, rfl, _⟩ := exists_of_nodePair? h
  have hordered := ht.pairwise id
  rw [hchildren] at hordered
  exact ⟨ht.range _, ht.range _, (List.pairwise_cons.mp hordered).1 _ hlast⟩

lemma fits_findInTree {s : PairSearch} {t : SyntaxTree} {d : Document} {id : Nat} {r : Range}
    {p : PairMatch} (ht : t.Fits d) (h : s.findInTree t id r = some p) : p.Fits d := by
  obtain ⟨id', _, hpair⟩ := List.exists_of_findSome?_eq_some h
  exact fits_nodePair? ht hpair

lemma fits_findInFragment {s : PairSearch} {t : SyntaxTree} {id : Nat} {d : Document} {r : Range}
    {p : PairMatch} (h : s.findInFragment t id d r = some p) : p.Fits d := by
  unfold findInFragment at h
  split at h
  · cases h
  · split at h
    · exact fits_findInWindow h
    · cases h

lemma fits_findInSyntax {s : PairSearch} {cx : Context} {d : Document} {r : Range} {p : PairMatch}
    (ht : ∀ t, cx.tree? d = some t → t.Fits d) (h : s.findInSyntax cx d r = some p) : p.Fits d := by
  unfold findInSyntax at h
  split at h
  · cases h
  · next t htree =>
    rw [Option.orElse_eq_or, Option.or_eq_some_iff] at h
    rcases h with h | ⟨_, h⟩
    · exact fits_findInFragment h
    · exact fits_findInTree (ht t htree) h

lemma fits_find {s : PairSearch} {cx : Context} {d : Document} {r : Range} {p : PairMatch}
    (ht : ∀ t, cx.tree? d = some t → t.Fits d) (h : s.find cx d r = .ok (some p)) : p.Fits d := by
  unfold find at h
  split at h
  · next q hfound =>
    obtain rfl : q = p := Option.some.inj (Except.ok.inj h)
    exact fits_findInSyntax ht hfound
  · exact fits_findInText h

end PairSearch

end Referent
