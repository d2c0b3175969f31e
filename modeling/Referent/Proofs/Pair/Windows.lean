import Referent.Proofs.Document.Coordinates
import Referent.Proofs.Pair.Places

namespace Referent

section LastMax

variable {α : Type} {le : α → α → Bool} (htotal : ∀ a b, le a b = true ∨ le b a = true)
  (htrans : ∀ a b c, le a b = true → le b c = true → le a c = true)

include htotal htrans

lemma le_of_lastMax? {l : List α} {a b : α} (h : lastMax? le l = some a) (hb : b ∈ l) :
    le b a = true := by
  have hrefl (a : α) : le a a = true := (htotal a a).elim id id
  have hfold (l : List α) (c : α) :
      ∀ b ∈ c :: l, le b (l.foldl (fun x y => if le x y then y else x) c) = true := by
    induction l generalizing c with
    | nil =>
      intro b hb
      obtain rfl := List.mem_singleton.mp hb
      exact hrefl b
    | cons e l ih =>
      intro b hb
      have hbest := ih (if le c e then e else c)
      have hfirst := hbest _ List.mem_cons_self
      rw [List.foldl_cons]
      rcases List.mem_cons.mp hb with rfl | hb
      · apply htrans _ _ _ _ hfirst
        split
        · assumption
        · exact hrefl b
      · rcases List.mem_cons.mp hb with rfl | hb
        · apply htrans _ _ _ _ hfirst
          split
          · exact hrefl b
          · next hle => exact (htotal c b).resolve_left hle
        · exact hbest b (List.mem_cons_of_mem _ hb)
  cases l with
  | nil => cases h
  | cons c rest =>
    obtain rfl := Option.some.inj h
    exact hfold rest c b hb

end LastMax

lemma exists_lastMax? {α : Type} (le : α → α → Bool) {l : List α} {a : α} (h : a ∈ l) :
    ∃ b, lastMax? le l = some b := by
  cases l with
  | nil => cases h
  | cons c rest => exact ⟨_, rfl⟩

namespace PairSearch

open Occurrence

lemma start_le_of_isInner {q q' : Occurrence × Occurrence} (h : isInner q q' = true) :
    q.1.start ≤ q'.1.start := by
  simp only [isInner, Bool.or_eq_true, Bool.and_eq_true, decide_eq_true_eq, beq_iff_eq] at h
  omega

lemma start_le_of_lastMax? {l : List (Occurrence × Occurrence)} {q q' : Occurrence × Occurrence}
    (h : lastMax? isInner l = some q) (hq' : q' ∈ l) : q'.1.start ≤ q.1.start := by
  refine start_le_of_isInner (le_of_lastMax? (fun p p' => ?_) (fun p p' p'' => ?_) h hq')
  · simp only [isInner, Bool.or_eq_true, Bool.and_eq_true, decide_eq_true_eq, beq_iff_eq]
    omega
  · simp only [isInner, Bool.or_eq_true, Bool.and_eq_true, decide_eq_true_eq, beq_iff_eq]
    omega

lemma encloses_shift (s : PairSearch) {a start stop : Nat} (ha : a ≤ start) (h : start ≤ stop)
    (q : Occurrence × Occurrence) :
    s.encloses (start - a, stop - a) q =
      s.encloses (start, stop) (Prod.map (shift a) (shift a) q) := by
  have hbefore (x : Nat) : x ≤ start - a ↔ a + x ≤ start := by omega
  have hbehind (x : Nat) : stop - a ≤ x ↔ stop ≤ a + x := by omega
  rw [Bool.eq_iff_iff]
  cases hs : s.isStrong <;> simp [encloses, hs, ← hbefore, ← hbehind]

variable {s : PairSearch} {d : Document} {r : Range}

lemma mem_of_mem_pairsIn {text : List Char} {selection : Option Span} {q : Occurrence × Occurrence}
    (h : q ∈ s.pairsIn text selection) :
    q.1 ∈ ofText s.delimiters text ∧ q.2 ∈ ofText s.delimiters text := by
  simp only [pairsIn] at h
  split at h
  · obtain ⟨δ, _, hq⟩ := List.mem_flatMap.mp h
    exact mem_of_mem_matchedToward hq
  · exact (mem_of_mem_matched h).imp_right And.left

lemma mem_findAll {p : PairMatch} :
    p ∈ s.findAll d ↔ p ∈ (s.pairsIn (d.textIn d.range) none).map (matchAt d 0) := by
  rw [findAll, List.mem_map, List.mem_map]
  simp only [List.mem_mergeSort]

lemma pairsIn_undirected {text : List Char} {selection : Option Span}
    (h : s.direction = none ∨ selection = none) :
    s.pairsIn text selection = matched (ofText s.delimiters text) := by
  unfold pairsIn
  split
  · next hdirection => simp [hdirection] at h
  · rfl

lemma ends_of_window {start stop : Nat} (h : start ≤ stop) (hstop : stop ≤ d.length) :
    let window := Range.between (d.positionAt start) (d.positionAt stop)
    d.offsetAt window.start ≤ d.offsetAt window.stop ∧
      (d.offsetAt window.start = start ∨
        d.offsetAt window.start + 1 = start ∧ d.text[d.offsetAt window.start]? = some '\r') ∧
      (d.offsetAt window.stop = stop ∨ d.offsetAt window.stop + 1 = stop ∧ stop < d.length) := by
  have hmono := d.positionAt_mono h
  intro window
  simp only [window, Range.between_of_le hmono]
  refine ⟨(Document.offsetAt_le_iff (d.has_positionAt _) (d.has_positionAt _)).mpr hmono, ?_, ?_⟩
  · refine (Document.offsetAt_positionAt_cases (Nat.le_trans h hstop)).imp_right fun hin => ⟨hin.1, ?_⟩
    have hcr := hin.2.2.1
    rwa [← hin.1, Nat.add_sub_cancel] at hcr
  · exact (Document.offsetAt_positionAt_cases hstop).imp_right fun hin =>
      ⟨hin.1, (List.getElem?_eq_some_iff.mp hin.2.2.2).1⟩

lemma offsets_matchAt {q : Occurrence × Occurrence} (h : q.1.Precedes q.2)
    (hlast : q.2.stop ≤ d.length) (hopen : ¬Document.InsideBreak d.text q.1.start)
    (hopen' : ¬Document.InsideBreak d.text q.1.stop)
    (hclose : ¬Document.InsideBreak d.text q.2.start)
    (hclose' : ¬Document.InsideBreak d.text q.2.stop) :
    d.offsetAt (matchAt d 0 q).opening.start = q.1.start ∧
      d.offsetAt (matchAt d 0 q).opening.stop = q.1.stop ∧
      d.offsetAt (matchAt d 0 q).closing.start = q.2.start ∧
      d.offsetAt (matchAt d 0 q).closing.stop = q.2.stop := by
  obtain ⟨hfirst, hbetween, hsecond⟩ := h
  have hopening := d.positionAt_mono (Nat.le_of_lt hfirst)
  have hclosing := d.positionAt_mono (Nat.le_of_lt hsecond)
  simp only [matchAt, occurrenceRange, Nat.zero_add, Range.between_of_le hopening,
    Range.between_of_le hclosing]
  exact ⟨Document.offsetAt_positionAt (by omega) hopen, Document.offsetAt_positionAt (by omega) hopen',
    Document.offsetAt_positionAt (by omega) hclose, Document.offsetAt_positionAt hlast hclose'⟩

lemma matchAt_shift (d : Document) (a : Nat) (q : Occurrence × Occurrence) :
    matchAt d a q = matchAt d 0 (Prod.map (shift a) (shift a) q) := by
  simp [matchAt, occurrenceRange]

lemma find_of_treeless {cx : Context} (htree : cx.tree? d = none) :
    s.find cx d r = s.findInText cx.config.scan d r := by
  simp only [find, findInSyntax, htree]

lemma found_of_findInText {scan : ScanConfig} {p : PairMatch}
    (h : s.findInText scan d r = .ok (some p)) :
    ∃ length,
      let start := d.offsetAt r.start - length
      let stop := min (d.offsetAt r.stop + length) d.length
      (s.findInWindow d (.between (d.positionAt start) (d.positionAt stop)) r).filter
        (isWhole d start stop) = some p := exists_of_findInText h

end PairSearch

end Referent
