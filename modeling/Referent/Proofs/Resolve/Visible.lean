import Mathlib.Tactic.Common
import Referent.Proofs.Sorting
import Referent.Resolve.Mark

namespace Referent

def Editor.Shows (e : Editor) (line : Nat) : Prop :=
  line < e.document.lineCount ∧ ∃ r ∈ e.visible, r.start.line ≤ line ∧ line ≤ r.stop.line

lemma eq_singleton_iff {α : Type} {m : List α} (h : m.Nodup) {a : α} :
    m = [a] ↔ a ∈ m ∧ ∀ b ∈ m, b = a := by
  constructor
  · rintro rfl
    exact ⟨List.mem_singleton_self a, fun b => List.mem_singleton.mp⟩
  · rintro ⟨hmem, hall⟩
    exact List.perm_singleton.mp ((List.perm_ext_iff_of_nodup h (List.nodup_singleton a)).mpr
      fun b => ⟨fun hb => List.mem_singleton.mpr (hall b hb), fun hb => List.mem_singleton.mp hb ▸ hmem⟩)

lemma two_le_length_iff {α : Type} {m : List α} (h : m.Nodup) :
    2 ≤ m.length ↔ ∃ a b, a ≠ b ∧ a ∈ m ∧ b ∈ m := by
  constructor
  · intro hlength
    match m, h, hlength with
    | a :: b :: m, h, _ =>
      have hne : a ≠ b := fun hab => (List.nodup_cons.mp h).1 (hab ▸ List.mem_cons_self)
      exact ⟨a, b, hne, List.mem_cons_self, List.mem_cons_of_mem a List.mem_cons_self⟩
  · rintro ⟨a, b, hne, ha, hb⟩
    match m, ha, hb with
    | [c], ha, hb => exact absurd ((List.mem_singleton.mp ha).trans (List.mem_singleton.mp hb).symm) hne
    | _ :: _ :: m, _, _ => exact Nat.le_add_left 2 m.length

lemma filterM_some {α : Type} (p : α → Bool) (l : List α) :
    l.filterM (fun a => some (p a)) = some (l.filter p) := by
  have hloop (acc : List α) :
      List.filterAuxM (fun a => some (p a)) l acc = some ((l.filter p).reverse ++ acc) := by
    induction l generalizing acc with
    | nil => rfl
    | cons a l ih =>
      rw [List.filterAuxM]
      refine (ih (cond (p a) (a :: acc) acc)).trans ?_
      cases hp : p a with
      | true => simp [hp]
      | false => simp [hp]
  show (List.filterAuxM (fun a => some (p a)) l []).bind (fun k => some k.reverse) = _
  rw [hloop, List.append_nil, Option.bind_some, List.reverse_reverse]

namespace Mark

variable {e : Editor} {row : Int} {modulo l : Nat}

lemma mem_visibleLines : l ∈ visibleLines e ↔ e.Shows l := by
  simp [visibleLines, Editor.Shows]

def IsRow (e : Editor) (row : Int) (modulo line : Nat) : Prop :=
  e.Shows line ∧ ((line % modulo : Nat) : Int) = row

def onlyLine (row : Nat) : List Nat → Except TargetError Nat
  | [] => .error (.noVisibleLine row)
  | [l] => .ok l
  | _ => .error (.ambiguousVisibleLine row)

section OnlyLine

variable {n : Nat} {m : List Nat}

lemma onlyLine_ne_outOfRange : onlyLine n m ≠ .error (.outOfRange "line") := by
  rcases m with _ | ⟨a, _ | ⟨b, m⟩⟩ <;> simp [onlyLine]

lemma onlyLine_eq_ok : onlyLine n m = .ok l ↔ m = [l] := by
  rcases m with _ | ⟨a, _ | ⟨b, m⟩⟩ <;> simp [onlyLine]

lemma onlyLine_eq_noVisibleLine : onlyLine n m = .error (.noVisibleLine n) ↔ m = [] := by
  rcases m with _ | ⟨a, _ | ⟨b, m⟩⟩ <;> simp [onlyLine]

lemma onlyLine_eq_ambiguousVisibleLine :
    onlyLine n m = .error (.ambiguousVisibleLine n) ↔ 2 ≤ m.length := by
  rcases m with _ | ⟨a, _ | ⟨b, m⟩⟩ <;> simp [onlyLine]

end OnlyLine

def rowLines (e : Editor) (row : Int) (modulo : Nat) : List Nat :=
  (visibleLines e).filter fun l => l % modulo = row.toNat

lemma pairwise_rowLines (e : Editor) (row : Int) (modulo : Nat) :
    (rowLines e row modulo).Pairwise (· < ·) :=
  (List.pairwise_lt_range.filter _).filter _

lemma mem_rowLines (hrow : 0 ≤ row) : l ∈ rowLines e row modulo ↔ IsRow e row modulo l := by
  rw [rowLines, List.mem_filter, mem_visibleLines, decide_eq_true_eq, IsRow]
  exact and_congr_right fun _ => by omega

lemma visibleLine_eq (e : Editor) (row : Int) (modulo : Nat) : visibleLine e row modulo =
    if row < 0 ∨ modulo ≤ row then .error (.outOfRange "line")
    else onlyLine row.toNat (rowLines e row modulo) := by
  rw [visibleLine]
  rfl

lemma visibleLine_eq_iff {outcome : Except TargetError Nat} (hne : outcome ≠ .error (.outOfRange "line")) :
    visibleLine e row modulo = outcome ↔
      (0 ≤ row ∧ row < modulo) ∧ onlyLine row.toNat (rowLines e row modulo) = outcome := by
  rw [visibleLine_eq]
  split
  · exact ⟨fun h => absurd h.symm hne, fun h => absurd h.1 (by omega)⟩
  · exact ⟨fun h => ⟨by omega, h⟩, fun h => h.2⟩

lemma visibleLine_eq_outOfRange :
    visibleLine e row modulo = .error (.outOfRange "line") ↔ row < 0 ∨ modulo ≤ row := by
  rw [visibleLine_eq]
  split
  · next hout => exact iff_of_true rfl hout
  · next hin => exact iff_of_false onlyLine_ne_outOfRange hin

lemma visibleLine_eq_ok_iff : visibleLine e row modulo = .ok l ↔ (0 ≤ row ∧ row < modulo) ∧
    IsRow e row modulo l ∧ ∀ l', IsRow e row modulo l' → l' = l := by
  rw [visibleLine_eq_iff (by simp)]
  refine and_congr_right fun ⟨hrow, _⟩ => ?_
  rw [onlyLine_eq_ok, eq_singleton_iff (pairwise_rowLines e row modulo).nodup]
  simp only [mem_rowLines hrow]

lemma visibleLine_eq_noVisibleLine : visibleLine e row modulo = .error (.noVisibleLine row.toNat) ↔
    (0 ≤ row ∧ row < modulo) ∧ ∀ l, ¬IsRow e row modulo l := by
  rw [visibleLine_eq_iff (by simp)]
  refine and_congr_right fun ⟨hrow, _⟩ => ?_
  rw [onlyLine_eq_noVisibleLine, List.eq_nil_iff_forall_not_mem]
  simp only [mem_rowLines hrow]

lemma visibleLine_eq_ambiguousVisibleLine :
    visibleLine e row modulo = .error (.ambiguousVisibleLine row.toNat) ↔
      (0 ≤ row ∧ row < modulo) ∧ ∃ l l', l ≠ l' ∧ IsRow e row modulo l ∧ IsRow e row modulo l' := by
  rw [visibleLine_eq_iff (by simp)]
  refine and_congr_right fun ⟨hrow, _⟩ => ?_
  rw [onlyLine_eq_ambiguousVisibleLine, two_le_length_iff (pairwise_rowLines e row modulo).nodup]
  simp only [mem_rowLines hrow]

section Sweep

def remainder? (a b : Nat) : Option Nat := if b = 0 then none else some (a % b)

def leaves? (lineCount row modulo line : Nat) : Option Bool :=
  if line < lineCount then (remainder? line modulo).map (· == row) else some false

def rangeLines (r : Range) : List Nat := List.range' r.start.line (r.stop.line + 1 - r.start.line)

def sweepLine? (e : Editor) (row : Int) (modulo : Nat) : Option (Except TargetError Nat) :=
  if row < 0 ∨ modulo ≤ row then some (.error (.outOfRange "line"))
  else do
    let lines ← (e.visible.flatMap rangeLines).filterM
      (leaves? e.document.lineCount row.toNat modulo)
    return onlyLine row.toNat (lines.mergeSort).eraseReps

lemma mem_rangeLines {r : Range} : l ∈ rangeLines r ↔ r.start.line ≤ l ∧ l ≤ r.stop.line := by
  rw [rangeLines, List.mem_range'_1]
  omega

lemma leaves?_eq {lineCount n : Nat} (h : modulo ≠ 0) :
    leaves? lineCount n modulo = fun l => some (decide (l < lineCount ∧ l % modulo = n)) := by
  funext l
  rw [leaves?, remainder?, if_neg h]
  split
  · next hlt => simp [hlt, beq_eq_decide]
  · next hbeyond => simp [hbeyond]

lemma eraseReps_mergeSort_eq (hrow : 0 ≤ row) :
    (((e.visible.flatMap rangeLines).filter fun l =>
      l < e.document.lineCount ∧ l % modulo = row.toNat).mergeSort).eraseReps =
        rowLines e row modulo := by
  generalize hlines : (e.visible.flatMap rangeLines).filter (fun l =>
    decide (l < e.document.lineCount ∧ l % modulo = row.toNat)) = lines
  have hsorted : lines.mergeSort.Pairwise (· ≤ ·) := List.pairwise_mergeSort' (· ≤ ·) lines
  have hdistinct : lines.mergeSort.eraseReps.Pairwise fun a b => (a == b) = false :=
    pairwise_eraseRepsBy (fun a b c hab hbc hac => by simp at hac ⊢; omega) hsorted
  have hincreasing : lines.mergeSort.eraseReps.Pairwise (· < ·) := by
    refine ((hsorted.sublist (eraseRepsBy_sublist _)).and hdistinct).imp fun ⟨hle, hne⟩ => ?_
    exact Nat.lt_of_le_of_ne hle (beq_eq_false_iff_ne.mp hne)
  -- Both lists increase, so that it is enough to compare their members.
  refine hincreasing.eq_of_mem_iff (pairwise_rowLines e row modulo) fun l => ?_
  rw [mem_eraseReps, List.mem_mergeSort, ← hlines, mem_rowLines hrow, List.mem_filter,
    List.mem_flatMap, IsRow, Editor.Shows]
  simp only [mem_rangeLines, decide_eq_true_eq]
  constructor
  · rintro ⟨hshown, hlt, hleaves⟩
    exact ⟨⟨hlt, hshown⟩, by omega⟩
  · rintro ⟨⟨hlt, hshown⟩, hleaves⟩
    exact ⟨hshown, hlt, by omega⟩

lemma sweepLine?_eq (e : Editor) (row : Int) (modulo : Nat) :
    sweepLine? e row modulo = some (visibleLine e row modulo) := by
  rw [sweepLine?, visibleLine_eq]
  split
  · rfl
  · next hin =>
    have hpos : modulo ≠ 0 := by omega
    rw [leaves?_eq hpos, filterM_some]
    show some (onlyLine row.toNat _) = _
    rw [eraseReps_mergeSort_eq (by omega)]

end Sweep

/-- A row names a line exactly where it is the only one in sight that leaves its remainder. A row that is out
of range, one that no line leaves and one that several lines leave each give an error of their own, and no
line is divided by zero. -/
theorem visibleLine_outcomes (e : Editor) (row : Int) (modulo : Nat) :
    (visibleLine e row modulo = .error (.outOfRange "line") ↔ row < 0 ∨ modulo ≤ row) ∧
    (∀ l, visibleLine e row modulo = .ok l ↔ (0 ≤ row ∧ row < modulo) ∧
      IsRow e row modulo l ∧ ∀ l', IsRow e row modulo l' → l' = l) ∧
    (visibleLine e row modulo = .error (.noVisibleLine row.toNat) ↔ (0 ≤ row ∧ row < modulo) ∧
      ∀ l, ¬IsRow e row modulo l) ∧
    (visibleLine e row modulo = .error (.ambiguousVisibleLine row.toNat) ↔ (0 ≤ row ∧ row < modulo) ∧
      ∃ l l', l ≠ l' ∧ IsRow e row modulo l ∧ IsRow e row modulo l') ∧
    sweepLine? e row modulo = some (visibleLine e row modulo) :=
  ⟨visibleLine_eq_outOfRange, fun _ => visibleLine_eq_ok_iff, visibleLine_eq_noVisibleLine,
    visibleLine_eq_ambiguousVisibleLine, sweepLine?_eq e row modulo⟩

example :
    let e : Editor := ⟨1, .ofText 1 "plaintext" "a\nb\nc".toList, [],
      [.between ⟨1, 0⟩ ⟨9, 0⟩, .between ⟨0, 0⟩ ⟨1, 0⟩, .between ⟨1, 0⟩ ⟨9, 0⟩]⟩
    visibleLine e 1 100 = .ok 1 ∧ visibleLine e 3 100 = .error (.noVisibleLine 3) ∧
      visibleLine e 0 2 = .error (.ambiguousVisibleLine 0) ∧
      visibleLine e 0 0 = .error (.outOfRange "line") := by
  decide

end Mark

end Referent
