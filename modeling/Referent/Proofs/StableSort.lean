import Referent.Proofs.Sorting

/-! Stable sorts that may give up on a comparison that contradicts itself. What they return is determined
wherever the comparison is a total preorder. -/

namespace Referent

section Arranged

variable {α : Type} {cmp : α → α → Ordering}

/-- Whether `k` has the elements of `l` in order, and those that compare as equal as they stand in `l`. -/
structure Arranges (cmp : α → α → Ordering) (l k : List α) : Prop where
  perm : k.Perm l
  ordered : k.Pairwise fun a b => (cmp a b).isLE = true
  stable : ∀ a, k.filter (fun b => cmp a b == .eq) = l.filter fun b => cmp a b == .eq

variable [Std.TransCmp cmp]

lemma isLE_head {a b : α} {l : List α} (h : (a :: l).Pairwise fun a b => (cmp a b).isLE = true)
    (hb : b ∈ a :: l) : (cmp a b).isLE = true := by
  rcases List.mem_cons.mp hb with rfl | hb
  · have hself : cmp b b = .eq := Std.ReflCmp.compare_self
    exact Ordering.isLE_of_eq_eq hself
  · exact List.rel_of_pairwise_cons h hb

lemma eq_of_ordered {l k : List α} (hl : l.Pairwise fun a b => (cmp a b).isLE = true)
    (hk : k.Pairwise fun a b => (cmp a b).isLE = true) (hperm : l.Perm k)
    (hsame : ∀ a, l.filter (fun b => cmp a b == .eq) = k.filter fun b => cmp a b == .eq) : l = k := by
  induction l generalizing k with
  | nil => exact hperm.nil_eq
  | cons a l ih =>
    cases k with
    | nil => exact absurd hperm.eq_nil (List.cons_ne_nil a l)
    | cons b k =>
      have hself : cmp a a = .eq := Std.ReflCmp.compare_self
      -- Each of the first elements stands before the other one, so both are first of the same equals.
      have hab : cmp a b = .eq := Std.OrientedCmp.isLE_antisymm
        (isLE_head hl (hperm.mem_iff.mpr List.mem_cons_self))
        (isLE_head hk (hperm.mem_iff.mp List.mem_cons_self))
      have hequals := hsame a
      simp only [List.filter_cons, hself, hab, BEq.rfl, if_true] at hequals
      obtain ⟨rfl, -⟩ := List.cons.inj hequals
      refine congrArg (a :: ·) <| ih hl.tail hk.tail hperm.cons_inv fun c => ?_
      have hc := hsame c
      rw [List.filter_cons, List.filter_cons] at hc
      split at hc
      · exact (List.cons.inj hc).2
      · exact hc

lemma Arranges.unique {l k k' : List α} (h : Arranges cmp l k) (h' : Arranges cmp l k') : k = k' :=
  eq_of_ordered h.ordered h'.ordered (h.perm.trans h'.perm.symm) fun a =>
    (h.stable a).trans (h'.stable a).symm

lemma pairwise_equals (a : α) (l : List α) :
    (l.filter fun b => cmp a b == .eq).Pairwise fun b c => (cmp b c).isLE = true := by
  refine List.pairwise_of_forall_mem_list fun b hb c hc => ?_
  have hab : cmp a b = .eq := beq_iff_eq.mp (List.mem_filter.mp hb).2
  have hac : cmp a c = .eq := beq_iff_eq.mp (List.mem_filter.mp hc).2
  exact Ordering.isLE_of_eq_eq (Std.TransCmp.eq_trans (Std.OrientedCmp.eq_symm hab) hac)

lemma arranges_mergeSort (l : List α) : Arranges cmp l (l.mergeSort fun a b => (cmp a b).isLE) where
  perm := List.mergeSort_perm l _
  ordered := pairwise_sorted l
  stable a := by rw [filter_sorted, List.mergeSort_of_pairwise (pairwise_equals a l)]

end Arranged

/-- A stable sort. It may give up (`none`) if the comparison is no total preorder. -/
structure StableSort where
  run {α : Type} : (α → α → Ordering) → List α → Option (List α)
  arranges {α : Type} (cmp : α → α → Ordering) [Std.TransCmp cmp] (l : List α) :
    ∃ k, run cmp l = some k ∧ Arranges cmp l k

namespace StableSort

lemma run_eq (sort : StableSort) {α : Type} (cmp : α → α → Ordering) [Std.TransCmp cmp] (l : List α) :
    sort.run cmp l = some (l.mergeSort fun a b => (cmp a b).isLE) := by
  obtain ⟨k, hrun, hk⟩ := sort.arranges cmp l
  rw [hrun, hk.unique (arranges_mergeSort l)]

def checked : StableSort where
  run cmp l :=
    let sorted := l.mergeSort fun a b => (cmp a b).isLE
    if sorted.Pairwise fun a b => (cmp a b).isLE = true ∧ (cmp b a).isGE = true then some sorted else none
  arranges cmp _ l := by
    refine ⟨_, if_pos ?_, arranges_mergeSort l⟩
    exact (pairwise_sorted l).imp fun h => ⟨h, Std.OrientedCmp.isGE_iff_isLE.mpr h⟩

-- A comparison that leads round in a circle is noticed.
example : checked.run (fun a b : Fin 3 => if a = b then .eq else if a + 1 = b then .lt else .gt)
    [0, 1, 2] = none := by cbv

end StableSort

end Referent
