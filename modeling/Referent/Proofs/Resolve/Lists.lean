import Mathlib.Tactic.Common
import Referent.Proofs.Resolve.Independence

namespace Referent

open Resolving

instance : EquivBEq Target where
  rfl {t} := by simp [Target.beq_def, Target.sameEditor]
  symm {s t} h := by
    simp only [Target.beq_def, Target.sameEditor, Bool.and_eq_true, beq_iff_eq] at h ⊢
    simp [h]
  trans {s t u} h h' := by
    simp only [Target.beq_def, Target.sameEditor, Bool.and_eq_true, beq_iff_eq] at h h' ⊢
    simp [h, h']

namespace TargetDescriptor

section Merge

variable (found : List Target)

lemma contains_addNew (t s : Target) :
    (addNew found t).contains s = (found.contains s || s == t) := by
  simp only [addNew]
  split
  · next hmem =>
    by_cases hst : (s == t) = true
    · rw [List.contains_congr hst, hmem, Bool.true_or]
    · simp [hst]
  · simp

lemma contains_foldl_addNew (l : List Target) (s : Target) :
    (l.foldl addNew found).contains s = (found.contains s || l.contains s) := by
  induction l generalizing found with
  | nil => simp
  | cons t l ih => rw [List.foldl_cons, ih, contains_addNew, List.contains_cons, Bool.or_assoc]

lemma foldl_addNew_addNew (l : List Target) (t : Target) :
    (addNew l t).foldl addNew found = addNew (l.foldl addNew found) t := by
  by_cases hmem : l.contains t = true
  · have hfound : (l.foldl addNew found).contains t = true := by
      rw [contains_foldl_addNew, hmem, Bool.or_true]
    rw [addNew, if_pos hmem, addNew, if_pos hfound]
  · rw [addNew, if_neg hmem, List.foldl_append, List.foldl_cons, List.foldl_nil]

lemma foldl_foldl_addNew (l k : List Target) :
    (k.foldl addNew l).foldl addNew found = k.foldl addNew (l.foldl addNew found) := by
  induction k generalizing l with
  | nil => rfl
  | cons t k ih => rw [List.foldl_cons, ih, foldl_addNew_addNew, List.foldl_cons]

lemma foldl_addNew_eq (l : List Target) :
    l.foldl addNew found = found ++ (l.filter fun t => !found.contains t).eraseDups := by
  induction l generalizing found with
  | nil => simp
  | cons t l ih =>
    rw [List.foldl_cons, ih]
    by_cases hmem : found.contains t = true
    · rw [addNew, if_pos hmem, List.filter_cons_of_neg (by simpa using hmem)]
    · have hrest : (l.filter fun s => !(found ++ [t]).contains s) =
          (l.filter fun s => !found.contains s).filter fun s => !s == t := by
        rw [List.filter_filter]
        apply List.filter_congr
        intro s _
        simp [Bool.and_comm]
      rw [addNew, if_neg hmem, List.filter_cons_of_pos (by simpa using hmem), List.eraseDups_cons,
        hrest, List.append_assoc, List.singleton_append]

lemma foldl_addNew_nil (l : List Target) : l.foldl addNew [] = l.eraseDups := by
  simp [foldl_addNew_eq]

lemma pairwise_foldl_addNew (l : List Target) (h : found.Pairwise fun s t => (s == t) = false) :
    (l.foldl addNew found).Pairwise fun s t => (s == t) = false := by
  induction l generalizing found with
  | nil => exact h
  | cons t l ih =>
    apply ih
    rw [addNew]
    split
    · exact h
    · next hnew =>
      refine List.pairwise_append.mpr ⟨h, List.pairwise_singleton _ _, fun s hs u hu => ?_⟩
      rw [List.mem_singleton.mp hu]
      apply Bool.eq_false_iff.mpr
      intro hst
      exact hnew (List.contains_iff_exists_mem_beq.mpr ⟨s, hs, BEq.symm hst⟩)

end Merge

mutual

def leaves : TargetDescriptor → List TargetDescriptor
  | list elements => leavesOfAll elements
  | primitive p => [primitive p]
  | range r => [range r]

def leavesOfAll : List TargetDescriptor → List TargetDescriptor
  | [] => []
  | d :: rest => leaves d ++ leavesOfAll rest

end

lemma leavesOfAll_eq_flatMap (ds : List TargetDescriptor) : leavesOfAll ds = ds.flatMap leaves := by
  induction ds with
  | nil => simp [leavesOfAll]
  | cons d ds ih => simp [leavesOfAll, ih]

lemma leaves_of_mem_leaves (d : TargetDescriptor) : ∀ c ∈ d.leaves, c.leaves = [c] := by
  induction d using TargetDescriptor.induction with
  | primitive p => simp [leaves]
  | range r => simp [leaves]
  | list elements ih =>
    intro c hc
    rw [leaves, leavesOfAll_eq_flatMap] at hc
    obtain ⟨d, hd, hc⟩ := List.mem_flatMap.mp hc
    exact ih d hd c hc

lemma leavesOfAll_leavesOfAll (ds : List TargetDescriptor) :
    leavesOfAll (leavesOfAll ds) = leavesOfAll ds := by
  have hall : ∀ c ∈ leavesOfAll ds, c.leaves = [c] := leaves_of_mem_leaves (list ds)
  rw [leavesOfAll_eq_flatMap (leavesOfAll ds)]
  conv_rhs => rw [← List.flatMap_singleton' (leavesOfAll ds)]
  exact List.flatMap_congr hall

variable (cx : Context) (options : ResolveOptions)

def merged (ds : List TargetDescriptor) (found : List Target) : Resolving (List Target) := do
  let ls ← resolveAll cx options ds
  return ls.flatten.foldl addNew found

lemma merged_singleton (d : TargetDescriptor) (found : List Target) :
    merged cx options [d] found = do
      let targets ← d.resolve cx options
      return targets.foldl addNew found := by
  simp [merged, resolveAll]

lemma merged_append (ds ds' : List TargetDescriptor) (found : List Target) :
    merged cx options (ds ++ ds') found = merged cx options ds found >>= merged cx options ds' := by
  simp only [merged, resolveAll, List.mapM_append, bind_assoc, pure_bind, List.flatten_append,
    List.foldl_append]

def AddsLeaves (d : TargetDescriptor) : Prop :=
  ∀ found, (do
    let targets ← d.resolve cx options
    return targets.foldl addNew found) = merged cx options d.leaves found

variable {cx options}

lemma resolveElements_eq {ds : List TargetDescriptor} (h : ∀ d ∈ ds, AddsLeaves cx options d)
    (found : List Target) :
    resolveElements cx options found ds = merged cx options (leavesOfAll ds) found := by
  induction ds generalizing found with
  | nil => simp [resolveElements, leavesOfAll, merged, resolveAll]
  | cons d rest ih =>
    rw [resolveElements, leavesOfAll, merged_append, ← h d List.mem_cons_self]
    simp only [bind_assoc, pure_bind]
    congr 1
    funext targets
    exact ih (fun c hc => h c (List.mem_cons_of_mem d hc)) _

lemma addsLeaves (d : TargetDescriptor) : AddsLeaves cx options d := by
  induction d using TargetDescriptor.induction with
  | primitive p =>
    intro found
    rw [leaves, merged_singleton]
  | range r =>
    intro found
    rw [leaves, merged_singleton]
  | list elements ih =>
    intro found
    rw [resolve, resolveElements_eq ih, leaves]
    simp only [merged, bind_assoc, pure_bind, foldl_foldl_addNew, List.foldl_nil]

lemma given_merged (ds : List TargetDescriptor) (found : List Target) (a : Arena) :
    (merged cx options ds found).given a =
      ((resolveAll cx options ds).given a).map fun ls => ls.flatten.foldl addNew found := by
  unfold merged given
  rcases h : (resolveAll cx options ds).outcome a with ⟨e | ls, c⟩
  · rw [outcome_bind_error _ h]
    rfl
  · rw [outcome_bind_ok _ h]
    rfl

lemma resolve_list_eq (elements : List TargetDescriptor) :
    (list elements).resolve cx options = merged cx options (leavesOfAll elements) [] := by
  rw [resolve, resolveElements_eq fun d _ => addsLeaves d]

/-- A list of descriptions stands for what its leaves stand for one after the other, each target only
where it comes first, and for nothing if one of them fails. -/
theorem resolve_list (cx : Context) (options : ResolveOptions) (elements : List TargetDescriptor) :
    (list elements).resolve cx options = (list (leavesOfAll elements)).resolve cx options ∧
      ((list elements).resolve cx options = do
        let ls ← resolveAll cx options (leavesOfAll elements)
        return ls.flatten.eraseDups) ∧
      ∀ a,
        let whole := ((list elements).resolve cx options).given a
        (∀ l, whole = .ok l → l.Pairwise fun s t => (s == t) = false) ∧
          ((∃ l, whole = .ok l) ↔
            ∀ d ∈ leavesOfAll elements, ∃ l, (d.resolve cx options).given .empty = .ok l) := by
  refine ⟨?_, ?_, fun a => ⟨?_, ?_⟩⟩
  · rw [resolve_list_eq, resolve_list_eq, leavesOfAll_leavesOfAll]
  · rw [resolve_list_eq]
    simp only [merged, foldl_addNew_nil]
  · intro l h
    rw [resolve_list_eq, given_merged] at h
    obtain ⟨ls, _, rfl⟩ := map_eq_ok.mp h
    exact pairwise_foldl_addNew _ _ List.Pairwise.nil
  · have hcollected := collected_resolveAll cx options (leavesOfAll elements) a
    rw [resolve_list_eq, given_merged]
    calc (∃ l, ((resolveAll cx options (leavesOfAll elements)).given a).map _ = .ok l)
      _ ↔ ∃ ls, (resolveAll cx options (leavesOfAll elements)).given a = .ok ls := exists_map_eq_ok
      _ ↔ ∀ d ∈ leavesOfAll elements, ∃ l, (d.resolve cx options).cores .empty = .ok l :=
        exists_map_eq_ok.symm.trans hcollected.exists_ok_iff
      _ ↔ _ := forall₂_congr fun d _ => exists_map_eq_ok

end TargetDescriptor

end Referent
