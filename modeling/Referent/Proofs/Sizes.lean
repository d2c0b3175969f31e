import Referent.Proofs.Except
import Referent.Proofs.Ranges
import Referent.Proofs.StableSort
import Referent.Scope.Iteration
import Referent.Scope.Walk

namespace Referent

namespace Range

variable {r s : Range} {l : List Range}

lemma then_compare_eq_lt : ((compare r.stop s.stop).then (compare s.start r.start)) = .lt ↔
    r.stop < s.stop ∨ r.stop = s.stop ∧ s.start < r.start := by
  rw [Ordering.then_eq_lt, Position.compare_eq_lt, Position.compare_eq_eq, Position.compare_eq_lt]

lemma then_compare_eq_gt : ((compare r.stop s.stop).then (compare s.start r.start)) = .gt ↔
    s.stop < r.stop ∨ s.stop = r.stop ∧ r.start < s.start := by
  rw [Ordering.then_eq_gt, Std.OrientedCmp.gt_iff_lt, Position.compare_eq_lt, Position.compare_eq_eq,
    Std.OrientedCmp.gt_iff_lt, Position.compare_eq_lt, eq_comm]

lemma stop_lt_or_start_lt (h : s.containsRange r = true) (hne : r ≠ s) :
    r.stop < s.stop ∨ r.stop = s.stop ∧ s.start < r.start := by
  rw [containsRange_iff] at h
  by_cases hstop : s.stop ≤ r.stop
  · have heq := Position.le_antisymm h.2 hstop
    refine .inr ⟨heq, Position.not_le.mp fun hle => hne ?_⟩
    exact ext_iff'.mpr ⟨Position.le_antisymm hle h.1, heq⟩
  · exact .inl (Position.not_le.mp hstop)

lemma compareSize_eq (r s : Range) :
    r.compareSize s = (compare r.stop s.stop).then (compare s.start r.start) := by
  rw [compareSize]
  split
  · next heq =>
    subst heq
    exact (Ordering.then_eq_eq.mpr ⟨Position.compare_eq_eq.mpr rfl, Position.compare_eq_eq.mpr rfl⟩).symm
  · next hne =>
    split
    · next hin => exact (then_compare_eq_lt.mpr (stop_lt_or_start_lt hin hne)).symm
    · next hout =>
      split
      · next hin => exact (then_compare_eq_gt.mpr (stop_lt_or_start_lt hin (Ne.symm hne))).symm
      · next hout' =>
        rw [containsRange_iff] at hout hout'
        cases hcompare : compare r.start s.start with
        | lt =>
          have hlt := Position.compare_eq_lt.mp hcompare
          refine (then_compare_eq_lt.mpr (.inl (Position.not_le.mp fun hle => hout' ?_))).symm
          exact ⟨Position.le_of_lt hlt, hle⟩
        | eq =>
          have heq := Position.compare_eq_eq.mp hcompare
          rcases Position.le_total r.stop s.stop with hle | hle
          · exact absurd ⟨heq ▸ Position.le_refl _, hle⟩ hout
          · exact absurd ⟨heq ▸ Position.le_refl _, hle⟩ hout'
        | gt =>
          have hlt := Position.compare_eq_lt.mp (Std.OrientedCmp.gt_iff_lt.mp hcompare)
          refine (then_compare_eq_gt.mpr (.inl (Position.not_le.mp fun hle => hout ?_))).symm
          exact ⟨Position.le_of_lt hlt, hle⟩

instance : Std.TransCmp compareSize := by
  have heq : compareSize = fun r s : Range => (compare r.stop s.stop).then (compare s.start r.start) :=
    funext fun r => funext fun s => compareSize_eq r s
  rw [heq]
  infer_instance

lemma compareSize_eq_eq : r.compareSize s = .eq ↔ r = s := by
  rw [compareSize_eq, Ordering.then_eq_eq, Position.compare_eq_eq, Position.compare_eq_eq, ext_iff', and_comm,
    eq_comm (a := s.start)]

lemma compareSize_eq_gt (h : r.strictlyContainsRange s = true) : r.compareSize s = .gt := by
  obtain ⟨hcontains, hne⟩ := strictlyContainsRange_iff.mp h
  rw [compareSize_eq, then_compare_eq_gt]
  exact stop_lt_or_start_lt hcontains (Ne.symm hne)

lemma outward_of_sorted (h : l.Pairwise fun a b => (a.compareSize b).isLE = true) :
    l.Pairwise fun a b => ¬a.strictlyContainsRange b = true := by
  refine h.imp fun {a b} hle hstrict => ?_
  rw [compareSize_eq_gt hstrict] at hle
  exact Bool.noConfusion hle

def InnerFirst (l : List Range) : Prop :=
  ∀ (i j : Nat) (r s : Range), l[i]? = some r → l[j]? = some s →
    s.strictlyContainsRange r = true → i < j

lemma innerFirst_of_outward (h : l.Pairwise fun a b => ¬a.strictlyContainsRange b = true) :
    InnerFirst l := by
  intro i j r s hi hj hstrict
  refine Nat.lt_of_not_le fun hle => ?_
  rcases Nat.eq_or_lt_of_le hle with rfl | hlt
  · have heq : s = r := Option.some.inj (hj.symm.trans hi)
    exact (strictlyContainsRange_iff.mp hstrict).2 heq
  · obtain ⟨hr, rfl⟩ := List.getElem?_eq_some_iff.mp hi
    obtain ⟨hs, rfl⟩ := List.getElem?_eq_some_iff.mp hj
    exact List.pairwise_iff_getElem.mp h j i hs hr hlt hstrict

end Range

instance : Std.TransCmp fun a b : Scope => a.domain.compareSize b.domain where
  eq_swap := Std.OrientedCmp.eq_swap
  isLE_trans := Std.TransCmp.isLE_trans

namespace ScopeFinder

variable {domains domains' : List Range} {d whole : Range} {f : ScopeFinder} {cx : Context} {e : Editor}
  {p : Position} {direction : Direction} {scopes : List Scope}

lemma mem_sortDomains : d ∈ sortDomains domains ↔ d ∈ domains := List.mem_mergeSort

lemma outward_sortDomains (domains : List Range) :
    (sortDomains domains).Pairwise fun a b => ¬a.strictlyContainsRange b = true :=
  Range.outward_of_sorted (pairwise_sorted domains)

lemma getLast?_sortDomains (hmem : whole ∈ domains)
    (hwithin : ∀ d ∈ domains, whole.containsRange d = true) :
    (sortDomains domains).getLast? = some whole := by
  have houtward := outward_sortDomains domains
  rw [← mem_sortDomains] at hmem
  rcases List.eq_nil_or_concat' (sortDomains domains) with hnil | ⟨front, last, heq⟩
  · rw [hnil] at hmem
    cases hmem
  · have hlast : whole.containsRange last = true := hwithin last (mem_sortDomains.mp (by simp [heq]))
    rw [heq, List.mem_append, List.mem_singleton] at hmem
    rw [heq, List.getLast?_concat]
    rcases hmem with hfront | rfl
    · rw [heq] at houtward
      have hnot := (List.pairwise_append.mp houtward).2.2 whole hfront last (List.mem_singleton_self _)
      rw [Range.eq_of_not_strictlyContainsRange hlast hnot]
    · rfl

lemma sortDomains_perm (h : domains.Perm domains') : sortDomains domains = sortDomains domains' := by
  have hperm : (sortDomains domains).Perm (sortDomains domains') :=
    (List.mergeSort_perm domains _).trans (h.trans (List.mergeSort_perm domains' _).symm)
  refine hperm.eq_of_pairwise (fun a b _ _ hab hba => ?_) (pairwise_sorted domains) (pairwise_sorted domains')
  exact Range.compareSize_eq_eq.mp (Std.OrientedCmp.isLE_antisymm hab hba)

lemma walk_required (f : ScopeFinder) (cx : Context) (e : Editor) (p : Position) (direction : Direction) :
    f.walk cx e p direction (some .required) =
      (f.candidates cx e (ahead e.document direction p)).map fun found =>
        (found.filter fun s => isAhead direction p s && isAllowed (some .required) p s).mergeSort
          fun a b => (a.domain.compareSize b.domain).isLE := by
  rw [walk]
  cases f.candidates cx e (ahead e.document direction p) with
  | error err => rfl
  | ok found => rfl

lemma innerFirst_walk (h : f.walk cx e p direction (some .required) = .ok scopes) :
    Range.InnerFirst (scopes.map Scope.domain) := by
  rw [walk_required] at h
  obtain ⟨found, -, rfl⟩ := map_eq_ok.mp h
  exact Range.innerFirst_of_outward (Range.outward_of_sorted (List.pairwise_map.mpr (pairwise_sorted _)))

/-- The order by size is a total order of ranges in which each one comes before those that strictly contain
it. No stable sort gives up on it, and all of them make the same of domains and of the scopes around
a position: the inner ones come first. -/
theorem sorted_bySize :
    (∀ r s t : Range, s.compareSize r = (r.compareSize s).swap ∧
      ((r.compareSize s).isLE = true → (s.compareSize t).isLE = true → (r.compareSize t).isLE = true) ∧
      (r.compareSize s = .eq ↔ r = s) ∧ (s.strictlyContainsRange r = true → r.compareSize s = .lt)) ∧
    (∀ domains : List Range, Range.InnerFirst (sortDomains domains) ∧
      (∀ domains', domains'.Perm domains → sortDomains domains' = sortDomains domains) ∧
      ∀ sort : StableSort, sort.run Range.compareSize domains = some (sortDomains domains)) ∧
    ∀ (f : ScopeFinder) (cx : Context) (e : Editor) (p : Position) (direction : Direction),
      (∀ scopes, f.walk cx e p direction (some .required) = .ok scopes →
        Range.InnerFirst (scopes.map Scope.domain)) ∧
      ∀ sort : StableSort, (f.walk cx e p direction (some .required)).map some =
        (f.candidates cx e (ahead e.document direction p)).map fun found =>
          sort.run (fun a b => a.domain.compareSize b.domain)
            (found.filter fun s => isAhead direction p s && isAllowed (some .required) p s) := by
  refine ⟨fun r s t => ⟨Std.OrientedCmp.eq_swap, Std.TransCmp.isLE_trans, Range.compareSize_eq_eq, ?_⟩,
    fun domains => ⟨?_, fun domains' => sortDomains_perm, fun sort => sort.run_eq _ domains⟩,
    fun f cx e p direction => ⟨fun scopes => innerFirst_walk, fun sort => ?_⟩⟩
  · exact fun hstrict => Std.OrientedCmp.gt_iff_lt.mp (Range.compareSize_eq_gt hstrict)
  · exact Range.innerFirst_of_outward (outward_sortDomains domains)
  · rw [walk_required]
    cases f.candidates cx e (ahead e.document direction p) with
    | error err => rfl
    | ok found => exact congrArg Except.ok (sort.run_eq _ _).symm

theorem sorted_bySize_crossing :
    let domains : List Range :=
      [.onLine 0 0 9, .onLine 0 4 8, .onLine 0 6 8, .onLine 0 2 6, .onLine 0 4 4]
    let outward : List Range :=
      [.onLine 0 4 4, .onLine 0 2 6, .onLine 0 6 8, .onLine 0 4 8, .onLine 0 0 9]
    sortDomains domains = outward ∧ Range.InnerFirst outward ∧
      StableSort.checked.run Range.compareSize domains = some outward ∧
      (Range.onLine 0 0 9).strictlyContainsRange (.onLine 0 4 8) = true ∧
      (Range.onLine 0 4 8).compareSize (.onLine 0 0 9) = .lt := by
  intro domains outward
  have hsorted : sortDomains domains = outward := sorted_eq (by decide) (by decide)
  have hstrict : (Range.onLine 0 0 9).strictlyContainsRange (.onLine 0 4 8) = true := by decide
  obtain ⟨hlaws, hdomains, -⟩ := sorted_bySize
  obtain ⟨hfirst, -, hrun⟩ := hdomains domains
  rw [hsorted] at hfirst hrun
  exact ⟨hsorted, hfirst, hrun .checked, hstrict, (hlaws _ _ (.onLine 0 0 9)).2.2.2 hstrict⟩

end ScopeFinder

end Referent
