import Mathlib.Data.List.Chain
import Mathlib.Tactic.Common
import Referent.Unicode.CharSet

namespace Referent.Unicode.CharSet

def Covers (ranges : List (Nat × Nat)) (code : Nat) : Prop := ∃ r ∈ ranges, r.1 ≤ code ∧ code ≤ r.2

instance (ranges : List (Nat × Nat)) (code : Nat) : Decidable (Covers ranges code) :=
  decidable_of_iff ((ranges.any fun r => r.1 ≤ code && code ≤ r.2) = true) (by simp [Covers])

structure Spaced (ranges : List (Nat × Nat)) : Prop where
  ordered : ∀ r ∈ ranges, r.1 ≤ r.2
  apart : ranges.Pairwise fun r s => r.2 + 1 < s.1

variable {ranges sorted : List (Nat × Nat)} {code low high fuel i j : Nat} {r s : Nat × Nat}

lemma covers_cons : Covers (r :: ranges) code ↔ (r.1 ≤ code ∧ code ≤ r.2) ∨ Covers ranges code := by
  simp [Covers]

lemma Spaced.lt (h : Spaced ranges) (hr : ranges[i]? = some r) (hs : ranges[j]? = some s) (hij : i < j) :
    r.2 < s.1 := by
  obtain ⟨hi, rfl⟩ := List.getElem?_eq_some_iff.mp hr
  obtain ⟨hj, rfl⟩ := List.getElem?_eq_some_iff.mp hs
  have hgap := List.pairwise_iff_getElem.mp h.apart i j hi hj hij
  omega

lemma searchFrom_iff (h : Spaced ranges) (hhigh : high ≤ ranges.length) (hfuel : high < low + fuel) :
    searchFrom ranges.toArray code fuel low high = true ↔
      ∃ i r, ranges[i]? = some r ∧ low ≤ i ∧ i < high ∧ r.1 ≤ code ∧ code ≤ r.2 := by
  induction fuel generalizing low high with
  | zero =>
    refine iff_of_false Bool.false_ne_true ?_
    rintro ⟨i, r, _, hlow, hi, _⟩
    omega
  | succ fuel ih =>
    by_cases hlt : low < high
    · obtain ⟨m, hm⟩ : ∃ m, ranges[(low + high) / 2]? = some m :=
        ⟨_, List.getElem?_eq_getElem (by omega)⟩
      have horder := h.ordered m (List.mem_of_getElem? hm)
      rw [searchFrom, if_pos hlt]
      simp only [List.getElem?_toArray, hm]
      split
      · rw [ih (by omega) (by omega)]
        refine ⟨?_, ?_⟩
        · rintro ⟨i, r, hr, hlow, hi, hcode⟩
          exact ⟨i, r, hr, hlow, by omega, hcode⟩
        · rintro ⟨i, r, hr, hlow, hi, hcode⟩
          refine ⟨i, r, hr, hlow, ?_, hcode⟩
          by_contra hge
          rcases Nat.eq_or_lt_of_le (Nat.not_lt.mp hge) with heq | hgt
          · rw [heq, hr] at hm
            obtain rfl := Option.some.inj hm
            omega
          · have hgap := h.lt hm hr hgt
            omega
      · split
        · rw [ih hhigh (by omega)]
          refine ⟨?_, ?_⟩
          · rintro ⟨i, r, hr, hlow, hi, hcode⟩
            exact ⟨i, r, hr, by omega, hi, hcode⟩
          · rintro ⟨i, r, hr, hlow, hi, hcode⟩
            refine ⟨i, r, hr, ?_, hi, hcode⟩
            by_contra hle
            rcases Nat.eq_or_lt_of_le (Nat.lt_succ_iff.mp (Nat.not_le.mp hle)) with heq | hgt
            · rw [← heq, hr] at hm
              obtain rfl := Option.some.inj hm
              omega
            · have hgap := h.lt hr hm hgt
              omega
        · exact iff_of_true rfl ⟨_, m, hm, by omega, by omega, by omega, by omega⟩
    · rw [searchFrom, if_neg hlt]
      refine iff_of_false Bool.false_ne_true ?_
      rintro ⟨i, r, _, hlow, hi, _⟩
      omega

lemma containsCode_iff (h : Spaced ranges) : containsCode ⟨ranges.toArray⟩ code = true ↔
    Covers ranges code := by
  rw [containsCode, List.size_toArray, searchFrom_iff h (Nat.le_refl _) (by omega)]
  constructor
  · rintro ⟨i, r, hr, _, _, hcode⟩
    exact ⟨r, List.mem_of_getElem? hr, hcode⟩
  · rintro ⟨r, hr, hcode⟩
    obtain ⟨i, hi⟩ := List.mem_iff_getElem?.mp hr
    exact ⟨i, r, hi, Nat.zero_le i, (List.getElem?_eq_some_iff.mp hi).1, hcode⟩

lemma contains_iff {s : CharSet} {c : Char} (h : Spaced s.ranges.toList) :
    s.contains c = true ↔ Covers s.ranges.toList c.toNat := by
  have hranges : containsCode ⟨s.ranges.toList.toArray⟩ c.toNat = true ↔ _ := containsCode_iff h
  rwa [Array.toArray_toList] at hranges

def Precedes (r s : Nat × Nat) : Prop := r.1 ≤ r.2 ∧ r.2 + 1 < s.1

instance (r s : Nat × Nat) : Decidable (Precedes r s) := inferInstanceAs (Decidable (_ ∧ _))

instance : IsTrans (Nat × Nat) Precedes where
  trans r s t h h' := ⟨h.1, by have hs := h'.1; have hr := h.2; have ht := h'.2; omega⟩

lemma spaced_of_isChain {ranges : List (Nat × Nat)} (h : ranges.IsChain Precedes)
    (hlast : ∀ r ∈ ranges.getLast?, r.1 ≤ r.2) : Spaced ranges := by
  have hpairwise := List.isChain_iff_pairwise.mp h
  refine ⟨fun r hr => ?_, hpairwise.imp And.right⟩
  obtain ⟨before, after, rfl⟩ := List.append_of_mem hr
  cases after with
  | nil => exact hlast r (by simp)
  | cons s after =>
    obtain ⟨_, hbehind, _⟩ := List.pairwise_append.mp hpairwise
    exact ((List.pairwise_cons.mp hbehind).1 s List.mem_cons_self).1

def grow (grown : List (Nat × Nat)) (r : Nat × Nat) : List (Nat × Nat) :=
  match grown with
  | [] => [r]
  | q :: more => if r.1 ≤ q.2 + 1 then (q.1, max q.2 r.2) :: more else r :: grown

structure Grown (grown : List (Nat × Nat)) (start : Nat) : Prop where
  ordered : ∀ r ∈ grown, r.1 ≤ r.2 ∧ r.1 ≤ start
  apart : grown.Pairwise fun r s => s.2 + 1 < r.1

lemma Grown.grow {grown : List (Nat × Nat)} {start : Nat} (h : Grown grown start) (hr : r.1 ≤ r.2)
    (hstart : start ≤ r.1) (code : Nat) : Grown (grow grown r) r.1 ∧
      (Covers (CharSet.grow grown r) code ↔ Covers grown code ∨ (r.1 ≤ code ∧ code ≤ r.2)) := by
  cases grown with
  | nil =>
    refine ⟨⟨by simp [CharSet.grow, hr], by simp [CharSet.grow]⟩, ?_⟩
    simp [CharSet.grow, Covers]
  | cons q more =>
    obtain ⟨hq, hmore⟩ := List.forall_mem_cons.mp h.ordered
    obtain ⟨hapart, hrest⟩ := List.pairwise_cons.mp h.apart
    rw [CharSet.grow]
    split
    · refine ⟨⟨?_, ?_⟩, ?_⟩
      · refine List.forall_mem_cons.mpr ⟨⟨by dsimp only; omega, by dsimp only; omega⟩, fun s hs => ?_⟩
        exact ⟨(hmore s hs).1, Nat.le_trans (hmore s hs).2 hstart⟩
      · exact List.pairwise_cons.mpr ⟨hapart, hrest⟩
      · rw [covers_cons, covers_cons]
        dsimp only
        by_cases hin : Covers more code
        · simp [hin]
        · simp only [hin, or_false]
          omega
    · refine ⟨⟨?_, ?_⟩, ?_⟩
      · refine List.forall_mem_cons.mpr ⟨⟨hr, Nat.le_refl _⟩, fun s hs => ?_⟩
        exact ⟨(h.ordered s hs).1, Nat.le_trans (h.ordered s hs).2 hstart⟩
      · refine List.pairwise_cons.mpr ⟨fun s hs => ?_, h.apart⟩
        rcases List.mem_cons.mp hs with rfl | hs
        · omega
        · have hgap := hapart s hs
          omega
      · rw [covers_cons, or_comm]

lemma Grown.foldl {grown : List (Nat × Nat)} {start : Nat} (h : Grown grown start)
    (hordered : ∀ r ∈ sorted, r.1 ≤ r.2) (hstart : ∀ r ∈ sorted, start ≤ r.1)
    (hsorted : sorted.Pairwise fun r s => r.1 ≤ s.1) (code : Nat) :
    (∃ start, Grown (sorted.foldl CharSet.grow grown) start) ∧
      (Covers (sorted.foldl CharSet.grow grown) code ↔ Covers grown code ∨ Covers sorted code) := by
  induction sorted generalizing grown start with
  | nil => exact ⟨⟨start, h⟩, by simp [Covers]⟩
  | cons r rest ih =>
    obtain ⟨hr, hordered⟩ := List.forall_mem_cons.mp hordered
    obtain ⟨hlater, hsorted⟩ := List.pairwise_cons.mp hsorted
    obtain ⟨hgrown, hcovers⟩ := h.grow hr (hstart r List.mem_cons_self) code
    obtain ⟨hall, hcovered⟩ := ih hgrown hordered hlater hsorted
    exact ⟨hall, by rw [List.foldl_cons, hcovered, hcovers, covers_cons, or_assoc]⟩

lemma exists_ofRanges (ranges : List (Nat × Nat)) : ∃ spaced, ofRanges ranges = ⟨spaced.toArray⟩ ∧
    Spaced spaced ∧ ∀ code, Covers spaced code ↔ Covers ranges code := by
  let sorted := (ranges.filter fun r => r.1 ≤ r.2).mergeSort fun a b => a.1 ≤ b.1
  have hmem (r : Nat × Nat) : r ∈ sorted ↔ r ∈ ranges ∧ r.1 ≤ r.2 := by
    simp [sorted, List.mem_mergeSort]
  have hsorted : sorted.Pairwise fun r s => r.1 ≤ s.1 := by
    have hpairwise : sorted.Pairwise fun a b => decide (a.1 ≤ b.1) = true := List.pairwise_mergeSort
      (fun a b c hab hbc => by simp at *; omega) (fun a b => by simp; omega)
      (ranges.filter fun r => r.1 ≤ r.2)
    exact hpairwise.imp of_decide_eq_true
  have hnone : Grown [] 0 := ⟨by simp, by simp⟩
  have hfoldl := hnone.foldl (fun r hr => ((hmem r).mp hr).2) (fun r _ => Nat.zero_le r.1) hsorted
  obtain ⟨start, hgrown⟩ := (hfoldl 0).1
  refine ⟨(sorted.foldl grow []).reverse, rfl, ⟨?_, ?_⟩, fun code => ?_⟩
  · exact fun r hr => (hgrown.ordered r (List.mem_reverse.mp hr)).1
  · exact List.pairwise_reverse.mpr hgrown.apart
  · have hcovers : Covers (sorted.foldl grow []).reverse code ↔ Covers (sorted.foldl grow []) code := by
      simp [Covers]
    rw [hcovers, (hfoldl code).2]
    constructor
    · rintro (⟨r, hr, _⟩ | ⟨r, hr, hcode⟩)
      · exact absurd hr List.not_mem_nil
      · exact ⟨r, ((hmem r).mp hr).1, hcode⟩
    · rintro ⟨r, hr, hcode⟩
      exact .inr ⟨r, (hmem r).mpr ⟨hr, Nat.le_trans hcode.1 hcode.2⟩, hcode⟩

theorem containsCode_ofRanges : (ofRanges ranges).containsCode code = true ↔ Covers ranges code := by
  obtain ⟨spaced, heq, hspaced, hcovers⟩ := exists_ofRanges ranges
  rw [heq, containsCode_iff hspaced, hcovers]

lemma covers_ofRanges : Covers (ofRanges ranges).ranges.toList code ↔ Covers ranges code := by
  obtain ⟨spaced, heq, _, hcovers⟩ := exists_ofRanges ranges
  rw [heq, ← hcovers]

lemma covers_flatMap {sets : List CharSet} : Covers (sets.flatMap fun s => s.ranges.toList) code ↔
    ∃ s ∈ sets, Covers s.ranges.toList code := by
  simp only [Covers, List.mem_flatMap]
  tauto

lemma containsCode_unions {sets : List CharSet} : (unions sets).containsCode code = true ↔
    ∃ s ∈ sets, Covers s.ranges.toList code := by
  rw [unions, containsCode_ofRanges, covers_flatMap]

lemma covers_unions {sets : List CharSet} : Covers (unions sets).ranges.toList code ↔
    ∃ s ∈ sets, Covers s.ranges.toList code := by
  rw [unions, covers_ofRanges, covers_flatMap]

end Referent.Unicode.CharSet
