import Mathlib.Tactic.Common
import Mathlib.Data.Fintype.Card
import Mathlib.Logic.Relation
import Referent.Target.Arena

namespace Referent.Arena

variable {a c : Arena} {r s t : Target}

@[simp] lemma size_push : (a.push t).size = a.size + 1 := Array.size_push ..

lemma get?_push (i : Nat) : (a.push t).get? i = if i = a.size then some t else a.get? i :=
  Array.getElem?_push

lemma get?_eq_some_lt {i : Nat} (h : a.get? i = some t) : i < a.size :=
  (Array.getElem?_eq_some_iff.mp h).1

lemma exists_get? {i : Nat} (h : i < a.size) : ∃ t, a.get? i = some t :=
  ⟨a.targets[i], Array.getElem?_eq_getElem h⟩

lemma source?_eq_some : a.source? t = some s ↔ ∃ i, t.that = some i ∧ a.get? i = some s :=
  Option.bind_eq_some_iff

def Ends (a : Arena) : Nat → Target → Target → Prop
  | 0, t, r => t = r ∧ a.source? t = none
  | n + 1, t, r => ∃ s, a.source? t = some s ∧ a.Ends n s r

lemma Ends.source? {n : Nat} (h : a.Ends n t r) : a.source? r = none := by
  induction n generalizing t with
  | zero =>
    obtain ⟨rfl, hsource⟩ := h
    exact hsource
  | succ n ih =>
    obtain ⟨s, _, hs⟩ := h
    exact ih hs

lemma Ends.unique {m n : Nat} {r' : Target} (h : a.Ends n t r) (h' : a.Ends m t r') :
    n = m ∧ r = r' := by
  induction n generalizing m t with
  | zero =>
    obtain ⟨rfl, hsource⟩ := h
    cases m with
    | zero => exact ⟨rfl, h'.1⟩
    | succ m =>
      obtain ⟨s, hs, _⟩ := h'
      rw [hsource] at hs
      cases hs
  | succ n ih =>
    obtain ⟨s, hs, hends⟩ := h
    cases m with
    | zero =>
      rw [h'.2] at hs
      cases hs
    | succ m =>
      obtain ⟨s', hs', hends'⟩ := h'
      rw [hs] at hs'
      cases hs'
      obtain ⟨rfl, rfl⟩ := ih hends hends'
      exact ⟨rfl, rfl⟩

lemma Ends.exists_entry {n m : Nat} (h : a.Ends n t r) (hm : m < n) :
    ∃ i s, a.get? i = some s ∧ a.Ends m s r := by
  induction n generalizing t with
  | zero => omega
  | succ n ih =>
    obtain ⟨s, hs, hends⟩ := h
    obtain ⟨i, _, hi⟩ := source?_eq_some.mp hs
    rcases Nat.lt_succ_iff_lt_or_eq.mp hm with hm | rfl
    · exact ih hends hm
    · exact ⟨i, s, hi, hends⟩

lemma Ends.le_size {n : Nat} (h : a.Ends n t r) : n ≤ a.size := by
  -- Different numbers of steps are left at the entries on the way, so these are different too.
  choose entry target hentry hends using fun m : Fin n => h.exists_entry m.isLt
  have hinjective : Function.Injective fun m : Fin n =>
      (⟨entry m, get?_eq_some_lt (hentry m)⟩ : Fin a.size) := by
    intro m m' heq
    have hi : entry m = entry m' := congrArg Fin.val heq
    have htarget : target m = target m' := by
      have hm := hentry m
      rw [hi, hentry m'] at hm
      exact (Option.some.inj hm).symm
    have hm := hends m
    rw [htarget] at hm
    exact Fin.ext (hm.unique (hends m')).1
  simpa only [Fintype.card_fin] using Fintype.card_le_of_injective _ hinjective

lemma rootFrom_eq_some {fuel : Nat} :
    a.rootFrom fuel t = some r ↔ ∃ n ≤ fuel, a.Ends n t r := by
  induction fuel generalizing t with
  | zero =>
    rw [rootFrom]
    constructor
    · intro h
      obtain ⟨hsource, h⟩ := Option.ite_none_left_eq_some.mp h
      exact ⟨0, Nat.le_refl _, Option.some.inj h, by simpa using hsource⟩
    · rintro ⟨n, hn, hends⟩
      obtain rfl : n = 0 := by omega
      obtain ⟨rfl, hsource⟩ := hends
      simp [hsource]
  | succ fuel ih =>
    rw [rootFrom]
    cases hs : a.source? t with
    | none =>
      constructor
      · intro h
        exact ⟨0, Nat.zero_le _, Option.some.inj h, hs⟩
      · rintro ⟨n, _, hends⟩
        exact congrArg some (Ends.unique (n := 0) ⟨rfl, hs⟩ hends).2
    | some s =>
      refine ih.trans ⟨?_, ?_⟩
      · rintro ⟨n, hn, hends⟩
        exact ⟨n + 1, Nat.succ_le_succ hn, s, hs, hends⟩
      · rintro ⟨n, hn, hends⟩
        cases n with
        | zero =>
          rw [hends.2] at hs
          cases hs
        | succ n =>
          obtain ⟨s', hs', hends⟩ := hends
          rw [hs] at hs'
          cases hs'
          exact ⟨n, Nat.le_of_succ_le_succ hn, hends⟩

lemma root?_eq_some : a.root? t = some r ↔ ∃ n, a.Ends n t r := by
  refine rootFrom_eq_some.trans ⟨?_, ?_⟩
  · rintro ⟨n, _, hends⟩
    exact ⟨n, hends⟩
  · rintro ⟨n, hends⟩
    exact ⟨n, hends.le_size, hends⟩

def Inferred (a : Arena) : Target → Target → Prop :=
  Relation.ReflTransGen fun t s => a.source? t = some s

theorem root?_eq_some_iff : a.root? t = some r ↔ a.Inferred t r ∧ a.source? r = none := by
  refine root?_eq_some.trans ⟨?_, ?_⟩
  · rintro ⟨n, hends⟩
    refine ⟨?_, hends.source?⟩
    induction n generalizing t with
    | zero =>
      obtain ⟨rfl, _⟩ := hends
      exact .refl
    | succ n ih =>
      obtain ⟨s, hs, hends⟩ := hends
      exact .head hs (ih hends)
  · rintro ⟨hway, hsource⟩
    induction hway using Relation.ReflTransGen.head_induction_on with
    | refl => exact ⟨0, rfl, hsource⟩
    | head hs _ ih =>
      obtain ⟨n, hends⟩ := ih
      exact ⟨n + 1, _, hs, hends⟩

def Links (a : Arena) (t : Target) : Prop := ∀ i ∈ t.that, i < a.size

def Closed (a : Arena) : Prop := ∀ i t, a.get? i = some t → ∀ j ∈ t.that, j < i

def Extends (c a : Arena) : Prop := ∀ i t, a.get? i = some t → c.get? i = some t

lemma links_of_none (h : t.that = none) : a.Links t := by
  simp [Links, h]

lemma closed_empty : Closed .empty := by
  intro i t h
  cases h

lemma Links.push (h : a.Links t) : (a.push s).Links t := fun i hi => by
  have hlt := h i hi
  rw [size_push]
  omega

lemma links_withThat (s t : Target) : (a.push s).Links (t.withThat a.size) := by
  rintro i ⟨⟩
  rw [size_push]
  exact Nat.lt_succ_self _

lemma Closed.push (h : a.Closed) (ht : a.Links t) : (a.push t).Closed := by
  intro i s hs j hj
  rw [get?_push] at hs
  split at hs
  · next hi =>
    cases hs
    rw [hi]
    exact ht j hj
  · exact h i s hs j hj

lemma Closed.links_of_get? (h : a.Closed) {i : Nat} (hs : a.get? i = some s) : a.Links s :=
  fun j hj => Nat.lt_trans (h i s hs j hj) (get?_eq_some_lt hs)

lemma Extends.refl (a : Arena) : a.Extends a := fun _ _ => id

lemma Extends.push (h : c.Extends a) (s : Target) : (c.push s).Extends a := by
  intro i t hi
  have hc := h i t hi
  rw [get?_push, if_neg (Nat.ne_of_lt (get?_eq_some_lt hc))]
  exact hc

lemma Extends.trans {b : Arena} (h : c.Extends b) (h' : b.Extends a) : c.Extends a :=
  fun i t hi => h i t (h' i t hi)

lemma Extends.links (h : c.Extends a) (ht : a.Links t) : c.Links t := by
  intro i hi
  obtain ⟨s, hs⟩ := exists_get? (ht i hi)
  exact get?_eq_some_lt (h i s hs)

lemma Extends.source? (h : c.Extends a) (ht : a.Links t) : c.source? t = a.source? t := by
  unfold Arena.source?
  cases hthat : t.that with
  | none => rfl
  | some i =>
    obtain ⟨s, hs⟩ := exists_get? (ht i hthat)
    exact (h i s hs).trans hs.symm

lemma Ends.extend {n : Nat} (h : a.Ends n t r) (ha : a.Closed) (ht : a.Links t)
    (hc : c.Extends a) : c.Ends n t r := by
  induction n generalizing t with
  | zero => exact ⟨h.1, (hc.source? ht).trans h.2⟩
  | succ n ih =>
    obtain ⟨s, hs, hends⟩ := h
    obtain ⟨i, _, hi⟩ := source?_eq_some.mp hs
    exact ⟨s, (hc.source? ht).trans hs, ih hends (ha.links_of_get? hi)⟩

end Referent.Arena
