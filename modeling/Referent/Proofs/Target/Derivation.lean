import Mathlib.Tactic.Common
import Referent.Proofs.Target.Links

/-! Links that were left behind by an earlier arena. They mean nothing in the arena of a later run, which
is told apart here from those that the run has made by a second arena: that of the same run on targets
without links. -/

namespace Referent.Arena

variable {a g : Arena} {r r' s s' t t' e e' : Target} {stale : List (Option Nat)}

lemma source?_eq_none : a.source? t = none ↔ ∀ i ∈ t.that, a.size ≤ i := by
  unfold source?
  cases t.that with
  | none => simp
  | some i => simp [get?, size]

/-- Whether a target of an arena and its counterpart come, in any number of steps, from others, where
the links of the counterparts count. -/
inductive Derived (a g : Arena) : Target → Target → Target → Target → Prop
  | refl (t t' : Target) : Derived a g t t' t t'
  | step {i : Nat} {t t' s s' r r' : Target} (h : t'.that = some i) (hs : a.get? i = some s)
      (hs' : g.get? i = some s') (hr : Derived a g s s' r r') : Derived a g t t' r r'

/-- Whether the search for what a target was first inferred from comes to an end, at the target itself
or at one that it was derived from. -/
def Knows (a g : Arena) (t t' : Target) : Prop :=
  ∃ r r', a.root? t = some r ∧ a.Derived g t t' r r'

/-- A target has the link of its counterpart, or a stale one if that has none. -/
def Leaves (stale : List (Option Nat)) (t t' : Target) : Prop :=
  t.that = t'.that ∨ t'.that = none ∧ t.that ∈ stale

/-- An arena has the same entries as a closed one but for stale links. -/
structure Mirrors (stale : List (Option Nat)) (a g : Arena) : Prop where
  size : g.size = a.size
  closed : g.Closed
  entries : ∀ i s s', a.get? i = some s → g.get? i = some s' → Leaves stale s s'

lemma mirrors_empty : Mirrors stale .empty .empty where
  size := rfl
  closed := closed_empty
  entries := by
    intro i s s' h
    cases h

lemma Mirrors.push (h : Mirrors stale a g) (hl : g.Links s') (hs : Leaves stale s s') :
    Mirrors stale (a.push s) (g.push s') where
  size := by rw [size_push, size_push, h.size]
  closed := h.closed.push hl
  entries := by
    intro i t t' ht ht'
    rw [get?_push] at ht ht'
    rw [h.size] at ht'
    split at ht
    · next hi =>
      rw [if_pos hi] at ht'
      cases ht
      cases ht'
      exact hs
    · next hi =>
      rw [if_neg hi] at ht'
      exact h.entries i t t' ht ht'

lemma Leaves.that_eq {i : Nat} (h : Leaves stale t t') (ht : t'.that = some i) :
    t.that = some i := by
  rcases h with h | ⟨hnone, _⟩
  · exact h.trans ht
  · rw [hnone] at ht
    cases ht

lemma Derived.inferred (h : Derived a g t t' r r') (hm : Mirrors stale a g)
    (ht : Leaves stale t t') : a.Inferred t r ∧ Leaves stale r r' := by
  induction h with
  | refl t t' => exact ⟨.refl, ht⟩
  | step h hs hs' _ ih =>
    obtain ⟨hway, hr⟩ := ih (hm.entries _ _ _ hs hs')
    exact ⟨.head (source?_eq_some.mpr ⟨_, ht.that_eq h, hs⟩) hway, hr⟩

lemma Derived.continues (h : Derived a g t t' r r') (he : Derived a g t t' e e')
    (hend : e'.that = none) : Derived a g r r' e e' := by
  induction h with
  | refl t t' => exact he
  | step h hs hs' _ ih =>
    cases he with
    | refl =>
      rw [hend] at h
      cases h
    | step h₁ hs₁ hs₁' he =>
      rw [h₁] at h
      cases h
      rw [hs₁] at hs
      rw [hs₁'] at hs'
      cases hs
      cases hs'
      exact ih he

lemma Mirrors.exists_beginning (hm : Mirrors stale a g) (hl : g.Links t') (t : Target) :
    ∃ e e', Derived a g t t' e e' ∧ e'.that = none := by
  have hentry : ∀ i < a.size, ∃ s s', a.get? i = some s ∧ g.get? i = some s' ∧
      ∃ e e', Derived a g s s' e e' ∧ e'.that = none := by
    intro i
    induction i using Nat.strongRecOn with
    | ind i ih =>
      intro hi
      obtain ⟨s, hs⟩ := exists_get? hi
      obtain ⟨s', hs'⟩ := exists_get? (hm.size ▸ hi)
      refine ⟨s, s', hs, hs', ?_⟩
      cases hthat : s'.that with
      | none => exact ⟨s, s', .refl s s', hthat⟩
      | some j =>
        have hj := hm.closed i s' hs' j hthat
        obtain ⟨u, u', hu, hu', e, e', hderived, hend⟩ := ih j hj (Nat.lt_trans hj hi)
        exact ⟨e, e', .step hthat hu hu' hderived, hend⟩
  cases hthat : t'.that with
  | none => exact ⟨t, t', .refl t t', hthat⟩
  | some i =>
    obtain ⟨s, s', hs, hs', e, e', hderived, hend⟩ := hentry i (hm.size ▸ hl i hthat)
    exact ⟨e, e', .step hthat hs hs' hderived, hend⟩

theorem Mirrors.knows_iff (hm : Mirrors stale a g) (ht : Leaves stale t t')
    (he : Derived a g t t' e e') (hend : e'.that = none) :
    a.Knows g t t' ↔ ∀ i ∈ e.that, a.size ≤ i := by
  rw [← source?_eq_none]
  constructor
  · rintro ⟨r, r', hroot, hr⟩
    -- Anywhere before the beginning the root would have a source, as its counterpart has one.
    have hsource := (root?_eq_some_iff.mp hroot).2
    have hleaves := (hr.inferred hm ht).2
    cases hr.continues he hend with
    | refl => exact hsource
    | step h hs _ _ =>
      rw [source?_eq_some.mpr ⟨_, hleaves.that_eq h, hs⟩] at hsource
      cases hsource
  · intro hsource
    exact ⟨e, e', root?_eq_some_iff.mpr ⟨(he.inferred hm ht).1, hsource⟩, he⟩

end Referent.Arena
