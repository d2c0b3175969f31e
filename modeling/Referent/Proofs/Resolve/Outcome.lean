import Mathlib.Tactic.Common
import Mathlib.Data.List.Forall2
import Referent.Resolve.Modifier

namespace Referent

namespace Resolving

variable {α β : Type}

def outcome (x : Resolving α) (a : Arena) : Except TargetError α × Arena := (x.run.run a).run

@[simp] lemma outcome_pure (b : α) (a : Arena) : (pure b : Resolving α).outcome a = (.ok b, a) := rfl

@[simp] lemma outcome_throw (e : TargetError) (a : Arena) :
    (throw e : Resolving α).outcome a = (.error e, a) := rfl

@[simp] lemma outcome_lift (x : Except TargetError α) (a : Arena) :
    (liftM x : Resolving α).outcome a = (x, a) := rfl

@[simp] lemma outcome_remember (t : Target) (a : Arena) :
    (remember t).outcome a = (.ok a.size, a.push t) := rfl

variable {x : Resolving α} {a c : Arena} {b : α} {e : TargetError}

lemma outcome_bind_ok (f : α → Resolving β) (h : x.outcome a = (.ok b, c)) :
    (x >>= f).outcome a = (f b).outcome c := by
  unfold outcome at h ⊢
  rw [ExceptT.run_bind, StateT.run_bind, Id.run_bind, h]

lemma outcome_bind_error (f : α → Resolving β) (h : x.outcome a = (.error e, c)) :
    (x >>= f).outcome a = (.error e, c) := by
  unfold outcome at h ⊢
  rw [ExceptT.run_bind, StateT.run_bind, Id.run_bind, h]
  rfl

lemma outcome_tryCatch_ok (f : TargetError → Resolving α) (h : x.outcome a = (.ok b, c)) :
    (tryCatch x f).outcome a = (.ok b, c) := by
  unfold outcome at h ⊢
  rw [ExceptT.run_tryCatch, StateT.run_bind, Id.run_bind, h]
  rfl

lemma outcome_tryCatch_error (f : TargetError → Resolving α) (h : x.outcome a = (.error e, c)) :
    (tryCatch x f).outcome a = (f e).outcome c := by
  unfold outcome at h ⊢
  rw [ExceptT.run_tryCatch, StateT.run_bind, Id.run_bind, h]

lemma outcome_bind_eq_ok {f : α → Resolving β} {d : β} {c' : Arena} :
    (x >>= f).outcome a = (.ok d, c') ↔
      ∃ b c, x.outcome a = (.ok b, c) ∧ (f b).outcome c = (.ok d, c') := by
  rcases h : x.outcome a with ⟨_ | b, c⟩
  · rw [outcome_bind_error f h]
    simp
  · rw [outcome_bind_ok f h]
    simp

end Resolving

open Resolving

/-- How the arenas and the links of two runs correspond to each other. What corresponds keeps doing so
while both runs add corresponding targets. -/
structure Linking where
  arenas : Arena → Arena → Prop
  targets : Arena → Arena → Target → Target → Prop
  unlinked : ∀ {a a' : Arena} {t t' : Target}, t.that = none → t'.that = none → targets a a' t t'
  grows : ∀ {a a' : Arena} {s s' t t' : Target}, targets a a' t t' → targets (a.push s) (a'.push s') t t'
  pushes : ∀ {a a' : Arena} {s s' : Target}, arenas a a' → targets a a' s s' → arenas (a.push s) (a'.push s')
  links : ∀ {a a' : Arena} {s s' : Target} (t t' : Target), arenas a a' →
    targets (a.push s) (a'.push s') (t.withThat a.size) (t'.withThat a'.size)

def Linking.free : Linking where
  arenas _ _ := True
  targets _ _ _ _ := True
  unlinked _ _ := trivial
  grows _ := trivial
  pushes _ _ := trivial
  links _ _ _ := trivial

namespace Linking

structure Reaches (L : Linking) (a a' c c' : Arena) : Prop where
  arenas : L.arenas c c'
  keeps : ∀ {t t'}, L.targets a a' t t' → L.targets c c' t t'

/-- Two computations go the same way: they fail alike, or give what corresponds to each other. -/
inductive Agrees (L : Linking) {α α' : Type} (a a' : Arena) (x : Resolving α) (x' : Resolving α')
    (P : Arena → Arena → α → α' → Prop) : Prop
  | ok {b b' c c'} (h : x.outcome a = (.ok b, c)) (h' : x'.outcome a' = (.ok b', c'))
      (reaches : L.Reaches a a' c c') (holds : P c c' b b') : Agrees L a a' x x' P
  | error {e c c'} (h : x.outcome a = (.error e, c)) (h' : x'.outcome a' = (.error e, c'))
      (reaches : L.Reaches a a' c c') : Agrees L a a' x x' P

variable {L : Linking} {α α' β β' : Type} {a a' c c' : Arena} {x : Resolving α}
  {x' : Resolving α'} {P : Arena → Arena → α → α' → Prop} {Q : Arena → Arena → β → β' → Prop}

lemma Reaches.refl (h : L.arenas a a') : L.Reaches a a' a a' := ⟨h, id⟩

lemma Reaches.trans {d d' : Arena} (h : L.Reaches a a' c c') (h' : L.Reaches c c' d d') :
    L.Reaches a a' d d' := ⟨h'.arenas, fun ht => h'.keeps (h.keeps ht)⟩

lemma Reaches.push {s s' : Target} (h : L.arenas a a') (hs : L.targets a a' s s') :
    L.Reaches a a' (a.push s) (a'.push s') := ⟨L.pushes h hs, L.grows⟩

namespace Agrees

protected lemma pure {b : α} {b' : α'} (h : L.arenas a a') (hb : P a a' b b') :
    L.Agrees a a' (pure b) (pure b') P := .ok rfl rfl (.refl h) hb

protected lemma throw (e : TargetError) (h : L.arenas a a') :
    L.Agrees a a' (throw e : Resolving α) (throw e : Resolving α') P := .error rfl rfl (.refl h)

lemma mono {R : Arena → Arena → α → α' → Prop} (h : L.Agrees a a' x x' P)
    (hR : ∀ {c c' b b'}, L.Reaches a a' c c' → P c c' b b' → R c c' b b') :
    L.Agrees a a' x x' R := by
  cases h with
  | ok h h' reaches holds => exact .ok h h' reaches (hR reaches holds)
  | error h h' reaches => exact .error h h' reaches

protected lemma bind {f : α → Resolving β} {f' : α' → Resolving β'} (h : L.Agrees a a' x x' P)
    (hf : ∀ {c c' b b'}, L.Reaches a a' c c' → P c c' b b' → L.Agrees c c' (f b) (f' b') Q) :
    L.Agrees a a' (x >>= f) (x' >>= f') Q := by
  cases h with
  | ok h h' reaches holds =>
    cases hf reaches holds with
    | ok hb hb' further holds =>
      exact .ok ((outcome_bind_ok f h).trans hb) ((outcome_bind_ok f' h').trans hb')
        (reaches.trans further) holds
    | error hb hb' further =>
      exact .error ((outcome_bind_ok f h).trans hb) ((outcome_bind_ok f' h').trans hb')
        (reaches.trans further)
  | error h h' reaches =>
    exact .error (outcome_bind_error f h) (outcome_bind_error f' h') reaches

protected lemma tryCatch {f : TargetError → Resolving α} {f' : TargetError → Resolving α'}
    (h : L.Agrees a a' x x' P)
    (hf : ∀ {c c'} e, L.Reaches a a' c c' → L.Agrees c c' (f e) (f' e) P) :
    L.Agrees a a' (tryCatch x f) (tryCatch x' f') P := by
  cases h with
  | ok h h' reaches holds =>
    exact .ok (outcome_tryCatch_ok f h) (outcome_tryCatch_ok f' h') reaches holds
  | error h h' reaches =>
    next e c c' =>
    cases hf e reaches with
    | ok hb hb' further holds =>
      exact .ok ((outcome_tryCatch_error f h).trans hb) ((outcome_tryCatch_error f' h').trans hb')
        (reaches.trans further) holds
    | error hb hb' further =>
      exact .error ((outcome_tryCatch_error f h).trans hb)
        ((outcome_tryCatch_error f' h').trans hb') (reaches.trans further)

protected lemma remember {s s' : Target} (h : L.arenas a a') (hs : L.targets a a' s s') :
    L.Agrees a a' (remember s) (remember s') fun c c' id id' =>
      ∀ t t' : Target, L.targets c c' (t.withThat id) (t'.withThat id') :=
  .ok rfl rfl (.push h hs) fun t t' => L.links t t' h

lemma of_ok {b : α} (hx : L.Agrees a a' x x' P) (h : x.outcome a = (.ok b, c)) :
    ∃ b' c', x'.outcome a' = (.ok b', c') ∧ L.Reaches a a' c c' ∧ P c c' b b' := by
  cases hx with
  | ok hb hb' reaches holds =>
    rw [h] at hb
    cases hb
    exact ⟨_, _, hb', reaches, holds⟩
  | error he _ _ =>
    rw [h] at he
    cases he

lemma of_error {e : TargetError} (hx : L.Agrees a a' x x' P) (h : x.outcome a = (.error e, c)) :
    ∃ c', x'.outcome a' = (.error e, c') ∧ L.Reaches a a' c c' := by
  cases hx with
  | ok hb _ _ _ =>
    rw [h] at hb
    cases hb
  | error he he' reaches =>
    rw [h] at he
    cases he
    exact ⟨_, he', reaches⟩

lemma lift {γ : Type} {x : Except TargetError α} {x' : Except TargetError α'} {g : α → γ}
    {g' : α' → γ} (h : L.arenas a a') (hx : x'.map g' = x.map g)
    (hP : ∀ b b', x = .ok b → x' = .ok b' → g' b' = g b → P a a' b b') :
    L.Agrees a a' (liftM x) (liftM x') P := by
  cases x with
  | error e =>
    cases x' with
    | error e' =>
      obtain rfl := Except.error.inj hx
      exact .error rfl rfl (.refl h)
    | ok b' => cases hx
  | ok b =>
    cases x' with
    | error e' => cases hx
    | ok b' => exact .ok rfl rfl (.refl h) (hP b b' rfl rfl (Except.ok.inj hx))

end Agrees

end Linking

end Referent
