import Mathlib.Tactic.Common
import Referent.Proofs.Resolve.Marks

/-! What comes of several cursors, or of several descriptions, is what comes of each on its own. Stages
go over all targets and share an arena, but none of them reads it. -/

namespace Referent

inductive Joins {ε α : Type} :
    Except ε (List α) → Except ε (List α) → Except ε (List α) → Prop
  | ok (l k : List α) : Joins (.ok l) (.ok k) (.ok (l ++ k))
  | left (e : ε) (y : Except ε (List α)) : Joins (.error e) y (.error e)
  | right (x : Except ε (List α)) (e : ε) : Joins x (.error e) (.error e)

namespace Joins

variable {ε α : Type} {x y z : Except ε (List α)}

lemma nil_left (y : Except ε (List α)) : Joins (.ok []) y y := by
  cases y with
  | error e => exact .right _ e
  | ok k => exact .ok [] k

lemma append (l : List α) (h : Joins x y z) :
    Joins (x >>= fun k => .ok (l ++ k)) y (z >>= fun k => .ok (l ++ k)) := by
  cases h with
  | ok k m =>
    have heq : Joins (.ok (l ++ k)) (.ok m) (.ok (l ++ k ++ m) : Except ε (List α)) := .ok _ _
    rwa [List.append_assoc] at heq
  | left e y => exact .left e y
  | right x e => exact .right _ e

protected lemma bind {f : List α → Except ε (List α)} (h : Joins x y z)
    (hf : ∀ l k, Joins (f l) (f k) (f (l ++ k))) : Joins (x >>= f) (y >>= f) (z >>= f) := by
  cases h with
  | ok l k => exact hf l k
  | left e y => exact .left e _
  | right x e => exact .right _ e

end Joins

inductive Collected {ε α β γ : Type} (alone : β → Except ε α) (combine : List α → γ)
    (bs : List β) : Except ε γ → Prop
  | ok {ls : List α} (h : List.Forall₂ (fun b l => alone b = .ok l) bs ls) :
      Collected alone combine bs (.ok (combine ls))
  | error {b : β} {e : ε} (hb : b ∈ bs) (h : alone b = .error e) :
      Collected alone combine bs (.error e)

namespace Collected

variable {ε α β γ : Type}

lemma of_ok {alone : β → Except ε α} {combine : List α → γ} {bs : List β} {c : γ}
    (h : Collected alone combine bs (.ok c)) :
    ∃ ls, c = combine ls ∧ List.Forall₂ (fun b l => alone b = .ok l) bs ls := by
  cases h with
  | ok h => exact ⟨_, rfl, h⟩

lemma exists_ok_iff {alone : β → Except ε α} {combine : List α → γ} {bs : List β}
    {z : Except ε γ} (h : Collected alone combine bs z) :
    (∃ l, z = .ok l) ↔ ∀ b ∈ bs, ∃ l, alone b = .ok l := by
  cases h with
  | ok h =>
    have hall : ∀ b ∈ bs, ∃ l, alone b = .ok l := by
      induction h with
      | nil => exact fun b hb => absurd hb List.not_mem_nil
      | cons hl _ ih => exact List.forall_mem_cons.mpr ⟨⟨_, hl⟩, ih⟩
    exact ⟨fun _ => hall, fun _ => ⟨_, rfl⟩⟩
  | error hb h =>
    constructor
    · rintro ⟨l, ⟨⟩⟩
    · intro hall
      obtain ⟨l, hl⟩ := hall _ hb
      rw [h] at hl
      cases hl

lemma of_map {δ : Type} {alone : β → Except ε α} {combine : List α → γ} {f : δ → β}
    {ds : List δ} {z : Except ε γ} (h : Collected alone combine (ds.map f) z) :
    Collected (fun d => alone (f d)) combine ds z := by
  cases h with
  | ok h => exact .ok (List.forall₂_map_left_iff.mp h)
  | error hb h =>
    obtain ⟨d, hd, rfl⟩ := List.mem_map.mp hb
    exact .error hd h

lemma cons {alone : β → Except ε (List α)} {b : β} {bs : List β} {y z : Except ε (List α)}
    (h : Collected alone List.flatten bs y) (hz : Joins (alone b) y z) :
    Collected alone List.flatten (b :: bs) z := by
  generalize hx : alone b = x at hz
  cases hz with
  | ok l k =>
    cases h with
    | ok h =>
      rw [← List.flatten_cons]
      exact .ok (.cons hx h)
  | left e y => exact .error List.mem_cons_self hx
  | right x e =>
    cases h with
    | error hb h => exact .error (List.mem_cons_of_mem _ hb) h

end Collected

namespace Resolving

variable {α : Type} {x x' : Resolving (List Target)} {F G : List Target → Resolving (List Target)}
  {f : Target → Resolving (List Target)} {a a' : Arena} {l k m : List Target} {e : TargetError}

def given (x : Resolving α) (a : Arena) : Except TargetError α := (x.outcome a).1

def cores (x : Resolving (List Target)) (a : Arena) : Except TargetError (List Target) :=
  (x.given a).map (List.map Target.core)

lemma map_core_of_matchAll {L : Linking} {sound : Prop} {E : Editor → Prop}
    (h : L.MatchAll sound E a a' l k) : k.map Target.core = l.map Target.core := by
  induction h with
  | nil => rfl
  | cons ht _ ih => rw [List.map_cons, List.map_cons, ht.core, ih]

lemma matchAll_of_map_core (h : k.map Target.core = l.map Target.core) :
    Linking.free.MatchAll False (fun _ => True) a a' l k := by
  induction l generalizing k with
  | nil =>
    obtain rfl := List.map_eq_nil_iff.mp h
    exact .nil
  | cons t rest ih =>
    cases k with
    | nil => cases h
    | cons u others =>
      obtain ⟨hhead, htail⟩ := List.cons.inj h
      exact .cons ⟨trivial, hhead, False.elim, trivial⟩ (ih htail)

lemma cores_of_agrees {L : Linking} {sound : Prop} {E : Editor → Prop}
    (h : L.Agrees a a' x x' (L.MatchAll sound E)) : x'.cores a' = x.cores a := by
  unfold cores given
  cases h with
  | ok h h' _ hl =>
    rw [h, h']
    exact congrArg Except.ok (map_core_of_matchAll hl)
  | error h h' _ =>
    rw [h, h']

lemma beq_of_map_core_eq (h : l.map Target.core = k.map Target.core) : (l == k) = true := by
  induction l generalizing k with
  | nil =>
    obtain rfl := List.map_eq_nil_iff.mp h.symm
    rfl
  | cons t rest ih =>
    cases k with
    | nil => cases h
    | cons u others =>
      obtain ⟨hhead, htail⟩ := List.cons.inj h
      rw [List.cons_beq_cons, Target.beq_of_core_eq hhead, ih htail]
      rfl

lemma exists_given {β : Type} {x : β → Resolving (List Target)} {bs : List β}
    {ms : List (List Target)} (h : List.Forall₂ (fun b m => (x b).cores a = .ok m) bs ms) :
    ∃ ls, ms = ls.map (List.map Target.core) ∧
      List.Forall₂ (fun b l => (x b).given a = .ok l) bs ls := by
  induction h with
  | nil => exact ⟨[], rfl, .nil⟩
  | cons hm _ ih =>
    obtain ⟨ls, rfl, hls⟩ := ih
    obtain ⟨l, hl, rfl⟩ := map_eq_ok.mp hm
    exact ⟨l :: ls, rfl, .cons hl hls⟩

def ReadsCores (F : List Target → Resolving (List Target)) : Prop :=
  ∀ ⦃l k⦄ (a c : Arena), k.map Target.core = l.map Target.core → (F k).cores c = (F l).cores a

lemma readsCores_of_agrees
    (h : ∀ ⦃a a' : Arena⦄ ⦃l k⦄, Linking.free.MatchAll False (fun _ => True) a a' l k →
      Linking.free.Agrees a a' (F l) (F k) (Linking.free.MatchAll False fun _ => True)) :
    ReadsCores F := fun _ _ _ _ hcore => cores_of_agrees (h (matchAll_of_map_core hcore))

lemma cores_bind (hF : ReadsCores F) (x : Resolving (List Target)) (a c : Arena) :
    (x >>= F).cores a = x.cores a >>= fun l => (F l).cores c := by
  unfold cores given
  rcases h : x.outcome a with ⟨_ | l, b⟩
  · rw [outcome_bind_error F h]
    rfl
  · rw [outcome_bind_ok F h]
    -- Neither what was dropped from the targets nor the arena of the first step matters.
    exact hF c b (by simp)

lemma cores_forEach_cons (hf : ReadsCores (forEach f)) (t : Target) (l : List Target) (a : Arena) :
    (forEach f (t :: l)).cores a =
      (f t).cores a >>= fun m => (forEach f l).cores a >>= fun k => .ok (m ++ k) := by
  rw [forEach]
  rcases h : (f t).outcome a with ⟨_ | m, b⟩
  · unfold cores given
    rw [outcome_bind_error _ h, h]
    rfl
  · rw [← hf a b rfl]
    unfold cores given
    rw [outcome_bind_ok _ h, h]
    rcases h' : (forEach f l).outcome b with ⟨_ | k, c⟩
    · rw [outcome_bind_error _ h']
      rfl
    · rw [outcome_bind_ok _ h', outcome_pure]
      exact congrArg Except.ok List.map_append

structure Pointwise (F : List Target → Resolving (List Target)) : Prop where
  readsCores : ReadsCores F
  nil : ∀ a, (F []).cores a = .ok []
  append : ∀ l k a, Joins ((F l).cores a) ((F k).cores a) ((F (l ++ k)).cores a)

namespace Pointwise

protected lemma pure : Pointwise pure where
  readsCores := fun _ _ _ _ h => congrArg Except.ok h
  nil := fun _ => rfl
  append l k a := by
    simp only [cores, given, outcome_pure, Except.map, List.map_append]
    exact .ok _ _

protected lemma bind (hF : Pointwise F) (hG : Pointwise G) : Pointwise fun l => F l >>= G where
  readsCores l k a c h := by
    rw [cores_bind hG.readsCores _ _ a, cores_bind hG.readsCores _ _ a, hF.readsCores a c h]
  nil a := by
    rw [cores_bind hG.readsCores _ _ a, hF.nil]
    exact hG.nil a
  append l k a := by
    simp only [fun l => cores_bind hG.readsCores (F l) a a]
    exact (hF.append l k a).bind fun l k => hG.append l k a

protected lemma forEach (hf : ReadsCores (forEach f)) : Pointwise (forEach f) where
  readsCores := hf
  nil := fun _ => rfl
  append l k a := by
    induction l with
    | nil => exact .nil_left _
    | cons t rest ih =>
      rw [List.cons_append, cores_forEach_cons hf, cores_forEach_cons hf]
      cases (f t).cores a with
      | error e => exact .left e _
      | ok m => exact ih.append m

theorem collected (hF : Pointwise F) (l : List Target) (a c : Arena) :
    Collected (fun t => (F [t]).cores c) List.flatten l ((F l).cores a) := by
  induction l with
  | nil =>
    rw [hF.nil]
    exact .ok .nil
  | cons t rest ih =>
    have hjoins := hF.append [t] rest a
    have hhead := hF.readsCores c a (show [t].map Target.core = [t].map Target.core from rfl)
    rw [hhead] at hjoins
    exact ih.cons hjoins

end Pointwise

end Resolving

open Resolving

lemma Context.alike_of_core_eq {cx cx' : Context} (h : cx'.core = cx.core) :
    cx.Alike False (fun _ => True) cx' := ⟨h, False.elim⟩

namespace Modifier

variable (cx : Context)

lemma pointwise_forEach (m : Modifier) : Pointwise (forEach (m.run cx)) :=
  .forEach (readsCores_of_agrees fun _ _ _ _ hl =>
    Linking.agrees_forEach (Linking.agrees_run (Context.alike_of_core_eq rfl) m) trivial hl)

lemma pointwise_runAll (modifiers : List Modifier) : Pointwise (runAll cx modifiers) := by
  induction modifiers with
  | nil =>
    have heq : runAll cx [] = pure := by
      funext l
      rw [runAll]
    rw [heq]
    exact .pure
  | cons m rest ih =>
    have heq : runAll cx (m :: rest) = fun l => runAll cx rest l >>= forEach (m.run cx) := by
      funext l
      rw [runAll]
    rw [heq]
    exact ih.bind (pointwise_forEach cx m)

end Modifier

namespace PrimitiveDescriptor

variable (cx : Context) (options : ResolveOptions) (modifiers : List Modifier)

lemma pointwise_runInOrder : Pointwise (runInOrder cx modifiers) := by
  induction modifiers with
  | nil => exact .pure
  | cons m rest ih => exact (Modifier.pointwise_forEach cx m).bind ih

lemma pointwise_inferEach : Pointwise (forEach fun t => return [← t.expandCursor cx]) :=
  .forEach (readsCores_of_agrees fun _ _ _ _ hl =>
    Linking.agrees_inferEach (Context.alike_of_core_eq rfl) trivial hl)

lemma pointwise_refine : Pointwise (refine cx options modifiers) := by
  refine (Modifier.pointwise_runAll cx _).bind ?_
  unfold place
  split
  · exact (pointwise_runInOrder cx _).bind (pointwise_inferEach cx)
  · exact (pointwise_runInOrder cx _).bind .pure

lemma collected_cursors (e : Editor) (a c : Arena) :
    Collected
      (fun s => (resolve { cx with activeEditor := some { e with selections := [s] } } options
        ⟨.cursor, modifiers⟩).cores c) List.flatten e.selections
      ((resolve { cx with activeEditor := some e } options ⟨.cursor, modifiers⟩).cores a) := by
  have halone (s : Selection) :
      (resolve { cx with activeEditor := some { e with selections := [s] } } options
        ⟨.cursor, modifiers⟩).cores c =
      (refine { cx with activeEditor := some e } options modifiers
        [Target.ofSelection e s]).cores c := by
    have hcx : Context.Alike False (fun _ => True) { cx with activeEditor := some e }
        { cx with activeEditor := some { e with selections := [s] } } :=
      Context.alike_of_core_eq rfl
    have hl : Linking.free.MatchAll False (fun _ => True) c c [Target.ofSelection e s]
        [Target.ofSelection { e with selections := [s] } s] := matchAll_of_map_core rfl
    exact cores_of_agrees (Linking.agrees_refine hcx options modifiers trivial hl)
  rw [show (fun s => _) = _ from funext halone]
  exact ((pointwise_refine { cx with activeEditor := some e } options modifiers).collected
    (e.selections.map (Target.ofSelection e)) a c).of_map

end PrimitiveDescriptor

namespace TargetDescriptor

variable (cx : Context) (options : ResolveOptions)

lemma cores_resolve (d : TargetDescriptor) (a c : Arena) :
    (d.resolve cx options).cores c = (d.resolve cx options).cores a := by
  have hmarks : Linking.free.MarksAlike False (· ∈ cx.editors) cx cx :=
    Linking.marksAlike False.elim rfl (Linking.storedAlike_self False.elim fun _ _ _ _ _ => trivial)
  exact cores_of_agrees (Linking.agrees_resolve ⟨rfl, False.elim⟩ hmarks False.elim options d
    (show Linking.free.arenas a c from trivial))

lemma collected_resolveAll (ds : List TargetDescriptor) (a : Arena) :
    Collected (fun d => (d.resolve cx options).cores .empty) id ds
      (((resolveAll cx options ds).given a).map (List.map (List.map Target.core))) := by
  unfold resolveAll given
  induction ds generalizing a with
  | nil => exact .ok .nil
  | cons d rest ih =>
    rw [List.mapM_cons]
    have hcores := cores_resolve cx options d a .empty
    rcases h : (d.resolve cx options).outcome a with ⟨e | l, b⟩
    · rw [outcome_bind_error _ h]
      exact .error List.mem_cons_self (hcores.trans (map_eq_error.mpr (congrArg Prod.fst h)))
    · rw [outcome_bind_ok _ h]
      have hhead := hcores.trans (map_eq_ok.mpr ⟨l, congrArg Prod.fst h, rfl⟩)
      have hrest := ih b
      rcases h' : (rest.mapM (resolve cx options)).outcome b with ⟨e | ls, c⟩
      · rw [outcome_bind_error _ h']
        rw [h'] at hrest
        cases hrest with
        | error hd he => exact .error (List.mem_cons_of_mem d hd) he
      · rw [outcome_bind_ok _ h']
        rw [h'] at hrest
        obtain ⟨_, rfl, hall⟩ := hrest.of_ok
        exact .ok (.cons hhead hall)

/-- Each cursor, and each of several descriptions, stands for what it stands for on its own. -/
theorem given_separately (cx : Context) (options : ResolveOptions) :
    (∀ modifiers e a c,
      let whole := ((primitive ⟨.cursor, modifiers⟩).resolve
        { cx with activeEditor := some e } options).given a
      let alone s := ((primitive ⟨.cursor, modifiers⟩).resolve
        { cx with activeEditor := some { e with selections := [s] } } options).given c
      ((∃ l, whole = .ok l) ↔ ∀ s ∈ e.selections, ∃ l, alone s = .ok l) ∧
        ∀ l, whole = .ok l → ∃ ls, l == List.flatten ls ∧
          List.Forall₂ (fun s k => alone s = .ok k) e.selections ls) ∧
    ∀ ds a,
      let whole := (resolveAll cx options ds).given a
      let alone d := (d.resolve cx options).given .empty
      ((∃ ls, whole = .ok ls) ↔ ∀ d ∈ ds, ∃ l, alone d = .ok l) ∧
        ∀ ls, whole = .ok ls →
          List.Forall₂ (fun d l => ∃ k, alone d = .ok k ∧ l == k) ds ls := by
  refine ⟨fun modifiers e a c => ?_, fun ds a => ⟨?_, fun ls hls => ?_⟩⟩
  · simp only [resolve]
    have hcursors := PrimitiveDescriptor.collected_cursors cx options modifiers e a c
    refine ⟨?_, fun l hl => ?_⟩
    · exact (exists_map_eq_ok.symm.trans hcursors.exists_ok_iff).trans
        (forall₂_congr fun s _ => exists_map_eq_ok)
    · rw [cores, hl] at hcursors
      obtain ⟨ms, hflatten, hms⟩ := hcursors.of_ok
      obtain ⟨ls, rfl, hls⟩ := exists_given hms
      rw [← List.map_flatten] at hflatten
      exact ⟨ls, beq_of_map_core_eq hflatten, hls⟩
  · exact (exists_map_eq_ok.symm.trans (collected_resolveAll cx options ds a).exists_ok_iff).trans
      (forall₂_congr fun d _ => exists_map_eq_ok)
  · have hall := collected_resolveAll cx options ds a
    rw [hls] at hall
    obtain ⟨_, rfl, hms⟩ := hall.of_ok
    refine List.Forall₂.imp (fun d l hl => ?_) (List.forall₂_map_right_iff.mp hms)
    obtain ⟨k, hk, hcore⟩ := map_eq_ok.mp hl
    exact ⟨k, hk, beq_of_map_core_eq hcore.symm⟩

end TargetDescriptor

end Referent
