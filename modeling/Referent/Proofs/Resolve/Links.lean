import Mathlib.Tactic.Common
import Referent.Proofs.Resolve.Marks
import Referent.Proofs.Resolve.Tasks
import Referent.Proofs.Target.Links

/-! Links over all that one resolver is asked for. They lead to earlier entries of its arena, and
whatever is inferred from a target has the same origin as that. -/

namespace Referent

open Resolving

lemma Request.agrees_run {L : Linking} {sound : Prop} {E : Editor → Prop} {cx cx' : Context}
    {a a' : Arena} (hcx : cx.Alike sound E cx') (hm : L.MarksAlike sound E cx cx')
    (hE : sound → Editor.Coherent E) (options : ResolveOptions) (r : Request)
    (h : L.arenas a a') :
    L.Agrees a a' (r.task.run cx options) (r.task.run cx' options) (L.MatchAll sound E) := by
  cases r with
  | resolve d => exact Linking.agrees_resolve hcx hm hE options d h
  | resolveAll ds =>
    exact (Linking.agrees_resolveAll hcx hm hE options ds h).bind
      fun hr hls => .pure hr.arenas hls.flatten

def Linking.closed (base : Arena) : Linking where
  arenas a _ := a.Closed ∧ a.Extends base
  targets a _ t _ := a.Links t
  unlinked h _ := Arena.links_of_none h
  grows h := h.push
  pushes h hs := ⟨h.1.push hs, h.2.push _⟩
  links {_ _ s _} t _ _ := Arena.links_withThat s t

namespace Task

variable {cx : Context} {options : ResolveOptions} {a c : Arena}

lemma matchAll_of_links (base : Arena) {l : List Target} (h : ∀ t ∈ l, a.Links t) :
    (Linking.closed base).MatchAll False (fun _ => True) a a l l :=
  List.forall₂_same.mpr fun t ht => ⟨trivial, rfl, False.elim, h t ht⟩

lemma marksAlike (hstored : ∀ t ∈ cx.stored.flatMap Prod.snd, t.that = none) (base : Arena) :
    (Linking.closed base).MarksAlike False (fun _ => True) cx cx := by
  have hself : (Linking.closed base).StoredAlike False (· ∈ cx.editors) cx cx :=
    Linking.storedAlike_self False.elim fun t ht _ _ _ => Arena.links_of_none (hstored t ht)
  exact (Linking.marksAlike False.elim rfl hself).weaken fun _ _ => trivial

lemma agrees_run (hstored : ∀ t ∈ cx.stored.flatMap Prod.snd, t.that = none) {base : Arena}
    (options : ResolveOptions) (task : Task) (h : (Linking.closed base).arenas a a)
    (ht : ∀ t ∈ task.targets, a.Links t) :
    (Linking.closed base).Agrees a a (task.run cx options) (task.run cx options)
      ((Linking.closed base).MatchAll False fun _ => True) := by
  have hcx : cx.Alike False (fun _ => True) cx := ⟨rfl, False.elim⟩
  have hmarks := marksAlike hstored base
  have hmodify (m : Modifier) := Linking.agrees_run (L := Linking.closed base) hcx m
  have hl := matchAll_of_links base ht
  cases task with
  | infer t =>
    obtain _ | ⟨hmatch, _⟩ := hl
    exact (Linking.agrees_expandCursor hcx h hmatch).bind
      fun hr hu => .pure hr.arenas (.singleton hu)
  | inferEach targets => exact Linking.agrees_inferEach hcx h hl
  | modify m t =>
    obtain _ | ⟨hmatch, _⟩ := hl
    exact hmodify m h hmatch
  | modifyEach m targets => exact Linking.agrees_forEach (hmodify m) h hl
  | modifyAll modifiers targets => exact Linking.agrees_runAll (fun m _ => hmodify m) h hl
  | extent modifiers t =>
    obtain _ | ⟨hmatch, _⟩ := hl
    exact Linking.agrees_runExtent hcx (fun m _ => hmodify m) h hmatch
  | first failure modifiers t =>
    obtain _ | ⟨hmatch, _⟩ := hl
    exact Linking.agrees_runFirst (fun m _ => hmodify m) failure h hmatch
  | inOrder modifiers targets => exact Linking.agrees_runInOrder hcx modifiers h hl
  | place modifiers targets => exact Linking.agrees_place hcx options modifiers h hl
  | refine modifiers targets => exact Linking.agrees_refine hcx options modifiers h hl
  | primitive p => exact Linking.agrees_primitive hcx hmarks options p h
  | describe d => exact Request.agrees_run hcx hmarks False.elim options (.resolve d) h
  | elements found ds =>
    exact Linking.agrees_resolveElements
      (fun d _ => Linking.agrees_resolve hcx hmarks False.elim options d) h hl
  | describeAll ds => exact Request.agrees_run hcx hmarks False.elim options (.resolveAll ds) h

lemma links_of_run (hstored : ∀ t ∈ cx.stored.flatMap Prod.snd, t.that = none)
    (options : ResolveOptions) (task : Task)
    {x : Except TargetError (List Target)} (ha : a.Closed) (ht : ∀ t ∈ task.targets, a.Links t)
    (hx : (task.run cx options).outcome a = (x, c)) :
    c.Closed ∧ c.Extends a ∧ Gives x fun l => ∀ t ∈ l, c.Links t := by
  have hagrees := agrees_run hstored options task ⟨ha, .refl a⟩ ht
  cases x with
  | error e =>
    obtain ⟨c', _, hr⟩ := hagrees.of_error hx
    exact ⟨hr.arenas.1, hr.arenas.2, .error⟩
  | ok l =>
    obtain ⟨l', c', _, hr, hmatch⟩ := hagrees.of_ok hx
    refine ⟨hr.arenas.1, hr.arenas.2, .ok fun t ht => ?_⟩
    obtain ⟨t', _, htarget⟩ := hmatch.exists_of_mem ht
    exact htarget.linked

lemma links_singleton {t : Target} (h : a.Links t) : ∀ u ∈ [t], a.Links u := by
  intro u hu
  obtain rfl := List.mem_singleton.mp hu
  exact h

lemma targets_beginModify {m : Modifier} {t : Target} {part : Task}
    (h : beginModify t m = some part) : part.targets = [t] := by
  unfold beginModify at h
  split at h
  all_goals
    first
    | obtain rfl := Option.some.inj h
    | obtain rfl := Option.some.inj (Option.ite_none_right_eq_some.mp h).2
    | obtain rfl := Option.some.inj (Option.ite_none_left_eq_some.mp h).2
    | cases h
  all_goals rfl

lemma links_begin (hstored : ∀ t ∈ cx.stored.flatMap Prod.snd, t.that = none) {task part : Task}
    (ht : ∀ t ∈ task.targets, a.Links t) (h : task.begin? cx options = some part) :
    ∀ t ∈ part.targets, a.Links t := by
  have hnil : ∀ t ∈ ([] : List Target), a.Links t := fun t ht => absurd ht List.not_mem_nil
  unfold begin? at h
  split at h
  case h_2 =>
    rw [targets_beginModify h]
    exact ht
  case h_10 p =>
    split at h
    · next hmarked =>
      cases h
      intro t ht
      obtain ht | ht := Mark.mem_stored_or_unlinked hmarked ht
      · exact Arena.links_of_none (hstored t ht)
      · exact Arena.links_of_none ht
    · cases h
  all_goals cases h
  all_goals
    first
    | exact ht
    | exact hnil
    | exact links_singleton (ht _ List.mem_cons_self)

lemma targets_resume {task next : Task} {x : Except TargetError (List Target)}
    (h : task.resume? options x = some next) {t : Target} (ht : t ∈ next.targets) :
    t ∈ task.targets ∨ ∃ l, x = .ok l ∧ t ∈ l := by
  unfold resume? at h
  split at h
  case h_6 =>
    obtain rfl := Option.some.inj (Option.ite_none_right_eq_some.mp h).2
    exact .inl ht
  case h_8 =>
    obtain rfl := Option.some.inj (Option.ite_none_right_eq_some.mp h).2
    exact .inr ⟨_, rfl, ht⟩
  all_goals cases h
  case h_11 =>
    obtain ht | ht := TargetDescriptor.mem_of_mem_foldl_addNew ht
    · exact .inl ht
    · exact .inr ⟨_, rfl, ht⟩
  all_goals
    first
    | exact .inl ht
    | exact .inl (List.mem_cons_of_mem _ ht)
    | exact .inr ⟨_, rfl, ht⟩

end Task

namespace Request

variable {cx : Context} {options : ResolveOptions} {requests : List Request} {a b : Arena}
  {task : Task} {t : Target}

lemma targets_task (r : Request) : r.task.targets = [] := by cases r <;> rfl

lemma Meets.links (hstored : ∀ t ∈ cx.stored.flatMap Prod.snd, t.that = none)
    (h : Meets cx options requests a task b) (ha : a.Closed) :
    b.Closed ∧ ∀ t ∈ task.targets, b.Links t := by
  have hnone (r : Request) (c : Arena) : ∀ t ∈ r.task.targets, c.Links t := by
    rw [targets_task r]
    exact fun t ht => absurd ht List.not_mem_nil
  induction h with
  | here r rest a => exact ⟨ha, hnone r a⟩
  | later hx _ ih => exact ih (Task.links_of_run hstored _ _ ha (hnone _ _) hx).1
  | begins _ hpart ih =>
    obtain ⟨hb, ht⟩ := ih ha
    exact ⟨hb, Task.links_begin hstored ht hpart⟩
  | resumes _ hpart hx hnext ih =>
    obtain ⟨hb, ht⟩ := ih ha
    obtain ⟨hc, hextends, hgives⟩ :=
      Task.links_of_run hstored _ _ hb (Task.links_begin hstored ht hpart) hx
    refine ⟨hc, fun t hmem => ?_⟩
    obtain hmem | ⟨l, rfl, hmem⟩ := Task.targets_resume hnext hmem
    · exact hextends.links (ht t hmem)
    · exact hgives l rfl t hmem

def cursorAt (text : List Char) : Context where
  activeEditor := some (.ofDocument 1 (.ofText 1 "plaintext" text))

end Request

end Referent
