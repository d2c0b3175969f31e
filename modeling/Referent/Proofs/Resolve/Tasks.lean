import Mathlib.Tactic.Common
import Referent.Proofs.Resolve.Descriptions

/-! The computations that a resolution consists of, and the targets that it comes across. Each begins
with one part and may go on with another, and adds at most one of its own targets to the arena. -/

namespace Referent

namespace Resolving

variable {α β : Type} {x : Resolving α} {a c : Arena} {b : α} {e : TargetError}

def leaves (x : Resolving α) (a : Arena) : Arena := (x.outcome a).2

lemma leaves_bind_ok (f : α → Resolving β) (h : x.outcome a = (.ok b, c)) :
    (x >>= f).leaves a = (f b).leaves c := congrArg Prod.snd (outcome_bind_ok f h)

lemma leaves_bind_error (f : α → Resolving β) (h : x.outcome a = (.error e, c)) :
    (x >>= f).leaves a = c := congrArg Prod.snd (outcome_bind_error f h)

lemma leaves_bind {f : α → Resolving β} (hf : ∀ b c, (f b).leaves c = c) (a : Arena) :
    (x >>= f).leaves a = x.leaves a := by
  rcases h : x.outcome a with ⟨_ | b, c⟩
  · rw [leaves_bind_error f h, leaves, h]
  · rw [leaves_bind_ok f h, hf, leaves, h]

end Resolving

open Resolving

namespace TargetDescriptor

lemma mem_of_mem_addNew {found : List Target} {t u : Target} (h : u ∈ addNew found t) :
    u ∈ found ∨ u = t := by
  unfold addNew at h
  split at h
  · exact .inl h
  · exact (List.mem_append.mp h).imp_right List.mem_singleton.mp

lemma mem_of_mem_foldl_addNew {found l : List Target} {u : Target}
    (h : u ∈ l.foldl addNew found) : u ∈ found ∨ u ∈ l := by
  induction l generalizing found with
  | nil => exact .inl h
  | cons t rest ih =>
    rcases ih h with h | h
    · rcases mem_of_mem_addNew h with h | rfl
      · exact .inl h
      · exact .inr List.mem_cons_self
    · exact .inr (List.mem_cons_of_mem t h)

end TargetDescriptor

inductive Task where
  | infer (t : Target)
  | inferEach (targets : List Target)
  | modify (m : Modifier) (t : Target)
  | modifyEach (m : Modifier) (targets : List Target)
  | modifyAll (modifiers : List Modifier) (targets : List Target)
  | extent (modifiers : List Modifier) (t : Target)
  | first (failure : TargetError) (modifiers : List Modifier) (t : Target)
  | inOrder (modifiers : List Modifier) (targets : List Target)
  | place (modifiers : List Modifier) (targets : List Target)
  | refine (modifiers : List Modifier) (targets : List Target)
  | primitive (p : PrimitiveDescriptor)
  | describe (d : TargetDescriptor)
  | elements (found : List Target) (ds : List TargetDescriptor)
  | describeAll (ds : List TargetDescriptor)

namespace Task

def targets : Task → List Target
  | infer t => [t]
  | inferEach targets => targets
  | modify _ t => [t]
  | modifyEach _ targets => targets
  | modifyAll _ targets => targets
  | extent _ t => [t]
  | first _ _ t => [t]
  | inOrder _ targets => targets
  | place _ targets => targets
  | refine _ targets => targets
  | elements found _ => found
  | _ => []

def run (cx : Context) (options : ResolveOptions) : Task → Resolving (List Target)
  | infer t => return [← t.expandCursor cx]
  | inferEach targets => forEach (fun t => return [← t.expandCursor cx]) targets
  | modify m t => m.run cx t
  | modifyEach m targets => forEach (m.run cx) targets
  | modifyAll modifiers targets => Modifier.runAll cx modifiers targets
  | extent modifiers t => Modifier.runExtent cx modifiers t
  | first failure modifiers t => Modifier.runFirst cx failure modifiers t
  | inOrder modifiers targets => PrimitiveDescriptor.runInOrder cx modifiers targets
  | place modifiers targets => PrimitiveDescriptor.place cx options modifiers targets
  | refine modifiers targets => PrimitiveDescriptor.refine cx options modifiers targets
  | primitive p => p.resolve cx options
  | describe d => d.resolve cx options
  | elements found ds => TargetDescriptor.resolveElements cx options found ds
  | describeAll ds => return (← TargetDescriptor.resolveAll cx options ds).flatten

def beginModify (t : Target) : Modifier → Option Task
  | .everyScope s => if s = .occurrence then some (infer t) else none
  | .ordinalScope s _ _ _ => if s = .occurrence then some (infer t) else none
  | .relativeScope s _ _ _ _ => if s = .occurrence then some (infer t) else none
  | .head modifiers => some (extent modifiers t)
  | .tail modifiers => some (extent modifiers t)
  | .modifyIfUntyped m => if t.flags.explicitScopeType then none else some (modify m t)
  | .modifyIfWeak m => if t.flags.weak then some (modify m t) else none
  | .cascading modifiers => some (first (.noContainingScope "cascading") modifiers t)
  | .range anchor _ _ _ => some (modify anchor t)
  | _ => none

def begin? (cx : Context) (options : ResolveOptions) : Task → Option Task
  | inferEach (t :: _) => some (infer t)
  | modify m t => beginModify t m
  | modifyEach m (t :: _) => some (modify m t)
  | modifyAll (_ :: rest) targets => some (modifyAll rest targets)
  | extent (_ :: rest) t => some (modifyAll rest [t])
  | first _ (m :: _) t => some (modify m t)
  | inOrder (m :: _) targets => some (modifyEach m targets)
  | place modifiers targets =>
    some (inOrder (options.prePosition ++ (PrimitiveDescriptor.splitPosition modifiers).1 ++
      options.final) targets)
  | refine modifiers targets =>
    some (modifyAll (PrimitiveDescriptor.splitPosition modifiers).2 targets)
  | primitive p =>
    match p.mark.targets cx with
    | .ok marked => some (refine p.modifiers marked)
    | .error _ => none
  | describe (.primitive p) => some (primitive p)
  | describe (.range r) => some (primitive r.anchor)
  | describe (.list ds) => some (elements [] ds)
  | elements _ (d :: _) => some (describe d)
  | describeAll (d :: _) => some (describe d)
  | _ => none

def resume? (options : ResolveOptions) : Task → Except TargetError (List Target) → Option Task
  | inferEach (_ :: rest), .ok _ => some (inferEach rest)
  | modify (.range _ active _ _) t, .ok [_] => some (modify active t)
  | modifyEach m (_ :: rest), .ok _ => some (modifyEach m rest)
  | modifyAll (m :: _) _, .ok inner => some (modifyEach m inner)
  | extent (m :: _) _, .ok inner => some (modifyEach m inner)
  | first _ (_ :: rest) t, .error e => if e.isRecoverable then some (first e rest t) else none
  | inOrder (_ :: rest) _, .ok targets => some (inOrder rest targets)
  | place _ _, .ok placed => if options.infersToken then some (inferEach placed) else none
  | refine modifiers _, .ok refined => some (place modifiers refined)
  | describe (.range r), .ok _ => some (primitive r.active)
  | elements found (_ :: rest), .ok targets =>
    some (elements (targets.foldl TargetDescriptor.addNew found) rest)
  | describeAll (_ :: rest), .ok _ => some (describeAll rest)
  | _, _ => none

section

variable {cx : Context} {options : ResolveOptions} {task part : Task} {a c : Arena}

def Adds (targets : List Target) (a c : Arena) : Prop := c = a ∨ ∃ t ∈ targets, c = a.push t

def Continues (cx : Context) (options : ResolveOptions) (task part : Task) : Prop :=
  ∀ (x : Except TargetError (List Target)) (a c : Arena),
    (part.run cx options).outcome a = (x, c) →
    match task.resume? options x with
    | some next => (task.run cx options).leaves a = (next.run cx options).leaves c
    | none => Adds task.targets c ((task.run cx options).leaves a)

lemma continues_of_leaves_eq (hnone : ∀ x, task.resume? options x = none)
    (h : ∀ a, (task.run cx options).leaves a = (part.run cx options).leaves a) :
    Continues cx options task part := by
  intro x a c hx
  rw [hnone, h, leaves, hx]
  exact .inl rfl

lemma continues_of_bind {β : Type} {f : List Target → Resolving β}
    (h : ∀ a, (task.run cx options).leaves a = (part.run cx options >>= f).leaves a)
    (herror : ∀ e, task.resume? options (.error e) = none)
    (hok : ∀ l c, match task.resume? options (.ok l) with
      | some next => (f l).leaves c = (next.run cx options).leaves c
      | none => Adds task.targets c ((f l).leaves c)) : Continues cx options task part := by
  intro x a c hx
  cases x with
  | error e =>
    rw [herror, h, leaves_bind_error f hx]
    exact .inl rfl
  | ok l =>
    rw [h, leaves_bind_ok f hx]
    exact hok l c

lemma continues_resolveOccurrences {m : Modifier} {t : Target} (query : OccurrenceQuery)
    (hnone : ∀ x, (modify m t).resume? options x = none)
    (h : m.run cx t = t.resolveOccurrences cx query) :
    Continues cx options (modify m t) (infer t) := by
  refine continues_of_leaves_eq hnone fun a => ?_
  have hrun : (modify m t).run cx options = t.resolveOccurrences cx query := h
  rw [hrun, Target.resolveOccurrences, leaves_bind fun _ _ => rfl]
  exact (leaves_bind (fun _ _ => rfl) a).symm

lemma continues_inferredFrom {m : Modifier} {t : Target}
    (hnone : ∀ x, task.resume? options x = none) (ht : t ∈ task.targets)
    (h : task.run cx options = inferredFrom t (m.run cx t)) :
    Continues cx options task (modify m t) := by
  refine continues_of_bind (fun a => congrArg (fun x => x.leaves a) h) (fun e => hnone _) ?_
  intro l c
  rw [hnone]
  exact .inr ⟨t, ht, rfl⟩

lemma leaves_single (u : Target) (excludeAnchor excludeActive : Bool) (l : List Target) (a : Arena) :
    (do return [u.rangeBetween (← liftM (Target.single l)) excludeAnchor excludeActive] :
      Resolving (List Target)).leaves a = a := by
  unfold Target.single
  split
  · rfl
  · rfl

lemma continues_beginModify {m : Modifier} {t : Target} (h : beginModify t m = some part) :
    Continues cx options (modify m t) part := by
  cases m with
  | everyScope s =>
    obtain ⟨hs, h⟩ := Option.ite_none_right_eq_some.mp h
    cases h
    exact continues_resolveOccurrences .every (fun _ => rfl) (by rw [Modifier.run, if_pos hs])
  | ordinalScope s start length isEvery =>
    obtain ⟨hs, h⟩ := Option.ite_none_right_eq_some.mp h
    cases h
    exact continues_resolveOccurrences (.ordinal start length) (fun _ => rfl) (by rw [Modifier.run, if_pos hs])
  | relativeScope s offset length direction isEvery =>
    obtain ⟨hs, h⟩ := Option.ite_none_right_eq_some.mp h
    cases h
    exact continues_resolveOccurrences (.relative offset length direction) (fun _ => rfl)
      (by rw [Modifier.run, if_pos hs])
  | head modifiers =>
    cases h
    refine continues_of_leaves_eq (fun _ => rfl) fun a => ?_
    rw [run, Modifier.run, leaves_bind fun _ _ => rfl]
    rfl
  | tail modifiers =>
    cases h
    refine continues_of_leaves_eq (fun _ => rfl) fun a => ?_
    rw [run, Modifier.run, leaves_bind fun _ _ => rfl]
    rfl
  | modifyIfUntyped m =>
    obtain ⟨hflag, h⟩ := Option.ite_none_left_eq_some.mp h
    cases h
    refine continues_inferredFrom (fun _ => rfl) List.mem_cons_self ?_
    rw [run, Modifier.run, if_neg hflag]
  | modifyIfWeak m =>
    obtain ⟨hflag, h⟩ := Option.ite_none_right_eq_some.mp h
    cases h
    refine continues_inferredFrom (fun _ => rfl) List.mem_cons_self ?_
    rw [run, Modifier.run, if_pos hflag]
  | cascading modifiers =>
    cases h
    refine continues_of_leaves_eq (fun _ => rfl) fun a => ?_
    rw [run, Modifier.run]
    rfl
  | range anchor active excludeAnchor excludeActive =>
    cases h
    refine continues_of_bind (fun a => by rw [run, Modifier.run]; rfl) (fun _ => rfl) fun l c => ?_
    rcases l with _ | ⟨u, _ | ⟨v, rest⟩⟩
    · exact .inl rfl
    · exact leaves_bind (leaves_single u excludeAnchor excludeActive) c
    · exact .inl rfl
  | _ => cases h

lemma leaves_mapM {α β : Type} (f : α → Except TargetError β) (l : List α) (a : Arena) :
    (l.mapM fun b => (liftM (f b) : Resolving β)).leaves a = a := by
  induction l with
  | nil => rfl
  | cons b rest ih =>
    rw [List.mapM_cons]
    cases f b with
    | error e => exact leaves_bind_error _ (outcome_lift _ a)
    | ok d =>
      rw [leaves_bind_ok _ (outcome_lift _ a), leaves_bind fun _ _ => rfl]
      exact ih

lemma leaves_joined (r : RangeDescriptor) (anchors actives : List Target) (a : Arena) :
    (do
      if anchors.length ≠ actives.length then
        throw (.rangeLengthMismatch anchors.length actives.length)
      let found ← (anchors.zip actives).mapM fun p => (liftM (r.between p.1 p.2))
      return found.flatten : Resolving (List Target)).leaves a = a := by
  dsimp only
  split_ifs
  · rfl
  · rw [leaves_bind fun _ _ => rfl]
    exact leaves_mapM _ _ a

lemma continues_first (failure : TargetError) (m : Modifier) (rest : List Modifier) (t : Target) :
    Continues cx options (first failure (m :: rest) t) (modify m t) := by
  intro x a c hx
  have hrun : (first failure (m :: rest) t).run cx options = tryCatch (m.run cx t) fun e =>
      if e.isRecoverable then Modifier.runFirst cx e rest t else throw e := by
    rw [run, Modifier.runFirst]
  replace hx : (m.run cx t).outcome a = (x, c) := hx
  rw [hrun]
  cases x with
  | ok l =>
    rw [leaves, outcome_tryCatch_ok _ hx]
    exact .inl rfl
  | error e =>
    rw [leaves, outcome_tryCatch_error _ hx]
    simp only [resume?]
    split_ifs
    · rfl
    · exact .inl rfl

theorem continues_of_begin (h : task.begin? cx options = some part) :
    Continues cx options task part := by
  cases task with
  | infer t => cases h
  | inferEach targets =>
    cases targets with
    | nil => cases h
    | cons t rest =>
      cases h
      refine continues_of_bind (fun a => rfl) (fun _ => rfl) fun l c => ?_
      exact leaves_bind (fun _ _ => rfl) c
  | modify m t => exact continues_beginModify h
  | modifyEach m targets =>
    cases targets with
    | nil => cases h
    | cons t rest =>
      cases h
      refine continues_of_bind (fun a => rfl) (fun _ => rfl) fun l c => ?_
      exact leaves_bind (fun _ _ => rfl) c
  | modifyAll modifiers targets =>
    cases modifiers with
    | nil => cases h
    | cons m rest =>
      cases h
      have hrun : Modifier.runAll cx (m :: rest) targets =
          Modifier.runAll cx rest targets >>= forEach (m.run cx) := by rw [Modifier.runAll]
      exact continues_of_bind (fun a => congrArg (fun x => x.leaves a) hrun) (fun _ => rfl)
        fun l c => rfl
  | extent modifiers t =>
    cases modifiers with
    | nil => cases h
    | cons m rest =>
      cases h
      have hrun : Modifier.runExtent cx (m :: rest) t =
          Modifier.runAll cx rest [t] >>= forEach (m.run cx) := by rw [Modifier.runExtent]
      exact continues_of_bind (fun a => congrArg (fun x => x.leaves a) hrun) (fun _ => rfl)
        fun l c => rfl
  | first failure modifiers t =>
    cases modifiers with
    | nil => cases h
    | cons m rest =>
      cases h
      exact continues_first failure m rest t
  | inOrder modifiers targets =>
    cases modifiers with
    | nil => cases h
    | cons m rest =>
      cases h
      exact continues_of_bind (fun a => rfl) (fun _ => rfl) fun l c => rfl
  | place modifiers targets =>
    cases h
    refine continues_of_bind (fun a => rfl) (fun _ => rfl) fun l c => ?_
    simp only [resume?]
    cases options.infersToken with
    | true => rfl
    | false => exact .inl rfl
  | refine modifiers targets =>
    cases h
    exact continues_of_bind (fun a => rfl) (fun _ => rfl) fun l c => rfl
  | primitive p =>
    rw [begin?] at h
    split at h
    · next hmarked =>
      cases h
      refine continues_of_leaves_eq (fun _ => rfl) fun a => ?_
      exact leaves_bind_ok _ (congrArg (fun x => (x, a)) hmarked)
    · cases h
  | describe d =>
    cases d with
    | primitive p =>
      cases h
      have hrun : (TargetDescriptor.primitive p).resolve cx options = p.resolve cx options := by
        rw [TargetDescriptor.resolve]
      exact continues_of_leaves_eq (fun _ => rfl) fun a => congrArg (fun x => x.leaves a) hrun
    | range r =>
      cases h
      have hrun : (TargetDescriptor.range r).resolve cx options = r.resolve cx options := by
        rw [TargetDescriptor.resolve]
      refine continues_of_bind (fun a => congrArg (fun x => x.leaves a) hrun) (fun _ => rfl)
        fun l c => ?_
      exact leaves_bind (leaves_joined r l) c
    | list ds =>
      cases h
      have hrun : (TargetDescriptor.list ds).resolve cx options =
          TargetDescriptor.resolveElements cx options [] ds := by rw [TargetDescriptor.resolve]
      exact continues_of_leaves_eq (fun _ => rfl) fun a => congrArg (fun x => x.leaves a) hrun
  | elements found ds =>
    cases ds with
    | nil => cases h
    | cons d rest =>
      cases h
      have hrun : TargetDescriptor.resolveElements cx options found (d :: rest) =
          d.resolve cx options >>= fun targets => TargetDescriptor.resolveElements cx options
            (targets.foldl TargetDescriptor.addNew found) rest := by
        rw [TargetDescriptor.resolveElements]
      exact continues_of_bind (fun a => congrArg (fun x => x.leaves a) hrun) (fun _ => rfl)
        fun l c => rfl
  | describeAll ds =>
    cases ds with
    | nil => cases h
    | cons d rest =>
      cases h
      have hrun (a : Arena) : ((describeAll (d :: rest)).run cx options).leaves a =
          (d.resolve cx options >>= fun l => do
            return l :: (← TargetDescriptor.resolveAll cx options rest)).leaves a := by
        rw [run, TargetDescriptor.resolveAll, List.mapM_cons, leaves_bind fun _ _ => rfl]
        rfl
      refine continues_of_bind hrun (fun _ => rfl) fun l c => ?_
      exact (leaves_bind (fun _ _ => rfl) c).trans (leaves_bind (fun _ _ => rfl) c).symm

lemma adds_infer (t : Target) (a : Arena) : Adds [t] a (((infer t).run cx options).leaves a) := by
  have hrun : ((infer t).run cx options).leaves a = (t.expandCursor cx).leaves a :=
    leaves_bind (fun _ _ => rfl) a
  rw [hrun, Target.expandCursor]
  cases t.inferredToken cx with
  | error e => exact .inl rfl
  | ok token? =>
    cases token? with
    | none => exact .inl rfl
    | some token => exact .inr ⟨t, List.mem_cons_self, rfl⟩

lemma leaves_of_beginModify_eq_none {m : Modifier} {t : Target} (h : beginModify t m = none)
    (a : Arena) : (m.run cx t).leaves a = a := by
  cases m with
  | everyScope s =>
    rw [Modifier.run, if_neg fun hs => by simp [beginModify, hs] at h]
    rfl
  | ordinalScope s start length isEvery =>
    rw [Modifier.run, if_neg fun hs => by simp [beginModify, hs] at h]
    rfl
  | relativeScope s offset length direction isEvery =>
    rw [Modifier.run, if_neg fun hs => by simp [beginModify, hs] at h]
    rfl
  | head modifiers => cases h
  | tail modifiers => cases h
  | modifyIfUntyped m =>
    rw [Modifier.run, if_pos (by simpa [beginModify] using h)]
    rfl
  | modifyIfWeak m =>
    rw [Modifier.run, if_neg (by simpa [beginModify] using h)]
    rfl
  | cascading modifiers => cases h
  | range anchor active excludeAnchor excludeActive => cases h
  | _ =>
    rw [Modifier.run]
    rfl

theorem adds_of_begin_eq_none (h : task.begin? cx options = none) (a : Arena) :
    Adds task.targets a ((task.run cx options).leaves a) := by
  cases task with
  | infer t => exact adds_infer t a
  | inferEach targets =>
    cases targets with
    | nil => exact .inl rfl
    | cons t rest => cases h
  | modify m t => exact .inl (leaves_of_beginModify_eq_none h a)
  | modifyEach m targets =>
    cases targets with
    | nil => exact .inl rfl
    | cons t rest => cases h
  | modifyAll modifiers targets =>
    cases modifiers with
    | nil =>
      rw [run, Modifier.runAll]
      exact .inl rfl
    | cons m rest => cases h
  | extent modifiers t =>
    cases modifiers with
    | nil =>
      rw [run, Modifier.runExtent]
      exact .inl rfl
    | cons m rest => cases h
  | first failure modifiers t =>
    cases modifiers with
    | nil =>
      rw [run, Modifier.runFirst]
      exact .inl rfl
    | cons m rest => cases h
  | inOrder modifiers targets =>
    cases modifiers with
    | nil => exact .inl rfl
    | cons m rest => cases h
  | place modifiers targets => cases h
  | refine modifiers targets => cases h
  | primitive p =>
    rw [begin?] at h
    split at h
    · cases h
    · next hmarked => exact .inl (leaves_bind_error _ (congrArg (fun x => (x, a)) hmarked))
  | describe d => cases d <;> cases h
  | elements found ds =>
    cases ds with
    | nil =>
      rw [run, TargetDescriptor.resolveElements]
      exact .inl rfl
    | cons d rest => cases h
  | describeAll ds =>
    cases ds with
    | nil => exact .inl rfl
    | cons d rest => cases h

end

end Task

inductive Request where
  | resolve (d : TargetDescriptor)
  | resolveAll (ds : List TargetDescriptor)

namespace Request

def task : Request → Task
  | resolve d => .describe d
  | resolveAll ds => .describeAll ds

def serve (cx : Context) (options : ResolveOptions) :
    List Request → Arena → List (Except TargetError (List Target)) × Arena
  | [], a => ([], a)
  | r :: rest, a =>
    let (x, c) := (r.task.run cx options).outcome a
    let (xs, c') := serve cx options rest c
    (x :: xs, c')

/-- Whether a resolver comes across a task, with some arena, while it serves requests. -/
inductive Meets (cx : Context) (options : ResolveOptions) :
    List Request → Arena → Task → Arena → Prop
  | here (r : Request) (rest : List Request) (a : Arena) : Meets cx options (r :: rest) a r.task a
  | later {r : Request} {rest : List Request} {a b c : Arena} {task : Task}
      {x : Except TargetError (List Target)} (h : (r.task.run cx options).outcome a = (x, c))
      (hrest : Meets cx options rest c task b) : Meets cx options (r :: rest) a task b
  | begins {rs : List Request} {a b : Arena} {task part : Task}
      (h : Meets cx options rs a task b) (hpart : task.begin? cx options = some part) :
      Meets cx options rs a part b
  | resumes {rs : List Request} {a b c : Arena} {task part next : Task}
      {x : Except TargetError (List Target)} (h : Meets cx options rs a task b)
      (hpart : task.begin? cx options = some part)
      (hx : (part.run cx options).outcome b = (x, c)) (hnext : task.resume? options x = some next) :
      Meets cx options rs a next c

end Request

end Referent
