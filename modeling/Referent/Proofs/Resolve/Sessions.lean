import Mathlib.Tactic.Common
import Referent.Proofs.Resolve.Links
import Referent.Proofs.Target.Derivation

/-! Links over several commands. Each of them has an arena of its own, but what is stored between them
keeps the links into earlier arenas. -/

namespace Referent

open Resolving

def Target.unlinked (t : Target) : Target := { t with that := none }

namespace Context

variable {cx : Context}

def unlinked (cx : Context) : Context :=
  { cx with stored := cx.stored.map fun e => (e.1, e.2.map Target.unlinked) }

def staleLinks (cx : Context) : List (Option Nat) :=
  (cx.stored.flatMap Prod.snd).map Target.that

/-- One step of a session: the host changes anything but what is stored, or stores what it has got for
a request. -/
inductive Follows : Context → Context → Prop
  | edited {cx cx' : Context} (h : cx'.stored = cx.stored) : Follows cx cx'
  | stored {cx : Context} {options : ResolveOptions} {r : Request} {l : List Target} {a : Arena}
      (key : StoredKey) (h : (r.task.run cx options).outcome .empty = (.ok l, a)) :
      Follows cx (cx.withStored key l)

def InSession (cx : Context) : Prop :=
  ∃ start : Context, start.stored = [] ∧ Relation.ReflTransGen Follows start cx

lemma core_unlinked : cx.unlinked.core = cx.core := by
  simp only [core, unlinked, List.map_map]
  congr 2
  funext e
  simp only [Function.comp_apply, List.map_map]
  rfl

lemma stored?_unlinked (key : StoredKey) :
    cx.unlinked.stored? key = (cx.stored? key).map (List.map Target.unlinked) := by
  unfold stored? unlinked
  rw [List.find?_map, Option.map_map, Option.map_map]
  rfl

end Context

def Linking.stale (links : List (Option Nat)) : Linking where
  arenas a g := a.Mirrors links g
  targets _ g t t' := g.Links t' ∧ Arena.Leaves links t t'
  unlinked h h' := ⟨Arena.links_of_none h', .inl (h.trans h'.symm)⟩
  grows h := ⟨h.1.push, h.2⟩
  pushes h hs := h.push hs.1 hs.2
  links {_ _ _ s'} _ t' h := ⟨Arena.links_withThat s' t', .inl (congrArg some h.size.symm)⟩

namespace Request

variable {cx : Context} {options : ResolveOptions}

lemma marksAlike_unlinked :
    (Linking.stale cx.staleLinks).MarksAlike False (fun _ => True) cx cx.unlinked := by
  refine (Linking.marksAlike False.elim rfl fun key a g _ => ?_).weaken fun _ _ => trivial
  rw [Context.stored?_unlinked]
  cases h : cx.stored? key with
  | none => exact .none
  | some l =>
    refine .some (List.forall₂_map_right_iff.mpr (List.forall₂_same.mpr fun t ht => ?_))
    have hmem := Context.mem_stored h t ht
    refine ⟨Context.stored_mem_editors hmem, rfl, False.elim, Arena.links_of_none rfl, .inr ?_⟩
    exact ⟨rfl, List.mem_map_of_mem hmem⟩

/-- Whatever earlier commands have left behind, what a request gives leads to its beginning exactly if
that does not have a stale link into the arena. -/
theorem knows_beginning_iff (cx : Context) (options : ResolveOptions) (r : Request) {l : List Target}
    {a : Arena} (h : (r.task.run cx options).outcome .empty = (.ok l, a)) :
    ∃ l' g, (r.task.run cx.unlinked options).outcome .empty = (.ok l', g) ∧ g.size = a.size ∧
      List.Forall₂ (fun t t' => t'.core = t.core ∧
        ∃ e e', a.Derived g t t' e e' ∧ e'.that = none ∧
          (e.that = none ∨ ∃ s ∈ cx.stored.flatMap Prod.snd, s.that = e.that) ∧
          (a.Knows g t t' ↔ ∀ i ∈ e.that, a.size ≤ i)) l l' := by
  have hcx : cx.Alike False (fun _ => True) cx.unlinked := ⟨Context.core_unlinked, False.elim⟩
  obtain ⟨l', g, h', hr, hmatch⟩ := (r.agrees_run hcx marksAlike_unlinked False.elim options
    Arena.mirrors_empty).of_ok h
  have hm : a.Mirrors cx.staleLinks g := hr.arenas
  refine ⟨l', g, h', hm.size, List.Forall₂.imp (fun t t' ht => ⟨ht.core, ?_⟩) hmatch⟩
  obtain ⟨hlinks, hleaves⟩ := ht.linked
  obtain ⟨e, e', hderived, hend⟩ := hm.exists_beginning hlinks t
  refine ⟨e, e', hderived, hend, ?_, hm.knows_iff hleaves hderived hend⟩
  obtain heq | ⟨_, hstale⟩ := (hderived.inferred hm hleaves).2
  · exact .inl (heq.trans hend)
  · exact .inr (List.mem_map.mp hstale)

def inferredFromItself (m : Mark) : Request :=
  .resolve (.primitive ⟨m, [.modifyIfWeak .keepEmptyFilter]⟩)

def storedCursor (text : List Char) (id : Nat) : Context :=
  (cursorAt text).withStored .that
    [(Target.ofSelection (.ofDocument 1 (.ofText 1 "plaintext" text)) default).withThat id]

theorem knows_beginning_storedCursor :
    ∃ t a t' g, ((inferredFromItself .that).task.run (storedCursor "ab".toList 5)
        { infersToken := false }).outcome .empty = (.ok [t], a) ∧
      a.size = 1 ∧ a.Knows g t t' := by
  obtain ⟨l', g, _, _, hl⟩ := knows_beginning_iff (storedCursor "ab".toList 5)
    { infersToken := false } (inferredFromItself .that) rfl
  cases hl with
  | cons ht _ =>
    obtain ⟨_, e, _, _, _, hlink, hknows⟩ := ht
    refine ⟨_, _, _, g, rfl, rfl, hknows.mpr fun i hi => ?_⟩
    obtain hnone | ⟨s, hs, hlink⟩ := hlink
    · rw [hnone] at hi
      cases hi
    · obtain rfl := List.mem_singleton.mp hs
      rw [← hlink] at hi
      cases hi
      decide

theorem not_knows_in_session :
    ∃ cx t a, cx.InSession ∧ ((inferredFromItself .that).task.run cx
        { infersToken := false }).outcome .empty = (.ok [t], a) ∧
      a.root? t = none ∧ ∀ g t', ¬a.Knows g t t' := by
  have hsession (l : List Target) (a : Arena)
      (h : ((inferredFromItself .cursor).task.run (cursorAt "ab".toList)
        { infersToken := false }).outcome .empty = (.ok l, a)) :
      ((cursorAt "ab".toList).withStored .that l).InSession :=
    ⟨cursorAt "ab".toList, rfl, .single (.stored .that h)⟩
  refine ⟨_, _, _, hsession _ _ rfl, rfl, rfl, ?_⟩
  rintro g t' ⟨r, r', hroot, _⟩
  cases hroot

end Request

end Referent
