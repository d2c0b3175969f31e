import Mathlib.Tactic.Common
import Referent.Proofs.Resolve.Core
import Referent.Proofs.Resolve.Made
import Referent.Proofs.Resolve.Outcome

/-! Two runs of modifiers on targets with one core go the same way, over whatever arenas. What they give
has one core again, lies in the editor of the target, and is well formed if the host data are. -/

namespace Referent

open Resolving

structure IsStage (f : Context → Target → Except TargetError (List Target)) : Prop where
  core : ∀ cx t, f cx.core t.core = (f cx t).map (List.map Target.core)
  made : ∀ {sound : Prop} {cx : Context} {t : Target}, (sound → cx.Fits t.editor) →
    (sound → t.WellFormed) → Target.GivesMade sound t.editor (f cx t)

namespace IsStage

open Target

lemma containingScope (s : ScopeType) : IsStage fun cx t => t.containingScope cx s :=
  ⟨fun cx t => core_containingScope cx t s, fun h _ => made_containingScope h s⟩

lemma everyScope (s : ScopeType) : IsStage fun cx t => t.everyScope cx s :=
  ⟨fun cx t => core_everyScope cx t s, fun h _ => made_everyScope h s⟩

lemma preferredScope (s : ScopeType) : IsStage fun cx t => t.preferredScope cx s :=
  ⟨fun cx t => core_preferredScope cx t s, fun h _ => made_preferredScope h s⟩

lemma contiguousScope (s : ScopeType) : IsStage fun cx t => t.contiguousScope cx s :=
  ⟨fun cx t => core_contiguousScope cx t s, fun h _ => made_contiguousScope h s⟩

lemma ordinalScope (s : ScopeType) (start : Int) (length : Nat) (isEvery : Bool) :
    IsStage fun cx t => t.ordinalScope cx s start length isEvery :=
  ⟨fun cx t => core_ordinalScope cx t s start length isEvery,
    fun h _ => made_ordinalScope h s start length isEvery⟩

lemma relativeScope (s : ScopeType) (offset length : Nat) (direction : Direction)
    (isEvery : Bool) : IsStage fun cx t => t.relativeScope cx s offset length direction isEvery :=
  ⟨fun cx t => core_relativeScope cx t s offset length direction isEvery,
    fun h _ => made_relativeScope h s offset length direction isEvery⟩

lemma enclosingPair (delimiter : PairName) (inclusion : Option DelimiterInclusion)
    (direction : Option PairDirection) :
    IsStage fun cx t => t.enclosingPair cx delimiter inclusion direction :=
  ⟨fun cx t => core_enclosingPair cx t delimiter inclusion direction,
    fun h _ => made_enclosingPair h delimiter inclusion direction⟩

lemma interiorOnly : IsStage fun cx t => t.interiorOnly cx :=
  ⟨core_interiorOnly, made_interiorOnly⟩

lemma boundaryOnly : IsStage fun cx t => t.boundaryOnly cx :=
  ⟨core_boundaryOnly, made_boundaryOnly⟩

lemma leading : IsStage fun _ t => t.delimiterTarget t.leading .noLeadingDelimiter :=
  ⟨fun _ t => core_delimiterTarget t _ _, fun _ ht => made_delimiterTarget _ fun hs => (ht hs).leading⟩

lemma trailing : IsStage fun _ t => t.delimiterTarget t.trailing .noTrailingDelimiter :=
  ⟨fun _ t => core_delimiterTarget t _ _, fun _ ht => made_delimiterTarget _ fun hs => (ht hs).trailing⟩

lemma subpiece (pieceType : PieceType) (anchor active : Int)
    (excludeAnchor excludeActive : Bool) :
    IsStage fun cx t => t.subpiece cx pieceType anchor active excludeAnchor excludeActive :=
  ⟨fun cx t => core_subpiece cx t pieceType anchor active excludeAnchor excludeActive,
    fun h ht => made_subpiece h ht pieceType anchor active excludeAnchor excludeActive⟩

lemma position (kind : PositionKind) : IsStage fun _ t => .ok [t.position kind] :=
  ⟨fun _ t => congrArg (fun u => Except.ok [u]) (core_position t kind),
    fun _ ht => givesMade_singleton (made_position kind ht)⟩

lemma rawSelection : IsStage fun _ t => .ok [.raw t.editor t.content t.isReversed] :=
  ⟨fun _ _ => rfl, fun _ ht => givesMade_singleton (made_raw _ fun hs => (ht hs).content)⟩

lemma visibleRanges : IsStage fun _ t => .ok t.visibleRanges :=
  ⟨fun _ t => congrArg Except.ok (core_visibleRanges t), fun h _ => .ok (made_visibleRanges h)⟩

lemma occurrences (query : OccurrenceQuery) : IsStage fun cx t => t.occurrences cx query :=
  ⟨fun cx t => core_occurrences cx t query, fun h _ => made_occurrences h query⟩

end IsStage

/-- Contexts that modifiers cannot tell apart, the first of which may be promised to fit some
editors. -/
structure Context.Alike (sound : Prop) (E : Editor → Prop) (cx cx' : Context) : Prop where
  core : cx'.core = cx.core
  fits : sound → ∀ e, E e → cx.Fits e

namespace Linking

/-- Targets that correspond to each other. The first one lies in some editor and may be promised to be
well formed. -/
structure Matches (L : Linking) (sound : Prop) (E : Editor → Prop) (a a' : Arena)
    (t t' : Target) : Prop where
  editor : E t.editor
  core : t'.core = t.core
  wellFormed : sound → t.WellFormed
  linked : L.targets a a' t t'

def MatchAll (L : Linking) (sound : Prop) (E : Editor → Prop) (a a' : Arena)
    (l l' : List Target) : Prop := List.Forall₂ (L.Matches sound E a a') l l'

variable {L : Linking} {sound : Prop} {E : Editor → Prop} {a a' c c' : Arena} {s s' t t' : Target}
  {l l' : List Target} {cx cx' : Context}

namespace Matches

lemma keep (h : L.Matches sound E a a' t t') (hr : L.Reaches a a' c c') :
    L.Matches sound E c c' t t' := { h with linked := hr.keeps h.linked }

lemma weaken {E' : Editor → Prop} (h : L.Matches sound E a a' t t') (hE : E t.editor → E' t.editor) :
    L.Matches sound E' a a' t t' := { h with editor := hE h.editor }

lemma flags (h : L.Matches sound E a a' t t') : t'.flags = t.flags := by
  simpa only [Target.core_flags] using congrArg Target.flags h.core

lemma content (h : L.Matches sound E a a' t t') : t'.content = t.content := by
  simpa only [Target.core_content] using congrArg Target.content h.core

lemma text (h : L.Matches sound E a a' t t') : t'.text = t.text := by
  simpa only [Target.core_text] using congrArg Target.text h.core

lemma ofMade (hs : s.Made sound t.editor) (he : E t.editor) (hs' : s'.that = none)
    (hcore : s'.core = s.core) : L.Matches sound E a a' s s' where
  editor := hs.editor_eq ▸ he
  core := hcore
  wellFormed := hs.wellFormed
  linked := L.unlinked hs.that_eq hs'

lemma withThat {id id' : Nat} (h : L.Matches sound E a a' t t')
    (hl : L.targets a a' (t.withThat id) (t'.withThat id')) :
    L.Matches sound E a a' (t.withThat id) (t'.withThat id') where
  editor := h.editor
  core := h.core
  wellFormed := fun hs => (h.wellFormed hs).withThat id
  linked := hl

end Matches

namespace MatchAll

lemma keep (h : L.MatchAll sound E a a' l l') (hr : L.Reaches a a' c c') :
    L.MatchAll sound E c c' l l' := List.Forall₂.imp (fun _ _ ht => ht.keep hr) h

lemma exists_of_mem (h : L.MatchAll sound E a a' l l') (ht : t ∈ l) :
    ∃ t' ∈ l', L.Matches sound E a a' t t' := by
  induction h with
  | nil => exact absurd ht List.not_mem_nil
  | cons hs _ ih =>
    rcases List.mem_cons.mp ht with rfl | ht
    · exact ⟨_, List.mem_cons_self, hs⟩
    · obtain ⟨t', ht', hmatch⟩ := ih ht
      exact ⟨t', List.mem_cons_of_mem _ ht', hmatch⟩

lemma nil : L.MatchAll sound E a a' [] [] := List.Forall₂.nil

lemma singleton (h : L.Matches sound E a a' t t') : L.MatchAll sound E a a' [t] [t'] :=
  List.Forall₂.cons h .nil

lemma append {k k' : List Target} (h : L.MatchAll sound E a a' l l')
    (hk : L.MatchAll sound E a a' k k') : L.MatchAll sound E a a' (l ++ k) (l' ++ k') :=
  List.rel_append h hk

lemma map {f f' : Target → Target} (h : L.MatchAll sound E a a' l l')
    (hf : ∀ t t', L.Matches sound E a a' t t' → L.Matches sound E a a' (f t) (f' t')) :
    L.MatchAll sound E a a' (l.map f) (l'.map f') := by
  induction h with
  | nil => exact .nil
  | cons ht _ ih => exact .cons (hf _ _ ht) ih

lemma ofMade {e : Editor} (he : E e) (hl : ∀ t ∈ l, t.Made sound e)
    (hl' : ∀ t ∈ l', t.that = none) (hcore : l'.map Target.core = l.map Target.core) :
    L.MatchAll sound E a a' l l' := by
  induction l generalizing l' with
  | nil =>
    rw [List.map_nil, List.map_eq_nil_iff] at hcore
    rw [hcore]
    exact .nil
  | cons t rest ih =>
    cases l' with
    | nil => cases hcore
    | cons t' rest' =>
      obtain ⟨hhead, htail⟩ := List.cons.inj hcore
      have hmade := hl t List.mem_cons_self
      refine .cons ⟨hmade.editor_eq ▸ he, hhead, hmade.wellFormed, ?_⟩ ?_
      · exact L.unlinked hmade.that_eq (hl' t' List.mem_cons_self)
      · exact ih (fun u hu => hl u (List.mem_cons_of_mem t hu))
          (fun u hu => hl' u (List.mem_cons_of_mem t' hu)) htail

end MatchAll

lemma agrees_stage {f : Context → Target → Except TargetError (List Target)} (hf : IsStage f)
    (hcx : cx.Alike sound E cx') (h : L.arenas a a') (ht : L.Matches sound E a a' t t') :
    L.Agrees a a' (liftM (f cx t)) (liftM (f cx' t')) (L.MatchAll sound E) := by
  have hcore : (f cx' t').map (List.map Target.core) = (f cx t).map (List.map Target.core) := by
    rw [← hf.core, ← hf.core, ht.core, hcx.core]
  refine .lift h hcore fun l l' hl hl' heq => ?_
  have hmade := hf.made (fun hs => hcx.fits hs _ ht.editor) ht.wellFormed l hl
  have hmade' := hf.made (fun h : False => h.elim) False.elim l' hl'
  exact .ofMade ht.editor hmade (fun u hu => (hmade' u hu).that_eq) heq

lemma agrees_forEach {f f' : Target → Resolving (List Target)}
    (hf : ∀ ⦃c c' t t'⦄, L.arenas c c' → L.Matches sound E c c' t t' →
      L.Agrees c c' (f t) (f' t') (L.MatchAll sound E))
    (h : L.arenas a a') (hl : L.MatchAll sound E a a' l l') :
    L.Agrees a a' (forEach f l) (forEach f' l') (L.MatchAll sound E) := by
  induction l generalizing l' a a' with
  | nil =>
    cases hl
    exact .pure h .nil
  | cons t rest ih =>
    cases hl with
    | cons ht hrest =>
      refine (hf h ht).bind fun hr hfirst => ?_
      refine (ih hr.arenas (MatchAll.keep hrest hr)).bind fun hr' hothers => ?_
      exact .pure hr'.arenas ((hfirst.keep hr').append hothers)

lemma agrees_inferredFrom {x x' : Resolving (List Target)} (ht : L.Matches sound E a a' t t')
    (hx : L.Agrees a a' x x' (L.MatchAll sound E)) :
    L.Agrees a a' (inferredFrom t x) (inferredFrom t' x') (L.MatchAll sound E) := by
  refine hx.bind fun hr hfound => ?_
  refine (Agrees.remember hr.arenas (ht.keep hr).linked).bind fun hr' hlinks => ?_
  exact .pure hr'.arenas ((hfound.keep hr').map fun u u' hu => hu.withThat (hlinks u u'))

lemma agrees_expandCursor (hcx : cx.Alike sound E cx') (h : L.arenas a a')
    (ht : L.Matches sound E a a' t t') :
    L.Agrees a a' (t.expandCursor cx) (t'.expandCursor cx') (L.Matches sound E) := by
  have hcore : (t'.inferredToken cx').map (Option.map Target.core) =
      (t.inferredToken cx).map (Option.map Target.core) := by
    rw [← Target.core_inferredToken, ← Target.core_inferredToken, ht.core, hcx.core]
  have hmade := Target.made_inferredToken fun hs : sound => hcx.fits hs _ ht.editor
  have hmade' := Target.made_inferredToken (False.elim : False → cx'.Fits t'.editor)
  have htoken : L.Agrees a a' (liftM (t.inferredToken cx)) (liftM (t'.inferredToken cx'))
      fun c c' => Option.Rel (L.Matches sound E c c') := by
    refine .lift h hcore fun found found' hfound hfound' heq => ?_
    cases found with
    | none =>
      cases found' with
      | none => exact .none
      | some u' => cases heq
    | some u =>
      cases found' with
      | none => cases heq
      | some u' =>
        exact .some (.ofMade (hmade _ hfound u rfl) ht.editor (hmade' _ hfound' u' rfl).that_eq
          (Option.some.inj heq))
  refine htoken.bind fun hr hfound => ?_
  cases hfound with
  | none => exact .pure hr.arenas (ht.keep hr)
  | some hu =>
    refine (Agrees.remember hr.arenas (ht.keep hr).linked).bind fun hr' hlinks => ?_
    exact .pure hr'.arenas ((hu.keep hr').withThat (hlinks _ _))

lemma agrees_resolveOccurrences (hcx : cx.Alike sound E cx') (query : OccurrenceQuery)
    (h : L.arenas a a') (ht : L.Matches sound E a a' t t') :
    L.Agrees a a' (t.resolveOccurrences cx query) (t'.resolveOccurrences cx' query)
      (L.MatchAll sound E) :=
  (agrees_expandCursor hcx h ht).bind fun hr htoken =>
    agrees_stage (.occurrences query) hcx hr.arenas htoken

lemma agrees_single (h : L.arenas a a') (hl : L.MatchAll sound E a a' l l') :
    L.Agrees a a' (liftM (Target.single l)) (liftM (Target.single l')) (L.Matches sound E) := by
  cases hl with
  | nil => exact .error rfl rfl (.refl h)
  | cons ht hrest =>
    cases hrest with
    | nil => exact .ok rfl rfl (.refl h) ht
    | cons hu hrest =>
      refine .error rfl ?_ (.refl h)
      simp only [outcome_lift, Target.single, List.length_cons, hrest.length_eq]

lemma Matches.rangeBetween {e : Editor} (excludeAnchor excludeActive : Bool)
    (hs : L.Matches sound (· = e) a a' s s') (ht : L.Matches sound (· = e) a a' t t') :
    L.Matches sound (· = e) a a' (s.rangeBetween t excludeAnchor excludeActive)
      (s'.rangeBetween t' excludeAnchor excludeActive) := by
  have hmade := Target.made_rangeBetween excludeAnchor excludeActive
    (ht.editor.trans hs.editor.symm) hs.wellFormed ht.wellFormed
  refine .ofMade hmade hs.editor (Target.that_rangeBetween ..) ?_
  rw [← Target.core_rangeBetween, ← Target.core_rangeBetween, hs.core, ht.core]

lemma Matches.continuous {e : Editor} (includeStart includeStop b : Bool)
    (hs : L.Matches sound (· = e) a a' s s') (ht : L.Matches sound (· = e) a a' t t') :
    L.Matches sound (· = e) a a' (s.continuous t includeStart includeStop b)
      (s'.continuous t' includeStart includeStop b) := by
  have hd : t.document = s.document := congrArg Editor.document (ht.editor.trans hs.editor.symm)
  have hmade := Target.made_continuous includeStart includeStop b (fun _ => hd) hs.wellFormed
    ht.wellFormed
  refine .ofMade hmade hs.editor (Target.that_continuous ..) ?_
  rw [← Target.core_continuous, ← Target.core_continuous, hs.core, ht.core]

end Linking

namespace Modifier

def parts : Modifier → List Modifier
  | head modifiers => modifiers
  | tail modifiers => modifiers
  | modifyIfUntyped m => [m]
  | modifyIfWeak m => [m]
  | cascading modifiers => modifiers
  | range anchor active _ _ => [anchor, active]
  | _ => []

lemma sizeOf_lt_of_mem_parts {m n : Modifier} (h : n ∈ m.parts) : sizeOf n < sizeOf m := by
  cases m with
  | head modifiers =>
    have hlt := List.sizeOf_lt_of_mem (show n ∈ modifiers from h)
    simp only [head.sizeOf_spec]
    omega
  | tail modifiers =>
    have hlt := List.sizeOf_lt_of_mem (show n ∈ modifiers from h)
    simp only [tail.sizeOf_spec]
    omega
  | cascading modifiers =>
    have hlt := List.sizeOf_lt_of_mem (show n ∈ modifiers from h)
    simp only [cascading.sizeOf_spec]
    omega
  | modifyIfUntyped m =>
    obtain rfl := List.mem_singleton.mp h
    simp only [modifyIfUntyped.sizeOf_spec]
    omega
  | modifyIfWeak m =>
    obtain rfl := List.mem_singleton.mp h
    simp only [modifyIfWeak.sizeOf_spec]
    omega
  | range anchor active _ _ =>
    simp only [range.sizeOf_spec]
    rcases List.mem_cons.mp h with rfl | h
    · omega
    · obtain rfl := List.mem_singleton.mp h
      omega
  | _ => exact absurd h List.not_mem_nil

theorem induction {P : Modifier → Prop} (step : ∀ m, (∀ n ∈ m.parts, P n) → P m) (m : Modifier) :
    P m :=
  step m fun n hn =>
    have := sizeOf_lt_of_mem_parts hn
    induction step n
termination_by sizeOf m

end Modifier

namespace Linking

variable {L : Linking} {sound : Prop} {E : Editor → Prop} {e : Editor} {cx cx' : Context}

def RunsAlike (L : Linking) (sound : Prop) (E : Editor → Prop) (cx cx' : Context) (m : Modifier) : Prop :=
  ∀ ⦃a a' t t'⦄, L.arenas a a' → L.Matches sound E a a' t t' →
    L.Agrees a a' (m.run cx t) (m.run cx' t') (L.MatchAll sound E)

variable {a a' : Arena} {t t' : Target} {l l' : List Target} {ms : List Modifier}

lemma agrees_runAll (hms : ∀ m ∈ ms, L.RunsAlike sound E cx cx' m) (h : L.arenas a a')
    (hl : L.MatchAll sound E a a' l l') :
    L.Agrees a a' (Modifier.runAll cx ms l) (Modifier.runAll cx' ms l')
      (L.MatchAll sound E) := by
  induction ms with
  | nil =>
    rw [Modifier.runAll, Modifier.runAll]
    exact .pure h hl
  | cons m rest ih =>
    rw [Modifier.runAll, Modifier.runAll]
    refine (ih fun n hn => hms n (List.mem_cons_of_mem m hn)).bind fun hr hinner => ?_
    exact agrees_forEach (hms m List.mem_cons_self) hr.arenas hinner

lemma agrees_runExtent (hcx : cx.Alike sound E cx')
    (hms : ∀ m ∈ ms, L.RunsAlike sound E cx cx' m) (h : L.arenas a a')
    (ht : L.Matches sound E a a' t t') :
    L.Agrees a a' (Modifier.runExtent cx ms t) (Modifier.runExtent cx' ms t')
      (L.MatchAll sound E) := by
  cases ms with
  | nil =>
    rw [Modifier.runExtent, Modifier.runExtent]
    exact agrees_stage (.containingScope .line) hcx h ht
  | cons m rest =>
    rw [Modifier.runExtent, Modifier.runExtent]
    refine (agrees_runAll (fun n hn => hms n (List.mem_cons_of_mem m hn)) h
      (.singleton ht)).bind fun hr hinner => ?_
    exact agrees_forEach (hms m List.mem_cons_self) hr.arenas hinner

lemma agrees_runFirst (hms : ∀ m ∈ ms, L.RunsAlike sound E cx cx' m) (failure : TargetError)
    (h : L.arenas a a') (ht : L.Matches sound E a a' t t') :
    L.Agrees a a' (Modifier.runFirst cx failure ms t) (Modifier.runFirst cx' failure ms t')
      (L.MatchAll sound E) := by
  induction ms generalizing failure a a' with
  | nil =>
    rw [Modifier.runFirst, Modifier.runFirst]
    exact .throw failure h
  | cons m rest ih =>
    rw [Modifier.runFirst, Modifier.runFirst]
    refine (hms m List.mem_cons_self h ht).tryCatch fun error hr => ?_
    split
    · exact ih (fun n hn => hms n (List.mem_cons_of_mem m hn)) error hr.arenas (ht.keep hr)
    · exact .throw error hr.arenas

theorem runsAlike (hcx : cx.Alike sound (· = e) cx') (m : Modifier) :
    L.RunsAlike sound (· = e) cx cx' m := by
  induction m using Modifier.induction with
  | step m ih =>
    intro a a' t t' h ht
    have occurrences (query : OccurrenceQuery) := agrees_resolveOccurrences hcx query h ht
    cases m with
    | position kind =>
      rw [Modifier.run, Modifier.run]
      exact agrees_stage (.position kind) hcx h ht
    | containingScope s =>
      rw [Modifier.run, Modifier.run]
      exact agrees_stage (.containingScope s) hcx h ht
    | everyScope s =>
      rw [Modifier.run, Modifier.run]
      split
      · exact occurrences .every
      · exact agrees_stage (.everyScope s) hcx h ht
    | preferredScope s =>
      rw [Modifier.run, Modifier.run]
      exact agrees_stage (.preferredScope s) hcx h ht
    | contiguousScope s =>
      rw [Modifier.run, Modifier.run]
      exact agrees_stage (.contiguousScope s) hcx h ht
    | ordinalScope s start length isEvery =>
      rw [Modifier.run, Modifier.run]
      split
      · exact occurrences (.ordinal start length)
      · exact agrees_stage (.ordinalScope s start length isEvery) hcx h ht
    | relativeScope s offset length direction isEvery =>
      rw [Modifier.run, Modifier.run]
      split
      · exact occurrences (.relative offset length direction)
      · exact agrees_stage (.relativeScope s offset length direction isEvery) hcx h ht
    | surroundingPair delimiter inclusion direction =>
      rw [Modifier.run, Modifier.run]
      exact agrees_stage (.enclosingPair delimiter inclusion direction) hcx h ht
    | interiorOnly =>
      rw [Modifier.run, Modifier.run]
      exact agrees_stage .interiorOnly hcx h ht
    | excludeInterior =>
      rw [Modifier.run, Modifier.run]
      exact agrees_stage .boundaryOnly hcx h ht
    | leading =>
      rw [Modifier.run, Modifier.run]
      exact agrees_stage .leading hcx h ht
    | trailing =>
      rw [Modifier.run, Modifier.run]
      exact agrees_stage .trailing hcx h ht
    | head modifiers =>
      rw [Modifier.run, Modifier.run]
      refine (agrees_runExtent hcx ih h ht).bind fun hr hextents => .pure hr.arenas ?_
      exact hextents.map fun u u' hu => hu.continuous true true true (ht.keep hr)
    | tail modifiers =>
      rw [Modifier.run, Modifier.run]
      refine (agrees_runExtent hcx ih h ht).bind fun hr hextents => .pure hr.arenas ?_
      exact hextents.map fun u u' hu => (ht.keep hr).continuous true true false hu
    | subpiece pieceType anchor active excludeAnchor excludeActive =>
      rw [Modifier.run, Modifier.run]
      exact agrees_stage (.subpiece pieceType anchor active excludeAnchor excludeActive) hcx h ht
    | toRawSelection =>
      rw [Modifier.run, Modifier.run]
      exact agrees_stage .rawSelection hcx h ht
    | modifyIfUntyped m =>
      rw [Modifier.run, Modifier.run, ht.flags]
      split
      · exact .pure h (.singleton ht)
      · exact agrees_inferredFrom ht (ih m (List.mem_singleton.mpr rfl) h ht)
    | modifyIfWeak m =>
      rw [Modifier.run, Modifier.run, ht.flags]
      split
      · exact agrees_inferredFrom ht (ih m (List.mem_singleton.mpr rfl) h ht)
      · exact .pure h (.singleton ht)
    | cascading modifiers =>
      rw [Modifier.run, Modifier.run]
      exact agrees_runFirst ih _ h ht
    | range anchor active excludeAnchor excludeActive =>
      rw [Modifier.run, Modifier.run]
      have hanchor := ih anchor List.mem_cons_self
      have hactive := ih active (List.mem_cons_of_mem anchor (List.mem_singleton.mpr rfl))
      refine (hanchor h ht).bind fun hr hl => ?_
      refine (agrees_single hr.arenas hl).bind fun hr₁ hs => ?_
      refine (hactive hr₁.arenas ((ht.keep hr).keep hr₁)).bind fun hr₂ hl => ?_
      refine (agrees_single hr₂.arenas hl).bind fun hr₃ hu => .pure hr₃.arenas (.singleton ?_)
      exact ((hs.keep hr₂).keep hr₃).rangeBetween excludeAnchor excludeActive hu
    | keepContentFilter =>
      rw [Modifier.run, Modifier.run, ht.text]
      split
      · exact .pure h .nil
      · exact .pure h (.singleton ht)
    | keepEmptyFilter =>
      rw [Modifier.run, Modifier.run, ht.content]
      split
      · exact .pure h (.singleton ht)
      · exact .pure h .nil
    | visible =>
      rw [Modifier.run, Modifier.run]
      exact agrees_stage .visibleRanges hcx h ht

lemma agrees_run (hcx : cx.Alike sound E cx') (m : Modifier) : L.RunsAlike sound E cx cx' m := by
  intro a a' t t' h ht
  have halike : cx.Alike sound (· = t.editor) cx' :=
    ⟨hcx.core, fun hs e he => he ▸ hcx.fits hs _ ht.editor⟩
  refine (runsAlike halike m h (ht.weaken fun _ => rfl)).mono fun _ hl => ?_
  exact List.Forall₂.imp (fun _ _ hu => hu.weaken fun he => he ▸ ht.editor) hl

end Linking

end Referent
