import Mathlib.Tactic.Common
import Referent.Proofs.Scope.Core
import Referent.Resolve.Occurrences
import Referent.Resolve.Parts
import Referent.Resolve.Siblings

namespace Referent.Target

variable (cx : Context) (t : Target)

@[simp] lemma core_ofTarget (s : ScopeType) :
    ScopeFinder.ofTarget s t.core = ScopeFinder.ofTarget s t := rfl

lemma core_finding {α β : Type} {x : Except TargetError α} {f : α → Except TargetError β}
    {f' : α → Except TargetError β} {k : β → β} (h : ∀ a, f' a = (f a).map k) :
    (x >>= f') = (x >>= f).map k := by
  cases x with
  | error e => rfl
  | ok a => exact h a

lemma core_containingScope (s : ScopeType) :
    t.core.containingScope cx.core s = (t.containingScope cx s).map (List.map core) := by
  refine core_finding fun f => ?_
  refine bind_eq_map (ScopeFinder.core_containing cx t.editor t.content t.isReversed f) fun found => ?_
  cases found with
  | none => rfl
  | some u => rfl

lemma core_previousScope (f : ScopeFinder) :
    t.core.previousScope cx.core f =
      (t.previousScope cx f).map (Option.map (Prod.map id Scope.core)) := by
  refine bind_eq_map (ScopeFinder.core_walk cx t.editor f _ _ _) fun scopes => ?_
  cases scopes with
  | nil => rfl
  | cons s rest => rfl

lemma core_nextScope (f : ScopeFinder) :
    t.core.nextScope cx.core f =
      (t.nextScope cx f).map (Option.map (Prod.map id Scope.core)) := by
  refine bind_eq_map (ScopeFinder.core_walk cx t.editor f _ _ _) fun scopes => ?_
  cases scopes with
  | nil => rfl
  | cons s rest => rfl

lemma core_closer (previous next : Option (Nat × Scope)) :
    closer (previous.map (Prod.map id Scope.core)) (next.map (Prod.map id Scope.core)) =
      (closer previous next).map Scope.core := by
  cases previous with
  | none =>
    cases next with
    | none => rfl
    | some n => rfl
  | some p =>
    cases next with
    | none => rfl
    | some n =>
      unfold closer
      rw [apply_ite (Option.map Scope.core)]
      rfl

lemma core_nearestScope (s : ScopeType) :
    t.core.nearestScope cx.core s = (t.nearestScope cx s).map (List.map core) := by
  refine core_finding fun f => ?_
  refine bind_eq_map (core_previousScope cx t f) fun previous => ?_
  refine bind_eq_map (core_nextScope cx t f) fun next => ?_
  rw [core_closer]
  cases closer previous next with
  | none => rfl
  | some found => rfl

lemma core_preferredScope (s : ScopeType) :
    t.core.preferredScope cx.core s = (t.preferredScope cx s).map (List.map core) := by
  unfold preferredScope
  rw [core_containingScope]
  cases t.containingScope cx s with
  | error e =>
    cases e with
    | noContainingScope name => exact core_nearestScope cx t s
    | _ => rfl
  | ok found => rfl

lemma core_runEnd (d : Document) (direction : Direction) (s : Scope) (l : List Scope) :
    runEnd d direction s.core (l.map Scope.core) = (runEnd d direction s l).core := by
  induction l generalizing s with
  | nil => rfl
  | cons a rest ih =>
    cases direction with
    | forward =>
      rw [List.map_cons, runEnd, runEnd, ih, apply_ite Scope.core]
      rfl
    | backward =>
      rw [List.map_cons, runEnd, runEnd, ih, apply_ite Scope.core]
      rfl

lemma core_distalScope (f : ScopeFinder) (p : Position) (direction : Direction) :
    t.core.distalScope cx.core f p direction =
      (t.distalScope cx f p direction).map (Option.map Scope.core) := by
  refine bind_eq_map (ScopeFinder.core_scopesAt cx t.editor f p) fun touching => ?_
  rw [ScopeFinder.core_preferred]
  cases f.preferred cx direction.opposite touching with
  | none => rfl
  | some s =>
    refine bind_eq_map (ScopeFinder.core_walk cx t.editor f _ _ _) fun further => ?_
    exact congrArg (fun u => Except.ok (some u)) (core_runEnd _ _ _ _)

lemma core_ofScopes (first last : Scope) (b : Bool) :
    ofScopes first.core last.core b = (ofScopes first last b).core := by
  unfold ofScopes
  rw [Scope.core_beq, apply_ite core, ← core_continuous]
  rfl

lemma core_contiguousScope (s : ScopeType) :
    t.core.contiguousScope cx.core s = (t.contiguousScope cx s).map (List.map core) := by
  refine core_finding fun f => ?_
  refine bind_eq_map (core_distalScope cx t f _ _) fun first => ?_
  refine bind_eq_map (core_distalScope cx t f _ _) fun last => ?_
  cases first with
  | none => rfl
  | some first =>
    cases last with
    | none => rfl
    | some last => exact congrArg (fun u => Except.ok [u]) (core_ofScopes first last _)

lemma core_inferredToken :
    t.core.inferredToken cx.core = (t.inferredToken cx).map (Option.map core) := by
  unfold inferredToken
  rw [apply_ite (Except.map (Option.map core))]
  congr 1
  exact ScopeFinder.core_containing ..

lemma core_siblingScopes (f : ScopeFinder) :
    t.core.siblingScopes cx.core f = (t.siblingScopes cx f).map (List.map Scope.core) := by
  refine bind_eq_map (ScopeFinder.core_iterations cx t.editor t.content f) fun iterations => ?_
  have hcounted : ((iterations.map Iteration.core).map fun i => i.scopes.filter f.countsInEvery) =
      (iterations.map fun i => i.scopes.filter f.countsInEvery).map (List.map Scope.core) := by
    rw [List.map_map, List.map_map]
    congr 1
    funext i
    exact ScopeFinder.core_filter (ScopeFinder.core_countsInEvery f) i.scopes
  dsimp only
  rw [hcounted, List.find?_map]
  have hempty : (fun l : List Scope => !l.isEmpty) ∘ List.map Scope.core =
      fun l => !l.isEmpty := by
    funext l
    simp only [Function.comp, List.isEmpty_map]
  rw [hempty]
  cases (iterations.map fun i => i.scopes.filter f.countsInEvery).find? fun l => !l.isEmpty with
  | none => rfl
  | some scopes => rfl

lemma core_innermostDomain (r : Range) (l : List Scope) :
    innermostDomain r (l.map Scope.core) = innermostDomain r l := by
  unfold innermostDomain
  rw [List.map_map]
  rfl

lemma core_scopesIntersecting (f : ScopeFinder) :
    t.core.scopesIntersecting cx.core f =
      (t.scopesIntersecting cx f).map (List.map Scope.core) := by
  refine bind_eq_map (ScopeFinder.core_scopesOverlapping cx t.editor t.content f) fun overlapping => ?_
  split
  · rfl
  · rw [core_content, core_innermostDomain]
    cases innermostDomain t.content overlapping with
    | none => exact congrArg Except.ok (Scope.core_topLevel overlapping)
    | some inner =>
      refine congrArg Except.ok ?_
      rw [← Scope.core_topLevel]
      exact congrArg Scope.topLevel (ScopeFinder.core_filter (fun _ => rfl) overlapping)

lemma core_scopesInside (l : List Scope) (r : Range) :
    scopesInside (l.map Scope.core) r = (scopesInside l r).map Scope.core := by
  unfold scopesInside
  rw [← Scope.core_topLevel]
  exact congrArg Scope.topLevel (ScopeFinder.core_filter (fun _ => rfl) l)

lemma core_isOnlyContainer (r : Range) (l : List Scope) :
    isOnlyContainer r (l.map Scope.core) = isOnlyContainer r l := by
  cases l with
  | nil => rfl
  | cons s rest =>
    cases rest with
    | nil => rfl
    | cons a rest => rfl

lemma core_everyScopeOf (s : ScopeType) :
    t.core.everyScopeOf cx.core s = (t.everyScopeOf cx s).map (List.map Scope.core) := by
  refine core_finding fun f => ?_
  rw [core_flags]
  split
  · refine bind_eq_map (ScopeFinder.core_scopesOverlapping cx t.editor t.content f)
      fun overlapping => ?_
    have hinside : (scopesInside (overlapping.map Scope.core) t.content).filter f.countsInEvery =
        ((scopesInside overlapping t.content).filter f.countsInEvery).map Scope.core := by
      rw [core_scopesInside]
      exact ScopeFinder.core_filter (ScopeFinder.core_countsInEvery f) _
    simp only [core_content, hinside, core_isOnlyContainer, List.isEmpty_map]
    split
    · exact core_siblingScopes cx t f
    · rfl
  · exact core_siblingScopes cx t f

lemma core_oriented (l : List Scope) (b : Bool) :
    ((l.map Scope.core).map fun s => s.oriented b) = (l.map fun s => s.oriented b).map core := by
  rw [List.map_map, List.map_map]
  rfl

lemma core_everyScope (s : ScopeType) :
    t.core.everyScope cx.core s = (t.everyScope cx s).map (List.map core) :=
  map_eq_map (core_everyScopeOf cx t s) fun l => core_oriented l t.isReversed

lemma core_pick (l : List Scope) (isEvery b : Bool) :
    pick (l.map Scope.core) isEvery b = (pick l isEvery b).map core := by
  unfold pick
  split
  · exact core_oriented l b
  · cases l with
    | nil => rfl
    | cons first rest =>
      cases rest with
      | nil => rfl
      | cons second rest =>
        rw [List.map_cons, List.map_cons]
        dsimp only
        rw [← List.map_cons, List.getLastD_map, core_ofScopes]
        rfl

lemma sliceFrom?_map {α β : Type} (f : α → β) (l : List α) (start : Int) (length : Nat) :
    sliceFrom? (l.map f) start length = (sliceFrom? l start length).map (List.map f) := by
  unfold sliceFrom?
  rw [apply_ite (Option.map (List.map f)), List.length_map, Option.map_some, List.map_take,
    List.map_drop]
  rfl

lemma core_ordinalScope (s : ScopeType) (start : Int) (length : Nat) (isEvery : Bool) :
    t.core.ordinalScope cx.core s start length isEvery =
      (t.ordinalScope cx s start length isEvery).map (List.map core) := by
  refine bind_eq_map (core_everyScopeOf cx t s) fun scopes => ?_
  rw [sliceFrom?_map]
  cases sliceFrom? scopes start length with
  | none => rfl
  | some picked => exact congrArg Except.ok (core_pick picked isEvery t.isReversed)

lemma core_scopeAtCursor (f : ScopeFinder) (direction : Direction) :
    t.core.scopeAtCursor cx.core f direction =
      (t.scopeAtCursor cx f direction).map (List.map Scope.core) := by
  refine bind_eq_map (ScopeFinder.core_walk cx t.editor f _ _ _) fun scopes => ?_
  cases scopes with
  | nil =>
    refine bind_eq_map (ScopeFinder.core_walk cx t.editor f _ _ _) fun other => ?_
    cases other with
    | nil => rfl
    | cons s rest => rfl
  | cons s rest => rfl

lemma core_extend (f : ScopeFinder) (missing : Nat) (direction : Direction) (first : Scope)
    (rest : List Scope) :
    t.core.extend cx.core f missing direction first.core (rest.map Scope.core) =
      (t.extend cx f missing direction first rest).map (List.map Scope.core) := by
  have hlast : (rest.map Scope.core).getLastD first.core = (rest.getLastD first).core :=
    List.getLastD_map
  unfold extend
  dsimp only
  rw [hlast]
  refine bind_eq_map (ScopeFinder.core_walk cx t.editor f _ _ _) fun further => ?_
  rw [List.length_map]
  split_ifs
  · rfl
  · cases direction with
    | forward =>
      refine congrArg Except.ok ?_
      rw [List.map_append, List.map_cons, List.map_take]
    | backward =>
      refine congrArg Except.ok ?_
      rw [List.map_append, List.map_reverse, List.map_take, List.map_cons]

lemma core_scopesFromTarget (f : ScopeFinder) (length : Nat) (direction : Direction) :
    t.core.scopesFromTarget cx.core f length direction =
      (t.scopesFromTarget cx f length direction).map (List.map Scope.core) := by
  unfold scopesFromTarget
  dsimp only [core_content]
  refine ite_bind_eq_map (core_scopeAtCursor cx t f direction) (core_scopesIntersecting cx t f)
    fun found => ?_
  cases found with
  | nil => rfl
  | cons first rest =>
    simp only [List.map_cons, List.length_cons, List.length_map]
    split_ifs
    · rfl
    · exact core_extend cx t f _ direction first rest
    · rfl

lemma core_scopesBeyondTarget (f : ScopeFinder) (offset length : Nat) (direction : Direction) :
    t.core.scopesBeyondTarget cx.core f offset length direction =
      (t.scopesBeyondTarget cx f offset length direction).map (List.map Scope.core) := by
  unfold scopesBeyondTarget
  dsimp only [core_content]
  refine bind_eq_map (ScopeFinder.core_walk cx t.editor f _ _ _) fun walked => ?_
  rw [← List.map_drop, ← List.map_take, List.length_map, List.isEmpty_map]
  split
  · rfl
  · cases direction with
    | forward => rfl
    | backward => exact congrArg Except.ok List.map_reverse.symm

lemma core_relativeScope (s : ScopeType) (offset length : Nat) (direction : Direction)
    (isEvery : Bool) : t.core.relativeScope cx.core s offset length direction isEvery =
      (t.relativeScope cx s offset length direction isEvery).map (List.map core) := by
  refine core_finding fun f => ?_
  exact ite_bind_eq_map (core_scopesFromTarget cx t f length direction)
    (core_scopesBeyondTarget cx t f offset length direction)
    fun l => congrArg Except.ok (core_pick l isEvery t.isReversed)

lemma core_dividedRange : t.core.dividedRange cx.core = t.dividedRange cx := by
  unfold dividedRange
  rw [core_flags]
  split
  · rfl
  · rw [core_editor, ScopeFinder.core_containing, map_bind]
    congr 1
    funext found
    cases found with
    | none => rfl
    | some token => rfl

lemma core_ofPieces (pieceType : PieceType) (e : Editor) (r : Range) (pieces : List (Nat × Nat))
    (first last : Nat) (b : Bool) :
    ofPieces pieceType e.core r pieces first last b =
      (ofPieces pieceType e r pieces first last b).core := by
  cases pieceType with
  | word => rfl
  | character => rfl

lemma core_subpiece (pieceType : PieceType) (anchor active : Int)
    (excludeAnchor excludeActive : Bool) :
    t.core.subpiece cx.core pieceType anchor active excludeAnchor excludeActive =
      (t.subpiece cx pieceType anchor active excludeAnchor excludeActive).map (List.map core) := by
  unfold subpiece
  rw [core_dividedRange]
  dsimp only
  split
  · rfl
  · refine core_finding fun r => ?_
    split
    · rfl
    · dsimp only [core_document]
      split
      · exact congrArg (fun u => Except.ok [u]) (core_ofPieces ..)
      · rfl

lemma core_enclosingPair (delimiter : PairName) (inclusion : Option DelimiterInclusion)
    (direction : Option PairDirection) :
    t.core.enclosingPair cx.core delimiter inclusion direction =
      (t.enclosingPair cx delimiter inclusion direction).map (List.map core) := by
  unfold enclosingPair
  dsimp only [core_document, core_content]
  rw [PairSearch.core_find]
  refine bind_eq_map (map_id _).symm fun found => ?_
  cases found with
  | none => rfl
  | some p => cases inclusion with
    | none => rfl
    | some i => cases i <;> rfl

lemma core_asPair : t.core.asPair cx.core = (t.asPair cx).map core := by
  unfold asPair
  rw [core_interior, core_boundary, PairSearch.core_find]
  dsimp only [core_document, core_content]
  split
  · rfl
  · refine bind_eq_map (map_id _).symm fun found => ?_
    cases found with
    | none => rfl
    | some p => rfl

lemma core_interiorOnly :
    t.core.interiorOnly cx.core = (t.interiorOnly cx).map (List.map core) := by
  refine bind_eq_map (core_asPair cx t) fun p => ?_
  dsimp only [core_interior]
  split
  · rfl
  · rfl

lemma core_boundaryOnly :
    t.core.boundaryOnly cx.core = (t.boundaryOnly cx).map (List.map core) := by
  refine bind_eq_map (core_asPair cx t) fun p => ?_
  dsimp only [core_boundary]
  split
  · rfl
  · rfl

lemma core_delimiterTarget (delimiter : Option Range) (missing : TargetError) :
    t.core.delimiterTarget delimiter missing =
      (t.delimiterTarget delimiter missing).map (List.map core) := by
  cases delimiter with
  | none => rfl
  | some r => rfl

lemma core_position (kind : PositionKind) : t.core.position kind = (t.position kind).core := by
  cases kind with
  | _ => rfl

lemma core_visibleRanges : t.core.visibleRanges = t.visibleRanges.map core := by
  rw [visibleRanges, visibleRanges, List.map_map]
  rfl

lemma core_acceptOccurrence (occurrence : Target) :
    t.core.acceptOccurrence cx.core occurrence.core =
      (t.acceptOccurrence cx occurrence).map core := by
  have hscope : t.core.occurrenceScope = t.occurrenceScope := rfl
  unfold acceptOccurrence
  rw [hscope]
  cases t.occurrenceScope with
  | none => rfl
  | some s =>
    dsimp only
    rw [core_containingScope]
    cases occurrence.containingScope cx s with
    | error e => rfl
    | ok found =>
      cases found with
      | nil => rfl
      | cons u rest =>
        cases rest with
        | nil =>
          dsimp only [Except.map, List.map_cons, List.map_nil]
          rw [apply_ite (Option.map core)]
          rfl
        | cons v rest => rfl

lemma core_occurrencesIn (r : Range) :
    t.core.occurrencesIn cx.core r = (t.occurrencesIn cx r).map core := by
  unfold occurrencesIn
  dsimp only
  rw [List.map_filterMap]
  congr 1
  funext start
  rw [← core_acceptOccurrence]
  rfl

lemma core_occurrencesToward (direction : Direction) (r : Range) :
    t.core.occurrencesToward cx.core direction r = (t.occurrencesToward cx direction r).map core := by
  cases direction with
  | forward => exact core_occurrencesIn cx t r
  | backward =>
    rw [occurrencesToward, occurrencesToward, core_occurrencesIn, List.map_reverse]

lemma takeExactly?_map {α β : Type} (f : α → β) (offset count : Nat) (l : List α) :
    takeExactly? offset count (l.map f) = (takeExactly? offset count l).map (List.map f) := by
  unfold takeExactly?
  dsimp only
  rw [apply_ite (Option.map (List.map f)), Option.map_some, List.map_take, List.map_drop,
    ← List.map_drop, ← List.map_take, List.length_map]
  rfl

lemma core_contents (targets : List Target) :
    (targets.map core).map content = targets.map content := by
  rw [List.map_map]
  rfl

lemma core_searchRanges : t.core.searchRanges cx.core = t.searchRanges cx := by
  unfold searchRanges
  rw [Context.core_stored?]
  cases cx.stored? .occurrenceReference with
  | none => rfl
  | some references => exact core_contents references

lemma core_ordinalOccurrences (start : Int) (length : Nat) (r : Range) :
    t.core.ordinalOccurrences cx.core start length r =
      (t.ordinalOccurrences cx start length r).map (List.map core) := by
  unfold ordinalOccurrences
  dsimp only
  rw [core_occurrencesToward, core_occurrencesToward, takeExactly?_map, takeExactly?_map]
  split_ifs
  · rfl
  · rw [Option.map_map, Option.map_map]
    congr 1
    funext l
    exact List.map_reverse.symm
  · rfl

lemma core_relativeOccurrences (offset length : Nat) (direction : Direction) (origin : Range) :
    t.core.relativeOccurrences cx.core offset length direction origin =
      (t.relativeOccurrences cx offset length direction origin).map (List.map core) := by
  unfold relativeOccurrences
  rw [core_occurrencesToward, takeExactly?_map]
  rfl

lemma mapM_map {α β β' : Type} {f : α → Option β} {f' : α → Option β'} {k : β → β'}
    (h : ∀ a, f' a = (f a).map k) (l : List α) : l.mapM f' = (l.mapM f).map (List.map k) := by
  induction l with
  | nil => rfl
  | cons a rest ih =>
    rw [List.mapM_cons, List.mapM_cons, h, ih]
    cases f a with
    | none => rfl
    | some b =>
      cases rest.mapM f with
      | none => rfl
      | some bs => rfl

lemma core_queriedOccurrences (query : OccurrenceQuery) :
    t.core.queriedOccurrences cx.core query =
      (t.queriedOccurrences cx query).map (List.map (List.map core)) := by
  cases query with
  | every =>
    refine congrArg some ?_
    rw [core_searchRanges, List.map_map]
    congr 1
    funext r
    exact core_occurrencesToward cx t .forward r
  | ordinal start length =>
    unfold queriedOccurrences
    rw [core_searchRanges]
    exact mapM_map (core_ordinalOccurrences cx t start length) _
  | relative offset length direction =>
    have horigins : ((cx.core.stored? .occurrenceReference).getD [t.core]).map content =
        ((cx.stored? .occurrenceReference).getD [t]).map content := by
      rw [Context.core_stored?]
      cases cx.stored? .occurrenceReference with
      | none => rfl
      | some references => exact core_contents references
    unfold queriedOccurrences
    rw [horigins]
    exact mapM_map (core_relativeOccurrences cx t offset length direction) _

lemma core_occurrences (query : OccurrenceQuery) :
    t.core.occurrences cx.core query = (t.occurrences cx query).map (List.map core) := by
  unfold occurrences
  rw [core_text, core_queriedOccurrences]
  split
  · rfl
  · cases t.queriedOccurrences cx query with
    | none => rfl
    | some found => exact congrArg Except.ok List.map_flatten.symm

end Referent.Target
