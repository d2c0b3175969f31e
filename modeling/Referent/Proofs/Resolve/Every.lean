import Referent.Proofs.Resolve.Occurrences
import Referent.Proofs.Resolve.Outcome
import Referent.Proofs.Scope.Families

namespace Referent

namespace ScopeFinder

variable {cx : Context} {e : Editor} {s : ScopeType} {f : ScopeFinder}

lemma isFlat_of_isHierarchical_eq_false (hf : f.isHierarchical = false) (hitems : f ≠ .items) :
    f.IsFlat := by
  cases f with
  | pairs s search => exact Bool.noConfusion hf
  | nodes kind language matcher => exact Bool.noConfusion hf
  | oneOf scopeTypes finders => exact Bool.noConfusion hf
  | items => exact absurd rfl hitems
  | _ => exact trivial

variable (ht : ∀ t, cx.tree? e.document = some t → t.Fits e.document)

include ht

lemma arranged_scopesWithin (hf : ofScopeType e.document.language s = .ok f) (hitems : f ≠ .items)
    (domain : Range) : Gives (f.scopesWithin cx e domain) (s.Arranges cx e) := by
  rw [scopesWithin, scopesOverlapping]
  intro scopes h
  obtain ⟨overlapping, hoverlapping, rfl⟩ := map_eq_ok.mp h
  obtain ⟨l, hl, heq⟩ := map_eq_ok.mp hoverlapping
  have hsub : List.Sublist (overlapping.filter fun s => domain.containsRange s.domain) l :=
    heq ▸ List.filter_sublist.trans List.filter_sublist
  dsimp only
  split
  · exact arranged_topLevel ht hf hl (List.filter_sublist.trans hsub)
  · next hnot =>
    have hflat := isFlat_of_isHierarchical_eq_false (Bool.eq_false_iff.mpr hnot) hitems
    have hsuccessive := successive_candidates hflat cx e domain l hl
    exact (hsuccessive.sublist hsub).arranged

lemma arranged_siblings (hf : ofScopeType e.document.language s = .ok f) (r domain : Range) :
    Gives (f.siblings cx e r domain) (s.Arranges cx e) := by
  rw [siblings.eq_def]
  split
  · refine (Collection.fits_around ht r).map fun c hc => ?_
    exact (Scope.successive_itemsOf hc).arranged
  · have hwhole : Scope.Successive (Scope.wholeDocument e) := List.pairwise_singleton _ _
    exact .ok hwhole.arranged
  · exact arranged_scopesWithin ht hf ‹_› domain

lemma arranged_iterations (hf : ofScopeType e.document.language s = .ok f) (r : Range) :
    Gives (f.iterations cx e r) fun l => ∀ i ∈ l, s.Arranges cx e i.scopes := by
  have hany : Gives (f.domains cx e r) fun _ => True := fun _ _ => trivial
  refine hany.bind fun domains _ => Gives.mapM fun domain _ => ?_
  exact (arranged_siblings ht hf r domain).map fun l hl => hl

end ScopeFinder

namespace Target

variable {cx : Context} {t : Target} {s : ScopeType}

section

variable (ht : ∀ tree, cx.tree? t.document = some tree → tree.Fits t.document)

include ht

lemma arranged_siblingScopes {f : ScopeFinder} (hf : ScopeFinder.ofTarget s t = .ok f) :
    Gives (t.siblingScopes cx f) (s.Arranges cx t.editor) := by
  refine (ScopeFinder.arranged_iterations ht hf t.content).bind fun iterations hiterations => ?_
  dsimp only
  split
  · next scopes hscopes =>
    obtain ⟨i, hi, rfl⟩ := List.mem_map.mp (List.mem_of_find?_eq_some hscopes)
    exact .ok (List.Pairwise.sublist List.filter_sublist (hiterations i hi))
  · exact .error

theorem arranged_everyScopeOf : Gives (t.everyScopeOf cx s) (s.Arranges cx t.editor) := by
  intro scopes h
  obtain ⟨f, hf, h⟩ := bind_eq_ok.mp h
  have hsiblings := arranged_siblingScopes ht hf
  split at h
  · obtain ⟨overlapping, hoverlapping, h⟩ := bind_eq_ok.mp h
    obtain ⟨l, hl, rfl⟩ := map_eq_ok.mp hoverlapping
    dsimp only at h
    split at h
    · exact hsiblings scopes h
    · have hinside : s.Arranges cx t.editor (scopesInside _ t.content) :=
        ScopeFinder.arranged_topLevel ht hf hl
          (List.filter_sublist.trans (List.filter_sublist (p := fun s => s.overlaps t.content)))
      rw [← Except.ok.inj h]
      exact List.Pairwise.sublist List.filter_sublist hinside
  · exact hsiblings scopes h

end

lemma editor_expandCursor {token : Target} {a c : Arena}
    (h : (t.expandCursor cx).outcome a = (.ok token, c)) : token.editor = t.editor := by
  obtain ⟨found, b, hfound, h⟩ := Resolving.outcome_bind_eq_ok.mp h
  have hfound : t.inferredToken cx = .ok found := congrArg Prod.fst hfound
  cases found with
  | none =>
    cases h
    rfl
  | some u =>
    cases h
    have hmade : u.Made False t.editor := made_inferredToken (fun h => h.elim) (some u) hfound u rfl
    exact hmade.editor_eq

end Target

/-- All instances of a scope type at a target come in order. They are the scopes there, of which only
some may share something, or the occurrences of its text in the searched ranges. -/
theorem Modifier.everyScope_inOrder {cx : Context} {t : Target} {s : ScopeType} {a a' : Arena}
    {targets : List Target}
    (ht : ∀ tree, cx.tree? t.document = some tree → tree.Fits t.document)
    (h : ((everyScope s).run cx t).outcome a = (.ok targets, a')) :
    (s ≠ .occurrence → ∃ scopes, t.everyScopeOf cx s = .ok scopes ∧
      targets = (scopes.map fun u => u.oriented t.isReversed) ∧
      s.Arranges cx t.editor scopes) ∧
    (s = .occurrence → ∃ groups, targets = groups.flatten ∧
      Target.FoundIn t.document (t.searchRanges cx) groups ∧
      ((∀ r ∈ t.searchRanges cx, t.document.Holds r) → Range.Successive (t.searchRanges cx) →
        Range.Successive (targets.map Target.content))) := by
  rw [run] at h
  constructor
  · intro hs
    rw [if_neg hs] at h
    have hevery : t.everyScope cx s = .ok targets := congrArg Prod.fst h
    obtain ⟨scopes, hscopes, rfl⟩ := map_eq_ok.mp hevery
    exact ⟨scopes, hscopes, rfl, Target.arranged_everyScopeOf ht scopes hscopes⟩
  · intro hs
    rw [if_pos hs] at h
    obtain ⟨token, c, htoken, h⟩ := Resolving.outcome_bind_eq_ok.mp h
    have hfound := Target.everyOccurrence_eq (congrArg Prod.fst h)
    have heditor := Target.editor_expandCursor htoken
    have hdocument : token.document = t.document := congrArg Editor.document heditor
    have hranges : token.searchRanges cx = t.searchRanges cx := by
      rw [Target.searchRanges, Target.searchRanges, hdocument]
    have hgroups := Target.foundIn_occurrences cx token (t.searchRanges cx)
    rw [hdocument] at hgroups
    rw [hranges] at hfound
    refine ⟨_, hfound, hgroups, fun hd hsuccessive => ?_⟩
    rw [hfound]
    exact hgroups.successive hd hsuccessive

theorem Modifier.everyScope_inOrder_blankLine :
    let e : Editor := .ofDocument 1 (.ofText 1 "plaintext" "ab\n\ncd".toList)
    let t : Target := .untyped e e.document.range false true
    ∃ targets, ((everyScope .line).run {} t).outcome .empty = (.ok targets, .empty) ∧
      targets.map Target.content = [.onLine 0 0 2, .onLine 2 0 2] ∧
      ∃ scopes, t.everyScopeOf {} .line = .ok scopes ∧
        targets = (scopes.map fun u => u.oriented t.isReversed) ∧
        ScopeType.line.Arranges {} t.editor scopes := by
  intro e t
  have hcontents : (t.everyScope {} .line).toOption.map (List.map Target.content) =
      some [.onLine 0 0 2, .onLine 2 0 2] := by decide +kernel
  cases htargets : t.everyScope {} .line with
  | error error =>
    rw [htargets] at hcontents
    cases hcontents
  | ok targets =>
    have hrun : ((everyScope .line).run {} t).outcome .empty = (.ok targets, .empty) := by
      rw [run, if_neg (by decide), Resolving.outcome_lift, htargets]
    rw [htargets] at hcontents
    refine ⟨targets, hrun, Option.some.inj hcontents, ?_⟩
    exact (Modifier.everyScope_inOrder (fun tree h => by cases h) hrun).1 (by decide)

def crossedBrackets : Document := .ofText 1 "plaintext" "([)]".toList

lemma findAll_crossedBrackets : (PairSearch.ofName .any "plaintext").findAll crossedBrackets =
    [⟨.onLine 0 0 1, .onLine 0 2 3⟩, ⟨.onLine 0 1 2, .onLine 0 3 4⟩] := by
  have hdelimiters : Delimiter.ofName .any "plaintext" =
      [⟨.angleBrackets, ['<'], ['>']⟩, ⟨.curlyBrackets, ['\x7b'], ['\x7d']⟩,
        ⟨.parentheses, ['('], [')']⟩, ⟨.squareBrackets, ['['], [']']⟩] :=
    List.mergeSort_of_pairwise (by decide)
  have hpairs :
      (PairSearch.ofName .any "plaintext").pairsIn (crossedBrackets.textIn crossedBrackets.range) none =
        [(⟨0, 1, ⟨.parentheses, ['('], [')']⟩, .left⟩, ⟨2, 3, ⟨.parentheses, ['('], [')']⟩, .right⟩),
          (⟨1, 2, ⟨.squareBrackets, ['['], [']']⟩, .left⟩,
            ⟨3, 4, ⟨.squareBrackets, ['['], [']']⟩, .right⟩)] := by
    rw [PairSearch.ofName, hdelimiters]
    decide +kernel
  rw [PairSearch.findAll, hpairs, List.mergeSort_of_pairwise (by decide)]
  decide +kernel

theorem Target.everyScopeOf_crossedBrackets :
    let e : Editor := .ofDocument 1 crossedBrackets
    let t : Target := .untyped e e.document.range false true
    t.flags.explicitRange = true ∧ t.document.Holds t.content ∧
      ∃ scopes, t.everyScopeOf {} (.pair .any) = .ok scopes ∧
        t.everyScope {} (.pair .any) = .ok (scopes.map fun u => u.oriented false) ∧
        scopes.map Scope.domain = [.onLine 0 0 3, .onLine 0 1 4] ∧ ¬Scope.Successive scopes := by
  intro e t
  let search := PairSearch.ofName .any "plaintext"
  let scopes : List Scope :=
    [Scope.ofPair e ⟨.onLine 0 0 1, .onLine 0 2 3⟩, Scope.ofPair e ⟨.onLine 0 1 2, .onLine 0 3 4⟩]
  have hfinder : ScopeFinder.ofTarget (.pair .any) t = .ok (.pairs (.pair .any) search) := rfl
  have hcandidates : (ScopeFinder.pairs (.pair .any) search).candidates {} e t.content = .ok scopes := by
    have hall : (search.findAll e.document).map (Scope.ofPair e) = scopes :=
      congrArg (List.map (Scope.ofPair e)) findAll_crossedBrackets
    rw [ScopeFinder.candidates, Scope.pairs, hall]
    rfl
  have hevery : t.everyScopeOf {} (.pair .any) = .ok scopes := by
    have hoverlapping : (ScopeFinder.pairs (.pair .any) search).scopesOverlapping {} e t.content =
        .ok scopes := by
      rw [ScopeFinder.scopesOverlapping, hcandidates]
      rfl
    exact bind_eq_ok.mpr ⟨_, hfinder, bind_eq_ok.mpr ⟨_, hoverlapping, rfl⟩⟩
  refine ⟨rfl, by decide +kernel, scopes, hevery, map_eq_ok.mpr ⟨_, hevery, rfl⟩, rfl, fun h => ?_⟩
  have hle := (List.pairwise_cons.mp h).1 (.onLine 0 1 4) (by decide)
  revert hle
  decide

end Referent
