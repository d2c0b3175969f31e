import Referent.Proofs.Scope.Windows

/-! What a finder fails for. Once there is a finder for a scope type, it fails only if it needs a syntax
tree that the document does not have, or if the search for a pair overflows. A family does without those
of its members that need a tree. -/

namespace Referent

variable {cx : Context} {d : Document} {e : Editor} {r : Range} {α : Type}

def Context.Treeless (cx : Context) (d : Document) (err : TargetError) : Prop :=
  cx.tree? d = none ∧ ∃ language, err = .unsupportedLanguage language

lemma Context.Treeless.isRecoverable {err : TargetError} (h : cx.Treeless d err) :
    err.isRecoverable = true := by
  obtain ⟨_, language, rfl⟩ := h
  rfl

lemma fails_word (n : Nat) : Fails (word n) (· = .overflow) := fun _ h => (word_eq_error.mp h).2

namespace PairSearch

variable (s : PairSearch)

lemma fails_scanFrom (scan : ScanConfig) (rounds length : Nat) :
    Fails (s.scanFrom scan d r rounds length) (· = .overflow) := by
  induction rounds generalizing length with
  | zero => exact .ok
  | succ rounds ih =>
    refine (fails_word _).map.bind fun window => ?_
    split
    · exact .ok
    · exact (fails_word _).map.bind ih

lemma fails_find : Fails (s.find cx d r) (· = .overflow) := by
  unfold find
  split
  · exact .ok
  · exact s.fails_scanFrom _ _ _

end PairSearch

namespace Collection

lemma fails_isUsable (p : PairMatch) : Fails (isUsable cx d r p) (· = .overflow) := by
  unfold isUsable
  split
  · exact (PairSearch.fails_find _).map.map
  · exact .ok

lemma fails_outer? (p : PairMatch) : Fails (outer? cx d p) (· = .overflow) := by
  unfold outer?
  split
  · exact .ok
  · exact PairSearch.fails_find _

lemma fails_pairFrom (fuel : Nat) (p : PairMatch) : Fails (pairFrom cx d r fuel p) (· = .overflow) := by
  induction fuel generalizing p with
  | zero => exact .ok
  | succ fuel ih =>
    refine (fails_isUsable p).bind fun isUsable => ?_
    split
    · exact .ok
    · refine (fails_outer? p).bind fun outer => ?_
      cases outer with
      | none => exact .ok
      | some q => exact ih q

lemma fails_around : Fails (around cx d r) (· = .overflow) := by
  refine .map ((PairSearch.fails_find _).bind fun found => ?_)
  cases found with
  | none => exact .ok
  | some p => exact fails_pairFrom _ p

end Collection

structure TargetError.IsFinal (err : TargetError) : Prop where
  isRecoverable : err.isRecoverable = false
  ne_overflow : err ≠ .overflow

namespace ScopeFinder

lemma fails_ofPattern (s : ScopeType) (pattern : String) :
    Fails (ofPattern s pattern) (·.IsFinal) := by
  rw [ofPattern]
  split
  · exact .ok
  · exact .error ⟨rfl, by rintro ⟨⟩⟩

lemma fails_ofTextScope (kind : TextScope) :
    Fails (ofTextScope kind) (·.IsFinal) := by
  rw [ofTextScope.eq_def]
  split
  case h_9 => exact fails_ofPattern _ _
  case h_10 => exact fails_ofPattern _ _
  all_goals exact .ok

mutual

lemma fails_ofScopeType (language : String) :
    ∀ s, Fails (ofScopeType language s) (·.IsFinal)
  | .textual kind => by
    rw [ofScopeType]
    exact fails_ofTextScope kind
  | .customRegex pattern => by
    rw [ofScopeType]
    exact fails_ofPattern _ pattern
  | .surroundingPair _ _ _ => by
    rw [ofScopeType]
    exact .ok
  | .oneOf scopeTypes => by
    rw [ofScopeType]
    exact (fails_ofScopeTypes language scopeTypes).map
  | .syntactic kind => by
    rw [ofScopeType]
    split
    · exact .ok
    · exact .error ⟨rfl, by rintro ⟨⟩⟩

lemma fails_ofScopeTypes (language : String) :
    ∀ ss, Fails (ofScopeTypes language ss) (·.IsFinal)
  | [] => by
    rw [ofScopeTypes]
    exact .ok
  | s :: rest => by
    rw [ofScopeTypes]
    exact (fails_ofScopeType language s).bind fun f =>
      (fails_ofScopeTypes language rest).bind fun _ => .ok

end

lemma ofScopeTypes_eq (language : String) (ss : List ScopeType) :
    ofScopeTypes language ss = ss.mapM (ofScopeType language) := by
  induction ss with
  | nil => rfl
  | cons s rest ih => rw [ofScopeTypes, ih, List.mapM_cons]

/-- What a finder may fail for that does not look around a range for a pair. -/
def Fault (f : ScopeFinder) (cx : Context) (d : Document) (err : TargetError) : Prop :=
  cx.Treeless d err ∨ ¬f.Itemless ∧ err = .overflow

lemma Fault.mono {f g : ScopeFinder} {err : TargetError} (h : f.Fault cx d err)
    (hg : g.Itemless → f.Itemless) : g.Fault cx d err :=
  h.imp_right fun ⟨hf, herr⟩ => ⟨fun h => hf (hg h), herr⟩

lemma fault_items {err : TargetError} (h : err = .overflow) : items.Fault cx d err :=
  .inr ⟨by rintro ⟨⟩, h⟩

lemma fails_collect {g : ScopeFinder → Except TargetError α} {scopeTypes : List ScopeType}
    {fs : List ScopeFinder} (h : ∀ f ∈ fs, Fails (g f) (f.Fault cx d)) (default : α) :
    Fails (fs.mapM fun f => unlessMissing default (g f)) ((oneOf scopeTypes fs).Fault cx d) := by
  refine .mapM fun f hf err herr => ?_
  obtain ⟨herr, hfatal⟩ := unlessMissing_eq_error.mp herr
  rcases h f hf err herr with hmissing | hover
  · exact absurd (hmissing.isRecoverable.symm.trans hfatal) Bool.noConfusion
  · refine .inr ⟨fun hfamily => hover.1 ?_, hover.2⟩
    cases hfamily with
    | oneOf _ hall => exact hall f hf

lemma fails_treeOf (language : String) : Fails (treeOf cx e language) (cx.Treeless e.document) := by
  rw [treeOf]
  split
  · exact .ok
  · exact .error ⟨‹_›, language, rfl⟩

lemma fails_candidates (f : ScopeFinder) : Fails (f.candidates cx e r) (f.Fault cx e.document) := by
  induction f using ScopeFinder.induction generalizing r with
  | nodes kind language matcher =>
    rw [candidates]
    exact (fails_treeOf language).map.mono fun _ => .inl
  | oneOf scopeTypes finders ih =>
    rw [candidates, candidatesOfAny_eq]
    exact (fails_collect (fun f hf => ih f hf) []).map.map
  | items =>
    rw [candidates]
    have hboth : Fails (Scope.items cx e r) (· = .overflow) :=
      Collection.fails_around.bind fun _ => Collection.fails_around.bind fun _ => .ok
    exact hboth.mono fun _ => fault_items
  | _ =>
    rw [candidates]
    exact .ok

lemma fails_scopesAt (f : ScopeFinder) (p : Position) :
    Fails (f.scopesAt cx e p) (f.Fault cx e.document) := (fails_candidates f).map

lemma fails_scopesWithin (f : ScopeFinder) (domain : Range) :
    Fails (f.scopesWithin cx e domain) (f.Fault cx e.document) := (fails_candidates f).map.map

lemma fails_domains (f : ScopeFinder) : Fails (f.domains cx e r) (f.Fault cx e.document) := by
  have hsiblings (g : ScopeFinder) (hg : (g.siblingFinder e.document.language).Itemless) :
      Fails ((g.siblingFinder e.document.language).scopesAt cx e r.start) (g.Fault cx e.document) :=
    (fails_scopesAt _ r.start).mono fun _ h => h.mono fun _ => hg
  induction f using ScopeFinder.induction with
  | nodes kind language matcher =>
    rw [domains]
    exact ((fails_treeOf language).bind fun _ => .ok).mono fun _ => .inl
  | oneOf scopeTypes finders ih =>
    rw [domains, domainsOfAny_eq]
    exact (fails_collect ih []).map.bind fun _ => .ok
  | items =>
    rw [domains]
    exact Collection.fails_around.map.mono fun _ => fault_items
  | wholeDocument => exact .ok
  | _ => exact (hsiblings _ (by constructor)).bind fun _ => .ok

lemma fails_siblings (f : ScopeFinder) (domain : Range) :
    Fails (f.siblings cx e r domain) (f.Fault cx e.document) := by
  rw [siblings.eq_def]
  split
  · exact Collection.fails_around.map.mono fun _ => fault_items
  · exact .ok
  · exact fails_scopesWithin _ domain

lemma fails_iterations (f : ScopeFinder) : Fails (f.iterations cx e r) (f.Fault cx e.document) :=
  (fails_domains f).bind fun _ => .mapM fun domain _ => (fails_siblings f domain).map

lemma fails_containingByDomain (f : ScopeFinder) (b : Bool) :
    Fails (f.containingByDomain cx e r b) (f.Fault cx e.document) := by
  refine (fails_scopesAt f r.start).bind fun atStart => ?_
  split
  · exact .ok
  · split
    · exact .ok
    · rw [spanning]
      split
      · exact .ok
      · exact (fails_scopesAt f r.stop).map

lemma fails_containing (f : ScopeFinder) (b : Bool) :
    Fails (f.containing cx e r b) fun err => cx.Treeless e.document err ∨ err = .overflow := by
  induction f using ScopeFinder.induction with
  | pairs s search =>
    rw [containing]
    exact search.fails_find.map.mono fun _ => .inr
  | items =>
    rw [containing]
    exact Collection.fails_around.map.mono fun _ => .inr
  | oneOf scopeTypes finders ih =>
    rw [containing, smallestContaining_eq]
    refine Fails.map (.mapM fun f hf err herr => ?_)
    exact ih f hf err (unlessMissing_eq_error.mp herr).1
  | _ => exact (fails_containingByDomain _ b).mono fun _ => Or.imp_right And.right

lemma eq_overflow_of_containing {f : ScopeFinder} {b : Bool} {err : TargetError}
    (h : f.containing cx e r b = .error err) (hfatal : err.isRecoverable = false) : err = .overflow := by
  rcases fails_containing f b err h with hmissing | hover
  · exact absurd (hmissing.isRecoverable.symm.trans hfatal) Bool.noConfusion
  · exact hover

end ScopeFinder

end Referent
