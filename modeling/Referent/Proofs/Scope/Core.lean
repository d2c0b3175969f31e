import Mathlib.Tactic.Common
import Referent.Proofs.Scope.Finders
import Referent.Proofs.Target.Core

namespace Referent

def Scope.core (s : Scope) : Scope := ⟨s.domain, s.target.core⟩

namespace Context

variable (cx : Context)

@[simp] lemma core_config : cx.core.config = cx.config := rfl
@[simp] lemma core_tree? : cx.core.tree? = cx.tree? := rfl
@[simp] lemma core_isIdentifier : cx.core.isIdentifier = cx.isIdentifier := rfl
@[simp] lemma core_tokens : cx.core.tokens = cx.tokens := rfl

@[simp] lemma core_stored? (key : StoredKey) :
    cx.core.stored? key = (cx.stored? key).map (List.map Target.core) := by
  rw [stored?, stored?, core, List.find?_map, Option.map_map, Option.map_map]
  rfl

end Context

@[simp] lemma PairSearch.core_find (s : PairSearch) (cx : Context) :
    s.find cx.core = s.find cx := rfl

namespace Collection

variable (cx : Context)

@[simp] lemma core_isUsable : isUsable cx.core = isUsable cx := rfl

@[simp] lemma core_outer? : outer? cx.core = outer? cx := rfl

@[simp] lemma core_pairFrom (d : Document) (r : Range) (fuel : Nat) (p : PairMatch) :
    pairFrom cx.core d r fuel p = pairFrom cx d r fuel p := by
  induction fuel generalizing p with
  | zero => rfl
  | succ fuel ih => simp only [pairFrom, core_isUsable, core_outer?, ih]

@[simp] lemma core_around (d : Document) (r : Range) : around cx.core d r = around cx d r := by
  simp only [around, pair?, PairSearch.core_find, core_pairFrom]

end Collection

lemma eraseRepsBy_map {α β : Type} {f : α → β} {r : α → α → Bool} {r' : β → β → Bool}
    (h : ∀ a b, r' (f a) (f b) = r a b) (l : List α) :
    (l.map f).eraseRepsBy r' = (l.eraseRepsBy r).map f := by
  have hloop (a : α) (l acc : List α) :
      List.eraseRepsBy.loop r' (f a) (l.map f) (acc.map f) =
        (List.eraseRepsBy.loop r a l acc).map f := by
    induction l generalizing a acc with
    | nil => simp [List.eraseRepsBy.loop]
    | cons b rest ih =>
      rw [List.map_cons, List.eraseRepsBy.loop, List.eraseRepsBy.loop, h]
      split
      · exact ih a acc
      · exact ih b (a :: acc)
  cases l with
  | nil => rfl
  | cons a rest => exact hloop a rest []

namespace Scope

variable (cx : Context) (e : Editor) (r : Range)

@[simp] lemma core_domain (s : Scope) : s.core.domain = s.domain := rfl
@[simp] lemma core_target (s : Scope) : s.core.target = s.target.core := rfl
@[simp] lemma core_document (s : Scope) : s.core.document = s.document := rfl

@[simp] lemma core_overlaps (s : Scope) : s.core.overlaps r = s.overlaps r := rfl

@[simp] lemma core_oriented (s : Scope) (b : Bool) :
    s.core.oriented b = (s.oriented b).core := rfl

@[simp] lemma core_beq (s t : Scope) : (s.core == t.core) = (s == t) := rfl

lemma core_touching (l : List Scope) :
    touching r (l.map core) = (touching r l).map core := List.filter_map

lemma core_mergeSort {le : Scope → Scope → Bool} (h : ∀ s t, le s.core t.core = le s t)
    (l : List Scope) : (l.map core).mergeSort le = (l.mergeSort le).map core :=
  (List.map_mergeSort fun s _ t _ => (h s t).symm).symm

lemma core_eraseRepsBy {same : Scope → Scope → Bool} (h : ∀ s t, same s.core t.core = same s t)
    (l : List Scope) : (l.map core).eraseRepsBy same = (l.eraseRepsBy same).map core :=
  eraseRepsBy_map h l

lemma core_tokens (identifiersOnly : Bool) :
    tokens cx.core identifiersOnly e.core r = (tokens cx identifiersOnly e r).map core := by
  rw [tokens, tokens, ← core_touching, List.map_map]
  rfl

lemma core_characters : characters e.core r = (characters e r).map core := by
  rw [characters, characters, ← core_touching, List.map_flatMap]
  congr 2
  funext line
  rw [charactersOfLine, charactersOfLine, List.map_map]
  rfl

lemma core_words : words cx.core e.core r = (words cx e r).map core := by
  rw [words, words, ← core_touching, List.map_flatMap]
  congr 2
  funext token
  rw [wordsOfToken, wordsOfToken, List.map_map]
  rfl

lemma core_lines : lines e.core r = (lines e r).map core := by
  rw [lines, lines, List.map_map]
  rfl

lemma core_paragraphs : paragraphs e.core r = (paragraphs e r).map core := by
  rw [paragraphs, paragraphs, ← core_touching, List.map_map]
  rfl

lemma core_wholeDocument : wholeDocument e.core = (wholeDocument e).map core := rfl

lemma core_regexMatches (scopeType : ScopeType) (regex : Regex) :
    regexMatches scopeType regex e.core r = (regexMatches scopeType regex e r).map core := by
  rw [regexMatches, regexMatches, ← core_touching, List.map_flatMap]
  congr 2
  funext line
  rw [matchesOfLine, matchesOfLine, List.map_map]
  congr 1
  funext s
  simp only [Target.core_scope]
  rfl

lemma core_pairs (search : PairSearch) : pairs search e.core r = (pairs search e r).map core := by
  rw [pairs, pairs, ← core_touching, List.map_map]
  rfl

lemma core_itemsOf (c : Collection) : itemsOf e.core c = (itemsOf e c).map core := by
  rw [itemsOf, itemsOf, List.map_map]
  rfl

lemma core_itemsOfBoth (first last : Collection) :
    itemsOfBoth e.core r first last = (itemsOfBoth e r first last).map core := by
  simp only [itemsOfBoth, core_itemsOf]
  have hlast : (if first = last then [] else (itemsOf e last).map core) =
      (if first = last then [] else itemsOf e last).map core := by
    split
    · rfl
    · rfl
  rw [hlast, ← List.map_append, core_touching, core_mergeSort, core_eraseRepsBy]
  · exact fun _ _ => rfl
  · exact fun _ _ => rfl

lemma core_items : items cx.core e.core r = (items cx e r).map (List.map core) := by
  simp only [items, Editor.core_document, Collection.core_around]
  refine bind_eq_map (g := id) (map_id _).symm fun first => ?_
  refine bind_eq_map (g := id) (map_id _).symm fun last => ?_
  exact congrArg Except.ok (core_itemsOfBoth e r first last)

lemma core_ofMatch (kind : SyntacticScope) (t : SyntaxTree) (m : NodeMatch) :
    ofMatch kind t e.core m = (ofMatch kind t e m).core := by
  unfold ofMatch
  dsimp only
  split
  · rw [Target.core_scope]
    rfl
  · rfl

lemma core_nodes (kind : SyntacticScope) (matcher : Matcher) (t : SyntaxTree) :
    nodes kind matcher t e.core r = (nodes kind matcher t e r).map core := by
  rw [nodes, nodes, ← core_touching, List.map_map]
  congr 2
  funext m
  exact core_ofMatch e kind t m

lemma core_topLevel (l : List Scope) : topLevel (l.map core) = (topLevel l).map core := by
  rw [topLevel, topLevel, List.filter_map]
  congr 2
  funext s
  simp only [Function.comp, List.any_map]
  rfl

lemma core_nested (l : List Scope) : nested (l.map core) = (nested l).map core := by
  rw [nested, nested, core_mergeSort, core_eraseRepsBy]
  · exact fun _ _ => rfl
  · exact fun _ _ => rfl

end Scope

namespace ScopeFinder

variable (cx : Context) (e : Editor) (r : Range)

@[simp] lemma core_treeOf (language : String) :
    treeOf cx.core e.core language = treeOf cx e language := rfl

lemma core_candidatesOfAny {fs : List ScopeFinder}
    (h : ∀ f ∈ fs, candidates cx.core e.core r f = (candidates cx e r f).map (List.map Scope.core)) :
    candidatesOfAny cx.core e.core r fs =
      (candidatesOfAny cx e r fs).map (List.map Scope.core) := by
  induction fs with
  | nil => rfl
  | cons f rest ih =>
    rw [candidatesOfAny, candidatesOfAny]
    refine bind_eq_map (g := List.map Scope.core) ?_ fun found => ?_
    · rw [h f List.mem_cons_self]
      exact unlessMissing_map [] _
    · refine bind_eq_map (ih fun g hg => h g (List.mem_cons_of_mem f hg)) fun others => ?_
      exact congrArg Except.ok List.map_append.symm

lemma core_candidates (f : ScopeFinder) :
    f.candidates cx.core e.core r = (f.candidates cx e r).map (List.map Scope.core) := by
  induction f using ScopeFinder.induction with
  | tokens b => exact congrArg Except.ok (Scope.core_tokens cx e r b)
  | characters => exact congrArg Except.ok (Scope.core_characters e r)
  | words => exact congrArg Except.ok (Scope.core_words cx e r)
  | lines => exact congrArg Except.ok (Scope.core_lines e r)
  | paragraphs => exact congrArg Except.ok (Scope.core_paragraphs e r)
  | wholeDocument => exact congrArg Except.ok (Scope.core_wholeDocument e)
  | regex s expression => exact congrArg Except.ok (Scope.core_regexMatches e r s expression)
  | pairs s search => exact congrArg Except.ok (Scope.core_pairs e r search)
  | items => exact Scope.core_items cx e r
  | nodes kind language matcher =>
    rw [candidates, candidates, core_treeOf]
    cases treeOf cx e language with
    | error error => rfl
    | ok t => exact congrArg Except.ok (Scope.core_nodes e r kind matcher t)
  | oneOf scopeTypes finders ih =>
    rw [candidates, candidates]
    exact map_eq_map (core_candidatesOfAny cx e r ih) Scope.core_nested

lemma core_filter {keep keep' : Scope → Bool} (h : ∀ s, keep' s.core = keep s) (l : List Scope) :
    (l.map Scope.core).filter keep' = (l.filter keep).map Scope.core := by
  rw [List.filter_map]
  congr 2
  funext s
  exact h s

lemma core_scopesAt (f : ScopeFinder) (p : Position) :
    f.scopesAt cx.core e.core p = (f.scopesAt cx e p).map (List.map Scope.core) :=
  map_eq_map (core_candidates cx e _ f) (core_filter fun _ => rfl)

lemma core_scopesOverlapping (f : ScopeFinder) :
    f.scopesOverlapping cx.core e.core r = (f.scopesOverlapping cx e r).map (List.map Scope.core) :=
  map_eq_map (core_candidates cx e r f) (core_filter fun _ => rfl)

lemma core_scopesWithin (f : ScopeFinder) (domain : Range) :
    f.scopesWithin cx.core e.core domain =
      (f.scopesWithin cx e domain).map (List.map Scope.core) := by
  refine map_eq_map (core_scopesOverlapping cx e domain f) fun l => ?_
  have hinside : (l.map Scope.core).filter (fun s => domain.containsRange s.domain) =
      (l.filter fun s => domain.containsRange s.domain).map Scope.core :=
    core_filter (fun _ => rfl) l
  dsimp only
  rw [hinside]
  split
  · rw [← Scope.core_topLevel]
    exact congrArg Scope.topLevel (core_filter (fun _ => rfl) _)
  · rfl

@[simp] lemma core_prefers? (f : ScopeFinder) (a b : Scope) :
    f.prefers? cx.core a.core b.core = f.prefers? cx a b := rfl

@[simp] lemma core_countsInEvery (f : ScopeFinder) (s : Scope) :
    f.countsInEvery s.core = f.countsInEvery s := rfl

@[simp] lemma core_isBetter (f : ScopeFinder) (direction : Direction) (a b : Scope) :
    f.isBetter cx.core direction a.core b.core = f.isBetter cx direction a b := by
  unfold isBetter
  rw [core_prefers?]
  rfl

lemma core_preferred (f : ScopeFinder) (direction : Direction) (l : List Scope) :
    f.preferred cx.core direction (l.map Scope.core) =
      (f.preferred cx direction l).map Scope.core := by
  cases l with
  | nil => rfl
  | cons s rest =>
    refine congrArg some ?_
    induction rest generalizing s with
    | nil => rfl
    | cons a rest ih =>
      rw [List.map_cons, List.foldl_cons, List.foldl_cons, core_isBetter]
      split
      · exact ih a
      · exact ih s

lemma core_dropInner (kept : List Range) (l : List Scope) :
    dropInner kept (l.map Scope.core) = (dropInner kept l).map Scope.core := by
  induction l generalizing kept with
  | nil => rfl
  | cons s rest ih =>
    rw [List.map_cons, dropInner, dropInner, Scope.core_domain]
    split
    · exact ih kept
    · rw [ih, List.map_cons]

lemma core_walk (f : ScopeFinder) (p : Position) (direction : Direction)
    (containment : Option Containment) :
    f.walk cx.core e.core p direction containment =
      (f.walk cx e p direction containment).map (List.map Scope.core) := by
  refine bind_eq_map (core_candidates cx e _ f) fun found => ?_
  have hfound : (found.map Scope.core).filter
      (fun s => isAhead direction p s && isAllowed containment p s) =
        (found.filter fun s => isAhead direction p s && isAllowed containment p s).map
          Scope.core := core_filter (fun _ => rfl) found
  dsimp only
  rw [hfound]
  split
  · exact congrArg Except.ok (Scope.core_mergeSort (fun _ _ => rfl) _)
  · refine congrArg Except.ok ?_
    rw [Scope.core_mergeSort fun _ _ => rfl]
    split
    · exact core_dropInner _ _
    · rfl

lemma core_itemsTouching (b : Bool) (c : Collection) :
    Scope.itemsTouching e.core r b c = (Scope.itemsTouching e r b c).map Target.core := by
  unfold Scope.itemsTouching
  simp only [Editor.core_document]
  split
  · rfl
  · split
    · rw [apply_ite (Option.map Target.core)]
      rfl
    · rfl

lemma core_spanning (f : ScopeFinder) (b : Bool) (atStart : List Scope) :
    f.spanning cx.core e.core r b (atStart.map Scope.core) =
      (f.spanning cx e r b atStart).map (Option.map Target.core) := by
  unfold spanning
  rw [core_preferred]
  cases f.preferred cx .forward atStart with
  | none => rfl
  | some first =>
    refine map_eq_map (core_scopesAt cx e f r.stop) fun atStop => ?_
    rw [core_preferred, Option.map_map, Option.map_map]
    congr 1
    funext last
    exact Target.core_continuous ..

lemma core_containingByDomain (f : ScopeFinder) (b : Bool) :
    f.containingByDomain cx.core e.core r b =
      (f.containingByDomain cx e r b).map (Option.map Target.core) := by
  refine bind_eq_map (core_scopesAt cx e f r.start) fun atStart => ?_
  have haround : (atStart.map Scope.core).filter (fun s => s.domain.containsRange r) =
      (atStart.filter fun s => s.domain.containsRange r).map Scope.core :=
    core_filter (fun _ => rfl) atStart
  split
  · refine congrArg Except.ok ?_
    rw [core_preferred, Option.map_map, Option.map_map]
    rfl
  · rw [haround, core_preferred]
    cases f.preferred cx .forward (atStart.filter fun s => s.domain.containsRange r) with
    | none => exact core_spanning cx e r f b atStart
    | some s => rfl

lemma core_smaller (best found : Option Target) :
    smaller (best.map Target.core) (found.map Target.core) =
      (smaller best found).map Target.core := by
  cases found with
  | none => rfl
  | some t =>
    cases best with
    | none => rfl
    | some s =>
      rw [smaller, apply_ite (Option.map Target.core)]
      rfl

lemma core_smallestContaining {b : Bool} {fs : List ScopeFinder} (best : Option Target)
    (h : ∀ f ∈ fs, containing cx.core e.core r b f =
      (containing cx e r b f).map (Option.map Target.core)) :
    smallestContaining cx.core e.core r b (best.map Target.core) fs =
      (smallestContaining cx e r b best fs).map (Option.map Target.core) := by
  induction fs generalizing best with
  | nil => rfl
  | cons f rest ih =>
    rw [smallestContaining, smallestContaining]
    refine bind_eq_map (g := Option.map Target.core) ?_ fun found => ?_
    · rw [h f List.mem_cons_self]
      exact unlessMissing_map none _
    · rw [core_smaller]
      exact ih _ fun g hg => h g (List.mem_cons_of_mem f hg)

lemma core_containing (b : Bool) (f : ScopeFinder) :
    f.containing cx.core e.core r b = (f.containing cx e r b).map (Option.map Target.core) := by
  induction f using ScopeFinder.induction with
  | pairs s search =>
    rw [containing, containing, PairSearch.core_find]
    refine map_eq_map (g := id) (map_id _).symm fun found => ?_
    rw [Option.map_map]
    rfl
  | items =>
    rw [containing, containing, Scope.itemsAround, Scope.itemsAround, Collection.core_around]
    exact map_eq_map (g := id) (map_id _).symm (core_itemsTouching e r b)
  | oneOf scopeTypes finders ih => exact core_smallestContaining cx e r none ih
  | _ => exact core_containingByDomain cx e r _ b

lemma core_domainsOfAny {fs : List ScopeFinder}
    (h : ∀ f ∈ fs, domains cx.core e.core r f = domains cx e r f) :
    domainsOfAny cx.core e.core r fs = domainsOfAny cx e r fs := by
  induction fs with
  | nil => rfl
  | cons f rest ih =>
    rw [domainsOfAny, domainsOfAny, h f List.mem_cons_self,
      ih fun g hg => h g (List.mem_cons_of_mem f hg)]

lemma core_domains (f : ScopeFinder) : domains cx.core e.core r f = domains cx e r f := by
  induction f using ScopeFinder.induction with
  | items =>
    rw [domains, domains, Collection.core_around]
    rfl
  | wholeDocument => rfl
  | nodes kind language matcher => rfl
  | oneOf scopeTypes finders ih =>
    rw [domains, domains, core_domainsOfAny cx e r ih]
    rfl
  | _ =>
    unfold domains
    dsimp only
    rw [core_scopesAt, map_bind]
    simp only [List.map_map]
    rfl

lemma core_siblings (f : ScopeFinder) (domain : Range) :
    f.siblings cx.core e.core r domain =
      (f.siblings cx e r domain).map (List.map Scope.core) := by
  unfold siblings
  split
  · rw [Collection.core_around]
    exact map_eq_map (g := id) (map_id _).symm (Scope.core_itemsOf e)
  · exact congrArg Except.ok (Scope.core_wholeDocument e)
  · exact core_scopesWithin cx e _ domain

end ScopeFinder

def Iteration.core (i : Iteration) : Iteration := ⟨i.domain, i.scopes.map Scope.core⟩

lemma ScopeFinder.core_iterations (cx : Context) (e : Editor) (r : Range) (f : ScopeFinder) :
    f.iterations cx.core e.core r = (f.iterations cx e r).map (List.map Iteration.core) := by
  unfold iterations
  rw [core_domains]
  refine bind_eq_map (g := id) (map_id _).symm fun domains => ?_
  refine mapM_eq_map (fun domain => ?_) domains
  exact map_eq_map (core_siblings cx e r f domain) fun l => rfl

end Referent
