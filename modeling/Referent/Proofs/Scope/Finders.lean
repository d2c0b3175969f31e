import Mathlib.Tactic.Common
import Referent.Proofs.Scope.Made
import Referent.Scope.Containing
import Referent.Scope.Iteration
import Referent.Scope.Walk

namespace Referent

variable {sound : Prop} {cx : Context} {e : Editor}

namespace ScopeFinder

theorem induction {P : ScopeFinder → Prop} (tokens : ∀ b, P (.tokens b))
    (characters : P .characters) (words : P .words) (lines : P .lines) (paragraphs : P .paragraphs)
    (wholeDocument : P .wholeDocument) (regex : ∀ s r, P (.regex s r))
    (pairs : ∀ s search, P (.pairs s search)) (items : P .items)
    (nodes : ∀ kind language matcher, P (.nodes kind language matcher))
    (oneOf : ∀ scopeTypes finders, (∀ f ∈ finders, P f) → P (.oneOf scopeTypes finders)) :
    ∀ f, P f := by
  intro f
  refine ScopeFinder.rec (motive_1 := P) (motive_2 := fun fs => ∀ f ∈ fs, P f) tokens characters
    words lines paragraphs wholeDocument regex pairs items nodes oneOf ?_ ?_ f
  · exact fun f hf => absurd hf List.not_mem_nil
  · intro f rest hf hrest g hg
    rcases List.mem_cons.mp hg with rfl | hg
    · exact hf
    · exact hrest g hg

section Families

variable {α : Type} {r : Range}

lemma collect_eq (F : List ScopeFinder → Except TargetError (List α))
    {g : ScopeFinder → Except TargetError (List α)} (hnil : F [] = .ok [])
    (hcons : ∀ f rest, F (f :: rest) = do
      let found ← unlessMissing [] (g f)
      return found ++ (← F rest)) (fs : List ScopeFinder) :
    F fs = (fs.mapM fun f => unlessMissing [] (g f)).map List.flatten := by
  induction fs with
  | nil => exact hnil
  | cons f rest ih =>
    rw [hcons, ih, List.mapM_cons]
    cases unlessMissing [] (g f) with
    | error err => rfl
    | ok found =>
      cases rest.mapM fun f => unlessMissing [] (g f) with
      | error err => rfl
      | ok others => rfl

lemma exists_of_mem_collect {g : ScopeFinder → Except TargetError (List α)} {fs : List ScopeFinder}
    {l : List α} (h : (fs.mapM fun f => unlessMissing [] (g f)).map List.flatten = .ok l) {a : α}
    (ha : a ∈ l) : ∃ f ∈ fs, ∃ l', g f = .ok l' ∧ a ∈ l' := by
  obtain ⟨ls, hls, rfl⟩ := map_eq_ok.mp h
  obtain ⟨l', hl', ha⟩ := List.mem_flatten.mp ha
  obtain ⟨f, hf, heq⟩ := (mem_iff_of_mapM_eq_ok hls l').mp hl'
  refine ⟨f, hf, l', ?_, ha⟩
  cases hg : g f with
  | ok found =>
    rw [hg] at heq
    exact heq
  | error err =>
    rw [hg, unlessMissing] at heq
    split at heq
    · obtain rfl := Except.ok.inj heq
      exact absurd ha List.not_mem_nil
    · cases heq

lemma candidatesOfAny_eq (fs : List ScopeFinder) : candidatesOfAny cx e r fs =
    (fs.mapM fun f => unlessMissing [] (candidates cx e r f)).map List.flatten :=
  collect_eq (candidatesOfAny cx e r) rfl (fun _ _ => rfl) fs

lemma exists_of_mem_candidatesOfAny {fs : List ScopeFinder} {l : List Scope} {s : Scope}
    (hl : candidatesOfAny cx e r fs = .ok l) (hs : s ∈ l) :
    ∃ f ∈ fs, ∃ l', f.candidates cx e r = .ok l' ∧ s ∈ l' :=
  exists_of_mem_collect (candidatesOfAny_eq fs ▸ hl) hs

lemma domainsOfAny_eq (fs : List ScopeFinder) : domainsOfAny cx e r fs =
    (fs.mapM fun f => unlessMissing [] (domains cx e r f)).map List.flatten :=
  collect_eq (domainsOfAny cx e r) rfl (fun _ _ => rfl) fs

lemma smallestContaining_eq (b : Bool) (best : Option Target) (fs : List ScopeFinder) :
    smallestContaining cx e r b best fs =
      (fs.mapM fun f => unlessMissing none (containing cx e r b f)).map (List.foldl smaller best) := by
  induction fs generalizing best with
  | nil => rfl
  | cons f rest ih =>
    rw [smallestContaining, List.mapM_cons]
    cases unlessMissing none (containing cx e r b f) with
    | error err => rfl
    | ok found =>
      refine (ih _).trans ?_
      cases rest.mapM fun f => unlessMissing none (containing cx e r b f) with
      | error err => rfl
      | ok others => rfl

end Families

lemma gives_treeOf (h : sound → cx.Fits e) (language : String) :
    Gives (treeOf cx e language) fun t => sound → t.Fits e.document := by
  intro t ht
  unfold treeOf at ht
  split at ht
  · cases ht
    exact fun hs => (h hs).tree _ ‹_›
  · cases ht

lemma made_candidatesOfAny {r : Range} {fs : List ScopeFinder}
    (h : ∀ f ∈ fs, Gives (candidates cx e r f) fun l => ∀ s ∈ l, s.target.Made sound e) :
    Gives (candidatesOfAny cx e r fs) fun l => ∀ s ∈ l, s.target.Made sound e := by
  intro l hl s hs
  obtain ⟨f, hf, l', hl', hs⟩ := exists_of_mem_candidatesOfAny hl hs
  exact h f hf l' hl' s hs

lemma made_candidates (h : sound → cx.Fits e) (r : Range) (f : ScopeFinder) :
    Gives (f.candidates cx e r) fun l => ∀ s ∈ l, s.target.Made sound e := by
  induction f using ScopeFinder.induction with
  | tokens b => rw [candidates]; exact .ok (Scope.made_tokens b r)
  | characters => rw [candidates]; exact .ok (Scope.made_characters r)
  | words => rw [candidates]; exact .ok (Scope.made_words r)
  | lines => rw [candidates]; exact .ok (Scope.made_lines r)
  | paragraphs => rw [candidates]; exact .ok (Scope.made_paragraphs r)
  | wholeDocument => rw [candidates]; exact .ok Scope.made_wholeDocument
  | regex s expression => rw [candidates]; exact .ok (Scope.made_regexMatches s expression r)
  | pairs s search => rw [candidates]; exact .ok (Scope.made_pairs search r)
  | items => rw [candidates]; exact Scope.made_items h r
  | nodes kind language matcher =>
    rw [candidates]
    exact (gives_treeOf h language).map fun t ht => Scope.made_nodes kind matcher ht r
  | oneOf scopeTypes finders ih =>
    rw [candidates]
    refine (made_candidatesOfAny ih).map fun l hl s hs => ?_
    exact hl s (List.mem_mergeSort.mp (mem_of_mem_eraseRepsBy hs))

lemma made_scopesAt (h : sound → cx.Fits e) (f : ScopeFinder) (p : Position) :
    Gives (f.scopesAt cx e p) fun l => ∀ s ∈ l, s.target.Made sound e :=
  (made_candidates h _ f).map fun _ hl s hs => hl s (List.mem_filter.mp hs).1

lemma made_scopesOverlapping (h : sound → cx.Fits e) (f : ScopeFinder) (r : Range) :
    Gives (f.scopesOverlapping cx e r) fun l => ∀ s ∈ l, s.target.Made sound e :=
  (made_candidates h _ f).map fun _ hl s hs => hl s (List.mem_filter.mp hs).1

lemma made_scopesWithin (h : sound → cx.Fits e) (f : ScopeFinder) (domain : Range) :
    Gives (f.scopesWithin cx e domain) fun l => ∀ s ∈ l, s.target.Made sound e := by
  refine (made_scopesOverlapping h f domain).map fun l hl s hs => ?_
  dsimp only at hs
  split at hs
  · have hinside := (List.mem_filter.mp (List.mem_filter.mp hs).1).1
    exact hl s (List.mem_filter.mp hinside).1
  · exact hl s (List.mem_filter.mp hs).1

lemma mem_of_preferred {f : ScopeFinder} {direction : Direction} {l : List Scope} {s : Scope}
    (h : f.preferred cx direction l = some s) : s ∈ l := by
  cases l with
  | nil => cases h
  | cons a rest =>
    obtain rfl := Option.some.inj h
    clear h
    induction rest generalizing a with
    | nil => exact List.mem_cons_self
    | cons b rest ih =>
      rw [List.foldl_cons]
      have hmem := ih (if f.isBetter cx direction b a then b else a)
      split at hmem
      · rw [if_pos ‹_›]
        exact List.mem_cons_of_mem a hmem
      · rw [if_neg ‹_›]
        rcases List.mem_cons.mp hmem with h | h
        · rw [h]
          exact List.mem_cons_self
        · exact List.mem_cons_of_mem a (List.mem_cons_of_mem b h)

lemma dropInner_sublist (kept : List Range) (l : List Scope) : (dropInner kept l).Sublist l := by
  fun_induction dropInner kept l with
  | case1 => exact .slnil
  | case2 kept s rest h ih => exact ih.cons s
  | case3 kept s rest h ih => exact ih.cons_cons s

lemma made_walk (h : sound → cx.Fits e) (f : ScopeFinder) (p : Position) (direction : Direction)
    (containment : Option Containment) :
    Gives (f.walk cx e p direction containment) fun l => ∀ s ∈ l, s.target.Made sound e := by
  refine (made_candidates h _ f).bind fun found hfound => ?_
  dsimp only
  split
  · exact .ok fun s hs => hfound s (List.mem_filter.mp (List.mem_mergeSort.mp hs)).1
  · refine .ok fun s hs => ?_
    split at hs
    · have hmem := List.mem_mergeSort.mp ((dropInner_sublist _ _).subset hs)
      exact hfound s (List.mem_filter.mp hmem).1
    · exact hfound s (List.mem_filter.mp (List.mem_mergeSort.mp hs)).1

end ScopeFinder

lemma Scope.made_itemsTouching {c : Collection} (hc : sound → c.Fits e.document) (r : Range)
    (b : Bool) : ∀ t ∈ Scope.itemsTouching e r b c, t.Made sound e := by
  intro t ht
  unfold itemsTouching at ht
  dsimp only at ht
  split at ht
  · cases ht
  · next first rest htouched =>
    have hitem : ∀ i ∈ first :: rest, sound → i.Fits e.document := fun i hi hs =>
      Collection.fits_items (hc hs) i (List.mem_filter.mp (htouched ▸ hi)).1
    have hfirst := hitem first List.mem_cons_self
    have hlast := hitem _ List.getLastD_mem_cons
    generalize rest.getLastD first = last at ht hlast
    have hcontent : sound → e.document.Holds (first.content.union last.content) :=
      fun hs => Document.holds_union (hfirst hs).content (hlast hs).content
    have hmerged : sound → Item.Fits e.document ⟨first.content.union last.content,
        first.domain.union last.domain, first.leading, last.trailing⟩ :=
      fun hs => ⟨hcontent hs, (hfirst hs).leading, (hlast hs).trailing⟩
    split at ht
    · next leading trailing hleading _ =>
      split at ht
      · cases ht
        exact (made_itemTarget b hmerged).withRemoval fun hs =>
          Document.removes_union (hcontent hs) ((hfirst hs).leading leading hleading)
      · cases ht
        exact made_itemTarget b hmerged
    · cases ht
      exact made_itemTarget b hmerged

namespace ScopeFinder

def GivesMade (sound : Prop) (e : Editor) (x : Except TargetError (Option Target)) : Prop :=
  Gives x fun found => ∀ t ∈ found, t.Made sound e

lemma made_spanning (h : sound → cx.Fits e) (f : ScopeFinder) (r : Range) (b : Bool)
    {atStart : List Scope} (hs : ∀ s ∈ atStart, s.target.Made sound e) :
    GivesMade sound e (f.spanning cx e r b atStart) := by
  unfold spanning
  split
  · exact .ok (by simp)
  · next first hfirst =>
    refine (made_scopesAt h f r.stop).map fun atStop hstop t ht => ?_
    obtain ⟨last, hlast, rfl⟩ := Option.map_eq_some_iff.mp ht
    exact (hs first (mem_of_preferred hfirst)).continuous (hstop last (mem_of_preferred hlast))
      true true b

lemma made_containingByDomain (h : sound → cx.Fits e) (f : ScopeFinder) (r : Range) (b : Bool) :
    GivesMade sound e (f.containingByDomain cx e r b) := by
  refine (made_scopesAt h f r.start).bind fun atStart hs => ?_
  split
  · refine .ok fun t ht => ?_
    obtain ⟨s, hs', rfl⟩ := Option.map_eq_some_iff.mp ht
    exact (hs s (mem_of_preferred hs')).withReversed b
  · split
    · next s hs' =>
      refine .ok ?_
      rintro t ⟨⟩
      exact (hs s (List.mem_filter.mp (mem_of_preferred hs')).1).withReversed b
    · exact made_spanning h f r b hs

lemma smaller_cases (best found : Option Target) :
    ∀ t ∈ smaller best found, t ∈ best ∨ t ∈ found := by
  intro t ht
  unfold smaller at ht
  split at ht
  · exact .inl ht
  · split at ht
    · exact .inr ht
    · split at ht
      · exact .inr ht
      · exact .inl ht

lemma made_smallestContaining {r : Range} {b : Bool} {fs : List ScopeFinder}
    {best : Option Target} (h : ∀ f ∈ fs, GivesMade sound e (containing cx e r b f))
    (hbest : ∀ t ∈ best, t.Made sound e) :
    GivesMade sound e (smallestContaining cx e r b best fs) := by
  induction fs generalizing best with
  | nil =>
    rw [smallestContaining]
    exact .ok hbest
  | cons f rest ih =>
    rw [smallestContaining]
    have hf := (h f List.mem_cons_self).unlessMissing none (by simp)
    refine hf.bind fun found hfound => ?_
    refine ih (fun g hg => h g (List.mem_cons_of_mem f hg)) fun t ht => ?_
    rcases smaller_cases best found t ht with ht | ht
    · exact hbest t ht
    · exact hfound t ht

lemma made_containing (h : sound → cx.Fits e) (r : Range) (b : Bool) (f : ScopeFinder) :
    GivesMade sound e (f.containing cx e r b) := by
  induction f using ScopeFinder.induction with
  | pairs s search =>
    rw [containing]
    intro found hfound t ht
    obtain ⟨q, hq, rfl⟩ := map_eq_ok.mp hfound
    obtain ⟨p, rfl, rfl⟩ := Option.map_eq_some_iff.mp ht
    exact PairMatch.made_target b fun hs => PairSearch.fits_find (h hs).tree hq
  | items =>
    rw [containing]
    exact (Scope.fits_around h r).map fun _ hc => Scope.made_itemsTouching hc r b
  | oneOf scopeTypes finders ih =>
    rw [containing]
    exact made_smallestContaining ih (by simp)
  | _ => exact made_containingByDomain h _ r b

lemma made_siblings (h : sound → cx.Fits e) (f : ScopeFinder) (r domain : Range) :
    Gives (f.siblings cx e r domain) fun l => ∀ s ∈ l, s.target.Made sound e := by
  unfold siblings
  split
  · exact (Scope.fits_around h r).map fun _ hc => Scope.made_itemsOf hc
  · exact .ok Scope.made_wholeDocument
  · exact made_scopesWithin h _ domain

lemma made_iterations (h : sound → cx.Fits e) (f : ScopeFinder) (r : Range) :
    Gives (f.iterations cx e r) fun l => ∀ i ∈ l, ∀ s ∈ i.scopes, s.target.Made sound e := by
  refine (show Gives (f.domains cx e r) fun _ => True from fun _ _ => trivial).bind
    fun domains _ => Gives.mapM fun domain _ => ?_
  exact (made_siblings h f r domain).map fun l hl => hl

end ScopeFinder

end Referent
