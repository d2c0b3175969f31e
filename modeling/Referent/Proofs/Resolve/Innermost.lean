import Referent.Proofs.Resolve.Containing

namespace Referent

namespace Range

variable {q r s : Range}

def OuterFirst (r s : Range) : Prop := r.start < s.start ∨ r.start = s.start ∧ s.stop ≤ r.stop

lemma OuterFirst.refl (r : Range) : r.OuterFirst r := .inr ⟨rfl, Position.le_refl _⟩

lemma OuterFirst.trans (h : q.OuterFirst r) (h' : r.OuterFirst s) : q.OuterFirst s := by
  rcases h with hlt | ⟨heq, hle⟩
  · rcases h' with hlt' | ⟨heq', _⟩
    · exact .inl (Position.lt_of_lt_of_le hlt (Position.le_of_lt hlt'))
    · exact .inl (heq' ▸ hlt)
  · rcases h' with hlt' | ⟨heq', hle'⟩
    · exact .inl (heq ▸ hlt')
    · exact .inr ⟨heq.trans heq', Position.le_trans hle' hle⟩

lemma OuterFirst.eq_of_containsRange (h : r.OuterFirst s) (hs : s.containsRange r = true) : r = s := by
  obtain ⟨hstart, hstop⟩ := (containsRange_iff s r).mp hs
  rcases h with hlt | ⟨heq, hle⟩
  · exact absurd hstart (Position.not_le.mpr hlt)
  · exact ext_iff'.mpr ⟨heq, Position.le_antisymm hstop hle⟩

lemma OuterFirst.containsRange_or_lt (h : r.OuterFirst s) :
    r.containsRange s = true ∨ r.start < s.start := by
  rcases h with hlt | ⟨heq, hle⟩
  · exact .inr hlt
  · exact .inl ((containsRange_iff r s).mpr ⟨heq ▸ Position.le_refl _, hle⟩)

end Range

lemma Matcher.outerFirst_findAll (m : Matcher) (t : SyntaxTree) :
    (m.findAll t).Pairwise fun a b => (t.range a.node).OuterFirst (t.range b.node) := by
  refine (Scope.sorted_findAll m t).imp fun {a b} h => ?_
  rw [order, Ordering.isLE_then_iff_or] at h
  rcases h with hlt | ⟨heq, h⟩
  · exact .inl (Position.compare_eq_lt.mp hlt)
  · refine .inr ⟨Position.compare_eq_eq.mp heq, ?_⟩
    exact Position.isLE_compare.mp (Ordering.isLE_left_of_isLE_then h)

namespace ScopeFinder

variable {cx : Context} {e : Editor} {r : Range} {p : Position} {kind : SyntacticScope} {language : String}
  {matcher : Matcher} {t : SyntaxTree}

lemma isBetter_nodes {a b : Scope} (h : a.domain.OuterFirst b.domain) :
    (nodes kind language matcher).isBetter cx .forward b a = true ↔ b.domain ≠ a.domain := by
  rw [isBetter.eq_def]
  by_cases hsame : b.domain = a.domain
  · simp [hsame]
  · rw [if_neg hsame]
    refine iff_of_true ?_ hsame
    split
    · rfl
    · next hinside =>
      have hlt := h.containsRange_or_lt.resolve_left hinside
      have houtside : ¬b.domain.containsRange a.domain = true :=
        fun hb => hsame (h.eq_of_containsRange hb).symm
      rw [if_neg houtside]
      exact decide_eq_true hlt

lemma outerFirst_preferred {l : List Scope} {s : Scope}
    (hl : l.Pairwise fun a b => a.domain.OuterFirst b.domain)
    (h : (nodes kind language matcher).preferred cx .forward l = some s) :
    ∀ o ∈ l, o.domain.OuterFirst s.domain := by
  cases l with
  | nil => cases h
  | cons a rest =>
    obtain rfl := Option.some.inj h
    clear h
    induction rest generalizing a with
    | nil => simp [Range.OuterFirst.refl]
    | cons b rest ih =>
      rw [List.foldl_cons]
      let best := if (nodes kind language matcher).isBetter cx .forward b a then b else a
      have hab : a.domain.OuterFirst b.domain := List.rel_of_pairwise_cons hl List.mem_cons_self
      -- The better one of two scopes always has the domain of the second one.
      have hbest : best.domain = b.domain := by
        by_cases hbetter : (nodes kind language matcher).isBetter cx .forward b a = true
        · rw [show best = b from if_pos hbetter]
        · rw [show best = a from if_neg hbetter]
          exact (Classical.not_not.mp fun hne => hbetter ((isBetter_nodes hab).mpr hne)).symm
      obtain ⟨hb, hrest⟩ := List.pairwise_cons.mp hl.tail
      have hlater := ih best (List.pairwise_cons.mpr ⟨fun o ho => hbest ▸ hb o ho, hrest⟩)
      have hlast := hlater best List.mem_cons_self
      rw [hbest] at hlast
      intro o ho
      rcases List.mem_cons.mp ho with rfl | ho
      · exact hab.trans hlast
      · rcases List.mem_cons.mp ho with rfl | ho
        · exact hlast
        · exact hlater o (List.mem_cons_of_mem best ho)

lemma scopesAt_nodes (ht : cx.tree? e.document = some t) (p : Position) :
    (nodes kind language matcher).scopesAt cx e p =
      .ok (((matcher.findAll t).map (Scope.ofMatch kind t e)).filter fun s => s.domain.contains p) := by
  refine scopesAt_of_touching ?_
  rw [candidates, treeOf, ht]
  rfl

end ScopeFinder

/-- For a range that lies in a match, a match around the range is taken that has no other one of these
strictly inside it. -/
theorem ScopeType.containing_innermost {cx : Context} {e : Editor} {r : Range} {kind : SyntacticScope}
    {language : String} {matcher : Matcher} {t : SyntaxTree}
    (hmatcher : (Language.ofName language).matcher? kind = some matcher)
    (ht : cx.tree? e.document = some t)
    (hr : ∃ m ∈ matcher.findAll t, (t.range m.node).containsRange r = true) (isReversed : Bool) :
    ∃ f, ScopeFinder.ofScopeType language (.syntactic kind) = .ok f ∧
      ∃ m ∈ matcher.findAll t, (t.range m.node).containsRange r = true ∧
        f.containing cx e r isReversed = .ok (some ((Scope.ofMatch kind t e m).oriented isReversed)) ∧
        ∀ o ∈ matcher.findAll t, (t.range o.node).containsRange r = true →
          ¬(t.range m.node).strictlyContainsRange (t.range o.node) = true := by
  let f : ScopeFinder := .nodes kind language matcher
  let all := (matcher.findAll t).map (Scope.ofMatch kind t e)
  let around := all.filter fun s => s.domain.containsRange r
  have hf : ScopeFinder.ofScopeType language (.syntactic kind) = .ok f := by
    rw [ScopeFinder.ofScopeType, hmatcher]
  have hmem {m : NodeMatch} (hm : m ∈ matcher.findAll t) (h : (t.range m.node).containsRange r = true) :
      Scope.ofMatch kind t e m ∈ around := List.mem_filter.mpr ⟨List.mem_map_of_mem hm, h⟩
  obtain ⟨first, hfirst, hcontains⟩ := hr
  rcases f.preferred_cases cx .forward around with ⟨hnone, _⟩ | ⟨s, hs, hpreferred⟩
  · exact absurd (hmem hfirst hcontains) (hnone ▸ List.not_mem_nil)
  · have hsorted : all.Pairwise fun a b => a.domain.OuterFirst b.domain :=
      List.pairwise_map.mpr (matcher.outerFirst_findAll t)
    have hlast := ScopeFinder.outerFirst_preferred (hsorted.sublist List.filter_sublist) hpreferred
    obtain ⟨hs, hcontains⟩ := List.mem_filter.mp hs
    obtain ⟨m, hm, rfl⟩ := List.mem_map.mp hs
    refine ⟨f, hf, m, hm, hcontains, ?_, fun o ho hcontains hstrict => ?_⟩
    · show f.containingByDomain cx e r isReversed = _
      rw [ScopeFinder.containingByDomain_eq (ScopeFinder.scopesAt_nodes ht r.start), hpreferred]
    · obtain ⟨hinside, hne⟩ := (Bool.and_eq_true _ _).mp hstrict
      have hsame := (hlast _ (hmem ho hcontains)).eq_of_containsRange hinside
      exact bne_iff_ne.mp hne hsame.symm

def nestedArguments : SyntaxTree :=
  .ofNode (.node "call" (.onLine 0 0 7) true none
    [.node "identifier" (.onLine 0 0 1) true none [],
      .node "argument_list" (.onLine 0 1 7) true none
        [.node "call" (.onLine 0 2 6) true none
          [.node "identifier" (.onLine 0 2 3) true none [],
            .node "argument_list" (.onLine 0 3 6) true none
              [.node "identifier" (.onLine 0 4 5) true none []]]]])

theorem ScopeType.containing_innermost_argument :
    let e : Editor := .ofDocument 1 (.ofText 1 "python" "f(g(x))".toList)
    let cx : Context := { trees := [(1, nestedArguments)] }
    let r : Range := .onLine 0 4 5
    let matcher : Matcher := .element ["parameters", "argument_list", "lambda_parameters"]
    let outer : NodeMatch := ⟨3, .onLine 0 2 6, some (none, none)⟩
    let inner : NodeMatch := ⟨6, .onLine 0 4 5, some (none, none)⟩
    (Language.ofName "python").matcher? .argumentOrParameter = some matcher ∧
      cx.tree? e.document = some nestedArguments ∧ matcher.findAll nestedArguments = [outer, inner] ∧
      ∃ f, ScopeFinder.ofScopeType "python" (.syntactic .argumentOrParameter) = .ok f ∧
        f.containing cx e r false =
          .ok (some ((Scope.ofMatch .argumentOrParameter nestedArguments e inner).oriented false)) := by
  intro e cx r matcher outer inner
  have hmatcher : (Language.ofName "python").matcher? .argumentOrParameter = some matcher := rfl
  have ht : cx.tree? e.document = some nestedArguments := rfl
  have hfound : nestedArguments.ids.filterMap (matcher.find nestedArguments) = [outer, inner] := by
    decide +kernel
  have hall : matcher.findAll nestedArguments = [outer, inner] := by
    rw [Matcher.findAll, hfound, List.mergeSort_of_pairwise (by decide +kernel)]
    rfl
  have hr : ∃ m ∈ matcher.findAll nestedArguments, (nestedArguments.range m.node).containsRange r = true :=
    ⟨inner, by simp [hall], by decide +kernel⟩
  obtain ⟨f, hf, m, hm, -, hcontaining, hinner⟩ := ScopeType.containing_innermost hmatcher ht hr false
  refine ⟨hmatcher, ht, hall, f, hf, ?_⟩
  rw [hall] at hm hinner
  obtain rfl | rfl : m = outer ∨ m = inner := by simpa using hm
  · exact absurd (by decide +kernel) (hinner inner (by simp) (by decide +kernel))
  · exact hcontaining

end Referent
