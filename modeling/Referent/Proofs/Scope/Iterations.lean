import Referent.Proofs.Scope.Families
import Referent.Proofs.Scope.Missing
import Referent.Proofs.Scope.Series
import Referent.Proofs.Sizes
import Referent.Proofs.Syntax.Descent

namespace Referent

namespace Range

variable {r whole : Range} {domains : List Range}

structure Escalates (r whole : Range) (domains : List Range) : Prop where
  around : ∀ d ∈ domains, d.containsRange r = true
  within : ∀ d ∈ domains, whole.containsRange d = true
  outward : domains.Pairwise fun a b => ¬a.strictlyContainsRange b = true
  distinct : domains.IsChain (· ≠ ·)
  last : domains.getLast? = some whole

section

variable (haround : ∀ d ∈ domains, d.containsRange r = true)
  (hwithin : ∀ d ∈ domains, whole.containsRange d = true) (hr : whole.containsRange r = true)

include haround hwithin hr

lemma escalates_eraseReps {l : List Range} (hl : ∀ d ∈ l, d ∈ domains ∨ d = whole)
    (houtward : l.Pairwise fun a b => ¬a.strictlyContainsRange b = true)
    (hlast : l.getLast? = some whole) : r.Escalates whole l.eraseReps where
  around d hd := by
    rcases hl d ((eraseRepsBy_sublist l).subset hd) with hmem | rfl
    · exact haround d hmem
    · exact hr
  within d hd := by
    rcases hl d ((eraseRepsBy_sublist l).subset hd) with hmem | rfl
    · exact hwithin d hmem
    · exact containsRange_refl d
  outward := houtward.sublist (eraseRepsBy_sublist l)
  distinct := (@isChain_eraseRepsBy _ (· == ·) l).imp fun a b h => by simpa using h
  last := (getLast?_eraseReps l).trans hlast

lemma escalates_append (houtward : domains.Pairwise fun a b => ¬a.strictlyContainsRange b = true) :
    r.Escalates whole (domains ++ [whole]).eraseReps := by
  refine escalates_eraseReps haround hwithin hr (by simp) ?_ (by simp)
  refine List.pairwise_append.mpr ⟨houtward, List.pairwise_singleton _ _, fun a ha b hb => ?_⟩
  obtain rfl := List.mem_singleton.mp hb
  exact not_strictlyContainsRange_of_containsRange (hwithin a ha)

lemma escalates_sortDomains :
    r.Escalates whole (ScopeFinder.sortDomains (domains ++ [whole])).eraseReps := by
  have hall : ∀ d ∈ domains ++ [whole], whole.containsRange d = true :=
    List.forall_mem_append.mpr ⟨hwithin, by simpa using containsRange_refl whole⟩
  exact escalates_eraseReps haround hwithin hr (by simp [ScopeFinder.mem_sortDomains])
    (ScopeFinder.outward_sortDomains _) (ScopeFinder.getLast?_sortDomains (by simp) hall)

end

end Range

namespace SyntaxTree

variable {d : Document} {t : SyntaxTree} {r : Range} {i : Nat}

structure Covers (d : Document) (t : SyntaxTree) : Prop extends t.Arranged where
  whole : t.range root = d.range

lemma Arranged.outward_ancestors (ht : t.Arranged) (hi : i < t.size) :
    (t.ancestors i).Pairwise fun a b => (t.range b).containsRange (t.range a) = true := by
  refine node_induction (P := fun i => (t.ancestors i).Pairwise fun a b =>
    (t.range b).containsRange (t.range a) = true) (by simp) (fun p c hc hp => ?_) i hi
  rw [ancestors_child hc]
  have hcontains := ht.containsRange_ancestor (of_mem_children hc).2.1
  rw [ancestors_child hc, List.forall_mem_cons] at hcontains
  exact List.pairwise_cons.mpr ⟨hcontains.2, hp⟩

lemma Covers.containsRange (ht : t.Covers d) (hi : i < t.size) :
    d.range.containsRange (t.range i) = true := by
  have h := ht.containsRange_ancestor hi root (root_mem_ancestors hi)
  rwa [ht.whole] at h

lemma Covers.nodeDomains_cases (ht : t.Covers d) (hr : d.range.containsRange r = true)
    (matcher : Matcher) : ScopeFinder.nodeDomains matcher t r = [] ∨
      ∃ i < t.size, (t.range i).containsRange r = true ∧
        ScopeFinder.nodeDomains matcher t r = ((t.ancestors i).filter t.isNamed).map t.range := by
  rw [ScopeFinder.nodeDomains]
  split
  · next m hm =>
    cases hp : t.parent m.node with
    | none => exact .inl rfl
    | some p =>
      have hc := mem_children_iff.mpr ⟨size_of_parent hp, hp⟩
      obtain ⟨a, -, ha⟩ := List.exists_of_findSome?_eq_some hm
      have hcontains : (t.range m.node).containsRange r = true := (Option.filter_eq_some_iff.mp ha).2
      refine .inr ⟨p, Nat.lt_trans (of_mem_children hc).1 (of_mem_children hc).2.1,
        Range.containsRange_trans (ht.containsRange_child hc) hcontains, ?_⟩
      simp
  · have hdown : t.Descends r root (t.nodeAt r) := descends_root_iff.mpr rfl
    refine .inr ⟨t.nodeAt r, hdown.lt_size t.root_lt_size, ?_, by simp⟩
    rcases hdown.eq_or_containsRange with hroot | hcontains
    · rwa [hroot, ht.whole]
    · exact hcontains

lemma Covers.escalates (ht : t.Covers d) (hr : d.range.containsRange r = true) (matcher : Matcher) :
    r.Escalates d.range (ScopeFinder.nodeDomains matcher t r ++ [d.range]).eraseReps := by
  rcases ht.nodeDomains_cases hr matcher with hnil | ⟨i, hi, hcontains, heq⟩
  · rw [hnil]
    exact Range.escalates_append (by simp) (by simp) hr .nil
  · rw [heq]
    have hmem {P : Range → Prop} (h : ∀ a ∈ t.ancestors i, P (t.range a)) :
        ∀ b ∈ ((t.ancestors i).filter t.isNamed).map t.range, P b := by
      intro b hb
      obtain ⟨a, ha, rfl⟩ := List.mem_map.mp hb
      exact h a (List.mem_filter.mp ha).1
    refine Range.escalates_append (hmem fun a ha => ?_) (hmem fun a ha => ?_) hr ?_
    · exact Range.containsRange_trans (ht.containsRange_ancestor hi a ha) hcontains
    · exact ht.containsRange (lt_size_of_mem_ancestors hi a ha)
    · exact List.pairwise_map.mpr (((ht.outward_ancestors hi).filter _).imp fun hout =>
        Range.not_strictlyContainsRange_of_containsRange hout)

end SyntaxTree

lemma Document.containsRange_range {d : Document} {r : Range} (h : d.Holds r) :
    d.range.containsRange r = true :=
  (Range.containsRange_iff _ _).mpr ⟨d.start_range_le _, Document.le_stop_range h.2⟩

namespace ScopeFinder

variable {cx : Context} {e : Editor} {r : Range} {f : ScopeFinder}

def HoldsSiblings (f : ScopeFinder) : Prop := f.IsFlat ∨ ∃ s search, f = .pairs s search

lemma holds_candidates (hf : f.HoldsSiblings) (hr : e.document.Holds r) :
    Gives (f.candidates cx e r) fun l => ∀ s ∈ l, e.document.Holds s.domain := by
  rcases hf with hflat | ⟨scopeType, search, rfl⟩
  · obtain ⟨all, hall⟩ := hflat.exists_enumerates cx e
    rw [hall.part r hr]
    exact .ok fun s hs => (hall.series.fits s (List.mem_filter.mp hs).1).holds
  · rw [candidates]
    refine .ok fun s hs => ?_
    obtain ⟨p, hp, rfl⟩ := List.mem_map.mp (List.mem_filter.mp hs).1
    exact (search.fits_of_mem_findAll e.document p hp).content

lemma escalates_scopesAt (hf : f.HoldsSiblings) (hr : e.document.Holds r) :
    Gives (do
      let around ← f.scopesAt cx e r.start
      let found := (around.map Scope.domain).filter fun s => s.containsRange r
      return (sortDomains found ++ [e.document.range]).eraseReps) (r.Escalates e.document.range) := by
  have hscopes : Gives (f.scopesAt cx e r.start) fun l => ∀ s ∈ l, e.document.Holds s.domain :=
    (holds_candidates hf (Document.holds_point hr.1)).map
      fun l hl s hs => hl s (List.mem_filter.mp hs).1
  refine hscopes.bind fun around haround => .ok ?_
  refine Range.escalates_append (fun d hd => ?_) (fun d hd => ?_) (Document.containsRange_range hr)
    (outward_sortDomains _)
  · exact (List.mem_filter.mp (mem_sortDomains.mp hd)).2
  · obtain ⟨s, hs, rfl⟩ := List.mem_map.mp (List.mem_filter.mp (mem_sortDomains.mp hd)).1
    exact Document.containsRange_range (haround s hs)

lemma tree?_of_treeOf (language : String) :
    Gives (treeOf cx e language) fun t => cx.tree? e.document = some t := by
  rw [treeOf]
  split
  · exact .ok ‹_›
  · exact .error

lemma escalates_domains (hf : f.Itemless) (ht : ∀ t, cx.tree? e.document = some t → t.Covers e.document)
    (hr : e.document.Holds r) : Gives (f.domains cx e r) (r.Escalates e.document.range) := by
  have hwhole := Document.containsRange_range hr
  induction hf with
  | wholeDocument =>
    rw [domains]
    exact .ok (Range.escalates_append (by simp) (by simp) hwhole .nil)
  | nodes kind language matcher =>
    rw [domains]
    exact (tree?_of_treeOf language).bind fun t htree => .ok ((ht t htree).escalates hwhole matcher)
  | @oneOf scopeTypes finders h ih =>
    rw [domains]
    intro l hl
    obtain ⟨found, hfound, rfl⟩ := map_eq_ok.mp hl
    rw [domainsOfAny_eq] at hfound
    refine Range.escalates_sortDomains (fun d hd => ?_) (fun d hd => ?_) hwhole
    · obtain ⟨g, hg, l, hl, hd⟩ := exists_of_mem_collect hfound hd
      exact (ih g hg l hl).around d hd
    · obtain ⟨g, hg, l, hl, hd⟩ := exists_of_mem_collect hfound hd
      exact (ih g hg l hl).within d hd
  | pairs s search => exact escalates_scopesAt (.inr ⟨_, _, rfl⟩) hr
  | _ => exact escalates_scopesAt (.inl trivial) hr

/-- Whether the siblings of a domain lie in it and, if scopes may lie in others, strictly and apart from
each other. -/
structure Fills (f : ScopeFinder) (i : Iteration) : Prop where
  inside : ∀ s ∈ i.scopes, i.domain.containsRange s.domain = true
  apart : f.isHierarchical = true → ∀ s ∈ i.scopes, s.domain ≠ i.domain ∧
    ∀ o ∈ i.scopes, ¬o.domain.strictlyContainsRange s.domain = true

lemma fills_scopesWithin (f : ScopeFinder) (domain : Range) :
    Gives (f.scopesWithin cx e domain) fun l => f.Fills ⟨domain, l⟩ := by
  have hany : Gives (f.scopesOverlapping cx e domain) fun _ => True := fun _ _ => trivial
  refine hany.map fun l _ => ?_
  dsimp only
  split
  · next hhier =>
    constructor
    · intro s hs
      have hmem := (Scope.topLevel_sublist _).subset hs
      exact (List.mem_filter.mp (List.mem_filter.mp hmem).1).2
    · intro _ s hs
      have hmem := (Scope.topLevel_sublist _).subset hs
      refine ⟨of_decide_eq_true (List.mem_filter.mp hmem).2, fun o ho hstrict => ?_⟩
      obtain ⟨hcontains, hne⟩ := Range.strictlyContainsRange_iff.mp hstrict
      exact Scope.not_contains_of_mem_topLevel hs ((Scope.topLevel_sublist _).subset ho) hne hcontains
  · next hflat =>
    exact ⟨fun s hs => (List.mem_filter.mp hs).2, fun hhier => absurd hhier hflat⟩

lemma fills_siblings (hf : f.Itemless) {domain : Range}
    (hdomain : f = .wholeDocument → domain = e.document.range) :
    Gives (f.siblings cx e r domain) fun l => f.Fills ⟨domain, l⟩ := by
  cases hf with
  | wholeDocument =>
    rw [siblings]
    refine .ok ⟨fun s hs => ?_, fun h => Bool.noConfusion h⟩
    rw [List.mem_singleton.mp hs, hdomain rfl]
    exact Range.containsRange_refl _
  | _ => exact fills_scopesWithin _ domain

/-- The domains around a range go outward from it to the whole document, and there are some unless
a syntax tree is needed that the document does not have. The siblings in each domain lie in it. -/
theorem iterations_escalate {language : String} {s : ScopeType} (hs : s.Itemless)
    (hf : ofScopeType language s = .ok f)
    (ht : ∀ t, cx.tree? e.document = some t → t.Covers e.document) (hr : e.document.Holds r) :
    (∃ err, f.iterations cx e r = .error err ∧ cx.Treeless e.document err) ∨
      ∃ found, f.iterations cx e r = .ok found ∧
        r.Escalates e.document.range (found.map Iteration.domain) ∧ ∀ i ∈ found, f.Fills i := by
  have hitemless := itemless_ofScopeType language hs f hf
  cases h : f.iterations cx e r with
  | error err =>
    have hfault := fails_iterations f err h
    exact .inl ⟨err, rfl, hfault.resolve_right fun hitems => hitems.1 hitemless⟩
  | ok found =>
    obtain ⟨domains, hdomains, hfound⟩ := bind_eq_ok.mp h
    refine .inr ⟨found, rfl, ?_, fun i hi => ?_⟩
    · have hmap : found.map Iteration.domain = domains :=
        map_of_mapM_eq_ok (fun d i hi => by obtain ⟨l, -, rfl⟩ := map_eq_ok.mp hi; rfl) hfound
      exact hmap ▸ escalates_domains hitemless ht hr domains hdomains
    · obtain ⟨d, hd, hi⟩ := (mem_iff_of_mapM_eq_ok hfound i).mp hi
      obtain ⟨l, hl, rfl⟩ := map_eq_ok.mp hi
      refine fills_siblings hitemless (fun hwhole => ?_) l hl
      subst hwhole
      obtain rfl := Except.ok.inj hdomains
      exact List.mem_singleton.mp hd

theorem iterations_escalate_argument :
    let t : SyntaxTree := .ofNode (.node "call" (.onLine 0 0 4) true none
      [.node "identifier" (.onLine 0 0 1) true none [],
        .node "argument_list" (.onLine 0 1 4) true none
          [.node "identifier" (.onLine 0 2 3) true none []]])
    let e : Editor := .ofDocument 1 (.ofText 1 "python" "f(x)".toList)
    let cx : Context := { trees := [(1, t)] }
    let r : Range := .onLine 0 2 3
    (∀ t, cx.tree? e.document = some t → t.Covers e.document) ∧ e.document.Holds r ∧
      ∃ f found, ofScopeType "python" (.syntactic .argumentOrParameter) = .ok f ∧
        f.domains cx e r = .ok [.onLine 0 1 4, .onLine 0 0 4] ∧ f.iterations cx e r = .ok found ∧
        r.Escalates e.document.range (found.map Iteration.domain) ∧ ∀ i ∈ found, f.Fills i := by
  intro t e cx r
  have htree : cx.tree? e.document = some t := rfl
  have ht : ∀ t, cx.tree? e.document = some t → t.Covers e.document := by
    intro t' ht'
    obtain rfl := Option.some.inj (htree.symm.trans ht')
    exact ⟨⟨by decide +kernel, by decide +kernel⟩, by decide +kernel⟩
  have hr : e.document.Holds r := by decide +kernel
  have hf : ofScopeType "python" (.syntactic .argumentOrParameter) = .ok
      (.nodes .argumentOrParameter "python"
        (.element ["parameters", "argument_list", "lambda_parameters"])) := rfl
  rcases iterations_escalate (.syntactic .argumentOrParameter) hf ht hr with ⟨_, _, hnone, _⟩ | ⟨found, h⟩
  · cases hnone.symm.trans htree
  · exact ⟨ht, hr, _, found, hf, by decide +kernel, h⟩

end ScopeFinder

end Referent
