import Referent.Proofs.Document.Coordinates
import Referent.Proofs.Resolve.Steps
import Referent.Proofs.Scope.Skyline

/-! Runs of scopes with only white space in between. A run ends where a walk meets a scope that does not
continue it, so that a scope around the end of a run hides those that do. -/

namespace Referent

namespace Document

variable {d : Document} {r s : Range}

lemma textIn_of_containsRange (h : r.containsRange s = true) : d.textIn s =
    ((d.textIn r).drop (d.offsetAt s.start - d.offsetAt r.start)).take
      (d.offsetAt s.stop - d.offsetAt s.start) := by
  obtain ⟨hstart, hstop⟩ := (Range.containsRange_iff r s).mp h
  have hstart := d.offsetAt_mono hstart
  have hstop := d.offsetAt_mono hstop
  have hle := d.offsetAt_mono s.start_le_stop
  rw [textIn, textIn, List.drop_take, List.drop_drop, List.take_take, Nat.add_sub_cancel' hstart,
    Nat.min_eq_left (by omega)]

lemma isBlank_of_containsRange (h : r.containsRange s = true) (hr : isBlank (d.textIn r) = true) :
    isBlank (d.textIn s) = true := by
  rw [textIn_of_containsRange h]
  refine List.all_eq_true.mpr fun c hc => List.all_eq_true.mp hr c ?_
  exact List.mem_of_mem_drop (List.mem_of_mem_take hc)

end Document

namespace Scope

variable {d : Document} {direction : Direction} {a h x : Scope}

/-- Whether a scope continues a run that ends with another one: it begins at its end or behind it, in the
same line or the next one, with only white space in between. -/
def Continues (d : Document) (direction : Direction) (a x : Scope) : Prop :=
  match direction with
  | .forward => Target.isAdjacent d a.domain x.domain = true
  | .backward => Target.isAdjacent d x.domain a.domain = true

lemma isAdjacent_iff {r s : Range} : Target.isAdjacent d r s = true ↔
    r.stop ≤ s.start ∧ s.start.line ≤ r.stop.line + 1 ∧
      isBlank (d.textIn (.between r.stop s.start)) = true := by
  rw [Target.isAdjacent, Bool.and_eq_true, Bool.and_eq_true, decide_eq_true_iff, decide_eq_true_iff,
    and_assoc]

lemma Continues.le (h : Continues d direction a x) :
    direction.Le (a.domain.edge direction) (x.domain.near direction) := by
  cases direction with
  | forward => exact (isAdjacent_iff.mp h).1
  | backward => exact (isAdjacent_iff.mp h).1

lemma Continues.of_le (hx : Continues d direction a x)
    (hh : direction.Le (a.domain.edge direction) (h.domain.near direction))
    (hle : direction.Le (h.domain.near direction) (x.domain.near direction)) :
    Continues d direction a h := by
  cases direction with
  | forward =>
    have hh : a.domain.stop ≤ h.domain.start := hh
    have hle : h.domain.start ≤ x.domain.start := hle
    obtain ⟨hax, hline, hblank⟩ := isAdjacent_iff.mp hx
    refine isAdjacent_iff.mpr ⟨hh, Nat.le_trans (Position.line_le_of_le hle) hline, ?_⟩
    refine Document.isBlank_of_containsRange ?_ hblank
    rw [Range.between_of_le hh, Range.between_of_le hax]
    exact (Range.containsRange_iff _ _).mpr ⟨Position.le_refl _, hle⟩
  | backward =>
    have hh : h.domain.stop ≤ a.domain.start := hh
    have hle : x.domain.stop ≤ h.domain.stop := hle
    obtain ⟨hax, hline, hblank⟩ := isAdjacent_iff.mp hx
    have hline' := Nat.add_le_add_right (Position.line_le_of_le hle) 1
    refine isAdjacent_iff.mpr ⟨hh, Nat.le_trans hline hline', ?_⟩
    refine Document.isBlank_of_containsRange ?_ hblank
    rw [Range.between_of_le hh, Range.between_of_le hax]
    exact (Range.containsRange_iff _ _).mpr ⟨hle, Position.le_refl _⟩

end Scope

namespace Target

variable {d : Document} {direction : Direction} {start x : Scope} {all met : List Scope}

lemma runEnd_cons (d : Document) (direction : Direction) (start s : Scope) (rest : List Scope) :
    (start.Continues d direction s ∧
      runEnd d direction start (s :: rest) = runEnd d direction s rest) ∨
    (¬start.Continues d direction s ∧ runEnd d direction start (s :: rest) = start) := by
  cases direction with
  | forward =>
    by_cases h : isAdjacent d start.domain s.domain = true
    · exact .inl ⟨h, by rw [runEnd, if_pos h]⟩
    · exact .inr ⟨h, by rw [runEnd, if_neg h]⟩
  | backward =>
    by_cases h : isAdjacent d s.domain start.domain = true
    · exact .inl ⟨h, by rw [runEnd, if_pos h]⟩
    · exact .inr ⟨h, by rw [runEnd, if_neg h]⟩

structure IsRunEnd (d : Document) (direction : Direction) (start : Scope) (met : List Scope)
    (last : Scope) (run rest : List Scope) : Prop where
  eq_append : met = run ++ rest
  last_mem : run = [] ∧ last = start ∨ last ∈ run
  le_last : ∀ s ∈ start :: run, direction.Le (s.domain.edge direction) (last.domain.edge direction)
  stops : ∀ s ∈ rest.head?, ¬last.Continues d direction s

lemma exists_isRunEnd (d : Document) (direction : Direction) (start : Scope) (met : List Scope) :
    ∃ run rest, IsRunEnd d direction start met (runEnd d direction start met) run rest := by
  induction met generalizing start with
  | nil =>
    refine ⟨[], [], rfl, .inl ⟨rfl, rfl⟩, fun s hs => ?_, fun s hs => nomatch hs⟩
    rw [List.mem_singleton.mp hs]
    exact .refl _ _
  | cons s rest ih =>
    rcases runEnd_cons d direction start s rest with ⟨hnext, heq⟩ | ⟨hstop, heq⟩
    · obtain ⟨run, others, h⟩ := ih s
      rw [heq]
      refine ⟨s :: run, others, congrArg (s :: ·) h.eq_append, .inr ?_, fun u hu => ?_, h.stops⟩
      · rcases h.last_mem with ⟨_, hlast⟩ | hmem
        · exact List.mem_cons.mpr (.inl hlast)
        · exact List.mem_cons_of_mem s hmem
      · rcases List.mem_cons.mp hu with rfl | hu
        · exact (hnext.le.trans (s.domain.near_le_edge direction)).trans
            (h.le_last s List.mem_cons_self)
        · exact h.le_last u hu
    · rw [heq]
      refine ⟨[], s :: rest, rfl, .inl ⟨rfl, rfl⟩, fun u hu => ?_, fun u hu => ?_⟩
      · rw [List.mem_singleton.mp hu]
        exact .refl _ _
      · exact Option.some.inj hu ▸ hstop

section Skyline

variable (hmet : ScopeFinder.IsSkyline direction (start.domain.edge direction) all met)

include hmet

lemma hidden_of_continues {x : Scope} (hx : x ∈ all)
    (hcontinues : (runEnd d direction start met).Continues d direction x) :
    (∃ y ∈ all, y.domain.strictlyContains ((runEnd d direction start met).domain.edge direction) = true) ∨
      x.domain = .point ((runEnd d direction start met).domain.edge direction) := by
  obtain ⟨run, rest, hend⟩ := exists_isRunEnd d direction start met
  generalize runEnd d direction start met = last at hcontinues hend ⊢
  have hstart := hend.le_last start List.mem_cons_self
  obtain ⟨o, ho, hinside⟩ := hmet.covered x hx (ScopeFinder.isAhead_of_le (hstart.trans hcontinues.le))
  obtain ⟨hnear, hedge⟩ := (Range.containsRange_iff_le direction).mp hinside
  rcases List.mem_append.mp (hend.eq_append ▸ ho) with hrun | hrest
  · -- What lies in a scope of the run and begins at the run's end is empty.
    have hle := hedge.trans (hend.le_last o (List.mem_cons_of_mem start hrun))
    have hx := x.domain.near_le_edge direction
    exact .inr (Range.eq_point ((hx.trans hle).antisymm hcontinues.le)
      (hle.antisymm (hcontinues.le.trans hx)))
  · obtain ⟨h, others, rfl⟩ := List.exists_cons_of_ne_nil (List.ne_nil_of_mem hrest)
    have hapart := hmet.apart
    rw [hend.eq_append] at hapart
    obtain ⟨_, hrests, hacross⟩ := List.pairwise_append.mp hapart
    have hho : direction.Le (h.domain.near direction) (o.domain.near direction) := by
      rcases List.mem_cons.mp hrest with rfl | hothers
      · exact .refl _ _
      · exact (Range.noFurther_iff.mp ((List.pairwise_cons.mp hrests).1 o hothers).1).1
    -- The scope at which the walk stops comes before `x`: from behind the end it would continue the run.
    have hbefore : ¬direction.Le (last.domain.edge direction) (h.domain.near direction) := fun hle =>
      hend.stops h rfl (hcontinues.of_le hle (hho.trans hnear))
    have hh := hmet.mem h (hend.eq_append ▸ List.mem_append_right run List.mem_cons_self)
    refine .inl ⟨h, hh.1, (Range.strictlyContains_iff direction).mpr ⟨hbefore, fun hle => ?_⟩⟩
    rcases hend.last_mem with ⟨_, rfl⟩ | hmem
    · rcases ScopeFinder.isAhead_iff_le.mp hh.2 with hbeyond | hpoint
      · exact hbeyond hle
      · rw [hpoint] at hbefore
        refine hbefore ?_
        cases direction with
        | forward => exact .refl _ _
        | backward => exact .refl _ _
    · obtain ⟨hfurther, hnot⟩ := hacross last hmem h List.mem_cons_self
      exact hnot ((Range.containsRange_iff_le direction).mpr ⟨(Range.noFurther_iff.mp hfurther).1, hle⟩)

lemma runEnd_eq_start {y : Scope} (hy : y ∈ all)
    (hover : y.domain.strictlyContains (start.domain.edge direction) = true) :
    runEnd d direction start met = start := by
  obtain ⟨hnear, hedge⟩ := (Range.strictlyContains_iff direction).mp hover
  obtain ⟨o, ho, hinside⟩ := hmet.covered y hy (ScopeFinder.isAhead_iff_le.mpr (.inl hedge))
  have hle := ((Range.containsRange_iff_le direction).mp hinside).1
  cases met with
  | nil => rfl
  | cons h others =>
    have hho : direction.Le (h.domain.near direction) (o.domain.near direction) := by
      rcases List.mem_cons.mp ho with rfl | hothers
      · exact .refl _ _
      · exact (Range.noFurther_iff.mp ((List.pairwise_cons.mp hmet.apart).1 o hothers).1).1
    rcases runEnd_cons d direction start h others with ⟨hnext, _⟩ | ⟨_, heq⟩
    · exact absurd ((hnext.le.trans hho).trans hle) hnear
    · exact heq

lemma runEnd_mem (hstart : start ∈ all) : runEnd d direction start met ∈ all := by
  obtain ⟨run, rest, hend⟩ := exists_isRunEnd d direction start met
  generalize runEnd d direction start met = last at hend ⊢
  rcases hend.last_mem with ⟨_, rfl⟩ | hmem
  · exact hstart
  · exact (hmet.mem _ (hend.eq_append ▸ List.mem_append_left rest hmem)).1

end Skyline

def IsMaximal (d : Document) (direction : Direction) (all : List Scope) (last : Scope) : Prop :=
  ∀ x ∈ all, x.domain ≠ last.domain → ¬last.Continues d direction x

/-- How a run ends that starts with a scope: what continues it is hidden, by a scope that reaches over the
end, or as it is empty and right there. If a scope reaches over the end of the first one, the run is over. -/
structure EndsRun (d : Document) (direction : Direction) (all : List Scope) (start last : Scope) : Prop where
  start_mem : start ∈ all
  mem : last ∈ all
  hidden : ∀ x ∈ all, last.Continues d direction x →
    (∃ y ∈ all, y.domain.strictlyContains (last.domain.edge direction) = true) ∨
      x.domain = .point (last.domain.edge direction)
  blocked : ∀ y ∈ all, y.domain.strictlyContains (start.domain.edge direction) = true → last = start

lemma EndsRun.isMaximal {e : Editor} {last : Scope} (h : EndsRun d direction all start last)
    (hall : Scope.Series e all) : IsMaximal d direction all last := by
  have hlast := last.domain.start_le_stop
  intro x hx hne hcontinues
  rcases h.hidden x hx hcontinues with ⟨y, hy, hover⟩ | hpoint
  · have hedge : last.domain.start ≤ last.domain.edge direction ∧
        last.domain.edge direction ≤ last.domain.stop := by
      cases direction with
      | forward => exact ⟨hlast, Position.le_refl _⟩
      | backward => exact ⟨Position.le_refl _, hlast⟩
    obtain ⟨hbefore, hbehind⟩ := Bool.and_eq_true_iff.mp hover
    have hbefore := of_decide_eq_true hbefore
    have hbehind := of_decide_eq_true hbehind
    rcases hall.eq_or_precedes hy h.mem with rfl | hy | hy
    · cases direction with
      | forward => exact Position.not_le.mpr hbehind (Position.le_refl _)
      | backward => exact Position.not_le.mpr hbefore (Position.le_refl _)
    · exact Position.not_le.mpr hbehind (Position.le_trans hy.stop_le hedge.1)
    · exact Position.not_le.mpr hbefore (Position.le_trans hedge.2 hy.stop_le)
  · have hedge : x.domain.edge direction = last.domain.edge direction := by
      rw [hpoint, Range.edge_point]
    rcases hall.eq_or_precedes hx h.mem with heq | hx | hx
    · exact hne (congrArg Scope.domain heq)
    · exact hx.edge_ne direction hedge
    · exact hx.edge_ne direction hedge.symm

variable {cx : Context} {t : Target} {f : ScopeFinder} {p : Position} {touching : List Scope}

section Ends

variable (hf : f.Itemless) (htree : ∀ tree, cx.tree? t.document = some tree → tree.Fits t.document)
  (hall : f.candidates cx t.editor t.document.range = .ok all)

include hf htree hall

lemma endsRun_distalScope (hp : t.document.Has p) (htouching : f.scopesAt cx t.editor p = .ok touching)
    (hstart : f.preferred cx direction.opposite touching = some start) :
    start.domain.contains p = true ∧ ∃ last, t.distalScope cx f p direction = .ok (some last) ∧
      EndsRun t.document direction all start last := by
  obtain ⟨found, hfound, rfl⟩ := map_eq_ok.mp htouching
  have hpoint : t.editor.document.Holds (.point p) := ⟨hp, hp⟩
  rw [ScopeFinder.touching_candidates hf hpoint] at hfound
  obtain ⟨all', hall', rfl⟩ := map_eq_ok.mp hfound
  obtain rfl : all = all' := Except.ok.inj (hall.symm.trans hall')
  obtain ⟨hmem, hcontains⟩ := List.mem_filter.mp (ScopeFinder.mem_of_preferred hstart)
  have hmem := (List.mem_filter.mp hmem).1
  have hholds := hf.holds_domain htree hall hmem
  have hedge : t.document.Has (start.domain.edge direction) := by
    cases direction with
    | forward => exact hholds.2
    | backward => exact hholds.1
  obtain ⟨met, hwalk, hmet⟩ := hf.isSkyline_walk hall hedge direction
  refine ⟨hcontains, runEnd t.document direction start met, ?_, hmem, runEnd_mem hmet hmem,
    fun x hx hcontinues => hidden_of_continues hmet hx hcontinues,
    fun y hy hover => runEnd_eq_start hmet hy hover⟩
  rw [distalScope, htouching]
  dsimp only [bind, Except.bind]
  rw [hstart]
  cases direction with
  | forward =>
    have hwalk : f.walk cx t.editor start.domain.stop .forward none = .ok met := hwalk
    dsimp only
    rw [hwalk]
    rfl
  | backward =>
    have hwalk : f.walk cx t.editor start.domain.start .backward none = .ok met := hwalk
    dsimp only
    rw [hwalk]
    rfl

lemma exists_endsRun {last : Scope} (hp : t.document.Has p)
    (h : t.distalScope cx f p direction = .ok (some last)) :
    ∃ start, start.domain.contains p = true ∧ EndsRun t.document direction all start last := by
  obtain ⟨touching, htouching, h'⟩ := bind_eq_ok.mp h
  cases hstart : f.preferred cx direction.opposite touching with
  | none =>
    rw [hstart] at h'
    cases h'
  | some start =>
    obtain ⟨hcontains, last', hlast, hends⟩ := endsRun_distalScope hf htree hall hp htouching hstart
    obtain rfl : last' = last := Option.some.inj (Except.ok.inj (hlast.symm.trans h))
    exact ⟨start, hcontains, hends⟩

end Ends

/-- What continues a run beyond one of its ends is hidden there. It is so only if scopes may lie in others,
and always if the scope at the target lies in another one of its type that reaches over the end. -/
theorem contiguousScope_ends {s : ScopeType} {targets : List Target} (hs : s.Itemless)
    (ht : t.document.Holds t.content)
    (htree : ∀ tree, cx.tree? t.document = some tree → tree.Fits t.document)
    (h : t.contiguousScope cx s = .ok targets) :
    ∃ f all first last, ScopeFinder.ofTarget s t = .ok f ∧
      f.candidates cx t.editor t.document.range = .ok all ∧
      targets = [ofScopes first last t.isReversed] ∧
      (∃ start, start.domain.contains t.content.start = true ∧
        EndsRun t.document .backward all start first) ∧
      (∃ start, start.domain.contains t.content.stop = true ∧
        EndsRun t.document .forward all start last) ∧
      (s.IsFlat → IsMaximal t.document .backward all first ∧ IsMaximal t.document .forward all last) := by
  obtain ⟨f, hfinder, hrun⟩ := bind_eq_ok.mp h
  obtain ⟨first?, hfirst, hrun'⟩ := bind_eq_ok.mp hrun
  obtain ⟨last?, hlast, hresult⟩ := bind_eq_ok.mp hrun'
  have hf : f.Itemless := ScopeFinder.itemless_ofScopeType _ hs f hfinder
  split at hresult
  · next first last =>
    obtain ⟨touching, htouching, _⟩ := bind_eq_ok.mp hfirst
    obtain ⟨found, hfound, _⟩ := map_eq_ok.mp htouching
    have hpoint : t.editor.document.Holds (.point t.content.start) := ⟨ht.1, ht.1⟩
    rw [ScopeFinder.touching_candidates hf hpoint] at hfound
    obtain ⟨all, hall, _⟩ := map_eq_ok.mp hfound
    obtain ⟨start, hstart, hends⟩ := exists_endsRun hf htree hall ht.1 hfirst
    obtain ⟨start', hstart', hends'⟩ := exists_endsRun hf htree hall ht.2 hlast
    refine ⟨f, all, first, last, hfinder, hall, (Except.ok.inj hresult).symm, ⟨start, hstart, hends⟩,
      ⟨start', hstart', hends'⟩, fun hflat => ?_⟩
    obtain ⟨all', henumerates⟩ :=
      (ScopeFinder.isFlat_ofScopeType hflat _ f hfinder).exists_enumerates cx t.editor
    obtain rfl : all = all' := Except.ok.inj (hall.symm.trans henumerates.whole)
    exact ⟨hends.isMaximal henumerates.series, hends'.isMaximal henumerates.series⟩
  · cases hresult

section NestedParentheses

open ScopeFinder (nestedParentheses findAll_nestedParentheses)

def nestedEditor : Editor := .ofDocument 1 nestedParentheses

def nestedFinder : ScopeFinder := .pairs (.pair .parentheses) (.ofName .parentheses "plaintext")

def outerPair : Scope := .ofPair nestedEditor ⟨.onLine 0 0 1, .onLine 0 8 9⟩
def leftPair : Scope := .ofPair nestedEditor ⟨.onLine 0 1 2, .onLine 0 3 4⟩
def rightPair : Scope := .ofPair nestedEditor ⟨.onLine 0 5 6, .onLine 0 7 8⟩

def cursorInLeftPair : Target := .untyped nestedEditor (.onLine 0 2 2) false true

lemma candidates_nestedFinder (r : Range) : nestedFinder.candidates {} nestedEditor r =
    .ok (Scope.touching r [outerPair, leftPair, rightPair]) := by
  have hall : (PairSearch.ofName .parentheses "plaintext").findAll nestedEditor.document = _ :=
    findAll_nestedParentheses
  rw [nestedFinder, ScopeFinder.candidates, Scope.pairs, hall]
  rfl

lemma contiguousScope_cursorInLeftPair :
    cursorInLeftPair.contiguousScope {} (.pair .parentheses) = .ok [ofScopes leftPair leftPair false] := by
  have hall : nestedFinder.candidates {} nestedEditor nestedEditor.document.range =
      .ok [outerPair, leftPair, rightPair] := candidates_nestedFinder _
  have htouching : nestedFinder.scopesAt {} nestedEditor ⟨0, 2⟩ = .ok [outerPair, leftPair] := by
    rw [ScopeFinder.scopesAt, candidates_nestedFinder]
    rfl
  have hdistal (direction : Direction) :
      cursorInLeftPair.distalScope {} nestedFinder ⟨0, 2⟩ direction = .ok (some leftPair) := by
    have hpreferred : nestedFinder.preferred {} direction.opposite [outerPair, leftPair] =
        some leftPair := rfl
    obtain ⟨_, last, hlast, hends⟩ := endsRun_distalScope (t := cursorInLeftPair)
      (f := nestedFinder) (.pairs _ _) (fun tree h => by cases h) hall (by decide +kernel) htouching hpreferred
    have hover : outerPair.domain.strictlyContains (leftPair.domain.edge direction) = true := by
      cases direction with
      | forward => rfl
      | backward => rfl
    rw [hlast, hends.blocked outerPair List.mem_cons_self hover]
  exact bind_eq_ok.mpr ⟨nestedFinder, rfl, bind_eq_ok.mpr ⟨_, hdistal .backward,
    bind_eq_ok.mpr ⟨_, hdistal .forward, rfl⟩⟩⟩

end NestedParentheses

theorem contiguousScope_ends_nestedPairs :
    let t := cursorInLeftPair
    ∃ f all first last, ScopeFinder.ofTarget (.pair .parentheses) t = .ok f ∧
      f.candidates {} t.editor t.document.range = .ok all ∧
      [ofScopes leftPair leftPair false] = [ofScopes first last false] ∧
      (∃ start, start.domain.contains ⟨0, 2⟩ = true ∧ EndsRun t.document .backward all start first) ∧
      ∃ start, start.domain.contains ⟨0, 2⟩ = true ∧ EndsRun t.document .forward all start last := by
  obtain ⟨f, all, first, last, hf, hall, htargets, hfirst, hlast, _⟩ :=
    contiguousScope_ends (.surroundingPair _ _ _) (by decide +kernel) (fun tree h => by cases h)
      contiguousScope_cursorInLeftPair
  exact ⟨f, all, first, last, hf, hall, htargets, hfirst, hlast⟩

theorem contiguousScope_cutShort :
    let t := cursorInLeftPair
    ∃ f all last, ScopeFinder.ofTarget (.pair .parentheses) t = .ok f ∧
      f.candidates {} t.editor t.document.range = .ok all ∧ last ∈ all ∧
      t.contiguousScope {} (.pair .parentheses) = .ok [ofScopes last last false] ∧
      ¬IsMaximal t.document .forward all last := by
  have hall : nestedFinder.candidates {} nestedEditor nestedEditor.document.range =
      .ok [outerPair, leftPair, rightPair] := candidates_nestedFinder _
  refine ⟨nestedFinder, _, leftPair, rfl, hall, List.mem_cons_of_mem _ List.mem_cons_self,
    contiguousScope_cursorInLeftPair, fun hmaximal => ?_⟩
  have hcontinues : leftPair.Continues cursorInLeftPair.document .forward rightPair := by
    show isAdjacent _ _ _ = true
    decide +kernel
  exact hmaximal rightPair (List.mem_cons_of_mem _ (List.mem_cons_of_mem _ List.mem_cons_self))
    (by decide +kernel) hcontinues

end Target

end Referent
