import Referent.Proofs.Scope.Order

namespace Referent

variable {cx : Context} {e : Editor} {d : Document} {r : Range}

namespace Document

lemma start_range_le (d : Document) (p : Position) : d.range.start ≤ p := by
  rw [start_range]
  exact Position.zero_le p

lemma lines_le (hr : d.Holds r) : r.start.line ≤ r.stop.line ∧ r.stop.line ≤ d.lastLine := by
  have hle := Position.le_def.mp r.start_le_stop
  exact ⟨by omega, (d.le_lastLine_iff _).mpr hr.2.1⟩

lemma mem_linesOf_range {line : Nat} : line ∈ d.linesOf d.range ↔ line ≤ d.lastLine := by
  rw [linesOf, start_range, stop_range, Nat.min_self, List.mem_range'_1]
  show 0 ≤ line ∧ line < 0 + (d.lastLine + 1 - 0) ↔ _
  omega

lemma linesOf_eq_filter (hr : d.Holds r) : d.linesOf r =
    (d.linesOf d.range).filter fun line => r.start.line ≤ line ∧ line ≤ r.stop.line := by
  obtain ⟨hle, hlast⟩ := lines_le hr
  apply List.Pairwise.eq_of_mem_iff (r := (· < ·)) List.pairwise_lt_range'
    (List.Pairwise.filter _ List.pairwise_lt_range')
  intro line
  have hpart : line ∈ d.linesOf r ↔
      r.start.line ≤ line ∧
        line < r.start.line + (min r.stop.line d.lastLine + 1 - r.start.line) := by
    rw [linesOf, List.mem_range'_1]
  show line ∈ d.linesOf r ↔ line ∈ List.filter _ (d.linesOf d.range)
  rw [List.mem_filter, mem_linesOf_range, hpart, decide_eq_true_eq]
  omega

end Document

namespace Scope

lemma touching_touching (hr : d.Holds r) (l : List Scope) :
    touching r (touching d.range l) = touching r l := by
  rw [touching, touching, touching, List.filter_filter]
  apply List.filter_congr
  intro s _
  have hall (h : s.domain.touches r = true) : s.domain.touches d.range = true := by
    obtain ⟨hbefore, hbehind⟩ := Range.touches_iff.mp h
    exact Range.touches_iff.mpr
      ⟨Position.le_trans hbefore (Document.le_stop_range hr.2), d.start_range_le _⟩
  cases htouches : s.domain.touches r with
  | true => rw [hall htouches, Bool.and_true]
  | false => rw [Bool.false_and]

lemma InLines.touching_flatMap {scopesOf : Nat → List Scope} (h : InLines d scopesOf)
    (hr : d.Holds r) : touching r ((d.linesOf r).flatMap scopesOf) =
      touching r (touching d.range ((d.linesOf d.range).flatMap scopesOf)) := by
  rw [touching_touching hr, Document.linesOf_eq_filter hr, touching, touching, List.filter_flatMap,
    List.filter_flatMap]
  apply flatMap_filter
  intro line hline hapart
  apply List.filter_eq_nil_iff.mpr
  intro s hs htouches
  obtain ⟨hstart, hstop⟩ := h.onLine line (Document.mem_linesOf hline) s hs
  obtain ⟨hbefore, hbehind⟩ := Range.touches_iff.mp htouches
  rw [Position.le_def] at hbefore hbehind
  rw [decide_eq_false_iff_not] at hapart
  omega

lemma touching_lines (hr : e.document.Holds r) :
    lines e r = touching r (lines e e.document.range) := by
  have hall : touching r (lines e r) = lines e r := by
    apply List.filter_eq_self.mpr
    intro s hs
    rw [lines_eq] at hs
    obtain ⟨line, hline, hs⟩ := List.mem_flatMap.mp hs
    have hbounds := List.mem_range'_1.mp hline
    have hlast := (Document.lines_le hr).2
    have hlength := hr.1.2
    rw [List.mem_singleton.mp hs, Range.touches_iff, domain_lineScope (Document.mem_linesOf hline),
      Range.start_onLine (Nat.zero_le _), Range.stop_onLine (Nat.zero_le _), Position.le_def,
      Position.le_def]
    dsimp only
    refine ⟨by omega, ?_⟩
    rcases Nat.eq_or_lt_of_le hbounds.1 with rfl | hlt
    · exact .inr ⟨rfl, hlength⟩
    · exact .inl hlt
  rw [← hall, lines_eq, (inLines_lines e).touching_flatMap hr, touching_touching hr, ← lines_eq]

lemma domain_eq_of_between {a b c : Scope}
    (hab : ((compare a.domain.start b.domain.start).then
      (compare b.domain.stop a.domain.stop)).isLE = true)
    (hbc : ((compare b.domain.start c.domain.start).then
      (compare c.domain.stop b.domain.stop)).isLE = true)
    (hac : (a.domain == c.domain) = true) : (a.domain == b.domain) = true := by
  refine beq_of_between (fun r s : Range => (compare r.start s.start).then (compare s.stop r.stop))
    (fun r s h => ?_) hab hbc hac
  obtain ⟨hstart, hstop⟩ := Ordering.then_eq_eq.mp h
  exact Range.ext_iff'.mpr ⟨Position.compare_eq_eq.mp hstart, (Position.compare_eq_eq.mp hstop).symm⟩

lemma nested_touching (r : Range) (l : List Scope) : nested (touching r l) = touching r (nested l) := by
  have hsame (a b : Scope) (hab : (a.domain == b.domain) = true) :
      a.domain.touches r = b.domain.touches r := by rw [beq_iff_eq.mp hab]
  rw [nested, nested, touching, touching, ← filter_sorted]
  exact (filter_eraseRepsBy (fun a b c => domain_eq_of_between (a := a) (b := b) (c := c)) hsame
    (pairwise_sorted l)).symm

end Scope

namespace ScopeFinder

inductive Itemless : ScopeFinder → Prop where
  | tokens (identifiersOnly : Bool) : Itemless (.tokens identifiersOnly)
  | characters : Itemless .characters
  | words : Itemless .words
  | lines : Itemless .lines
  | paragraphs : Itemless .paragraphs
  | wholeDocument : Itemless .wholeDocument
  | regex (s : ScopeType) (expression : Regex) : Itemless (.regex s expression)
  | pairs (s : ScopeType) (search : PairSearch) : Itemless (.pairs s search)
  | nodes (kind : SyntacticScope) (language : String) (matcher : Matcher) :
    Itemless (.nodes kind language matcher)
  | oneOf (scopeTypes : List ScopeType) {finders : List ScopeFinder}
    (h : ∀ f ∈ finders, Itemless f) : Itemless (.oneOf scopeTypes finders)

lemma touching_candidatesOfAny {fs : List ScopeFinder}
    (h : ∀ f ∈ fs, candidates cx e r f =
      (candidates cx e e.document.range f).map (Scope.touching r)) :
    candidatesOfAny cx e r fs =
      (candidatesOfAny cx e e.document.range fs).map (Scope.touching r) := by
  induction fs with
  | nil => rfl
  | cons f rest ih =>
    rw [candidatesOfAny, candidatesOfAny]
    refine bind_eq_map (g := Scope.touching r) ?_ fun found => ?_
    · rw [h f List.mem_cons_self]
      exact unlessMissing_map [] _
    · refine bind_eq_map (ih fun g hg => h g (List.mem_cons_of_mem f hg)) fun others => ?_
      exact congrArg Except.ok (List.filter_append _ _).symm

theorem touching_candidates {f : ScopeFinder} (hf : f.Itemless) (hr : e.document.Holds r) :
    f.candidates cx e r = (f.candidates cx e e.document.range).map (Scope.touching r) := by
  induction hf with
  | tokens b =>
    rw [candidates, candidates, Scope.tokens_eq, Scope.tokens_eq]
    exact congrArg Except.ok ((Scope.inLines_tokens cx b e).touching_flatMap hr)
  | characters =>
    exact congrArg Except.ok ((Scope.inLines_characters e).touching_flatMap hr)
  | words =>
    rw [candidates, candidates, Scope.words_eq, Scope.words_eq]
    exact congrArg Except.ok ((Scope.inLines_words cx e).touching_flatMap hr)
  | lines => exact congrArg Except.ok (Scope.touching_lines hr)
  | paragraphs => exact congrArg Except.ok (Scope.touching_touching hr _).symm
  | wholeDocument =>
    refine congrArg Except.ok (List.filter_eq_self.mpr fun s hs => ?_).symm
    rw [List.mem_singleton.mp hs]
    exact Range.touches_iff.mpr ⟨e.document.start_range_le _, Document.le_stop_range hr.1⟩
  | regex s expression =>
    exact congrArg Except.ok ((Scope.inLines_matches s expression e).touching_flatMap hr)
  | pairs s search => exact congrArg Except.ok (Scope.touching_touching hr _).symm
  | nodes kind language matcher =>
    rw [candidates, candidates]
    cases treeOf cx e language with
    | error error => rfl
    | ok t => exact congrArg Except.ok (Scope.touching_touching hr _).symm
  | oneOf scopeTypes h ih =>
    rw [candidates, candidates]
    exact map_eq_map (touching_candidatesOfAny ih) (Scope.nested_touching r)

end ScopeFinder

namespace ScopeType

/-- Whether a scope type is neither that of collection items nor contains it. -/
inductive Itemless : ScopeType → Prop where
  | syntactic (kind : SyntacticScope) : Itemless (.syntactic kind)
  | textual {kind : TextScope} (h : kind ≠ .collectionItem) : Itemless (.textual kind)
  | surroundingPair (delimiter : PairName) (direction : Option PairDirection) (isStrong : Bool) :
    Itemless (.surroundingPair delimiter direction isStrong)
  | customRegex (pattern : String) : Itemless (.customRegex pattern)
  | oneOf {scopeTypes : List ScopeType} (h : ∀ s ∈ scopeTypes, Itemless s) :
    Itemless (.oneOf scopeTypes)

end ScopeType

namespace ScopeFinder

lemma itemless_ofPattern (s : ScopeType) (pattern : String) :
    Gives (ofPattern s pattern) Itemless := by
  rw [ofPattern]
  split
  · exact .ok (.regex s _)
  · exact .error

lemma itemless_ofTextScope {kind : TextScope} (h : kind ≠ .collectionItem) :
    Gives (ofTextScope kind) Itemless := by
  cases kind with
  | collectionItem => exact absurd rfl h
  | character => exact .ok .characters
  | word => exact .ok .words
  | token => exact .ok (.tokens false)
  | identifier => exact .ok (.tokens true)
  | line => exact .ok .lines
  | paragraph => exact .ok .paragraphs
  | document => exact .ok .wholeDocument
  | nonWhitespaceSequence =>
    rw [ofTextScope]
    exact itemless_ofPattern _ _
  | url =>
    rw [ofTextScope]
    exact itemless_ofPattern _ _

lemma itemless_ofScopeTypes {language : String} {scopeTypes : List ScopeType}
    (h : ∀ s ∈ scopeTypes, Gives (ofScopeType language s) Itemless) :
    Gives (ofScopeTypes language scopeTypes) fun fs => ∀ f ∈ fs, f.Itemless := by
  induction scopeTypes with
  | nil =>
    rw [ofScopeTypes]
    exact .ok fun f hf => absurd hf List.not_mem_nil
  | cons s rest ih =>
    rw [ofScopeTypes]
    refine (h s List.mem_cons_self).bind fun f hf => ?_
    refine (ih fun s' hs' => h s' (List.mem_cons_of_mem s hs')).bind fun fs hfs => .ok fun g hg => ?_
    rcases List.mem_cons.mp hg with rfl | hg
    · exact hf
    · exact hfs g hg

lemma itemless_ofScopeType (language : String) {s : ScopeType} (hs : s.Itemless) :
    Gives (ofScopeType language s) Itemless := by
  induction hs with
  | syntactic kind =>
    rw [ofScopeType]
    split
    · exact .ok (.nodes kind language _)
    · exact .error
  | textual h =>
    rw [ofScopeType]
    exact itemless_ofTextScope h
  | surroundingPair delimiter direction isStrong =>
    rw [ofScopeType]
    exact .ok (.pairs _ _)
  | customRegex pattern =>
    rw [ofScopeType]
    exact itemless_ofPattern _ pattern
  | oneOf h ih =>
    rw [ofScopeType]
    exact (itemless_ofScopeTypes ih).map fun fs hfs => .oneOf _ hfs

end ScopeFinder

/-- What there is near a range does not depend on the range that is asked about: it is what touches the
range of all that there is in the document, in order. -/
theorem ScopeType.candidates_eq_touching {language : String} {s : ScopeType} (hs : s.Itemless)
    {f : ScopeFinder} (hf : ScopeFinder.ofScopeType language s = .ok f)
    (hr : e.document.Holds r) :
    f.candidates cx e r = (f.candidates cx e e.document.range).map (Scope.touching r) ∧
      ∀ scopes, f.candidates cx e r = .ok scopes → Scope.Ordered scopes :=
  ⟨f.touching_candidates (ScopeFinder.itemless_ofScopeType language hs f hf) hr,
    f.ordered_candidates cx e r⟩

theorem ScopeType.candidates_eq_touching_blankLine :
    let e : Editor := .ofDocument 1 (.ofText 1 "plaintext" "ab\n\ncd".toList)
    let r : Range := .between ⟨0, 1⟩ ⟨1, 0⟩
    let found := ScopeFinder.lines.candidates {} e r
    found = (ScopeFinder.lines.candidates {} e e.document.range).map (Scope.touching r) ∧
      ∃ scopes, found = .ok scopes ∧ Scope.Ordered scopes ∧
        scopes.map Scope.domain = [.onLine 0 0 2, .onLine 1 0 0] := by
  intro e r found
  have hfound : found = .ok (Scope.lines e r) := rfl
  have hlines := @ScopeType.candidates_eq_touching {} e r "plaintext" .line (.textual (by decide)) .lines
    rfl (by decide +kernel)
  exact ⟨hlines.1, _, hfound, hlines.2 _ hfound, by decide +kernel⟩

end Referent
