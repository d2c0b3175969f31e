import Referent.Proofs.Scope.Made
import Referent.Proofs.Scope.Windows

namespace Referent

namespace Range

/-- Whether a range ends where another one starts, or before. Only one of the two may be empty there. -/
structure Precedes (r s : Range) : Prop where
  stop_le : r.stop ≤ s.start
  start_lt : r.start < s.start
  stop_lt : r.stop < s.stop

lemma not_isEmpty_onLine {line a b : Nat} (h : a < b) : ¬(onLine line a b).isEmpty = true := by
  rw [isEmpty_iff, start_onLine (Nat.le_of_lt h), stop_onLine (Nat.le_of_lt h), Position.ext_iff']
  dsimp only
  omega

lemma precedes_of_lines {r s : Range} (h : r.stop.line < s.start.line) : r.Precedes s := by
  have hr := r.start_le_stop
  have hs := s.start_le_stop
  rw [Position.le_def] at hr hs
  exact ⟨.inl h, .inl (by omega), .inl (by omega)⟩

lemma precedes_of_stop_le {r s : Range} (hr : ¬r.isEmpty = true) (hs : ¬s.isEmpty = true)
    (h : r.stop ≤ s.start) : r.Precedes s := by
  have hr := start_lt_stop hr
  have hs := start_lt_stop hs
  exact ⟨h, Position.lt_of_lt_of_le hr h, Position.lt_of_le_of_lt h hs⟩

end Range

namespace Line

lemma length_takeWhile_le {α : Type} {p : α → Bool} {c : α} (hc : p c = false) (before behind : List α) :
    ((before ++ c :: behind).takeWhile p).length ≤ before.length := by
  induction before with
  | nil => simp [hc]
  | cons b before ih =>
    rw [List.cons_append, List.takeWhile_cons]
    split
    · exact Nat.succ_le_succ ih
    · exact Nat.zero_le _

lemma indent_lt_trimmedLength {l : Line} (h : l.isBlank = false) : l.indent < l.trimmedLength := by
  obtain ⟨c, hc, hspace⟩ := List.all_eq_false.mp h
  obtain ⟨before, behind, htext⟩ := List.append_of_mem hc
  have hc : isHorizontalSpace c = false := by simpa using hspace
  have hindent := length_takeWhile_le hc before behind
  have hrest := length_takeWhile_le hc behind.reverse before.reverse
  have hreverse : l.text.reverse = behind.reverse ++ c :: before.reverse := by simp [htext]
  have hlength : l.length = before.length + (behind.length + 1) := by
    rw [length, htext, List.length_append, List.length_cons]
  rw [← htext] at hindent
  rw [← hreverse, List.length_reverse] at hrest
  rw [indent, trimmedLength]
  omega

end Line

namespace Scope

variable {cx : Context} {e : Editor}

structure Fits (e : Editor) (s : Scope) : Prop where
  holds : e.document.Holds s.domain
  made : s.target.Made True e
  unreversed : s.target.isReversed = false
  inside : s.domain.containsRange s.target.content = true
  isEmpty : s.target.content.isEmpty = true → s.domain.isEmpty = true

lemma holds_of_made {s : Scope} (h : s.target.Made True e) : e.document.Holds s.target.content := by
  have hcontent := (h.wellFormed trivial).content
  rw [Target.document, h.editor_eq] at hcontent
  exact hcontent

lemma Fits.oriented_false {s : Scope} (h : s.Fits e) : s.oriented false = s.target := by
  rw [oriented, Target.withReversed, ← h.unreversed]

structure Series (e : Editor) (l : List Scope) : Prop where
  fits : ∀ s ∈ l, s.Fits e
  precedes : l.Pairwise fun a b => a.domain.Precedes b.domain

lemma Series.sublist {l l' : List Scope} (h : Series e l) (hl : List.Sublist l' l) : Series e l' :=
  ⟨fun s hs => h.fits s (hl.subset hs), h.precedes.sublist hl⟩

lemma Series.eq_or_precedes {l : List Scope} {a b : Scope} (h : Series e l) (ha : a ∈ l) (hb : b ∈ l) :
    a = b ∨ a.domain.Precedes b.domain ∨ b.domain.Precedes a.domain :=
  eq_or_rel_of_pairwise h.precedes ha hb

structure IsSpan (s : Scope) : Prop where
  unreversed : s.target.isReversed = false
  domain_eq : s.domain = s.target.content
  nonempty : ¬s.domain.isEmpty = true

lemma Series.of_spans {l : List Scope} (hmade : ∀ s ∈ l, s.target.Made True e)
    (hspan : ∀ s ∈ l, s.IsSpan) (h : Successive l) : Series e l where
  fits s hs := by
    have hdomain := (hspan s hs).domain_eq
    exact ⟨hdomain ▸ holds_of_made (hmade s hs), hmade s hs, (hspan s hs).unreversed,
      hdomain ▸ Range.containsRange_refl _, fun h => hdomain ▸ h⟩
  precedes := (List.pairwise_map.mp h).imp_of_mem fun ha hb hle =>
    Range.precedes_of_stop_le (hspan _ ha).nonempty (hspan _ hb).nonempty hle

lemma isSpan_tokens (identifiersOnly : Bool) (r : Range) :
    ∀ s ∈ tokens cx identifiersOnly e r, s.IsSpan := by
  intro s hs
  obtain ⟨range, hrange, rfl⟩ := List.mem_map.mp (List.mem_filter.mp hs).1
  obtain ⟨line, _, hrange⟩ := List.mem_flatMap.mp (List.mem_filter.mp hrange).1
  obtain ⟨t, ht, rfl⟩ := List.mem_map.mp hrange
  exact ⟨rfl, rfl, Range.not_isEmpty_onLine ((cx.along_tokensOfText _ _).nonempty t ht)⟩

lemma series_tokens (identifiersOnly : Bool) (r : Range) :
    Series e (tokens cx identifiersOnly e r) :=
  .of_spans (made_tokens identifiersOnly r) (isSpan_tokens identifiersOnly r)
    (ScopeFinder.successive_candidates (f := .tokens identifiersOnly) trivial cx e r _ rfl)

lemma isSpan_characters (r : Range) : ∀ s ∈ characters e r, s.IsSpan := by
  intro s hs
  obtain ⟨line, _, hs⟩ := List.mem_flatMap.mp (List.mem_filter.mp hs).1
  obtain ⟨span, hspan, rfl⟩ := List.mem_map.mp hs
  exact ⟨rfl, rfl, Range.not_isEmpty_onLine (Unicode.lt_of_mem_clusterSpans hspan)⟩

lemma series_characters (r : Range) : Series e (characters e r) :=
  .of_spans (made_characters r) (isSpan_characters r)
    (ScopeFinder.successive_candidates (f := .characters) trivial {} e r _ rfl)

lemma isSpan_words (r : Range) : ∀ s ∈ words cx e r, s.IsSpan := by
  intro s hs
  obtain ⟨token, _, hs⟩ := List.mem_flatMap.mp (List.mem_filter.mp hs).1
  obtain ⟨w, hw, hdomain⟩ := domain_word hs
  obtain ⟨i, _, rfl⟩ := List.mem_map.mp hs
  refine ⟨rfl, rfl, ?_⟩
  rw [hdomain]
  exact Range.not_isEmpty_onLine (Nat.add_lt_add_left (lt_of_mem_wordSpans hw) _)

lemma series_words (r : Range) : Series e (words cx e r) :=
  .of_spans (made_words r) (isSpan_words r)
    (ScopeFinder.successive_candidates (f := .words) trivial cx e r _ rfl)

lemma isSpan_regexMatches (scopeType : ScopeType) (regex : Regex) (r : Range) :
    ∀ s ∈ regexMatches scopeType regex e r, s.IsSpan := by
  intro s hs
  obtain ⟨line, _, hs⟩ := List.mem_flatMap.mp (List.mem_filter.mp hs).1
  obtain ⟨span, hspan, rfl⟩ := List.mem_map.mp hs
  refine ⟨?_, rfl, ?_⟩
  · show (Target.scope e scopeType _ false).isReversed = false
    rw [Target.scope]
    split
    · rfl
    · rfl
  · show ¬(Target.scope e scopeType _ false).content.isEmpty = true
    rw [Target.content_scope]
    exact Range.not_isEmpty_onLine (regex.spansFrom_bounds 0 0 none _ span hspan).1

lemma series_regexMatches (scopeType : ScopeType) (regex : Regex) (r : Range) :
    Series e (regexMatches scopeType regex e r) :=
  .of_spans (made_regexMatches scopeType regex r) (isSpan_regexMatches scopeType regex r)
    (ScopeFinder.successive_candidates (f := .regex scopeType regex) trivial {} e r _ rfl)

lemma content_lineScope {line : Nat} (hline : line < e.document.lineCount) :
    (lineScope e line).target.content = (lineScope e line).domain := by
  show e.document.fullLines (lineScope e line).domain.start.line
    (lineScope e line).domain.stop.line = (lineScope e line).domain
  rw [domain_lineScope hline, Range.start_onLine (Nat.zero_le _), Range.stop_onLine (Nat.zero_le _)]
  rfl

lemma series_lines (r : Range) : Series e (lines e r) where
  fits s hs := by
    have hmade : s.target.Made True e := made_lines r s hs
    obtain ⟨line, hline, rfl⟩ := List.mem_map.mp hs
    have hcontent := content_lineScope (Document.mem_linesOf hline)
    refine ⟨hcontent ▸ holds_of_made hmade, hmade, rfl, ?_, fun hempty => hcontent ▸ hempty⟩
    show (lineScope e line).domain.containsRange (lineScope e line).target.content = true
    rw [hcontent]
    exact Range.containsRange_refl _
  precedes := by
    rw [lines]
    refine List.pairwise_map.mpr (List.Pairwise.imp_of_mem (fun {a b} ha hb hlt => ?_)
      List.pairwise_lt_range')
    apply Range.precedes_of_lines
    have hdomain {line : Nat} (h : line ∈ e.document.linesOf r) :
        (e.document.lineAt line).range = .onLine line 0 (e.document.lineLength line) :=
      domain_lineScope (Document.mem_linesOf h)
    rw [hdomain ha, hdomain hb, Range.stop_onLine (Nat.zero_le _), Range.start_onLine (Nat.zero_le _)]
    exact hlt

lemma isBlank_of_mem_textRuns {isBlank : Nat → Bool} {opened : Option Nat} {line count : Nat}
    (hopened : ∀ first ∈ opened, isBlank first = false) :
    ∀ run ∈ textRuns opened line ((List.range' line count).map isBlank), isBlank run.1 = false := by
  induction count generalizing opened line with
  | zero =>
    cases opened with
    | none => simp [textRuns]
    | some first => simpa [textRuns] using hopened first rfl
  | succ count ih =>
    rw [List.range'_succ, List.map_cons]
    cases opened with
    | none =>
      cases hblank : isBlank line with
      | true => exact ih hopened
      | false => exact ih fun first hfirst => Option.some.inj hfirst ▸ hblank
    | some first =>
      cases hblank : isBlank line with
      | true => exact List.forall_mem_cons.mpr ⟨hopened first rfl, ih fun _ h => nomatch h⟩
      | false => exact ih hopened

lemma lt_of_mem_textRuns {opened : Option Nat} {line : Nat} {blank : List Bool}
    (hopened : ∀ first ∈ opened, first < line) :
    ∀ run ∈ textRuns opened line blank, run.2 < line + blank.length := by
  induction blank generalizing opened line with
  | nil =>
    cases opened with
    | none => simp [textRuns]
    | some first => simpa [textRuns] using Nat.sub_one_lt_of_lt (hopened first rfl)
  | cons isBlank rest ih =>
    have hlater {opened : Option Nat} (h : ∀ first ∈ opened, first < line + 1) :
        ∀ run ∈ textRuns opened (line + 1) rest, run.2 < line + (isBlank :: rest).length := by
      intro run hrun
      have hlt := ih h run hrun
      rw [List.length_cons]
      omega
    cases opened with
    | none =>
      cases isBlank with
      | true => exact hlater (by simp)
      | false => exact hlater (by simp)
    | some first =>
      have hfirst := hopened first rfl
      cases isBlank with
      | true =>
        refine List.forall_mem_cons.mpr ⟨?_, hlater (by simp)⟩
        rw [List.length_cons]
        dsimp only
        omega
      | false => exact hlater fun _ h => Option.some.inj h ▸ Nat.lt_succ_of_lt hfirst

structure IsTextRun (d : Document) (run : Nat × Nat) : Prop where
  le : run.1 ≤ run.2
  lt : run.2 < d.lineCount
  isBlank : (d.lineAt run.1).isBlank = false

lemma isTextRun_of_mem {d : Document} : ∀ run ∈ textRunsOf d, IsTextRun d run := by
  intro run hrun
  have hbounds := (textRuns_bounds none 0 _ (by simp)).1 run hrun
  have hlt := lt_of_mem_textRuns (by simp) run hrun
  rw [List.length_map, List.length_range, Nat.zero_add] at hlt
  rw [textRunsOf, List.range_eq_range'] at hrun
  exact ⟨hbounds.2, hlt, isBlank_of_mem_textRuns (by simp) run hrun⟩

lemma pairwise_textRunsOf (d : Document) : (textRunsOf d).Pairwise fun a b => a.2 < b.1 :=
  (textRuns_bounds none 0 _ (by simp)).2

section Paragraphs

variable {run : Nat × Nat}

lemma IsTextRun.domain (h : IsTextRun e.document run) :
    (paragraphOf e run.1 run.2).domain.start = ⟨run.1, 0⟩ ∧
      (paragraphOf e run.1 run.2).domain.stop = ⟨run.2, e.document.lineLength run.2⟩ := by
  have hle : (⟨run.1, 0⟩ : Position) ≤ ⟨run.2, e.document.lineLength run.2⟩ := by
    have hlines := h.le
    rw [Position.le_def]
    dsimp only
    omega
  exact ⟨Range.start_between hle, Range.stop_between hle⟩

lemma IsTextRun.ends (h : IsTextRun e.document run) :
    (paragraphOf e run.1 run.2).target.content.start = (e.document.lineAt run.1).trimmedRange.start ∧
      (paragraphOf e run.1 run.2).target.content.stop = (e.document.lineAt run.2).trimmedRange.stop := by
  have hle : (e.document.lineAt run.1).trimmedRange.start ≤ (e.document.lineAt run.2).trimmedRange.stop := by
    rcases Nat.eq_or_lt_of_le h.le with heq | hlt
    · rw [heq]
      exact Range.start_le_stop _
    · rw [Line.trimmedRange, Line.trimmedRange, Range.start_onLine (Nat.min_le_right _ _),
        Range.stop_onLine (Nat.min_le_right _ _), Document.number_lineAt (Nat.lt_trans hlt h.lt),
        Document.number_lineAt h.lt]
      exact .inl hlt
  exact ⟨Range.start_between hle, Range.stop_between hle⟩

lemma IsTextRun.content (h : IsTextRun e.document run) :
    ∃ a b, (paragraphOf e run.1 run.2).target.content.start = ⟨run.1, a⟩ ∧
      (paragraphOf e run.1 run.2).target.content.stop = ⟨run.2, b⟩ ∧
      b ≤ e.document.lineLength run.2 ∧ (run.1 = run.2 → a < b) := by
  let first := e.document.lineAt run.1
  let last := e.document.lineAt run.2
  have hstart : first.trimmedRange.start = ⟨run.1, min first.indent first.trimmedLength⟩ := by
    rw [Line.trimmedRange, Range.start_onLine (Nat.min_le_right _ _),
      Document.number_lineAt (Nat.lt_of_le_of_lt h.le h.lt)]
  have hstop : last.trimmedRange.stop = ⟨run.2, last.trimmedLength⟩ := by
    rw [Line.trimmedRange, Range.stop_onLine (Nat.min_le_right _ _), Document.number_lineAt h.lt]
  have htext : run.1 = run.2 → min first.indent first.trimmedLength < last.trimmedLength := by
    intro heq
    have hlast : last = first := congrArg e.document.lineAt heq.symm
    rw [hlast]
    exact Nat.lt_of_le_of_lt (Nat.min_le_left _ _) (Line.indent_lt_trimmedLength h.isBlank)
  exact ⟨_, _, h.ends.1.trans hstart, h.ends.2.trans hstop, Document.trimmedLength_le_length last, htext⟩

lemma IsTextRun.not_isEmpty (h : IsTextRun e.document run) :
    ¬(paragraphOf e run.1 run.2).domain.isEmpty = true := by
  obtain ⟨a, b, _, _, hb, htext⟩ := h.content
  rw [Range.isEmpty_iff, h.domain.1, h.domain.2, Position.ext_iff']
  dsimp only
  omega

lemma series_paragraphs (r : Range) : Series e (paragraphs e r) where
  fits s hs := by
    have hmade : s.target.Made True e := made_paragraphs r s hs
    obtain ⟨run, hrun, rfl⟩ := List.mem_map.mp (List.mem_filter.mp hs).1
    have hrun := isTextRun_of_mem run hrun
    obtain ⟨a, b, hstart, hstop, hb, htext⟩ := hrun.content
    have hle := hrun.le
    have hholds := Document.holds_fullLines (Nat.lt_of_le_of_lt hrun.le hrun.lt) hrun.lt
    refine ⟨hholds, hmade, rfl, ?_, fun hempty => absurd hempty ?_⟩
    · rw [Range.containsRange_iff, hrun.domain.1, hrun.domain.2, hstart, hstop]
      exact ⟨.inr ⟨rfl, Nat.zero_le _⟩, .inr ⟨rfl, hb⟩⟩
    · rw [Range.isEmpty_iff, hstart, hstop, Position.ext_iff']
      dsimp only
      omega
  precedes := by
    refine List.Pairwise.sublist (touching_sublist r _) (List.pairwise_map.mpr ?_)
    refine (pairwise_textRunsOf e.document).imp_of_mem fun {a b} ha hb hlt => Range.precedes_of_lines ?_
    rw [(isTextRun_of_mem a ha).domain.2, (isTextRun_of_mem b hb).domain.1]
    exact hlt

end Paragraphs

lemma series_wholeDocument : Series e (wholeDocument e) where
  fits s hs := by
    have hmade : s.target.Made True e := made_wholeDocument s hs
    obtain rfl := List.mem_singleton.mp hs
    exact ⟨e.document.holds_range, hmade, rfl, Range.containsRange_refl _, id⟩
  precedes := List.pairwise_singleton _ _

end Scope

namespace ScopeFinder

variable {f : ScopeFinder}

lemma IsFlat.itemless (hf : f.IsFlat) : f.Itemless := by
  cases f with
  | tokens b => exact .tokens b
  | characters => exact .characters
  | words => exact .words
  | lines => exact .lines
  | paragraphs => exact .paragraphs
  | wholeDocument => exact .wholeDocument
  | regex s expression => exact .regex s expression
  | pairs s search => exact hf.elim
  | items => exact hf.elim
  | nodes kind language matcher => exact hf.elim
  | oneOf scopeTypes finders => exact hf.elim

lemma IsFlat.isHierarchical (hf : f.IsFlat) : f.isHierarchical = false := by
  cases f with
  | pairs s search => exact hf.elim
  | nodes kind language matcher => exact hf.elim
  | oneOf scopeTypes finders => exact hf.elim
  | _ => rfl

/-- Whether a finder gives a series of scopes for a document, and for each part of the document those
that touch the part. -/
structure Enumerates (f : ScopeFinder) (cx : Context) (e : Editor) (all : List Scope) : Prop where
  series : Scope.Series e all
  isHierarchical : f.isHierarchical = false
  whole : f.candidates cx e e.document.range = .ok all
  part : ∀ r, e.document.Holds r → f.candidates cx e r = .ok (Scope.touching r all)

lemma IsFlat.exists_enumerates (hf : f.IsFlat) (cx : Context) (e : Editor) :
    ∃ all, f.Enumerates cx e all := by
  have hseries : ∃ all, Scope.Series e all ∧ f.candidates cx e e.document.range = .ok all := by
    cases f with
    | tokens b => exact ⟨_, Scope.series_tokens b _, rfl⟩
    | characters => exact ⟨_, Scope.series_characters _, rfl⟩
    | words => exact ⟨_, Scope.series_words _, rfl⟩
    | lines => exact ⟨_, Scope.series_lines _, rfl⟩
    | paragraphs => exact ⟨_, Scope.series_paragraphs _, rfl⟩
    | wholeDocument => exact ⟨_, Scope.series_wholeDocument, rfl⟩
    | regex s expression => exact ⟨_, Scope.series_regexMatches s expression _, rfl⟩
    | pairs s search => exact hf.elim
    | items => exact hf.elim
    | nodes kind language matcher => exact hf.elim
    | oneOf scopeTypes finders => exact hf.elim
  obtain ⟨all, hall, hwhole⟩ := hseries
  refine ⟨all, hall, hf.isHierarchical, hwhole, fun r hr => ?_⟩
  rw [touching_candidates hf.itemless hr, hwhole]
  rfl

lemma IsFlat.eq_of_isEmpty (hf : f.IsFlat) {cx : Context} {e : Editor} {r : Range} {all : List Scope}
    (hall : f.candidates cx e r = .ok all) {u : Scope} (hu : u ∈ all) (h : u.domain.isEmpty = true) :
    f = lines ∨ f = wholeDocument := by
  cases f with
  | lines => exact .inl rfl
  | wholeDocument => exact .inr rfl
  | pairs s search => exact hf.elim
  | items => exact hf.elim
  | nodes kind language matcher => exact hf.elim
  | oneOf scopeTypes finders => exact hf.elim
  | tokens b =>
    obtain rfl := Except.ok.inj hall
    exact absurd h (Scope.isSpan_tokens b r u hu).nonempty
  | characters =>
    obtain rfl := Except.ok.inj hall
    exact absurd h (Scope.isSpan_characters r u hu).nonempty
  | words =>
    obtain rfl := Except.ok.inj hall
    exact absurd h (Scope.isSpan_words r u hu).nonempty
  | regex s expression =>
    obtain rfl := Except.ok.inj hall
    exact absurd h (Scope.isSpan_regexMatches s expression r u hu).nonempty
  | paragraphs =>
    obtain rfl := Except.ok.inj hall
    obtain ⟨run, hrun, rfl⟩ := List.mem_map.mp (List.mem_filter.mp hu).1
    exact absurd h (Scope.isTextRun_of_mem run hrun).not_isEmpty

lemma enumerates_lines (cx : Context) (e : Editor) :
    lines.Enumerates cx e (Scope.lines e e.document.range) := by
  obtain ⟨all, h⟩ := IsFlat.exists_enumerates (f := lines) trivial cx e
  obtain rfl : all = Scope.lines e e.document.range := Except.ok.inj (h.whole.symm.trans rfl)
  exact h

lemma Enumerates.touches {cx : Context} {e : Editor} {all : List Scope} (h : f.Enumerates cx e all) :
    ∀ s ∈ all, s.domain.touches e.document.range = true := by
  have hpart := h.part e.document.range e.document.holds_range
  rw [h.whole] at hpart
  exact List.filter_eq_self.mp (Except.ok.inj hpart).symm

lemma scopesAt_of_touching {cx : Context} {e : Editor} {all : List Scope} {p : Position}
    (h : f.candidates cx e (.point p) = .ok (Scope.touching (.point p) all)) :
    f.scopesAt cx e p = .ok (all.filter fun s => s.domain.contains p) := by
  rw [scopesAt, h, Except.map, Scope.touching, List.filter_filter]
  congr 1
  refine List.filter_congr fun s _ => ?_
  rw [Range.touches_point, Bool.and_self]

lemma Enumerates.scopesAt_eq {cx : Context} {e : Editor} {all : List Scope} {p : Position}
    (h : f.Enumerates cx e all) (hp : e.document.Has p) :
    f.scopesAt cx e p = .ok (all.filter fun s => s.domain.contains p) :=
  scopesAt_of_touching (h.part _ (Document.holds_point hp))

end ScopeFinder

end Referent
