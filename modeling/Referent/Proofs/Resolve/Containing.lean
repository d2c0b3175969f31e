import Referent.Proofs.Resolve.Ordinals
import Referent.Proofs.Resolve.Steps

namespace Referent

namespace Scope

/-- Whether a target is one of the scopes that contains a range or, if there is none, goes from a scope at
the start of the range to one at its end. -/
inductive Covering (all : List Scope) (r : Range) (isReversed : Bool) : Target → Prop where
  | single {s : Scope} (hs : s ∈ all) (hcontains : s.domain.containsRange r = true) :
    Covering all r isReversed (s.oriented isReversed)
  | joined {first last : Scope} (hfirst : first ∈ all) (hlast : last ∈ all)
    (hstart : first.domain.contains r.start = true) (hstop : last.domain.contains r.stop = true)
    (hapart : ∀ s ∈ all, ¬s.domain.containsRange r = true) {t : Target}
    (ht : t = first.target.continuous last.target true true isReversed)
    (hcontent : t.content.start = first.domain.start ∧ t.content.stop = last.domain.stop) :
    Covering all r isReversed t

lemma Covering.containsRange {all : List Scope} {r : Range} {isReversed : Bool} {t : Target}
    (h : Covering all r isReversed t) (hall : ∀ s ∈ all, s.target.content = s.domain) :
    t.content.containsRange r = true := by
  cases h with
  | single hs hcontains =>
    rw [← hall _ hs] at hcontains
    exact hcontains
  | joined hfirst hlast hstart hstop hapart ht hcontent =>
    rw [Range.contains_iff] at hstart hstop
    rw [Range.containsRange_iff, hcontent.1, hcontent.2]
    exact ⟨hstart.1, hstop.2⟩

end Scope

namespace ScopeFinder

variable {cx : Context} {e : Editor} {f : ScopeFinder} {all l : List Scope} {r : Range} {p : Position}
  {s first last : Scope}

lemma preferred_cases (f : ScopeFinder) (cx : Context) (direction : Direction) (l : List Scope) :
    (l = [] ∧ f.preferred cx direction l = none) ∨ ∃ s ∈ l, f.preferred cx direction l = some s := by
  cases l with
  | nil => exact .inl ⟨rfl, rfl⟩
  | cons s rest => exact .inr ⟨_, mem_of_preferred rfl, rfl⟩

lemma IsFlat.containing_eq (hf : f.IsFlat) (cx : Context) (e : Editor) (r : Range) (b : Bool) :
    f.containing cx e r b = f.containingByDomain cx e r b := by
  cases f with
  | pairs s search => exact hf.elim
  | items => exact hf.elim
  | oneOf scopeTypes finders => exact hf.elim
  | _ => rfl

lemma containingByDomain_eq
    (hstart : f.scopesAt cx e r.start = .ok (all.filter fun s => s.domain.contains r.start)) (b : Bool) :
    f.containingByDomain cx e r b =
      match f.preferred cx .forward (all.filter fun s => s.domain.containsRange r) with
      | some s => .ok (some (s.oriented b))
      | none => f.spanning cx e r b (all.filter fun s => s.domain.contains r.start) := by
  have haround : (all.filter fun s => s.domain.contains r.start).filter
      (fun s => s.domain.containsRange r) = all.filter fun s => s.domain.containsRange r := by
    rw [List.filter_filter]
    refine List.filter_congr fun s _ => ?_
    cases hs : s.domain.containsRange r with
    | false => rfl
    | true => simp [(Range.contains_of_containsRange hs).1]
  rw [containingByDomain, hstart]
  show (if r.isEmpty = true then _ else _) = _
  rw [haround]
  by_cases hempty : r.isEmpty = true
  · have hsame : (all.filter fun s => s.domain.containsRange r) =
        all.filter fun s => s.domain.contains r.start :=
      List.filter_congr fun s _ => Range.containsRange_of_isEmpty hempty s.domain
    rw [if_pos hempty, hsame]
    rcases f.preferred_cases cx .forward (all.filter fun s => s.domain.contains r.start) with
      ⟨_, hpreferred⟩ | ⟨s, _, hpreferred⟩
    · rw [hpreferred, spanning, hpreferred]
      rfl
    · rw [hpreferred]
      rfl
  · rw [if_neg hempty]
    rfl

lemma IsFlat.content_eq_domain (hf : f.IsFlat) (hparagraphs : f ≠ paragraphs)
    (hall : f.candidates cx e r = .ok all) (hs : s ∈ all) : s.target.content = s.domain := by
  cases f with
  | tokens b =>
    obtain rfl := Except.ok.inj hall
    exact (Scope.isSpan_tokens b r s hs).domain_eq.symm
  | characters =>
    obtain rfl := Except.ok.inj hall
    exact (Scope.isSpan_characters r s hs).domain_eq.symm
  | words =>
    obtain rfl := Except.ok.inj hall
    exact (Scope.isSpan_words r s hs).domain_eq.symm
  | lines =>
    obtain rfl := Except.ok.inj hall
    obtain ⟨line, hline, rfl⟩ := List.mem_map.mp hs
    exact Scope.content_lineScope (Document.mem_linesOf hline)
  | paragraphs => exact absurd rfl hparagraphs
  | wholeDocument =>
    obtain rfl := Except.ok.inj hall
    obtain rfl := List.mem_singleton.mp hs
    rfl
  | regex scopeType expression =>
    obtain rfl := Except.ok.inj hall
    exact (Scope.isSpan_regexMatches scopeType expression r s hs).domain_eq.symm
  | pairs scopeType search => exact hf.elim
  | items => exact hf.elim
  | nodes kind language matcher => exact hf.elim
  | oneOf scopeTypes finders => exact hf.elim

lemma IsFlat.kind_ne_paragraph (hf : f.IsFlat) (hparagraphs : f ≠ paragraphs)
    (hall : f.candidates cx e r = .ok all) (hs : s ∈ all) : s.target.kind ≠ .paragraph := by
  cases f with
  | paragraphs => exact absurd rfl hparagraphs
  | oneOf scopeTypes finders => exact hf.elim
  | _ => simp [kind_candidates rfl hall hs]

lemma Enumerates.content_joined (h : f.Enumerates cx e all) (hf : f.IsFlat)
    (hparagraphs : f ≠ paragraphs) (hfirst : first ∈ all) (hlast : last ∈ all)
    (hstart : first.domain.contains r.start = true) (hstop : last.domain.contains r.stop = true)
    (hapart : ∀ s ∈ all, ¬s.domain.containsRange r = true) (b : Bool) :
    (first.target.continuous last.target true true b).content.start = first.domain.start ∧
      (first.target.continuous last.target true true b).content.stop = last.domain.stop := by
  rw [Range.contains_iff] at hstart hstop
  have hout {s : Scope} (hs : s ∈ all) : ¬(s.domain.start ≤ r.start ∧ r.stop ≤ s.domain.stop) :=
    fun h => hapart s hs ((Range.containsRange_iff _ _).mpr h)
  have hpairs := h.series.precedes.and (aligned_candidates h.whole)
  have haligned : first.Aligned e.document last := by
    rcases eq_or_rel_of_pairwise hpairs hfirst hlast with rfl | hpair | hpair
    · exact absurd ⟨hstart.1, hstop.2⟩ (hout hfirst)
    · exact hpair.2
    · refine absurd ⟨?_, hstop.2⟩ (hout hlast)
      exact Position.le_trans (Position.le_of_lt hpair.1.start_lt) hstart.1
  have hne : ¬(first == last) = true := by
    intro heq
    rw [← (Target.eq_of_scope_beq heq).1] at hstop
    exact hout hfirst ⟨hstart.1, hstop.2⟩
  have hjoined : (first.target.continuous last.target true true b).content =
      .between first.domain.start last.domain.stop := by
    have hcontent := Target.content_ofScopes haligned b
    rw [Target.ofScopes, if_neg hne, (h.series.fits _ hfirst).oriented_false,
      (h.series.fits _ hlast).oriented_false] at hcontent
    rw [hcontent, Target.reach, if_neg fun hkinds =>
      hf.kind_ne_paragraph hparagraphs h.whole hfirst hkinds.1,
      hf.content_eq_domain hparagraphs h.whole hfirst, hf.content_eq_domain hparagraphs h.whole hlast]
  have hle : first.domain.start ≤ last.domain.stop :=
    Position.le_trans hstart.1 (Position.le_trans r.start_le_stop hstop.2)
  rw [hjoined, Range.start_between hle, Range.stop_between hle]
  exact ⟨rfl, rfl⟩

lemma Enumerates.exists_covering (h : f.Enumerates cx e all) (hf : f.IsFlat)
    (hparagraphs : f ≠ paragraphs) (hr : e.document.Holds r) (b : Bool) :
    ∃ found, f.containing cx e r b = .ok found ∧
      (found.isSome = true ↔ (∃ s ∈ all, s.domain.contains r.start = true) ∧
        ∃ s ∈ all, s.domain.contains r.stop = true) ∧
      ∀ t ∈ found, Scope.Covering all r b t := by
  rw [hf.containing_eq, containingByDomain_eq (h.scopesAt_eq hr.1)]
  rcases f.preferred_cases cx .forward (all.filter fun s => s.domain.containsRange r) with
    ⟨hapart, hpreferred⟩ | ⟨s, hs, hpreferred⟩
  · rw [List.filter_eq_nil_iff] at hapart
    rw [hpreferred, spanning]
    rcases f.preferred_cases cx .forward (all.filter fun s => s.domain.contains r.start) with
      ⟨hnone, hpreferred⟩ | ⟨first, hfirst, hpreferred⟩
    · rw [List.filter_eq_nil_iff] at hnone
      rw [hpreferred]
      refine ⟨none, rfl, ?_, by simp⟩
      simp only [Option.isSome_none, Bool.false_eq_true, false_iff, not_and]
      rintro ⟨s, hs, hstart⟩
      exact absurd hstart (hnone s hs)
    · obtain ⟨hfirst, hstart⟩ := List.mem_filter.mp hfirst
      rw [hpreferred, h.scopesAt_eq hr.2]
      rcases f.preferred_cases cx .backward (all.filter fun s => s.domain.contains r.stop) with
        ⟨hnone, hpreferred⟩ | ⟨last, hlast, hpreferred⟩
      · rw [List.filter_eq_nil_iff] at hnone
        refine ⟨none, by simp [Except.map, hpreferred], ?_, by simp⟩
        simp only [Option.isSome_none, Bool.false_eq_true, false_iff, not_and]
        rintro _ ⟨s, hs, hstop⟩
        exact absurd hstop (hnone s hs)
      · obtain ⟨hlast, hstop⟩ := List.mem_filter.mp hlast
        refine ⟨some (first.target.continuous last.target true true b), by simp [Except.map, hpreferred],
          iff_of_true rfl ⟨⟨first, hfirst, hstart⟩, last, hlast, hstop⟩, ?_⟩
        rintro _ ⟨⟩
        exact .joined hfirst hlast hstart hstop hapart rfl
          (h.content_joined hf hparagraphs hfirst hlast hstart hstop hapart b)
  · obtain ⟨hs, hcontains⟩ := List.mem_filter.mp hs
    obtain ⟨hstart, hstop⟩ := Range.contains_of_containsRange hcontains
    rw [hpreferred]
    refine ⟨some (s.oriented b), rfl, iff_of_true rfl ⟨⟨s, hs, hstart⟩, s, hs, hstop⟩, ?_⟩
    rintro _ ⟨⟩
    exact .single hs hcontains

end ScopeFinder

/-- A range has a containing scope if and only if a scope touches its start and a scope touches its end.
It is contained in what is found: a scope around it or, if there is none, what lies between a scope at its
start and one at its end. -/
theorem ScopeType.containing_covering {cx : Context} {e : Editor} {r : Range} {language : String}
    {s : ScopeType} {f : ScopeFinder} (hs : s.IsFlat) (hparagraph : s ≠ .textual .paragraph)
    (hf : ScopeFinder.ofScopeType language s = .ok f) (hr : e.document.Holds r) (isReversed : Bool) :
    ∃ all found, f.candidates cx e e.document.range = .ok all ∧
      f.containing cx e r isReversed = .ok found ∧
      (found.isSome = true ↔ (∃ s ∈ all, s.domain.contains r.start = true) ∧
        ∃ s ∈ all, s.domain.contains r.stop = true) ∧
      ∀ t ∈ found, t.content.containsRange r = true ∧ Scope.Covering all r isReversed t := by
  have hflat := ScopeFinder.isFlat_ofScopeType hs language f hf
  have hparagraphs : f ≠ .paragraphs := by
    rintro rfl
    exact hparagraph (ScopeFinder.scopeType_ofScopeType hs language _ hf).symm
  obtain ⟨all, h⟩ := hflat.exists_enumerates cx e
  obtain ⟨found, hfound, htouched, hcovering⟩ := h.exists_covering hflat hparagraphs hr isReversed
  refine ⟨all, found, h.whole, hfound, htouched, fun t ht => ⟨?_, hcovering t ht⟩⟩
  exact (hcovering t ht).containsRange fun s hs => hflat.content_eq_domain hparagraphs h.whole hs

theorem ScopeType.containing_covering_twoCharacters :
    let e : Editor := .ofDocument 1 (.ofText 1 "plaintext" "ab".toList)
    let r : Range := .onLine 0 0 2
    let all := Scope.characters e e.document.range
    e.document.Holds r ∧ all.map Scope.domain = [.onLine 0 0 1, .onLine 0 1 2] ∧
      ∃ t, ScopeFinder.characters.containing {} e r true = .ok (some t) ∧ t.content = r ∧
        t.content.containsRange r = true ∧ Scope.Covering all r true t := by
  intro e r all
  have hr : e.document.Holds r := by decide
  have hs : ScopeType.character.IsFlat := show TextScope.character ≠ .collectionItem by decide
  let scope (start stop : Nat) : Scope := .ofTarget (.plain e (.onLine 0 start stop) false)
  let t := (scope 0 1).target.continuous (scope 1 2).target true true true
  obtain ⟨all', found, hall, hfound, -, hcovering⟩ :=
    @ScopeType.containing_covering {} e r "plaintext" .character .characters hs (by decide) rfl hr true
  obtain rfl : all = all' := Except.ok.inj hall
  obtain rfl : some t = found := Except.ok.inj (Eq.trans rfl hfound)
  exact ⟨hr, by decide, t, rfl, rfl, hcovering t rfl⟩

section Lines

variable {cx : Context} {e : Editor} {t : Target} {r : Range} {p : Position} {isReversed : Bool}

lemma Target.line_fullLines (e : Editor) (r : Range) (isReversed : Bool) :
    line e (e.document.fullLines r.start.line r.stop.line) isReversed = line e r isReversed := by
  let full := e.document.fullLines r.start.line r.stop.line
  have hsame : e.document.fullLines full.start.line full.stop.line = full := by
    rw [Document.start_fullLines _ r.start_line_le, Document.stop_fullLines _ r.start_line_le]
  rw [line, line, hsame]

namespace Scope

lemma line_of_contains {line : Nat} (hline : line < e.document.lineCount)
    (h : (lineScope e line).domain.contains p = true) : p.line = line := by
  rw [domain_lineScope hline, Range.contains_iff, Range.start_onLine (Nat.zero_le _),
    Range.stop_onLine (Nat.zero_le _), Position.le_def, Position.le_def] at h
  dsimp only at h
  omega

lemma exists_line_contains (h : e.document.Has p) :
    ∃ s ∈ lines e e.document.range, s.domain.contains p = true := by
  have hmem := Document.mem_linesOf_range.mpr ((e.document.le_lastLine_iff _).mpr h.1)
  refine ⟨lineScope e p.line, List.mem_map.mpr ⟨p.line, hmem, rfl⟩, ?_⟩
  rw [domain_lineScope h.1, Range.contains_iff, Range.start_onLine (Nat.zero_le _),
    Range.stop_onLine (Nat.zero_le _)]
  exact ⟨.inr ⟨rfl, Nat.zero_le _⟩, .inr ⟨rfl, h.2⟩⟩

lemma exists_of_mem_lines {s : Scope} (hs : s ∈ lines e r) :
    ∃ line < e.document.lineCount, s = lineScope e line := by
  obtain ⟨line, hline, rfl⟩ := List.mem_map.mp hs
  exact ⟨line, Document.mem_linesOf hline, rfl⟩

lemma continuous_lineScope {i j : Nat} (hi : i < e.document.lineCount) (hj : j < e.document.lineCount)
    (isReversed : Bool) : (lineScope e i).target.continuous (lineScope e j).target true true isReversed =
      .line e (e.document.fullLines i j) isReversed := by
  rw [Target.continuous, if_pos ⟨rfl, rfl⟩]
  show Target.line e (.between (lineScope e i).target.content.start
    (lineScope e j).target.content.stop) isReversed = _
  rw [content_lineScope hi, content_lineScope hj, domain_lineScope hi, domain_lineScope hj,
    Range.start_onLine (Nat.zero_le _), Range.stop_onLine (Nat.zero_le _)]
  rfl

lemma Covering.eq_line (h : Covering (lines e e.document.range) r isReversed t) :
    t = .line e r isReversed := by
  rw [← Target.line_fullLines]
  cases h with
  | single hs hcontains =>
    obtain ⟨line, hline, rfl⟩ := exists_of_mem_lines hs
    obtain ⟨hstart, hstop⟩ := Range.contains_of_containsRange hcontains
    have hdomain : (lineScope e line).domain = e.document.fullLines r.start.line r.stop.line := by
      rw [line_of_contains hline hstart, line_of_contains hline hstop]
      exact domain_lineScope hline
    rw [← hdomain]
    rfl
  | joined hfirst hlast hstart hstop hapart ht hcontent =>
    obtain ⟨i, hi, rfl⟩ := exists_of_mem_lines hfirst
    obtain ⟨j, hj, rfl⟩ := exists_of_mem_lines hlast
    obtain rfl := line_of_contains hi hstart
    obtain rfl := line_of_contains hj hstop
    exact ht.trans (continuous_lineScope hi hj isReversed)

end Scope

/-- The line scope of a target has the lines of its content in full, and is its own line scope. -/
theorem Target.containingScope_line (ht : t.document.Holds t.content) :
    ∃ u, t.containingScope cx .line = .ok [u] ∧ u = .line t.editor t.content t.isReversed ∧
      u.content.start = ⟨t.content.start.line, 0⟩ ∧
      u.content.stop = ⟨t.content.stop.line, t.document.lineLength t.content.stop.line⟩ ∧
      u.isReversed = t.isReversed ∧ u.containingScope cx .line = .ok [u] := by
  have hline {u : Target} (hu : u.document.Holds u.content) :
      u.containingScope cx .line = .ok [.line u.editor u.content u.isReversed] := by
    have h := ScopeFinder.enumerates_lines cx u.editor
    obtain ⟨found, hfound, htouched, hcovering⟩ :=
      h.exists_covering (f := .lines) trivial (by simp) hu u.isReversed
    obtain ⟨v, rfl⟩ := Option.isSome_iff_exists.mp
      (htouched.mpr ⟨Scope.exists_line_contains hu.1, Scope.exists_line_contains hu.2⟩)
    rw [← (hcovering v rfl).eq_line]
    show (ScopeFinder.lines.containing cx u.editor u.content u.isReversed >>= _) = _
    rw [hfound]
    rfl
  have hle := t.content.start_line_le
  refine ⟨_, hline ht, rfl, t.document.start_fullLines hle, t.document.stop_fullLines hle, rfl, ?_⟩
  refine (hline (Document.holds_fullLines ht.1.1 ht.2.1)).trans ?_
  exact congrArg (fun u => Except.ok [u]) (Target.line_fullLines t.editor t.content t.isReversed)

theorem Target.containingScope_line_blankLine :
    let e : Editor := .ofDocument 1 (.ofText 1 "plaintext" "ab\n\ncd".toList)
    let t : Target := .plain e (.between ⟨0, 1⟩ ⟨1, 0⟩) true
    let u : Target := .line e (.between ⟨0, 0⟩ ⟨1, 0⟩) true
    t.document.Holds t.content ∧ t.containingScope {} .line = .ok [u] ∧
      u.content = .between ⟨0, 0⟩ ⟨1, 0⟩ ∧ u.containingScope {} .line = .ok [u] := by
  intro e t u
  have ht : t.document.Holds t.content := by decide
  obtain ⟨v, hv, rfl, -, -, -, hagain⟩ := @Target.containingScope_line {} t ht
  exact ⟨ht, hv, by decide, hagain⟩

end Lines

end Referent
