import Referent.Proofs.Target.Spans

/-! What is left of the range between two targets if some of them are excluded: nothing of those, as long as
the places where the two ends are cut off come in the right order. -/

namespace Referent

namespace Target

/-- Targets as they are made. An element of a sequence is neither a line nor the whole document. -/
inductive Built : Target → Prop
  | untyped (e : Editor) (r : Range) (b explicit : Bool) : Built (untyped e r b explicit)
  | plain (e : Editor) (r : Range) (b : Bool) : Built (plain e r b)
  | raw (e : Editor) (r : Range) (b : Bool) : Built (raw e r b)
  | token (e : Editor) (r : Range) (b : Bool) : Built (token e r b)
  | line (e : Editor) (r : Range) (b : Bool) : Built (line e r b)
  | paragraph (e : Editor) (r : Range) (b : Bool) : Built (paragraph e r b)
  | wholeDocument (e : Editor) : Built (wholeDocument e)
  | scope (e : Editor) (s : ScopeType) (r : Range) (b : Bool) : Built (scope e s r b)
  | surroundingPair (e : Editor) (r interior : Range) (boundary : Range × Range) (b : Bool) :
    Built (surroundingPair e r interior boundary b)
  | interiorOf (e : Editor) (r : Range) (b : Bool) : Built (interiorOf e r b)
  | delimited (e : Editor) {kind : TargetKind} (hline : kind ≠ .line) (hall : kind ≠ .document)
    (r : Range) (leading trailing : Option Range) (delimiter : String) (b : Bool) :
    Built (delimited e kind r leading trailing delimiter b)
  | insertionPoint (t : Target) (side : InsertionSide) : Built (insertionPoint t side)
  | withFlags {t : Target} (h : Built t) (flags : TargetFlags) : Built (t.withFlags flags)
  | withReversed {t : Target} (h : Built t) (b : Bool) : Built (t.withReversed b)
  | withRemoval {t : Target} (h : Built t) (r : Range) : Built (t.withRemoval r)
  | withThat {t : Target} (h : Built t) (id : Nat) : Built (t.withThat id)

structure FitsKind (t : Target) : Prop where
  flag : t.kind = .line → t.flags.line = true
  lines : t.kind = .line → t.content.start.character = 0 ∧
    t.content.stop.character = t.document.lineLength t.content.stop.line
  all : t.kind = .document → t.content = t.document.range

lemma fitsKind_of_ne {t : Target} (hline : t.kind ≠ .line) (hall : t.kind ≠ .document) :
    t.FitsKind := ⟨(absurd · hline), (absurd · hline), (absurd · hall)⟩

lemma Built.fitsKind {t : Target} (h : t.Built) : t.FitsKind := by
  induction h with
  | line e r b =>
    refine ⟨fun _ => rfl, fun _ => ?_, TargetKind.noConfusion⟩
    have hstart := e.document.start_fullLines r.start_line_le
    have hstop := e.document.stop_fullLines r.start_line_le
    show (e.document.fullLines _ _).start.character = 0 ∧ (e.document.fullLines _ _).stop.character =
      e.document.lineLength (e.document.fullLines _ _).stop.line
    rw [hstart, hstop]
    exact ⟨rfl, rfl⟩
  | wholeDocument e => exact ⟨TargetKind.noConfusion, TargetKind.noConfusion, fun _ => rfl⟩
  | scope e s r b =>
    rw [Target.scope]
    split
    · exact fitsKind_of_ne TargetKind.noConfusion TargetKind.noConfusion
    · exact fitsKind_of_ne TargetKind.noConfusion TargetKind.noConfusion
  | delimited e hline hall => exact fitsKind_of_ne hline hall
  | @withFlags t _ flags ih =>
    refine ⟨fun hk => ?_, ih.lines, ih.all⟩
    show (t.flags.line || flags.line) = true
    rw [ih.flag hk, Bool.true_or]
  | withReversed _ _ ih => exact ⟨ih.flag, ih.lines, ih.all⟩
  | withRemoval _ _ ih => exact ⟨ih.flag, ih.lines, ih.all⟩
  | withThat _ _ ih => exact ⟨ih.flag, ih.lines, ih.all⟩
  | _ => exact fitsKind_of_ne TargetKind.noConfusion TargetKind.noConfusion

variable {s t : Target}

lemma start_le_rangeStart (s : Target) (keeps : Bool) : s.content.start ≤ s.rangeStart keeps := by
  have hle := s.content.start_le_stop
  rw [rangeStart]
  split
  · exact Position.le_refl _
  · split
    · exact Position.le_trans hle (.inl (Nat.lt_succ_self _))
    · exact hle

lemma stop_le_rangeStart (s : Target) : s.content.stop ≤ s.rangeStart false := by
  rw [rangeStart, if_neg Bool.false_ne_true]
  split
  · exact .inl (Nat.lt_succ_self _)
  · exact Position.le_refl _

lemma rangeStop_le_start (d : Document) (t : Target) : t.rangeStop d false ≤ t.content.start := by
  rw [rangeStop, if_neg Bool.false_ne_true]
  split
  · next hline =>
    rw [Bool.and_eq_true, decide_eq_true_eq] at hline
    exact .inl (Nat.sub_one_lt_of_lt hline.2)
  · exact Position.le_refl _

lemma rangeStop_le_stop (d : Document) (t : Target) (keeps : Bool) :
    t.rangeStop d keeps ≤ t.content.stop := by
  cases keeps with
  | true => exact Position.le_refl _
  | false => exact Position.le_trans (rangeStop_le_start d t) t.content.start_le_stop

def CutInOrder (s t : Target) (keepsStart keepsStop : Bool) : Prop :=
  let range := s.continuousRange t keepsStart keepsStop
  s.rangeStart keepsStart ≤ t.rangeStop s.document keepsStop ∨
    s.content.stop ≤ t.rangeStop s.document keepsStop ∧ s.rangeStart keepsStart ≤ t.content.start ∧
      (s.extent t (keepsStart && keepsStop)).widen s.document range = range

structure Spans (s t : Target) (keepsStart keepsStop : Bool) (r : Range) : Prop where
  start_le : s.content.start ≤ r.start
  stop_le : r.stop ≤ t.content.stop
  behind : keepsStart = false → s.content.stop ≤ r.start
  before : keepsStop = false → r.stop ≤ t.content.start

section Cut

variable {keepsStart keepsStop b : Bool}

lemma spans_of_le (h : s.rangeStart keepsStart ≤ t.rangeStop s.document keepsStop) :
    Spans s t keepsStart keepsStop (s.continuousRange t keepsStart keepsStop) := by
  rw [continuousRange, Range.between_of_le h]
  refine ⟨start_le_rangeStart s _, rangeStop_le_stop _ t _, ?_, ?_⟩
  · rintro rfl
    exact stop_le_rangeStart s
  · rintro rfl
    exact rangeStop_le_start _ t

lemma ends_of_crossed (h : ¬s.rangeStart keepsStart ≤ t.rangeStop s.document keepsStop) :
    (s.continuousRange t keepsStart keepsStop).start = t.rangeStop s.document keepsStop ∧
      (s.continuousRange t keepsStart keepsStop).stop = s.rangeStart keepsStart := by
  rw [continuousRange, Range.between, dif_neg h]
  exact ⟨rfl, rfl⟩

lemma spans_of_between (hstart : s.rangeStart keepsStart ≤ t.content.start)
    (hstop : s.content.stop ≤ t.rangeStop s.document keepsStop)
    (hcrossed : ¬s.rangeStart keepsStart ≤ t.rangeStop s.document keepsStop) :
    Spans s t keepsStart keepsStop (s.continuousRange t keepsStart keepsStop) := by
  have hends := ends_of_crossed hcrossed
  refine ⟨?_, ?_, fun _ => ?_, fun _ => ?_⟩
  · exact hends.1 ▸ Position.le_trans s.content.start_le_stop hstop
  · exact hends.2 ▸ Position.le_trans hstart t.content.start_le_stop
  · exact hends.1 ▸ hstop
  · exact hends.2 ▸ hstart

lemma Spans.excludes {r : Range} (h : Spans s t keepsStart keepsStop r) :
    (keepsStart = false → r.overlaps s.content = false) ∧
      (keepsStop = false → r.overlaps t.content = false) ∧
      (s.content.union t.content).containsRange r = true := by
  refine ⟨fun hs => ?_, fun ht => ?_, (Range.containsRange_iff _ _).mpr ⟨?_, ?_⟩⟩
  · exact Range.not_overlaps_of_apart (.inr (h.behind hs))
  · exact Range.not_overlaps_of_apart (.inl (h.before ht))
  · exact Position.le_trans (Position.min_le_left _ _) h.start_le
  · exact Position.le_trans h.stop_le (Position.le_max_right _ _)

section Lines

variable (hs : s.FitsKind) (ht : t.FitsKind) (hkinds : s.kind = .line ∧ t.kind = .line)
  (hd : t.document = s.document) (hholds : s.document.Holds t.content)
  (hapart : s.content.stop ≤ t.content.start)

include hs ht hkinds hapart

include hholds in
lemma character_rangeStart : (s.rangeStart keepsStart).character = 0 := by
  obtain ⟨hstart, _⟩ := hs.lines hkinds.1
  obtain ⟨hstart', _⟩ := ht.lines hkinds.2
  have hline := hholds.1.1
  rw [Position.le_def] at hapart
  rw [rangeStart, hs.flag hkinds.1, Bool.true_and]
  split
  · exact hstart
  · split
    · rfl
    · next hlast =>
      rw [decide_eq_true_eq] at hlast
      have hcount : ¬s.content.stop.line + 1 < s.document.lineCount := hlast
      omega

include hd in
lemma character_rangeStop : (t.rangeStop s.document keepsStop).character =
    s.document.lineLength (t.rangeStop s.document keepsStop).line := by
  obtain ⟨_, hstop⟩ := hs.lines hkinds.1
  obtain ⟨hstart', hstop'⟩ := ht.lines hkinds.2
  rw [hd] at hstop'
  rw [rangeStop, ht.flag hkinds.2, Bool.true_and]
  split
  · exact hstop'
  · split
    · rfl
    · next hfirst =>
      rw [decide_eq_true_eq] at hfirst
      rw [Position.le_def, hstop] at hapart
      have hzero : s.content.stop.line = t.content.start.line := by omega
      rw [hzero] at hapart
      omega

include hd hholds

lemma fullLines_continuousRange
    (hle : s.rangeStart keepsStart ≤ t.rangeStop s.document keepsStop) :
    s.document.fullLines (s.continuousRange t keepsStart keepsStop).start.line
      (s.continuousRange t keepsStart keepsStop).stop.line =
        s.continuousRange t keepsStart keepsStop := by
  have hlines := (s.continuousRange t keepsStart keepsStop).start_line_le
  rw [Range.ext_iff', Document.start_fullLines _ hlines, Document.stop_fullLines _ hlines,
    continuousRange, Range.between_of_le hle, Position.ext_iff', Position.ext_iff']
  exact ⟨⟨rfl, (character_rangeStart hs ht hkinds hholds hapart).symm⟩, rfl,
    (character_rangeStop hs ht hkinds hd hapart).symm⟩

omit hd in
lemma containsRange_fullLines_crossed
    (hcrossed : ¬s.rangeStart keepsStart ≤ t.rangeStop s.document keepsStop) :
    (s.document.fullLines (s.continuousRange t keepsStart keepsStop).start.line
      (s.continuousRange t keepsStart keepsStop).stop.line).containsRange
        (s.continuousRange t keepsStart keepsStop) = true := by
  have hlines := (s.continuousRange t keepsStart keepsStop).start_line_le
  have hzero : (s.rangeStart keepsStart).character = 0 :=
    character_rangeStart hs ht hkinds hholds hapart
  rw [Range.containsRange_iff, Document.start_fullLines _ hlines, Document.stop_fullLines _ hlines,
    (ends_of_crossed hcrossed).2]
  exact ⟨.inr ⟨rfl, Nat.zero_le _⟩, .inr ⟨rfl, hzero ▸ Nat.zero_le _⟩⟩

end Lines

lemma extent_of_line (h : s.kind = .line ∧ t.kind = .line) (keepsBoth : Bool) :
    s.extent t keepsBoth = .lines := if_pos h

lemma extent_paragraphs (h : s.kind = .paragraph ∧ t.kind = .paragraph) :
    s.extent t true = .lines := by simp [extent, h]

lemma extent_documents (h : s.kind = .document ∧ t.kind = .document) : s.extent t true = .all := by
  simp [extent, h]

lemma extent_text {keepsBoth : Bool} (hline : ¬(s.kind = .line ∧ t.kind = .line))
    (hparagraph : ¬((s.kind = .paragraph ∧ t.kind = .paragraph) ∧ keepsBoth = true))
    (hall : ¬((s.kind = .document ∧ t.kind = .document) ∧ keepsBoth = true)) :
    s.extent t keepsBoth = .text := by
  rw [extent, if_neg hline]
  split
  · next h =>
    rw [← h.2] at hparagraph hall
    split
    · exact absurd ⟨⟨‹_›, ‹_›⟩, h.1⟩ hparagraph
    · exact absurd ⟨⟨‹_›, ‹_›⟩, h.1⟩ hall
    · rfl
  · rfl

lemma CutInOrder.excludes (hs : s.FitsKind) (ht : t.FitsKind) (hd : t.document = s.document)
    (hholds : s.document.Holds t.content) (hapart : s.content.stop ≤ t.content.start)
    (hcut : s.CutInOrder t keepsStart keepsStop) :
    let r := (s.continuous t keepsStart keepsStop b).content
    let span := s.content.union t.content
    (keepsStart = false → r.overlaps s.content = false) ∧
      (keepsStop = false → r.overlaps t.content = false) ∧
      if (s.kind = .paragraph ∧ t.kind = .paragraph) ∧ (keepsStart && keepsStop) = true then
        r = s.document.fullLines span.start.line span.stop.line
      else span.containsRange r = true := by
  intro r span
  have hr : r = (s.extent t (keepsStart && keepsStop)).widen s.document
    (s.continuousRange t keepsStart keepsStop) := content_continuous s t keepsStart keepsStop b
  obtain ⟨hstart, hstop⟩ := Range.ordered_of_stop_le hapart
  by_cases hle : s.rangeStart keepsStart ≤ t.rangeStop s.document keepsStop
  · have hspans := spans_of_le hle
    -- Lines are cut off line by line, so widening adds nothing to them; only paragraphs grow.
    by_cases hparagraph :
        (s.kind = .paragraph ∧ t.kind = .paragraph) ∧ (keepsStart && keepsStop) = true
    · obtain ⟨hkinds, hkeeps⟩ := hparagraph
      obtain ⟨rfl, rfl⟩ := (Bool.and_eq_true _ _).mp hkeeps
      refine ⟨Bool.noConfusion, Bool.noConfusion, ?_⟩
      have hspan : span = ⟨s.content.start, t.content.stop, Position.le_trans hstart
          t.content.start_le_stop⟩ :=
        Range.ext_iff'.mpr ⟨Position.min_eq_left hstart, Position.max_eq_right hstop⟩
      rw [if_pos ⟨hkinds, hkeeps⟩, hr, Bool.and_true, extent_paragraphs hkinds, Extent.widen,
        continuousRange_kept hstart, hspan]
    · rw [if_neg hparagraph]
      by_cases hline : s.kind = .line ∧ t.kind = .line
      · rw [hr, extent_of_line hline, Extent.widen,
          fullLines_continuousRange hs ht hline hd hholds hapart hle]
        exact hspans.excludes
      · by_cases hall : (s.kind = .document ∧ t.kind = .document) ∧ (keepsStart && keepsStop) = true
        · obtain ⟨hkinds, hkeeps⟩ := hall
          obtain ⟨rfl, rfl⟩ := (Bool.and_eq_true _ _).mp hkeeps
          refine ⟨Bool.noConfusion, Bool.noConfusion, ?_⟩
          rw [hr, Bool.and_true, extent_documents hkinds, Extent.widen, ← hs.all hkinds.1]
          exact Range.containsRange_union_left _ _
        · rw [hr, extent_text hline hparagraph hall]
          exact hspans.excludes
  · obtain ⟨hfirst, hlast, hwiden⟩ := hcut.resolve_left hle
    have hcutOff : ¬(keepsStart && keepsStop) = true := fun hkeeps => by
      obtain ⟨rfl, rfl⟩ := (Bool.and_eq_true _ _).mp hkeeps
      exact hle (Position.le_trans hstart t.content.start_le_stop)
    rw [if_neg fun h => hcutOff h.2, hr, hwiden]
    exact (spans_of_between hlast hfirst hle).excludes

lemma apart_of_crossed {r : Range} (hapart : s.content.stop ≤ t.content.start)
    (hcrossed : ¬s.rangeStart keepsStart ≤ t.rangeStop s.document keepsStop)
    (hwide : r.containsRange (s.continuousRange t keepsStart keepsStop) = true)
    (hfirst : keepsStart = false → r.overlaps s.content = false)
    (hlast : keepsStop = false → r.overlaps t.content = false)
    (hspan : (s.content.union t.content).containsRange r = true) :
    (keepsStart = false ∧ keepsStop = false) ∧ s.content.stop ≤ r.start ∧ r.stop ≤ t.content.start := by
  have hlt := Position.not_le.mp hcrossed
  have hends := ends_of_crossed hcrossed
  obtain ⟨hstart, hstop⟩ := (Range.containsRange_iff _ _).mp hwide
  obtain ⟨hmin, hmax⟩ := (Range.containsRange_iff _ _).mp hspan
  obtain ⟨hstart', hstop'⟩ := Range.ordered_of_stop_le hapart
  have hbegin : s.content.start ≤ r.start := Position.min_eq_left hstart' ▸ hmin
  have hend : r.stop ≤ t.content.stop := Position.max_eq_right hstop' ▸ hmax
  rw [hends.1] at hstart
  rw [hends.2] at hstop
  have hfull : r.start < r.stop :=
    Position.lt_of_le_of_lt hstart (Position.lt_of_lt_of_le hlt hstop)
  obtain rfl : keepsStart = false := by
    refine Bool.eq_false_iff.mpr ?_
    rintro rfl
    exact Position.not_le.mpr hlt (Position.le_trans hbegin hstart)
  obtain rfl : keepsStop = false := by
    refine Bool.eq_false_iff.mpr ?_
    rintro rfl
    exact Position.not_le.mpr hlt (Position.le_trans hstop hend)
  refine ⟨⟨rfl, rfl⟩, Position.not_lt.mp fun hinside => ?_, Position.not_lt.mp fun hinside => ?_⟩
  · have hoverlaps := Range.overlaps_iff.mpr ⟨⟨hfull, hinside⟩,
      Position.lt_of_le_of_lt hbegin hfull, Position.lt_of_le_of_lt hbegin hinside⟩
    rw [hfirst rfl] at hoverlaps
    cases hoverlaps
  · have hoverlaps := Range.overlaps_iff.mpr ⟨⟨hfull, Position.lt_of_lt_of_le hfull hend⟩, hinside,
      Position.lt_of_lt_of_le hinside hend⟩
    rw [hlast rfl] at hoverlaps
    cases hoverlaps

lemma fullLines_of_crossed (hs : s.FitsKind) (ht : t.FitsKind) (hkinds : s.kind = .line ∧ t.kind = .line)
    (hd : t.document = s.document) (hholds : s.document.Holds t.content)
    (hapart : s.content.stop ≤ t.content.start)
    (hcrossed : ¬s.rangeStart false ≤ t.rangeStop s.document false)
    (hstart : s.content.stop ≤ ⟨(t.rangeStop s.document false).line, 0⟩)
    (hstop : (⟨(s.rangeStart false).line, s.document.lineLength (s.rangeStart false).line⟩ : Position) ≤
      t.content.start) :
    (t.rangeStop s.document false).character = 0 ∧
      s.document.lineLength (s.rangeStart false).line = 0 := by
  have hlt := Position.lt_def.mp (Position.not_le.mp hcrossed)
  have hbegin : (s.rangeStart false).character = 0 := character_rangeStart hs ht hkinds hholds hapart
  have hend : (t.rangeStop s.document false).character = _ :=
    character_rangeStop hs ht hkinds hd hapart
  obtain ⟨_, hlast⟩ := hs.lines hkinds.1
  obtain ⟨hfirst, _⟩ := ht.lines hkinds.2
  have hbehind : (s.rangeStart false).line ≤ s.content.stop.line + 1 := by
    rw [rangeStart, if_neg Bool.false_ne_true]
    split
    · exact Nat.le_refl _
    · exact Nat.le_succ _
  have hbefore : t.content.start.line ≤ (t.rangeStop s.document false).line + 1 := by
    rw [rangeStop, if_neg Bool.false_ne_true]
    split
    · show t.content.start.line ≤ t.content.start.line - 1 + 1
      omega
    · exact Nat.le_succ _
  rw [Position.le_def] at hstart hstop
  dsimp only at hstart hstop
  have hline : (t.rangeStop s.document false).line = s.content.stop.line := by omega
  have hline' : t.content.start.line = (s.rangeStart false).line := by omega
  refine ⟨?_, by omega⟩
  rw [hend, hline, ← hlast]
  omega

lemma cutInOrder_of_excludes (hs : s.FitsKind) (ht : t.FitsKind) (hd : t.document = s.document)
    (hholds : s.document.Holds t.content) (hapart : s.content.stop ≤ t.content.start)
    (hfirst : keepsStart = false →
      (s.continuous t keepsStart keepsStop b).content.overlaps s.content = false)
    (hlast : keepsStop = false →
      (s.continuous t keepsStart keepsStop b).content.overlaps t.content = false)
    (hspan : (keepsStart && keepsStop) = false →
      (s.content.union t.content).containsRange (s.continuous t keepsStart keepsStop b).content = true) :
    s.CutInOrder t keepsStart keepsStop := by
  by_cases hle : s.rangeStart keepsStart ≤ t.rangeStop s.document keepsStop
  · exact .inl hle
  · have hcutOff : (keepsStart && keepsStop) = false := by
      refine Bool.eq_false_iff.mpr fun hkeeps => hle ?_
      obtain ⟨rfl, rfl⟩ := (Bool.and_eq_true _ _).mp hkeeps
      exact Position.le_trans (Range.ordered_of_stop_le hapart).1 t.content.start_le_stop
    have hends := ends_of_crossed hle
    have hspan := hspan hcutOff
    rw [content_continuous] at hfirst hlast hspan
    by_cases hline : s.kind = .line ∧ t.kind = .line
    · rw [extent_of_line hline, Extent.widen] at hfirst hlast hspan
      have hlines := (s.continuousRange t keepsStart keepsStop).start_line_le
      have hwide := containsRange_fullLines_crossed hs ht hline hholds hapart hle
      obtain ⟨⟨rfl, rfl⟩, hbehind, hbefore⟩ := apart_of_crossed hapart hle hwide hfirst hlast hspan
      obtain ⟨hstart, hstop⟩ := (Range.containsRange_iff _ _).mp hwide
      have hwithin := Position.le_trans hbehind hstart
      have hwithin' := Position.le_trans hstop hbefore
      rw [Document.start_fullLines _ hlines, hends.1] at hbehind
      rw [Document.stop_fullLines _ hlines, hends.2] at hbefore
      obtain ⟨hzero, hempty⟩ := fullLines_of_crossed hs ht hline hd hholds hapart hle hbehind hbefore
      have hbegin : (s.rangeStart false).character = 0 :=
        character_rangeStart hs ht hline hholds hapart
      refine .inr ⟨hends.1 ▸ hwithin, hends.2 ▸ hwithin', ?_⟩
      rw [extent_of_line hline, Extent.widen, Range.ext_iff', Document.start_fullLines _ hlines,
        Document.stop_fullLines _ hlines, hends.1, hends.2, Position.ext_iff', Position.ext_iff']
      exact ⟨⟨rfl, hzero.symm⟩, rfl, hempty.trans hbegin.symm⟩
    · have htext : s.extent t (keepsStart && keepsStop) = .text := by
        rw [hcutOff]
        exact extent_text hline (Bool.false_ne_true ·.2) (Bool.false_ne_true ·.2)
      rw [htext, Extent.widen] at hfirst hlast hspan
      obtain ⟨_, hbehind, hbefore⟩ := apart_of_crossed hapart hle (Range.containsRange_refl _) hfirst
        hlast hspan
      rw [hends.1] at hbehind
      rw [hends.2] at hbefore
      exact .inr ⟨hbehind, hbefore, htext ▸ rfl⟩

end Cut

lemma stop_le_start_of_ordered {r q : Range} (hapart : r.stop ≤ q.start ∨ q.stop ≤ r.start)
    (h : r.start ≤ q.start ∧ (r.start = q.start → r.stop ≤ q.stop)) : r.stop ≤ q.start := by
  rcases hapart with hle | hle
  · exact hle
  · have heq : r.start = q.start :=
      Position.le_antisymm h.1 (Position.le_trans q.start_le_stop hle)
    exact heq ▸ Position.le_trans (h.2 heq) (heq ▸ hle)

/-- Whether the two ends of the range from `s` to `t` are cut off in the order in which they come. -/
def CutsInOrder (s t : Target) (excludesS excludesT : Bool) : Prop :=
  if runsBackward s.content t.content = true then t.CutInOrder s (!excludesT) (!excludesS)
  else s.CutInOrder t (!excludesS) (!excludesT)

/-- The range between two targets that lie apart has nothing of an end that is excluded, and nothing
that is not between them, except that paragraphs are joined to whole lines. -/
theorem rangeBetween_excludes {s t : Target} {excludesS excludesT : Bool} (hs : s.Built) (ht : t.Built)
    (he : t.editor = s.editor) (hholds : s.document.Holds s.content)
    (hholds' : t.document.Holds t.content)
    (hapart : s.content.stop ≤ t.content.start ∨ t.content.stop ≤ s.content.start)
    (hcut : s.CutsInOrder t excludesS excludesT) :
    let r := (s.rangeBetween t excludesS excludesT).content
    let span := s.content.union t.content
    (excludesS = true → r.overlaps s.content = false) ∧
      (excludesT = true → r.overlaps t.content = false) ∧
      if (s.kind = .paragraph ∧ t.kind = .paragraph) ∧ (!excludesS && !excludesT) = true then
        r = s.document.fullLines span.start.line span.stop.line
      else span.containsRange r = true := by
  have hd : t.document = s.document := congrArg Editor.document he
  rw [CutsInOrder] at hcut
  by_cases hback : runsBackward s.content t.content = true
  · have hle := stop_le_start_of_ordered hapart.symm (ordered_of_runsBackward hback)
    rw [if_pos hback] at hcut
    obtain ⟨hlast, hfirst, hspan⟩ := hcut.excludes (b := true) ht.fitsKind hs.fitsKind hd.symm
      (hd ▸ hholds) hle
    rw [rangeBetween, if_pos hback]
    refine ⟨fun h => hfirst (h ▸ rfl), fun h => hlast (h ▸ rfl), ?_⟩
    simp only [Range.union_comm s.content, Bool.and_comm (!excludesS), ← hd, and_comm (a := s.kind = _)]
    exact hspan
  · have hle := stop_le_start_of_ordered hapart (ordered_of_not_runsBackward hback)
    rw [if_neg hback] at hcut
    obtain ⟨hfirst, hlast, hspan⟩ := hcut.excludes (b := false) hs.fitsKind ht.fitsKind hd
      (hd ▸ hholds') hle
    rw [rangeBetween, if_neg hback]
    exact ⟨fun h => hfirst (h ▸ rfl), fun h => hlast (h ▸ rfl), hspan⟩

theorem rangeBetween_excludes_lines :
    let e : Editor := .ofDocument 1 (.ofText 1 "plaintext" "a\nb\nc".toList)
    let s : Target := .line e (.onLine 0 0 1) false
    let t : Target := .line e (.onLine 2 0 1) false
    let r := (s.rangeBetween t true true).content
    s.Built ∧ t.Built ∧ t.editor = s.editor ∧ s.document.Holds s.content ∧
      t.document.Holds t.content ∧ s.content.stop ≤ t.content.start ∧ s.CutsInOrder t true true ∧
      r.overlaps s.content = false ∧ r.overlaps t.content = false ∧
      (s.content.union t.content).containsRange r = true := by
  intro e s t r
  have hs : s.Built := .line e _ _
  have ht : t.Built := .line e _ _
  have hholds : s.document.Holds s.content := by decide
  have hholds' : t.document.Holds t.content := by decide
  have hapart : s.content.stop ≤ t.content.start := by decide
  have hcut : s.CutsInOrder t true true := by
    rw [CutsInOrder, if_neg (by decide)]
    exact .inl (by decide)
  obtain ⟨hfirst, hlast, hspan⟩ :=
    rangeBetween_excludes hs ht rfl hholds hholds' (.inl hapart) hcut
  exact ⟨hs, ht, rfl, hholds, hholds', hapart, hcut, hfirst rfl, hlast rfl, hspan⟩

theorem cutsInOrder_of_excludes {excludesS excludesT : Bool} (hs : s.Built) (ht : t.Built)
    (he : t.editor = s.editor) (hholds : s.document.Holds s.content)
    (hholds' : t.document.Holds t.content)
    (hapart : s.content.stop ≤ t.content.start ∨ t.content.stop ≤ s.content.start)
    (hfirst : excludesS = true →
      (s.rangeBetween t excludesS excludesT).content.overlaps s.content = false)
    (hlast : excludesT = true →
      (s.rangeBetween t excludesS excludesT).content.overlaps t.content = false)
    (hspan : (excludesS || excludesT) = true →
      (s.content.union t.content).containsRange
        (s.rangeBetween t excludesS excludesT).content = true) :
    s.CutsInOrder t excludesS excludesT := by
  have hd : t.document = s.document := congrArg Editor.document he
  rw [rangeBetween] at hfirst hlast hspan
  rw [CutsInOrder]
  by_cases hback : runsBackward s.content t.content = true
  · have hle := stop_le_start_of_ordered hapart.symm (ordered_of_runsBackward hback)
    rw [if_pos hback] at hfirst hlast hspan ⊢
    apply cutInOrder_of_excludes ht.fitsKind hs.fitsKind hd.symm (hd ▸ hholds) hle
    · exact fun h => hlast (by simpa using h)
    · exact fun h => hfirst (by simpa using h)
    · rw [Range.union_comm, ← Bool.not_or, Bool.not_eq_false', Bool.or_comm]
      exact hspan
  · have hle := stop_le_start_of_ordered hapart (ordered_of_not_runsBackward hback)
    rw [if_neg hback] at hfirst hlast hspan ⊢
    apply cutInOrder_of_excludes hs.fitsKind ht.fitsKind hd (hd ▸ hholds') hle
    · exact fun h => hfirst (by simpa using h)
    · exact fun h => hlast (by simpa using h)
    · rw [← Bool.not_or, Bool.not_eq_false']
      exact hspan

theorem not_containsRange_union_rangeBetween_paragraphs :
    let e : Editor := .ofDocument 1 (.ofText 1 "plaintext" "  a\n\n  b".toList)
    let s : Target := .paragraph e (.onLine 0 2 3) false
    let t : Target := .paragraph e (.onLine 2 2 3) false
    s.Built ∧ t.Built ∧ t.editor = s.editor ∧ s.document.Holds s.content ∧
      t.document.Holds t.content ∧ s.content.stop ≤ t.content.start ∧
      ¬(s.content.union t.content).containsRange (s.rangeBetween t false false).content = true := by
  intro e s t
  exact ⟨.paragraph e _ _, .paragraph e _ _, rfl, by decide, by decide, by decide, by decide⟩

end Target

end Referent
