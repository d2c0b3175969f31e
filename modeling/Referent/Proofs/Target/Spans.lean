import Referent.Proofs.Document.Offsets
import Referent.Proofs.Target.Merge

namespace Referent

/-- What the content of a joined target covers: the characters from end to end, the lines that those
are on, or everything. -/
inductive Extent where
  | text | lines | all
deriving DecidableEq

namespace Extent

def widen (d : Document) (r : Range) : Extent → Range
  | .text => r
  | .lines => d.fullLines r.start.line r.stop.line
  | .all => d.range

def Reaches (r s : Range) : Extent → Prop
  | .text => (r.start < s.start → r.stop ≤ s.stop) ∧ (s.start < r.start → s.stop ≤ r.stop)
  | .lines => (r.start < s.start → r.stop.line ≤ s.stop.line) ∧
      (s.start < r.start → s.stop.line ≤ r.stop.line)
  | .all => True

lemma Reaches.symm {x : Extent} {r s : Range} (h : x.Reaches r s) : x.Reaches s r := by
  cases x with
  | text => exact ⟨h.2, h.1⟩
  | lines => exact ⟨h.2, h.1⟩
  | all => trivial

end Extent

namespace Target

variable {s t : Target}

lemma ordered_of_runsBackward {r q : Range} (h : runsBackward r q = true) :
    q.start ≤ r.start ∧ (q.start = r.start → q.stop ≤ r.stop) := by
  rw [runsBackward] at h
  split at h
  · next heq => exact ⟨heq ▸ Position.le_refl _, fun _ => Position.le_of_lt (of_decide_eq_true h)⟩
  · next hne => exact ⟨Position.le_of_lt (of_decide_eq_true h), fun heq => absurd heq.symm hne⟩

lemma ordered_of_not_runsBackward {r q : Range} (h : ¬runsBackward r q = true) :
    r.start ≤ q.start ∧ (r.start = q.start → r.stop ≤ q.stop) := by
  rw [runsBackward] at h
  split at h
  · next heq =>
    rw [decide_eq_true_eq] at h
    exact ⟨heq ▸ Position.le_refl _, fun _ => Position.not_lt.mp h⟩
  · next hne =>
    rw [decide_eq_true_eq] at h
    exact ⟨Position.not_lt.mp h, fun heq => absurd heq hne⟩

def extent (s t : Target) (keepsBoth : Bool) : Extent :=
  if s.kind = .line ∧ t.kind = .line then .lines
  else if keepsBoth = true ∧ s.kind = t.kind then
    match s.kind with
    | .paragraph => .lines
    | .document => .all
    | _ => .text
  else .text

lemma extent_comm (s t : Target) (keepsBoth : Bool) : s.extent t keepsBoth = t.extent s keepsBoth := by
  by_cases heq : s.kind = t.kind
  · simp only [extent, heq]
  · have hne : ¬t.kind = s.kind := Ne.symm heq
    simp [extent, heq, hne, and_comm]

lemma content_continuous (s t : Target) (keepsStart keepsStop b : Bool) :
    (s.continuous t keepsStart keepsStop b).content =
      (s.extent t (keepsStart && keepsStop)).widen s.document
        (s.continuousRange t keepsStart keepsStop) := by
  by_cases hlines : s.kind = .line ∧ t.kind = .line
  · simp only [continuous, extent, hlines]
    rfl
  · by_cases hkinds : (keepsStart && keepsStop) = true ∧ s.kind = t.kind
    · obtain ⟨hkeeps, hkind⟩ := hkinds
      have hjoined : ¬((!(keepsStart && keepsStop) || s.kind != t.kind) = true) := by
        simp [hkeeps, hkind]
      simp only [continuous, extent, if_neg hlines, if_neg hjoined]
      rw [if_pos ⟨hkeeps, hkind⟩]
      show (joinKind _ _ _ _).content = _
      cases hs : s.kind with
      | scope scopeType =>
        simp only [joinKind, hs]
        rw [content_scope]
        rfl
      | _ =>
        simp only [joinKind, hs]
        rfl
    · have hjoined : (!(keepsStart && keepsStop) || s.kind != t.kind) = true := by
        by_cases hkeeps : (keepsStart && keepsStop) = true
        · have hne : s.kind ≠ t.kind := fun hkind => hkinds ⟨hkeeps, hkind⟩
          simp [hkeeps, hne]
        · simp [hkeeps]
      simp only [continuous, extent, if_neg hlines, if_neg hkinds, if_pos hjoined]
      rfl

section Kept

variable (hd : t.document = s.document) (ht : s.document.Holds t.content)
  (hs : s.document.Holds s.content) (hstart : s.content.start ≤ t.content.start)
  (heq : s.content.start = t.content.start → s.content.stop ≤ t.content.stop)

include hstart in
lemma continuousRange_kept : s.continuousRange t true true = ⟨s.content.start, t.content.stop,
    Position.le_trans hstart t.content.start_le_stop⟩ := Range.between_of_le _

include hstart heq in
lemma reaches_text : Extent.text.Reaches s.content t.content ↔ s.content.stop ≤ t.content.stop := by
  refine ⟨fun h => ?_, fun hle => ⟨fun _ => hle, fun hlt => ?_⟩⟩
  · by_cases hsame : s.content.start = t.content.start
    · exact heq hsame
    · refine h.1 (Position.not_le.mp fun hle => hsame ?_)
      exact Position.le_antisymm hstart hle
  · exact absurd hstart (Position.not_le.mpr hlt)

include hstart heq in
lemma reaches_lines : Extent.lines.Reaches s.content t.content ↔
    s.content.stop.line ≤ t.content.stop.line := by
  refine ⟨fun h => ?_, fun hle => ⟨fun _ => hle, fun hlt => ?_⟩⟩
  · by_cases hsame : s.content.start = t.content.start
    · have hle := Position.le_def.mp (heq hsame)
      omega
    · refine h.1 (Position.not_le.mp fun hle => hsame ?_)
      exact Position.le_antisymm hstart hle
  · exact absurd hstart (Position.not_le.mpr hlt)

include hs ht hstart heq

lemma containsRange_widen_iff (x : Extent) :
    ((x.widen s.document (s.continuousRange t true true)).containsRange s.content = true ∧
      (x.widen s.document (s.continuousRange t true true)).containsRange t.content = true) ↔
      x.Reaches s.content t.content := by
  rw [continuousRange_kept hstart, Range.containsRange_iff, Range.containsRange_iff]
  have hstop := t.content.start_le_stop
  cases x with
  | text =>
    rw [reaches_text hstart heq]
    exact ⟨fun h => h.1.2, fun h => ⟨⟨Position.le_refl _, h⟩, hstart, Position.le_refl _⟩⟩
  | lines =>
    have hlines : s.content.start.line ≤ t.content.stop.line := by
      rw [Position.le_def] at hstart hstop
      omega
    rw [reaches_lines hstart heq, Extent.widen, Document.start_fullLines _ hlines,
      Document.stop_fullLines _ hlines]
    have hfront : (⟨s.content.start.line, 0⟩ : Position) ≤ s.content.start :=
      .inr ⟨rfl, Nat.zero_le _⟩
    have hend : t.content.stop ≤
        ⟨t.content.stop.line, s.document.lineLength t.content.stop.line⟩ := .inr ⟨rfl, ht.2.2⟩
    constructor
    · rintro ⟨⟨_, hle⟩, _⟩
      rw [Position.le_def] at hle
      dsimp only at hle
      omega
    · intro hle
      refine ⟨⟨hfront, ?_⟩, Position.le_trans hfront hstart, hend⟩
      have hlast := hs.2.2
      rcases Nat.lt_or_eq_of_le hle with hlt | hsame
      · exact .inl hlt
      · exact .inr ⟨hsame, hsame ▸ hlast⟩
  | all =>
    have hbegin := s.document.start_range
    refine iff_of_true ⟨⟨?_, Document.le_stop_range hs.2⟩, ?_, Document.le_stop_range ht.2⟩ trivial
    · rw [Extent.widen, hbegin]
      exact Position.zero_le _
    · rw [Extent.widen, hbegin]
      exact Position.zero_le _

omit hs ht in
lemma continuousRange_eq_union_iff : s.continuousRange t true true = s.content.union t.content ↔
    Extent.text.Reaches s.content t.content := by
  rw [continuousRange_kept hstart, reaches_text hstart heq, Range.ext_iff']
  constructor
  · rintro ⟨_, hstop⟩
    exact hstop ▸ Position.le_max_left _ _
  · intro hle
    exact ⟨(Position.min_eq_left hstart).symm, (Position.max_eq_right hle).symm⟩

end Kept

/-- Two targets are both in the range between them exactly if the one that begins last does not end
before the other one does, or not in an earlier line where lines are joined. Then the range has nothing
else in it, unless it is widened to lines or to everything. -/
theorem containsRange_rangeBetween_iff {s t : Target} (he : t.editor = s.editor)
    (hs : s.document.Holds s.content) (ht : t.document.Holds t.content) :
    (((s.rangeBetween t false false).content.containsRange s.content = true ∧
      (s.rangeBetween t false false).content.containsRange t.content = true) ↔
        (s.extent t true).Reaches s.content t.content) ∧
      (s.extent t true = .text →
        ((s.rangeBetween t false false).content = s.content.union t.content ↔
          Extent.text.Reaches s.content t.content)) := by
  have hd : t.document = s.document := congrArg Editor.document he
  have ht' : s.document.Holds t.content := hd ▸ ht
  have hs' : t.document.Holds s.content := hd.symm ▸ hs
  by_cases hback : runsBackward s.content t.content = true
  · obtain ⟨hstart, heq⟩ := ordered_of_runsBackward hback
    rw [rangeBetween, if_pos hback, Bool.not_false, content_continuous, Bool.and_true, extent_comm]
    refine ⟨?_, fun htext => ?_⟩
    · rw [and_comm, containsRange_widen_iff hs' ht hstart heq]
      exact ⟨Extent.Reaches.symm, Extent.Reaches.symm⟩
    · rw [htext, Range.union_comm, Extent.widen, continuousRange_eq_union_iff hstart heq]
      exact ⟨Extent.Reaches.symm, Extent.Reaches.symm⟩
  · obtain ⟨hstart, heq⟩ := ordered_of_not_runsBackward hback
    rw [rangeBetween, if_neg hback, Bool.not_false, content_continuous, Bool.and_true]
    refine ⟨containsRange_widen_iff ht' hs hstart heq _, fun htext => ?_⟩
    rw [htext, Extent.widen, continuousRange_eq_union_iff hstart heq]

theorem containsRange_rangeBetween_overlapping :
    let e : Editor := .ofDocument 1 (.ofText 1 "plaintext" "abc".toList)
    let s : Target := .token e (.onLine 0 0 2) false
    let t : Target := .token e (.onLine 0 1 3) false
    t.editor = s.editor ∧ s.document.Holds s.content ∧ t.document.Holds t.content ∧
      (s.rangeBetween t false false).content.containsRange s.content = true ∧
      (s.rangeBetween t false false).content.containsRange t.content = true ∧
      (s.rangeBetween t false false).content = s.content.union t.content := by
  intro e s t
  have hs : s.document.Holds s.content := by decide
  have ht : t.document.Holds t.content := by decide
  have hreaches : Extent.text.Reaches s.content t.content :=
    ⟨fun _ => by decide, fun h => absurd h (by decide)⟩
  obtain ⟨hcontains, hunion⟩ := containsRange_rangeBetween_iff (s := s) (t := t) rfl hs ht
  obtain ⟨hfirst, hlast⟩ := hcontains.mpr hreaches
  exact ⟨rfl, hs, ht, hfirst, hlast, (hunion rfl).mpr hreaches⟩

theorem not_containsRange_rangeBetween_nested :
    let e : Editor := .ofDocument 1 (.ofText 1 "plaintext" "abc".toList)
    let s : Target := .token e (.onLine 0 0 3) false
    let t : Target := .token e (.onLine 0 1 2) false
    t.editor = s.editor ∧ s.document.Holds s.content ∧ t.document.Holds t.content ∧
      ¬(s.rangeBetween t false false).content.containsRange s.content = true := by
  intro e s t
  exact ⟨rfl, by decide, by decide, by decide⟩

end Target

end Referent
