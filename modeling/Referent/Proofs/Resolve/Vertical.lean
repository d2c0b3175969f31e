import Mathlib.Data.List.Nodup
import Referent.Proofs.Target.Spans
import Referent.Resolve.Descriptor

namespace Referent

lemma filter_bne_head {l : List Nat} {a : Nat} (h : l.Nodup) (ha : l.head? = some a) :
    l.filter (· != a) = l.tail := by
  obtain ⟨rest, rfl⟩ := List.head?_eq_some_iff.mp ha
  obtain ⟨hmem, -⟩ := List.nodup_cons.mp h
  rw [List.filter_cons_of_neg (by simp), List.tail_cons, List.filter_eq_self]
  intro b hb
  exact bne_iff_ne.mpr (ne_of_mem_of_not_mem hb hmem)

lemma filter_bne_last {l : List Nat} {b : Nat} (h : l.Nodup) (hb : l.getLast? = some b) :
    l.filter (· != b) = l.dropLast := by
  rw [← List.reverse_inj, ← List.filter_reverse, ← List.tail_reverse]
  exact filter_bne_head (List.nodup_reverse.mpr h) (List.head?_reverse ▸ hb)

def withoutEnds {α : Type} (first last : Bool) (l : List α) : List α :=
  let rest := if first then l.tail else l
  if last then rest.dropLast else rest

lemma map_withoutEnds {α β : Type} (f : α → β) (first last : Bool) (l : List α) :
    (withoutEnds first last l).map f = withoutEnds first last (l.map f) := by
  cases first <;> cases last <;> simp [withoutEnds, List.map_tail, List.map_dropLast]

lemma filter_eq_withoutEnds {l : List Nat} {a b : Nat} (h : l.Nodup) (ha : l.head? = some a)
    (hb : l.getLast? = some b) (first last : Bool) :
    l.filter (fun i => !(first && i == a) && !(last && i == b)) = withoutEnds first last l := by
  cases first with
  | false =>
    cases last with
    | false => simp [withoutEnds]
    | true => simpa [withoutEnds, bne] using filter_bne_last h hb
  | true =>
    have hrest : l.filter (fun i => !(i == a)) = l.tail := filter_bne_head h ha
    cases last with
    | false => simpa [withoutEnds] using hrest
    | true =>
      have hboth : l.filter (fun i => !(i == a) && !(i == b)) = l.tail.filter (· != b) := by
        rw [← hrest, List.filter_filter]
        simp only [Bool.and_comm, bne]
      obtain ⟨rest, rfl⟩ := List.head?_eq_some_iff.mp ha
      simp only [Bool.true_and, hboth, withoutEnds, if_true, List.tail_cons]
      cases rest with
      | nil => rfl
      | cons c rest => exact filter_bne_last h.tail (by rwa [List.getLast?_cons_cons] at hb)

namespace Target

variable {first last i : Nat}

def linesBetween (first last : Nat) : List Nat :=
  if first ≤ last then List.range' first (last + 1 - first)
  else (List.range' last (first + 1 - last)).reverse

lemma length_linesBetween (first last : Nat) :
    (linesBetween first last).length = ((first : Int) - last).natAbs + 1 := by
  rw [linesBetween]
  split
  · rw [List.length_range']
    omega
  · rw [List.length_reverse, List.length_range']
    omega

lemma getElem_linesBetween (h : i < (linesBetween first last).length) :
    (linesBetween first last)[i] = if first ≤ last then first + i else first - i := by
  have hlength := length_linesBetween first last
  by_cases hle : first ≤ last
  · simp [linesBetween, hle]
  · simp [linesBetween, hle]
    omega

lemma reverse_linesBetween (first last : Nat) :
    (linesBetween first last).reverse = linesBetween last first := by
  rcases Nat.lt_trichotomy first last with hlt | rfl | hlt
  · rw [linesBetween, linesBetween, if_pos (Nat.le_of_lt hlt), if_neg (Nat.not_le.mpr hlt)]
  · simp [linesBetween]
  · rw [linesBetween, linesBetween, if_neg (Nat.not_le.mpr hlt), if_pos (Nat.le_of_lt hlt),
      List.reverse_reverse]

lemma nodup_linesBetween (first last : Nat) : (linesBetween first last).Nodup := by
  rw [linesBetween]
  split
  · exact List.nodup_range'
  · exact List.nodup_reverse.mpr List.nodup_range'

lemma head?_linesBetween (first last : Nat) : (linesBetween first last).head? = some first := by
  have hpos : 0 < (linesBetween first last).length := by
    rw [length_linesBetween]
    omega
  rw [List.head?_eq_getElem?, List.getElem?_eq_getElem hpos, getElem_linesBetween hpos]
  simp

lemma getLast?_linesBetween (first last : Nat) : (linesBetween first last).getLast? = some last := by
  rw [← List.head?_reverse, reverse_linesBetween, head?_linesBetween]

lemma le_max_of_mem_linesBetween {line : Nat} (h : line ∈ linesBetween first last) :
    line ≤ max first last := by
  rw [linesBetween] at h
  split at h
  · rw [List.mem_range'_1] at h
    omega
  · rw [List.mem_reverse, List.mem_range'_1] at h
    omega

lemma filter_linesBetween (first last : Nat) (excludeFirst excludeLast : Bool) :
    (linesBetween first last).filter (fun l =>
      !(excludeFirst && l == first) && !(excludeLast && l == last)) =
        withoutEnds excludeFirst excludeLast (linesBetween first last) :=
  filter_eq_withoutEnds (nodup_linesBetween first last) (head?_linesBetween first last)
    (getLast?_linesBetween first last) excludeFirst excludeLast

def startLine (t : Target) : Nat := t.content.start.line

def inLine (anchor : Target) (line : Nat) : Target :=
  if line = anchor.startLine then anchor else anchor.onLine line

/-- Whether targets go from the line of one target to that of another one, in the columns of the first. -/
structure Walks (anchor active : Target) (targets : List Target) : Prop where
  length : targets.length = ((anchor.startLine : Int) - active.startLine).natAbs + 1
  lines : ∀ i (h : i < targets.length), targets[i].startLine =
    if anchor.startLine ≤ active.startLine then anchor.startLine + i else anchor.startLine - i
  head : targets.head? = some anchor
  tail : ∀ t ∈ targets.tail, t = .plain anchor.editor (.between
    ⟨t.startLine, min anchor.content.start.character (anchor.document.lineLength t.startLine)⟩
    ⟨t.startLine, min anchor.content.stop.character (anchor.document.lineLength t.startLine)⟩)
    anchor.isReversed

section

variable {anchor active : Target} {line : Nat}

lemma onLine_eq (h : line < anchor.document.lineCount) :
    anchor.onLine line = .plain anchor.editor (.between
      ⟨line, min anchor.content.start.character (anchor.document.lineLength line)⟩
      ⟨line, min anchor.content.stop.character (anchor.document.lineLength line)⟩)
      anchor.isReversed := by
  have hline : ¬anchor.document.lastLine < line :=
    Nat.not_lt.mpr ((anchor.document.le_lastLine_iff line).mpr h)
  simp only [onLine, Document.clamp, if_neg hline]

lemma startLine_onLine (h : line < anchor.document.lineCount) :
    (anchor.onLine line).startLine = line := by
  rw [onLine_eq h]
  show (Range.between _ _).start.line = line
  rcases Range.between_cases _ _ with hstart | hstart
  · rw [hstart.1]
  · rw [hstart.1]

lemma startLine_inLine (h : line < anchor.document.lineCount) :
    (anchor.inLine line).startLine = line := by
  rw [inLine]
  split
  · next heq => exact heq.symm
  · exact startLine_onLine h

variable (anchor) in
lemma verticalFrom_eq {last : Nat} (excludeAnchor excludeActive : Bool) {lines : List Nat}
    (hnodup : lines.Nodup) (hlast : lines = [] ∨ lines.getLast? = some last) :
    anchor.verticalFrom last excludeAnchor excludeActive lines = (lines.filter fun l =>
      !(excludeAnchor && l == anchor.startLine) && !(excludeActive && l == last)).map anchor.inLine := by
  induction lines with
  | nil => rfl
  | cons line rest ih =>
    obtain ⟨hnew, hrest⟩ := List.nodup_cons.mp hnodup
    have hlast := hlast.resolve_left (List.cons_ne_nil line rest)
    have hend : rest = [] ∨ rest.getLast? = some last := by
      cases rest with
      | nil => exact .inl rfl
      | cons next rest => exact .inr (by rwa [List.getLast?_cons_cons] at hlast)
    rw [Target.verticalFrom, ih hrest hend, List.filter_cons, ← startLine]
    cases hfirst : excludeAnchor && line == anchor.startLine with
    | true => rfl
    | false => cases hstop : excludeActive && line == last with
      | true =>
        obtain rfl : line = last := beq_iff_eq.mp (Bool.and_eq_true_iff.mp hstop).2
        have hnil : rest = [] := hend.resolve_right fun h => hnew (List.mem_of_getLast? h)
        rw [hnil]
        rfl
      | false =>
        rw [Bool.not_false, Bool.true_and, if_pos rfl, List.map_cons, inLine,
          if_neg Bool.false_ne_true, if_neg Bool.false_ne_true]
        split
        · rfl
        · rfl

lemma lines_eq (anchor active : Target) :
    let lines := List.range' (min anchor.startLine active.startLine)
      (max anchor.startLine active.startLine + 1 - min anchor.startLine active.startLine)
    (if runsBackward anchor.content active.content then lines.reverse else lines) =
      linesBetween anchor.startLine active.startLine := by
  intro lines
  split
  · next hback =>
    have hle : active.startLine ≤ anchor.startLine :=
      Position.line_le_of_le (ordered_of_runsBackward hback).1
    rw [← reverse_linesBetween, linesBetween, if_pos hle]
    simp only [lines, Nat.min_eq_right hle, Nat.max_eq_left hle]
  · next hforth =>
    have hle : anchor.startLine ≤ active.startLine :=
      Position.line_le_of_le (ordered_of_not_runsBackward hforth).1
    rw [linesBetween, if_pos hle]
    simp only [lines, Nat.min_eq_left hle, Nat.max_eq_right hle]

lemma vertical_eq (excludeAnchor excludeActive : Bool) :
    anchor.vertical active excludeAnchor excludeActive = withoutEnds excludeAnchor excludeActive
      ((linesBetween anchor.startLine active.startLine).map anchor.inLine) := by
  have hlines := lines_eq anchor active
  have hlast := getLast?_linesBetween anchor.startLine active.startLine
  have hloop := verticalFrom_eq anchor excludeAnchor excludeActive
    (nodup_linesBetween anchor.startLine active.startLine) (.inr hlast)
  rw [filter_linesBetween, map_withoutEnds] at hloop
  rw [← hloop, ← hlines]
  rfl

variable (hd : active.document = anchor.document)
  (hanchor : anchor.document.Holds anchor.content) (hactive : active.document.Holds active.content)

include hd hanchor hactive

lemma lt_lineCount_of_mem_linesBetween (h : line ∈ linesBetween anchor.startLine active.startLine) :
    line < anchor.document.lineCount := by
  have hle := le_max_of_mem_linesBetween h
  have hfirst : anchor.startLine < anchor.document.lineCount := hanchor.1.1
  have hlast : active.startLine < anchor.document.lineCount := hd ▸ hactive.1.1
  omega

lemma map_startLine_inLine :
    ((linesBetween anchor.startLine active.startLine).map anchor.inLine).map startLine =
      linesBetween anchor.startLine active.startLine := by
  rw [List.map_map]
  conv_rhs => rw [← List.map_id (linesBetween _ _)]
  refine List.map_congr_left fun line hline => ?_
  exact startLine_inLine (lt_lineCount_of_mem_linesBetween hd hanchor hactive hline)

lemma walks_inLine : anchor.Walks active
    ((linesBetween anchor.startLine active.startLine).map anchor.inLine) where
  length := by rw [List.length_map, length_linesBetween]
  lines i h := by
    rw [← getElem_linesBetween (List.length_map anchor.inLine ▸ h), List.getElem_map]
    exact startLine_inLine (lt_lineCount_of_mem_linesBetween hd hanchor hactive (List.getElem_mem _))
  head := by
    rw [List.head?_map, head?_linesBetween, Option.map_some, inLine, if_pos rfl]
  tail t ht := by
    rw [← List.map_tail, List.mem_map] at ht
    obtain ⟨line, hmem, rfl⟩ := ht
    have hnodup := nodup_linesBetween anchor.startLine active.startLine
    have hline := lt_lineCount_of_mem_linesBetween hd hanchor hactive (List.mem_of_mem_tail hmem)
    have hne : line ≠ anchor.startLine := by
      rw [← filter_bne_head hnodup (head?_linesBetween _ _), List.mem_filter] at hmem
      exact bne_iff_ne.mp hmem.2
    rw [startLine_inLine hline, inLine, if_neg hne, onLine_eq hline]

end

end Target

namespace RangeDescriptor

variable {r : RangeDescriptor} {anchor active : Target}

lemma between_vertical (hr : r.rangeType = .vertical) (he : anchor.sameEditor active = true)
    (hd : active.document = anchor.document) :
    r.between anchor active = .ok (anchor.vertical active r.excludeAnchor r.excludeActive) := by
  simp [between, he, hd, hr]

/-- A vertical range has a target for each line from its anchor to its active target, in this order,
without those of the ends that are excluded. Turned around, it goes through the lines the other way. -/
theorem vertical_walks (r : RangeDescriptor) (anchor active : Target) (hr : r.rangeType = .vertical)
    (he : anchor.sameEditor active = true) (hd : active.document = anchor.document)
    (hanchor : anchor.document.Holds anchor.content)
    (hactive : active.document.Holds active.content) :
    ∃ targets back, anchor.Walks active targets ∧ active.Walks anchor back ∧
      r.between anchor active = .ok (withoutEnds r.excludeAnchor r.excludeActive targets) ∧
      r.between active anchor = .ok (withoutEnds r.excludeAnchor r.excludeActive back) ∧
      (anchor.startLine = active.startLine → (r.excludeAnchor || r.excludeActive) = true →
        r.between anchor active = .ok []) ∧
      back.map Target.startLine = (targets.map Target.startLine).reverse := by
  have he' : active.sameEditor anchor = true := by
    rw [Target.sameEditor, beq_iff_eq] at he ⊢
    exact he.symm
  have hbetween := between_vertical hr he hd
  refine ⟨_, _, Target.walks_inLine hd hanchor hactive, Target.walks_inLine hd.symm hactive hanchor,
    hbetween.trans (congrArg _ (Target.vertical_eq _ _)),
    (between_vertical hr he' hd.symm).trans (congrArg _ (Target.vertical_eq _ _)), ?_, ?_⟩
  · intro hline hexclude
    have hsingle : Target.linesBetween active.startLine active.startLine = [active.startLine] := by
      simp [Target.linesBetween]
    rw [hbetween, Target.vertical_eq, hline, hsingle]
    rcases Bool.or_eq_true_iff.mp hexclude with h | h
    · simp [withoutEnds, h]
    · cases r.excludeAnchor with
      | false => simp [withoutEnds, h]
      | true => simp [withoutEnds, h]
  · rw [Target.map_startLine_inLine hd hanchor hactive,
      Target.map_startLine_inLine hd.symm hactive hanchor, Target.reverse_linesBetween]

theorem vertical_walks_upward :
    let e : Editor := .ofDocument 1 (.ofText 1 "plaintext" "abcd\nefgh\nij\nklmn".toList)
    let anchor : Target := .token e (.onLine 3 1 4) false
    let active : Target := .token e (.onLine 0 0 4) false
    let r : RangeDescriptor := ⟨⟨.cursor, []⟩, ⟨.cursor, []⟩, false, true, .vertical⟩
    r.rangeType = .vertical ∧ anchor.sameEditor active = true ∧ active.document = anchor.document ∧
      anchor.document.Holds anchor.content ∧ active.document.Holds active.content ∧
      (∃ targets, anchor.Walks active targets ∧ r.between anchor active = .ok targets.dropLast) ∧
      (anchor.vertical active false true).map Target.content =
        [.onLine 3 1 4, .onLine 2 1 2, .onLine 1 1 4] := by
  intro e anchor active r
  have hanchor : anchor.document.Holds anchor.content := by decide
  have hactive : active.document.Holds active.content := by decide
  obtain ⟨targets, _, hwalks, _, hbetween, _⟩ := vertical_walks r anchor active rfl rfl rfl hanchor hactive
  exact ⟨rfl, rfl, rfl, hanchor, hactive, ⟨targets, hwalks, hbetween⟩, by decide +kernel⟩

end RangeDescriptor

end Referent
