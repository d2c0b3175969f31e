import Mathlib.Data.List.DropRight
import Referent.Proofs.Document.LineTexts

namespace Referent

lemma Divided.ending_eq_none_iff {lines : List TextLine} (h : Divided lines) {k : Nat} {l : TextLine}
    (hl : lines[k]? = some l) : l.ending = none ↔ k + 1 = lines.length := by
  constructor
  · intro hending
    have hlt := (List.getElem?_eq_some_iff.mp hl).1
    have hdrop := List.drop_eq_nil_iff.mp (h.drop_eq_nil hl hending)
    omega
  · intro hk
    induction h generalizing k with
    | last body =>
      obtain rfl : k = 0 := by simpa using hk
      obtain rfl := Option.some.inj hl
      rfl
    | next hsome hrest ih =>
      have hpos := List.length_pos_iff.mpr hrest.ne_nil
      obtain ⟨k, rfl⟩ : ∃ k', k = k' + 1 := ⟨k - 1, by simp at hk; omega⟩
      exact ih hl (by simpa using hk)

/-- Whether the blanks at the two ends of a line are told apart from what is between them. A blank line is
all end. -/
structure Line.Trims (l : Line) (leading content trailing : List Char) : Prop where
  text_eq : l.text = leading ++ content ++ trailing
  isBlank_leading : ∀ c ∈ leading, isHorizontalSpace c = true
  isBlank_trailing : ∀ c ∈ trailing, isHorizontalSpace c = true
  head : ∀ c ∈ content.head?, isHorizontalSpace c = false
  last : ∀ c ∈ content.getLast?, isHorizontalSpace c = false
  blank : content = [] → leading = []
  range : l.trimmedRange = .onLine l.number leading.length (leading.length + content.length)

lemma Line.exists_trims (l : Line) : ∃ leading content trailing, l.Trims leading content trailing := by
  let p := isHorizontalSpace
  set body := l.text.rdropWhile p
  set trailing := l.text.rtakeWhile p
  have htext : body ++ trailing = l.text := List.rdropWhile_append_rtakeWhile ..
  have hbody : body.takeWhile p ++ body.dropWhile p = body := List.takeWhile_append_dropWhile
  have hlength := congrArg List.length hbody
  rw [List.length_append] at hlength
  have hlast (h : body ≠ []) : ¬p (body.getLast h) = true := List.rdropWhile_last_not _ _ h
  have hstop : l.trimmedLength = body.length := by
    have htrailing : (l.text.reverse.takeWhile p).length = trailing.length := List.length_reverse.symm
    have htotal := congrArg List.length htext
    rw [List.length_append] at htotal
    show l.text.length - (l.text.reverse.takeWhile p).length = body.length
    omega
  have hstart : min l.indent l.trimmedLength = (body.takeWhile p).length := by
    rw [hstop, indent, ← htext, List.takeWhile_append]
    split
    · next hall => rw [List.length_append, hall, Nat.min_eq_right (Nat.le_add_right _ _)]
    · exact Nat.min_eq_left (List.takeWhile_prefix _).length_le
  refine ⟨body.takeWhile p, body.dropWhile p, trailing, ?_, ?_, ?_, ?_, ?_, ?_, ?_⟩
  · rw [hbody, htext]
  · exact fun c hc => List.mem_takeWhile_imp hc
  · exact fun c hc => List.mem_rtakeWhile_imp hc
  · intro c hc
    have hnot := List.head?_dropWhile_not p body
    rw [Option.mem_def.mp hc] at hnot
    simpa using hnot
  · intro c hc
    have hne : body.dropWhile p ≠ [] := List.ne_nil_of_mem (List.mem_of_getLast? hc)
    rw [← List.getLast?_append_of_ne_nil (body.takeWhile p) hne, hbody] at hc
    obtain ⟨hbodyne, rfl⟩ := List.mem_getLast?_eq_getLast hc
    exact Bool.eq_false_iff.mpr (hlast hbodyne)
  · intro hnil
    rw [hnil, List.append_nil] at hbody
    rw [hbody]
    by_contra hne
    have hmem : body.getLast hne ∈ body.takeWhile p := by
      rw [hbody]
      exact List.getLast_mem hne
    exact hlast hne (List.mem_takeWhile_imp hmem)
  · rw [trimmedRange, hstart, hstop, hlength]

namespace Document

variable {d : Document}

lemma map_textLine (d : Document) : (List.range d.lineCount).map d.textLine = d.lines := by
  apply List.ext_getElem
  · rw [List.length_map, List.length_range, lineCount]
  · intro i _ hi
    rw [List.getElem_map, List.getElem_range, textLine_eq (List.getElem?_eq_getElem hi)]

lemma lineStart_succ {line : Nat} {l : TextLine} (hl : d.lines[line]? = some l) :
    d.lineStart (line + 1) = d.lineStart line + l.width := by
  obtain ⟨hlt, rfl⟩ := List.getElem?_eq_some_iff.mp hl
  rw [lineStart_eq, lineStart_eq, ← List.take_append_getElem hlt, widthOf, List.map_append, List.sum_append]
  simp [widthOf]

lemma textIn_onLine {line : Nat} {leading content trailing : List Char}
    (hline : (d.textLine line).body = leading ++ content ++ trailing) (hlt : line < d.lineCount) :
    d.textIn (.onLine line leading.length (leading.length + content.length)) = content := by
  have hle := Nat.le_add_right leading.length content.length
  have hlength : leading.length + content.length ≤ d.lineLength line := by
    simp [lineLength, TextLine.length, hline]
  have hholds := holdsLine_onLine hlt (Nat.le_trans hle hlength) hlength
  rw [textIn_of_holdsLine hholds, Range.start_onLine hle, Range.stop_onLine hle, hline, List.append_assoc,
    List.drop_left, Nat.add_sub_cancel_left, List.take_left]

lemma textIn_range_lineAt (d : Document) (line : Nat) :
    d.textIn (d.lineAt line).range = (d.lineAt line).text := by
  have hbody : (d.textLine (d.lineAt line).number).body = [] ++ (d.lineAt line).text ++ [] := by
    rw [List.nil_append, List.append_nil]
    exact congrArg TextLine.body (d.textLine_min line)
  have htext := textIn_onLine hbody (d.number_lineAt_lt line)
  rwa [List.length_nil, Nat.zero_add] at htext

lemma textIn_rangeWithBreak {line : Nat} {l : TextLine} (hl : d.lines[line]? = some l) :
    d.textIn (d.lineAt line).rangeWithBreak = l.chars := by
  have hlt := (List.getElem?_eq_some_iff.mp hl).1
  have hnumber : (d.lineAt line).number = line := number_lineAt hlt
  by_cases hlast : d.lastLine ≤ line
  · have hbreak : (d.lineAt line).rangeWithBreak = (d.lineAt line).range := if_pos (decide_eq_true hlast)
    have hending : l.ending = none :=
      (d.divided_lines.ending_eq_none_iff hl).mpr (by unfold lastLine lineCount at hlast; omega)
    simp only [hbreak, textIn_range_lineAt, TextLine.chars, hending]
    exact congrArg TextLine.body (textLine_eq hl)
  · have hbreak : (d.lineAt line).rangeWithBreak = .between ⟨line, 0⟩ ⟨line + 1, 0⟩ := by
      rw [Line.rangeWithBreak, hnumber]
      exact if_neg (ne_true_of_eq_false (decide_eq_false hlast))
    have hnext : line + 1 < d.lineCount := by unfold lastLine at hlast; omega
    have hle : (⟨line, 0⟩ : Position) ≤ ⟨line + 1, 0⟩ := .inl (Nat.lt_succ_self line)
    rw [hbreak, Range.between_of_le hle, textIn, offsetAt_of_has (has_lineStart hlt),
      offsetAt_of_has (has_lineStart hnext), lineStart_succ hl, Nat.add_zero, Nat.add_zero,
      Nat.add_sub_cancel_left, d.drop_lineStart hl, ← TextLine.length_chars, List.take_left]

/-- The lines of a document, with their breaks, are all of its text. A line itself has no line ending in it, is
what its range covers, and trimming takes off exactly the blanks at its ends. -/
theorem lines_tile (d : Document) :
    (List.range d.lineCount).flatMap (fun line => d.textIn (d.lineAt line).rangeWithBreak) = d.text ∧
      ∀ line, (∀ c ∈ (d.lineAt line).text, isLineEnding c = false) ∧
        d.textIn (d.lineAt line).range = (d.lineAt line).text ∧
        ∃ leading content trailing, (d.lineAt line).Trims leading content trailing ∧
          d.textIn (d.lineAt line).trimmedRange = content := by
  refine ⟨?_, fun line => ⟨fun c hc => ?_, d.textIn_range_lineAt line, ?_⟩⟩
  · have hchars : ∀ line ∈ List.range d.lineCount, d.textIn (d.lineAt line).rangeWithBreak =
        (d.textLine line).chars := by
      intro line hline
      have hl := List.getElem?_eq_getElem (List.mem_range.mp hline)
      rw [textIn_rangeWithBreak hl, textLine_eq hl]
    rw [List.flatMap_congr hchars, ← List.flatMap_map, map_textLine, flatMap_lines]
  · rw [isLineEnding, ofChar?_of_mem_textLine hc]
    rfl
  · obtain ⟨leading, content, trailing, htrims⟩ := (d.lineAt line).exists_trims
    refine ⟨leading, content, trailing, htrims, ?_⟩
    have hbody : (d.textLine (d.lineAt line).number).body = leading ++ content ++ trailing := by
      rw [← htrims.text_eq]
      exact congrArg TextLine.body (d.textLine_min line)
    rw [htrims.range, textIn_onLine hbody (d.number_lineAt_lt line)]

end Document

end Referent
