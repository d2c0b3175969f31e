import Referent.Proofs.Document.Coordinates
import Referent.Proofs.Scope.Made

namespace Referent

lemma ofChar?_of_mem_body {body text : List Char} (hbody : ∀ c ∈ body, LineEnding.ofChar? c = none) :
    ∀ l ∈ splitLinesFrom body text, ∀ c ∈ l.body, LineEnding.ofChar? c = none := by
  fun_induction splitLinesFrom body text with
  | case1 body => simpa using hbody
  | case2 body rest ih => simpa using ⟨hbody, ih (by simp)⟩
  | case3 body c rest hcrlf e he ih => simpa using ⟨hbody, ih (by simp)⟩
  | case4 body c rest hcrlf he ih =>
    apply ih
    simpa using ⟨he, hbody⟩

lemma TextLine.chars_eq (l : TextLine) : ∃ ending, l.chars = l.body ++ ending := by
  rw [chars]
  split
  · exact ⟨[], (List.append_nil _).symm⟩
  · exact ⟨_, rfl⟩

lemma Divided.drop_eq_nil {lines : List TextLine} (h : Divided lines) {k : Nat} {l : TextLine}
    (hl : lines[k]? = some l) (hending : l.ending = none) : lines.drop (k + 1) = [] := by
  induction h generalizing k with
  | last body =>
    rw [List.drop_eq_nil_iff]
    exact Nat.succ_le_succ (Nat.zero_le k)
  | next hsome _ ih =>
    cases k with
    | zero =>
      obtain rfl := Option.some.inj hl
      rw [hending] at hsome
      cases hsome
    | succ k => exact ih hl

lemma Divided.ofChar?_behind {lines : List TextLine} (h : Divided lines) {k : Nat} {l : TextLine}
    (hl : lines[k]? = some l) {c : Char}
    (hc : (l.chars ++ (lines.drop (k + 1)).flatMap TextLine.chars)[l.length]? = some c) :
    LineEnding.ofChar? c ≠ none := by
  cases hending : l.ending with
  | none =>
    simp [h.drop_eq_nil hl hending, TextLine.chars, hending, TextLine.length] at hc
  | some e =>
    have hfirst : e.chars.head? = some c := by
      simp only [TextLine.chars, hending, TextLine.length] at hc
      rw [List.append_assoc, List.getElem?_append_right (Nat.le_refl _), Nat.sub_self] at hc
      cases e <;> simpa [LineEnding.chars] using hc
    cases e <;> (obtain rfl := Option.some.inj hfirst; decide)

lemma LineEnding.not_crlf_suffix {body : List Char} (hbody : ∀ c ∈ body, ofChar? c = none) (c : Char) :
    ¬['\r', '\n'] <:+ body ++ [c] := by
  rintro ⟨before, h⟩
  have hsplit : (before ++ ['\r']) ++ ['\n'] = body ++ [c] := by rw [← h, List.append_assoc]; rfl
  obtain ⟨rfl, -⟩ := List.append_inj' hsplit rfl
  cases hbody '\r' (by simp)

lemma TextLine.ofChars?_chars (l : TextLine) (hbody : ∀ c ∈ l.body, LineEnding.ofChar? c = none) :
    LineEnding.ofChars? l.chars = l.ending := by
  cases hending : l.ending with
  | none =>
    have hnot : ¬['\r', '\n'] <:+ l.body := fun h => by cases hbody '\n' (h.subset (by simp))
    rw [chars, hending, LineEnding.ofChars?, if_neg (mt List.isSuffixOf_iff_suffix.mp hnot)]
    cases hlast : l.body.getLast? with
    | none => rfl
    | some c => exact hbody c (List.mem_of_getLast? hlast)
  | some e =>
    have hsingle (c : Char) (hc : LineEnding.ofChar? c = some e) :
        LineEnding.ofChars? (l.body ++ [c]) = some e := by
      have hnot := LineEnding.not_crlf_suffix hbody c
      rw [LineEnding.ofChars?, if_neg (mt List.isSuffixOf_iff_suffix.mp hnot), List.getLast?_concat]
      exact hc
    rw [chars, hending]
    cases e with
    | crlf => exact if_pos (List.isSuffixOf_iff_suffix.mpr (List.suffix_append _ _))
    | _ => exact hsingle _ rfl

namespace Document

variable {d : Document} {r : Range}

lemma ofChar?_of_mem_lines {l : TextLine} (hl : l ∈ d.lines) {c : Char} (h : c ∈ l.body) :
    LineEnding.ofChar? c = none := by
  rw [d.lines_eq, splitLines] at hl
  exact ofChar?_of_mem_body (by simp) l hl c h

lemma ofChar?_of_mem_textLine {line : Nat} {c : Char} (h : c ∈ (d.textLine line).body) :
    LineEnding.ofChar? c = none := by
  unfold textLine at h
  cases hl : d.lines[min line d.lastLine]? with
  | none => simp [hl] at h
  | some l =>
    exact ofChar?_of_mem_lines (List.mem_of_getElem? hl) (by simpa [hl] using h)

theorem ofChars?_of_mem_lines {l : TextLine} (hl : l ∈ d.lines) :
    LineEnding.ofChars? l.chars = l.ending := l.ofChars?_chars fun _ => ofChar?_of_mem_lines hl

theorem lineEnd_eq {line : Nat} (h : line < d.lineCount) :
    d.lineEnd line = d.lineStart line + d.lineLength line := by
  have hl := List.getElem?_eq_getElem h
  have hending := ofChars?_of_mem_lines (List.mem_of_getElem? hl)
  have hwidth := (d.lines[line]).length_chars
  rw [lineEnd, lineLength, textLine_eq hl, LineEnding.lengthBefore, hending, hwidth, TextLine.width,
    TextLine.breakLength]
  cases (d.lines[line]).ending with
  | none => rfl
  | some e => exact congrArg _ (Nat.add_sub_cancel _ _)

lemma flatMap_lines (d : Document) : d.lines.flatMap TextLine.chars = d.text := by
  rw [d.lines_eq, splitLines, flatMap_splitLinesFrom]
  rfl

lemma text_eq_append (d : Document) (line : Nat) :
    d.text = (d.lines.take line).flatMap TextLine.chars ++ (d.lines.drop line).flatMap TextLine.chars ∧
      ((d.lines.take line).flatMap TextLine.chars).length = d.lineStart line := by
  rw [← List.flatMap_append, List.take_append_drop, flatMap_lines, length_flatMap_chars, lineStart_eq]
  exact ⟨rfl, rfl⟩

lemma text_take_lineStart (d : Document) (line : Nat) :
    d.text.take (d.lineStart line) = (d.lines.take line).flatMap TextLine.chars := by
  obtain ⟨htext, hlength⟩ := d.text_eq_append line
  rw [← hlength, htext, List.take_left]

lemma text_drop_lineStart (d : Document) (line : Nat) :
    d.text.drop (d.lineStart line) = (d.lines.drop line).flatMap TextLine.chars := by
  obtain ⟨htext, hlength⟩ := d.text_eq_append line
  rw [← hlength, htext, List.drop_left]

lemma drop_lineStart (d : Document) {line : Nat} {l : TextLine} (h : d.lines[line]? = some l) :
    d.text.drop (d.lineStart line) =
      l.chars ++ (d.lines.drop (line + 1)).flatMap TextLine.chars := by
  obtain ⟨hlt, rfl⟩ := List.getElem?_eq_some_iff.mp h
  rw [text_drop_lineStart, List.drop_eq_getElem_cons hlt, List.flatMap_cons]

lemma text_take_lineStop {line : Nat} {l : TextLine} (h : d.lines[line]? = some l) :
    d.text.take (d.offsetAt ⟨line, d.lineLength line⟩) =
      (d.lines.take line).flatMap TextLine.chars ++ l.body := by
  have hlt := (List.getElem?_eq_some_iff.mp h).1
  obtain ⟨ending, hending⟩ := l.chars_eq
  rw [offsetAt_of_has (has_lineStop hlt), List.take_add, text_take_lineStart, drop_lineStart d h, lineLength,
    textLine_eq h, hending, TextLine.length, List.append_assoc]
  dsimp only
  rw [List.take_left]

lemma textIn_of_holdsLine (h : d.HoldsLine r) :
    d.textIn r = ((d.textLine r.start.line).body.drop r.start.character).take
      (r.stop.character - r.start.character) := by
  obtain ⟨⟨hstart, hstop⟩, hsingle⟩ := h
  have hline : r.stop.line = r.start.line := (beq_iff_eq.mp hsingle).symm
  obtain ⟨l, hl⟩ : ∃ l, d.lines[r.start.line]? = some l := ⟨_, List.getElem?_eq_getElem hstart.1⟩
  have hrest := d.drop_lineStart hl
  obtain ⟨ending, hending⟩ := l.chars_eq
  have hlength : r.start.character ≤ l.body.length ∧ r.stop.character ≤ l.body.length := by
    have hboth := And.intro hstart.2 hstop.2
    rwa [hline, lineLength, textLine_eq hl] at hboth
  have hle := Position.le_def.mp r.start_le_stop
  rw [hending, List.append_assoc] at hrest
  rw [textIn, offsetAt_of_has hstart, offsetAt_of_has hstop, hline, textLine_eq hl, ← List.drop_drop,
    hrest, List.drop_append_of_le_length hlength.1, Nat.add_sub_add_left]
  apply List.take_append_of_le_length
  rw [List.length_drop]
  omega

lemma ofChar?_of_mem_textIn (h : d.HoldsLine r) {c : Char} (hc : c ∈ d.textIn r) :
    LineEnding.ofChar? c = none := by
  rw [textIn_of_holdsLine h] at hc
  exact ofChar?_of_mem_textLine (List.mem_of_mem_drop (List.mem_of_mem_take hc))

lemma has_next {p : Position} (h : d.Has p) {c : Char} (hc : d.text[d.offsetAt p]? = some c)
    (hplain : LineEnding.ofChar? c = none) :
    d.Has ⟨p.line, p.character + 1⟩ ∧
      d.offsetAt ⟨p.line, p.character + 1⟩ = d.offsetAt p + 1 := by
  obtain ⟨l, hl⟩ : ∃ l, d.lines[p.line]? = some l := ⟨_, List.getElem?_eq_getElem h.1⟩
  have hle := h.2
  rw [offsetAt_of_has h, ← List.getElem?_drop, d.drop_lineStart hl] at hc
  have hlt : p.character ≠ d.lineLength p.line := by
    intro heq
    rw [heq, lineLength, textLine_eq hl] at hc
    exact d.divided_lines.ofChar?_behind hl hc hplain
  have hnext : d.Has ⟨p.line, p.character + 1⟩ := ⟨h.1, Nat.lt_of_le_of_ne hle hlt⟩
  exact ⟨hnext, by rw [offsetAt_of_has hnext, offsetAt_of_has h, Nat.add_assoc]⟩

lemma le_positionAt {p : Position} {offset : Nat} {c : Char} (hc : d.text[offset]? = some c)
    (hplain : LineEnding.ofChar? c = none) (hle : d.offsetAt p ≤ offset) : p ≤ d.positionAt offset := by
  have hplace : d.offsetAt (d.positionAt offset) = offset := by
    apply offsetAt_positionAt
    · exact Nat.le_of_lt (List.getElem?_eq_some_iff.mp hc).1
    · intro hin
      obtain rfl := Option.some.inj (hin.2.2.symm.trans hc)
      cases hplain
  obtain ⟨_, hnext⟩ := has_next (d.has_positionAt offset) (by rwa [hplace]) hplain
  apply Position.not_lt.mp
  intro hlt
  have hbeyond : (⟨(d.positionAt offset).line, (d.positionAt offset).character + 1⟩ : Position) ≤ p :=
    Position.le_def.mpr (by
      rcases Position.lt_def.mp hlt with hline | ⟨hline, hcharacter⟩
      · exact .inl hline
      · exact .inr ⟨hline, hcharacter⟩)
  have hmono := d.offsetAt_mono hbeyond
  omega

lemma has_beyond {p : Position} (h : d.Has p) {n : Nat}
    (hplain : ∀ k < n, ∃ c, d.text[d.offsetAt p + k]? = some c ∧ LineEnding.ofChar? c = none) :
    d.Has ⟨p.line, p.character + n⟩ ∧ d.offsetAt ⟨p.line, p.character + n⟩ = d.offsetAt p + n := by
  induction n with
  | zero => exact ⟨h, rfl⟩
  | succ n ih =>
    obtain ⟨hhas, hoffset⟩ := ih fun k hk => hplain k (Nat.lt_succ_of_lt hk)
    obtain ⟨c, hc, hends⟩ := hplain n (Nat.lt_succ_self n)
    obtain ⟨hhas', hoffset'⟩ := has_next hhas (hoffset ▸ hc) hends
    exact ⟨hhas', by rw [← Nat.add_assoc, hoffset', hoffset, Nat.add_assoc]⟩

end Document

end Referent
