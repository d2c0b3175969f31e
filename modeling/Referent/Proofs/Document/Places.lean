import Mathlib.Tactic.Common
import Referent.Document
import Referent.Proofs.Ranges

namespace Referent

namespace Document

def Has (d : Document) (p : Position) : Prop :=
  p.line < d.lineCount ∧ p.character ≤ d.lineLength p.line

def Holds (d : Document) (r : Range) : Prop := d.Has r.start ∧ d.Has r.stop

instance (d : Document) (p : Position) : Decidable (d.Has p) :=
  inferInstanceAs (Decidable (p.line < d.lineCount ∧ p.character ≤ d.lineLength p.line))

instance (d : Document) (r : Range) : Decidable (d.Holds r) :=
  inferInstanceAs (Decidable (d.Has r.start ∧ d.Has r.stop))

lemma splitLinesFrom_ne_nil (body text : List Char) : splitLinesFrom body text ≠ [] := by
  induction text generalizing body with
  | nil => simp [splitLinesFrom]
  | cons c rest ih =>
    unfold splitLinesFrom
    split
    · simp
    · simp
    · split
      · simp
      · grind

lemma lines_ne_nil (d : Document) : d.lines ≠ [] := by
  rw [d.lines_eq]
  exact splitLinesFrom_ne_nil [] d.text

lemma lineCount_pos (d : Document) : 0 < d.lineCount :=
  List.length_pos_iff.mpr d.lines_ne_nil

lemma lastLine_lt (d : Document) : d.lastLine < d.lineCount := by
  have h := d.lineCount_pos
  unfold lastLine
  omega

lemma le_lastLine_iff (d : Document) (line : Nat) : line ≤ d.lastLine ↔ line < d.lineCount := by
  have h := d.lineCount_pos
  unfold lastLine
  omega

lemma textLine_eq {d : Document} {line : Nat} {l : TextLine} (h : d.lines[line]? = some l) :
    d.textLine line = l := by
  obtain ⟨hl, rfl⟩ := List.getElem?_eq_some_iff.mp h
  have hlast : min line d.lastLine = line := Nat.min_eq_left ((d.le_lastLine_iff line).mpr hl)
  simp [textLine, hlast, h]

@[simp] lemma length_lineAt (d : Document) (line : Nat) :
    (d.lineAt line).length = d.lineLength line := rfl

lemma number_lineAt_lt (d : Document) (line : Nat) : (d.lineAt line).number < d.lineCount :=
  (d.le_lastLine_iff _).mp (Nat.min_le_right line d.lastLine)

lemma number_lineAt {d : Document} {line : Nat} (h : line < d.lineCount) : (d.lineAt line).number = line :=
  Nat.min_eq_left ((d.le_lastLine_iff line).mpr h)

lemma textLine_min (d : Document) (line : Nat) :
    d.textLine (min line d.lastLine) = d.textLine line := by
  simp [textLine]

lemma lineLength_number (d : Document) (line : Nat) :
    d.lineLength (d.lineAt line).number = d.lineLength line := by
  simp only [lineLength, lineAt, textLine_min]

lemma has_lineStart {d : Document} {line : Nat} (h : line < d.lineCount) : d.Has ⟨line, 0⟩ :=
  ⟨h, Nat.zero_le _⟩

lemma has_lineStop {d : Document} {line : Nat} (h : line < d.lineCount) :
    d.Has ⟨line, d.lineLength line⟩ := ⟨h, Nat.le_refl _⟩

lemma has_zero (d : Document) : d.Has .zero := has_lineStart d.lineCount_pos

lemma has_of_le {d : Document} {line character character' : Nat}
    (h : d.Has ⟨line, character'⟩) (hc : character ≤ character') : d.Has ⟨line, character⟩ :=
  ⟨h.1, Nat.le_trans hc h.2⟩

lemma has_clamp (d : Document) (p : Position) : d.Has (d.clamp p) := by
  unfold clamp
  split
  · exact has_lineStop d.lastLine_lt
  · next h => exact ⟨(d.le_lastLine_iff _).mp (Nat.not_lt.mp h), Nat.min_le_right _ _⟩

lemma clamp_of_has {d : Document} {p : Position} (h : d.Has p) : d.clamp p = p := by
  have hline : ¬d.lastLine < p.line := Nat.not_lt.mpr ((d.le_lastLine_iff _).mpr h.1)
  simp only [clamp, hline, if_false, Nat.min_eq_left h.2]

lemma offsetAt_of_has {d : Document} {p : Position} (h : d.Has p) :
    d.offsetAt p = d.lineStart p.line + p.character := by
  simp only [offsetAt, clamp_of_has h]

lemma holds_point {d : Document} {p : Position} (h : d.Has p) : d.Holds (.point p) := ⟨h, h⟩

lemma holds_between {d : Document} {p q : Position} (hp : d.Has p) (hq : d.Has q) :
    d.Holds (.between p q) := by
  unfold Holds
  rcases Range.between_cases p q with ⟨h₁, h₂⟩ | ⟨h₁, h₂⟩
  · rw [h₁, h₂]
    exact ⟨hp, hq⟩
  · rw [h₁, h₂]
    exact ⟨hq, hp⟩

lemma has_min {d : Document} {p q : Position} (hp : d.Has p) (hq : d.Has q) : d.Has (min p q) := by
  show d.Has (if p ≤ q then p else q)
  split
  · exact hp
  · exact hq

lemma has_max {d : Document} {p q : Position} (hp : d.Has p) (hq : d.Has q) : d.Has (max p q) := by
  show d.Has (if p ≤ q then q else p)
  split
  · exact hq
  · exact hp

lemma holds_union {d : Document} {r s : Range} (hr : d.Holds r) (hs : d.Holds s) :
    d.Holds (r.union s) := ⟨has_min hr.1 hs.1, has_max hr.2 hs.2⟩

lemma holds_range (d : Document) : d.Holds d.range :=
  holds_between d.has_zero (has_lineStop d.lastLine_lt)

lemma holds_fullLines {d : Document} {first last : Nat} (hf : first < d.lineCount)
    (hl : last < d.lineCount) : d.Holds (d.fullLines first last) :=
  holds_between (has_lineStart hf) (has_lineStop hl)

lemma fullLines_ordered (d : Document) {first last : Nat} (h : first ≤ last) :
    (⟨first, 0⟩ : Position) ≤ ⟨last, d.lineLength last⟩ := by
  rw [Position.le_def]
  dsimp only
  omega

lemma start_fullLines (d : Document) {first last : Nat} (h : first ≤ last) :
    (d.fullLines first last).start = ⟨first, 0⟩ := Range.start_between (d.fullLines_ordered h)

lemma stop_fullLines (d : Document) {first last : Nat} (h : first ≤ last) :
    (d.fullLines first last).stop = ⟨last, d.lineLength last⟩ :=
  Range.stop_between (d.fullLines_ordered h)

lemma fullLines_containsRange {d : Document} {r : Range} (h : d.Has r.stop) :
    (d.fullLines r.start.line r.stop.line).containsRange r = true := by
  rw [Range.containsRange_iff, start_fullLines d (r.start_line_le),
    stop_fullLines d (r.start_line_le), Position.le_def, Position.le_def]
  exact ⟨Or.inr ⟨rfl, Nat.zero_le _⟩, Or.inr ⟨rfl, h.2⟩⟩

lemma locate_cases (lines : List TextLine) (line offset : Nat) (h : lines ≠ []) :
    ∃ k l, lines[k]? = some l ∧ (locate line lines offset).line = line + k ∧
      (locate line lines offset).character ≤ l.length := by
  induction lines generalizing line offset with
  | nil => exact absurd rfl h
  | cons l rest ih =>
    cases rest with
    | nil => exact ⟨0, l, rfl, rfl, Nat.min_le_right _ _⟩
    | cons l' rest =>
      by_cases hw : offset < l.width
      · refine ⟨0, l, rfl, ?_, ?_⟩
        · simp [locate, hw]
        · simp only [locate, hw, if_true]
          exact Nat.min_le_right _ _
      · obtain ⟨k, m, hk, hline, hchar⟩ := ih (line + 1) (offset - l.width) (by simp)
        refine ⟨k + 1, m, by simpa using hk, ?_, ?_⟩
        · simp only [locate, hw, if_false, hline]
          omega
        · simpa only [locate, hw, if_false] using hchar

lemma has_positionAt (d : Document) (offset : Nat) : d.Has (d.positionAt offset) := by
  obtain ⟨k, l, hk, hline, hchar⟩ := locate_cases d.lines 0 offset d.lines_ne_nil
  rw [Nat.zero_add] at hline
  refine ⟨?_, ?_⟩
  · show (locate 0 d.lines offset).line < d.lineCount
    rw [hline]
    exact (List.getElem?_eq_some_iff.mp hk).1
  · show (locate 0 d.lines offset).character ≤ d.lineLength (locate 0 d.lines offset).line
    rw [hline, lineLength, textLine_eq hk]
    exact hchar

lemma holds_positions (d : Document) (a b : Nat) :
    d.Holds (.between (d.positionAt a) (d.positionAt b)) :=
  holds_between (d.has_positionAt a) (d.has_positionAt b)

lemma line_le_locate (lines : List TextLine) (line offset : Nat) :
    line ≤ (locate line lines offset).line := by
  by_cases h : lines = []
  · simp [h, locate]
  · obtain ⟨k, _, _, hline, _⟩ := locate_cases lines line offset h
    omega

lemma locate_mono (lines : List TextLine) (line : Nat) {a b : Nat} (h : a ≤ b) :
    locate line lines a ≤ locate line lines b := by
  induction lines generalizing line a b with
  | nil => exact Position.le_refl _
  | cons l rest ih =>
    cases rest with
    | nil =>
      rw [Position.le_def]
      refine Or.inr ⟨rfl, ?_⟩
      simp only [locate]
      omega
    | cons l' rest =>
      by_cases ha : a < l.width
      · by_cases hb : b < l.width
        · rw [Position.le_def]
          refine Or.inr ?_
          simp only [locate, ha, hb, if_true, true_and]
          omega
        · have hline := line_le_locate (l' :: rest) (line + 1) (b - l.width)
          rw [Position.le_def]
          refine Or.inl ?_
          simp only [locate, ha, hb, if_true, if_false]
          omega
      · have hb : ¬b < l.width := by omega
        simp only [locate, ha, hb, if_false]
        exact ih (line + 1) (by omega)

lemma positionAt_mono (d : Document) {a b : Nat} (h : a ≤ b) : d.positionAt a ≤ d.positionAt b :=
  locate_mono d.lines 0 h

lemma indent_le_length (l : Line) : l.indent ≤ l.length :=
  (List.takeWhile_sublist _).length_le

lemma trimmedLength_le_length (l : Line) : l.trimmedLength ≤ l.length := Nat.sub_le _ _

lemma holds_onLine {d : Document} {line a b : Nat} (h : line < d.lineCount)
    (ha : a ≤ d.lineLength line) (hb : b ≤ d.lineLength line) : d.Holds (.onLine line a b) :=
  holds_between ⟨h, ha⟩ ⟨h, hb⟩

lemma has_indent (d : Document) (line : Nat) :
    d.Has ⟨(d.lineAt line).number, (d.lineAt line).indent⟩ := by
  refine ⟨d.number_lineAt_lt line, ?_⟩
  rw [lineLength_number, ← length_lineAt]
  exact indent_le_length _

lemma holds_trimmedRange (d : Document) (line : Nat) : d.Holds (d.lineAt line).trimmedRange := by
  have h := trimmedLength_le_length (d.lineAt line)
  rw [length_lineAt, ← lineLength_number] at h
  exact holds_onLine (d.number_lineAt_lt line) (Nat.le_trans (Nat.min_le_right _ _) h) h

lemma length_textIn_le {d : Document} {r : Range} (h : d.Holds r) (hl : r.isSingleLine = true) :
    (d.textIn r).length ≤ r.stop.character - r.start.character := by
  have hline : r.start.line = r.stop.line := by simpa [Range.isSingleLine] using hl
  have hspan : d.offsetAt r.stop - d.offsetAt r.start = r.stop.character - r.start.character := by
    rw [offsetAt_of_has h.1, offsetAt_of_has h.2, hline]
    omega
  rw [← hspan]
  exact List.length_take_le _ _

lemma mem_linesOf {d : Document} {r : Range} {line : Nat} (h : line ∈ d.linesOf r) :
    line < d.lineCount := by
  have hmem := List.mem_range'_1.mp h
  rw [← d.le_lastLine_iff]
  omega

end Document

end Referent
