import Mathlib.Algebra.GroupWithZero.Nat
import Mathlib.Tactic.Common
import Referent.Proofs.Document.Places

/-! Offsets and positions of a document. Every position has an offset of its own, and positions stand
in the order of their offsets. Every offset has a position that leads back to it, except the one in
the middle of a CRLF, which leads to the one before. -/

namespace Referent

lemma LineEnding.chars_of_ofChar? {c : Char} {e : LineEnding} (h : ofChar? c = some e) :
    e.chars = [c] := by
  have hc {n : Nat} (hn : c.toNat = n) : c = Char.ofNat n := by rw [← hn, Char.ofNat_toNat]
  unfold ofChar? at h
  split at h
  all_goals
    first
      | cases h
        rw [hc ‹_›]
        rfl
      | cases h

lemma LineEnding.length_pos (e : LineEnding) : 0 < e.length := by cases e <;> decide

namespace TextLine

lemma length_chars (l : TextLine) : l.chars.length = l.width := by
  unfold chars width breakLength
  split
  · simp [length, *]
  · simp [length, LineEnding.length_chars, *]

lemma length_le_width (l : TextLine) : l.length ≤ l.width := Nat.le_add_right _ _

lemma length_lt_width {l : TextLine} (h : l.ending.isSome = true) : l.length < l.width := by
  obtain ⟨e, he⟩ := Option.isSome_iff_exists.mp h
  have hpos := e.length_pos
  simp only [width, breakLength, he]
  omega

lemma crlf_of_inside {l : TextLine} {k : Nat} (hk : l.length < k) (hw : k < l.width) :
    k = l.length + 1 ∧ l.chars[l.length]? = some '\r' ∧ l.chars[k]? = some '\n' := by
  unfold width breakLength at hw
  cases he : l.ending with
  | none =>
    rw [he] at hw
    dsimp only at hw
    omega
  | some e =>
    rw [he] at hw
    cases e with
    | crlf =>
      obtain rfl : k = l.length + 1 := by
        simp only [LineEnding.length] at hw
        omega
      refine ⟨rfl, ?_, ?_⟩
      · simp [chars, he, length, LineEnding.chars]
      · simp [chars, he, length, LineEnding.chars]
    | _ =>
      simp only [LineEnding.length] at hw
      omega

end TextLine

lemma flatMap_splitLinesFrom (body text : List Char) :
    (splitLinesFrom body text).flatMap TextLine.chars = body.reverse ++ text := by
  fun_induction splitLinesFrom body text with
  | case1 body => simp [TextLine.chars]
  | case2 body rest ih => simp [TextLine.chars, LineEnding.chars, ih]
  | case3 body c rest hcrlf e he ih =>
    simp [TextLine.chars, LineEnding.chars_of_ofChar? he, ih]
  | case4 body c rest hcrlf he ih => simp [ih]

/-- Lines into which a text is divided: all but the last one have an ending. -/
inductive Divided : List TextLine → Prop
  | last (body : List Char) : Divided [⟨body, none⟩]
  | next {l : TextLine} {rest : List TextLine} :
    l.ending.isSome = true → Divided rest → Divided (l :: rest)

lemma Divided.ne_nil {lines : List TextLine} (h : Divided lines) : lines ≠ [] := by
  cases h with
  | last body => simp
  | next _ _ => simp

lemma divided_splitLinesFrom (body text : List Char) : Divided (splitLinesFrom body text) := by
  fun_induction splitLinesFrom body text with
  | case1 body => exact .last _
  | case2 body rest ih => exact .next rfl ih
  | case3 body c rest hcrlf e he ih => exact .next rfl ih
  | case4 body c rest hcrlf he ih => exact ih

def widthOf (lines : List TextLine) : Nat := (lines.map TextLine.width).sum

@[simp] lemma widthOf_nil : widthOf [] = 0 := rfl

@[simp] lemma widthOf_cons (l : TextLine) (lines : List TextLine) :
    widthOf (l :: lines) = l.width + widthOf lines := by simp [widthOf]

lemma length_flatMap_chars (lines : List TextLine) :
    (lines.flatMap TextLine.chars).length = widthOf lines := by
  induction lines with
  | nil => rfl
  | cons l rest ih => simp [ih, TextLine.length_chars]

lemma widthOf_take_le {lines : List TextLine} {k : Nat} {l : TextLine} (h : lines[k]? = some l) :
    widthOf (lines.take k) + l.width ≤ widthOf lines := by
  induction lines generalizing k with
  | nil => simp at h
  | cons m rest ih =>
    cases k with
    | zero =>
      obtain rfl : m = l := by simpa using h
      simp
    | succ k =>
      have hrest := ih (k := k) (by simpa using h)
      simp only [List.take_succ_cons, widthOf_cons]
      omega

namespace Document

lemma foldl_width (lines : List TextLine) (offset : Nat) :
    lines.foldl (fun offset l => offset + l.width) offset = offset + widthOf lines := by
  induction lines generalizing offset with
  | nil => rfl
  | cons l rest ih =>
    rw [List.foldl_cons, ih, widthOf_cons]
    omega

lemma lineStart_eq (d : Document) (line : Nat) : d.lineStart line = widthOf (d.lines.take line) := by
  rw [lineStart, foldl_width, Nat.zero_add]

lemma widthOf_lines (d : Document) : widthOf d.lines = d.length := by
  rw [← length_flatMap_chars, d.lines_eq, splitLines, flatMap_splitLinesFrom]
  rfl

lemma divided_lines (d : Document) : Divided d.lines := by
  rw [d.lines_eq]
  exact divided_splitLinesFrom [] d.text

lemma locate_cons (l : TextLine) {rest : List TextLine} (h : rest ≠ []) (line offset : Nat) :
    locate line (l :: rest) offset =
      if offset < l.width then ⟨line, min offset l.length⟩
      else locate (line + 1) rest (offset - l.width) := by
  rw [locate]
  exact fun hnil => h hnil

lemma locate_widthOf {lines : List TextLine} (h : Divided lines) {k character : Nat} {l : TextLine}
    (hl : lines[k]? = some l) (hc : character ≤ l.length ∨ character < l.width) (line : Nat) :
    locate line lines (widthOf (lines.take k) + character) =
      ⟨line + k, min character l.length⟩ := by
  induction h generalizing k line with
  | last body =>
    obtain ⟨rfl, rfl⟩ : k = 0 ∧ ⟨body, none⟩ = l := by
      cases k with
      | zero => simpa using hl
      | succ k => simp at hl
    simp [locate]
  | @next m rest hended hrest ih =>
    rw [locate_cons m hrest.ne_nil]
    cases k with
    | zero =>
      obtain rfl : m = l := by simpa using hl
      have hw := TextLine.length_lt_width hended
      have hin : character < m.width := by omega
      simp [hin]
    | succ k =>
      have hout : ¬m.width + widthOf (rest.take k) + character < m.width := by omega
      have hsub : m.width + widthOf (rest.take k) + character - m.width =
          widthOf (rest.take k) + character := by omega
      rw [List.take_succ_cons, widthOf_cons, if_neg hout, hsub, ih (by simpa using hl),
        Position.mk.injEq]
      exact ⟨by omega, rfl⟩

lemma positionAt_offsetAt {d : Document} {p : Position} (h : d.Has p) :
    d.positionAt (d.offsetAt p) = p := by
  obtain ⟨l, hl⟩ : ∃ l, d.lines[p.line]? = some l := ⟨_, List.getElem?_eq_getElem h.1⟩
  have hc := h.2
  rw [lineLength, textLine_eq hl] at hc
  rw [offsetAt_of_has h, lineStart_eq, positionAt, locate_widthOf d.divided_lines hl (.inl hc),
    Nat.zero_add, Nat.min_eq_left hc]

/-- Whether an offset of a text is in the middle of a CRLF. -/
def InsideBreak (text : List Char) (offset : Nat) : Prop :=
  0 < offset ∧ text[offset - 1]? = some '\r' ∧ text[offset]? = some '\n'

lemma insideBreak_append_left {text : List Char} {offset : Nat} (h : InsideBreak text offset)
    (before : List Char) : InsideBreak (before ++ text) (before.length + offset) := by
  obtain ⟨hpos, hcr, hlf⟩ := h
  refine ⟨by omega, ?_, ?_⟩
  · rw [Nat.add_sub_assoc hpos, List.getElem?_append_right (Nat.le_add_right _ _),
      Nat.add_sub_cancel_left, hcr]
  · rw [List.getElem?_append_right (Nat.le_add_right _ _), Nat.add_sub_cancel_left, hlf]

lemma insideBreak_append_right {text : List Char} {offset : Nat} (h : InsideBreak text offset)
    (after : List Char) : InsideBreak (text ++ after) offset := by
  obtain ⟨hpos, hcr, hlf⟩ := h
  have hlt := (List.getElem?_eq_some_iff.mp hlf).1
  refine ⟨hpos, ?_, ?_⟩
  · rw [List.getElem?_append_left (by omega), hcr]
  · rw [List.getElem?_append_left hlt, hlf]

lemma min_length_cases {l : TextLine} {offset : Nat} (h : offset < l.width) :
    min offset l.length = offset ∨
      min offset l.length + 1 = offset ∧ InsideBreak l.chars offset := by
  by_cases hin : offset ≤ l.length
  · exact .inl (Nat.min_eq_left hin)
  · obtain ⟨heq, hcr, hlf⟩ := TextLine.crlf_of_inside (Nat.not_le.mp hin) h
    refine .inr ⟨by omega, by omega, ?_, hlf⟩
    rw [heq, Nat.add_sub_cancel, hcr]

lemma widthOf_locate {lines : List TextLine} (h : Divided lines) {offset : Nat}
    (ho : offset ≤ widthOf lines) (line : Nat) :
    ∃ k character, locate line lines offset = ⟨line + k, character⟩ ∧
      (widthOf (lines.take k) + character = offset ∨
        widthOf (lines.take k) + character + 1 = offset ∧
          InsideBreak (lines.flatMap TextLine.chars) offset) := by
  induction h generalizing offset line with
  | last body =>
    refine ⟨0, offset, ?_, .inl (by simp)⟩
    have hlength : offset ≤ body.length := by
      simpa [TextLine.width, TextLine.breakLength, TextLine.length] using ho
    simp [locate, TextLine.length, hlength]
  | @next l rest hended hrest ih =>
    rw [locate_cons l hrest.ne_nil, List.flatMap_cons]
    by_cases hw : offset < l.width
    · refine ⟨0, min offset l.length, by rw [if_pos hw, Nat.add_zero], ?_⟩
      rw [List.take_zero, widthOf_nil, Nat.zero_add]
      exact (min_length_cases hw).imp_right fun hcr =>
        ⟨hcr.1, insideBreak_append_right hcr.2 _⟩
    · rw [widthOf_cons] at ho
      have hbeyond : offset - l.width ≤ widthOf rest := by omega
      obtain ⟨k, character, hlocate, hoffset⟩ := ih hbeyond (line + 1)
      refine ⟨k + 1, character, by rw [if_neg hw, hlocate]; congr 1; omega, ?_⟩
      rw [List.take_succ_cons, widthOf_cons]
      refine hoffset.imp (fun heq => by omega) fun hcr => ⟨by omega, ?_⟩
      have hinside := insideBreak_append_left hcr.2 l.chars
      rwa [TextLine.length_chars, Nat.add_sub_cancel' (Nat.not_lt.mp hw)] at hinside

lemma offsetAt_positionAt_cases {d : Document} {offset : Nat} (h : offset ≤ d.length) :
    d.offsetAt (d.positionAt offset) = offset ∨
      d.offsetAt (d.positionAt offset) + 1 = offset ∧ InsideBreak d.text offset := by
  rw [← widthOf_lines] at h
  obtain ⟨k, character, hlocate, hoffset⟩ := widthOf_locate d.divided_lines h 0
  rw [offsetAt_of_has (d.has_positionAt offset), positionAt, hlocate, lineStart_eq, Nat.zero_add]
  rwa [d.lines_eq, splitLines, flatMap_splitLinesFrom, ← splitLines, ← d.lines_eq] at hoffset

lemma offsetAt_positionAt {d : Document} {offset : Nat} (h : offset ≤ d.length)
    (hin : ¬InsideBreak d.text offset) : d.offsetAt (d.positionAt offset) = offset :=
  (offsetAt_positionAt_cases h).resolve_right fun hcr => hin hcr.2

lemma offsetAt_le_iff {d : Document} {p q : Position} (hp : d.Has p) (hq : d.Has q) :
    d.offsetAt p ≤ d.offsetAt q ↔ p ≤ q := by
  constructor
  · intro h
    have hmono := d.positionAt_mono h
    rwa [positionAt_offsetAt hp, positionAt_offsetAt hq] at hmono
  · intro h
    by_contra hlt
    have hmono := d.positionAt_mono (Nat.le_of_not_le hlt)
    rw [positionAt_offsetAt hp, positionAt_offsetAt hq] at hmono
    exact hlt (Nat.le_of_eq (congrArg d.offsetAt (Position.le_antisymm h hmono)))

lemma offsetAt_inj {d : Document} {p q : Position} (hp : d.Has p) (hq : d.Has q)
    (h : d.offsetAt p = d.offsetAt q) : p = q := by
  rw [← positionAt_offsetAt hp, h, positionAt_offsetAt hq]

lemma positionAt_lt {d : Document} {a b : Nat} (hab : a < b) (hb : b ≤ d.length)
    (ha : d.text[a]? ≠ some '\r') : d.positionAt a < d.positionAt b := by
  apply Position.not_le.mp
  intro hle
  have heq := congrArg d.offsetAt (Position.le_antisymm hle (d.positionAt_mono (Nat.le_of_lt hab)))
  rcases offsetAt_positionAt_cases (Nat.le_trans (Nat.le_of_lt hab) hb) with hsame | ⟨hsame, _⟩
  · rcases offsetAt_positionAt_cases hb with hsame' | ⟨hsame', hin⟩
    · omega
    · have hpred : b - 1 = a := by omega
      exact ha (hpred ▸ hin.2.1)
  · rcases offsetAt_positionAt_cases hb with hsame' | ⟨hsame', _⟩
    · omega
    · omega

lemma offsetAt_le_length {d : Document} {p : Position} (h : d.Has p) : d.offsetAt p ≤ d.length := by
  obtain ⟨l, hl⟩ : ∃ l, d.lines[p.line]? = some l := ⟨_, List.getElem?_eq_getElem h.1⟩
  have hc := h.2
  have htake := widthOf_take_le hl
  have hle := TextLine.length_le_width l
  rw [lineLength, textLine_eq hl] at hc
  rw [offsetAt_of_has h, lineStart_eq, ← widthOf_lines]
  omega

lemma start_range (d : Document) : d.range.start = .zero := by
  rw [range, Range.between_of_le (Position.zero_le _)]

lemma stop_range (d : Document) : d.range.stop = ⟨d.lastLine, d.lineLength d.lastLine⟩ := by
  rw [range, Range.between_of_le (Position.zero_le _)]

lemma le_stop_range {d : Document} {p : Position} (h : d.Has p) : p ≤ d.range.stop := by
  have hline := (d.le_lastLine_iff p.line).mpr h.1
  rw [stop_range, Position.le_def]
  rcases Nat.lt_or_eq_of_le hline with hlt | heq
  · exact .inl hlt
  · refine .inr ⟨heq, ?_⟩
    have hc := h.2
    rwa [heq] at hc

lemma offsetAt_start_range (d : Document) : d.offsetAt d.range.start = 0 := by
  rw [start_range, offsetAt_of_has d.has_zero]
  rfl

lemma offsetAt_stop_range (d : Document) : d.offsetAt d.range.stop = d.length := by
  have hhas := d.holds_range.2
  refine Nat.le_antisymm (offsetAt_le_length hhas) ?_
  have hend : ¬InsideBreak d.text d.length := fun h => by
    simpa [Document.length] using h.2.2
  have hle := (offsetAt_le_iff (d.has_positionAt d.length) hhas).mpr
    (le_stop_range (d.has_positionAt d.length))
  rwa [offsetAt_positionAt (Nat.le_refl _) hend] at hle

lemma textIn_range (d : Document) : d.textIn d.range = d.text := by
  rw [textIn, offsetAt_start_range, offsetAt_stop_range]
  simp [Document.length]

end Document

end Referent
