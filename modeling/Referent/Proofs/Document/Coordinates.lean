import Referent.Proofs.Document.Offsets

namespace Referent.Document

variable {d : Document}

lemma insideBreak_of_append (before : List Char) {text : List Char} {offset : Nat}
    (h : InsideBreak (before ++ text) offset) (hlt : before.length < offset) :
    InsideBreak text (offset - before.length) := by
  obtain ⟨hpos, hcr, hlf⟩ := h
  rw [List.getElem?_append_right (by omega)] at hcr hlf
  refine ⟨by omega, ?_, hlf⟩
  rwa [Nat.sub_right_comm]

lemma InsideBreak.lt_length {text : List Char} {offset : Nat} (h : InsideBreak text offset) :
    offset < text.length := (List.getElem?_eq_some_iff.mp h.2.2).1

lemma insideBreak_behind {body text : List Char} {offset : Nat}
    (hbody : ∀ c ∈ body, LineEnding.ofChar? c = none)
    (h : InsideBreak (body.reverse ++ text) offset) :
    body.length < offset ∧ InsideBreak text (offset - body.length) := by
  have hbehind : body.reverse.length < offset := by
    by_contra hle
    have hpos := h.1
    have hcr := h.2.1
    rw [List.getElem?_append_left (by omega)] at hcr
    have hmem := List.mem_reverse.mp (List.mem_of_getElem? hcr)
    exact absurd (hbody _ hmem) (by decide)
  have htext := insideBreak_of_append _ h hbehind
  rw [List.length_reverse] at hbehind htext
  exact ⟨hbehind, htext⟩

lemma exists_crlf_of_insideBreak {body text : List Char} {offset : Nat}
    (hbody : ∀ c ∈ body, LineEnding.ofChar? c = none)
    (h : InsideBreak (body.reverse ++ text) offset) :
    ∃ k l, (splitLinesFrom body text)[k]? = some l ∧ l.ending = some .crlf ∧
      widthOf ((splitLinesFrom body text).take k) + l.length + 1 = offset := by
  fun_induction splitLinesFrom body text generalizing offset with
  | case1 body => simpa [InsideBreak] using (insideBreak_behind hbody h).2
  | case2 body rest ih =>
    obtain ⟨hbehind, hcr⟩ := insideBreak_behind hbody h
    by_cases hfirst : offset = body.length + 1
    · exact ⟨0, ⟨body.reverse, some .crlf⟩, rfl, rfl, by simp [TextLine.length, hfirst]⟩
    · have hsecond : offset - body.length ≠ 2 := by
        intro htwo
        simp [InsideBreak, htwo] at hcr
      have hrest := insideBreak_of_append ['\r', '\n'] hcr (by simp; omega)
      obtain ⟨k, l, hl, hending, hoffset⟩ := ih (by simp) hrest
      refine ⟨k + 1, l, by simpa using hl, hending, ?_⟩
      simp [TextLine.width, TextLine.length, TextLine.breakLength, LineEnding.length] at hoffset ⊢
      omega
  | case3 body c rest hcrlf e he ih =>
    obtain ⟨hbehind, hcr⟩ := insideBreak_behind hbody h
    have hsecond : offset - body.length ≠ 1 := by
      intro hone
      rw [hone] at hcr
      obtain ⟨_, hc, hlf⟩ := hcr
      obtain ⟨rest', rfl⟩ : ∃ rest', rest = '\n' :: rest' := by
        cases rest with
        | nil => simp at hlf
        | cons c' rest' => exact ⟨rest', by simpa using hlf⟩
      exact hcrlf rest' (by simpa using hc) rfl
    have hrest := insideBreak_of_append [c] hcr (by simp; omega)
    obtain ⟨k, l, hl, hending, hoffset⟩ := ih (by simp) hrest
    have hlength := e.length_chars
    rw [LineEnding.chars_of_ofChar? he] at hlength
    refine ⟨k + 1, l, by simpa using hl, hending, ?_⟩
    simp [TextLine.width, TextLine.length, TextLine.breakLength, ← hlength] at hoffset ⊢
    omega
  | case4 body c rest hcrlf he ih =>
    apply ih
    · intro c' hc'
      rcases List.mem_cons.mp hc' with rfl | hc'
      · exact he
      · exact hbody c' hc'
    · simpa using h

lemma positionAt_insideBreak {offset : Nat} (h : InsideBreak d.text offset) :
    d.offsetAt (d.positionAt offset) = offset - 1 := by
  obtain ⟨k, l, hl, hending, hoffset⟩ := @exists_crlf_of_insideBreak [] _ _ (by simp) h
  rw [← splitLines, ← d.lines_eq] at hl hoffset
  have hwidth : l.length + 1 < l.width := by
    simp [TextLine.width, TextLine.breakLength, hending, LineEnding.length]
  have hposition : d.positionAt offset = ⟨k, l.length⟩ := by
    rw [positionAt, ← hoffset, Nat.add_assoc, locate_widthOf d.divided_lines hl (.inr hwidth)]
    simp
  have hhas : d.Has ⟨k, l.length⟩ := hposition ▸ d.has_positionAt offset
  rw [hposition, offsetAt_of_has hhas, lineStart_eq]
  dsimp only
  omega

lemma locate_beyond {lines : List TextLine} (h : Divided lines) {offset : Nat}
    (ho : widthOf lines ≤ offset) (line : Nat) :
    locate line lines offset = locate line lines (widthOf lines) := by
  induction h generalizing line offset with
  | last body =>
    simp [TextLine.width, TextLine.breakLength] at ho
    simp [locate, TextLine.width, TextLine.breakLength, ho]
  | @next l rest hended hrest ih =>
    rw [widthOf_cons] at ho ⊢
    rw [locate_cons l hrest.ne_nil, locate_cons l hrest.ne_nil, if_neg (by omega),
      if_neg (by omega), Nat.add_sub_cancel_left]
    exact ih (by omega) (line + 1)

lemma positionAt_beyond {offset : Nat} (h : d.length ≤ offset) :
    d.positionAt offset = d.positionAt d.length := by
  rw [← widthOf_lines] at h ⊢
  exact locate_beyond d.divided_lines h 0

lemma clamp_mono {p q : Position} (h : p ≤ q) : d.clamp p ≤ d.clamp q := by
  rw [Position.le_def] at h
  by_cases hq : d.lastLine < q.line
  · have hstop := le_stop_range (d.has_clamp p)
    rw [stop_range] at hstop
    rwa [clamp, clamp, if_pos hq, ← clamp]
  · have hp : ¬d.lastLine < p.line := by omega
    rw [clamp, clamp, if_neg hp, if_neg hq, Position.le_def]
    dsimp only
    rcases h with hlt | ⟨heq, hle⟩
    · exact .inl hlt
    · refine .inr ⟨heq, ?_⟩
      rw [heq]
      omega

lemma offsetAt_clamp (d : Document) (p : Position) : d.offsetAt (d.clamp p) = d.offsetAt p := by
  rw [offsetAt, clamp_of_has (d.has_clamp p), offsetAt]

lemma offsetAt_mono {p q : Position} (h : p ≤ q) : d.offsetAt p ≤ d.offsetAt q := by
  rw [← offsetAt_clamp, ← d.offsetAt_clamp q]
  exact (offsetAt_le_iff (d.has_clamp p) (d.has_clamp q)).mpr (clamp_mono h)

lemma offsetAt_le (p : Position) : d.offsetAt p ≤ d.length := by
  rw [← offsetAt_clamp]
  exact offsetAt_le_length (d.has_clamp p)

def without (d : Document) (r : Range) : List Char :=
  d.text.take (d.offsetAt r.start) ++ d.text.drop (d.offsetAt r.stop)

lemma offsetAt_positionAt_le (d : Document) (offset : Nat) :
    d.offsetAt (d.positionAt offset) ≤ offset := by
  rcases Nat.le_total offset d.length with hin | hbeyond
  · rcases offsetAt_positionAt_cases hin with heq | ⟨heq, _⟩
    · exact Nat.le_of_eq heq
    · omega
  · exact Nat.le_trans (d.offsetAt_le _) hbeyond

lemma offsetAt_start_between_le (d : Document) (a b : Nat) :
    d.offsetAt (Range.between (d.positionAt a) (d.positionAt b)).start ≤ a := by
  rw [Range.between]
  split
  · exact d.offsetAt_positionAt_le a
  · next hlt =>
    exact Nat.le_trans (offsetAt_mono (Position.le_of_not_le hlt)) (d.offsetAt_positionAt_le a)

lemma clamp_le (p : Position) : d.clamp p ≤ p := by
  rw [clamp, Position.le_def]
  split
  · exact .inl ‹_›
  · exact .inr ⟨rfl, Nat.min_le_left _ _⟩

lemma positionAt_offsetAt_le (p : Position) : d.positionAt (d.offsetAt p) ≤ p := by
  rw [← offsetAt_clamp, positionAt_offsetAt (d.has_clamp p)]
  exact clamp_le p

/-- Positions and offsets, also those that the document does not have, stand in the same order, and each
leads to the nearest place there is: only the middle of a CRLF is a place that has no position. So what a
range covers is always a part of the text. -/
theorem coordinates_correspond (d : Document) :
    (∀ p, d.positionAt (d.offsetAt p) = d.clamp p) ∧
      (∀ offset, (InsideBreak d.text offset → d.offsetAt (d.positionAt offset) = offset - 1) ∧
        (¬InsideBreak d.text offset →
          d.offsetAt (d.positionAt offset) = min offset d.length)) ∧
      (∀ p q, p ≤ q → d.offsetAt p ≤ d.offsetAt q) ∧
      (∀ a b, a ≤ b → d.positionAt a ≤ d.positionAt b) ∧
      ∀ r : Range, d.offsetAt r.start ≤ d.offsetAt r.stop ∧ d.offsetAt r.stop ≤ d.length := by
  refine ⟨fun p => ?_, fun offset => ⟨positionAt_insideBreak, fun hin => ?_⟩,
    fun p q => offsetAt_mono, fun a b => d.positionAt_mono, fun r => ⟨?_, ?_⟩⟩
  · rw [← offsetAt_clamp, positionAt_offsetAt (d.has_clamp p)]
  · rcases Nat.le_total offset d.length with hle | hbeyond
    · rw [offsetAt_positionAt hle hin, Nat.min_eq_left hle]
    · have hend : ¬InsideBreak d.text d.length := fun h => Nat.lt_irrefl _ h.lt_length
      rw [positionAt_beyond hbeyond, offsetAt_positionAt (Nat.le_refl _) hend,
        Nat.min_eq_right hbeyond]
  · exact offsetAt_mono r.start_le_stop
  · rw [← offsetAt_clamp]
    exact offsetAt_le_length (d.has_clamp r.stop)

def twoLines : Document := .ofText 1 "plaintext" ['a', 'b', '\r', '\n', 'c', 'd']

theorem coordinates_correspond_crlf :
    InsideBreak twoLines.text 3 ∧ twoLines.offsetAt (twoLines.positionAt 3) = 2 ∧
      ¬InsideBreak twoLines.text 9 ∧ twoLines.offsetAt (twoLines.positionAt 9) = 6 ∧
      twoLines.positionAt (twoLines.offsetAt ⟨0, 40⟩) = ⟨0, 2⟩ ∧
      (⟨0, 40⟩ : Position) ≤ ⟨1, 1⟩ ∧
      twoLines.offsetAt ⟨0, 40⟩ ≤ twoLines.offsetAt ⟨1, 1⟩ ∧
      3 ≤ 4 ∧ twoLines.positionAt 3 ≤ twoLines.positionAt 4 := by
  obtain ⟨hclamp, hback, hoffsets, hpositions, _⟩ := coordinates_correspond twoLines
  have hin : InsideBreak twoLines.text 3 := ⟨by decide, rfl, rfl⟩
  have hout : ¬InsideBreak twoLines.text 9 := fun h => absurd h.lt_length (by decide)
  have hle : (⟨0, 40⟩ : Position) ≤ ⟨1, 1⟩ := by decide
  exact ⟨hin, (hback 3).1 hin, hout, (hback 9).2 hout, hclamp ⟨0, 40⟩, hle,
    hoffsets _ _ hle, by decide, hpositions 3 4 (by decide)⟩

end Referent.Document
