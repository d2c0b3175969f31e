import Referent.Proofs.Document.Seams
import Referent.Target.Basic

namespace Referent

/-- Whether each carriage return of a text is the first half of a CRLF. -/
def ReturnsPaired (text : List Char) : Prop := ∀ k, text[k]? = some '\r' → text[k + 1]? = some '\n'

instance (text : List Char) : Decidable (ReturnsPaired text) :=
  decidable_of_iff (∀ k < text.length, text[k]? = some '\r' → text[k + 1]? = some '\n') <| by
    refine ⟨fun h k hk => h k (List.getElem?_eq_some_iff.mp hk).1 hk, fun h k _ => h k⟩

lemma ReturnsPaired.tail {c : Char} {text : List Char} (h : ReturnsPaired (c :: text)) : ReturnsPaired text :=
  fun k hk => h (k + 1) hk

lemma ending_ne_cr {body text : List Char} (h : ReturnsPaired text) :
    ∀ l ∈ splitLinesFrom body text, l.ending ≠ some .cr := by
  fun_induction splitLinesFrom body text with
  | case1 body => simp
  | case2 body rest ih => exact List.forall_mem_cons.mpr ⟨by simp, ih h.tail.tail⟩
  | case3 body c rest hcrlf e he ih =>
    refine List.forall_mem_cons.mpr ⟨?_, ih h.tail⟩
    rintro hcr
    obtain rfl : e = .cr := Option.some.inj hcr
    obtain rfl : '\r' = c := List.singleton_inj.mp (LineEnding.chars_of_ofChar? he)
    have hnext := h 0 rfl
    cases rest with
    | nil => cases hnext
    | cons c' rest => exact hcrlf rest rfl (by rw [Option.some.inj hnext])
  | case4 body c rest hcrlf he ih => exact ih h.tail

namespace Divided

variable {lines before after : List TextLine} {k : Nat}

lemma append (hbefore : ∀ l ∈ before, l.ending.isSome = true) (h : Divided after) :
    Divided (before ++ after) := by
  induction before with
  | nil => exact h
  | cons l before ih =>
    obtain ⟨hl, hbefore⟩ := List.forall_mem_cons.mp hbefore
    exact .next hl (ih hbefore)

lemma drop (h : Divided lines) (hk : k < lines.length) : Divided (lines.drop k) := by
  induction h generalizing k with
  | last body =>
    obtain rfl : k = 0 := by simpa using hk
    exact .last body
  | next hsome hrest ih =>
    cases k with
    | zero => exact .next hsome hrest
    | succ k => exact ih (Nat.lt_of_succ_lt_succ hk)

lemma isSome_of_mem_take (h : Divided lines) (hk : k < lines.length) :
    ∀ l ∈ lines.take k, l.ending.isSome = true := by
  intro l hl
  obtain ⟨i, hi, rfl⟩ := List.mem_take_iff_getElem.mp hl
  rw [Option.isSome_iff_ne_none]
  intro hnone
  have hlast := (h.ending_eq_none_iff (List.getElem?_eq_getElem _)).mp hnone
  omega

end Divided

namespace Document

variable {d : Document}

def lineTexts (d : Document) : List (List Char) := (List.range d.lineCount).map fun line => (d.lineAt line).text

lemma lineTexts_eq (d : Document) : d.lineTexts = d.lines.map TextLine.body := by
  rw [← map_textLine, List.map_map]
  rfl

lemma lineTexts_ofText {lines : List TextLine} (h : Divided lines) (hcr : ReturnsPaired d.text)
    (hlines : ∀ l ∈ lines, ∃ l' ∈ d.lines, l.body = l'.body ∧ (l.ending = l'.ending ∨ l.ending = none))
    (id : Nat) (language : String) :
    (ofText id language (lines.flatMap TextLine.chars)).lineTexts = lines.map TextLine.body := by
  have hall := d.lines_eq
  rw [splitLines] at hall
  have hbody : ∀ l ∈ lines, ∀ c ∈ l.body, LineEnding.ofChar? c = none := by
    intro l hl
    obtain ⟨l', hl', heq, _⟩ := hlines l hl
    rw [heq]
    exact fun c => ofChar?_of_mem_lines hl'
  have hne : ∀ l ∈ lines, l.ending ≠ some .cr := by
    intro l hl
    obtain ⟨l', hl', _, heq⟩ := hlines l hl
    rcases heq with heq | heq
    · exact heq ▸ ending_ne_cr hcr l' (hall ▸ hl')
    · exact heq ▸ Option.some_ne_none _ |>.symm
  rw [lineTexts_eq]
  exact congrArg _ (h.seamed hbody hne).splitLines_flatMap

end Document

namespace Target

open Document

variable {e : Editor} {r : Range}

structure Leaves (d : Document) (removal : Range) (lines : List TextLine) : Prop where
  divided : Divided lines
  kept : ∀ l ∈ lines, ∃ l' ∈ d.lines, l.body = l'.body ∧ (l.ending = l'.ending ∨ l.ending = none)
  without_eq : d.without removal = lines.flatMap TextLine.chars

lemma leaves_next (h : r.stop.line + 1 < e.document.lineCount) (b : Bool) :
    Leaves e.document (line e r b).removal
      (e.document.lines.take r.start.line ++ e.document.lines.drop (r.stop.line + 1)) where
  divided := by
    have hle := r.start_line_le
    have hfirst : r.start.line < e.document.lines.length := by unfold lineCount at h; omega
    exact .append (e.document.divided_lines.isSome_of_mem_take hfirst) (e.document.divided_lines.drop h)
  kept l hl := by
    refine ⟨l, ?_, rfl, .inl rfl⟩
    rcases List.mem_append.mp hl with hl | hl
    · exact List.mem_of_mem_take hl
    · exact List.mem_of_mem_drop hl
  without_eq := by
    have hle := r.start_line_le
    have hcontent : (e.document.fullLines r.start.line r.stop.line).stop ≤ ⟨r.stop.line + 1, 0⟩ := by
      rw [stop_fullLines _ hle]
      exact .inl (Nat.lt_succ_self _)
    have hremoval : (line e r b).removal =
        (e.document.fullLines r.start.line r.stop.line).union (.point ⟨r.stop.line + 1, 0⟩) := by
      show lineRemoval _ _ = _
      rw [lineRemoval, stop_fullLines _ hle, if_pos h]
    have hstart : e.document.Has ⟨r.start.line, 0⟩ := has_lineStart (by omega)
    rw [List.flatMap_append, without, hremoval, Range.start_union_point hcontent,
      Range.stop_union_point hcontent, start_fullLines _ hle, offsetAt_of_has hstart,
      offsetAt_of_has (has_lineStart h)]
    simp only [Nat.add_zero, text_take_lineStart, text_drop_lineStart]

lemma leaves_last (h : r.stop.line = e.document.lastLine) {previous : Nat}
    (hprevious : r.start.line = previous + 1) (b : Bool) :
    Leaves e.document (line e r b).removal
      (e.document.lines.take previous ++ [⟨(e.document.textLine previous).body, none⟩]) := by
  have hle := r.start_line_le
  have hlt : previous < e.document.lineCount := (e.document.le_lastLine_iff previous).mp (by omega)
  obtain ⟨l, hl⟩ : ∃ l, e.document.lines[previous]? = some l := ⟨_, List.getElem?_eq_getElem hlt⟩
  rw [textLine_eq hl]
  refine ⟨?_, fun l' hl' => ?_, ?_⟩
  · exact .append (e.document.divided_lines.isSome_of_mem_take hlt) (.last _)
  · rcases List.mem_append.mp hl' with hl' | hl'
    · exact ⟨l', List.mem_of_mem_take hl', rfl, .inl rfl⟩
    · rw [List.mem_singleton.mp hl']
      exact ⟨l, List.mem_of_getElem? hl, rfl, .inr rfl⟩
  · have hcontent : (⟨previous, e.document.lineLength previous⟩ : Position) ≤
        (e.document.fullLines r.start.line r.stop.line).start := by
      rw [start_fullLines _ hle, hprevious]
      exact .inl (Nat.lt_succ_self _)
    have hremoval : (line e r b).removal = (e.document.fullLines r.start.line r.stop.line).union
        (.point ⟨previous, e.document.lineLength previous⟩) := by
      have hlast : ¬r.stop.line + 1 < e.document.lineCount := by unfold lastLine at h; omega
      show lineRemoval _ _ = _
      rw [lineRemoval, stop_fullLines _ hle, start_fullLines _ hle, if_neg hlast, hprevious,
        if_pos (Nat.succ_pos previous), previousLineEnd, Nat.add_sub_cancel]
    have hend : (⟨r.stop.line, e.document.lineLength r.stop.line⟩ : Position) = e.document.range.stop := by
      rw [stop_range, h]
    have hnone : e.document.text.drop e.document.length = [] := List.drop_length
    rw [without, hremoval, Range.start_point_union hcontent, Range.stop_point_union hcontent,
      stop_fullLines _ hle, hend, offsetAt_stop_range, text_take_lineStop hl, hnone, List.flatMap_append]
    simp [TextLine.chars]

/-- A text without some of its lines, but not without all of them, has exactly the other lines if no carriage
return stands alone in it. -/
theorem lineTexts_without_line (hcr : ReturnsPaired e.document.text)
    (hlines : r.stop.line < e.document.lineCount)
    (hothers : ¬(r.start.line = 0 ∧ r.stop.line = e.document.lastLine)) (b : Bool) (id : Nat)
    (language : String) :
    (ofText id language (e.document.without (line e r b).removal)).lineTexts =
      e.document.lineTexts.take r.start.line ++ e.document.lineTexts.drop (r.stop.line + 1) := by
  have hle := (e.document.le_lastLine_iff _).mpr hlines
  rw [lineTexts_eq e.document]
  by_cases hnext : r.stop.line + 1 < e.document.lineCount
  · have hleaves := leaves_next hnext b
    rw [hleaves.without_eq, lineTexts_ofText hleaves.divided hcr hleaves.kept, List.map_append,
      List.map_take, List.map_drop]
  · have hlast : r.stop.line = e.document.lastLine := by unfold lastLine at hle ⊢; omega
    obtain ⟨previous, hprevious⟩ : ∃ previous, r.start.line = previous + 1 :=
      ⟨r.start.line - 1, by omega⟩
    have hleaves := leaves_last hlast hprevious b
    have hlt : previous < e.document.lines.length := by
      have hfirst := r.start_line_le
      unfold lineCount at hlines
      omega
    have hnone : (e.document.lines.map TextLine.body).drop (r.stop.line + 1) = [] := by
      rw [List.drop_eq_nil_iff, List.length_map]
      exact Nat.not_lt.mp hnext
    rw [hleaves.without_eq, lineTexts_ofText hleaves.divided hcr hleaves.kept, hprevious, hnone,
      List.append_nil, ← List.map_take, ← List.take_append_getElem hlt, List.map_append, List.map_append,
      textLine_eq (List.getElem?_eq_getElem hlt)]
    rfl

def mixedLines : Editor := .ofDocument 1 (.ofText 1 "plaintext" ['a', '\r', '\n', 'b', '\u2028', 'c'])

theorem lineTexts_without_line_mixedLines : ReturnsPaired mixedLines.document.text ∧
    (Range.onLine 1 0 1).stop.line < mixedLines.document.lineCount ∧
    (ofText 1 "plaintext" (mixedLines.document.without
      (line mixedLines (.onLine 1 0 1) false).removal)).lineTexts =
      [['a'], ['c']] ∧
    (ofText 1 "plaintext" (mixedLines.document.without
      (line mixedLines (.between ⟨1, 0⟩ ⟨2, 1⟩) false).removal)).lineTexts = [['a']] := by
  have hcr : ReturnsPaired mixedLines.document.text := by decide
  refine ⟨hcr, by decide, ?_, ?_⟩
  · rw [lineTexts_without_line hcr (by decide) (by decide)]
    decide
  · rw [lineTexts_without_line hcr (by decide) (by decide)]
    decide

end Target

end Referent
