import Referent.Proofs.Document.Seams

namespace Referent

namespace TextLine

def isBlank (l : TextLine) : Bool := l.body.all isHorizontalSpace

lemma body_ne_nil {l : TextLine} (h : l.isBlank = false) : l.body ≠ [] := by
  intro hnil
  rw [isBlank, hnil] at h
  cases h

lemma isBlank_or_exists_text (lines : List TextLine) : (∀ l ∈ lines, l.isBlank = true) ∨
    ∃ blanks l rest, lines = blanks ++ l :: rest ∧ (∀ l ∈ blanks, l.isBlank = true) ∧ l.isBlank = false := by
  cases hfind : lines.find? (!·.isBlank) with
  | none =>
    have hblank := List.find?_eq_none.mp hfind
    exact .inl (by simpa using hblank)
  | some l =>
    obtain ⟨hl, blanks, rest, hlines, hblanks⟩ := List.find?_eq_some_iff_append.mp hfind
    exact .inr ⟨blanks, l, rest, hlines, by simpa using hblanks, by simpa using hl⟩

def blocks (lines : List TextLine) : List (List TextLine) := (lines.splitOnP isBlank).filter (!·.isEmpty)

variable {front run behind lines : List TextLine} {l : TextLine}

lemma blocks_append_cons (h : l.isBlank = true) (front behind : List TextLine) :
    blocks (front ++ l :: behind) = blocks front ++ blocks behind := by
  rw [blocks, List.splitOnP_append_cons front behind h, List.filter_append]
  rfl

@[simp] lemma blocks_nil : blocks [] = [] := by simp [blocks, List.splitOnP_nil]

lemma blocks_cons (h : l.isBlank = true) (behind : List TextLine) : blocks (l :: behind) = blocks behind := by
  simpa using blocks_append_cons h [] behind

lemma blocks_of_isBlank (h : ∀ l ∈ lines, l.isBlank = true) : blocks lines = [] := by
  induction lines with
  | nil => exact blocks_nil
  | cons l lines ih =>
    obtain ⟨hl, hlines⟩ := List.forall_mem_cons.mp h
    rw [blocks_cons hl, ih hlines]

lemma blocks_of_text (hne : run ≠ []) (h : ∀ l ∈ run, l.isBlank = false) : blocks run = [run] := by
  rw [blocks, List.splitOnP_eq_singleton h]
  simp [hne]

lemma blocks_append_of_front (h : ∀ l ∈ front.getLast?, l.isBlank = true) (behind : List TextLine) :
    blocks (front ++ behind) = blocks front ++ blocks behind := by
  rcases List.eq_nil_or_concat front with rfl | ⟨front, l, rfl⟩
  · simp
  · have hl : l.isBlank = true := h l (by simp)
    rw [List.concat_eq_append, List.append_assoc, List.singleton_append, blocks_append_cons hl,
      blocks_append_cons hl, blocks_nil, List.append_nil]

lemma blocks_append_of_behind (h : ∀ l ∈ behind.head?, l.isBlank = true) (front : List TextLine) :
    blocks (front ++ behind) = blocks front ++ blocks behind := by
  cases behind with
  | nil => simp
  | cons l behind =>
    have hl : l.isBlank = true := h l rfl
    rw [blocks_append_cons hl, blocks_cons hl]

end TextLine

def isFiller (c : Char) : Bool := isHorizontalSpace c || isLineEnding c

def strip (text : List Char) : List Char := (text.dropWhile isFiller).rdropWhile isFiller

section Strip

variable {text filler : List Char}

lemma strip_append_left (h : ∀ c ∈ filler, isFiller c = true) (text : List Char) :
    strip (filler ++ text) = strip text := by
  rw [strip, List.dropWhile_append_of_pos h, strip]

lemma strip_append_right (h : ∀ c ∈ filler, isFiller c = true) (text : List Char) :
    strip (text ++ filler) = strip text := by
  have hnone : filler.dropWhile isFiller = [] := List.dropWhile_eq_nil_iff.mpr h
  rw [strip, strip, List.dropWhile_append]
  split
  · next hempty =>
    rw [List.isEmpty_iff.mp hempty, hnone]
  · rw [List.rdropWhile, List.reverse_append, List.dropWhile_append_of_pos (by simpa using h)]
    rfl

lemma strip_eq_self (hhead : ∀ c ∈ text.head?, isFiller c = false)
    (hlast : ∀ c ∈ text.getLast?, isFiller c = false) : strip text = text := by
  have hdrop : text.dropWhile isFiller = text := by
    cases text with
    | nil => rfl
    | cons c text => simp [hhead c rfl]
  rw [strip, hdrop, List.rdropWhile_eq_self_iff]
  intro hne
  simp [hlast _ (List.getLast_mem_getLast? hne)]

end Strip

namespace TextLine

def blockText (block : List TextLine) : List Char := strip (block.flatMap chars)

def blockTexts (lines : List TextLine) : List (List Char) := (blocks lines).map blockText

variable {front behind : List TextLine} {l : TextLine} {filler : List Char}

lemma blockTexts_of_isBlank {lines : List TextLine} (h : ∀ l ∈ lines, l.isBlank = true) :
    blockTexts lines = [] := by
  rw [blockTexts, blocks_of_isBlank h, List.map_nil]

lemma blockTexts_append_of_front (h : ∀ l ∈ front.getLast?, l.isBlank = true) (behind : List TextLine) :
    blockTexts (front ++ behind) = blockTexts front ++ blockTexts behind := by
  rw [blockTexts, blocks_append_of_front h, List.map_append]
  rfl

lemma blockTexts_append_of_behind (h : ∀ l ∈ behind.head?, l.isBlank = true) (front : List TextLine) :
    blockTexts (front ++ behind) = blockTexts front ++ blockTexts behind := by
  rw [blockTexts, blocks_append_of_behind h, List.map_append]
  rfl

lemma isFiller_of_isHorizontalSpace {c : Char} (h : isHorizontalSpace c = true) : isFiller c = true := by
  rw [isFiller, h, Bool.true_or]

lemma exists_chars_eq (l : TextLine) :
    ∃ filler, l.chars = l.body ++ filler ∧ ∀ c ∈ filler, isFiller c = true := by
  cases he : l.ending with
  | none => exact ⟨[], by simp [chars, he], by simp⟩
  | some e =>
    have hends : ∀ c ∈ e.chars, isLineEnding c = true := by
      cases e <;> simp [LineEnding.chars, isLineEnding, LineEnding.ofChar?]
    exact ⟨e.chars, by simp [chars, he], fun c hc => by rw [isFiller, hends c hc, Bool.or_true]⟩

lemma isFiller_of_isBlank (h : l.isBlank = true) : ∀ c ∈ l.chars, isFiller c = true := by
  obtain ⟨filler, hchars, hfiller⟩ := l.exists_chars_eq
  intro c hc
  rw [hchars] at hc
  rcases List.mem_append.mp hc with hc | hc
  · exact isFiller_of_isHorizontalSpace (List.all_eq_true.mp h c hc)
  · exact hfiller c hc

lemma blockTexts_cons (h : l.isBlank = false) (hfiller : ∀ c ∈ filler, isFiller c = true)
    (behind : List TextLine) :
    blockTexts (⟨filler ++ l.body, l.ending⟩ :: behind) = blockTexts (l :: behind) := by
  have hl' : isBlank ⟨filler ++ l.body, l.ending⟩ = false := by
    rw [isBlank] at h ⊢
    rw [List.all_append, h, Bool.and_false]
  obtain ⟨block, rest, hsplit⟩ := List.exists_cons_of_ne_nil (List.splitOnP_ne_nil isBlank behind)
  have hblocks {l : TextLine} (hl : l.isBlank = false) :
      blocks (l :: behind) = (l :: block) :: rest.filter (!·.isEmpty) := by
    rw [blocks, List.splitOnP_cons_eq_if_modifyHead, hl, hsplit]
    rfl
  have htext : blockText (⟨filler ++ l.body, l.ending⟩ :: block) = blockText (l :: block) := by
    rw [blockText, List.flatMap_cons, chars_append, List.append_assoc, strip_append_left hfiller]
    rfl
  rw [blockTexts, hblocks hl', blockTexts, hblocks h, List.map_cons, htext, List.map_cons]

lemma exists_last_run (lines : List TextLine) : ∃ front run, lines = front ++ run ∧
    (∀ l ∈ front.getLast?, l.isBlank = true) ∧ ∀ l ∈ run, l.isBlank = false := by
  refine ⟨lines.rdropWhile (!·.isBlank), lines.rtakeWhile (!·.isBlank), ?_, fun l hl => ?_, fun l hl => ?_⟩
  · exact (List.rdropWhile_append_rtakeWhile ..).symm
  · obtain ⟨hne, rfl⟩ := List.mem_getLast?_eq_getLast hl
    simpa using List.rdropWhile_last_not _ _ hne
  · simpa using List.mem_rtakeWhile_imp hl

lemma blockTexts_concat (h : l.isBlank = false) (hfiller : ∀ c ∈ filler, isFiller c = true)
    (ending : Option LineEnding) (front : List TextLine) :
    blockTexts (front ++ [⟨l.body ++ filler, ending⟩]) = blockTexts (front ++ [l]) := by
  have hl' : isBlank ⟨l.body ++ filler, ending⟩ = false := by
    rw [isBlank] at h ⊢
    rw [List.all_append, h, Bool.false_and]
  obtain ⟨front, run, rfl, hfront, hrun⟩ := exists_last_run front
  have hblocks {l : TextLine} (hl : l.isBlank = false) :
      blocks (front ++ run ++ [l]) = blocks front ++ [run ++ [l]] := by
    have htext : ∀ m ∈ run ++ [l], m.isBlank = false := by
      simpa [or_imp, forall_and, hl] using hrun
    rw [List.append_assoc, blocks_append_of_front hfront, blocks_of_text (by simp) htext]
  have htext {l' : TextLine} {filler : List Char} (hchars : l'.chars = l.body ++ filler)
      (hfiller : ∀ c ∈ filler, isFiller c = true) :
      blockText (run ++ [l']) = strip (run.flatMap chars ++ l.body) := by
    rw [blockText, List.flatMap_append, List.flatMap_singleton, hchars, ← List.append_assoc,
      strip_append_right hfiller]
  obtain ⟨behind, hchars, hbehind⟩ := l.exists_chars_eq
  obtain ⟨behind', hchars', hbehind'⟩ := exists_chars_eq ⟨l.body ++ filler, ending⟩
  rw [List.append_assoc] at hchars'
  have hfiller' : ∀ c ∈ filler ++ behind', isFiller c = true := by
    simpa [or_imp, forall_and] using And.intro hfiller hbehind'
  rw [blockTexts, hblocks hl', blockTexts, hblocks h, List.map_append, List.map_append, List.map_singleton,
    List.map_singleton, htext hchars' hfiller', htext hchars hbehind]

end TextLine

namespace Document

variable {d : Document} {front behind blanks : List TextLine} {l : TextLine}

lemma isBlank_of_isFiller (h : ∀ c ∈ d.text, isFiller c = true) :
    ∀ l ∈ d.lines, l.isBlank = true := by
  intro l hl
  refine List.all_eq_true.mpr fun c hc => ?_
  have hplain := ofChar?_of_mem_lines hl hc
  have hmem : c ∈ d.text := by
    obtain ⟨filler, hchars, _⟩ := l.exists_chars_eq
    rw [← d.flatMap_lines]
    exact List.mem_flatMap.mpr ⟨l, hl, hchars ▸ List.mem_append_left _ hc⟩
  simpa [isFiller, isLineEnding, hplain] using h c hmem

lemma isBlank_lineAt {line : Nat} (h : d.lines[line]? = some l) : (d.lineAt line).isBlank = l.isBlank :=
  congrArg TextLine.isBlank (textLine_eq h)

lemma isBlank_between (hlines : d.lines = front ++ (blanks ++ behind))
    (hblanks : ∀ l ∈ blanks, l.isBlank = true) {line : Nat}
    (hfirst : front.length ≤ line) (hlast : line < front.length + blanks.length) :
    (d.lineAt line).isBlank = true := by
  have hlt : line - front.length < blanks.length := by omega
  have hget : d.lines[line]? = some blanks[line - front.length] := by
    rw [hlines, List.getElem?_append_right hfirst, List.getElem?_append_left hlt, List.getElem?_eq_getElem hlt]
  rw [isBlank_lineAt hget]
  exact hblanks _ (List.getElem_mem hlt)

structure HasText (d : Document) (front : List TextLine) (l : TextLine) (behind : List TextLine)
    (leading text trailing : List Char) : Prop where
  isBlank_leading : ∀ c ∈ leading, isHorizontalSpace c = true
  isBlank_trailing : ∀ c ∈ trailing, isHorizontalSpace c = true
  ne_nil : text ≠ []
  head : ∀ c ∈ text.head?, isFiller c = false
  last : ∀ c ∈ text.getLast?, isFiller c = false
  start : d.Splits (d.lineAt front.length).trimmedRange.start front l behind leading (text ++ trailing)
  stop : d.Splits (d.lineAt front.length).trimmedRange.stop front l behind (leading ++ text) trailing

lemma exists_hasText (hlines : d.lines = front ++ l :: behind) (hl : l.isBlank = false) :
    ∃ leading text trailing, d.HasText front l behind leading text trailing := by
  have hget : d.lines[front.length]? = some l := by simp [hlines]
  have hnumber := number_lineAt (List.getElem?_eq_some_iff.mp hget).1
  obtain ⟨leading, text, trailing, h⟩ := (d.lineAt front.length).exists_trims
  have hbody : l.body = leading ++ text ++ trailing := by
    rw [← h.text_eq]
    exact congrArg TextLine.body (textLine_eq hget).symm
  have hfiller {c : Char} (hc : c ∈ text) (hspace : isHorizontalSpace c = false) : isFiller c = false := by
    have hplain := ofChar?_of_mem_lines (List.mem_of_getElem? hget) (c := c) (by simp [hbody, hc])
    rw [isFiller, hspace, isLineEnding, hplain]
    rfl
  have hstart : (d.lineAt front.length).trimmedRange.start = ⟨front.length, leading.length⟩ := by
    rw [h.range, Range.start_onLine (Nat.le_add_right _ _), hnumber]
  have hstop : (d.lineAt front.length).trimmedRange.stop = ⟨front.length, (leading ++ text).length⟩ := by
    rw [h.range, Range.stop_onLine (Nat.le_add_right _ _), hnumber, List.length_append]
  refine ⟨leading, text, trailing, h.isBlank_leading, h.isBlank_trailing, ?_,
    fun c hc => hfiller (List.mem_of_mem_head? hc) (h.head c hc),
    fun c hc => hfiller (List.mem_of_getLast? hc) (h.last c hc),
    ⟨hlines, hbody.trans (List.append_assoc ..), hstart⟩, ⟨hlines, hbody, hstop⟩⟩
  rintro rfl
  rw [h.blank rfl] at hbody
  have hblank : l.isBlank = true := by
    rw [TextLine.isBlank, hbody, List.all_eq_true]
    simpa using h.isBlank_trailing
  rw [hl] at hblank
  cases hblank

end Document

end Referent
