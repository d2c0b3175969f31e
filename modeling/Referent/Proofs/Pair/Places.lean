import Mathlib.Data.List.Sort
import Referent.Proofs.Document.Offsets
import Referent.Proofs.Pair.Nesting

/-! Where a bracket stands in a text, and in a part of it. A part has the occurrences of the whole text
that lie in it, and possibly one more at its beginning, of which the escaping backslash is cut off. -/

namespace Referent

open Occurrence (textOf)

structure Delimiter.IsBracket (d : Delimiter) : Prop where
  asymmetric : d.opening ≠ d.closing
  length_pos : 0 < d.length
  length_textOf (side : Side) : (textOf d side).length = d.length
  escapes (side : Side) : ∀ c ∈ (textOf d side).dropLast, c = '\\'
  no_break (side : Side) : '\r' ∉ textOf d side ∧ '\n' ∉ textOf d side

def PairName.brackets : List PairName :=
  [.parentheses, .squareBrackets, .curlyBrackets, .angleBrackets, .escapedParentheses,
    .escapedSquareBrackets]

lemma Delimiter.textOf_mem (d : Delimiter) (side : Side) : textOf d side ∈ [d.opening, d.closing] := by
  cases side with
  | left => exact List.mem_cons_self
  | right => exact List.mem_cons_of_mem _ List.mem_cons_self

lemma Delimiter.isBracket_of_texts {d : Delimiter} (h : d.opening ≠ d.closing ∧ 0 < d.length ∧
    ∀ t ∈ [d.opening, d.closing],
      t.length = d.length ∧ (t.dropLast.all (· == '\\')) = true ∧ '\r' ∉ t ∧ '\n' ∉ t) :
    d.IsBracket := by
  obtain ⟨hne, hpos, htexts⟩ := h
  have htext (side : Side) := htexts _ (d.textOf_mem side)
  refine ⟨hne, hpos, fun side => (htext side).1, fun side c hc => ?_, fun side => (htext side).2.2⟩
  exact beq_iff_eq.mp (List.all_eq_true.mp (htext side).2.1 c hc)

lemma Delimiter.ofName_eq {name : PairName} {language : String} {d : Delimiter}
    (h : ∀ python, (table.filter fun d =>
      (names name).contains d.name && (python || !d.isTripleQuote)) = [d]) :
    ofName name language = [d] := by
  rw [ofName, h]
  exact List.mergeSort_singleton d

lemma Delimiter.ofName_bracket {name : PairName} (h : name ∈ PairName.brackets) (language : String) :
    ∃ d, Delimiter.ofName name language = [d] ∧ d.IsBracket := by
  simp only [PairName.brackets, List.mem_cons, List.not_mem_nil, or_false] at h
  rcases h with rfl | rfl | rfl | rfl | rfl | rfl
  · exact ⟨⟨.parentheses, ['('], [')']⟩, ofName_eq (by decide), isBracket_of_texts (by decide)⟩
  · exact ⟨⟨.squareBrackets, ['['], [']']⟩, ofName_eq (by decide), isBracket_of_texts (by decide)⟩
  · exact ⟨⟨.curlyBrackets, ['\x7b'], ['\x7d']⟩, ofName_eq (by decide),
      isBracket_of_texts (by decide)⟩
  · exact ⟨⟨.angleBrackets, ['<'], ['>']⟩, ofName_eq (by decide), isBracket_of_texts (by decide)⟩
  · exact ⟨⟨.escapedParentheses, ['\\', '('], ['\\', ')']⟩, ofName_eq (by decide),
      isBracket_of_texts (by decide)⟩
  · exact ⟨⟨.escapedSquareBrackets, ['\\', '['], ['\\', ']']⟩, ofName_eq (by decide),
      isBracket_of_texts (by decide)⟩

namespace Occurrence

instance : Std.Irrefl Precedes := ⟨fun _ h => h.ne rfl⟩

instance : Std.Antisymm Precedes := ⟨fun _ _ h h' => absurd rfl (h.trans h').ne⟩

def charBefore (text : List Char) : Nat → Option Char
  | 0 => none
  | k + 1 => text[k]?

def shift (offset : Nat) (o : Occurrence) : Occurrence :=
  { o with start := offset + o.start, stop := offset + o.stop }

@[simp] lemma start_shift (offset : Nat) (o : Occurrence) :
    (o.shift offset).start = offset + o.start := rfl

@[simp] lemma stop_shift (offset : Nat) (o : Occurrence) :
    (o.shift offset).stop = offset + o.stop := rfl

@[simp] lemma delimiter_shift (offset : Nat) (o : Occurrence) :
    (o.shift offset).delimiter = o.delimiter := rfl

@[simp] lemma side_shift (offset : Nat) (o : Occurrence) : (o.shift offset).side = o.side := rfl

lemma matchFrom_shift (offset : Nat) (opened l : List Occurrence) :
    matchFrom (opened.map (shift offset)) (l.map (shift offset)) =
      (matchFrom opened l).map (Prod.map (shift offset) (shift offset)) := by
  induction l generalizing opened with
  | nil => rfl
  | cons o rest ih =>
    have hfind : (opened.map (shift offset)).find? (fun p => p.delimiter = o.delimiter) =
        (opened.find? fun p => p.delimiter = o.delimiter).map (shift offset) := List.find?_map ..
    have herase : (opened.map (shift offset)).eraseP (fun p => p.delimiter = o.delimiter) =
        (opened.eraseP fun p => p.delimiter = o.delimiter).map (shift offset) := List.eraseP_map ..
    rw [List.map_cons, matchFrom, matchFrom, side_shift, delimiter_shift, hfind, herase]
    cases o.side with
    | left => exact ih (o :: opened)
    | right =>
      cases opened.find? fun p => p.delimiter = o.delimiter with
      | none => exact ih opened
      | some p => exact congrArg _ (ih _)

lemma matched_shift (offset : Nat) (l : List Occurrence) :
    matched (l.map (shift offset)) =
      (matched l).map (Prod.map (shift offset) (shift offset)) :=
  matchFrom_shift offset [] l

lemma precedes_shift {offset : Nat} {a b : Occurrence} (h : a.Precedes b) :
    (a.shift offset).Precedes (b.shift offset) := by
  obtain ⟨h₁, h₂, h₃⟩ := h
  exact ⟨Nat.add_lt_add_left h₁ offset, Nat.add_le_add_left h₂ offset, Nat.add_lt_add_left h₃ offset⟩

structure Covers (o : Occurrence) (text : List Char) : Prop where
  stop : o.stop = o.start + (textOf o.delimiter o.side).length
  isPrefix : textOf o.delimiter o.side <+: text.drop o.start

namespace Covers

variable {o : Occurrence} {text : List Char} (h : o.Covers text)

include h

lemma getElem? {k : Nat} (hk : k < (textOf o.delimiter o.side).length) :
    text[o.start + k]? = (textOf o.delimiter o.side)[k]? := by
  rw [← List.getElem?_drop, List.getElem?_eq_getElem hk]
  exact List.prefix_iff_getElem?.mp h.isPrefix k hk

lemma stop_le (hlt : o.start < o.stop) : o.stop ≤ text.length := by
  have hle := h.isPrefix.length_le
  have hstop := h.stop
  rw [List.length_drop] at hle
  omega

variable (hbreak : '\r' ∉ textOf o.delimiter o.side ∧ '\n' ∉ textOf o.delimiter o.side)

include hbreak

lemma no_break {k : Nat} (hk : o.start ≤ k) (hk' : k < o.stop) :
    text[k]? ≠ some '\r' ∧ text[k]? ≠ some '\n' := by
  obtain ⟨j, rfl⟩ : ∃ j, k = o.start + j := ⟨k - o.start, by omega⟩
  have hstop := h.stop
  rw [h.getElem? (by omega)]
  exact ⟨fun heq => hbreak.1 (List.mem_of_getElem? heq), fun heq => hbreak.2 (List.mem_of_getElem? heq)⟩

lemma not_insideBreak (hlt : o.start < o.stop) :
    ¬Document.InsideBreak text o.start ∧ ¬Document.InsideBreak text o.stop :=
  ⟨fun hin => (h.no_break hbreak (Nat.le_refl _) hlt).2 hin.2.2,
    fun hin => (h.no_break hbreak (Nat.le_sub_one_of_lt hlt) (Nat.sub_one_lt_of_lt hlt)).1 hin.2.1⟩

end Covers

structure Reads (d : Delimiter) (text : List Char) (o : Occurrence) : Prop where
  delimiter : o.delimiter = d
  stop : o.stop = o.start + d.length
  isPrefix : textOf d o.side <+: text.drop o.start

structure Stands (d : Delimiter) (text : List Char) (o : Occurrence) : Prop
    extends Reads d text o where
  free : charBefore text o.start ≠ some '\\'

lemma charBefore_add {text : List Char} {i width : Nat} (hw : 0 < width)
    (h : i + width ≤ text.length) :
    charBefore text (i + width) = ((text.drop i).take width).getLast? := by
  obtain ⟨k, rfl⟩ : ∃ k, width = k + 1 := ⟨width - 1, by omega⟩
  rw [← Nat.add_assoc, charBefore, List.getLast?_take, if_neg (Nat.succ_ne_zero k),
    Nat.add_sub_cancel, List.getElem?_drop, List.getElem?_eq_getElem (by omega), Option.some_or]

lemma delimiterAt?_eq_none {d : Delimiter} {l : List Char} (h : delimiterAt? [d] l = none)
    (side : Side) : ¬textOf d side <+: l := by
  simp only [delimiterAt?, List.findSome?_cons, List.findSome?_nil] at h
  cases side <;> rw [textOf] <;> grind

lemma delimiterAt?_eq_some {d d' : Delimiter} {l : List Char} {side : Side}
    (h : delimiterAt? [d] l = some (d', side)) : d' = d ∧ textOf d side <+: l := by
  simp only [delimiterAt?, List.findSome?_cons, List.findSome?_nil] at h
  cases side <;> rw [textOf] <;> grind

lemma filter_append_filter {l : List Occurrence} {P : Occurrence → Bool}
    (h : l.Pairwise fun o o' => P o' = true → P o = true) :
    l.filter P ++ l.filter (fun o => !P o) = l := by
  induction l with
  | nil => rfl
  | cons o rest ih =>
    obtain ⟨hfirst, hrest⟩ := List.pairwise_cons.mp h
    cases ho : P o with
    | true => simp [ho, ih hrest]
    | false =>
      have hnone : ∀ o' ∈ rest, P o' = false := fun o' ho' => by
        simpa [ho] using hfirst o' ho'
      have hwith : rest.filter P = [] := List.filter_eq_nil_iff.mpr (by simpa using hnone)
      have hwithout : rest.filter (fun o => !P o) = rest :=
        List.filter_eq_self.mpr (by simpa using hnone)
      simp [ho, hwith, hwithout]

lemma exists_between {l : List Occurrence} (hl : l.Pairwise Precedes) (a b : Nat) :
    ∃ before inner after, l = before ++ inner ++ after ∧
      ∀ o, o ∈ inner ↔ o ∈ l ∧ a ≤ o.start ∧ o.stop ≤ b := by
  let rest := l.filter fun o => !decide (o.start < a)
  have hrest : rest.filter (fun o => o.stop ≤ b) ++ rest.filter (fun o => !decide (o.stop ≤ b)) =
      rest := by
    refine filter_append_filter ((hl.filter _).imp fun {o o'} h => ?_)
    have hlt := h.stop_lt
    simp only [decide_eq_true_eq]
    omega
  have hwhole : l.filter (fun o => o.start < a) ++ rest = l := by
    refine filter_append_filter (hl.imp fun {o o'} h => ?_)
    have hlt := h.start_lt
    simp only [decide_eq_true_eq]
    omega
  refine ⟨l.filter fun o => o.start < a, rest.filter fun o => o.stop ≤ b,
    rest.filter fun o => !decide (o.stop ≤ b), ?_, fun o => ?_⟩
  · rw [List.append_assoc, hrest, hwhole]
  · simp [rest, and_comm]

lemma exists_front {l inner : List Occurrence} (hl : l.Pairwise Precedes)
    (hinner : inner.Pairwise Precedes) {P : Occurrence → Prop}
    (hmem : ∀ o, o ∈ inner ↔ o ∈ l ∧ P o)
    (hup : ∀ o ∈ l, ∀ o' ∈ l, o.Precedes o' → P o → P o') : ∃ front, l = front ++ inner := by
  classical
  have hsplit : l.filter (fun o => ¬P o) ++ l.filter (fun o => !decide (¬P o)) = l := by
    refine filter_append_filter (hl.imp_of_mem fun {o o'} ho ho' h => ?_)
    simpa using mt (hup o ho o' ho' h)
  have hend : l.filter (fun o => !decide (¬P o)) = inner :=
    (hl.filter _).eq_of_mem_iff hinner fun o => by simp [hmem]
  exact ⟨_, by rw [← hend, hsplit]⟩

def part (text : List Char) (a b : Nat) : List Char := (text.drop a).take (b - a)

lemma length_part {text : List Char} {a b : Nat} (hb : b ≤ text.length) :
    (part text a b).length = b - a := by
  rw [part, List.length_take, List.length_drop]
  omega

lemma charBefore_part (text : List Char) {a b k : Nat} (hk : a + k < b) :
    charBefore (part text a b) (k + 1) = charBefore text (a + (k + 1)) := by
  rw [charBefore, ← Nat.add_assoc, charBefore, part, List.getElem?_take, if_pos (by omega),
    List.getElem?_drop]

section Bracket

variable {d : Delimiter} (hd : d.IsBracket) {text : List Char} {o o' : Occurrence}

include hd

lemma Reads.covers (h : Reads d text o) : o.Covers text where
  stop := by rw [h.delimiter, hd.length_textOf, h.stop]
  isPrefix := by
    rw [h.delimiter]
    exact h.isPrefix

lemma Reads.getElem? (h : Reads d text o) {k : Nat} (hk : k < d.length) :
    text[o.start + k]? = (textOf d o.side)[k]? := by
  have hget := (h.covers hd).getElem? (k := k)
  rw [h.delimiter, hd.length_textOf] at hget
  exact hget hk

lemma Reads.start_lt (h : Reads d text o) : o.start < o.stop := by
  have hpos := hd.length_pos
  rw [h.stop]
  omega

lemma Reads.stop_le (h : Reads d text o) : o.stop ≤ text.length :=
  (h.covers hd).stop_le (h.start_lt hd)

lemma Reads.eq_of_start (h : Reads d text o) (h' : Reads d text o') (hs : o.start = o'.start) :
    o = o' := by
  have htext : textOf d o.side = textOf d o'.side := by
    have hlength : (textOf d o.side).length = (textOf d o'.side).length := by
      rw [hd.length_textOf, hd.length_textOf]
    exact (List.prefix_of_prefix_length_le h.isPrefix (hs ▸ h'.isPrefix)
      (Nat.le_of_eq hlength)).eq_of_length hlength
  have hside : o.side = o'.side := by
    cases hl : o.side <;> cases hr : o'.side <;> rw [hl, hr] at htext
    · exact absurd htext hd.asymmetric
    · exact absurd htext.symm hd.asymmetric
  have hstop : o.stop = o'.stop := by rw [h.stop, h'.stop, hs]
  have hdelimiter : o.delimiter = o'.delimiter := h.delimiter.trans h'.delimiter.symm
  cases o
  cases o'
  simp_all

lemma Reads.charBefore_inside (h : Reads d text o) {k : Nat} (hk : o.start < k) (hk' : k < o.stop) :
    charBefore text k = some '\\' := by
  obtain ⟨j, rfl⟩ : ∃ j, k = o.start + j + 1 := ⟨k - o.start - 1, by omega⟩
  have hlength := hd.length_textOf o.side
  have hj : j < (textOf d o.side).dropLast.length := by
    rw [List.length_dropLast, hlength]
    have hstop := h.stop
    omega
  have hslash := hd.escapes o.side _ (List.getElem_mem hj)
  rw [charBefore, h.getElem? hd (by rw [List.length_dropLast] at hj; omega), ← hslash,
    List.getElem_dropLast]
  exact List.getElem?_eq_getElem _

lemma Reads.no_break (h : Reads d text o) {k : Nat} (hk : o.start ≤ k) (hk' : k < o.stop) :
    text[k]? ≠ some '\r' ∧ text[k]? ≠ some '\n' := by
  apply (h.covers hd).no_break _ hk hk'
  rw [h.delimiter]
  exact hd.no_break o.side

lemma Reads.not_insideBreak (h : Reads d text o) :
    ¬Document.InsideBreak text o.start ∧ ¬Document.InsideBreak text o.stop := by
  apply (h.covers hd).not_insideBreak _ (h.start_lt hd)
  rw [h.delimiter]
  exact hd.no_break o.side

lemma scan_drop (opened : List Delimiter) {i : Nat} (hi : i < text.length) :
    (∃ opened', (∀ o : Occurrence, o.start = i → ¬Stands d text o) ∧
      scan [d] opened i (charBefore text i) (text.drop i) =
        scan [d] opened' (i + 1) (charBefore text (i + 1)) (text.drop (i + 1))) ∨
    ∃ o : Occurrence, o.start = i ∧ Stands d text o ∧
      scan [d] opened i (charBefore text i) (text.drop i) =
        o :: scan [d] opened o.stop (charBefore text o.stop) (text.drop o.stop) := by
  have hcons := List.drop_eq_getElem_cons hi
  have hnext : charBefore text (i + 1) = some text[i] := List.getElem?_eq_getElem hi
  have hbegins (o : Occurrence) (hs : o.start = i) (ho : Reads d text o) :
      textOf d o.side <+: text[i] :: text.drop (i + 1) := hcons ▸ hs ▸ ho.isPrefix
  rw [hcons, scan]
  split
  · next hbreak =>
    refine .inl ⟨_, fun o hs ho => ?_, by rw [hnext, hbreak]⟩
    refine (ho.no_break hd (Nat.le_refl _) (ho.start_lt hd)).2 ?_
    rw [hs, List.getElem?_eq_getElem hi, hbreak]
  · split
    · next hescaped => exact .inl ⟨opened, fun o hs ho => ho.free (hs ▸ hescaped), by rw [hnext]⟩
    · next hfree =>
      split
      · next hat =>
        exact .inl ⟨opened, fun o hs ho =>
          delimiterAt?_eq_none hat o.side (hbegins o hs ho.toReads), by rw [hnext]⟩
      · next d' side hat =>
        obtain ⟨rfl, hprefix⟩ := delimiterAt?_eq_some hat
        have hwidth : max 1 (textOf d' side).length = d'.length := by
          rw [hd.length_textOf]
          exact Nat.max_eq_right hd.length_pos
        have hsides : d'.isSymmetric = false := by simpa [Delimiter.isSymmetric] using hd.asymmetric
        have ho : Stands d' text ⟨i, i + d'.length, d', side⟩ :=
          ⟨⟨rfl, rfl, by rwa [hcons]⟩, hfree⟩
        refine .inr ⟨_, rfl, ho, ?_⟩
        dsimp only
        rw [hwidth, hsides, ← hcons, List.drop_drop,
          charBefore_add hd.length_pos (ho.stop_le hd)]
        rfl

lemma mem_scan (opened : List Delimiter) (i : Nat) :
    o ∈ scan [d] opened i (charBefore text i) (text.drop i) ↔ i ≤ o.start ∧ Stands d text o := by
  induction hn : text.length - i using Nat.strongRecOn generalizing opened i with
  | ind n ih =>
    by_cases hi : i < text.length
    · rcases scan_drop hd opened hi with ⟨opened', hnone, hscan⟩ | ⟨o', rfl, ho', hscan⟩
      · rw [hscan, ih _ (by omega) _ _ rfl]
        refine and_congr_left fun ho => ⟨Nat.le_of_succ_le, fun hle => ?_⟩
        exact Nat.lt_of_le_of_ne hle fun hs => hnone o hs.symm ho
      · have hlt := ho'.start_lt hd
        rw [hscan, List.mem_cons, ih _ (by omega) _ _ rfl]
        constructor
        · rintro (rfl | ⟨hle, ho⟩)
          · exact ⟨Nat.le_refl _, ho'⟩
          · exact ⟨by omega, ho⟩
        · rintro ⟨hle, ho⟩
          by_cases hs : o'.stop ≤ o.start
          · exact .inr ⟨hs, ho⟩
          · refine .inl (ho.eq_of_start hd ho'.toReads (Nat.le_antisymm ?_ hle))
            by_contra hbehind
            exact ho.free (ho'.charBefore_inside hd (by omega) (by omega))
    · rw [List.drop_eq_nil_of_le (Nat.not_lt.mp hi), scan]
      refine iff_of_false List.not_mem_nil ?_
      rintro ⟨hle, ho⟩
      have hstop := ho.stop_le hd
      have hlt := ho.start_lt hd
      omega

lemma mem_ofText : o ∈ ofText [d] text ↔ Stands d text o := by
  have hmem : o ∈ scan [d] [] 0 (charBefore text 0) (text.drop 0) ↔ 0 ≤ o.start ∧ Stands d text o :=
    mem_scan hd [] 0
  rwa [charBefore, List.drop_zero, and_iff_right (Nat.zero_le _)] at hmem

lemma reads_part {a b : Nat} (ha : a ≤ b) (hb : b ≤ text.length) :
    Reads d (part text a b) o ↔ Reads d text (o.shift a) ∧ a + o.stop ≤ b := by
  constructor
  · intro h
    have hstop := h.stop_le hd
    rw [length_part hb] at hstop
    refine ⟨⟨h.delimiter, ?_, ?_⟩, by omega⟩
    · rw [start_shift, stop_shift, h.stop, Nat.add_assoc]
    · have hprefix := h.isPrefix
      rw [part, List.drop_take, List.drop_drop, List.prefix_take_iff] at hprefix
      exact hprefix.1
  · rintro ⟨h, hle⟩
    have hstop := h.stop
    rw [start_shift, stop_shift] at hstop
    refine ⟨h.delimiter, by omega, ?_⟩
    rw [part, List.drop_take, List.drop_drop, List.prefix_take_iff, hd.length_textOf]
    exact ⟨h.isPrefix, by omega⟩

lemma mem_ofText_part {a b : Nat} (ha : a ≤ b) (hb : b ≤ text.length) :
    o ∈ (ofText [d] (part text a b)).map (shift a) ↔
      Reads d text o ∧ a ≤ o.start ∧ o.stop ≤ b ∧
        (o.start = a ∨ charBefore text o.start ≠ some '\\') := by
  have hmem {o : Occurrence} : o ∈ ofText [d] (part text a b) ↔ Reads d text (o.shift a) ∧
      a + o.stop ≤ b ∧ (o.start = 0 ∨ charBefore text (a + o.start) ≠ some '\\') := by
    have hstands : Stands d (part text a b) o ↔
        Reads d (part text a b) o ∧ charBefore (part text a b) o.start ≠ some '\\' :=
      ⟨fun h => ⟨h.toReads, h.free⟩, fun h => ⟨h.1, h.2⟩⟩
    rw [mem_ofText hd, hstands, reads_part hd ha hb, and_assoc]
    refine and_congr_right fun h => and_congr_right fun hle => ?_
    have hlt := h.start_lt hd
    rw [start_shift, stop_shift] at hlt
    cases hs : o.start with
    | zero => simp [charBefore]
    | succ k =>
      have hk : a + k < b := by omega
      simp [charBefore_part text hk]
  constructor
  · intro h
    obtain ⟨o', ho', rfl⟩ := List.mem_map.mp h
    obtain ⟨hreads, hle, hfree⟩ := hmem.mp ho'
    exact ⟨hreads, Nat.le_add_right _ _, hle, hfree.imp_left fun h => by rw [start_shift, h]; rfl⟩
  · rintro ⟨hreads, hstart, hstop, hfree⟩
    have hlt := hreads.start_lt hd
    have hshift : shift a ⟨o.start - a, o.stop - a, o.delimiter, o.side⟩ = o := by
      cases o
      simp only [shift] at hstart hlt ⊢
      congr 1 <;> omega
    refine List.mem_map.mpr ⟨_, hmem.mpr ⟨by rwa [hshift], by dsimp only; omega, ?_⟩, hshift⟩
    refine hfree.imp (fun h => by dsimp only; omega) fun h => ?_
    rwa [Nat.add_sub_cancel' hstart]

lemma mem_matched_window {a b : Nat} (ha : a ≤ b) (hb : b ≤ text.length)
    {q : Occurrence × Occurrence} (hfree : q.1.start = a → charBefore text a ≠ some '\\') :
    q ∈ matched ((ofText [d] (part text a b)).map (shift a)) ↔
      q ∈ matched (ofText [d] text) ∧ a ≤ q.1.start ∧ q.2.stop ≤ b := by
  have hwhole := ofText_pairwise [d] text
  have hwindow : ((ofText [d] (part text a b)).map (shift a)).Pairwise Precedes :=
    (ofText_pairwise [d] (part text a b)).map _ fun _ _ => precedes_shift
  obtain ⟨before, inner, after, hsplit, hinner⟩ := exists_between hwhole a b
  have hin (o : Occurrence) : o ∈ inner ↔
      o ∈ (ofText [d] (part text a b)).map (shift a) ∧ charBefore text o.start ≠ some '\\' := by
    rw [hinner, mem_ofText hd, mem_ofText_part hd ha hb]
    exact ⟨fun ⟨h, hstart, hstop⟩ => ⟨⟨h.toReads, hstart, hstop, .inr h.free⟩, h.free⟩,
      fun ⟨⟨h, hstart, hstop, _⟩, hfree⟩ => ⟨⟨h, hfree⟩, hstart, hstop⟩⟩
  have hbehind {o o' : Occurrence} (ho : o ∈ (ofText [d] (part text a b)).map (shift a))
      (ho' : o' ∈ (ofText [d] (part text a b)).map (shift a)) (h : o.Precedes o') :
      charBefore text o'.start ≠ some '\\' := by
    have hstart := ((mem_ofText_part hd ha hb).mp ho).2.1
    have hlt := h.start_lt
    exact ((mem_ofText_part hd ha hb).mp ho').2.2.2.resolve_left (by omega)
  obtain ⟨front, hfront⟩ := exists_front hwindow ((List.pairwise_append.mp
    (List.pairwise_append.mp (hsplit ▸ hwhole)).1).2.1) hin
    fun o ho o' ho' h _ => hbehind ho ho' h
  have hpairs (hopen : q.1 ∈ inner) (hclose : q.2 ∈ inner) :
      q ∈ matched ((ofText [d] (part text a b)).map (shift a)) ↔ q ∈ matched (ofText [d] text) := by
    rw [hfront, mem_matched_part (hsplit ▸ hwhole) (hfront ▸ hwindow) hopen hclose, ← hsplit]
  constructor
  · intro hq
    have hprecedes := precedes_of_mem_matched hwindow q hq
    obtain ⟨hopen, hclose, _⟩ := mem_of_mem_matched hq
    have hescape := ((mem_ofText_part hd ha hb).mp hopen).2.2.2
    have hopen' := (hin q.1).mpr ⟨hopen, hescape.elim (fun hs => hs ▸ hfree hs) id⟩
    have hclose' := (hin q.2).mpr ⟨hclose, hbehind hopen hclose hprecedes⟩
    exact ⟨(hpairs hopen' hclose').mp hq, ((hinner _).mp hopen').2.1, ((hinner _).mp hclose').2.2⟩
  · rintro ⟨hq, hstart, hstop⟩
    have hprecedes := precedes_of_mem_matched hwhole q hq
    obtain ⟨hopen, hclose, _⟩ := mem_of_mem_matched hq
    have hle := Nat.le_of_lt hprecedes.start_lt
    have hle' := Nat.le_of_lt hprecedes.stop_lt
    exact (hpairs ((hinner _).mpr ⟨hopen, hstart, by omega⟩)
      ((hinner _).mpr ⟨hclose, by omega, hstop⟩)).mpr hq

end Bracket

end Occurrence

end Referent
