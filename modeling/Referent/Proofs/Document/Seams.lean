import Referent.Proofs.Document.Lines

/-! Lines that are put together make a text that is divided into them again, unless a carriage return and a
line feed meet where two of them do. -/

namespace Referent

inductive Seamed : List TextLine → Prop
  | last {body : List Char} (hbody : ∀ c ∈ body, LineEnding.ofChar? c = none) : Seamed [⟨body, none⟩]
  | next {l m : TextLine} {rest : List TextLine} (hbody : ∀ c ∈ l.body, LineEnding.ofChar? c = none)
    (hending : l.ending.isSome = true) (hcr : l.ending = some .cr → m.chars.head? ≠ some '\n')
    (h : Seamed (m :: rest)) : Seamed (l :: m :: rest)

lemma splitLinesFrom_append {text : List Char} (h : ∀ c ∈ text, LineEnding.ofChar? c = none)
    (body rest : List Char) :
    splitLinesFrom body (text ++ rest) = splitLinesFrom (text.reverse ++ body) rest := by
  induction text generalizing body with
  | nil => rfl
  | cons c text ih =>
    obtain ⟨hc, htext⟩ := List.forall_mem_cons.mp h
    have hcrlf (rest' : List Char) : c = '\r' → text ++ rest = '\n' :: rest' → False := by
      rintro rfl
      cases hc
    rw [List.cons_append, splitLinesFrom, hc]
    · simp only [ih htext, List.reverse_cons, List.append_assoc, List.singleton_append]
    · exact hcrlf

lemma splitLinesFrom_ending {e : LineEnding} {rest : List Char} (h : e = .cr → rest.head? ≠ some '\n')
    (body : List Char) :
    splitLinesFrom body (e.chars ++ rest) = ⟨body.reverse, some e⟩ :: splitLinesFrom [] rest := by
  cases e with
  | cr =>
    cases rest with
    | nil => rfl
    | cons c rest =>
      have hc (rest' : List Char) : '\r' = '\r' → c :: rest = '\n' :: rest' → False :=
        fun _ heq => h rfl (congrArg List.head? heq)
      exact splitLinesFrom.eq_3 body '\r' (c :: rest) hc
  | _ => rfl

namespace TextLine

lemma chars_append (x body : List Char) (ending : Option LineEnding) :
    (⟨x ++ body, ending⟩ : TextLine).chars = x ++ (⟨body, ending⟩ : TextLine).chars := by
  cases ending with
  | none => rfl
  | some e => exact List.append_assoc ..

lemma chars_ne_nil {l : TextLine} (h : l.ending.isSome = true) : l.chars ≠ [] := by
  have hpos := length_lt_width h
  rw [← List.length_pos_iff, length_chars]
  omega

end TextLine

namespace Seamed

variable {l m : TextLine} {front rest behind lines : List TextLine} {body text : List Char}

lemma head?_flatMap (h : Seamed (m :: rest)) :
    ((m :: rest).flatMap TextLine.chars).head? = m.chars.head? := by
  rw [List.flatMap_cons, List.head?_append]
  cases h with
  | last hbody => simp
  | next hbody hending hcr h =>
    obtain ⟨c, hc⟩ := Option.ne_none_iff_exists'.mp
      (List.head?_eq_none_iff.not.mpr (TextLine.chars_ne_nil hending))
    rw [hc]
    rfl

lemma splitLines_flatMap (h : Seamed lines) : splitLines (lines.flatMap TextLine.chars) = lines := by
  induction h with
  | last hbody =>
    have hsplit := splitLinesFrom_append hbody [] []
    simpa [splitLines, TextLine.chars, splitLinesFrom] using hsplit
  | @next l m rest hbody hending hcr h ih =>
    obtain ⟨e, he⟩ := Option.isSome_iff_exists.mp hending
    have hchars : l.chars = l.body ++ e.chars := by simp [TextLine.chars, he]
    have hseam : e = .cr → ((m :: rest).flatMap TextLine.chars).head? ≠ some '\n' := by
      rintro rfl
      rw [h.head?_flatMap]
      exact hcr he
    rw [splitLines, List.flatMap_cons, hchars, List.append_assoc, splitLinesFrom_append hbody,
      splitLinesFrom_ending hseam, List.append_nil, List.reverse_reverse, ← splitLines, ih, ← he]

lemma of_splitLinesFrom (hbody : ∀ c ∈ body, LineEnding.ofChar? c = none) :
    Seamed (splitLinesFrom body text) := by
  fun_induction splitLinesFrom body text with
  | case1 body => exact .last (by simpa using hbody)
  | case2 body rest ih =>
    have hrest := ih (by simp)
    obtain ⟨m, lines, hlines⟩ := List.exists_cons_of_ne_nil (Document.splitLinesFrom_ne_nil [] rest)
    rw [hlines] at hrest ⊢
    exact .next (by simpa using hbody) rfl (by simp) hrest
  | case3 body c rest hcrlf e he ih =>
    have hrest := ih (by simp)
    have htext : (splitLinesFrom [] rest).flatMap TextLine.chars = rest := flatMap_splitLinesFrom [] rest
    obtain ⟨m, lines, hlines⟩ := List.exists_cons_of_ne_nil (Document.splitLinesFrom_ne_nil [] rest)
    rw [hlines] at hrest htext ⊢
    refine .next (by simpa using hbody) rfl (fun hcr hlf => ?_) hrest
    obtain rfl : e = .cr := Option.some.inj hcr
    obtain rfl : '\r' = c := List.singleton_inj.mp (LineEnding.chars_of_ofChar? he)
    rw [← hrest.head?_flatMap, htext] at hlf
    obtain ⟨rest', rfl⟩ := List.head?_eq_some_iff.mp hlf
    exact hcrlf rest' rfl rfl
  | case4 body c rest hcrlf he ih => exact ih (List.forall_mem_cons.mpr ⟨he, hbody⟩)

lemma of_append (h : Seamed (front ++ l :: behind)) : Seamed (l :: behind) := by
  induction front with
  | nil => exact h
  | cons x front ih =>
    cases front with
    | nil =>
      cases h with
      | next _ _ _ h => exact h
    | cons y front =>
      cases h with
      | next _ _ _ h => exact ih h

lemma with_body (h : Seamed (l :: rest)) (hbody : ∀ c ∈ body, LineEnding.ofChar? c = none) :
    Seamed (⟨body, l.ending⟩ :: rest) := by
  cases h with
  | last _ => exact .last hbody
  | next _ hending hcr h => exact .next hbody hending hcr h

lemma append (h : Seamed (front ++ m :: rest)) (hbehind : Seamed (l :: behind))
    (hhead : l.chars.head? ≠ some '\n') : Seamed (front ++ l :: behind) := by
  induction front with
  | nil => exact hbehind
  | cons x front ih =>
    cases front with
    | nil =>
      cases h with
      | next hbody hending _ _ => exact .next hbody hending (fun _ => hhead) hbehind
    | cons y front =>
      cases h with
      | next hbody hending hcr h => exact .next hbody hending hcr (ih h)

lemma splice (h : Seamed (front ++ m :: rest)) (hbehind : Seamed (l :: behind)) (hne : body ≠ [])
    (hbody : ∀ c ∈ body, LineEnding.ofChar? c = none) :
    Seamed (front ++ ⟨body, l.ending⟩ :: behind) := by
  refine h.append (hbehind.with_body hbody) fun hlf => ?_
  obtain ⟨c, body, rfl⟩ := List.exists_cons_of_ne_nil hne
  rw [← List.singleton_append, TextLine.chars_append, List.singleton_append] at hlf
  obtain rfl : c = '\n' := Option.some.inj hlf
  exact absurd (hbody '\n' List.mem_cons_self) (by decide)

end Seamed

lemma Divided.seamed {lines : List TextLine} (h : Divided lines)
    (hbody : ∀ l ∈ lines, ∀ c ∈ l.body, LineEnding.ofChar? c = none)
    (hcr : ∀ l ∈ lines, l.ending ≠ some .cr) : Seamed lines := by
  induction h with
  | last body => exact .last (hbody _ (List.mem_singleton_self _))
  | @next l rest hsome hrest ih =>
    obtain ⟨hplain, hbody⟩ := List.forall_mem_cons.mp hbody
    obtain ⟨hne, hcr⟩ := List.forall_mem_cons.mp hcr
    obtain ⟨m, rest, rfl⟩ := List.exists_cons_of_ne_nil hrest.ne_nil
    exact .next hplain hsome (fun heq => absurd heq hne) (ih hbody hcr)

namespace Document

lemma seamed_lines (d : Document) : Seamed d.lines := by
  rw [d.lines_eq]
  exact .of_splitLinesFrom (by simp)

def before (d : Document) (p : Position) : List Char := d.text.take (d.offsetAt p)

def after (d : Document) (p : Position) : List Char := d.text.drop (d.offsetAt p)

lemma before_textIn_after (d : Document) (r : Range) :
    d.before r.start ++ (d.textIn r ++ d.after r.stop) = d.text := by
  have hle := d.offsetAt_mono r.start_le_stop
  have hrest : d.after r.stop = (d.after r.start).drop (d.offsetAt r.stop - d.offsetAt r.start) := by
    rw [after, after, List.drop_drop, Nat.add_sub_cancel' hle]
  rw [hrest, before, textIn, ← after, List.take_append_drop, after, List.take_append_drop]

lemma without_eq (d : Document) (r : Range) : d.without r = d.before r.start ++ d.after r.stop := rfl

structure Splits (d : Document) (p : Position) (front : List TextLine) (l : TextLine) (behind : List TextLine)
    (x y : List Char) : Prop where
  lines : d.lines = front ++ l :: behind
  body : l.body = x ++ y
  place : p = ⟨front.length, x.length⟩

namespace Splits

variable {d d' : Document} {p : Position} {r : Range} {front behind front' behind' : List TextLine}
  {l m : TextLine} {x y x' y' : List Char}

lemma text (h : d.Splits p front l behind x y) : d.before p = front.flatMap TextLine.chars ++ x ∧
    d.after p = (⟨y, l.ending⟩ : TextLine).chars ++ behind.flatMap TextLine.chars := by
  have hl : d.lines[front.length]? = some l := by simp [h.lines]
  have hhas : d.Has p := by
    rw [h.place]
    refine ⟨(List.getElem?_eq_some_iff.mp hl).1, ?_⟩
    simp [lineLength, textLine_eq hl, TextLine.length, h.body]
  have hlength : (front.flatMap TextLine.chars ++ x).length = d.offsetAt p := by
    have hfront := (d.text_eq_append front.length).2
    rw [offsetAt_of_has hhas, h.place, ← hfront, h.lines, List.take_left, List.length_append]
  have htext : d.text = (front.flatMap TextLine.chars ++ x) ++
      ((⟨y, l.ending⟩ : TextLine).chars ++ behind.flatMap TextLine.chars) := by
    have hchars : l.chars = x ++ (⟨y, l.ending⟩ : TextLine).chars := by
      rw [← TextLine.chars_append, ← h.body]
    rw [← flatMap_lines, h.lines, List.flatMap_append, List.flatMap_cons, hchars]
    simp only [List.append_assoc]
  rw [before, after, ← hlength, htext, List.take_left, List.drop_left]
  exact ⟨rfl, rfl⟩

lemma plain (h : d.Splits p front l behind x y) :
    (∀ c ∈ x, LineEnding.ofChar? c = none) ∧ ∀ c ∈ y, LineEnding.ofChar? c = none := by
  have hl : l ∈ d.lines := by simp [h.lines]
  have hbody : ∀ c ∈ l.body, LineEnding.ofChar? c = none := fun c => ofChar?_of_mem_lines hl
  rw [h.body] at hbody
  exact List.forall_mem_append.mp hbody

lemma seamed (h : d.Splits p front l behind x y) : Seamed (front ++ l :: behind) := h.lines ▸ d.seamed_lines

lemma lines_without (h : d.Splits r.start front l behind x y) (h' : d.Splits r.stop front' m behind' x' y')
    (hne : x ++ y' ≠ []) (htext : d'.text = d.without r) :
    d'.lines = front ++ ⟨x ++ y', m.ending⟩ :: behind' := by
  have hplain : ∀ c ∈ x ++ y', LineEnding.ofChar? c = none := List.forall_mem_append.mpr ⟨h.plain.1, h'.plain.2⟩
  have hseamed := h.seamed.splice h'.seamed.of_append hne hplain
  have hall : d'.text = (front ++ ⟨x ++ y', m.ending⟩ :: behind').flatMap TextLine.chars := by
    rw [htext, without_eq, h.text.1, h'.text.2, List.flatMap_append, List.flatMap_cons, TextLine.chars_append]
    simp only [List.append_assoc]
  rw [d'.lines_eq, hall, hseamed.splitLines_flatMap]

end Splits

end Document

end Referent
