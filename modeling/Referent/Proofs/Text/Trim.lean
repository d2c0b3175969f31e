import Mathlib.Tactic.Common
import Referent.Text.CharClass

namespace Referent

lemma trimStart_blank_append {blank : List Char} (h : isBlank blank = true) (text : List Char) :
    trimStart (blank ++ text) = trimStart text :=
  List.dropWhile_append_of_pos (List.all_eq_true.mp h)

lemma trimStart_of_head {text : List Char}
    (h : ∀ c ∈ text.head?, Unicode.isWhiteSpace c = false) : trimStart text = text := by
  cases text with
  | nil => rfl
  | cons c rest => exact List.dropWhile_cons_of_neg (Bool.eq_false_iff.mp (h c rfl))

lemma head?_trimStart (text : List Char) :
    ∀ c ∈ (trimStart text).head?, Unicode.isWhiteSpace c = false := by
  intro c hc
  have hnot := List.head?_dropWhile_not Unicode.isWhiteSpace text
  rw [← trimStart, hc] at hnot
  simpa using hnot

lemma head?_append {text rest : List Char} (h : text ≠ []) : (text ++ rest).head? = text.head? := by
  rw [List.head?_append, List.head?_eq_some_head h, Option.some_or]

structure Framed (leading text trailing : List Char) : Prop where
  leading : isBlank leading = true
  trailing : isBlank trailing = true
  ne_nil : text ≠ []
  head : ∀ c ∈ text.head?, Unicode.isWhiteSpace c = false
  last : ∀ c ∈ text.getLast?, Unicode.isWhiteSpace c = false

namespace Framed

variable {leading text trailing : List Char}

lemma trimStart_eq (h : Framed leading text trailing) :
    trimStart (leading ++ text ++ trailing) = text ++ trailing := by
  rw [List.append_assoc, trimStart_blank_append h.leading]
  apply trimStart_of_head
  rw [head?_append h.ne_nil]
  exact h.head

lemma trim_eq (h : Framed leading text trailing) : trim (leading ++ text ++ trailing) = text := by
  have hblank : isBlank trailing.reverse = true := by
    rw [isBlank, List.all_reverse]
    exact h.trailing
  rw [trim, h.trimStart_eq, trimEnd, List.reverse_append, trimStart_blank_append hblank,
    trimStart_of_head, List.reverse_reverse]
  rw [List.head?_reverse]
  exact h.last

lemma not_blank (h : Framed leading text trailing) :
    isBlank (leading ++ text ++ trailing) = false := by
  obtain ⟨c, rest, rfl⟩ := List.exists_cons_of_ne_nil h.ne_nil
  have hc := h.head c rfl
  simp [isBlank, hc]

lemma bare (h : Framed leading text trailing) : Framed [] text [] :=
  ⟨rfl, rfl, h.ne_nil, h.head, h.last⟩

end Framed

lemma exists_framed {text : List Char} (h : isBlank text = false) :
    ∃ leading trailing, text = leading ++ trim text ++ trailing ∧
      Framed leading (trim text) trailing := by
  set middle := trimStart text
  have hall (text : List Char) : isBlank (text.takeWhile Unicode.isWhiteSpace) = true :=
    List.all_takeWhile
  have htext : text = text.takeWhile Unicode.isWhiteSpace ++ middle :=
    List.takeWhile_append_dropWhile.symm
  have hmiddle : middle = trim text ++ (middle.reverse.takeWhile Unicode.isWhiteSpace).reverse := by
    rw [trim, trimEnd, trimStart, ← List.reverse_append, List.takeWhile_append_dropWhile,
      List.reverse_reverse]
  have htrailing : isBlank (middle.reverse.takeWhile Unicode.isWhiteSpace).reverse = true := by
    rw [isBlank, List.all_reverse]
    exact hall _
  have hne : trim text ≠ [] := by
    intro hnil
    rw [hnil, List.nil_append] at hmiddle
    rw [htext, isBlank, List.all_append, ← isBlank, ← isBlank, hall, hmiddle, htrailing] at h
    cases h
  refine ⟨_, _, ?_, hall text, htrailing, hne, ?_, ?_⟩
  · rw [List.append_assoc, ← hmiddle]
    exact htext
  · have hhead := head?_trimStart text
    rw [← head?_append hne, ← hmiddle]
    exact hhead
  · have hlast := head?_trimStart middle.reverse
    rw [trim, trimEnd, List.getLast?_reverse]
    exact hlast

lemma trim_blank_append {blank : List Char} (h : isBlank blank = true) (text : List Char) :
    trim (blank ++ text) = trim text := by
  rw [trim, trimStart_blank_append h, trim]

lemma trim_append_blank {blank : List Char} (h : isBlank blank = true) (text : List Char) :
    trim (text ++ blank) = trim text := by
  by_cases htext : isBlank text = true
  · have hnil := trim_blank_append h []
    have hnil' := trim_blank_append htext []
    rw [List.append_nil] at hnil hnil'
    rw [trim_blank_append htext, hnil, hnil']
  · obtain ⟨leading, trailing, heq, hframed⟩ := exists_framed (Bool.eq_false_iff.mpr htext)
    have htrailing : isBlank (trailing ++ blank) = true := by
      rw [isBlank, List.all_append, ← isBlank, ← isBlank, hframed.trailing, h]
      rfl
    have hframed' : Framed leading (trim text) (trailing ++ blank) :=
      ⟨hframed.leading, htrailing, hframed.ne_nil, hframed.head, hframed.last⟩
    have htrim := hframed'.trim_eq
    rwa [← List.append_assoc, ← heq] at htrim

end Referent
