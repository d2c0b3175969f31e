import Referent.Proofs.Item.Tokens
import Referent.Proofs.Pair.Places

namespace Referent.ItemToken

open Occurrence (charBefore)

section Joining

variable {n : Nesting} {current : List (List Char)} {start : Nat} {t : ItemToken}

lemma kind_of_mem_current (ht : t ∈ trimmed start
    (if current.isEmpty then [] else [(ItemKind.item, current.reverse.flatten)])) : t.kind = .item := by
  split at ht
  · cases ht
  · rw [trimmed] at ht
    · split at ht
      · cases ht
      · obtain rfl := List.mem_singleton.mp ht
        rfl
    · exact ItemKind.noConfusion

lemma le_start_of_mem_trimmed {parts : List (ItemKind × List Char)} (ht : t ∈ trimmed start parts) :
    start ≤ t.start := ((between_trimmed start parts).bounds t ht).1

lemma le_start_of_separator {pieces : List (List Char)} (ht : t ∈ trimmed start (joinFrom n current pieces))
    (hkind : t.kind = .separator) : start + current.reverse.flatten.length ≤ t.start := by
  have hnone {current : List (List Char)} (ht : t ∈ trimmed start
      (if current.isEmpty then [] else [(ItemKind.item, current.reverse.flatten)])) : False := by
    rw [kind_of_mem_current ht] at hkind
    cases hkind
  induction pieces generalizing n current with
  | nil => exact (hnone ht).elim
  | cons piece rest ih =>
    rw [joinFrom] at ht
    split at ht
    · rw [trimmed_append, flatten_current] at ht
      exact le_start_of_mem_trimmed ((List.mem_append.mp ht).resolve_left hnone)
    · have hle := ih ht
      rw [List.reverse_cons, List.flatten_append, List.length_append] at hle
      omega

lemma separator_mem_joinFrom_iff (hn : n.Proper) (first rest : List (List Char)) {place : Nat}
    (hplace : place = start + current.reverse.flatten.length + first.flatten.length) :
    ⟨.separator, place, place + 1⟩ ∈ trimmed start (joinFrom n current (first ++ [','] :: rest)) ↔
      (n.read first ([','] :: rest)).depth = 0 := by
  have hnone {start : Nat} {current : List (List Char)} : ⟨.separator, place, place + 1⟩ ∉
      trimmed start (if current.isEmpty then [] else [(ItemKind.item, current.reverse.flatten)]) :=
    fun hmem => ItemKind.noConfusion (kind_of_mem_current hmem)
  induction first generalizing n current start with
  | nil =>
    rw [List.flatten_nil, List.length_nil, Nat.add_zero] at hplace
    rw [List.nil_append, joinFrom, Nesting.step_comma hn]
    split
    · next hcut =>
      rw [trimmed_append, flatten_current, ← hplace]
      exact iff_of_true (List.mem_append_right _ List.mem_cons_self) hcut.2
    · next hcut =>
      refine iff_of_false (fun hmem => ?_) fun hdepth => hcut ⟨rfl, hdepth⟩
      have hle := le_start_of_separator hmem rfl
      rw [List.reverse_cons, List.flatten_append, List.length_append, List.flatten_singleton,
        List.length_singleton] at hle
      dsimp only at hle
      omega
  | cons piece first ih =>
    rw [List.flatten_cons, List.length_append] at hplace
    rw [List.cons_append, joinFrom, Nesting.read]
    split
    · next hcut =>
      obtain ⟨rfl, hdepth⟩ := hcut
      have hrest := @ih (n.step [','] (first ++ [','] :: rest)) []
        (start + current.reverse.flatten.length + 1) (hn.step _ _) (by simpa [Nat.add_assoc] using hplace)
      refine Iff.trans ?_ hrest
      rw [trimmed_append, flatten_current, List.mem_append, or_iff_right hnone, trimmed_cons,
        List.mem_append]
      apply or_iff_right
      intro hmem
      obtain ⟨_, hstart, _⟩ := ItemToken.mk.inj (List.mem_singleton.mp hmem)
      rw [List.length_singleton] at hplace
      omega
    · refine ih (hn.step _ _) ?_
      rw [List.reverse_cons, List.flatten_append, List.length_append, List.flatten_singleton]
      omega

end Joining

theorem separator_mem_ofText_iff (before after : List Char) :
    ⟨.separator, before.length, before.length + 1⟩ ∈ ofText (before ++ ',' :: after) ↔
      (Nesting.outside.read (pieces before) ([','] :: pieces after)).depth = 0 := by
  have hpieces : pieces (before ++ ',' :: after) = pieces before ++ [','] :: pieces after :=
    piecesFrom_append_comma [] before after
  rw [ofText, join, hpieces]
  apply separator_mem_joinFrom_iff Nesting.proper_outside
  simp [flatten_pieces]

lemma exists_append_of_getElem? {text : List Char} {c : Char} {place : Nat} (h : text[place]? = some c) :
    ∃ before after, text = before ++ c :: after ∧ before.length = place := by
  obtain ⟨hlt, rfl⟩ := List.getElem?_eq_some_iff.mp h
  exact ⟨text.take place, text.drop (place + 1), by rw [← List.drop_eq_getElem_cons hlt, List.take_append_drop],
    List.length_take_of_le (Nat.le_of_lt hlt)⟩

lemma getElem?_of_separator {text : List Char} {place : Nat}
    (h : ⟨.separator, place, place + 1⟩ ∈ ofText text) :
    text[place]? = some ',' := by
  rcases (exhausts_ofText text).kinds _ h with ⟨_, htaken⟩ | ⟨hkind, _⟩
  · rw [taken, Nat.add_sub_cancel_left] at htaken
    have hhead : ((text.drop place).take 1).head? = some ',' := by rw [htaken, List.head?_cons]
    rwa [List.head?_take, if_neg Nat.one_ne_zero, List.head?_drop] at hhead
  · cases hkind

def delimiters (prev : Option Char) : List Char → List (List Char)
  | [] => []
  | c :: rest =>
    if isDelimiter c = true ∧ ¬(isQuote c = true ∧ prev = some '\\') then
      [c] :: delimiters (some c) rest
    else delimiters (some c) rest

lemma delimiters_plain {c : Char} (h : isDelimiter c = false) (prev : Option Char) (rest : List Char) :
    delimiters prev (c :: rest) = delimiters (some c) rest := by
  rw [delimiters, if_neg fun hc => Bool.false_ne_true (h.symm.trans hc.1)]

lemma delimiters_append (prev : Option Char) (s t : List Char) :
    delimiters prev (s ++ t) = delimiters prev s ++ delimiters (s.getLast?.or prev) t := by
  induction s generalizing prev with
  | nil => rfl
  | cons c s ih =>
    have hlast : (c :: s).getLast?.or prev = s.getLast?.or (some c) := by
      cases s with
      | nil => rfl
      | cons c' s => rw [List.getLast?_cons_cons, List.getLast?_cons, Option.some_or, Option.some_or]
    rw [List.cons_append, delimiters, delimiters, ih, hlast]
    split
    · rfl
    · rfl

lemma marks_piecesFrom_eq {plain text : List Char} {prev : Option Char}
    (hplain : ∀ c ∈ plain, isDelimiter c = false)
    (h : prev = some '\\' → ∀ c ∈ text.head?, isQuote c = false) :
    marks (piecesFrom plain text) = delimiters prev text := by
  have hnone : ∀ c ∈ ([] : List Char), isDelimiter c = false := nofun
  have hmark {c : Char} {pieces : List (List Char)} (hc : isDelimiter c = true) :
      marks ([c] :: pieces) = [c] :: marks pieces := List.filter_cons_of_pos hc
  fun_induction piecesFrom plain text generalizing prev with
  | case1 plain => exact marks_flush hplain
  | case2 plain c rest hquote ih =>
    have hrest : marks (piecesFrom [] rest) = delimiters (some c) rest := by
      apply ih hnone
      rintro ⟨⟩
      cases hquote
    rw [marks_append, marks_flush hplain, delimiters_plain rfl, delimiters,
      if_neg fun hc => hc.2 ⟨hquote, rfl⟩, ← hrest]
    rfl
  | case3 plain c rest hquote ih =>
    rw [delimiters_plain rfl]
    refine ih (List.forall_mem_cons.mpr ⟨rfl, hplain⟩) fun _ c' hc' => ?_
    obtain rfl := Option.some.inj hc'
    exact Bool.eq_false_iff.mpr hquote
  | case4 plain c rest hescape hdelimiter ih =>
    have hfree : ¬(isQuote c = true ∧ prev = some '\\') := fun hc =>
      Bool.false_ne_true ((h hc.2 c rfl).symm.trans hc.1)
    rw [marks_append, marks_flush hplain, List.nil_append, hmark hdelimiter, delimiters,
      if_pos ⟨hdelimiter, hfree⟩, ih hnone fun hc => ?_]
    cases Option.some.inj hc
    cases hdelimiter
  | case5 plain c rest hescape hdelimiter ih =>
    have hc := Bool.eq_false_iff.mpr hdelimiter
    rw [delimiters_plain hc]
    refine ih (List.forall_mem_cons.mpr ⟨hc, hplain⟩) fun hbackslash q hq => ?_
    cases rest with
    | nil => cases hq
    | cons q' rest => exact absurd rfl (hescape q' rest (Option.some.inj hbackslash))

lemma marks_pieces (text : List Char) : marks (pieces text) = delimiters none text :=
  marks_piecesFrom_eq nofun nofun

theorem separator_mem_iff_delimiters (before after : List Char) :
    ⟨.separator, before.length, before.length + 1⟩ ∈ ofText (before ++ ',' :: after) ↔
      (Nesting.outside.read (delimiters none before)
        (delimiters before.getLast? (',' :: after))).depth = 0 := by
  have hcomma : delimiters before.getLast? (',' :: after) = marks ([','] :: pieces after) := by
    have hrest : marks (pieces after) = delimiters (some ',') after := marks_piecesFrom_eq nofun nofun
    rw [delimiters, if_pos ⟨rfl, nofun⟩, ← hrest]
    rfl
  rw [separator_mem_ofText_iff, hcomma, ← marks_pieces, (read_marks Nesting.proper_outside _ _).2]

lemma Nesting.read_append (n : Nesting) (first second after : List (List Char)) :
    n.read (first ++ second) after = (n.read first (second ++ after)).read second after := by
  induction first generalizing n with
  | nil => rfl
  | cons piece first ih =>
    rw [List.cons_append, Nesting.read, Nesting.read, ih, List.append_assoc]

lemma Nesting.step_inside {n : Nesting} {opening closing : Char} (hpos : 0 < n.depth)
    (hkind : n.opening = [opening] ∧ n.closing = [closing]) (c : Char) (rest : List (List Char)) :
    n.step [c] rest = if c = closing then { n with depth := n.depth - 1 }
      else if c = opening then { n with depth := n.depth + 1 } else n := by
  rw [Nesting.step, if_pos hpos, hkind.1, hkind.2]
  simp only [List.cons.injEq, and_true]

def brackets : List (Char × Char) := [('(', ')'), ('[', ']'), ('\x7b', '\x7d'), ('<', '>')]

lemma brackets_differ : ∀ b ∈ brackets, ∀ b' ∈ brackets,
    b.1 ≠ b'.2 ∧ (b.1 = b'.1 ↔ b.2 = b'.2) := by decide

lemma of_mem_brackets {o c : Char} (h : (o, c) ∈ brackets) : closing? [o] = some [c] ∧
    isDelimiter o = true ∧ isDelimiter c = true ∧ o ≠ ',' ∧ c ≠ ',' := by
  have hall : ∀ b ∈ brackets, closing? [b.1] = some [b.2] ∧ isDelimiter b.1 = true ∧
      isDelimiter b.2 = true ∧ b.1 ≠ ',' ∧ b.2 ≠ ',' := by decide
  exact hall _ h

end Referent.ItemToken
