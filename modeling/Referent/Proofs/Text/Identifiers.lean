import Referent.Proofs.Text.CharSets
import Referent.Token

namespace Referent

namespace Regex

variable {r s : Regex} {p q : Place} {c : Char} {rest : List Char}

lemma ends_concat_of_nil (h : r.ends p = []) : (r.concat s).ends p = [] := by
  simp [ends_concat, h, reach]

lemma ends_concat_of_single (h : r.ends p = [q]) : (r.concat s).ends p = s.ends q := by
  simp [ends_concat, h, reach]

lemma ends_plus_of_nil (h : r.ends p = []) (greedy : Bool) : (r.plus greedy).ends p = [] := by
  simp [ends_plus, iterate, h, Ends.none, Ends.toList]

lemma ends_alt_of_nil (h : r.ends p = []) : (r.alt s).ends p = (Ends.none.pushAll (s.ends p)).toList := by
  rw [ends_alt, h]
  rfl

lemma ends_star_of_nil (h : r.ends p = []) : (r.star true).ends p = [p] := by
  rw [star, optional, if_pos rfl, ends_alt_of_nil (ends_plus_of_nil h true)]
  simp [ends_empty, Ends.pushAll, Ends.push, Ends.none, Ends.toList]

lemma ends_chars_of_not {set : Unicode.CharSet} (h : ∀ c ∈ p.rest.head?, set.contains c = false) :
    (chars set).ends p = [] := by
  obtain ⟨index, prev, rest⟩ := p
  cases rest with
  | nil => exact ends_chars_nil set index prev
  | cons c rest => simp [ends_chars_cons, h c rfl]

lemma ends_oneOf_of_nil {rs : List Regex} (h : ∀ r ∈ rs, r.ends p = []) : (oneOf rs).ends p = [] := by
  induction rs with
  | nil =>
    apply ends_chars_of_not
    intro c _
    rfl
  | cons r rest ih =>
    obtain ⟨hr, hrest⟩ := List.forall_mem_cons.mp h
    cases rest with
    | nil => exact hr
    | cons r' rest =>
      rw [oneOf, ends_alt_of_nil hr, ih hrest]
      · rfl
      · simp

lemma contains_singleton {b : Char} : (Unicode.CharSet.singleton b.toNat).contains c = true ↔ c = b := by
  have hspaced : Unicode.CharSet.Spaced [(b.toNat, b.toNat)] := ⟨by simp, by simp⟩
  refine (Unicode.CharSet.containsCode_iff hspaced).trans ?_
  simp only [Unicode.CharSet.Covers, List.mem_singleton, exists_eq_left]
  constructor
  · exact fun h => Char.toNat_inj.mp (Nat.le_antisymm h.2 h.1)
  · rintro rfl
    exact ⟨Nat.le_refl _, Nat.le_refl _⟩

lemma ends_ofText_of_head_ne {b : Char} {text : List Char} (h : p.rest.head? ≠ some b) :
    (ofText (b :: text)).ends p = [] := by
  apply ends_concat_of_nil
  apply ends_chars_of_not
  intro c hc
  apply Bool.eq_false_iff.mpr
  intro hcontains
  exact h (contains_singleton.mp hcontains ▸ hc)

lemma ends_plus_chars {set : Unicode.CharSet} {index : Nat} {prev : Option Char}
    (hc : set.contains c = true) (hrest : ∀ d ∈ rest.head?, set.contains d = false) :
    ((chars set).plus true).ends ⟨index, prev, c :: rest⟩ = [⟨index + 1, some c, rest⟩] := by
  have hfirst : (chars set).ends ⟨index, prev, c :: rest⟩ = [⟨index + 1, some c, rest⟩] := by
    simp [ends_chars_cons, hc]
  have hsecond : (chars set).ends ⟨index + 1, some c, rest⟩ = [] := ends_chars_of_not hrest
  rw [ends_plus]
  simp only [List.length_cons, iterate, hfirst, hsecond, List.foldl_cons, List.foldl_nil, if_true,
    Nat.zero_testBit, if_neg Bool.false_ne_true, Nat.lt_succ_self]
  split
  · simp [Ends.push, Ends.none, Ends.toList]
  · simp [Ends.push, Ends.none, Ends.toList]

end Regex

namespace Token

open Unicode (GeneralCategory CharSet)

lemma contains_identifierChars (c : Char) : identifierChars.contains c = true ↔
    ∃ g ∈ GeneralCategory.letters ++ GeneralCategory.marks ++ GeneralCategory.numbers,
      CharSet.Covers g.chars.ranges.toList c.toNat := by
  rw [CharSet.contains, identifierChars, CharSet.containsCode_unions]
  simp only [Unicode.letterChars, Unicode.markChars, Unicode.numberChars, GeneralCategory.charsOf,
    List.mem_cons, List.not_mem_nil, or_false, exists_eq_left, CharSet.covers_unions, List.mem_map,
    exists_exists_and_eq_and, List.mem_append, or_and_right, exists_or, or_assoc]

structure Stops (separators : List (List Char)) (text : List Char) : Prop where
  chars : ∀ c ∈ text.head?, identifierChars.contains c = false
  separators : ∀ s ∈ separators, ∃ b ∈ s.head?, text.head? ≠ some b

variable {separators : List (List Char)} {text rest : List Char} {c : Char} {p : Place}

lemma stops_nil (h : ∀ s ∈ separators, s ≠ []) : Stops separators [] where
  chars c hc := by cases hc
  separators s hs := by
    obtain ⟨b, tail, rfl⟩ := List.exists_cons_of_ne_nil (h s hs)
    exact ⟨b, rfl, by simp⟩

lemma stops_cons (hc : identifierChars.contains c = false)
    (hseparators : ∀ s ∈ separators, ∃ b ∈ s.head?, c ≠ b) : Stops separators (c :: rest) where
  chars d hd := by
    obtain rfl : c = d := Option.some.inj hd
    exact hc
  separators s hs := by
    obtain ⟨b, hb, hne⟩ := hseparators s hs
    exact ⟨b, hb, fun h => hne (Option.some.inj h)⟩

lemma ends_separator (h : ∀ s ∈ separators, ∃ b ∈ s.head?, p.rest.head? ≠ some b) :
    (Regex.oneOf (separators.map Regex.ofText)).ends p = [] := by
  apply Regex.ends_oneOf_of_nil
  intro r hr
  obtain ⟨s, hs, rfl⟩ := List.mem_map.mp hr
  obtain ⟨b, hb, hne⟩ := h s hs
  obtain ⟨text, rfl⟩ : ∃ text, s = b :: text := by
    cases s with
    | nil => cases hb
    | cons b' text => exact ⟨text, by rw [Option.some.inj hb]⟩
  exact Regex.ends_ofText_of_head_ne hne

lemma ends_identifier_of_stops (h : Stops separators p.rest) : (identifier separators).ends p = [] := by
  have hrun : identifierRun.ends p = [] := Regex.ends_plus_of_nil (Regex.ends_chars_of_not h.chars) true
  unfold identifier
  split
  · exact hrun
  · show ((Regex.star _ true).concat (identifierRun.concat _)).ends p = []
    rw [Regex.ends_concat_of_single (Regex.ends_star_of_nil (ends_separator h.separators)),
      Regex.ends_concat_of_nil hrun]

lemma ends_identifier_single {index : Nat} {prev : Option Char} (hc : identifierChars.contains c = true)
    (hseparators : ∀ s ∈ separators, ∃ b ∈ s.head?, c ≠ b) (hrest : Stops separators rest) :
    (identifier separators).ends ⟨index, prev, c :: rest⟩ = [⟨index + 1, some c, rest⟩] := by
  have hrun : identifierRun.ends ⟨index, prev, c :: rest⟩ = [⟨index + 1, some c, rest⟩] :=
    Regex.ends_plus_chars hc hrest.chars
  unfold identifier
  split
  · exact hrun
  · have hfirst : ∀ s ∈ separators, ∃ b ∈ s.head?, (c :: rest).head? ≠ some b := by
      intro s hs
      obtain ⟨b, hb, hne⟩ := hseparators s hs
      exact ⟨b, hb, fun h => hne (Option.some.inj h)⟩
    show ((Regex.star _ true).concat (identifierRun.concat _)).ends _ = _
    rw [Regex.ends_concat_of_single (Regex.ends_star_of_nil (ends_separator hfirst)),
      Regex.ends_concat_of_single hrun]
    apply Regex.ends_star_of_nil
    apply Regex.ends_concat_of_nil
    apply Regex.ends_plus_of_nil
    exact ends_separator hrest.separators

lemma not_isIdentifier_of_stops (h : Stops separators text) : isIdentifier separators text = false := by
  rw [isIdentifier, Regex.matchesAll, ends_identifier_of_stops h, List.any_nil]

section Length

variable {prev : Option Char} (hoperators : (operators.find? fun o => o.isPrefixOf (c :: rest)) = none)
  (hdecimal : standaloneDecimal? prev (c :: rest) = none)

include hoperators hdecimal

lemma lengthAt_of_single (hc : identifierChars.contains c = true)
    (hseparators : ∀ s ∈ separators, ∃ b ∈ s.head?, c ≠ b) (hrest : Stops separators rest) :
    lengthAt (identifier separators) prev (c :: rest) = 1 := by
  have hlength : (identifier separators).matchLength? (c :: rest) = some 1 := by
    rw [Regex.matchLength?, Regex.matchEnd?, Place.start, ends_identifier_single hc hseparators hrest]
    rfl
  simp only [lengthAt, hoperators, hdecimal, hlength]

lemma lengthAt_of_stops (h : Stops separators (c :: rest)) (hc : repeatable.contains c = true) :
    lengthAt (identifier separators) prev (c :: rest) = 1 + (rest.takeWhile (· == c)).length := by
  have hlength : (identifier separators).matchLength? (c :: rest) = none := by
    rw [Regex.matchLength?, Regex.matchEnd?, ends_identifier_of_stops h]
    rfl
  simp only [lengthAt, hoperators, hdecimal, hlength, hc, if_true]

end Length

end Token

end Referent
