import Referent.Proofs.Sorting
import Referent.Proofs.Text.CharSets
import Referent.Proofs.Text.Order

namespace Referent

open Unicode (GeneralCategory CharSet)

def InWords (c : Char) : Prop := isCapital c = true ∨ isUncapitalized c = true ∨ Unicode.isNumber c = true

section Length

variable {c : Char} {rest text : List Char}

lemma length_takeWhile_pos {p : Char → Bool} : 0 < ((c :: rest).takeWhile p).length ↔ p c = true := by
  rw [List.takeWhile_cons]
  split
  · exact iff_of_true (Nat.succ_pos _) ‹_›
  · exact iff_of_false (Nat.lt_irrefl 0) ‹_›

lemma wordLength_pos_iff : 0 < wordLength (c :: rest) ↔ InWords c := by
  unfold wordLength
  dsimp only
  split
  · next hcapital => exact iff_of_true (by omega) (.inl (length_takeWhile_pos.mp hcapital))
  · next hcapital =>
    rw [length_takeWhile_pos] at hcapital
    split
    · next hletter => exact iff_of_true hletter (.inr (.inl (length_takeWhile_pos.mp hletter)))
    · next hletter =>
      rw [length_takeWhile_pos] at hletter
      rw [length_takeWhile_pos, InWords, or_iff_right hcapital, or_iff_right hletter]

lemma inWords_of_mem_take {d : Char} (h : d ∈ text.take (wordLength text)) : InWords d := by
  have hmem {p : Char → Bool} {text : List Char} (h : d ∈ text.take (text.takeWhile p).length) : p d = true :=
    List.all_eq_true.mp List.all_takeWhile d (take_length_takeWhile p text ▸ h)
  unfold wordLength at h
  dsimp only at h
  split at h
  · rw [List.take_add, List.mem_append] at h
    exact h.imp hmem fun h => .inl (hmem h)
  · split at h
    · exact .inr (.inl (hmem h))
    · exact .inr (.inr (hmem h))

end Length

def Covered (spans : List (Nat × Nat)) (i : Nat) : Prop := ∃ s ∈ spans, s.1 ≤ i ∧ i < s.2

lemma covered_append {spans spans' : List (Nat × Nat)} {i : Nat} :
    Covered (spans ++ spans') i ↔ Covered spans i ∨ Covered spans' i := by
  simp [Covered, or_and_right, exists_or]

lemma covered_splitCapitals {start i : Nat} {word : List Char} :
    Covered (splitCapitals start word) i ↔ start ≤ i ∧ i < start + word.length := by
  unfold splitCapitals
  dsimp only
  split
  · simp only [Covered, List.mem_cons, List.not_mem_nil, or_false, exists_eq_or_imp, exists_eq_left]
    omega
  · simp [Covered]

lemma covered_wordSpansFrom (start : Nat) (text : List Char) (i : Nat) :
    Covered (wordSpansFrom start text) i ↔ start ≤ i ∧ ∃ c ∈ text[i - start]?, InWords c := by
  fun_induction wordSpansFrom start text with
  | case1 start => simp [Covered]
  | case2 start c rest length hpos ih =>
    have hle : length ≤ (c :: rest).length := wordLength_le (c :: rest)
    have hlength : ((c :: rest).take length).length = length := List.length_take_of_le hle
    rw [covered_append, covered_splitCapitals, ih, hlength, List.getElem?_drop]
    by_cases hin : start ≤ i ∧ i < start + length
    · obtain ⟨d, hd⟩ : ∃ d, (c :: rest)[i - start]? = some d := ⟨_, List.getElem?_eq_getElem (by omega)⟩
      have hmem : d ∈ (c :: rest).take length :=
        List.mem_of_getElem? ((List.getElem?_take_of_lt (by omega)).trans hd)
      exact iff_of_true (.inl hin) ⟨hin.1, d, hd, inWords_of_mem_take hmem⟩
    · rw [or_iff_right hin]
      by_cases hbehind : start + length ≤ i
      · have hplace : length + (i - (start + length)) = i - start := by omega
        rw [hplace]
        exact and_congr_left fun _ => iff_of_true hbehind (by omega)
      · exact iff_of_false (fun h => hbehind h.1) fun h => hin ⟨h.1, by omega⟩
  | case3 start c rest length hpos ih =>
    have hout : ¬InWords c := fun h => hpos (wordLength_pos_iff.mpr h)
    rw [ih]
    rcases Nat.lt_trichotomy i start with hlt | rfl | hgt
    · exact iff_of_false (fun h => by omega) fun h => by omega
    · refine iff_of_false (fun h => by omega) ?_
      rintro ⟨_, d, hd, hin⟩
      rw [Nat.sub_self] at hd
      obtain rfl : c = d := Option.some.inj hd
      exact hout hin
    · obtain ⟨k, rfl⟩ : ∃ k, i = start + 1 + k := ⟨i - (start + 1), by omega⟩
      have hplace : start + 1 + k - start = k + 1 := by omega
      rw [Nat.add_sub_cancel_left, hplace, List.getElem?_cons_succ]
      exact and_congr_left fun _ => iff_of_true (by omega) (by omega)

lemma covered_wordSpans {text : List Char} {i : Nat} :
    Covered (wordSpans text) i ↔ ∃ c ∈ text[i]?, InWords c := by
  rw [wordSpans, covered_wordSpansFrom]
  simp

def wordCategories : List GeneralCategory :=
  [.uppercaseLetter, .lowercaseLetter, .otherLetter, .modifierLetter] ++ GeneralCategory.marks ++
    GeneralCategory.numbers

section Categories

variable {c : Char}

lemma contains_charsOf {categories : List GeneralCategory} :
    (GeneralCategory.charsOf categories).contains c = true ↔
    ∃ g ∈ categories, CharSet.Covers g.chars.ranges.toList c.toNat := by
  rw [CharSet.contains, GeneralCategory.charsOf, CharSet.containsCode_unions]
  simp

lemma isCapital_iff : isCapital c = true ↔ CharSet.Covers Unicode.uppercaseLetter.ranges.toList c.toNat :=
  CharSet.contains_iff (CharSet.spaced_of_isChain (by decide +kernel) (by decide +kernel))

lemma isTitlecase_iff : GeneralCategory.titlecaseLetter.contains c = true ↔
    CharSet.Covers Unicode.titlecaseLetter.ranges.toList c.toNat :=
  CharSet.contains_iff (CharSet.spaced_of_isChain (by decide) (by decide))

lemma inWords_iff_exists : InWords c ↔ ∃ g ∈ wordCategories, CharSet.Covers g.chars.ranges.toList c.toNat := by
  have hletters : isUncapitalized c = true ↔
      ∃ g ∈ [GeneralCategory.lowercaseLetter, .otherLetter, .modifierLetter] ++ GeneralCategory.marks,
        CharSet.Covers g.chars.ranges.toList c.toNat := by
    rw [isUncapitalized, CharSet.contains, uncapitalizedChars, CharSet.containsCode_unions]
    simp only [Unicode.markChars, GeneralCategory.charsOf, List.mem_cons, List.not_mem_nil, or_false,
      exists_eq_left, CharSet.covers_unions, List.mem_map, exists_exists_and_eq_and,
      List.mem_append, or_and_right, exists_or, or_assoc]
    rfl
  rw [InWords, isCapital_iff, hletters, Unicode.isNumber, Unicode.numberChars, contains_charsOf]
  simp only [wordCategories, List.mem_append, List.mem_cons, List.not_mem_nil, or_false, or_and_right,
    exists_or, exists_eq_left, or_assoc]
  rfl

lemma titlecase_apart : (wordCategories.all fun g => g.chars.ranges.toList.all fun r =>
    Unicode.titlecaseLetter.ranges.toList.all fun s => Nat.blt r.2 s.1 || Nat.blt s.2 r.1) = true := by
  decide +kernel

lemma inWords_iff : InWords c ↔ (Unicode.isLetter c = true ∨ Unicode.isMark c = true ∨
    Unicode.isNumber c = true) ∧ GeneralCategory.titlecaseLetter.contains c = false := by
  have hapart (h : InWords c) : GeneralCategory.titlecaseLetter.contains c = false := by
    obtain ⟨g, hg, r, hr, hcode⟩ := inWords_iff_exists.mp h
    rw [Bool.eq_false_iff]
    intro htitle
    obtain ⟨s, hs, hcode'⟩ := isTitlecase_iff.mp htitle
    have hdisjoint :=
      List.all_eq_true.mp (List.all_eq_true.mp (List.all_eq_true.mp titlecase_apart g hg) r hr) s hs
    simp only [Bool.or_eq_true, Nat.blt_eq] at hdisjoint
    omega
  have hall : Unicode.isLetter c = true ∨ Unicode.isMark c = true ∨ Unicode.isNumber c = true ↔
      InWords c ∨ GeneralCategory.titlecaseLetter.contains c = true := by
    have hcategories (g : GeneralCategory) : g ∈ GeneralCategory.letters ++ (GeneralCategory.marks ++
        GeneralCategory.numbers) ↔ g ∈ wordCategories ∨ g = .titlecaseLetter := by
      cases g <;> decide
    simp only [Unicode.isLetter, Unicode.isMark, Unicode.isNumber, Unicode.letterChars, Unicode.markChars,
      Unicode.numberChars, contains_charsOf, inWords_iff_exists, isTitlecase_iff, ← exists_or,
      ← or_and_right, ← List.mem_append, hcategories]
    simp only [or_and_right, exists_or, exists_eq_left]
    rfl
  rw [hall]
  constructor
  · exact fun h => ⟨.inl h, hapart h⟩
  · rintro ⟨h | h, hnot⟩
    · exact h
    · rw [h] at hnot
      cases hnot

end Categories

lemma Successive.eq_of_covers {spans : List (Nat × Nat)} (h : Successive spans) {s t : Nat × Nat}
    (hs : s ∈ spans) (ht : t ∈ spans) {i : Nat} (hsi : s.1 ≤ i ∧ i < s.2) (hti : t.1 ≤ i ∧ i < t.2) :
    s = t := by
  rcases eq_or_rel_of_pairwise h hs ht with heq | hle
  · exact heq
  · omega

/-- The words of a text come one after the other, and none is empty. Each mark and number is in exactly one of
them, and so is each letter that is not in title case. Nothing else is in any. -/
theorem wordSpans_cover (text : List Char) : Successive (wordSpans text) ∧
    (∀ s ∈ wordSpans text, s.1 < s.2 ∧ s.2 ≤ text.length) ∧
    ∀ i c, text[i]? = some c →
      (((Unicode.isLetter c = true ∨ Unicode.isMark c = true ∨ Unicode.isNumber c = true) ∧
        GeneralCategory.titlecaseLetter.contains c = false) →
          ∃! s, s ∈ wordSpans text ∧ s.1 ≤ i ∧ i < s.2) ∧
      (¬((Unicode.isLetter c = true ∨ Unicode.isMark c = true ∨ Unicode.isNumber c = true) ∧
        GeneralCategory.titlecaseLetter.contains c = false) →
          ∀ s ∈ wordSpans text, ¬(s.1 ≤ i ∧ i < s.2)) := by
  refine ⟨successive_wordSpans text, fun s hs => ⟨lt_of_mem_wordSpans hs, (wordSpans_le_length text s hs).2⟩,
    fun i c hc => ?_⟩
  have hcovered : Covered (wordSpans text) i ↔ InWords c := by
    rw [covered_wordSpans, hc]
    simp
  rw [← inWords_iff, ← hcovered]
  refine ⟨?_, fun hnot s hs hin => hnot ⟨s, hs, hin⟩⟩
  rintro ⟨s, hs, hin⟩
  exact ⟨s, ⟨hs, hin⟩, fun t ht => (successive_wordSpans text).eq_of_covers ht.1 hs ht.2 hin⟩

theorem wordSpans_cover_titlecase :
    let text := ['a', '\u01c5']
    (text[0]? = some 'a' ∧ Unicode.isLetter 'a' = true ∧
        GeneralCategory.titlecaseLetter.contains 'a' = false ∧
        ∃! s, s ∈ wordSpans text ∧ s.1 ≤ 0 ∧ 0 < s.2) ∧
      text[1]? = some '\u01c5' ∧ GeneralCategory.titlecaseLetter.contains '\u01c5' = true ∧
        ∀ s ∈ wordSpans text, ¬(s.1 ≤ 1 ∧ 1 < s.2) := by
  intro text
  obtain ⟨_, _, hcover⟩ := wordSpans_cover text
  have hletter : Unicode.isLetter 'a' = true :=
    contains_charsOf.mpr ⟨.lowercaseLetter, by decide, (0x61, 0x7A), List.mem_cons_self, by decide⟩
  have hplain : GeneralCategory.titlecaseLetter.contains 'a' = false := by
    rw [← Bool.not_eq_true, isTitlecase_iff]
    decide
  have htitle : GeneralCategory.titlecaseLetter.contains '\u01c5' = true := isTitlecase_iff.mpr (by decide)
  refine ⟨⟨rfl, hletter, hplain, (hcover 0 'a' rfl).1 ⟨.inl hletter, hplain⟩⟩, rfl, htitle,
    (hcover 1 '\u01c5' rfl).2 fun h => ?_⟩
  rw [htitle] at h
  cases h.2

theorem wordSpans_titlecase : Unicode.isLetter '\u01c5' = true ∧ wordSpans ['\u01c5'] = [] := by
  have htitle : GeneralCategory.titlecaseLetter.contains '\u01c5' = true := isTitlecase_iff.mpr (by decide)
  refine ⟨contains_charsOf.mpr ⟨.titlecaseLetter, by decide, isTitlecase_iff.mp htitle⟩, ?_⟩
  apply List.eq_nil_iff_forall_not_mem.mpr
  intro s hs
  have hlt := lt_of_mem_wordSpans hs
  have hle := (wordSpans_le_length _ s hs).2
  rw [List.length_singleton] at hle
  obtain ⟨c, hc, hin⟩ := covered_wordSpans.mp ⟨s, hs, (by omega : s.1 ≤ 0), by omega⟩
  obtain rfl : '\u01c5' = c := Option.some.inj hc
  have hnot := (inWords_iff.mp hin).2
  rw [htitle] at hnot
  cases hnot

end Referent
