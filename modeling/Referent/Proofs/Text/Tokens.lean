import Referent.Context
import Referent.Proofs.Regex.Language
import Referent.Proofs.Regex.Preference
import Referent.Proofs.Text.Identifiers
import Referent.Proofs.Text.Order

namespace Referent

lemma Regex.readsOnly_ofText {P : Char → Prop} {text : List Char} (h : ∀ c ∈ text, P c) :
    (ofText text).ReadsOnly P := by
  induction text with
  | nil => exact trivial
  | cons b text ih =>
    obtain ⟨hb, htext⟩ := List.forall_mem_cons.mp h
    exact ⟨fun c hc => contains_singleton.mp hc ▸ hb, ih htext⟩

lemma Regex.Spells.ne_nil {r : Regex} {w : List Char} (h : r.Spells w) (hr : r.Advances) : w ≠ [] := by
  rintro rfl
  have hmem : Place.start [] ∈ r.ends (.start []) := mem_ends_of_spells h (Place.reads_nil.mpr rfl)
  exact Nat.lt_irrefl _ (hr _ _ hmem)

namespace Token

open Unicode (GeneralCategory)

variable {separators : List (List Char)} {text w : List Char} {p q : Place} {prev : Option Char}

section Identifier

def laterRun (separator : Regex) : Regex := (separator.plus true).concat identifierRun

def runs (separator : Regex) : Regex :=
  (separator.star true).concat (identifierRun.concat ((laterRun separator).star true))

def InIdentifier (separators : List (List Char)) (c : Char) : Prop :=
  identifierChars.contains c = true ∨ ∃ s ∈ separators, c ∈ s

lemma readsOnly_identifierRun : identifierRun.ReadsOnly fun c => identifierChars.contains c = true :=
  fun _ => id

lemma readsOnly_identifier (separators : List (List Char)) :
    (identifier separators).ReadsOnly (InIdentifier separators) := by
  have hrun : identifierRun.ReadsOnly (InIdentifier separators) := fun _ => .inl
  have hseparator : (Regex.oneOf (separators.map Regex.ofText)).ReadsOnly (InIdentifier separators) := by
    refine Regex.readsOnly_oneOf (List.forall_mem_map.mpr fun s hs => ?_)
    exact Regex.readsOnly_ofText fun c hc => .inr ⟨s, hs, hc⟩
  unfold identifier
  split
  · exact hrun
  · have hlater : (laterRun (Regex.oneOf (separators.map Regex.ofText))).ReadsOnly (InIdentifier separators) :=
      ⟨hseparator, hrun⟩
    exact ⟨Regex.readsOnly_star hseparator, hrun, Regex.readsOnly_star hlater⟩

lemma isIdentifier_iff : isIdentifier separators text = true ↔ (identifier separators).Spells text :=
  Regex.matchesAll_iff_spells (readsOnly_identifier separators)

lemma exists_mem_of_spells (h : (identifier separators).Spells w) :
    ∃ c ∈ w, identifierChars.contains c = true := by
  have hrun {w : List Char} (h : identifierRun.Spells w) : ∃ c ∈ w, identifierChars.contains c = true := by
    obtain ⟨c, hc⟩ := List.exists_mem_of_ne_nil w (h.ne_nil ((Regex.advances_chars _).plus true))
    exact ⟨c, hc, h.forall_mem readsOnly_identifierRun c hc⟩
  unfold identifier at h
  split at h
  · exact hrun h
  · change (runs _).Spells w at h
    cases h with
    | concat hbefore h =>
      cases h with
      | concat h hafter =>
        obtain ⟨c, hc, hcontains⟩ := hrun h
        exact ⟨c, List.mem_append_right _ (List.mem_append_left _ hc), hcontains⟩

lemma not_isIdentifier_of_symbols (h : ∀ c ∈ text, identifierChars.contains c = false) :
    isIdentifier separators text = false := by
  rw [← Bool.not_eq_true, isIdentifier_iff]
  intro hspells
  obtain ⟨c, hc, hcontains⟩ := exists_mem_of_spells hspells
  exact Bool.false_ne_true ((h c hc).symm.trans hcontains)

def isAsciiSymbol (code : Nat) : Bool :=
  Nat.blt code 0x30 || (Nat.blt 0x39 code && Nat.blt code 0x41) || (Nat.blt 0x5A code && Nat.blt code 0x61) ||
    (Nat.blt 0x7A code && Nat.blt code 0x80)

lemma identifierChars_ascii : ((GeneralCategory.letters ++ GeneralCategory.marks ++ GeneralCategory.numbers).all
    fun g => g.chars.ranges.toList.all fun r => Nat.ble 0x80 r.1 || (Nat.ble 0x30 r.1 && Nat.ble r.2 0x39) ||
      (Nat.ble 0x41 r.1 && Nat.ble r.2 0x5A) || (Nat.ble 0x61 r.1 && Nat.ble r.2 0x7A)) = true := by
  decide +kernel

lemma not_contains_of_isAsciiSymbol {c : Char} (h : isAsciiSymbol c.toNat = true) :
    identifierChars.contains c = false := by
  rw [Bool.eq_false_iff]
  intro hcontains
  obtain ⟨g, hg, r, hr, hlow, hhigh⟩ := (contains_identifierChars c).mp hcontains
  have hrange := List.all_eq_true.mp (List.all_eq_true.mp identifierChars_ascii g hg) r hr
  simp only [isAsciiSymbol, Bool.or_eq_true, Bool.and_eq_true, Nat.ble_eq, Nat.blt_eq] at h hrange
  omega

lemma not_identifierChars_symbols : ∀ c ∈ '.' :: operators.flatten, identifierChars.contains c = false := by
  have hsymbols : ('.' :: operators.flatten).all (fun c => isAsciiSymbol c.toNat) = true := by decide
  exact fun c hc => not_contains_of_isAsciiSymbol (List.all_eq_true.mp hsymbols c hc)

lemma not_isIdentifier_of_dot (hdot : ∀ s ∈ separators, '.' ∉ s) (h : '.' ∈ text) :
    isIdentifier separators text = false := by
  rw [← Bool.not_eq_true, isIdentifier_iff]
  intro hspells
  rcases hspells.forall_mem (readsOnly_identifier separators) '.' h with hcontains | ⟨s, hs, hmem⟩
  · exact Bool.false_ne_true ((not_identifierChars_symbols '.' List.mem_cons_self).symm.trans hcontains)
  · exact hdot s hs hmem

lemma ends_run_of_head? {separator : Regex} (h : ((runs separator).ends p).head? = some q) :
    identifierRun.ends q = [] ∧ (laterRun separator).ends q = [] := by
  have hchars := Regex.advances_chars identifierChars
  have hlater : (laterRun separator).Advances := (hchars.plus true).concat _
  rw [runs, Regex.head?_ends_concat] at h
  obtain ⟨m, -, h⟩ := List.exists_of_findSome?_eq_some h
  rw [Regex.head?_ends_concat] at h
  cases hrun : identifierRun.ends m with
  | nil =>
    rw [hrun] at h
    cases h
  | cons m' ms =>
    obtain ⟨q', hq', hlast, hbehind⟩ := Regex.exists_head?_ends_star hlater m'
    obtain rfl : q' = q := by
      rw [hrun, List.findSome?_cons, hq'] at h
      exact Option.some.inj h
    obtain ⟨a, ha⟩ : ∃ a, (identifierRun.ends a).head? = some q' := by
      rcases hbehind with rfl | ⟨a, ha⟩
      · exact ⟨m, by rw [hrun, List.head?_cons]⟩
      · rw [laterRun, Regex.head?_ends_concat] at ha
        obtain ⟨b, -, hb⟩ := List.exists_of_findSome?_eq_some ha
        exact ⟨b, hb⟩
    exact ⟨Regex.ends_plus_of_nil (Regex.head?_ends_plus hchars ha).1 true, hlast⟩

lemma ends_identifier_of_head? (h : ((identifier separators).ends p).head? = some q) :
    (identifier separators).ends q = [] := by
  unfold identifier at h ⊢
  split at h
  · exact Regex.ends_plus_of_nil (Regex.head?_ends_plus (Regex.advances_chars _) h).1 true
  · obtain ⟨hrun, hlater⟩ := ends_run_of_head? h
    change (runs _).ends q = []
    refine List.eq_nil_iff_forall_not_mem.mpr fun q' hq' => ?_
    obtain ⟨m, hm, hq'⟩ := Regex.mem_ends_concat.mp hq'
    obtain ⟨m', hm', -⟩ := Regex.mem_ends_concat.mp hq'
    rcases Regex.mem_ends_alt.mp hm with hm | hm
    · have hmem := Regex.mem_ends_concat.mpr ⟨m, hm, hm'⟩
      rw [← laterRun, hlater] at hmem
      exact List.not_mem_nil hmem
    · rw [List.mem_singleton.mp hm, hrun] at hm'
      exact List.not_mem_nil hm'

end Identifier

section Length

lemma mem_take_of_decimalLength? {n : Nat} (h : decimalLength? text = some n) : '.' ∈ text.take n := by
  unfold decimalLength? at h
  dsimp only at h
  split at h
  · next rest hrest =>
    split at h
    · obtain rfl := Option.some.inj h
      rw [Nat.add_assoc, List.take_add, hrest, Nat.add_comm 1, List.take_succ_cons]
      exact List.mem_append_right _ List.mem_cons_self
    · cases h
  · cases h

lemma lengthAt_cases (identifier : Regex) (prev : Option Char) (text : List Char) :
    (∃ o ∈ operators, o <+: text ∧ lengthAt identifier prev text = o.length) ∨
    decimalLength? text = some (lengthAt identifier prev text) ∨
    identifier.matchLength? text = some (lengthAt identifier prev text) ∨
    identifier.matchLength? text = none := by
  unfold lengthAt
  split
  · next o ho =>
    have hprefix : o.isPrefixOf text = true := List.find?_some (p := (List.isPrefixOf · text)) ho
    exact .inl ⟨o, List.mem_of_find?_eq_some ho, List.isPrefixOf_iff_prefix.mp hprefix, rfl⟩
  · split
    · next n hn =>
      unfold standaloneDecimal? at hn
      split at hn
      · cases hn
      · exact .inr (.inl (Option.filter_eq_some_iff.mp hn).1)
    · split
      · next hn => exact .inr (.inr (.inl hn))
      · next hn => exact .inr (.inr (.inr hn))

lemma not_isIdentifier_behind (hdot : ∀ s ∈ separators, '.' ∉ s)
    (h : isIdentifier separators (text.take (max 1 (lengthAt (identifier separators) prev text))) = true)
    (hw : w <+: text.drop (max 1 (lengthAt (identifier separators) prev text))) :
    isIdentifier separators w = false := by
  rcases lengthAt_cases (identifier separators) prev text with
    ⟨o, ho, hprefix, hlength⟩ | hdecimal | hmatch | hmatch
  -- The token itself is no identifier if it is an operator or a decimal number, or if none begins with it.
  · have hpos : 1 ≤ o.length := (by decide : ∀ o ∈ operators, 1 ≤ o.length) o ho
    have hsymbols : isIdentifier separators o = false := not_isIdentifier_of_symbols fun c hc =>
      not_identifierChars_symbols c (List.mem_cons_of_mem _ (List.mem_flatten.mpr ⟨o, ho, hc⟩))
    rw [hlength, Nat.max_eq_right hpos, ← List.prefix_iff_eq_take.mp hprefix, hsymbols] at h
    cases h
  · have hmem := mem_take_of_decimalLength? hdecimal
    have hle := Nat.le_max_right 1 (lengthAt (identifier separators) prev text)
    rw [not_isIdentifier_of_dot hdot ((List.take_prefix_take_left hle).subset hmem)] at h
    cases h
  · obtain ⟨q, hq, hindex⟩ := Option.map_eq_some_iff.mp hmatch
    obtain ⟨v, hv, hreads⟩ := Regex.exists_spells (readsOnly_identifier separators) (List.mem_of_mem_head? hq)
    obtain ⟨c, hc, -⟩ := exists_mem_of_spells hv
    have hlength : max 1 (lengthAt (identifier separators) prev text) = v.length := by
      have hstop : q.index = 0 + v.length := hreads.index
      have hpos := List.length_pos_of_mem hc
      omega
    have htext : text = v ++ q.rest := hreads.rest
    rw [hlength, htext, List.drop_left] at hw
    rw [← Bool.not_eq_true, isIdentifier_iff]
    exact Regex.not_spells_of_ends_nil (ends_identifier_of_head? hq) hw
  · have hnone : (identifier separators).ends (.start text) = [] :=
      List.head?_eq_none_iff.mp (Option.map_eq_none_iff.mp hmatch)
    exact absurd (isIdentifier_iff.mp h) (Regex.not_spells_of_ends_nil hnone (List.take_prefix _ _))

end Length

section Division

variable {r : Regex} {start : Nat} {s t : Token}

lemma exists_visible (h : t ∈ ofTextFrom r start prev text) :
    ∃ c ∈ t.text.head?, isHorizontalSpace c = false ∧ isLineEnding c = false := by
  fun_induction ofTextFrom r start prev text with
  | case1 start prev => exact absurd h List.not_mem_nil
  | case2 start prev c rest hspace ih => exact ih h
  | case3 start prev c rest hspace length token ih =>
    rcases List.mem_cons.mp h with rfl | h
    · refine ⟨c, ?_, by simpa using hspace⟩
      have hpos : 0 < length := Nat.le_max_left 1 _
      obtain ⟨n, hn⟩ := Nat.exists_eq_succ_of_ne_zero hpos.ne'
      show ((c :: rest).take length).head? = some c
      rw [hn, List.take_succ_cons, List.head?_cons]
    · exact ih h

lemma covered_or_blank (r : Regex) (start : Nat) (prev : Option Char) (text : List Char) :
    ∀ i, ∀ c ∈ text[i]?,
      (∃ t ∈ ofTextFrom r start prev text, t.start ≤ start + i ∧ start + i < t.stop) ∨
      isHorizontalSpace c = true ∨ isLineEnding c = true := by
  fun_induction ofTextFrom r start prev text with
  | case1 start prev => simp
  | case2 start prev c rest hspace ih =>
    intro i d hd
    cases i with
    | zero =>
      obtain rfl : c = d := Option.some.inj hd
      exact .inr (by simpa using hspace)
    | succ i =>
      rcases ih i d hd with ⟨t, ht, hlow, hhigh⟩ | hblank
      · exact .inl ⟨t, ht, by omega, by omega⟩
      · exact .inr hblank
  | case3 start prev c rest hspace length token ih =>
    intro i d hd
    by_cases hi : i < token.length
    · exact .inl ⟨_, List.mem_cons_self, Nat.le_add_right _ _, Nat.add_lt_add_left hi _⟩
    · have hd' : d ∈ ((c :: rest).drop length)[i - token.length]? := by
        rw [← List.take_append_drop length (c :: rest), List.getElem?_append_right (Nat.not_lt.mp hi)] at hd
        exact hd
      rcases ih (i - token.length) d hd' with ⟨t, ht, hlow, hhigh⟩ | hblank
      · exact .inl ⟨t, List.mem_cons_of_mem _ ht, by omega, by omega⟩
      · exact .inr hblank

lemma not_isIdentifier_of_touching (hdot : ∀ s ∈ separators, '.' ∉ s)
    (hs : s ∈ ofTextFrom (identifier separators) start prev text)
    (ht : t ∈ ofTextFrom (identifier separators) start prev text) (htouch : s.stop = t.start) :
    ¬(isIdentifier separators s.text = true ∧ isIdentifier separators t.text = true) := by
  have hlt := lt_of_mem_ofTextFrom hs
  fun_induction ofTextFrom (identifier separators) start prev text with
  | case1 start prev => cases hs
  | case2 start prev c rest hspace ih => exact ih hs ht
  | case3 start prev c rest hspace length token ih =>
    rcases List.mem_cons.mp hs with rfl | hs
    · rcases List.mem_cons.mp ht with rfl | ht
      · exact absurd htouch hlt.ne'
      · obtain ⟨before, after, hdrop, hstart, -⟩ := exists_around ht
        obtain rfl : before = [] := List.length_eq_zero_iff.mp (by dsimp only at htouch; omega)
        rintro ⟨hfirst, hsecond⟩
        rw [not_isIdentifier_behind hdot hfirst ⟨after, hdrop.symm⟩] at hsecond
        cases hsecond
    · have hle := le_of_mem_ofTextFrom hs
      rcases List.mem_cons.mp ht with rfl | ht
      · dsimp only at htouch
        omega
      · exact ih hs ht

/-- Whether tokens lie in a line one after the other, and nothing but blanks lies between them. -/
structure Divides (text : List Char) (tokens : List Token) : Prop extends Along text tokens where
  visible : ∀ t ∈ tokens, ∃ c ∈ t.text.head?, isHorizontalSpace c = false ∧ isLineEnding c = false
  blank : ∀ i, ∀ c ∈ text[i]?, (∃ t ∈ tokens, t.start ≤ i ∧ i < t.stop) ∨
    isHorizontalSpace c = true ∨ isLineEnding c = true

lemma divides_ofText (separators : List (List Char)) (text : List Char) :
    Divides text (ofText separators text) where
  toAlong := along_ofText separators text
  visible _ ht := exists_visible ht
  blank i c hc := by
    have hcovered := covered_or_blank (identifier separators) 0 none text i c hc
    rwa [Nat.zero_add] at hcovered

/-- However a language is configured, its tokens divide every line, and no two identifiers among
them touch unless one of its separators has a dot. With such a one a decimal number is an identifier
too, and stops before the letters that follow it. -/
theorem divides_line (cx : Context) (language : String) (line : List Char) :
    Divides line (ofText (cx.separators language) line) ∧
      ((∀ s ∈ cx.config.separatorsFor language, '.' ∉ s.toList) →
        ∀ s ∈ ofText (cx.separators language) line, ∀ t ∈ ofText (cx.separators language) line,
          s.stop = t.start → ¬(isIdentifier (cx.separators language) s.text = true ∧
            isIdentifier (cx.separators language) t.text = true)) := by
  refine ⟨divides_ofText _ line, fun hdot s hs t ht htouch => ?_⟩
  exact not_isIdentifier_of_touching (List.forall_mem_map.mpr hdot) hs ht htouch

lemma ofText_letterDot : ofText [['_']] ['a', '.'] = [⟨0, 1, ['a']⟩, ⟨1, 2, ['.']⟩] := by
  have hletter : identifierChars.contains 'a' = true :=
    (contains_identifierChars 'a').mpr
      ⟨.lowercaseLetter, by decide, (0x61, 0x7A), List.mem_cons_self, by decide⟩
  have hdot := not_identifierChars_symbols '.' List.mem_cons_self
  have hstops : Stops [['_']] ['.'] := stops_cons hdot (by simp)
  have hfirst : lengthAt (identifier [['_']]) none ['a', '.'] = 1 :=
    lengthAt_of_single (by decide) (by simp [standaloneDecimal?, decimalLength?]) hletter (by simp) hstops
  have hsecond : lengthAt (identifier [['_']]) (some 'a') ['.'] = 1 :=
    lengthAt_of_stops (by decide) (by simp [standaloneDecimal?, decimalLength?]) hstops (by decide)
  have ha : (isHorizontalSpace 'a' || isLineEnding 'a') = false := by decide
  have hvisible : (isHorizontalSpace '.' || isLineEnding '.') = false := by decide
  simp [ofText, ofTextFrom, hfirst, hsecond, ha, hvisible]

theorem divides_line_letterDot : (∀ s ∈ ({} : Context).config.separatorsFor "plaintext", '.' ∉ s.toList) ∧
    ofText [['_']] ['a', '.'] = [⟨0, 1, ['a']⟩, ⟨1, 2, ['.']⟩] ∧
    ¬(isIdentifier [['_']] ['a'] = true ∧ isIdentifier [['_']] ['.'] = true) := by
  have hdot : ∀ s ∈ ({} : Context).config.separatorsFor "plaintext", '.' ∉ s.toList := by decide
  have hseparators : ({} : Context).separators "plaintext" = [['_']] := by decide
  have happart := (divides_line {} "plaintext" ['a', '.']).2 hdot
  rw [hseparators, ofText_letterDot] at happart
  exact ⟨hdot, ofText_letterDot, happart ⟨0, 1, ['a']⟩ (by simp) ⟨1, 2, ['.']⟩ (by simp) rfl⟩

end Division

end Token

end Referent
