import Referent.Proofs.Pair.Windows

/-! Quotes open and close pairs in turn on each line. In a window that begins within a line, this goes
wrong if an odd number of quotes is cut off. -/

namespace Referent

structure Delimiter.IsQuote (d : Delimiter) (c : Char) : Prop where
  opening : d.opening = [c]
  closing : d.closing = [c]
  isSingleLine : d.isSingleLine = true
  no_break : c ≠ '\r' ∧ c ≠ '\n'

def PairName.quote : PairName → Char
  | .singleQuotes => '\''
  | _ => '"'

lemma Delimiter.ofName_quote {name : PairName} (h : name ∈ [PairName.doubleQuotes, .singleQuotes])
    (language : String) : ∃ d, Delimiter.ofName name language = [d] ∧ d.IsQuote name.quote := by
  simp only [List.mem_cons, List.not_mem_nil, or_false] at h
  rcases h with rfl | rfl
  · exact ⟨⟨.doubleQuotes, ['"'], ['"']⟩, ofName_eq (by decide), rfl, rfl, rfl, by decide⟩
  · exact ⟨⟨.singleQuotes, ['\''], ['\'']⟩, ofName_eq (by decide), rfl, rfl, rfl, by decide⟩

namespace Occurrence

variable {c : Char} {text : List Char}

def QuoteAt (c : Char) (text : List Char) (k : Nat) : Prop :=
  text[k]? = some c ∧ charBefore text k ≠ some '\\'

instance (c : Char) (text : List Char) (k : Nat) : Decidable (QuoteAt c text k) :=
  inferInstanceAs (Decidable (_ ∧ _))

/-- The number of quotes before a place on its line. -/
def quotesBefore (c : Char) (text : List Char) : Nat → Nat
  | 0 => 0
  | k + 1 =>
    if text[k]? = some '\n' then 0
    else quotesBefore c text k + if QuoteAt c text k then 1 else 0

lemma quotesBefore_succ (text : List Char) (k : Nat) :
    quotesBefore c text (k + 1) = if text[k]? = some '\n' then 0
      else quotesBefore c text k + if QuoteAt c text k then 1 else 0 := rfl

structure OpenQuote (c : Char) (text : List Char) (a i : Nat) : Prop where
  lt : a < i
  opening : QuoteAt c text a
  between : ∀ k, a < k → k < i → ¬QuoteAt c text k ∧ text[k]? ≠ some '\n'
  even : quotesBefore c text a % 2 = 0

structure QuotesPair (c : Char) (text : List Char) (a b : Nat) : Prop
    extends OpenQuote c text a b where
  closing : QuoteAt c text b

def quotePair (d : Delimiter) (a b : Nat) : Occurrence × Occurrence :=
  (⟨a, a + 1, d, .left⟩, ⟨b, b + 1, d, .right⟩)

lemma QuoteAt.lt_length {k : Nat} (h : QuoteAt c text k) : k < text.length :=
  (List.getElem?_eq_some_iff.mp h.1).1

lemma OpenQuote.next {a i : Nat} (h : OpenQuote c text a i) (hi : ¬QuoteAt c text i)
    (hbreak : text[i]? ≠ some '\n') : OpenQuote c text a (i + 1) where
  lt := Nat.lt_succ_of_lt h.lt
  opening := h.opening
  between k hk hk' := by
    rcases Nat.lt_succ_iff_lt_or_eq.mp hk' with hlt | rfl
    · exact h.between k hk hlt
    · exact ⟨hi, hbreak⟩
  even := h.even

lemma OpenQuote.self {a : Nat} (h : QuoteAt c text a) (heven : quotesBefore c text a % 2 = 0) :
    OpenQuote c text a (a + 1) :=
  ⟨Nat.lt_succ_self a, h, fun k hk hk' => by omega, heven⟩

lemma OpenQuote.quotesBefore_eq {a i : Nat} (h : OpenQuote c text a i) (hc : c ≠ '\n') :
    quotesBefore c text i = quotesBefore c text a + 1 := by
  obtain ⟨k, rfl⟩ : ∃ k, i = a + 1 + k := ⟨i - (a + 1), by have := h.lt; omega⟩
  induction k with
  | zero =>
    have hbreak : text[a]? ≠ some '\n' := fun hbreak => hc (Option.some.inj (h.opening.1.symm.trans hbreak))
    rw [Nat.add_zero, quotesBefore, if_neg hbreak, if_pos h.opening]
  | succ k ih =>
    obtain ⟨hquote, hbreak⟩ := h.between (a + 1 + k) (by omega) (by omega)
    have hopen : OpenQuote c text a (a + 1 + k) :=
      ⟨by omega, h.opening, fun j hj hj' => h.between j hj (by omega), h.even⟩
    rw [← Nat.add_assoc, quotesBefore, if_neg hbreak, if_neg hquote, ih hopen]

lemma QuotesPair.cases_of_open {a b a' i : Nat} (hi : OpenQuote c text a' i)
    (h : QuotesPair c text a b) (hle : a' ≤ a) : (a = a' ∧ i ≤ b) ∨ i ≤ a := by
  rcases Nat.eq_or_lt_of_le hle with rfl | hlt
  · refine .inl ⟨rfl, ?_⟩
    by_contra hb
    exact (hi.between b h.lt (Nat.not_le.mp hb)).1 h.closing
  · refine .inr ?_
    by_contra ha
    exact (hi.between a hlt (Nat.not_le.mp ha)).1 h.opening

def OpensFrom (d : Delimiter) (c : Char) (text : List Char) (i : Nat) (q : Occurrence × Occurrence) :
    Prop :=
  ∃ a b, quotePair d a b = q ∧ QuotesPair c text a b ∧ i ≤ a

/-- What is found in the rest of a text, where no quote is open and where one is. -/
structure FindsFrom (d : Delimiter) (c : Char) (text : List Char) (i : Nat) : Prop where
  closed (stack : List Occurrence) (q : Occurrence × Occurrence) : quotesBefore c text i % 2 = 0 →
    (q ∈ matchFrom stack (scan [d] [] i (charBefore text i) (text.drop i)) ↔ OpensFrom d c text i q)
  opened (stack : List Occurrence) (q : Occurrence × Occurrence) (a' : Nat) : OpenQuote c text a' i →
    (q ∈ matchFrom (⟨a', a' + 1, d, .left⟩ :: stack)
      (scan [d] [d] i (charBefore text i) (text.drop i)) ↔ OpensFrom d c text a' q)

section Scan

variable {d : Delimiter} (hd : d.IsQuote c)

include hd

lemma delimiterAt?_quote (x : Char) (rest : List Char) :
    delimiterAt? [d] (x :: rest) = if x = c then some (d, .left) else none := by
  by_cases hx : x = c
  · simp [delimiterAt?, hd.opening, hx]
  · simp [delimiterAt?, hd.opening, hd.closing, hx, Ne.symm hx]

lemma scan_break {opened : List Delimiter} {i : Nat} (hopened : ∀ d' ∈ opened, d' = d)
    (hi : text[i]? = some '\n') :
    scan [d] opened i (charBefore text i) (text.drop i) =
      scan [d] [] (i + 1) (charBefore text (i + 1)) (text.drop (i + 1)) := by
  obtain ⟨hlt, hbreak⟩ := List.getElem?_eq_some_iff.mp hi
  have hnone : opened.filter (fun d' => !d'.isSingleLine) = [] :=
    List.filter_eq_nil_iff.mpr fun d' hd' => by simp [hopened d' hd', hd.isSingleLine]
  rw [List.drop_eq_getElem_cons hlt, scan, if_pos hbreak, hnone, charBefore, hi, hbreak]

lemma scan_other {opened : List Delimiter} {i : Nat} (hlt : i < text.length)
    (hbreak : text[i]? ≠ some '\n') (hi : ¬QuoteAt c text i) :
    scan [d] opened i (charBefore text i) (text.drop i) =
      scan [d] opened (i + 1) (charBefore text (i + 1)) (text.drop (i + 1)) := by
  have hget := List.getElem?_eq_getElem hlt
  rw [hget, ne_eq, Option.some.injEq] at hbreak
  rw [List.drop_eq_getElem_cons hlt, scan, if_neg hbreak, charBefore, hget]
  split
  · rfl
  · next hfree =>
    have hother : text[i] ≠ c := fun heq => hi ⟨hget.trans (congrArg some heq), hfree⟩
    rw [delimiterAt?_quote hd, if_neg hother]

lemma scan_quote {opened : List Delimiter} {i : Nat} (hi : QuoteAt c text i) :
    scan [d] opened i (charBefore text i) (text.drop i) =
      if opened.contains d then
        ⟨i, i + 1, d, .right⟩ :: scan [d] (opened.filter (· ≠ d)) (i + 1) (charBefore text (i + 1))
          (text.drop (i + 1))
      else
        ⟨i, i + 1, d, .left⟩ :: scan [d] (d :: opened) (i + 1) (charBefore text (i + 1))
          (text.drop (i + 1)) := by
  obtain ⟨hlt, hc⟩ := List.getElem?_eq_some_iff.mp hi.1
  have hbreak : text[i] ≠ '\n' := hc ▸ hd.no_break.2
  have hsides : d.isSymmetric = true := by simp [Delimiter.isSymmetric, hd.opening, hd.closing]
  have hwidth : max 1 (textOf d .left).length = 1 := by simp [textOf, hd.opening]
  rw [List.drop_eq_getElem_cons hlt, scan, if_neg hbreak, if_neg hi.2, delimiterAt?_quote hd,
    if_pos hc, charBefore, hi.1]
  simp only [hwidth, hsides, if_true, List.drop_succ_cons, List.drop_zero, List.take_succ_cons,
    List.take_zero, List.getLast?_singleton, hc]

omit hd in
lemma opensFrom_succ {i : Nat} (hi : ¬QuoteAt c text i) (q : Occurrence × Occurrence) :
    OpensFrom d c text (i + 1) q ↔ OpensFrom d c text i q := by
  constructor
  · rintro ⟨a, b, hq, hpair, hle⟩
    exact ⟨a, b, hq, hpair, Nat.le_of_succ_le hle⟩
  · rintro ⟨a, b, hq, hpair, hle⟩
    exact ⟨a, b, hq, hpair, Nat.lt_of_le_of_ne hle fun heq => hi (heq ▸ hpair.opening)⟩

lemma FindsFrom.of_break {i : Nat} (h : FindsFrom d c text (i + 1)) (hbreak : text[i]? = some '\n') :
    FindsFrom d c text i := by
  have hquote : ¬QuoteAt c text i := fun hi => hd.no_break.2 (Option.some.inj (hi.1.symm.trans hbreak))
  have hstart : quotesBefore c text (i + 1) % 2 = 0 := by rw [quotesBefore, if_pos hbreak]
  refine ⟨fun stack q _ => ?_, fun stack q a' hopen => ?_⟩
  · rw [scan_break hd (by simp) hbreak, h.closed stack q hstart, opensFrom_succ hquote]
  · rw [scan_break hd (by simp) hbreak, h.closed _ q hstart]
    constructor
    · rintro ⟨a, b, hq, hpair, hle⟩
      have hlt := hopen.lt
      exact ⟨a, b, hq, hpair, by omega⟩
    · rintro ⟨a, b, hq, hpair, hle⟩
      refine ⟨a, b, hq, hpair, ?_⟩
      rcases hpair.cases_of_open hopen hle with ⟨rfl, hb⟩ | ha
      · have hlt : i < b := Nat.lt_of_le_of_ne hb fun heq => hquote (heq ▸ hpair.closing)
        exact absurd hbreak (hpair.between i hopen.lt hlt).2
      · exact Nat.lt_of_le_of_ne ha fun heq => hquote (heq ▸ hpair.opening)

omit hd in
lemma opensFrom_of_open {a' i : Nat} (hopen : OpenQuote c text a' i) (hquote : QuoteAt c text i)
    (hc : c ≠ '\n') (q : Occurrence × Occurrence) :
    OpensFrom d c text a' q ↔ q = quotePair d a' i ∨ OpensFrom d c text (i + 1) q := by
  constructor
  · rintro ⟨a, b, rfl, hpair, hle⟩
    rcases hpair.cases_of_open hopen hle with ⟨rfl, hb⟩ | ha
    · obtain rfl : b = i := by
        by_contra hne
        exact (hpair.between i hopen.lt (by omega)).1 hquote
      exact .inl rfl
    · refine .inr ⟨a, b, rfl, hpair, Nat.lt_of_le_of_ne ha ?_⟩
      rintro rfl
      have heven := hpair.even
      have heven' := hopen.even
      rw [hopen.quotesBefore_eq hc] at heven
      omega
  · rintro (rfl | ⟨a, b, hq, hpair, hle⟩)
    · exact ⟨a', i, rfl, ⟨hopen, hquote⟩, Nat.le_refl _⟩
    · have hlt := hopen.lt
      exact ⟨a, b, hq, hpair, by omega⟩

lemma FindsFrom.of_quote {i : Nat} (h : FindsFrom d c text (i + 1)) (hquote : QuoteAt c text i) :
    FindsFrom d c text i := by
  have hc := hd.no_break.2
  have hbreak : text[i]? ≠ some '\n' := fun hbreak => hc (Option.some.inj (hquote.1.symm.trans hbreak))
  refine ⟨fun stack q heven => ?_, fun stack q a' hopen => ?_⟩
  · rw [scan_quote hd hquote]
    exact h.opened stack q i (.self hquote heven)
  · have hstart : quotesBefore c text (i + 1) % 2 = 0 := by
      have heven := hopen.even
      rw [quotesBefore, if_neg hbreak, if_pos hquote, hopen.quotesBefore_eq hc]
      omega
    rw [scan_quote hd hquote, if_pos (by simp), opensFrom_of_open hopen hquote hc]
    simp only [matchFrom, List.find?_cons_of_pos, decide_true, List.eraseP_cons_of_pos,
      ne_eq, not_true_eq_false, decide_false, Bool.false_eq_true, not_false_eq_true,
      List.filter_cons_of_neg, List.filter_nil, List.mem_cons]
    rw [h.closed stack q hstart]
    rfl

lemma FindsFrom.of_other {i : Nat} (h : FindsFrom d c text (i + 1)) (hlt : i < text.length)
    (hbreak : text[i]? ≠ some '\n') (hquote : ¬QuoteAt c text i) : FindsFrom d c text i := by
  refine ⟨fun stack q heven => ?_, fun stack q a' hopen => ?_⟩
  · have hstart : quotesBefore c text (i + 1) % 2 = 0 := by
      rwa [quotesBefore, if_neg hbreak, if_neg hquote]
    rw [scan_other hd hlt hbreak hquote, h.closed stack q hstart, opensFrom_succ hquote]
  · rw [scan_other hd hlt hbreak hquote]
    exact h.opened stack q a' (hopen.next hquote hbreak)

omit hd in
lemma findsFrom_end {i : Nat} (hle : text.length ≤ i) : FindsFrom d c text i := by
  have hlast {a b : Nat} (hpair : QuotesPair c text a b) : a < b ∧ b < i :=
    ⟨hpair.lt, Nat.lt_of_lt_of_le hpair.closing.lt_length hle⟩
  refine ⟨fun stack q _ => ?_, fun stack q a' hopen => ?_⟩
  · simp only [List.drop_eq_nil_of_le hle, scan, matchFrom]
    refine iff_of_false List.not_mem_nil ?_
    rintro ⟨a, b, _, hpair, hfrom⟩
    have hb := hlast hpair
    omega
  · simp only [List.drop_eq_nil_of_le hle, scan, matchFrom]
    refine iff_of_false List.not_mem_nil ?_
    rintro ⟨a, b, _, hpair, hfrom⟩
    have hb := hlast hpair
    rcases hpair.cases_of_open hopen hfrom with ⟨_, hi⟩ | hi
    · omega
    · omega

lemma findsFrom (text : List Char) (i : Nat) : FindsFrom d c text i := by
  induction hn : text.length - i generalizing i with
  | zero => exact findsFrom_end (by omega)
  | succ n ih =>
    have hlt : i < text.length := by omega
    have hrest : FindsFrom d c text (i + 1) := ih (i + 1) (by omega)
    by_cases hbreak : text[i]? = some '\n'
    · exact hrest.of_break hd hbreak
    · by_cases hquote : QuoteAt c text i
      · exact hrest.of_quote hd hquote
      · exact hrest.of_other hd hlt hbreak hquote

lemma mem_matched_quotes {q : Occurrence × Occurrence} :
    q ∈ matched (ofText [d] text) ↔ ∃ a b, quotePair d a b = q ∧ QuotesPair c text a b := by
  have h := (findsFrom hd text 0).closed [] q rfl
  simpa [charBefore, matched, ofText, OpensFrom] using h

end Scan

def EscapedAt (c : Char) (text : List Char) (k : Nat) : Prop :=
  text[k]? = some c ∧ charBefore text k = some '\\'

instance (c : Char) (text : List Char) (k : Nat) : Decidable (EscapedAt c text k) :=
  inferInstanceAs (Decidable (_ ∧ _))

def HasBreak (text : List Char) (a b : Nat) : Prop := ∃ k, a ≤ k ∧ k < b ∧ text[k]? = some '\n'

lemma hasBreak_succ {a b : Nat} (h : a ≤ b) :
    HasBreak text a (b + 1) ↔ HasBreak text a b ∨ text[b]? = some '\n' := by
  constructor
  · rintro ⟨k, hk, hk', hbreak⟩
    rcases Nat.lt_succ_iff_lt_or_eq.mp hk' with hlt | rfl
    · exact .inl ⟨k, hk, hlt, hbreak⟩
    · exact .inr hbreak
  · rintro (⟨k, hk, hk', hbreak⟩ | hbreak)
    · exact ⟨k, hk, Nat.lt_succ_of_lt hk', hbreak⟩
    · exact ⟨b, h, Nat.lt_succ_self b, hbreak⟩

section Part

variable {a b : Nat}

lemma getElem?_part {k : Nat} (hk : a + k < b) : (part text a b)[k]? = text[a + k]? := by
  rw [part, List.getElem?_take, if_pos (by omega), List.getElem?_drop]

lemma quoteAt_part {k : Nat} (hk : a + k < b) (hfirst : k = 0 → a = 0) :
    QuoteAt c (part text a b) k ↔ QuoteAt c text (a + k) := by
  rw [QuoteAt, QuoteAt, getElem?_part hk]
  cases k with
  | zero =>
    obtain rfl := hfirst rfl
    rfl
  | succ k => rw [charBefore_part text (by omega)]

lemma quoteAt_part_zero (hab : a < b) :
    QuoteAt c (part text a b) 0 ↔ QuoteAt c text a ∨ EscapedAt c text a := by
  have hget : (part text a b)[0]? = text[a]? := getElem?_part hab
  rw [QuoteAt, QuoteAt, EscapedAt, hget, charBefore, ← and_or_left]
  exact and_congr_right fun _ => iff_of_true (by simp) (ne_or_eq _ _)

lemma quotesBefore_part (c : Char) (text : List Char) {k : Nat} (hk : a + (k + 1) ≤ b) :
    (HasBreak text a (a + (k + 1)) ∧
        quotesBefore c (part text a b) (k + 1) = quotesBefore c text (a + (k + 1))) ∨
      (¬HasBreak text a (a + (k + 1)) ∧
        quotesBefore c text a + quotesBefore c (part text a b) (k + 1) =
          quotesBefore c text (a + (k + 1)) + if EscapedAt c text a then 1 else 0) := by
  induction k with
  | zero =>
    have hget : (part text a b)[0]? = text[a]? := getElem?_part (by omega)
    rw [hasBreak_succ (Nat.le_refl a), quotesBefore_succ, quotesBefore_succ, hget, quotesBefore]
    by_cases hbreak : text[a]? = some '\n'
    · simp [hbreak]
    · refine .inr ⟨by simp [hbreak, HasBreak]; omega, ?_⟩
      have hzero : QuoteAt c (part text a b) 0 ↔ QuoteAt c text a ∨ EscapedAt c text a :=
        quoteAt_part_zero (by omega)
      have hapart : QuoteAt c text a → ¬EscapedAt c text a := fun h h' => h.2 h'.2
      rw [if_neg hbreak, if_neg hbreak]
      split_ifs <;> first | omega | tauto
  | succ k ih =>
    have hget : (part text a b)[k + 1]? = text[a + (k + 1)]? := getElem?_part (by omega)
    have hquote : QuoteAt c (part text a b) (k + 1) ↔ QuoteAt c text (a + (k + 1)) :=
      quoteAt_part (by omega) (by omega)
    rw [← Nat.add_assoc, hasBreak_succ (by omega), quotesBefore_succ (part text a b),
      quotesBefore_succ text, hget]
    by_cases hbreak : text[a + (k + 1)]? = some '\n'
    · exact .inl ⟨.inr hbreak, by rw [if_pos hbreak, if_pos hbreak]⟩
    · rw [if_neg hbreak, if_neg hbreak]
      simp only [hquote, hbreak, or_false]
      rcases ih (by omega) with ⟨h, heq⟩ | ⟨h, heq⟩
      · exact .inl ⟨h, by rw [heq]⟩
      · exact .inr ⟨h, by omega⟩

lemma quotesPair_part {x y : Nat} (h : QuotesPair c (part text a b) x y) (hb : b ≤ text.length)
    (hfirst : x = 0 → a = 0) :
    QuotesPair c text (a + x) (a + y) ↔ quotesBefore c text (a + x) % 2 = 0 := by
  have hlt := h.lt
  have hlast := h.closing.lt_length
  rw [length_part hb] at hlast
  refine ⟨fun h => h.even, fun heven => ?_⟩
  refine ⟨⟨Nat.add_lt_add_left hlt a, (quoteAt_part (by omega) hfirst).mp h.opening, fun k hk hk' => ?_,
    heven⟩, (quoteAt_part (by omega) (by omega)).mp h.closing⟩
  obtain ⟨j, rfl⟩ : ∃ j, k = a + j := ⟨k - a, by omega⟩
  obtain ⟨hquote, hbreak⟩ := h.between j (by omega) (by omega)
  rw [quoteAt_part (by omega) (by omega)] at hquote
  rw [getElem?_part (by omega)] at hbreak
  exact ⟨hquote, hbreak⟩

lemma even_quotesBefore_part {x y : Nat} (h : QuotesPair c (part text a b) x y)
    (hb : b ≤ text.length) (hfirst : x = 0 → a = 0) :
    quotesBefore c text (a + x) % 2 = 0 ↔
      HasBreak text a (a + x) ∨
        (quotesBefore c text a + if EscapedAt c text a then 1 else 0) % 2 = 0 := by
  have hlast := h.opening.lt_length
  have heven := h.even
  rw [length_part hb] at hlast
  cases x with
  | zero =>
    obtain rfl := hfirst rfl
    have hescaped : ¬EscapedAt c text 0 := fun h => by simp [EscapedAt, charBefore] at h
    simp [quotesBefore, hescaped]
  | succ k =>
    have hk : a + (k + 1) ≤ b := by omega
    rcases quotesBefore_part c text hk with ⟨hbreak, heq⟩ | ⟨hbreak, heq⟩
    · rw [← heq]
      exact iff_of_true heven (.inl hbreak)
    · rw [or_iff_right hbreak]
      omega

end Part

end Occurrence

namespace PairSearch

open Occurrence

variable {δ : Delimiter} {c : Char} {d : Document}

lemma matchAt_quotePair (δ : Delimiter) (d : Document) (a x y : Nat) :
    matchAt d a (quotePair δ x y) = matchAt d 0 (quotePair δ (a + x) (a + y)) :=
  matchAt_shift d a (quotePair δ x y)

lemma offsets_quotePair (δ : Delimiter) (hc : c ≠ '\r' ∧ c ≠ '\n') {a b : Nat} (hlt : a < b)
    (ha : d.text[a]? = some c) (hb : d.text[b]? = some c) :
    d.offsetAt (matchAt d 0 (quotePair δ a b)).opening.start = a ∧
      d.offsetAt (matchAt d 0 (quotePair δ a b)).opening.stop = a + 1 ∧
      d.offsetAt (matchAt d 0 (quotePair δ a b)).closing.start = b ∧
      d.offsetAt (matchAt d 0 (quotePair δ a b)).closing.stop = b + 1 := by
  have hbefore {k : Nat} (hk : d.text[k]? = some c) : ¬Document.InsideBreak d.text k := fun h =>
    hc.2 (Option.some.inj (hk.symm.trans h.2.2))
  have hbehind {k : Nat} (hk : d.text[k]? = some c) : ¬Document.InsideBreak d.text (k + 1) :=
    fun h => hc.1 (Option.some.inj (hk.symm.trans h.2.1))
  exact offsets_matchAt ⟨Nat.lt_succ_self a, hlt, Nat.lt_succ_self b⟩
    (List.getElem?_eq_some_iff.mp hb).1 (hbefore ha) (hbehind ha) (hbefore hb) (hbehind hb)

lemma mem_findAll_quotes (hδ : δ.IsQuote c) {s : PairSearch} (hs : s.delimiters = [δ]) {p : PairMatch} :
    p ∈ s.findAll d ↔ ∃ a b, matchAt d 0 (quotePair δ a b) = p ∧ QuotesPair c d.text a b := by
  rw [mem_findAll, Document.textIn_range, pairsIn_undirected (.inr rfl), hs, List.mem_map]
  constructor
  · rintro ⟨q, hq, rfl⟩
    obtain ⟨a, b, rfl, hpair⟩ := (mem_matched_quotes hδ).mp hq
    exact ⟨a, b, rfl, hpair⟩
  · rintro ⟨a, b, rfl, hpair⟩
    exact ⟨_, (mem_matched_quotes hδ).mpr ⟨a, b, rfl, hpair⟩, rfl⟩

lemma exists_quotesPair_of_found (hδ : δ.IsQuote c) {s : PairSearch} (hs : s.delimiters = [δ])
    (hdirection : s.direction = none) {r : Range} {first last : Nat} (hle : first ≤ last)
    (hlast : last ≤ d.length) {p : PairMatch}
    (h : (s.findInWindow d (.between (d.positionAt first) (d.positionAt last)) r).filter
      (isWhole d first last) = some p) :
    ∃ b x y, let a := d.offsetAt (d.positionAt first)
      b ≤ d.text.length ∧ QuotesPair c (part d.text a b) x y ∧ (x = 0 → a = 0) ∧
        matchAt d 0 (quotePair δ (a + x) (a + y)) = p := by
  obtain ⟨hfind, hwhole⟩ := Option.filter_eq_some_iff.mp h
  obtain ⟨_, hedge, hstop⟩ := ends_of_window hle hlast
  have hmono := d.positionAt_mono hle
  simp only [Range.between_of_le hmono] at hfind hedge hstop
  obtain ⟨q, hbest, rfl⟩ := Option.map_eq_some_iff.mp hfind
  have hq := (List.mem_filter.mp (mem_of_lastMax? hbest)).1
  rw [pairsIn_undirected (.inl hdirection), hs] at hq
  obtain ⟨x, y, rfl, hpair : QuotesPair c (part d.text (d.offsetAt (d.positionAt first))
    (d.offsetAt (d.positionAt last))) x y⟩ := (mem_matched_quotes hδ).mp hq
  have hb : d.offsetAt (d.positionAt last) ≤ d.text.length := by
    have hlength : d.length = d.text.length := rfl
    omega
  refine ⟨d.offsetAt (d.positionAt last), x, y, hb, hpair, fun hx => ?_,
    (matchAt_quotePair δ d _ x y).symm⟩
  -- A quote that begins the window is at its edge, where no pair is accepted.
  subst hx
  set a := d.offsetAt (d.positionAt first)
  have hlt := hpair.lt
  have hlength := hpair.closing.lt_length
  rw [length_part hb] at hlength
  have hopen : d.text[a + 0]? = some c := (getElem?_part (by omega)).symm.trans hpair.opening.1
  have hclose : d.text[a + y]? = some c := (getElem?_part (by omega)).symm.trans hpair.closing.1
  rcases hedge with hsame | ⟨_, hcr⟩
  · have hopening :=
      (offsets_quotePair δ hδ.no_break (Nat.add_lt_add_left hlt a) hopen hclose).1
    rw [matchAt_quotePair] at hwhole
    simp only [isWhole, hopening, Bool.and_eq_true, Bool.not_eq_true', Bool.and_eq_false_iff,
      decide_eq_false_iff_not, beq_eq_false_iff_ne] at hwhole
    omega
  · exact absurd (Option.some.inj (hopen.symm.trans hcr)) hδ.no_break.1

/-- Whether a pair of quotes that is found is one of the pairs of the document: the number of quotes
before it on its line must be even, that is, the window must begin before that line, or the number of
those that stand before the window there must be even, where an escaped quote that begins the window
counts as one of them. -/
theorem mem_findAll_iff_of_find_quotes {name : PairName}
    (hname : name ∈ [PairName.doubleQuotes, .singleQuotes]) (language : String) (isStrong : Bool)
    {cx : Context} {d : Document} {r : Range} (htree : cx.tree? d = none) (hr : d.Holds r)
    {p : PairMatch} :
    let s : PairSearch := ⟨Delimiter.ofName name language, none, isStrong⟩
    let before := quotesBefore name.quote d.text
    s.find cx d r = .ok (some p) →
      (p ∈ s.findAll d ↔ before (d.offsetAt p.opening.start) % 2 = 0) ∧
      ∃ length,
        let first := d.offsetAt r.start - length
        let last := min (d.offsetAt r.stop + length) d.length
        let start := d.offsetAt (d.positionAt first)
        (s.findInWindow d (.between (d.positionAt first) (d.positionAt last)) r).filter
          (isWhole d first last) = some p ∧
        (p ∈ s.findAll d ↔ HasBreak d.text start (d.offsetAt p.opening.start) ∨
          (before start + if EscapedAt name.quote d.text start then 1 else 0) % 2 = 0) := by
  obtain ⟨δ, hdelimiters, hδ⟩ := Delimiter.ofName_quote hname language
  intro s before h
  have hs : s.delimiters = [δ] := hdelimiters
  rw [find_of_treeless htree] at h
  obtain ⟨length, hfound⟩ := found_of_findInText h
  have hlast := Document.offsetAt_le_length hr.2
  have hselection := (Document.offsetAt_le_iff hr.1 hr.2).mpr r.start_le_stop
  obtain ⟨b, x, y, hb, hpair, hfirst, rfl⟩ :=
    exists_quotesPair_of_found hδ hs rfl (by omega) (by omega) hfound
  set a := d.offsetAt (d.positionAt (d.offsetAt r.start - length))
  have hlt := hpair.lt
  have hlength := hpair.closing.lt_length
  rw [length_part hb] at hlength
  have hx : d.text[a + x]? = some name.quote := (getElem?_part (by omega)).symm.trans hpair.opening.1
  have hy : d.text[a + y]? = some name.quote := (getElem?_part (by omega)).symm.trans hpair.closing.1
  obtain ⟨hopening, _, hclosing, _⟩ :=
    offsets_quotePair δ hδ.no_break (Nat.add_lt_add_left hlt a) hx hy
  have hmem : matchAt d 0 (quotePair δ (a + x) (a + y)) ∈ s.findAll d ↔
      before (a + x) % 2 = 0 := by
    rw [mem_findAll_quotes hδ hs, ← quotesPair_part hpair hb hfirst]
    refine ⟨fun ⟨a', b', heq, hpair'⟩ => ?_, fun hpair' => ⟨_, _, rfl, hpair'⟩⟩
    obtain ⟨hopening', _, hclosing', _⟩ :=
      offsets_quotePair δ hδ.no_break hpair'.lt hpair'.opening.1 hpair'.closing.1
    rw [heq] at hopening' hclosing'
    rwa [hopening.symm.trans hopening', hclosing.symm.trans hclosing']
  rw [hopening]
  exact ⟨hmem, length, hfound, hmem.trans (even_quotesBefore_part hpair hb hfirst)⟩

def doubleQuotes : PairSearch := .ofName .doubleQuotes "plaintext"

theorem mem_findAll_of_find_wholeLine :
    let d : Document := .ofText 1 "plaintext" "a \"bb\" c".toList
    ∃ p, doubleQuotes.find {} d (.point ⟨0, 4⟩) = .ok (some p) ∧ p ∈ doubleQuotes.findAll d := by
  intro d
  have hfind : doubleQuotes.find {} d (.point ⟨0, 4⟩) =
      .ok (some ⟨.onLine 0 2 3, .onLine 0 5 6⟩) := by decide +kernel
  have hmem := mem_findAll_iff_of_find_quotes (by decide) "plaintext" false rfl (by decide) hfind
  exact ⟨_, hfind, hmem.1.mpr (by decide +kernel)⟩

theorem not_mem_findAll_of_find_cut :
    ∃ (cx : Context) (d : Document) (r : Range) (p : PairMatch),
      (∀ c ∈ d.text, isLineEnding c = true → c = '\n') ∧ cx.tree? d = none ∧ d.Holds r ∧
        doubleQuotes.find cx d r = .ok (some p) ∧ p ∉ doubleQuotes.findAll d := by
  have hbreaks : ("\"aaaa\" b \"cccc\"".toList.all
      fun c => decide (isLineEnding c = true → c = '\n')) = true := by decide +kernel
  refine ⟨{ config := { scan := { initialLength := 4 } } },
    .ofText 1 "plaintext" "\"aaaa\" b \"cccc\"".toList, .point ⟨0, 7⟩,
    ⟨.onLine 0 5 6, .onLine 0 9 10⟩, ?_, rfl, by decide +kernel, by decide +kernel, ?_⟩
  · exact fun c hc => of_decide_eq_true (List.all_eq_true.mp hbreaks c hc)
  · rw [mem_findAll]
    decide +kernel

end PairSearch

end Referent
