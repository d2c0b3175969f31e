import Referent.Proofs.Item.Commas
import Referent.Proofs.Pair.Quotes

/-! What opens outside of pairs, and is closed somewhere behind it, swallows commas up to the delimiter
that balances it. Without one, it swallows them to the end of the text. -/

namespace Referent.ItemToken

open Occurrence (charBefore QuoteAt)

def quotes : List Char := ['"', '\'', '\x60']

def EvenAt (p : Char × Char) (text : List Char) (a k : Nat) : Prop :=
  (Occurrence.part text a (k + 1)).count p.1 = (Occurrence.part text a (k + 1)).count p.2

instance (p : Char × Char) (text : List Char) (a k : Nat) : Decidable (EvenAt p text a k) :=
  inferInstanceAs (Decidable (_ = _))

/-- Whether a closing delimiter balances an opening one: it is the first place behind it where the brackets
of its kind are even, or the next quote like it. -/
def Balances (text : List Char) (a b : Nat) : Prop :=
  a < b ∧
    ((∃ p ∈ brackets, text[a]? = some p.1 ∧ text[b]? = some p.2 ∧ EvenAt p text a b ∧
        ∀ k < b, a < k → ¬EvenAt p text a k) ∨
      ∃ q ∈ quotes, QuoteAt q text a ∧ QuoteAt q text b ∧ ∀ k < b, a < k → ¬QuoteAt q text k)

instance (text : List Char) (a b : Nat) : Decidable (Balances text a b) :=
  -- Three quotes are quicker to go through than all characters.
  have : Decidable (∃ q ∈ quotes, QuoteAt q text a ∧ QuoteAt q text b ∧
      ∀ k < b, a < k → ¬QuoteAt q text k) := List.decidableBEx _ _
  inferInstanceAs (Decidable (_ ∧ (_ ∨ _)))

/-- Whether an opening delimiter stands at a place, with a closing one of its kind behind it. -/
def Openable (text : List Char) (a : Nat) : Prop :=
  (∃ p ∈ brackets, text[a]? = some p.1 ∧ ∃ b, a < b ∧ text[b]? = some p.2) ∨
    ∃ q ∈ quotes, QuoteAt q text a ∧ ∃ b, a < b ∧ QuoteAt q text b

instance (text : List Char) (a : Nat) : Decidable (Openable text a) :=
  have : Decidable (∃ q ∈ quotes, QuoteAt q text a ∧ ∃ b < text.length, a < b ∧ QuoteAt q text b) :=
    List.decidableBEx _ _
  decidable_of_iff
    ((∃ p ∈ brackets, text[a]? = some p.1 ∧ ∃ b < text.length, a < b ∧ text[b]? = some p.2) ∨
      ∃ q ∈ quotes, QuoteAt q text a ∧ ∃ b < text.length, a < b ∧ QuoteAt q text b) <| by
    have hlt {b : Nat} {c : Char} (h : text[b]? = some c) : b < text.length :=
      (List.getElem?_eq_some_iff.mp h).1
    constructor
    · rintro (⟨p, hp, hopen, b, _, h⟩ | ⟨q, hq, hopen, b, _, h⟩)
      · exact .inl ⟨p, hp, hopen, b, h⟩
      · exact .inr ⟨q, hq, hopen, b, h⟩
    · rintro (⟨p, hp, hopen, b, h⟩ | ⟨q, hq, hopen, b, h⟩)
      · exact .inl ⟨p, hp, hopen, b, hlt h.2, h⟩
      · exact .inr ⟨q, hq, hopen, b, hlt h.2.1, h⟩

/-- Whether all that opens outside of other pairs before a place is balanced before it. -/
def Outside (text : List Char) (place : Nat) : Prop :=
  ∀ a, (h : a < place) → Openable text a → Outside text a → ∃ b < place, Balances text a b
termination_by place

def DelimiterAt (c : Char) (text : List Char) (k : Nat) : Prop :=
  text[k]? = some c ∧ isDelimiter c = true ∧ ¬(isQuote c = true ∧ charBefore text k = some '\\')

def stateAt (text : List Char) (i : Nat) : Nesting :=
  Nesting.outside.read (delimiters none (text.take i)) (delimiters (charBefore text i) (text.drop i))

section State

variable {text : List Char} {c : Char} {i a : Nat}

lemma getLast?_take (hi : i ≤ text.length) : (text.take i).getLast?.or none = charBefore text i := by
  cases i with
  | zero => rfl
  | succ k => rw [Option.or_none, List.getLast?_take, if_neg (Nat.succ_ne_zero k), Nat.add_sub_cancel,
      charBefore, List.getElem?_eq_getElem hi, Option.some_or]

lemma take_and_drop (hc : text[i]? = some c) :
    text.take (i + 1) = text.take i ++ [c] ∧ text.drop i = c :: text.drop (i + 1) := by
  obtain ⟨hi, rfl⟩ := List.getElem?_eq_some_iff.mp hc
  exact ⟨List.take_succ_eq_append_getElem hi, List.drop_eq_getElem_cons hi⟩

lemma delimiters_drop (hc : text[i]? = some c) :
    (DelimiterAt c text i ∧ delimiters (charBefore text i) (text.drop i) =
        [c] :: delimiters (charBefore text (i + 1)) (text.drop (i + 1))) ∨
      (¬DelimiterAt c text i ∧ delimiters (charBefore text i) (text.drop i) =
        delimiters (charBefore text (i + 1)) (text.drop (i + 1))) := by
  rw [(take_and_drop hc).2, delimiters, charBefore, hc]
  split
  · next h => exact .inl ⟨⟨hc, h⟩, rfl⟩
  · next h => exact .inr ⟨fun hd => h hd.2, rfl⟩

lemma mem_delimiters_drop (c : Char) (i : Nat) :
    [c] ∈ delimiters (charBefore text i) (text.drop i) ↔ ∃ k, i ≤ k ∧ DelimiterAt c text k := by
  induction hn : text.length - i using Nat.strongRecOn generalizing i with
  | ind n ih =>
    by_cases hi : i < text.length
    · have hget := List.getElem?_eq_getElem hi
      have hrest := ih _ (by omega) (i + 1) rfl
      have hsame (h : DelimiterAt c text i) : c = text[i] := Option.some.inj (h.1.symm.trans hget)
      rcases delimiters_drop hget with ⟨hd, heq⟩ | ⟨hd, heq⟩
      · rw [heq, List.mem_cons, hrest]
        constructor
        · rintro (heq | ⟨k, hk, h⟩)
          · exact ⟨i, Nat.le_refl i, (List.cons.inj heq).1 ▸ hd⟩
          · exact ⟨k, Nat.le_of_succ_le hk, h⟩
        · rintro ⟨k, hk, h⟩
          rcases Nat.eq_or_lt_of_le hk with rfl | hlt
          · exact .inl (congrArg (fun c => [c]) (hsame h))
          · exact .inr ⟨k, hlt, h⟩
      · rw [heq, hrest]
        constructor
        · exact fun ⟨k, hk, h⟩ => ⟨k, Nat.le_of_succ_le hk, h⟩
        · rintro ⟨k, hk, h⟩
          refine ⟨k, Nat.lt_of_le_of_ne hk ?_, h⟩
          rintro rfl
          exact hd (hsame h ▸ h)
    · rw [List.drop_eq_nil_of_le (Nat.not_lt.mp hi), delimiters]
      refine iff_of_false List.not_mem_nil ?_
      rintro ⟨k, hk, h⟩
      have hlt := (List.getElem?_eq_some_iff.mp h.1).1
      omega

lemma stateAt_succ (hc : text[i]? = some c) :
    (DelimiterAt c text i ∧ stateAt text (i + 1) = (stateAt text i).step [c]
        (delimiters (charBefore text (i + 1)) (text.drop (i + 1)))) ∨
      (¬DelimiterAt c text i ∧ stateAt text (i + 1) = stateAt text i) := by
  have hi := (List.getElem?_eq_some_iff.mp hc).1
  rw [stateAt, (take_and_drop hc).1, delimiters_append, getLast?_take (Nat.le_of_lt hi),
    Nesting.read_append, stateAt]
  rcases delimiters_drop hc with ⟨hd, heq⟩ | ⟨hd, heq⟩
  · have hsingle : delimiters (charBefore text i) [c] = [[c]] := if_pos hd.2
    rw [heq, hsingle]
    exact .inl ⟨hd, rfl⟩
  · have hnone : delimiters (charBefore text i) [c] = [] := if_neg fun h => hd ⟨hc, h⟩
    rw [heq, hnone]
    exact .inr ⟨hd, rfl⟩

lemma separator_mem_iff_stateAt (hcomma : text[i]? = some ',') :
    ⟨.separator, i, i + 1⟩ ∈ ofText text ↔ (stateAt text i).depth = 0 := by
  obtain ⟨before, after, rfl, rfl⟩ := exists_append_of_getElem? hcomma
  have hlast := @getLast?_take (before ++ ',' :: after) before.length (by simp)
  rw [List.take_left, Option.or_none] at hlast
  rw [separator_mem_iff_delimiters, stateAt, List.take_left, List.drop_left, hlast]

end State

section Kinds

variable {text : List Char} {p : Char × Char} {q : Char}

lemma delimiterAt_bracket (hp : p ∈ brackets) (k : Nat) :
    (DelimiterAt p.1 text k ↔ text[k]? = some p.1) ∧ (DelimiterAt p.2 text k ↔ text[k]? = some p.2) := by
  have hall : ∀ p ∈ brackets, (isDelimiter p.1 = true ∧ isQuote p.1 = false) ∧
      isDelimiter p.2 = true ∧ isQuote p.2 = false := by decide
  have hiff {c : Char} (h : isDelimiter c = true ∧ isQuote c = false) :
      DelimiterAt c text k ↔ text[k]? = some c :=
    ⟨And.left, fun hc => ⟨hc, h.1, fun hq => Bool.false_ne_true (h.2.symm.trans hq.1)⟩⟩
  exact ⟨hiff (hall p hp).1, hiff (hall p hp).2⟩

lemma delimiterAt_quote (hq : q ∈ quotes) (k : Nat) : DelimiterAt q text k ↔ QuoteAt q text k := by
  have hall : quotes.all (fun q => isDelimiter q && isQuote q) = true := rfl
  obtain ⟨hd, hquote⟩ := Bool.and_eq_true_iff.mp (List.all_eq_true.mp hall q hq)
  exact ⟨fun h => ⟨h.1, fun hescape => h.2.2 ⟨hquote, hescape⟩⟩,
    fun h => ⟨h.1, hd, fun hescape => h.2 hescape.2⟩⟩

lemma closing?_quote (hq : q ∈ quotes) : closing? [q] = some [q] := by
  have hall : quotes.all (fun q => closing? [q] == some [q]) = true := by decide
  exact beq_iff_eq.mp (List.all_eq_true.mp hall q hq)

lemma closing?_cases {c : Char} {close : List Char} (h : closing? [c] = some close) :
    (∃ p ∈ brackets, p.1 = c ∧ close = [p.2]) ∨ c ∈ quotes ∧ close = [c] := by
  unfold closing? at h
  split at h
  all_goals cases h
  all_goals rename_i heq; obtain rfl := (List.cons.inj heq).1
  all_goals decide

end Kinds

/-- Whether what opens at a place is still open at a later one, in some state. -/
inductive Running (text : List Char) (a i : Nat) (n : Nesting) : Prop
  | bracket {p : Char × Char} (hp : p ∈ brackets) (hopening : text[a]? = some p.1)
      (hkind : n.opening = [p.1] ∧ n.closing = [p.2]) (hpos : 0 < n.depth)
      (hcount : (Occurrence.part text a i).count p.1 = (Occurrence.part text a i).count p.2 + n.depth)
      (huneven : ∀ k < i, a < k → ¬EvenAt p text a k)
  | quote {q : Char} (hq : q ∈ quotes) (hopening : QuoteAt q text a) (hn : n = ⟨1, [q], [q]⟩)
      (hnone : ∀ k < i, a < k → ¬QuoteAt q text k)

section Running

variable {text : List Char} {a i : Nat}

lemma part_succ {c : Char} (ha : a ≤ i) (hc : text[i]? = some c) :
    Occurrence.part text a (i + 1) = Occurrence.part text a i ++ [c] := by
  rw [Occurrence.part, Occurrence.part, Nat.sub_add_comm ha, List.take_add_one, List.getElem?_drop,
    Nat.add_sub_cancel' ha, hc, Option.toList_some]

lemma openable_iff {c : Char} (hc : text[i]? = some c) :
    Openable text i ↔ DelimiterAt c text i ∧ ∃ close, closing? [c] = some close ∧
      close ∈ delimiters (charBefore text (i + 1)) (text.drop (i + 1)) := by
  constructor
  · rintro (⟨p, hp, hopen, b, hb, hclose⟩ | ⟨q, hq, hopen, b, hb, hclose⟩)
    · obtain rfl := Option.some.inj (hc.symm.trans hopen)
      exact ⟨(delimiterAt_bracket hp i).1.mpr hc, [p.2], (of_mem_brackets hp).1,
        (mem_delimiters_drop p.2 (i + 1)).mpr ⟨b, hb, (delimiterAt_bracket hp b).2.mpr hclose⟩⟩
    · obtain rfl := Option.some.inj (hc.symm.trans hopen.1)
      exact ⟨(delimiterAt_quote hq i).mpr hopen, [c], closing?_quote hq,
        (mem_delimiters_drop c (i + 1)).mpr ⟨b, hb, (delimiterAt_quote hq b).mpr hclose⟩⟩
  · rintro ⟨hd, close, hclose, hmem⟩
    rcases closing?_cases hclose with ⟨p, hp, rfl, rfl⟩ | ⟨hq, rfl⟩
    · obtain ⟨b, hb, hd'⟩ := (mem_delimiters_drop p.2 (i + 1)).mp hmem
      exact .inl ⟨p, hp, hc, b, hb, hd'.1⟩
    · obtain ⟨b, hb, hd'⟩ := (mem_delimiters_drop c (i + 1)).mp hmem
      exact .inr ⟨c, hq, (delimiterAt_quote hq i).mp hd, b, hb, (delimiterAt_quote hq b).mp hd'⟩

lemma running_or_outside (hi : i < text.length) (hdepth : (stateAt text i).depth = 0) :
    (Openable text i ∧ Running text i (i + 1) (stateAt text (i + 1))) ∨
      (¬Openable text i ∧ (stateAt text (i + 1)).depth = 0) := by
  obtain ⟨c, hc⟩ : ∃ c, text[i]? = some c := ⟨_, List.getElem?_eq_getElem hi⟩
  have hpart : Occurrence.part text i (i + 1) = [c] := by
    rw [part_succ (Nat.le_refl i) hc, Occurrence.part, Nat.sub_self, List.take_zero, List.nil_append]
  rw [openable_iff hc]
  rcases stateAt_succ hc with ⟨hd, hstate⟩ | ⟨hd, hstate⟩
  · rw [hstate, Nesting.step, if_neg (by omega)]
    split
    · next close hclose =>
      split
      · next hmem =>
        refine .inl ⟨⟨hd, close, hclose, List.contains_iff_mem.mp hmem⟩, ?_⟩
        rcases closing?_cases hclose with ⟨p, hp, rfl, rfl⟩ | ⟨hq, rfl⟩
        · have hne : p.1 ≠ p.2 := (brackets_differ p hp p hp).1
          refine .bracket hp hc ⟨rfl, rfl⟩ Nat.one_pos ?_ fun k hk hk' => by omega
          rw [hpart, List.count_singleton_self, List.count_singleton, beq_false_of_ne hne]
          rfl
        · exact .quote hq ((delimiterAt_quote hq i).mp hd) rfl fun k hk hk' => by omega
      · next hmem =>
        refine .inr ⟨?_, hdepth⟩
        rintro ⟨_, close', hclose', hmem'⟩
        obtain rfl := Option.some.inj (hclose.symm.trans hclose')
        exact hmem (List.contains_iff_mem.mpr hmem')
    · next hclose =>
      refine .inr ⟨?_, hdepth⟩
      rintro ⟨_, close', hclose', _⟩
      rw [hclose] at hclose'
      cases hclose'
  · exact .inr ⟨fun h => hd h.1, hstate ▸ hdepth⟩

lemma step_bracket {n : Nesting} {p : Char × Char} (hp : p ∈ brackets)
    (hkind : n.opening = [p.1] ∧ n.closing = [p.2]) (hpos : 0 < n.depth) (c : Char)
    (rest : List (List Char)) :
    ((n.step [c] rest).opening = [p.1] ∧ (n.step [c] rest).closing = [p.2]) ∧
      (n.step [c] rest).depth + [c].count p.2 = n.depth + [c].count p.1 := by
  have hne := (brackets_differ p hp p hp).1
  rw [Nesting.step_inside hpos hkind, List.count_singleton, List.count_singleton]
  split
  · next hclose =>
    rw [hclose, beq_self_eq_true, beq_false_of_ne hne.symm]
    exact ⟨hkind, Nat.sub_add_cancel hpos⟩
  · next hclose =>
    rw [beq_false_of_ne hclose]
    split
    · next hopen =>
      rw [hopen, beq_self_eq_true]
      exact ⟨hkind, rfl⟩
    · next hopen =>
      rw [beq_false_of_ne hopen]
      exact ⟨hkind, rfl⟩

lemma Running.next (h : Running text a i (stateAt text i)) (ha : a < i) (hi : i < text.length) :
    Running text a (i + 1) (stateAt text (i + 1)) ∨
      ((stateAt text (i + 1)).depth = 0 ∧ Balances text a i) := by
  obtain ⟨c, hc⟩ : ∃ c, text[i]? = some c := ⟨_, List.getElem?_eq_getElem hi⟩
  cases h with
  | @bracket p hp hopening hkind hpos hcount huneven =>
    obtain ⟨hkind', hdepth⟩ : ((stateAt text (i + 1)).opening = [p.1] ∧
        (stateAt text (i + 1)).closing = [p.2]) ∧
          (stateAt text (i + 1)).depth + [c].count p.2 = (stateAt text i).depth + [c].count p.1 := by
      rcases stateAt_succ hc with ⟨_, hstate⟩ | ⟨hd, hstate⟩
      · rw [hstate]
        exact step_bracket hp hkind hpos c _
      · have hopen : c ≠ p.1 := fun heq => hd (heq ▸ (delimiterAt_bracket hp i).1.mpr (heq ▸ hc))
        have hclose : c ≠ p.2 := fun heq => hd (heq ▸ (delimiterAt_bracket hp i).2.mpr (heq ▸ hc))
        rw [hstate, List.count_singleton, List.count_singleton, beq_false_of_ne hopen,
          beq_false_of_ne hclose]
        exact ⟨hkind, rfl⟩
    have hcount' : (Occurrence.part text a (i + 1)).count p.1 =
        (Occurrence.part text a (i + 1)).count p.2 + (stateAt text (i + 1)).depth := by
      rw [part_succ (Nat.le_of_lt ha) hc, List.count_append, List.count_append]
      omega
    rcases Nat.eq_zero_or_pos (stateAt text (i + 1)).depth with hzero | hpos'
    · have heven : EvenAt p text a i := by rw [EvenAt, hcount', hzero, Nat.add_zero]
      have hmem : p.2 ∈ [c] := List.count_pos_iff.mp (by omega)
      obtain rfl := List.mem_singleton.mp hmem
      exact .inr ⟨hzero, ha, .inl ⟨p, hp, hopening, hc, heven, huneven⟩⟩
    · refine .inl (.bracket hp hopening hkind' hpos' hcount' fun k hk hk' => ?_)
      rcases Nat.lt_succ_iff_lt_or_eq.mp hk with hlt | rfl
      · exact huneven k hlt hk'
      · rw [EvenAt]
        omega
  | @quote q hq hopening hn hnone =>
    by_cases hquote : QuoteAt q text i
    · obtain rfl := Option.some.inj (hc.symm.trans hquote.1)
      rcases stateAt_succ hc with ⟨_, hstate⟩ | ⟨hd, _⟩
      · refine .inr ⟨?_, ha, .inr ⟨c, hq, hopening, hquote, hnone⟩⟩
        rw [hstate, hn, Nesting.step_inside Nat.one_pos ⟨rfl, rfl⟩, if_pos rfl]
        rfl
      · exact absurd ((delimiterAt_quote hq i).mpr hquote) hd
    · refine .inl (.quote hq hopening ?_ fun k hk hk' => ?_)
      · rcases stateAt_succ hc with ⟨hd, hstate⟩ | ⟨_, hstate⟩
        · have hne : c ≠ q := fun heq => hquote (heq ▸ (delimiterAt_quote (heq ▸ hq) i).mp hd)
          rw [hstate, hn, Nesting.step_inside Nat.one_pos ⟨rfl, rfl⟩, if_neg hne, if_neg hne]
        · rw [hstate, hn]
      · rcases Nat.lt_succ_iff_lt_or_eq.mp hk with hlt | rfl
        · exact hnone k hlt hk'
        · exact hquote

lemma Running.not_balances {n : Nesting} {b : Nat} (h : Running text a i n) (hb : b < i) :
    ¬Balances text a b := by
  have hkinds : ∀ p ∈ brackets, p.1 ∉ quotes := by decide
  rintro ⟨hab, ⟨p, hp, hopen, hclose, heven, _⟩ | ⟨q, hq, hopen, hclose, _⟩⟩
  · cases h with
    | @bracket p' hp' hopening _ _ _ huneven =>
      have hfst : p'.1 = p.1 := Option.some.inj (hopening.symm.trans hopen)
      have hsame : p' = p := Prod.ext hfst ((brackets_differ p' hp' p hp).2.mp hfst)
      exact huneven b hb hab (hsame ▸ heven)
    | @quote q hq hopening _ _ =>
      obtain rfl := Option.some.inj (hopening.1.symm.trans hopen)
      exact hkinds p hp hq
  · cases h with
    | @bracket p hp hopening _ _ _ _ =>
      obtain rfl := Option.some.inj (hopening.symm.trans hopen.1)
      exact hkinds p hp hq
    | @quote q' _ hopening _ hnone =>
      obtain rfl := Option.some.inj (hopening.1.symm.trans hopen.1)
      exact hnone b hb hab hclose

lemma Running.depth_pos {n : Nesting} (h : Running text a i n) : 0 < n.depth := by
  cases h with
  | bracket _ _ _ hpos _ _ => exact hpos
  | quote _ _ hn _ => exact hn ▸ Nat.one_pos

end Running

section Outside

variable {text : List Char} {a place : Nat}

lemma outside_zero (text : List Char) : Outside text 0 := by
  rw [Outside]
  exact fun a ha => absurd ha (Nat.not_lt_zero a)

lemma Outside.succ (h : Outside text place) (hopen : ¬Openable text place) :
    Outside text (place + 1) := by
  rw [Outside] at h ⊢
  intro a ha hopen' houtside
  rcases Nat.lt_succ_iff_lt_or_eq.mp ha with hlt | rfl
  · obtain ⟨b, hb, hbalances⟩ := h a hlt hopen' houtside
    exact ⟨b, Nat.lt_succ_of_lt hb, hbalances⟩
  · exact absurd hopen' hopen

lemma Outside.of_balances (ha : a < place) (hopen : Openable text a) (houtside : Outside text a)
    (hrunning : ∀ b < place, ¬Balances text a b) (h : Balances text a place) :
    Outside text (place + 1) := by
  rw [Outside]
  intro a' ha' hopen' houtside'
  -- What opened before the run is balanced before it, and nothing that opened inside of it is outside.
  rcases Nat.lt_trichotomy a' a with hlt | rfl | hlt
  · rw [Outside] at houtside
    obtain ⟨b, hb, hbalances⟩ := houtside a' hlt hopen' houtside'
    exact ⟨b, Nat.lt_succ_of_lt (Nat.lt_trans hb ha), hbalances⟩
  · exact ⟨place, Nat.lt_succ_self place, h⟩
  · rw [Outside] at houtside'
    obtain ⟨b, hb, hbalances⟩ := houtside' a hlt hopen houtside
    exact absurd hbalances (hrunning b (by omega))

lemma stateAt_cases (hi : place ≤ text.length) :
    ((stateAt text place).depth = 0 ∧ Outside text place) ∨
      ∃ a < place, Openable text a ∧ Outside text a ∧ Running text a place (stateAt text place) := by
  induction place with
  | zero => exact .inl ⟨rfl, outside_zero text⟩
  | succ place ih =>
    rcases ih (Nat.le_of_succ_le hi) with ⟨hdepth, houtside⟩ | ⟨a, ha, hopen, houtside, hrunning⟩
    · rcases running_or_outside hi hdepth with ⟨hopen, hrunning⟩ | ⟨hopen, hdepth'⟩
      · exact .inr ⟨place, Nat.lt_succ_self place, hopen, houtside, hrunning⟩
      · exact .inl ⟨hdepth', houtside.succ hopen⟩
    · rcases hrunning.next ha hi with hnext | ⟨hdepth', hbalances⟩
      · exact .inr ⟨a, Nat.lt_succ_of_lt ha, hopen, houtside, hnext⟩
      · exact .inl ⟨hdepth', .of_balances ha hopen houtside (fun b hb => hrunning.not_balances hb) hbalances⟩

lemma separator_mem_iff_outside (hcomma : text[place]? = some ',') :
    ⟨.separator, place, place + 1⟩ ∈ ofText text ↔ Outside text place := by
  rw [separator_mem_iff_stateAt hcomma]
  rcases stateAt_cases (Nat.le_of_lt (List.getElem?_eq_some_iff.mp hcomma).1) with
    ⟨hdepth, houtside⟩ | ⟨a, ha, hopen, houtside, hrunning⟩
  · exact iff_of_true hdepth houtside
  · refine iff_of_false (Nat.ne_of_gt hrunning.depth_pos) fun h => ?_
    rw [Outside] at h
    obtain ⟨b, hb, hbalances⟩ := h a ha hopen houtside
    exact hrunning.not_balances hb hbalances

lemma Balances.exists_closing {b : Nat} (h : Balances text a b) : ∃ c, text[b]? = some c ∧ c ≠ ',' := by
  have hbrackets : ∀ p ∈ brackets, p.2 ≠ ',' := by decide
  have hquotes : ',' ∉ quotes := by decide
  rcases h.2 with ⟨p, hp, _, hclose, _⟩ | ⟨q, hq, _, hclose, _⟩
  · exact ⟨p.2, hclose, hbrackets p hp⟩
  · exact ⟨q, hclose.1, fun heq => hquotes (heq ▸ hq)⟩

lemma not_balances_around (h : ∀ a < place, ∀ b < text.length, place < b → ¬Balances text a b)
    (a b : Nat) (ha : a < place) (hb : place < b) : ¬Balances text a b := by
  intro hbalances
  obtain ⟨c, hc, _⟩ := hbalances.exists_closing
  exact h a ha b (List.getElem?_eq_some_iff.mp hc).1 hb hbalances

/-- A comma between no two delimiters that balance each other separates items exactly if before it, outside
of other pairs, nothing opens that has a closing delimiter behind it, but none that balances it. -/
theorem separates_iff_balanced (hcomma : text[place]? = some ',')
    (hfree : ∀ a b, a < place → place < b → ¬Balances text a b) :
    ⟨.separator, place, place + 1⟩ ∈ ofText text ↔
      ∀ a < place, Openable text a → Outside text a → ∃ b, Balances text a b := by
  rw [separator_mem_iff_outside hcomma, Outside]
  constructor
  · intro h a ha hopen houtside
    obtain ⟨b, _, hbalances⟩ := h a ha hopen houtside
    exact ⟨b, hbalances⟩
  · intro h a ha hopen houtside
    obtain ⟨b, hbalances⟩ := h a ha hopen houtside
    rcases Nat.lt_trichotomy b place with hlt | rfl | hlt
    · exact ⟨b, hlt, hbalances⟩
    · obtain ⟨c, hc, hne⟩ := hbalances.exists_closing
      exact absurd (Option.some.inj (hc.symm.trans hcomma)) hne
    · exact absurd hbalances (hfree a b ha hlt)

theorem separates_behind_comparison :
    let text := "f(a < b), c".toList
    text[8]? = some ',' ∧ (∀ a b, a < 8 → 8 < b → ¬Balances text a b) ∧
      ⟨.separator, 8, 9⟩ ∈ ofText text := by
  intro text
  have hfree := @not_balances_around text 8 (by decide +kernel)
  have hopen : ∀ a < 8, Openable text a → ∃ b < 8, Balances text a b := by decide +kernel
  refine ⟨rfl, hfree, (separates_iff_balanced rfl hfree).mpr fun a ha hopenable _ => ?_⟩
  obtain ⟨b, _, h⟩ := hopen a ha hopenable
  exact ⟨b, h⟩

theorem not_separates_comparison :
    let text := "a < b, c<d>".toList
    text[5]? = some ',' ∧ ⟨.separator, 5, 6⟩ ∉ ofText text ∧
      ¬∃ a b, a < 5 ∧ 5 < b ∧ Balances text a b := by
  intro text
  have hfree := @not_balances_around text 5 (by decide +kernel)
  refine ⟨rfl, by decide +kernel, ?_⟩
  rintro ⟨a, b, ha, hb, h⟩
  exact hfree a b ha hb h

end Outside

end Referent.ItemToken
