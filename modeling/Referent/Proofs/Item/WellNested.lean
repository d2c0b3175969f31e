import Referent.Proofs.Item.Commas

namespace Referent.ItemToken

lemma append_cons_cases {α : Type} {s t u v : List α} {a b : α} (h : s ++ a :: t = u ++ b :: v) :
    (s = u ∧ a = b ∧ t = v) ∨ (∃ w, u = s ++ a :: w ∧ t = w ++ b :: v) ∨
      ∃ w, s = u ++ b :: w ∧ v = w ++ a :: t := by
  rcases List.append_eq_append_iff.mp h with ⟨w, rfl, hw⟩ | ⟨w, rfl, hw⟩
  · cases w with
    | nil =>
      obtain ⟨rfl, rfl⟩ := List.cons.inj hw
      exact .inl ⟨(List.append_nil s).symm, rfl, rfl⟩
    | cons c w =>
      obtain ⟨rfl, rfl⟩ := List.cons.inj hw
      exact .inr (.inl ⟨w, rfl, rfl⟩)
  · cases w with
    | nil =>
      obtain ⟨rfl, rfl⟩ := List.cons.inj hw
      exact .inl ⟨List.append_nil u, rfl, rfl⟩
    | cons c w =>
      obtain ⟨rfl, rfl⟩ := List.cons.inj hw
      exact .inr (.inr ⟨w, rfl, rfl⟩)

inductive WellNested : List Char → Prop
  | nil : WellNested []
  | cons {c : Char} {rest : List Char} :
      (∀ b ∈ brackets, c ≠ b.1 ∧ c ≠ b.2) → WellNested rest → WellNested (c :: rest)
  | pair {o c : Char} {inner rest : List Char} :
      (o, c) ∈ brackets → WellNested inner → WellNested rest → WellNested (o :: (inner ++ c :: rest))

def Enclosed (text : List Char) (place : Nat) : Prop :=
  ∃ first o inner c last, text = first ++ o :: (inner ++ c :: last) ∧ (o, c) ∈ brackets ∧
    WellNested inner ∧ first.length < place ∧ place ≤ first.length + inner.length

namespace WellNested

variable {before after text : List Char}

lemma of_blank_append {blank : List Char} (hblank : isBlank blank = true)
    (h : WellNested (blank ++ text)) : WellNested text := by
  induction blank with
  | nil => exact h
  | cons c blank ih =>
    rw [isBlank, List.all_cons, Bool.and_eq_true] at hblank
    rw [List.cons_append] at h
    generalize hwhole : blank ++ text = whole at h
    cases h with
    | cons _ hrest => exact ih hblank.2 (hwhole ▸ hrest)
    | pair hb _ _ =>
      have hplain := (plain_of_isWhiteSpace hblank.1).1
      rw [(of_mem_brackets hb).2.1] at hplain
      cases hplain

lemma of_append_blank {blank : List Char} (hblank : isBlank blank = true)
    (h : WellNested (text ++ blank)) : WellNested text := by
  have hnone {c : Char} (hc : isDelimiter c = true) : c ∉ blank := fun hmem => by
    rw [isDelimiter_of_blank hblank c hmem] at hc
    cases hc
  generalize hwhole : text ++ blank = whole at h
  induction h generalizing text with
  | nil => exact (List.append_eq_nil_iff.mp hwhole).1 ▸ .nil
  | @cons c rest hc _ ih =>
    cases text with
    | nil => exact .nil
    | cons c' text =>
      obtain ⟨rfl, hrest⟩ := List.cons.inj hwhole
      exact .cons hc (ih hrest)
  | @pair o c inner rest hb hinner _ _ ih =>
    obtain ⟨_, ho, hc, _⟩ := of_mem_brackets hb
    cases text with
    | nil =>
      have hmem : o ∈ [] ++ blank := hwhole ▸ List.mem_cons_self
      exact absurd hmem (hnone ho)
    | cons o' text =>
      obtain ⟨rfl, htext⟩ := List.cons.inj hwhole
      rcases List.append_eq_append_iff.mp htext with ⟨more, _, hmore⟩ | ⟨more, rfl, hmore⟩
      · exact absurd (hmore ▸ List.mem_append_right _ List.mem_cons_self) (hnone hc)
      · cases more with
        | nil =>
          have hmem : c ∈ [] ++ blank := hmore ▸ List.mem_cons_self
          exact absurd hmem (hnone hc)
        | cons c' more =>
          obtain ⟨rfl, hrest⟩ := List.cons.inj hmore
          exact .pair hb hinner (ih hrest.symm)

lemma trim (h : WellNested text) (hblank : isBlank text = false) : WellNested (trim text) := by
  obtain ⟨leading, trailing, htext, hframed⟩ := exists_framed hblank
  rw [htext, List.append_assoc] at h
  exact of_append_blank hframed.trailing (of_blank_append hframed.leading h)

lemma split (h : WellNested text) (htext : text = before ++ ',' :: after) :
    (WellNested before ∧ WellNested after) ∨
      ∃ first o x y c last, before = first ++ o :: x ∧ after = y ++ c :: last ∧ (o, c) ∈ brackets ∧
        WellNested first ∧ WellNested (x ++ ',' :: y) := by
  induction h generalizing before with
  | nil => exact absurd htext.symm (by simp)
  | @cons c rest hc hrest ih =>
    cases before with
    | nil =>
      obtain ⟨_, rfl⟩ := List.cons.inj htext
      exact .inl ⟨.nil, hrest⟩
    | cons c' before =>
      obtain ⟨rfl, heq⟩ := List.cons.inj htext
      rcases ih heq with ⟨hbefore, hafter⟩ | ⟨first, o, x, y, c', last, rfl, rfl, hb, hfirst, hinner⟩
      · exact .inl ⟨.cons hc hbefore, hafter⟩
      · exact .inr ⟨_, o, x, y, c', last, rfl, rfl, hb, .cons hc hfirst, hinner⟩
  | @pair o c inner rest hb hinner hrest _ ih =>
    obtain ⟨_, _, _, ho, hc⟩ := of_mem_brackets hb
    cases before with
    | nil => exact absurd (List.cons.inj htext).1 ho
    | cons o' before =>
      obtain ⟨rfl, heq⟩ := List.cons.inj htext
      rcases append_cons_cases heq with ⟨_, hcomma, _⟩ | ⟨more, rfl, hmore⟩ | ⟨y, rfl, rfl⟩
      · exact absurd hcomma hc
      · rcases ih hmore with
          ⟨hbefore, hafter⟩ | ⟨first, o', x, y, c', last, rfl, rfl, hb', hfirst, hinner'⟩
        · exact .inl ⟨.pair hb hinner hbefore, hafter⟩
        · refine .inr ⟨o :: (inner ++ c :: first), o', x, y, c', last, ?_, rfl, hb',
            .pair hb hinner hfirst, hinner'⟩
          simp only [List.cons_append, List.append_assoc]
      · exact .inr ⟨[], o, before, y, c, rest, rfl, rfl, hb, .nil, hinner⟩

end WellNested

structure Nesting.Inside (n : Nesting) : Prop where
  pos : 0 < n.depth
  kind : ∃ b ∈ brackets, n.opening = [b.1] ∧ n.closing = [b.2]

namespace Nesting

variable {n : Nesting}

def deeper (n : Nesting) (k : Nat) : Nesting := { n with depth := n.depth + k }

lemma Inside.deeper (h : n.Inside) (k : Nat) : (n.deeper k).Inside :=
  ⟨Nat.add_pos_left h.pos k, h.kind⟩

lemma deeper_deeper (n : Nesting) (j k : Nat) : (n.deeper j).deeper k = n.deeper (j + k) := by
  rw [Nesting.deeper, Nesting.deeper, Nesting.deeper, Nat.add_assoc]

lemma step_again {o c : Char} (hb : (o, c) ∈ brackets) (hpos : 0 < n.depth)
    (hkind : n.opening = [o] ∧ n.closing = [c]) (rest : List (List Char)) :
    n.step [o] rest = n.deeper 1 := by
  rw [step_inside hpos hkind, if_neg (brackets_differ _ hb _ hb).1, if_pos rfl]
  rfl

lemma Inside.step_pair (h : n.Inside) {o c : Char} (hb : (o, c) ∈ brackets) :
    ∃ k, (∀ rest, n.step [o] rest = n.deeper k) ∧ ∀ rest, (n.deeper k).step [c] rest = n := by
  obtain ⟨⟨o', c'⟩, hb', hkind⟩ := h.kind
  obtain ⟨ho, hsame⟩ := brackets_differ _ hb _ hb'
  have hc := (brackets_differ _ hb' _ hb).1
  have hpos := h.pos
  by_cases heq : o = o'
  · obtain rfl := heq
    obtain rfl : c = c' := hsame.mp rfl
    refine ⟨1, step_again hb hpos hkind, fun rest => ?_⟩
    rw [step_inside (h.deeper 1).pos hkind, if_pos rfl]
    rfl
  · refine ⟨0, fun rest => ?_, fun rest => ?_⟩
    · rw [step_inside hpos hkind, if_neg ho, if_neg heq]
      rfl
    · show n.step [c] rest = n
      rw [step_inside hpos hkind, if_neg (fun h => heq (hsame.mpr h)), if_neg (Ne.symm hc)]

lemma Inside.proper (h : n.Inside) : n.Proper := by
  obtain ⟨b, hb, hopening, hclosing⟩ := h.kind
  right
  rw [hopening, hclosing]
  exact (of_mem_brackets hb).1

end Nesting

section Reading

variable {n : Nesting} {text : List Char}

def singles (text : List Char) : List (List Char) := (text.filter isDelimiter).map fun c => [c]

lemma singles_append (s t : List Char) : singles (s ++ t) = singles s ++ singles t := by
  rw [singles, List.filter_append, List.map_append]
  rfl

lemma singles_cons {c : Char} (h : isDelimiter c = true) (rest : List Char) :
    singles (c :: rest) = [c] :: singles rest := by
  rw [singles, List.filter_cons_of_pos h, List.map_cons]
  rfl

lemma singles_plain {c : Char} (h : isDelimiter c = false) (rest : List Char) :
    singles (c :: rest) = singles rest := by
  rw [singles, List.filter_cons_of_neg (Bool.eq_false_iff.mp h)]
  rfl

lemma delimiters_eq_singles (h : ∀ c ∈ text, isQuote c = false) (prev : Option Char) :
    delimiters prev text = singles text := by
  induction text generalizing prev with
  | nil => rfl
  | cons c rest ih =>
    obtain ⟨hc, hrest⟩ := List.forall_mem_cons.mp h
    cases hd : isDelimiter c with
    | true =>
      rw [delimiters, if_pos ⟨hd, fun hq => Bool.false_ne_true (hc.symm.trans hq.1)⟩, ih hrest,
        singles_cons hd]
    | false => rw [delimiters_plain hd, ih hrest, singles_plain hd]

lemma singles_pair {o c : Char} (hb : (o, c) ∈ brackets) (inner rest : List Char) :
    singles (o :: (inner ++ c :: rest)) = [o] :: (singles inner ++ [c] :: singles rest) := by
  obtain ⟨_, ho, hc, _⟩ := of_mem_brackets hb
  rw [singles_cons ho, singles_append, singles_cons hc]

lemma eq_comma_of_isDelimiter {c : Char} (h : isDelimiter c = true) (hquote : isQuote c = false)
    (hc : ∀ b ∈ brackets, c ≠ b.1 ∧ c ≠ b.2) : c = ',' := by
  rw [isDelimiter, hquote, Bool.or_false, List.contains_iff_mem] at h
  have hall : [',', '(', ')', '\x7b', '\x7d', '<', '>', '[', ']'].all (fun c =>
      c = ',' ∨ ∃ b ∈ brackets, c = b.1 ∨ c = b.2) = true := by decide
  refine (of_decide_eq_true (List.all_eq_true.mp hall c h)).resolve_right ?_
  rintro ⟨b, hb, heq | heq⟩
  · exact (hc b hb).1 heq
  · exact (hc b hb).2 heq

lemma read_plain (hn : n.Proper) {c : Char} (hquote : isQuote c = false)
    (hc : ∀ b ∈ brackets, c ≠ b.1 ∧ c ≠ b.2) (rest : List Char) (after : List (List Char)) :
    n.read (singles (c :: rest)) after = n.read (singles rest) after := by
  cases hd : isDelimiter c with
  | true =>
    obtain rfl := eq_comma_of_isDelimiter hd hquote hc
    rw [singles_cons hd, Nesting.read, Nesting.step_comma hn]
  | false => rw [singles_plain hd]

lemma WellNested.read_inside (h : WellNested text) (hquotes : ∀ c ∈ text, isQuote c = false)
    (hn : n.Inside) (after : List (List Char)) : n.read (singles text) after = n := by
  induction h generalizing n after with
  | nil => rfl
  | @cons c rest hc _ ih =>
    obtain ⟨hquote, hquotes⟩ := List.forall_mem_cons.mp hquotes
    rw [read_plain hn.proper hquote hc, ih hquotes hn]
  | @pair o c inner rest hb _ _ hinner hrest =>
    obtain ⟨_, hquotes⟩ := List.forall_mem_cons.mp hquotes
    obtain ⟨hquotes, hquotes'⟩ := List.forall_mem_append.mp hquotes
    obtain ⟨k, hopen, hclose⟩ := hn.step_pair hb
    rw [singles_pair hb, Nesting.read, hopen, Nesting.read_append, hinner hquotes (hn.deeper k),
      Nesting.read, hclose, hrest (List.forall_mem_cons.mp hquotes').2 hn]

lemma WellNested.read_part (h : WellNested text) (hquotes : ∀ c ∈ text, isQuote c = false)
    (hn : n.Inside) {first last : List Char} (htext : text = first ++ last)
    (after : List (List Char)) : ∃ k, n.read (singles first) after = n.deeper k := by
  induction h generalizing n after first last with
  | nil =>
    obtain rfl := (List.append_eq_nil_iff.mp htext.symm).1
    exact ⟨0, rfl⟩
  | @cons c rest hc _ ih =>
    obtain ⟨hquote, hquotes⟩ := List.forall_mem_cons.mp hquotes
    cases first with
    | nil => exact ⟨0, rfl⟩
    | cons c' first =>
      obtain ⟨rfl, heq⟩ := List.cons.inj htext
      rw [read_plain hn.proper hquote hc]
      exact ih hquotes hn heq after
  | @pair o c inner rest hb hinner _ ih ih' =>
    obtain ⟨_, hquotes⟩ := List.forall_mem_cons.mp hquotes
    obtain ⟨hquotes, hquotes'⟩ := List.forall_mem_append.mp hquotes
    obtain ⟨k, hopen, hclose⟩ := hn.step_pair hb
    cases first with
    | nil => exact ⟨0, rfl⟩
    | cons o' first =>
      obtain ⟨rfl, heq⟩ := List.cons.inj htext
      rcases List.append_eq_append_iff.mp heq with ⟨more, rfl, hmore⟩ | ⟨more, hin, _⟩
      · cases more with
        | nil =>
          rw [List.append_nil, singles_cons (of_mem_brackets hb).2.1, Nesting.read, hopen,
            hinner.read_inside hquotes (hn.deeper k)]
          exact ⟨k, rfl⟩
        | cons c' more =>
          obtain ⟨rfl, hrest⟩ := List.cons.inj hmore
          rw [singles_pair hb, Nesting.read, hopen, Nesting.read_append,
            hinner.read_inside hquotes (hn.deeper k), Nesting.read, hclose]
          exact ih' (List.forall_mem_cons.mp hquotes').2 hn hrest after
      · obtain ⟨j, hj⟩ := ih hquotes (hn.deeper k) hin after
        rw [singles_cons (of_mem_brackets hb).2.1, Nesting.read, hopen, hj, Nesting.deeper_deeper]
        exact ⟨k + j, rfl⟩

lemma step_open (hdepth : n.depth = 0) {o c : Char} (hb : (o, c) ∈ brackets)
    {rest : List (List Char)} (hmem : [c] ∈ rest) : n.step [o] rest = ⟨1, [o], [c]⟩ := by
  rw [Nesting.step, if_neg (by omega), (of_mem_brackets hb).1]
  exact if_pos (List.contains_iff_mem.mpr hmem)

lemma inside_open {o c : Char} (hb : (o, c) ∈ brackets) : (⟨1, [o], [c]⟩ : Nesting).Inside :=
  ⟨Nat.one_pos, _, hb, rfl, rfl⟩

lemma WellNested.read_outside (h : WellNested text) (hquotes : ∀ c ∈ text, isQuote c = false)
    (hdepth : n.depth = 0) (after : List (List Char)) :
    (n.read (singles text) after).depth = 0 := by
  induction h generalizing n with
  | nil => exact hdepth
  | @cons c rest hc _ ih =>
    obtain ⟨hquote, hquotes⟩ := List.forall_mem_cons.mp hquotes
    rw [read_plain (.inl hdepth) hquote hc]
    exact ih hquotes hdepth
  | @pair o c inner rest hb hinner _ _ hrest =>
    obtain ⟨_, hquotes⟩ := List.forall_mem_cons.mp hquotes
    obtain ⟨hquotes, hquotes'⟩ := List.forall_mem_append.mp hquotes
    have hopen := inside_open hb
    rw [singles_pair hb, Nesting.read, step_open hdepth hb (by simp), Nesting.read_append,
      hinner.read_inside hquotes hopen, Nesting.read, Nesting.step, if_pos hopen.pos, if_pos rfl]
    exact hrest (List.forall_mem_cons.mp hquotes').2 rfl

end Reading

section Commas

variable {before after text : List Char} {o c : Char}

lemma separator_mem_iff_singles (hquotes : ∀ c ∈ before ++ ',' :: after, isQuote c = false) :
    ⟨.separator, before.length, before.length + 1⟩ ∈ ofText (before ++ ',' :: after) ↔
      (Nesting.outside.read (singles before) (singles (',' :: after))).depth = 0 := by
  obtain ⟨hbefore, hafter⟩ := List.forall_mem_append.mp hquotes
  rw [separator_mem_iff_delimiters, delimiters_eq_singles hbefore, delimiters_eq_singles hafter]

lemma not_enclosed (hquotes : ∀ c ∈ before ++ ',' :: after, isQuote c = false)
    (h : WellNested before) : ¬Enclosed (before ++ ',' :: after) before.length := by
  rintro ⟨first, o, inner, c, last, htext, hb, hinner, hlt, hle⟩
  obtain ⟨x, y, rfl, rfl, rfl⟩ : ∃ x y, before = first ++ o :: x ∧ inner = x ++ ',' :: y ∧
      after = y ++ c :: last := by
    rcases append_cons_cases htext with ⟨rfl, _⟩ | ⟨w, rfl, _⟩ | ⟨x, rfl, htail⟩
    · exact absurd hlt (Nat.lt_irrefl _)
    · rw [List.length_append] at hlt
      omega
    · rcases append_cons_cases htail with ⟨_, hcomma, _⟩ | ⟨w, rfl, _⟩ | ⟨y, rfl, rfl⟩
      · exact absurd hcomma (of_mem_brackets hb).2.2.2.2
      · simp only [List.length_append, List.length_cons] at hle
        omega
      · exact ⟨x, y, rfl, rfl, rfl⟩
  simp only [List.forall_mem_append, List.forall_mem_cons] at hquotes
  obtain ⟨⟨hfirst, ho, hx⟩, hcomma, hy, _⟩ := hquotes
  -- Inside of a pair of the same kind, the text would leave that one open more than once.
  have hn := inside_open hb
  have hbefore : ∀ c ∈ first ++ o :: x, isQuote c = false :=
    List.forall_mem_append.mpr ⟨hfirst, List.forall_mem_cons.mpr ⟨ho, hx⟩⟩
  have hwhole := h.read_inside hbefore hn []
  obtain ⟨k, hk⟩ := h.read_part hbefore hn rfl (singles (o :: x) ++ [])
  obtain ⟨j, hj⟩ := hinner.read_part
    (List.forall_mem_append.mpr ⟨hx, List.forall_mem_cons.mpr ⟨hcomma, hy⟩⟩)
    ((hn.deeper k).deeper 1) rfl []
  rw [singles_append, Nesting.read_append, hk, singles_cons (of_mem_brackets hb).2.1, Nesting.read,
    Nesting.step_again hb (hn.deeper k).pos ⟨rfl, rfl⟩, hj] at hwhole
  have hdepth := congrArg Nesting.depth hwhole
  simp only [Nesting.deeper] at hdepth
  omega

lemma enclosed_of_pair {first x y last : List Char} (hb : (o, c) ∈ brackets)
    (hinner : WellNested (x ++ ',' :: y)) :
    Enclosed (first ++ o :: x ++ ',' :: (y ++ c :: last)) (first ++ o :: x).length := by
  refine ⟨first, o, x ++ ',' :: y, c, last, by simp, hb, hinner, ?_, ?_⟩
  · rw [List.length_append, List.length_cons]
    omega
  · simp only [List.length_append, List.length_cons]
    omega

lemma WellNested.separator_cases (h : WellNested (before ++ ',' :: after))
    (hquotes : ∀ c ∈ before ++ ',' :: after, isQuote c = false) :
    (⟨.separator, before.length, before.length + 1⟩ ∈ ofText (before ++ ',' :: after) ∧
      ¬Enclosed (before ++ ',' :: after) before.length ∧ WellNested before ∧ WellNested after) ∨
    (⟨.separator, before.length, before.length + 1⟩ ∉ ofText (before ++ ',' :: after) ∧
      Enclosed (before ++ ',' :: after) before.length) := by
  rw [separator_mem_iff_singles hquotes]
  rcases h.split rfl with ⟨hbefore, hafter⟩ | ⟨first, o, x, y, c, last, rfl, rfl, hb, hfirst, hinner⟩
  · have houtside := hbefore.read_outside (List.forall_mem_append.mp hquotes).1
      (rfl : Nesting.outside.depth = 0) (singles (',' :: after))
    exact .inl ⟨houtside, not_enclosed hquotes hbefore, hbefore, hafter⟩
  · refine .inr ⟨fun hdepth => ?_, enclosed_of_pair hb hinner⟩
    simp only [List.forall_mem_append, List.forall_mem_cons] at hquotes
    obtain ⟨⟨hquotes, _, hx⟩, hcomma, hy, _⟩ := hquotes
    obtain ⟨k, hk⟩ := hinner.read_part
      (List.forall_mem_append.mpr ⟨hx, List.forall_mem_cons.mpr ⟨hcomma, hy⟩⟩) (inside_open hb) rfl
      (singles (',' :: (y ++ c :: last)))
    have hclosing : [c] ∈ singles x ++ singles (',' :: (y ++ c :: last)) := by
      rw [singles_cons rfl, singles_append, singles_cons (of_mem_brackets hb).2.2.1]
      simp
    rw [singles_append, Nesting.read_append, singles_cons (of_mem_brackets hb).2.1, Nesting.read,
      step_open (hfirst.read_outside hquotes rfl _) hb hclosing, hk] at hdepth
    have hpos := ((inside_open hb).deeper k).pos
    omega

lemma WellNested.of_mem_segments {segments : List (List Char)}
    (h : WellNested ([','].intercalate segments))
    (hquotes : ∀ c ∈ [','].intercalate segments, isQuote c = false)
    (hsettled : Settled (segments.map pieces)) : ∀ s ∈ segments, WellNested s := by
  induction segments with
  | nil => exact nofun
  | cons s rest ih =>
    cases rest with
    | nil =>
      rw [List.intercalate_singleton] at h
      exact List.forall_mem_singleton.mpr h
    | cons s' rest =>
      rw [List.intercalate_cons_cons, List.append_assoc, List.singleton_append] at h hquotes
      obtain ⟨_, hclosed, hrest⟩ := hsettled
      rcases h.separator_cases hquotes with ⟨_, _, hs, hafter⟩ | ⟨hnone, _⟩
      · refine List.forall_mem_cons.mpr ⟨hs, ih hafter ?_ hrest⟩
        exact (List.forall_mem_cons.mp (List.forall_mem_append.mp hquotes).2).2
      · refine absurd ((separator_mem_ofText_iff _ _).mpr ?_) hnone
        rw [pieces_intercalate]
        exact hclosed (by simp)

/-- In a text without quotes whose brackets are properly nested, a comma separates items exactly if no
pair of brackets goes around it, and the brackets of each item are properly nested. -/
theorem separates_iff_not_enclosed (hquotes : ∀ c ∈ text, isQuote c = false) (h : WellNested text) :
    (∀ place, ⟨.separator, place, place + 1⟩ ∈ ofText text ↔
      text[place]? = some ',' ∧ ¬Enclosed text place) ∧ ∀ item ∈ itemTexts text, WellNested item := by
  refine ⟨fun place => ⟨fun hmem => ?_, fun ⟨hcomma, hfree⟩ => ?_⟩, fun item hitem => ?_⟩
  · have hcomma := getElem?_of_separator hmem
    obtain ⟨before, after, rfl, rfl⟩ := exists_append_of_getElem? hcomma
    rcases h.separator_cases hquotes with ⟨_, hfree, _⟩ | ⟨hnone, _⟩
    · exact ⟨hcomma, hfree⟩
    · exact absurd hmem hnone
  · obtain ⟨before, after, rfl, rfl⟩ := exists_append_of_getElem? hcomma
    rcases h.separator_cases hquotes with ⟨hmem, _⟩ | ⟨_, henclosed⟩
    · exact hmem
    · exact absurd henclosed hfree
  · obtain ⟨segments, hne, rfl, hsettled⟩ := exists_segments text
    rw [itemTexts_intercalate hne hsettled] at hitem
    obtain ⟨s, hs, rfl⟩ := List.mem_map.mp hitem
    obtain ⟨hmem, hblank⟩ := List.mem_filter.mp hs
    exact (h.of_mem_segments hquotes hsettled s hmem).trim (by simpa using hblank)

theorem separates_nested :
    let text := ['f', '(', 'a', ',', '[', 'b', ']', ')', ',', 'c']
    (∀ c ∈ text, isQuote c = false) ∧ WellNested text ∧ ¬Enclosed text 8 ∧ Enclosed text 3 ∧
      ∀ item ∈ itemTexts text, WellNested item := by
  intro text
  have hquotes : ∀ c ∈ text, isQuote c = false := by
    have hall : text.all (!isQuote ·) = true := by decide
    exact fun c hc => (Bool.not_eq_true' _).mp (List.all_eq_true.mp hall c hc)
  have hinner : WellNested ['a', ',', '[', 'b', ']'] :=
    .cons (by decide) (.cons (by decide)
      (@WellNested.pair '[' ']' ['b'] [] (by decide) (.cons (by decide) .nil) .nil))
  have h : WellNested text :=
    .cons (by decide) (@WellNested.pair '(' ')' _ [',', 'c'] (by decide) hinner
      (.cons (by decide) (.cons (by decide) .nil)))
  obtain ⟨hseparates, hitems⟩ := separates_iff_not_enclosed hquotes h
  refine ⟨hquotes, h, ((hseparates 8).mp (by decide)).2, ?_, hitems⟩
  by_contra hfree
  exact absurd ((hseparates 3).mpr ⟨rfl, hfree⟩) (by decide)

end Commas

end Referent.ItemToken
