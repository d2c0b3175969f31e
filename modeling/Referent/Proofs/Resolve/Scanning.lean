import Referent.Proofs.Document.Coordinates
import Referent.Proofs.Resolve.Occurrences

namespace Referent

section Scan

variable {text l rest : List Char} {before after : List Nat} {c : Char} {skip index i j m : Nat}

lemma startsOf_skip (text : List Char) (skip index : Nat) (l : List Char) :
    startsOf text skip index l = startsOf text 0 (index + skip) (l.drop skip) := by
  induction l generalizing skip index with
  | nil => simp [startsOf]
  | cons c rest ih =>
    cases skip with
    | zero => simp
    | succ skip =>
      rw [startsOf, ih, List.drop_succ_cons]
      congr 1
      omega

lemma startsOf_of_begins (h : text <+: c :: rest) :
    startsOf text 0 index (c :: rest) = index :: startsOf text (text.length - 1) (index + 1) rest := by
  rw [startsOf, if_pos (List.isPrefixOf_iff_prefix.mpr h)]

lemma startsOf_of_not_begins (h : ¬text <+: c :: rest) :
    startsOf text 0 index (c :: rest) = startsOf text 0 (index + 1) rest := by
  rw [startsOf, if_neg (List.isPrefixOf_iff_prefix.not.mpr h)]

lemma drop_cons_sub (c : Char) (rest : List Char) (h : index + 1 ≤ i) :
    (c :: rest).drop (i - index) = rest.drop (i - (index + 1)) := by
  have hstep : i - index = i - (index + 1) + 1 := by omega
  rw [hstep, List.drop_succ_cons]

lemma prefix_of_mem_startsOf (h : i ∈ startsOf text skip index l) : text <+: l.drop (i - index) := by
  induction l generalizing skip index with
  | nil => simp [startsOf] at h
  | cons c rest ih =>
    have hlater {skip : Nat} (h : i ∈ startsOf text skip (index + 1) rest) :
        text <+: (c :: rest).drop (i - index) := by
      have hle := (le_of_mem_startsOf h).1
      rw [drop_cons_sub c rest (by omega)]
      exact ih h
    cases skip with
    | succ skip => exact hlater h
    | zero =>
      by_cases hstarts : text <+: c :: rest
      · rw [startsOf_of_begins hstarts] at h
        rcases List.mem_cons.mp h with rfl | h
        · simpa using hstarts
        · exact hlater h
      · rw [startsOf_of_not_begins hstarts] at h
        exact hlater h

lemma prefix_of_mem_startsOf_zero (h : i ∈ startsOf text 0 0 l) : text <+: l.drop i :=
  prefix_of_mem_startsOf h

lemma mem_startsOf_of_begins (hpos : 0 < text.length) (hj : index + skip ≤ j)
    (h : text <+: l.drop (j - index)) : j ∈ startsOf text skip index l ∨
      ∃ i ∈ startsOf text skip index l, i < j ∧ j < i + text.length := by
  induction l generalizing skip index with
  | nil =>
    have hlength := h.length_le
    rw [List.drop_nil, List.length_nil] at hlength
    omega
  | cons c rest ih =>
    have hlater (skip : Nat) (hj : index + 1 + skip ≤ j) :
        j ∈ startsOf text skip (index + 1) rest ∨
          ∃ i ∈ startsOf text skip (index + 1) rest, i < j ∧ j < i + text.length := by
      rw [drop_cons_sub c rest (by omega)] at h
      exact ih hj h
    cases skip with
    | succ skip => exact hlater skip (by omega)
    | zero =>
      by_cases hstarts : text <+: c :: rest
      · rw [startsOf_of_begins hstarts]
        by_cases hbehind : index + text.length ≤ j
        · rcases hlater (text.length - 1) (by omega) with hfound | ⟨i, hi, hij⟩
          · exact .inl (List.mem_cons_of_mem index hfound)
          · exact .inr ⟨i, List.mem_cons_of_mem index hi, hij⟩
        · by_cases heq : j = index
          · exact .inl (heq ▸ List.mem_cons_self)
          · exact .inr ⟨index, List.mem_cons_self, by omega, by omega⟩
      · rw [startsOf_of_not_begins hstarts]
        apply hlater
        by_contra hlt
        have heq : j = index := by omega
        rw [heq] at h
        exact hstarts (by simpa using h)

lemma startsOf_take (hpos : 0 < text.length) (skip index m : Nat) (l : List Char) :
    startsOf text skip index (l.take m) =
      (startsOf text skip index l).filter fun i => i + text.length ≤ index + m := by
  induction l generalizing skip index m with
  | nil => simp [startsOf]
  | cons c rest ih =>
    cases m with
    | zero =>
      symm
      rw [List.take_zero, startsOf, List.filter_eq_nil_iff]
      intro i hi
      have hle := (le_of_mem_startsOf hi).1
      simp
      omega
    | succ m =>
      have hshift : index + 1 + m = index + (m + 1) := by omega
      rw [List.take_succ_cons]
      cases skip with
      | succ skip =>
        rw [startsOf, startsOf, ih, hshift]
      | zero =>
        by_cases hstarts : text <+: c :: rest
        · by_cases hends : text.length ≤ m + 1
          · have htaken : text <+: c :: rest.take m := by
              rw [← List.take_succ_cons]
              exact List.prefix_take_iff.mpr ⟨hstarts, hends⟩
            rw [startsOf_of_begins hstarts, startsOf_of_begins htaken, ih, hshift,
              List.filter_cons_of_pos (by simpa using hends)]
          · have hcut : ¬text <+: c :: rest.take m := by
              intro h
              have hlength := h.length_le
              simp at hlength
              omega
            have hnone (skip : Nat) : (startsOf text skip (index + 1) rest).filter
                (fun i => decide (i + text.length ≤ index + (m + 1))) = [] := by
              apply List.filter_eq_nil_iff.mpr
              intro i hi
              have hle := (le_of_mem_startsOf hi).1
              simp
              omega
            rw [startsOf_of_not_begins hcut, startsOf_of_begins hstarts, ih, hshift, hnone,
              List.filter_cons_of_neg (by simpa using hends), hnone]
        · have hcut : ¬text <+: c :: rest.take m := by
            intro h
            apply hstarts
            rw [← List.take_succ_cons] at h
            exact h.trans (List.take_prefix _ _)
          rw [startsOf_of_not_begins hstarts, startsOf_of_not_begins hcut, ih, hshift]

lemma startsOf_drop (hpos : 0 < text.length)
    (h : startsOf text skip index l = before ++ i :: after) :
    startsOf text 0 i (l.drop (i - index)) = i :: after ∧
      startsOf text 0 (i + text.length) (l.drop (i - index + text.length)) = after := by
  induction l generalizing skip index before with
  | nil => simp [startsOf] at h
  | cons c rest ih =>
    have hlater {skip : Nat} {before : List Nat}
        (h : startsOf text skip (index + 1) rest = before ++ i :: after) :
        startsOf text 0 i ((c :: rest).drop (i - index)) = i :: after ∧
          startsOf text 0 (i + text.length) ((c :: rest).drop (i - index + text.length)) = after := by
      have hmem : i ∈ startsOf text skip (index + 1) rest := by simp [h]
      have hle := (le_of_mem_startsOf hmem).1
      rw [← List.drop_drop, drop_cons_sub c rest (by omega), List.drop_drop]
      exact ih h
    cases skip with
    | succ skip => exact hlater h
    | zero =>
      by_cases hstarts : text <+: c :: rest
      · rw [startsOf_of_begins hstarts] at h
        cases before with
        | nil =>
          obtain ⟨rfl, rfl⟩ := List.cons.inj h
          obtain ⟨n, hn⟩ : ∃ n, text.length = n + 1 := ⟨text.length - 1, by omega⟩
          rw [Nat.sub_self, List.drop_zero, startsOf_of_begins hstarts, startsOf_skip _ _ (index + 1)]
          simp [hn, Nat.add_assoc, Nat.add_comm 1]
        | cons first before =>
          exact hlater (List.cons.inj h).2
      · rw [startsOf_of_not_begins hstarts] at h
        exact hlater h

lemma startsOf_take_ends (hpos : 0 < text.length) (h : startsOf text 0 0 l = before ++ i :: after) :
    startsOf text 0 0 (l.take i) = before ∧
      startsOf text 0 0 (l.take (i + text.length)) = before ++ [i] := by
  have hpairwise := pairwise_startsOf text l 0 0
  rw [h, List.pairwise_append] at hpairwise
  obtain ⟨_, hafter, hbefore⟩ := hpairwise
  have hkeep (m : Nat) (hm : i ≤ m) :
      before.filter (fun j => decide (j + text.length ≤ 0 + m)) = before := by
    apply List.filter_eq_self.mpr
    intro j hj
    have hle := hbefore j hj i List.mem_cons_self
    rw [decide_eq_true_eq]
    omega
  have hdrop (m : Nat) (hm : m ≤ i + text.length) :
      after.filter (fun j => decide (j + text.length ≤ 0 + m)) = [] := by
    apply List.filter_eq_nil_iff.mpr
    intro j hj
    have hle := (List.pairwise_cons.mp hafter).1 j hj
    rw [decide_eq_true_eq]
    omega
  constructor
  · rw [startsOf_take hpos, h, List.filter_append, hkeep i (Nat.le_refl i),
      List.filter_cons_of_neg (by rw [decide_eq_true_eq]; omega), hdrop i (by omega), List.append_nil]
  · rw [startsOf_take hpos, h, List.filter_append, hkeep _ (Nat.le_add_right i _),
      List.filter_cons_of_pos (by rw [decide_eq_true_eq]; omega), hdrop _ (Nat.le_refl _)]

end Scan

lemma exists_of_getElem?_filterMap {α β : Type} {f : α → Option β} {l : List α} {k : Nat} {b : β}
    (h : (l.filterMap f)[k]? = some b) : ∃ before a after, l = before ++ a :: after ∧ f a = some b ∧
      before.filterMap f = (l.filterMap f).take k ∧ after.filterMap f = (l.filterMap f).drop (k + 1) := by
  obtain ⟨hk, rfl⟩ := List.getElem?_eq_some_iff.mp h
  have hsplit : l.filterMap f =
      (l.filterMap f).take k ++ (l.filterMap f)[k] :: (l.filterMap f).drop (k + 1) := by simp
  obtain ⟨first, last, hl, hfirst, hlast⟩ := List.filterMap_eq_append_iff.mp hsplit
  obtain ⟨dropped, a, after, rfl, hdropped, ha, hafter⟩ := List.filterMap_eq_cons_iff.mp hlast
  refine ⟨first ++ dropped, a, after, by rw [hl, List.append_assoc], ha, ?_, hafter⟩
  rw [List.filterMap_append, List.filterMap_eq_nil_iff.mpr hdropped, List.append_nil, hfirst]

namespace Document

variable {d : Document} {p : Position} {r : Range}

lemma length_textIn (h : d.Holds r) : (d.textIn r).length = d.offsetAt r.stop - d.offsetAt r.start := by
  have hend := offsetAt_le_length h.2
  unfold length at hend
  rw [textIn, List.length_take, List.length_drop]
  omega

lemma textIn_to_front (d : Document) (r : Range) : d.textIn r <+: d.text.drop (d.offsetAt r.start) :=
  List.take_prefix _ _

lemma textIn_to_stop (h : d.Has p) :
    d.textIn (.between p d.range.stop) = d.text.drop (d.offsetAt p) := by
  have hle := le_stop_range h
  rw [textIn, Range.start_between hle, Range.stop_between hle, offsetAt_stop_range]
  apply List.take_of_length_le
  simp [length]

lemma textIn_from_start (p : Position) :
    d.textIn (.between d.range.start p) = d.text.take (d.offsetAt p) := by
  have hle : d.range.start ≤ p := by
    rw [start_range]
    exact Position.zero_le p
  rw [textIn, Range.start_between hle, Range.stop_between hle, offsetAt_start_range]
  simp

end Document

namespace Target

variable {cx : Context} {t u : Target} {i k : Nat}

def acceptAt (cx : Context) (t : Target) (start : Nat) : Option Target :=
  t.acceptOccurrence cx (.plain t.editor (t.occurrenceAt start) t.isReversed)

lemma occurrencesIn_eq (cx : Context) (t : Target) (r : Range) : t.occurrencesIn cx r =
    (startsOf t.text 0 (t.document.offsetAt r.start) (t.document.textIn r)).filterMap (t.acceptAt cx) :=
  rfl

lemma occurrencesIn_range (cx : Context) (t : Target) : t.occurrencesIn cx t.document.range =
    (startsOf t.text 0 0 t.document.text).filterMap (t.acceptAt cx) := by
  rw [occurrencesIn_eq, Document.textIn_range, Document.offsetAt_start_range]

lemma content_acceptAt (h : t.acceptAt cx i = some u) : u.content = t.occurrenceAt i :=
  content_acceptOccurrence h

lemma add_length_le_length (hpos : 0 < t.text.length) (hbegins : t.text <+: t.document.text.drop i) :
    i + t.text.length ≤ t.document.length := by
  have hfits := hbegins.length_le
  rw [List.length_drop] at hfits
  unfold Document.length
  omega

lemma offsetAt_ends_content (hpos : 0 < t.text.length) (hbegins : t.text <+: t.document.text.drop i)
    (hcontent : t.content = t.occurrenceAt i) : t.document.offsetAt t.content.start = i ∧
      t.document.offsetAt t.content.stop = i + t.text.length := by
  have hown : t.text = (t.document.text.drop (t.document.offsetAt t.content.start)).take
      (t.document.offsetAt t.content.stop - t.document.offsetAt t.content.start) := rfl
  have hlength : t.document.offsetAt t.content.stop =
      t.document.offsetAt t.content.start + t.text.length := by
    have hle := Document.offsetAt_mono (d := t.document) t.content.start_le_stop
    have hend := (t.document.coordinates_correspond.2.2.2.2 t.content).2
    have hboth := congrArg List.length hown
    rw [List.length_take, List.length_drop] at hboth
    unfold Document.length at hend
    omega
  have hstart : t.document.offsetAt t.content.start = i := by
    have hi : i ≤ t.document.length := by
      have hle := add_length_le_length hpos hbegins
      omega
    rw [hcontent, (t.ends_occurrenceAt i).1]
    refine (Document.offsetAt_positionAt_cases hi).resolve_right ?_
    rintro ⟨hbefore, hin⟩
    rw [← (t.ends_occurrenceAt i).1, ← hcontent] at hbefore
    have hlf : t.text[0]? = some '\n' := by
      rw [List.getElem?_eq_getElem hpos, ← List.prefix_iff_getElem?.mp hbegins 0 hpos]
      simpa using hin.2.2
    have hcr : t.text[0]? = some '\r' := by
      rw [hown, List.getElem?_take_of_lt (by omega), List.getElem?_drop, Nat.add_zero, ← hin.2.1]
      congr 1
      omega
    rw [hlf] at hcr
    exact absurd hcr (by decide)
  exact ⟨hstart, hstart ▸ hlength⟩

lemma positionAt_lt_of_begins {j : Nat} (hpos : 0 < t.text.length)
    (hbegins : t.text <+: t.document.text.drop i) (hchars : ∀ c ∈ t.text, LineEnding.ofChar? c = none)
    (hij : i < j) (hj : j ≤ t.document.length) : t.document.positionAt i < t.document.positionAt j := by
  apply Document.positionAt_lt hij hj
  intro hcr
  have hfirst := List.prefix_iff_getElem?.mp hbegins 0 hpos
  rw [List.getElem?_drop, Nat.add_zero, hcr] at hfirst
  have hmem := hchars t.text[0] (List.getElem_mem hpos)
  rw [← Option.some.inj hfirst] at hmem
  exact absurd hmem (by decide)

lemma start_lt_stop_occurrenceAt (hpos : 0 < t.text.length)
    (hbegins : t.text <+: t.document.text.drop i) (hchars : ∀ c ∈ t.text, LineEnding.ofChar? c = none) :
    (t.occurrenceAt i).start < (t.occurrenceAt i).stop := by
  rw [(t.ends_occurrenceAt i).1, (t.ends_occurrenceAt i).2]
  exact positionAt_lt_of_begins hpos hbegins hchars (by omega) (add_length_le_length hpos hbegins)

lemma occurrencesToward_eq (h : (t.occurrencesIn cx t.document.range)[k]? = some u)
    (hu : u.content = t.content) (hpos : 0 < t.text.length) (direction : Direction) (offset : Nat) :
    t.occurrencesToward cx direction (rangeToward t.document t.content direction offset) =
      match direction with
      | .forward => (t.occurrencesIn cx t.document.range).drop (k + min offset 1)
      | .backward => ((t.occurrencesIn cx t.document.range).take (k + 1 - min offset 1)).reverse := by
  rw [occurrencesIn_range] at h ⊢
  obtain ⟨before, i, after, hsplit, hi, hbefore, hafter⟩ := exists_of_getElem?_filterMap h
  have hbegins : t.text <+: t.document.text.drop i :=
    prefix_of_mem_startsOf_zero (hsplit ▸ by simp)
  have hcontent : t.content = t.occurrenceAt i := by rw [← hu, content_acceptAt hi]
  obtain ⟨hstart, hstop⟩ := offsetAt_ends_content hpos hbegins hcontent
  have hhas : t.document.Has t.content.start ∧ t.document.Has t.content.stop := by
    rw [hcontent, (t.ends_occurrenceAt i).1, (t.ends_occurrenceAt i).2]
    exact ⟨t.document.has_positionAt _, t.document.has_positionAt _⟩
  obtain ⟨hfrom, hbehind⟩ := startsOf_drop hpos hsplit
  obtain ⟨htill, hwith⟩ := startsOf_take_ends hpos hsplit
  rw [Nat.sub_zero] at hfrom hbehind
  generalize (startsOf t.text 0 0 t.document.text).filterMap (t.acceptAt cx) = found at h hbefore hafter ⊢
  obtain ⟨hk, rfl⟩ := List.getElem?_eq_some_iff.mp h
  cases direction with
  | forward =>
    rw [occurrencesToward, occurrencesIn_eq]
    cases offset with
    | zero =>
      rw [rangeToward, Document.textIn_to_stop hhas.1,
        Range.start_between (Document.le_stop_range hhas.1), hstart, hfrom, List.filterMap_cons_some hi,
        hafter]
      simp
    | succ offset =>
      have hone : min (offset + 1) 1 = 1 := by omega
      rw [rangeToward, Document.textIn_to_stop hhas.2,
        Range.start_between (Document.le_stop_range hhas.2), hstop, hbehind, hafter, hone]
      exact Nat.succ_ne_zero offset
  | backward =>
    have hfront (p : Position) : t.document.offsetAt (Range.between t.document.range.start p).start = 0 := by
      rw [Range.start_between (t.document.start_range ▸ p.zero_le), Document.offsetAt_start_range]
    rw [occurrencesToward, occurrencesIn_eq]
    cases offset with
    | zero =>
      rw [rangeToward, hfront, Document.textIn_from_start, hstop, hwith, List.filterMap_append, hbefore,
        List.filterMap_cons_some hi, List.filterMap_nil, List.take_append_getElem hk]
      simp
    | succ offset =>
      have hone : k + 1 - min (offset + 1) 1 = k := by omega
      rw [rangeToward, hfront, Document.textIn_from_start, hstart, htill, hbefore, hone]
      exact Nat.succ_ne_zero offset

end Target

end Referent
