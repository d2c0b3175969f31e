import Referent.Proofs.Pair.Fits
import Referent.Proofs.Sorting

namespace Referent.Occurrence

lemma Precedes.start_lt {a b : Occurrence} (h : a.Precedes b) : a.start < b.start :=
  Nat.lt_of_lt_of_le h.1 h.2.1

lemma Precedes.stop_lt {a b : Occurrence} (h : a.Precedes b) : a.stop < b.stop :=
  Nat.lt_of_le_of_lt h.2.1 h.2.2

lemma Precedes.trans {a b c : Occurrence} (h : a.Precedes b) (h' : b.Precedes c) : a.Precedes c :=
  ⟨h.1, Nat.le_of_lt (Nat.lt_of_le_of_lt h.2.1 h'.start_lt), h'.2.2⟩

lemma Precedes.ne {a b : Occurrence} (h : a.Precedes b) : a ≠ b := by
  rintro rfl
  exact Nat.lt_irrefl _ h.start_lt

def openAfter (opened : List Occurrence) : List Occurrence → List Occurrence
  | [] => opened
  | o :: rest =>
    match o.side with
    | .left => openAfter (o :: opened) rest
    | .right => openAfter (opened.eraseP fun p => p.delimiter = o.delimiter) rest

lemma matchFrom_cons (opened : List Occurrence) (o : Occurrence) (rest : List Occurrence) :
    matchFrom opened (o :: rest) = matchFrom (o :: opened) rest ∨
    (∃ p before after, opened = before ++ p :: after ∧ p.delimiter = o.delimiter ∧
      (∀ b ∈ before, b.delimiter ≠ o.delimiter) ∧
      matchFrom opened (o :: rest) = (p, o) :: matchFrom (before ++ after) rest) ∨
    matchFrom opened (o :: rest) = matchFrom opened rest := by
  rw [matchFrom]
  split
  · exact .inl rfl
  · split
    · next p hfind =>
      obtain ⟨hp, before, after, rfl, hbefore⟩ := List.find?_eq_some_iff_append.mp hfind
      refine .inr (.inl ⟨p, before, after, rfl, by simpa using hp, by simpa using hbefore, ?_⟩)
      rw [List.eraseP_append_right _ (by simpa using hbefore)]
      simp only [List.eraseP_cons, hp, cond_true]
    · exact .inr (.inr rfl)

lemma matchFrom_append (opened l l' : List Occurrence) :
    matchFrom opened (l ++ l') = matchFrom opened l ++ matchFrom (openAfter opened l) l' := by
  induction l generalizing opened with
  | nil => rfl
  | cons o rest ih =>
    rw [List.cons_append, matchFrom, matchFrom, openAfter]
    cases o.side with
    | left => exact ih _
    | right =>
      dsimp only
      split
      · rw [ih, List.cons_append]
      · next hfind => rw [ih, List.eraseP_of_forall_not (List.find?_eq_none.mp hfind)]

lemma mem_of_mem_openAfter {opened l : List Occurrence} {p : Occurrence} (h : p ∈ openAfter opened l) :
    p ∈ opened ∨ p ∈ l := by
  induction l generalizing opened with
  | nil => exact .inl h
  | cons o rest ih =>
    rw [openAfter] at h
    split at h
    · have hp := ih h
      rw [List.mem_cons] at hp ⊢
      tauto
    · exact (ih h).imp List.mem_of_mem_eraseP (List.mem_cons_of_mem o)

lemma mem_of_mem_matchFrom {opened l : List Occurrence} {q : Occurrence × Occurrence}
    (h : q ∈ matchFrom opened l) :
    (q.1 ∈ opened ∨ q.1 ∈ l) ∧ q.2 ∈ l ∧ q.1.delimiter = q.2.delimiter := by
  induction l generalizing opened with
  | nil => exact absurd h List.not_mem_nil
  | cons o rest ih =>
    rcases matchFrom_cons opened o rest with hm | ⟨p, before, after, rfl, hp, _, hm⟩ | hm
    · have hq := ih (hm ▸ h)
      simp only [List.mem_cons] at hq ⊢
      tauto
    · rw [hm] at h
      rcases List.mem_cons.mp h with rfl | h
      · exact ⟨.inl (by simp), List.mem_cons_self, hp⟩
      · have hq := ih h
        simp only [List.mem_append, List.mem_cons] at hq ⊢
        tauto
    · have hq := ih (hm ▸ h)
      simp only [List.mem_cons]
      tauto

lemma mem_of_mem_matched {l : List Occurrence} {q : Occurrence × Occurrence} (h : q ∈ matched l) :
    q.1 ∈ l ∧ q.2 ∈ l ∧ q.1.delimiter = q.2.delimiter := by
  obtain ⟨h₁, h₂⟩ := mem_of_mem_matchFrom h
  exact ⟨h₁.resolve_left List.not_mem_nil, h₂⟩

lemma mem_of_pairFromLeft {l : List Occurrence} {selection : Span} {q : Occurrence × Occurrence}
    (h : pairFromLeft l selection = some q) : q.1 ∈ l ∧ q.2 ∈ l := by
  rw [pairFromLeft] at h
  split at h
  · cases h
  · next opening before hdrop =>
    obtain ⟨closing, hfind, rfl⟩ := Option.map_eq_some_iff.mp h
    have hmem : opening ∈ l.reverse :=
      (List.dropWhile_sublist _).subset (hdrop ▸ List.mem_cons_self)
    exact ⟨List.mem_reverse.mp hmem, List.mem_of_mem_drop (List.mem_of_find?_eq_some hfind)⟩

lemma mem_of_pairFromRight {l : List Occurrence} {selection : Span} {q : Occurrence × Occurrence}
    (h : pairFromRight l selection = some q) : q.1 ∈ l ∧ q.2 ∈ l := by
  rw [pairFromRight] at h
  split at h
  · cases h
  · next closing after hdrop =>
    obtain ⟨opening, hfind, rfl⟩ := Option.map_eq_some_iff.mp h
    have hmem : closing ∈ l := (List.dropWhile_sublist _).subset (hdrop ▸ List.mem_cons_self)
    have hopening := List.mem_reverse.mp (List.mem_of_find?_eq_some hfind)
    exact ⟨List.mem_of_mem_take hopening, hmem⟩

lemma mem_of_mem_matchedToward {direction : PairDirection} {selection : Span} {l : List Occurrence}
    {d : Delimiter} {q : Occurrence × Occurrence} (h : q ∈ matchedToward direction selection l d) :
    q.1 ∈ l ∧ q.2 ∈ l := by
  have hof {o : Occurrence} (ho : o ∈ l.filter fun o => o.delimiter = d) : o ∈ l :=
    (List.mem_filter.mp ho).1
  rw [matchedToward] at h
  split at h
  · have hforced := Option.mem_toList.mp h
    cases direction with
    | left => exact (mem_of_pairFromLeft hforced).imp hof hof
    | right => exact (mem_of_pairFromRight hforced).imp hof hof
  · have hmem := mem_of_mem_matched h
    exact ⟨hof hmem.1, hof hmem.2.1⟩

lemma filter_matchFrom {P : Occurrence → Bool} {opened older l : List Occurrence}
    (ho : ∀ p ∈ opened, P p = true) (hl : ∀ o ∈ l, P o = true) (holder : ∀ p ∈ older, P p = false) :
    (matchFrom (opened ++ older) l).filter (fun q => P q.1) = matchFrom opened l := by
  induction l generalizing opened older with
  | nil => rfl
  | cons o rest ih =>
    have hrest : ∀ o ∈ rest, P o = true := fun o h => hl o (List.mem_cons_of_mem _ h)
    rw [matchFrom, matchFrom, List.find?_append]
    split
    · exact ih (List.forall_mem_cons.mpr ⟨hl o List.mem_cons_self, ho⟩) hrest holder
    · cases hfind : opened.find? fun p => p.delimiter = o.delimiter with
      | some p =>
        have hmem := List.mem_of_find?_eq_some hfind
        rw [List.eraseP_append_left (List.find?_some hfind) older hmem]
        simp only [Option.some_or, List.filter_cons, ho p hmem, if_true]
        rw [ih (fun p hp => ho p (List.mem_of_mem_eraseP hp)) hrest holder]
      | none =>
        rw [List.eraseP_append_right older (List.find?_eq_none.mp hfind), Option.none_or]
        dsimp only
        split
        · next p hp =>
          simp only [List.filter_cons, holder p (List.mem_of_find?_eq_some hp), Bool.false_eq_true,
            if_false]
          exact ih ho hrest fun p hp => holder p (List.mem_of_mem_eraseP hp)
        · exact ih ho hrest holder

def Settled (q q' : Occurrence × Occurrence) : Prop :=
  q.1 ≠ q'.1 ∧ (q.1.delimiter = q'.1.delimiter →
    q.2.Precedes q'.1 ∨ (q'.1.Precedes q.1 ∧ q.2.Precedes q'.2))

lemma settled_matchFrom {opened l : List Occurrence} (ho : opened.Pairwise fun a b => b.Precedes a)
    (hbefore : ∀ p ∈ opened, ∀ o ∈ l, p.Precedes o) (hl : l.Pairwise Precedes) :
    (matchFrom opened l).Pairwise Settled := by
  induction l generalizing opened with
  | nil => exact List.Pairwise.nil
  | cons o rest ih =>
    obtain ⟨hfirst, hrest⟩ := List.pairwise_cons.mp hl
    obtain ⟨hopened, hlater⟩ : (∀ p ∈ opened, p.Precedes o) ∧
        ∀ p ∈ opened, ∀ o' ∈ rest, p.Precedes o' :=
      ⟨fun p hp => hbefore p hp o List.mem_cons_self,
        fun p hp o' ho' => hbefore p hp o' (List.mem_cons_of_mem o ho')⟩
    rcases matchFrom_cons opened o rest with hm | ⟨p, before, after, rfl, hp, hne, hm⟩ | hm
    · rw [hm]
      exact ih (List.pairwise_cons.mpr ⟨hopened, ho⟩)
        (List.forall_mem_cons.mpr ⟨hfirst, hlater⟩) hrest
    -- Pairs that close later open after `p` with another delimiter, before `p`, or behind `o`.
    · have hsub : (before ++ after).Sublist (before ++ p :: after) :=
        (List.sublist_cons_self p after).append_left before
      rw [hm]
      refine List.pairwise_cons.mpr
        ⟨fun q hq => ?_, ih (ho.sublist hsub) (fun p hp => hlater p (hsub.subset hp)) hrest⟩
      obtain ⟨hopening, hclosing, _⟩ := mem_of_mem_matchFrom hq
      rw [List.mem_append] at hopening
      have hpo : p.Precedes o := hopened p (by simp)
      rcases hopening with (hq | hq) | hq
      · exact ⟨fun heq => hne q.1 hq (heq ▸ hp), fun heq => absurd (heq ▸ hp) (hne q.1 hq)⟩
      · have hqp := (List.pairwise_cons.mp (List.pairwise_append.mp ho).2.1).1 q.1 hq
        exact ⟨hqp.ne.symm, fun _ => .inr ⟨hqp, hfirst q.2 hclosing⟩⟩
      · exact ⟨(hpo.trans (hfirst q.1 hq)).ne, fun _ => .inl (hfirst q.1 hq)⟩
    · rw [hm]
      exact ih ho hlater hrest

lemma settled_matched {l : List Occurrence} (hl : l.Pairwise Precedes) :
    (matched l).Pairwise Settled :=
  settled_matchFrom List.Pairwise.nil (fun _ h => absurd h List.not_mem_nil) hl

lemma settled_or {l : List Occurrence} (hl : l.Pairwise Precedes) {q q' : Occurrence × Occurrence}
    (hq : q ∈ matched l) (hq' : q' ∈ matched l) (hne : q ≠ q') : Settled q q' ∨ Settled q' q :=
  (eq_or_rel_of_pairwise (settled_matched hl) hq hq').resolve_left hne

lemma apart_or_around {l : List Occurrence} (hl : l.Pairwise Precedes)
    {q q' : Occurrence × Occurrence} (hq : q ∈ matched l) (hq' : q' ∈ matched l)
    (hd : q.1.delimiter = q'.1.delimiter) (hle : q.1.start ≤ q'.1.start) :
    q = q' ∨ q.2.stop ≤ q'.1.start ∨ (q.1.start < q'.1.start ∧ q'.2.stop ≤ q.2.stop) := by
  by_cases hne : q = q'
  · exact .inl hne
  · refine .inr ?_
    rcases settled_or hl hq hq' hne with h | h
    · rcases h.2 hd with h | ⟨h, _⟩
      · exact .inl h.2.1
      · have hlt := h.start_lt
        omega
    · rcases h.2 hd.symm with h | ⟨h, h'⟩
      · have h₁ := (precedes_of_mem_matched hl q hq).start_lt
        have h₂ := (precedes_of_mem_matched hl q' hq').start_lt
        have h₃ := h.start_lt
        omega
      · exact .inr ⟨h.start_lt, Nat.le_of_lt h'.stop_lt⟩

lemma mem_matched_part {before part after front : List Occurrence}
    (hl : (before ++ part ++ after).Pairwise Precedes) (hfront : (front ++ part).Pairwise Precedes)
    {q : Occurrence × Occurrence} (hopen : q.1 ∈ part) (hclose : q.2 ∈ part) :
    q ∈ matched (front ++ part) ↔ q ∈ matched (before ++ part ++ after) := by
  have hpart (opened : List Occurrence) (hne : ∀ p ∈ opened, p ∉ part) :
      q ∈ matchFrom opened part ↔ q ∈ matched part := by
    have hfilter := @filter_matchFrom (fun p => decide (p ∈ part)) [] opened part
      (fun _ h => absurd h List.not_mem_nil) (fun o ho => by simpa using ho)
      (fun p hp => by simpa using hne p hp)
    rw [matched, ← hfilter, List.mem_filter]
    simp [hopen]
  have hdisjoint {l l' : List Occurrence} (h : (l ++ l').Pairwise Precedes) :
      ∀ p ∈ l, p ∉ l' := fun p hp hp' => ((List.pairwise_append.mp h).2.2 p hp p hp').ne rfl
  have hafter (opened : List Occurrence) : q ∉ matchFrom opened after := fun h =>
    hdisjoint hl q.2 (List.mem_append_right _ hclose) (mem_of_mem_matchFrom h).2.1
  have hwith {l : List Occurrence} (h : (l ++ part).Pairwise Precedes) :
      q ∈ matched (l ++ part) ↔ q ∈ matched part := by
    have hne : q ∉ matchFrom [] l := fun hq =>
      hdisjoint h q.2 (mem_of_mem_matchFrom hq).2.1 hclose
    rw [matched, matchFrom_append, List.mem_append, or_iff_right hne]
    exact hpart _ fun p hp => hdisjoint h p ((mem_of_mem_openAfter hp).resolve_left List.not_mem_nil)
  rw [hwith hfront, ← hwith (List.pairwise_append.mp hl).1]
  conv_rhs => rw [matched, matchFrom_append, List.mem_append, or_iff_left (hafter _)]
  rfl

end Referent.Occurrence
