import Referent.Proofs.Regex.Ends

/-! Where the preferred match ends. A sequence takes the first way of its first part that can be
completed, a choice its first branch if that matches at all, and a greedy loop goes on for as long
as it can. -/

namespace Referent.Regex

namespace Ends

variable {e : Ends} {m q : Place} {ms : List Place}

lemma head?_push (h : e.toList.head? = some q) : (e.push m).toList.head? = some q := by
  unfold push
  split
  · exact h
  · have hpushed : (⟨e.seen ||| 1 <<< m.index, m :: e.reversed⟩ : Ends).toList = e.toList ++ [m] :=
      List.reverse_cons
    rw [hpushed, List.head?_append, h, Option.some_or]

lemma head?_pushAll (h : e.toList.head? = some q) : (e.pushAll ms).toList.head? = some q := by
  induction ms generalizing e with
  | nil => exact h
  | cons m ms ih => exact ih (head?_push h)

lemma head?_push_none (m : Place) : (none.push m).toList.head? = some m := by simp [push, none, toList]

lemma head?_pushAll_none (ms : List Place) : (none.pushAll ms).toList.head? = ms.head? := by
  cases ms with
  | nil => rfl
  | cons m ms => exact head?_pushAll (e := none.push m) (head?_push_none m)

lemma head?_pushSteps {step : Place → List Place} (h : e.toList.head? = some q) :
    (ms.foldl (fun e m => e.pushAll (step m)) e).toList.head? = some q := by
  induction ms generalizing e with
  | nil => exact h
  | cons m ms ih => exact ih (head?_pushAll h)

lemma head?_pushSteps_none {step : Place → List Place} (ms : List Place) :
    (ms.foldl (fun e m => e.pushAll (step m)) none).toList.head? = ms.findSome? fun m => (step m).head? := by
  induction ms with
  | nil => rfl
  | cons m ms ih =>
    rw [List.foldl_cons, List.findSome?_cons, ← head?_pushAll_none (step m)]
    cases hstep : step m with
    | nil => exact ih
    | cons q qs =>
      have hfirst : (none.pushAll (q :: qs)).toList.head? = some q := head?_pushAll_none (q :: qs)
      rw [hfirst]
      exact head?_pushSteps hfirst

end Ends

variable {r s : Regex} {p q : Place} {step : Place → List Place}

lemma head?_reach (ps : List Place) : (reach step ps).head? = ps.findSome? fun m => (step m).head? := by
  unfold reach
  split
  · rfl
  · simp
  · exact Ends.head?_pushSteps_none ps

lemma head?_ends_concat : ((concat r s).ends p).head? = (r.ends p).findSome? fun m => (s.ends m).head? :=
  head?_reach (r.ends p)

lemma head?_ends_alt : ((alt r s).ends p).head? = (r.ends p).head?.or (s.ends p).head? := by
  have hfirst := Ends.head?_pushAll_none (r.ends p)
  cases hr : r.ends p with
  | nil =>
    rw [ends_alt, hr]
    exact Ends.head?_pushAll_none (s.ends p)
  | cons m ms =>
    rw [hr] at hfirst
    rw [ends_alt, hr]
    exact Ends.head?_pushAll hfirst

def Advances (r : Regex) : Prop := ∀ p, ∀ q ∈ r.ends p, p.index < q.index

lemma advances_chars (set : Unicode.CharSet) : (chars set).Advances := by
  rintro ⟨index, prev, rest⟩ q hq
  cases rest with
  | nil => exact absurd hq List.not_mem_nil
  | cons c rest =>
    rw [ends_chars_cons] at hq
    split at hq
    · rw [List.mem_singleton.mp hq]
      exact Nat.lt_succ_self _
    · exact absurd hq List.not_mem_nil

lemma Advances.plus (h : r.Advances) (greedy : Bool) : (r.plus greedy).Advances := by
  intro p q hq
  rw [mem_ends_plus] at hq
  induction hq with
  | single hm => exact h _ _ hm
  | tail _ hm ih => exact Nat.lt_trans ih (h _ _ hm)

lemma Advances.concat (h : s.Advances) (r : Regex) : (r.concat s).Advances := by
  intro p q hq
  obtain ⟨m, hm, hq⟩ := mem_ends_concat.mp hq
  exact Nat.lt_of_le_of_lt (follows_of_mem_ends hm).index_le (h m q hq)

section Greedy

lemma head?_iterate {greedy : Bool} {fuel : Nat} {l : Loop} {m : Place} (h : l.ends.toList.head? = some q) :
    (iterate step greedy fuel l m).ends.toList.head? = some q :=
  iterate_keeps (Q := fun l => l.ends.toList.head? = some q) (fun _ _ => id) greedy fuel
    (fun _ _ _ => Ends.head?_push) h

lemma iterate_greedy (hfollows : ∀ m, ∀ q ∈ step m, m.Follows q)
    (hstep : ∀ m, ∀ q ∈ step m, m.index < q.index)
    {fuel : Nat} {l : Loop} {m : Place} (hnone : l.ends = .none)
    (hahead : ∀ i, m.index ≤ i → l.entered.testBit i = false) (hfuel : m.rest.length < fuel) :
    (step m = [] ∧ (iterate step true fuel l m).ends = .none) ∨
      ∃ q, (iterate step true fuel l m).ends.toList.head? = some q ∧ step q = [] ∧
        ∃ a, (step a).head? = some q := by
  induction fuel generalizing l m with
  | zero => exact absurd hfuel (Nat.not_lt_zero _)
  | succ fuel ih =>
    rw [iterate, hahead _ (Nat.le_refl _), if_neg Bool.false_ne_true]
    cases hm : step m with
    | nil => exact .inl ⟨rfl, hnone⟩
    | cons a as =>
      have ha : a ∈ step m := hm ▸ List.mem_cons_self
      have hlt := hstep m a ha
      have hlength := (hfollows m a ha).index_add_length
      obtain ⟨q, hfirst, hlast⟩ : ∃ q, ((iterate step true fuel
          { l with entered := l.entered ||| 1 <<< m.index } a).ends.push a).toList.head? = some q ∧
            step q = [] ∧ ∃ a, (step a).head? = some q := by
        have hentered : ∀ i, a.index ≤ i → (l.entered ||| 1 <<< m.index).testBit i = false := by
          intro i hi
          rw [Bool.eq_false_iff, Ne, testBit_or_shiftLeft, hahead i (by omega)]
          exact fun h => h.elim Bool.false_ne_true fun heq => by omega
        -- Behind its first step the loop has found nothing, or the place that stays the first one.
        rcases ih (l := { l with entered := l.entered ||| 1 <<< m.index }) hnone hentered (by omega) with
          ⟨hstop, hends⟩ | ⟨q, hq, hlast⟩
        · exact ⟨a, by rw [hends, Ends.head?_push_none], hstop, m, by rw [hm, List.head?_cons]⟩
        · exact ⟨q, Ends.head?_push hq, hlast⟩
      refine .inr ⟨q, ?_, hlast⟩
      rw [List.foldl_cons, if_pos hlt, if_pos rfl]
      refine List.foldlRecOn (motive := fun l : Loop => l.ends.toList.head? = some q) _ _ hfirst
        fun l hl b _ => ?_
      split
      · exact Ends.head?_push (head?_iterate hl)
      · exact Ends.head?_push hl

variable (hr : r.Advances)

include hr

lemma head?_ends_plus (h : ((r.plus true).ends p).head? = some q) :
    r.ends q = [] ∧ ∃ a, (r.ends a).head? = some q := by
  rcases iterate_greedy (l := ⟨0, .none⟩) (m := p) (fun _ _ => follows_of_mem_ends) hr rfl (by simp)
    (Nat.lt_succ_self p.rest.length) with ⟨_, hnone⟩ | ⟨q', hq', hlast⟩
  · rw [ends_plus, hnone] at h
    cases h
  · obtain rfl : q' = q := Option.some.inj (hq'.symm.trans h)
    exact hlast

lemma exists_head?_ends_star (p : Place) : ∃ q, ((r.star true).ends p).head? = some q ∧ r.ends q = [] ∧
    (q = p ∨ ∃ a, (r.ends a).head? = some q) := by
  have hstar : ((r.star true).ends p).head? = ((r.plus true).ends p).head?.or (some p) := head?_ends_alt
  rw [hstar]
  cases hplus : ((r.plus true).ends p).head? with
  | none =>
    refine ⟨p, rfl, List.eq_nil_iff_forall_not_mem.mpr fun q hq => ?_, .inl rfl⟩
    have hmem : q ∈ (r.plus true).ends p := mem_ends_plus.mpr (.single hq)
    rw [List.head?_eq_none_iff.mp hplus] at hmem
    exact List.not_mem_nil hmem
  | some q =>
    obtain ⟨hlast, hbehind⟩ := head?_ends_plus hr hplus
    exact ⟨q, rfl, hlast, .inr hbehind⟩

end Greedy

end Referent.Regex
