import Mathlib.Data.List.Basic
import Mathlib.Logic.Relation
import Referent.Proofs.Text.Spans

/-! The places where a match may end. Those of a sequence and of a choice are the ones that the
parts lead to, and those of a loop the ones that any number of iterations leads to, although no
place is looked at twice. -/

namespace Referent

structure Place.Reads (p : Place) (w : List Char) (q : Place) : Prop where
  rest : p.rest = w ++ q.rest
  index : q.index = p.index + w.length
  prev : q.prev = w.getLast?.or p.prev

def Place.Follows (p q : Place) : Prop := ∃ w, p.Reads w q

namespace Place

variable {p q m : Place} {u v w : List Char}

@[simp] lemma reads_nil : p.Reads [] q ↔ q = p := by
  constructor
  · rintro ⟨hrest, hindex, hprev⟩
    cases p
    cases q
    simp_all
  · rintro rfl
    exact ⟨rfl, rfl, rfl⟩

lemma Reads.append (hu : p.Reads u m) (hv : m.Reads v q) : p.Reads (u ++ v) q where
  rest := by rw [hu.rest, hv.rest, List.append_assoc]
  index := by rw [hv.index, hu.index, List.length_append, Nat.add_assoc]
  prev := by rw [hv.prev, hu.prev, List.getLast?_append, Option.or_assoc]

lemma reads_append : p.Reads (u ++ v) q ↔ ∃ m, p.Reads u m ∧ m.Reads v q := by
  refine ⟨fun h => ?_, fun ⟨m, hu, hv⟩ => hu.append hv⟩
  refine ⟨⟨p.index + u.length, u.getLast?.or p.prev, v ++ q.rest⟩, ⟨?_, rfl, rfl⟩, rfl, ?_, ?_⟩
  · rw [h.rest, List.append_assoc]
  · rw [h.index, List.length_append, Nat.add_assoc]
  · rw [h.prev, List.getLast?_append, Option.or_assoc]

lemma reads_singleton {c : Char} :
    p.Reads [c] q ↔ p.rest = c :: q.rest ∧ q = ⟨p.index + 1, some c, q.rest⟩ := by
  constructor
  · rintro ⟨hrest, hindex, hprev⟩
    refine ⟨hrest, ?_⟩
    cases q
    simp_all
  · rintro ⟨hrest, hq⟩
    exact ⟨hrest, by rw [hq]; rfl, by rw [hq]; rfl⟩

lemma Reads.eq_of_index_eq {q' : Place} (h : p.Reads u q) (h' : p.Reads v q') (heq : q.index = q'.index) :
    q = q' := by
  have hlength : u.length = v.length := by
    have hu := h.index
    have hv := h'.index
    omega
  obtain ⟨rfl, hrest⟩ := List.append_inj (h.rest.symm.trans h'.rest) hlength
  have hprev := h.prev.trans h'.prev.symm
  cases q
  cases q'
  simp_all

lemma Follows.refl (p : Place) : p.Follows p := ⟨[], reads_nil.mpr rfl⟩

lemma Follows.trans (h : p.Follows m) (h' : m.Follows q) : p.Follows q := by
  obtain ⟨u, hu⟩ := h
  obtain ⟨v, hv⟩ := h'
  exact ⟨u ++ v, hu.append hv⟩

lemma Follows.eq {q' : Place} (h : p.Follows q) (h' : p.Follows q') (heq : q.index = q'.index) : q = q' := by
  obtain ⟨u, hu⟩ := h
  obtain ⟨v, hv⟩ := h'
  exact hu.eq_of_index_eq hv heq

lemma Follows.index_add_length (h : p.Follows q) : q.index + q.rest.length = p.index + p.rest.length := by
  obtain ⟨w, hw⟩ := h
  rw [hw.index, hw.rest, List.length_append, Nat.add_assoc]

lemma Follows.index_le (h : p.Follows q) : p.index ≤ q.index := by
  obtain ⟨w, hw⟩ := h
  rw [hw.index]
  exact Nat.le_add_right _ _

end Place

namespace Regex

lemma follows_of_mem_ends {r : Regex} {p q : Place} (h : q ∈ r.ends p) : p.Follows q := by
  refine keeps_ends (P := p.Follows) r ?_ p (.refl p) q h
  intro index prev c rest hfollows
  exact hfollows.trans ⟨[c], Place.reads_singleton.mpr ⟨rfl, rfl⟩⟩

lemma testBit_or_shiftLeft (n k i : Nat) : (n ||| 1 <<< k).testBit i = true ↔ n.testBit i = true ∨ k = i := by
  rw [Nat.testBit_or, Nat.one_shiftLeft, Nat.testBit_two_pow, Bool.or_eq_true, decide_eq_true_eq]

namespace Ends

structure Tracks (e : Ends) (p : Place) : Prop where
  seen : ∀ i, e.seen.testBit i = true ↔ ∃ q ∈ e.reversed, q.index = i
  follows : ∀ q ∈ e.reversed, p.Follows q

variable {e : Ends} {p m q : Place} {ms : List Place}

lemma tracks_none (p : Place) : none.Tracks p := ⟨by simp [none], by simp [none]⟩

lemma mem_toList : q ∈ e.toList ↔ q ∈ e.reversed := List.mem_reverse

lemma Tracks.push (h : e.Tracks p) (hm : p.Follows m) :
    (e.push m).Tracks p ∧ ∀ q, q ∈ (e.push m).reversed ↔ q ∈ e.reversed ∨ q = m := by
  unfold Ends.push
  split
  · next hseen =>
    obtain ⟨q, hq, hindex⟩ := (h.seen _).mp hseen
    obtain rfl := (h.follows q hq).eq hm hindex
    exact ⟨h, fun q' => ⟨.inl, fun h' => h'.elim id fun heq => heq ▸ hq⟩⟩
  · refine ⟨⟨fun i => ?_, ?_⟩, fun q => by rw [List.mem_cons, or_comm]⟩
    · rw [testBit_or_shiftLeft, h.seen, List.exists_mem_cons_iff, or_comm]
    · exact List.forall_mem_cons.mpr ⟨hm, h.follows⟩

lemma Tracks.pushAll (h : e.Tracks p) (hms : ∀ m ∈ ms, p.Follows m) :
    (e.pushAll ms).Tracks p ∧ ∀ q, q ∈ (e.pushAll ms).reversed ↔ q ∈ e.reversed ∨ q ∈ ms := by
  induction ms generalizing e with
  | nil => exact ⟨h, fun q => by simp [Ends.pushAll]⟩
  | cons m ms ih =>
    obtain ⟨hm, hms⟩ := List.forall_mem_cons.mp hms
    obtain ⟨hpush, hmem⟩ := h.push hm
    obtain ⟨hall, hmem'⟩ := ih hpush hms
    refine ⟨hall, fun q => ?_⟩
    rw [Ends.pushAll, List.foldl_cons, ← Ends.pushAll, hmem', hmem, List.mem_cons, or_assoc]

lemma Tracks.pushSteps {step : Place → List Place} (hstep : ∀ m, ∀ q ∈ step m, m.Follows q) (h : e.Tracks p)
    (hms : ∀ m ∈ ms, p.Follows m) (q : Place) :
    q ∈ (ms.foldl (fun e m => e.pushAll (step m)) e).reversed ↔ q ∈ e.reversed ∨ ∃ m ∈ ms, q ∈ step m := by
  induction ms generalizing e with
  | nil => simp
  | cons m ms ih =>
    obtain ⟨hm, hms⟩ := List.forall_mem_cons.mp hms
    obtain ⟨hpush, hmem⟩ := h.pushAll fun q hq => hm.trans (hstep m q hq)
    rw [List.foldl_cons, ih hpush hms, hmem, List.exists_mem_cons_iff, or_assoc]

end Ends

variable {p q : Place} {step : Place → List Place} (hstep : ∀ m, ∀ q ∈ step m, m.Follows q)

include hstep in
lemma mem_reach {ms : List Place} (hms : ∀ m ∈ ms, p.Follows m) :
    q ∈ reach step ms ↔ ∃ m ∈ ms, q ∈ step m := by
  unfold reach
  split
  · simp
  · simp
  · rw [Ends.mem_toList, (Ends.tracks_none p).pushSteps hstep hms]
    simp [Ends.none]

structure Loop.Grows (p : Place) (step : Place → List Place) (l l' : Loop) : Prop where
  tracks : l'.ends.Tracks p
  ends : ∀ q ∈ l.ends.reversed, q ∈ l'.ends.reversed
  entered : ∀ i, l.entered.testBit i = true → l'.entered.testBit i = true
  settled : ∀ m, p.Follows m → l'.entered.testBit m.index = true → l.entered.testBit m.index = true ∨
    ∀ q ∈ step m, q ∈ l'.ends.reversed ∧ (m.index < q.index → l'.entered.testBit q.index = true)

namespace Loop.Grows

variable {l l' l'' : Loop}

lemma refl (h : l.ends.Tracks p) : Grows p step l l := ⟨h, fun _ => id, fun _ => id, fun _ _ => .inl⟩

lemma trans (h : Grows p step l l') (h' : Grows p step l' l'') : Grows p step l l'' where
  tracks := h'.tracks
  ends q hq := h'.ends q (h.ends q hq)
  entered i hi := h'.entered i (h.entered i hi)
  settled m hm hin := by
    rcases h'.settled m hm hin with hin | hnew
    · refine (h.settled m hm hin).imp_right fun hnew q hq => ?_
      exact ⟨h'.ends q (hnew q hq).1, fun hlt => h'.entered _ ((hnew q hq).2 hlt)⟩
    · exact .inr hnew

lemma push (step : Place → List Place) (h : l.ends.Tracks p) (hq : p.Follows q) :
    Grows p step l { l with ends := l.ends.push q } ∧ q ∈ (l.ends.push q).reversed := by
  obtain ⟨htracks, hmem⟩ := h.push hq
  refine ⟨⟨htracks, fun q' hq' => ?_, fun _ => id, fun _ _ => .inl⟩, (hmem q).mpr (.inr rfl)⟩
  exact (hmem q').mpr (.inl hq')

lemma foldl {m : Place} {turn : Loop → Place → Loop} {qs : List Place} (h : l.ends.Tracks p)
    (hturn : ∀ q ∈ qs, ∀ l : Loop, l.ends.Tracks p → Grows p step l (turn l q) ∧
      q ∈ (turn l q).ends.reversed ∧ (m.index < q.index → (turn l q).entered.testBit q.index = true)) :
    Grows p step l (qs.foldl turn l) ∧ ∀ q ∈ qs, q ∈ (qs.foldl turn l).ends.reversed ∧
      (m.index < q.index → (qs.foldl turn l).entered.testBit q.index = true) := by
  induction qs generalizing l with
  | nil => exact ⟨refl h, by simp⟩
  | cons q qs ih =>
    obtain ⟨hq, hqs⟩ := List.forall_mem_cons.mp hturn
    obtain ⟨hfirst, hmem, hin⟩ := hq l h
    obtain ⟨hrest, hall⟩ := ih hfirst.tracks hqs
    refine ⟨hfirst.trans hrest, List.forall_mem_cons.mpr ⟨⟨hrest.ends q hmem, ?_⟩, hall⟩⟩
    exact fun hlt => hrest.entered _ (hin hlt)

lemma enter {m : Place} (hm : p.Follows m)
    (h : Grows p step { l with entered := l.entered ||| 1 <<< m.index } l' ∧
      ∀ q ∈ step m, q ∈ l'.ends.reversed ∧ (m.index < q.index → l'.entered.testBit q.index = true)) :
    Grows p step l l' ∧ l'.entered.testBit m.index = true := by
  obtain ⟨h, hall⟩ := h
  refine ⟨⟨h.tracks, h.ends, fun i hi => ?_, fun m' hm' hin => ?_⟩, ?_⟩
  · exact h.entered i ((testBit_or_shiftLeft _ _ _).mpr (.inl hi))
  · refine (h.settled m' hm' hin).elim (fun hin => ?_) .inr
    rcases (testBit_or_shiftLeft _ _ _).mp hin with hin | hindex
    · exact .inl hin
    · exact .inr (hm.eq hm' hindex ▸ hall)
  · exact h.entered _ ((testBit_or_shiftLeft _ _ _).mpr (.inr rfl))

end Loop.Grows

include hstep

lemma Loop.Grows.mem_of_transGen {l : Loop} (h : Grows p step ⟨0, .none⟩ l)
    (hin : l.entered.testBit p.index = true) (hq : Relation.TransGen (fun a b => b ∈ step a) p q) :
    q ∈ l.ends.reversed := by
  have hnext {a b : Place} (ha : p.Follows a ∧ l.entered.testBit a.index = true) (hb : b ∈ step a) :
      (p.Follows b ∧ l.entered.testBit b.index = true) ∧ b ∈ l.ends.reversed := by
    obtain ⟨hmem, hlater⟩ := (h.settled a ha.1 ha.2).resolve_left (by simp) b hb
    refine ⟨⟨ha.1.trans (hstep a b hb), ?_⟩, hmem⟩
    -- A step that stays where it is leads to a place that has been entered.
    rcases Nat.eq_or_lt_of_le (hstep a b hb).index_le with heq | hlt
    · exact heq ▸ ha.2
    · exact hlater hlt
  have hall : (p.Follows q ∧ l.entered.testBit q.index = true) ∧ q ∈ l.ends.reversed := by
    induction hq with
    | single hq => exact hnext ⟨.refl p, hin⟩ hq
    | tail _ hq ih => exact hnext ih.1 hq
  exact hall.2

lemma grows_iterate (greedy : Bool) {fuel : Nat} {l : Loop} {m : Place} (hm : p.Follows m)
    (h : l.ends.Tracks p) (hfuel : m.rest.length < fuel) :
    l.Grows p step (iterate step greedy fuel l m) ∧
      (iterate step greedy fuel l m).entered.testBit m.index = true := by
  induction fuel generalizing l m with
  | zero => exact absurd hfuel (Nat.not_lt_zero _)
  | succ fuel ih =>
    rw [iterate]
    split
    · next hin => exact ⟨.refl h, hin⟩
    · refine Loop.Grows.enter hm (Loop.Grows.foldl h fun q hq l hl => ?_)
      have hfollows := hm.trans (hstep m q hq)
      have hlength := (hstep m q hq).index_add_length
      split
      · next hlt =>
        split
        · obtain ⟨hgrows, hin⟩ := ih hfollows hl (by omega)
          obtain ⟨hpush, hmem⟩ := Loop.Grows.push step hgrows.tracks hfollows
          exact ⟨hgrows.trans hpush, hmem, fun _ => hin⟩
        · obtain ⟨hpush, hmem⟩ := Loop.Grows.push step hl hfollows
          obtain ⟨hgrows, hin⟩ := ih hfollows hpush.tracks (by omega)
          exact ⟨hpush.trans hgrows, hgrows.ends q hmem, fun _ => hin⟩
      · next hle =>
        obtain ⟨hpush, hmem⟩ := Loop.Grows.push step hl hfollows
        exact ⟨hpush, hmem, fun hlt => absurd hlt hle⟩

omit hstep in
lemma iterate_keeps {Q : Loop → Prop} (henter : ∀ l entered, Q l → Q { l with entered := entered })
    (greedy : Bool) (fuel : Nat) {l : Loop} {m : Place}
    (hpush : ∀ l q, Relation.TransGen (fun a b => b ∈ step a) m q → Q l →
      Q { l with ends := l.ends.push q }) (hl : Q l) : Q (iterate step greedy fuel l m) := by
  induction fuel generalizing l m with
  | zero => exact hl
  | succ fuel ih =>
    unfold iterate
    split
    · exact hl
    · refine List.foldlRecOn (motive := Q) _ _ (henter l _ hl) fun l hl a ha => ?_
      have hlater {l : Loop} (hl : Q l) : Q (iterate step greedy fuel l a) :=
        ih (fun l q hq => hpush l q (.head ha hq)) hl
      split
      · split
        · exact hpush _ a (.single ha) (hlater hl)
        · exact hlater (hpush l a (.single ha) hl)
      · exact hpush l a (.single ha) hl

omit hstep in
lemma mem_iterate (greedy : Bool) (fuel : Nat) {l : Loop} {m : Place} :
    ∀ q ∈ (iterate step greedy fuel l m).ends.reversed,
      q ∈ l.ends.reversed ∨ Relation.TransGen (fun a b => b ∈ step a) m q :=
  iterate_keeps (Q := fun l' => ∀ q ∈ l'.ends.reversed, q ∈ l.ends.reversed ∨ Relation.TransGen _ m q)
    (fun _ _ => id) greedy fuel (fun _ _ hq hl' => Ends.forall_push hl' (.inr hq)) fun _ => .inl

lemma mem_iterate_iff (greedy : Bool) :
    q ∈ (iterate step greedy (p.rest.length + 1) ⟨0, .none⟩ p).ends.toList ↔
      Relation.TransGen (fun a b => b ∈ step a) p q := by
  obtain ⟨hgrows, hin⟩ := grows_iterate hstep greedy (l := ⟨0, .none⟩) (.refl p) (Ends.tracks_none p)
    (Nat.lt_succ_self _)
  rw [Ends.mem_toList]
  constructor
  · intro hq
    exact (mem_iterate greedy _ q hq).resolve_left (by simp [Ends.none])
  · exact hgrows.mem_of_transGen hstep hin

omit hstep

lemma mem_ends_concat {r s : Regex} : q ∈ (concat r s).ends p ↔ ∃ m ∈ r.ends p, q ∈ s.ends m :=
  mem_reach (fun _ _ => follows_of_mem_ends) fun _ => follows_of_mem_ends

lemma mem_ends_alt {r s : Regex} : q ∈ (alt r s).ends p ↔ q ∈ r.ends p ∨ q ∈ s.ends p := by
  obtain ⟨hfirst, hmem⟩ := (Ends.tracks_none p).pushAll fun m (hm : m ∈ r.ends p) => follows_of_mem_ends hm
  obtain ⟨_, hmem'⟩ := hfirst.pushAll fun m (hm : m ∈ s.ends p) => follows_of_mem_ends hm
  rw [ends_alt, Ends.mem_toList, hmem', hmem]
  simp [Ends.none]

lemma mem_ends_plus {r : Regex} {greedy : Bool} :
    q ∈ (plus r greedy).ends p ↔ Relation.TransGen (fun a b => b ∈ r.ends a) p q :=
  mem_iterate_iff (fun _ _ => follows_of_mem_ends) greedy

end Regex

end Referent
