import Mathlib.Tactic.Common
import Referent.Regex.Basic
import Referent.Words

namespace Referent

namespace Regex

variable {P : Place → Prop} {step : Place → List Place}

def Keeps (P : Place → Prop) (step : Place → List Place) : Prop :=
  ∀ p, P p → ∀ q ∈ step p, P q

namespace Ends

lemma forall_push {e : Ends} {p : Place} (he : ∀ q ∈ e.reversed, P q) (hp : P p) :
    ∀ q ∈ (e.push p).reversed, P q := by
  unfold push
  split
  · exact he
  · intro q hq
    rcases List.mem_cons.mp hq with rfl | hq
    · exact hp
    · exact he q hq

lemma forall_pushAll {e : Ends} {ps : List Place} (he : ∀ q ∈ e.reversed, P q)
    (hp : ∀ p ∈ ps, P p) : ∀ q ∈ (e.pushAll ps).reversed, P q := by
  induction ps generalizing e with
  | nil => exact he
  | cons p rest ih =>
    exact ih (forall_push he (hp p List.mem_cons_self))
      fun q hq => hp q (List.mem_cons_of_mem _ hq)

lemma forall_none : ∀ q ∈ Ends.none.reversed, P q := by
  intro q hq
  exact absurd hq List.not_mem_nil

lemma forall_pushSteps (h : Keeps P step) {e : Ends} {ps : List Place}
    (he : ∀ q ∈ e.reversed, P q) (hp : ∀ p ∈ ps, P p) :
    ∀ q ∈ (ps.foldl (fun e p => e.pushAll (step p)) e).reversed, P q := by
  induction ps generalizing e with
  | nil => exact he
  | cons p rest ih =>
    exact ih (forall_pushAll he (h p (hp p List.mem_cons_self)))
      fun q hq => hp q (List.mem_cons_of_mem _ hq)

lemma forall_toList {e : Ends} (he : ∀ q ∈ e.reversed, P q) : ∀ q ∈ e.toList, P q :=
  fun q hq => he q (List.mem_reverse.mp hq)

end Ends

lemma forall_reach (h : Keeps P step) {ps : List Place} (hp : ∀ p ∈ ps, P p) :
    ∀ q ∈ reach step ps, P q := by
  unfold reach
  split
  · exact hp
  · exact h _ (hp _ List.mem_cons_self)
  · exact Ends.forall_toList (Ends.forall_pushSteps h Ends.forall_none hp)

lemma forall_foldl {ps : List Place} {turn : Loop → Place → Loop}
    (hturn : ∀ l p, p ∈ ps → (∀ q ∈ l.ends.reversed, P q) → ∀ q ∈ (turn l p).ends.reversed, P q)
    {l : Loop} (hl : ∀ q ∈ l.ends.reversed, P q) :
    ∀ q ∈ (ps.foldl turn l).ends.reversed, P q := by
  induction ps generalizing l with
  | nil => exact hl
  | cons p rest ih =>
    exact ih (fun l q hq => hturn l q (List.mem_cons_of_mem _ hq))
      (hturn l p List.mem_cons_self hl)

lemma forall_iterate (h : Keeps P step) (greedy : Bool) (fuel : Nat) {l : Loop} {p : Place}
    (hl : ∀ q ∈ l.ends.reversed, P q) (hp : P p) :
    ∀ q ∈ (iterate step greedy fuel l p).ends.reversed, P q := by
  induction fuel generalizing l p with
  | zero => exact hl
  | succ fuel ih =>
    unfold iterate
    split
    · exact hl
    · refine forall_foldl (fun l q hq hl => ?_) hl
      have hPq := h p hp q hq
      split
      · split
        · exact Ends.forall_push (ih hl hPq) hPq
        · exact ih (Ends.forall_push hl hPq) hPq
      · exact Ends.forall_push hl hPq

lemma forall_repeatReach (h : Keeps P step) (n : Nat) {ps : List Place} (hp : ∀ p ∈ ps, P p) :
    ∀ q ∈ repeatReach step n ps, P q := by
  induction n generalizing ps with
  | zero => exact hp
  | succ n ih =>
    unfold repeatReach
    split
    · exact hp
    · exact ih (forall_reach h hp)

lemma forall_descend (h : Keeps P step) (greedy : Bool) (width n : Nat) {l : Loop} {p : Place}
    (hl : ∀ q ∈ l.ends.reversed, P q) (hp : P p) :
    ∀ q ∈ (descend step greedy width n l p).ends.reversed, P q := by
  induction n generalizing l p with
  | zero => exact Ends.forall_push hl hp
  | succ n ih =>
    unfold descend
    dsimp only
    split
    · exact hl
    · split
      · exact Ends.forall_push (forall_foldl (fun l q hq hl => ih hl (h p hp q hq)) hl) hp
      · exact forall_foldl (fun l q hq hl => ih hl (h p hp q hq)) (Ends.forall_push hl hp)

lemma keeps_ends (r : Regex)
    (hnext : ∀ index prev c rest, P ⟨index, prev, c :: rest⟩ → P ⟨index + 1, some c, rest⟩) :
    Keeps P (ends r) := by
  induction r with
  | empty => exact fun p hp q hq => List.mem_singleton.mp hq ▸ hp
  | chars set =>
    rintro ⟨index, prev, rest⟩ hp q hq
    cases rest with
    | nil => exact absurd hq List.not_mem_nil
    | cons c rest =>
      rw [ends_chars_cons] at hq
      split at hq
      · exact List.mem_singleton.mp hq ▸ hnext index prev c rest hp
      · exact absurd hq List.not_mem_nil
  | anchor a =>
    intro p hp q hq
    rw [ends_anchor] at hq
    split at hq
    · exact List.mem_singleton.mp hq ▸ hp
    · exact absurd hq List.not_mem_nil
  | concat r s hr hs => exact fun p hp => forall_reach hs (hr p hp)
  | alt r s hr hs =>
    exact fun p hp => Ends.forall_toList
      (Ends.forall_pushAll (Ends.forall_pushAll Ends.forall_none (hr p hp)) (hs p hp))
  | plus r greedy hr =>
    exact fun p hp => Ends.forall_toList (forall_iterate hr greedy _ Ends.forall_none hp)
  | times r count hr =>
    exact fun p hp => forall_repeatReach hr count fun q hq => List.mem_singleton.mp hq ▸ hp
  | upTo r count greedy hr =>
    exact fun p hp => Ends.forall_toList (forall_descend hr greedy _ _ Ends.forall_none hp)

lemma index_add_length_ends (r : Regex) (p q : Place) (h : q ∈ r.ends p) :
    q.index + q.rest.length = p.index + p.rest.length := by
  refine keeps_ends (P := fun q => q.index + q.rest.length = p.index + p.rest.length) r
    ?_ p rfl q h
  intro index prev c rest hp
  rw [List.length_cons] at hp
  dsimp only at hp ⊢
  omega

lemma matchEnd?_le {r : Regex} {p : Place} {stop : Nat} (h : r.matchEnd? p = some stop) :
    stop ≤ p.index + p.rest.length := by
  obtain ⟨q, hq, rfl⟩ := Option.map_eq_some_iff.mp h
  have hplace := index_add_length_ends r p q (List.mem_of_mem_head? hq)
  omega

lemma spansFrom_bounds (r : Regex) (resume index : Nat) (prev : Option Char) (text : List Char)
    (s : Nat × Nat) (h : s ∈ r.spansFrom resume index prev text) :
    s.1 < s.2 ∧ s.2 ≤ index + text.length := by
  induction text generalizing resume index prev with
  | nil => exact absurd h List.not_mem_nil
  | cons c rest ih =>
    have hlater : ∀ resume, s ∈ r.spansFrom resume (index + 1) (some c) rest →
        s.1 < s.2 ∧ s.2 ≤ index + (c :: rest).length := by
      intro resume hs
      have hb := ih resume (index + 1) (some c) hs
      rw [List.length_cons]
      omega
    unfold spansFrom at h
    split at h
    · exact hlater _ h
    · split at h
      · exact hlater _ h
      · next stop hstop =>
        split at h
        · rcases List.mem_cons.mp h with rfl | h
          · exact ⟨‹_›, matchEnd?_le hstop⟩
          · exact hlater _ h
        · exact hlater _ h

lemma spans_le_length (r : Regex) (text : List Char) (s : Nat × Nat) (h : s ∈ r.spans text) :
    s.1 ≤ text.length ∧ s.2 ≤ text.length := by
  have hb := spansFrom_bounds r 0 0 none text s h
  omega

end Regex

namespace Unicode

lemma flatten_clustersFrom (s : ClusterState) (cluster text : List Char) :
    (clustersFrom s cluster text).flatten = cluster.reverse ++ text := by
  induction text generalizing s cluster with
  | nil => simp [clustersFrom]
  | cons c rest ih =>
    unfold clustersFrom
    split
    · simp [ih]
    · simp [ih]

lemma flatten_clusters (text : List Char) : (clusters text).flatten = text := by
  cases text with
  | nil => rfl
  | cons c rest => simp [clusters, flatten_clustersFrom]

lemma spansFrom_bounds (start : Nat) (gs : List (List Char)) (s : Nat × Nat)
    (h : s ∈ spansFrom start gs) : s.1 ≤ s.2 ∧ s.2 ≤ start + gs.flatten.length := by
  induction gs generalizing start with
  | nil => exact absurd h List.not_mem_nil
  | cons g rest ih =>
    rw [List.flatten_cons, List.length_append]
    rcases List.mem_cons.mp h with rfl | h
    · dsimp only
      omega
    · have hb := ih (start + g.length) h
      omega

lemma clusterSpans_le_length (text : List Char) (s : Nat × Nat) (h : s ∈ clusterSpans text) :
    s.1 ≤ text.length ∧ s.2 ≤ text.length := by
  have hb := spansFrom_bounds 0 (clusters text) s h
  rw [flatten_clusters] at hb
  omega

end Unicode

lemma take_length_takeWhile (p : Char → Bool) (text : List Char) :
    text.take (text.takeWhile p).length = text.takeWhile p :=
  (List.prefix_iff_eq_take.mp (List.takeWhile_prefix p)).symm

lemma wordLength_le (text : List Char) : wordLength text ≤ text.length := by
  have htake (p : Char → Bool) (l : List Char) : (l.takeWhile p).length ≤ l.length :=
    (List.takeWhile_sublist p).length_le
  have hcapitals := htake isCapital text
  have hrest := htake isUncapitalized (text.drop (text.takeWhile isCapital).length)
  rw [List.length_drop] at hrest
  unfold wordLength
  dsimp only
  split
  · omega
  · split
    · exact htake isUncapitalized text
    · exact htake Unicode.isNumber text

lemma splitCapitals_bounds (start : Nat) (word : List Char) (s : Nat × Nat)
    (h : s ∈ splitCapitals start word) : s.1 ≤ s.2 ∧ s.2 ≤ start + word.length := by
  unfold splitCapitals at h
  dsimp only at h
  split at h
  · rcases List.mem_cons.mp h with rfl | h
    · dsimp only
      omega
    · obtain rfl := List.mem_singleton.mp h
      dsimp only
      omega
  · obtain rfl := List.mem_singleton.mp h
    dsimp only
    omega

lemma wordSpansFrom_bounds (start : Nat) (text : List Char) (s : Nat × Nat)
    (h : s ∈ wordSpansFrom start text) : s.1 ≤ s.2 ∧ s.2 ≤ start + text.length := by
  fun_induction wordSpansFrom start text with
  | case1 start => exact absurd h List.not_mem_nil
  | case2 start c rest length hpos ih =>
    have hle : length ≤ (c :: rest).length := wordLength_le (c :: rest)
    rcases List.mem_append.mp h with h | h
    · have hb := splitCapitals_bounds _ _ s h
      rw [List.length_take] at hb
      omega
    · have hb := ih h
      rw [List.length_drop] at hb
      omega
  | case3 start c rest length hpos ih =>
    have hb := ih h
    rw [List.length_cons]
    omega

lemma wordSpans_le_length (text : List Char) (s : Nat × Nat) (h : s ∈ wordSpans text) :
    s.1 ≤ text.length ∧ s.2 ≤ text.length := by
  have hb := wordSpansFrom_bounds 0 text s h
  omega

end Referent
