import Referent.Proofs.Pair.Brackets
import Referent.Proofs.Pair.Order

namespace Referent

open Occurrence (charBefore)

lemma Delimiter.isBracket_of_mem_table {δ : Delimiter} (h : δ ∈ table) (hsides : δ.isSymmetric = false) :
    δ.IsBracket := by
  have hall : ∀ δ ∈ table, δ.isSymmetric = false → δ.opening ≠ δ.closing ∧ 0 < δ.length ∧
      ∀ t ∈ [δ.opening, δ.closing],
        t.length = δ.length ∧ (t.dropLast.all (· == '\\')) = true ∧ '\r' ∉ t ∧ '\n' ∉ t := by decide
  exact isBracket_of_texts (hall δ h hsides)

namespace Occurrence

inductive Balanced : List Side → Prop
  | nil : Balanced []
  | pair {l l' : List Side} : Balanced l → Balanced l' → Balanced (.left :: (l ++ .right :: l'))

lemma Balanced.append {l l' : List Side} (h : Balanced l) (h' : Balanced l') : Balanced (l ++ l') := by
  induction h with
  | nil => exact h'
  | pair hl _ _ ih =>
    rw [List.cons_append, List.append_assoc, List.cons_append]
    exact .pair hl ih

section Stack

variable {opened rest l l' : List Occurrence} {o p : Occurrence} {q : Occurrence × Occurrence}

lemma openAfter_append (opened l l' : List Occurrence) :
    openAfter opened (l ++ l') = openAfter (openAfter opened l) l' := by
  induction l generalizing opened with
  | nil => rfl
  | cons o rest ih =>
    rw [List.cons_append, openAfter, openAfter]
    cases o.side with
    | left => exact ih _
    | right => exact ih _

lemma matchFrom_left (h : o.side = .left) :
    matchFrom opened (o :: rest) = matchFrom (o :: opened) rest := by rw [matchFrom, h]

lemma matchFrom_right (h : o.side = .right) (hp : p.delimiter = o.delimiter) :
    matchFrom (p :: opened) (o :: rest) = (p, o) :: matchFrom opened rest := by
  rw [matchFrom, h]
  simp only [List.find?_cons, List.eraseP_cons, decide_eq_true hp, cond_true]

lemma openAfter_left (h : o.side = .left) :
    openAfter opened (o :: rest) = openAfter (o :: opened) rest := by rw [openAfter, h]

lemma openAfter_right (h : o.side = .right) (hp : p.delimiter = o.delimiter) :
    openAfter (p :: opened) (o :: rest) = openAfter opened rest := by
  rw [openAfter, h]
  simp only [List.eraseP_cons, decide_eq_true hp, cond_true]

variable {δ : Delimiter}

lemma openAfter_balanced (hl : ∀ o ∈ l, o.delimiter = δ) (h : Balanced (l.map side)) :
    openAfter opened l = opened := by
  generalize hsides : l.map side = sides at h
  induction h generalizing opened l with
  | nil =>
    obtain rfl := List.map_eq_nil_iff.mp hsides
    rfl
  | pair _ _ ih ih' =>
    obtain ⟨o, rest, rfl, ho, hrest⟩ := List.map_eq_cons_iff.mp hsides
    obtain ⟨inner, rest, rfl, hinner, hrest⟩ := List.map_eq_append_iff.mp hrest
    obtain ⟨o', after, rfl, ho', hafter⟩ := List.map_eq_cons_iff.mp hrest
    have hsame : o.delimiter = o'.delimiter := (hl o (by simp)).trans (hl o' (by simp)).symm
    rw [openAfter_left ho, openAfter_append, ih (fun x hx => hl x (by simp [hx])) hinner,
      openAfter_right ho' hsame, ih' (fun x hx => hl x (by simp [hx])) hafter]

/-- Whether each occurrence that is open opens a pair, with nothing but balanced ones behind it. -/
inductive Pending : List Occurrence → List Occurrence → Prop
  | nil (read : List Occurrence) : Pending [] read
  | cons {opened read inner : List Occurrence} {p : Occurrence} : Pending opened read →
      p.side = .left → Balanced (inner.map side) → Pending (p :: opened) (read ++ p :: inner)

lemma Pending.append {read : List Occurrence} (h : Pending opened read) (hl : Balanced (l.map side)) :
    Pending opened (read ++ l) := by
  cases h with
  | nil => exact .nil _
  | cons h hp hinner =>
    rw [List.append_assoc, List.cons_append]
    refine .cons h hp ?_
    rw [List.map_append]
    exact hinner.append hl

def Belong (l : List Occurrence) (q : Occurrence × Occurrence) : Prop :=
  ∃ before inner after, l = before ++ q.1 :: (inner ++ q.2 :: after) ∧
    q.1.side = .left ∧ q.2.side = .right ∧ Balanced (inner.map side)

lemma belong_of_mem_matchFrom {read : List Occurrence} (h : Pending opened read)
    (hopened : ∀ p ∈ opened, p.delimiter = δ) (hl : ∀ o ∈ l, o.delimiter = δ)
    (hq : q ∈ matchFrom opened l) : Belong (read ++ l) q := by
  induction l generalizing opened read with
  | nil => exact absurd hq List.not_mem_nil
  | cons o rest ih =>
    obtain ⟨ho, hrest⟩ := List.forall_mem_cons.mp hl
    rw [List.append_cons]
    cases hside : o.side with
    | left =>
      rw [matchFrom_left hside] at hq
      exact ih (.cons h hside .nil) (List.forall_mem_cons.mpr ⟨ho, hopened⟩) hrest hq
    | right =>
      cases h with
      | nil =>
        rw [matchFrom, hside] at hq
        exact ih (.nil _) hopened hrest hq
      | @cons opened read inner p h hp hinner =>
        obtain ⟨hpδ, hopened⟩ := List.forall_mem_cons.mp hopened
        rw [matchFrom_right hside (hpδ.trans ho.symm)] at hq
        rcases List.mem_cons.mp hq with rfl | hq
        · exact ⟨read, inner, rest, by simp, hp, hside, hinner⟩
        -- The pair that is closed becomes part of what is balanced behind the one that is open now.
        · have hread : read ++ p :: inner ++ [o] = read ++ (p :: (inner ++ [o])) := by simp
          rw [hread]
          refine ih (h.append ?_) hopened hrest hq
          rw [List.map_cons, List.map_append, hp, List.map_singleton, hside]
          exact .pair hinner .nil

theorem mem_matched_iff_belong (hl : ∀ o ∈ l, o.delimiter = δ) : q ∈ matched l ↔ Belong l q := by
  constructor
  · intro hq
    exact belong_of_mem_matchFrom (.nil []) (fun p hp => absurd hp List.not_mem_nil) hl hq
  · rintro ⟨before, inner, after, rfl, hopen, hclose, hinner⟩
    have hsame : q.1.delimiter = q.2.delimiter := (hl q.1 (by simp)).trans (hl q.2 (by simp)).symm
    rw [matched, matchFrom_append, matchFrom_left hopen, matchFrom_append,
      openAfter_balanced (fun o ho => hl o (by simp [ho])) hinner, matchFrom_right hclose hsame]
    simp

end Stack

section Text

variable {δ : Delimiter} {text : List Char} {a b k : Nat} {side : Side}

def sideAt? (δ : Delimiter) (text : List Char) (k : Nat) : Option Side :=
  if charBefore text k = some '\\' then none
  else if δ.opening.isPrefixOf (text.drop k) then some .left
  else if δ.closing.isPrefixOf (text.drop k) then some .right
  else none

def sides (δ : Delimiter) (text : List Char) (a b : Nat) : List Side :=
  (List.range' a (b - a)).filterMap (sideAt? δ text)

structure Encloses (δ : Delimiter) (text : List Char) (a b : Nat) : Prop where
  opening : sideAt? δ text a = some .left
  closing : sideAt? δ text b = some .right
  lt : a < b
  balanced : Balanced (sides δ text (a + 1) b)

def standing (δ : Delimiter) (k : Nat) (side : Side) : Occurrence := ⟨k, k + δ.length, δ, side⟩

lemma eq_standing {o : Occurrence} (h : Reads δ text o) : o = standing δ o.start o.side := by
  obtain ⟨hdelimiter, hstop, _⟩ := h
  cases o
  simp_all [standing]

variable (hδ : δ.IsBracket)

include hδ

lemma sideAt?_eq_some_iff : sideAt? δ text k = some side ↔ standing δ k side ∈ ofText [δ] text := by
  rw [mem_ofText hδ, sideAt?]
  constructor
  · intro h
    split at h
    · cases h
    · next hfree =>
      split at h
      · next hprefix =>
        cases h
        exact ⟨⟨rfl, rfl, List.isPrefixOf_iff_prefix.mp hprefix⟩, hfree⟩
      · split at h
        · next hprefix =>
          cases h
          exact ⟨⟨rfl, rfl, List.isPrefixOf_iff_prefix.mp hprefix⟩, hfree⟩
        · cases h
  · intro h
    have hfree : charBefore text k ≠ some '\\' := h.free
    rw [if_neg hfree]
    cases side with
    | left => exact if_pos (List.isPrefixOf_iff_prefix.mpr h.isPrefix)
    | right =>
      have hopening : ¬δ.opening.isPrefixOf (text.drop k) = true := fun hprefix => by
        have hopens : Reads δ text (standing δ k .left) :=
          ⟨rfl, rfl, List.isPrefixOf_iff_prefix.mp hprefix⟩
        exact Side.noConfusion (congrArg Occurrence.side (hopens.eq_of_start hδ h.toReads rfl))
      rw [if_neg hopening]
      exact if_pos (List.isPrefixOf_iff_prefix.mpr h.isPrefix)

lemma sides_eq (text : List Char) (a b : Nat) :
    sides δ text a b = ((ofText [δ] text).filter fun o => a ≤ o.start ∧ o.start < b).map
      Occurrence.side := by
  -- Both lists go from left to right, so it is enough that they have the same members.
  let found (k : Nat) : Option Occurrence := (sideAt? δ text k).map (standing δ k)
  let R (o o' : Occurrence) : Prop := o.start < o'.start
  have hirrefl : Std.Irrefl R := ⟨fun o h => Nat.lt_irrefl o.start h⟩
  have hantisymm : Std.Antisymm R := ⟨fun o o' h h' => absurd h (Nat.lt_asymm h')⟩
  have hfound {o : Occurrence} {k : Nat} : found k = some o ↔ o.start = k ∧ o ∈ ofText [δ] text := by
    rw [Option.map_eq_some_iff]
    constructor
    · rintro ⟨side, hside, rfl⟩
      exact ⟨rfl, (sideAt?_eq_some_iff hδ).mp hside⟩
    · rintro ⟨rfl, ho⟩
      have heq := eq_standing ((mem_ofText hδ).mp ho).toReads
      refine ⟨o.side, (sideAt?_eq_some_iff hδ).mpr ?_, heq.symm⟩
      rwa [← heq]
  have hlist : (List.range' a (b - a)).filterMap found =
      (ofText [δ] text).filter fun o => a ≤ o.start ∧ o.start < b := by
    have hpairwise : ((List.range' a (b - a)).filterMap found).Pairwise R := by
      refine List.Pairwise.filterMap found ?_ (List.pairwise_lt_range' _)
      intro k k' hlt o ho o' ho'
      obtain ⟨rfl, _⟩ := hfound.mp ho
      obtain ⟨rfl, _⟩ := hfound.mp ho'
      exact hlt
    have hpairwise' : (ofText [δ] text).Pairwise R := (ofText_pairwise [δ] text).imp Precedes.start_lt
    refine hpairwise.eq_of_mem_iff (hpairwise'.filter _) fun o => ?_
    rw [List.mem_filterMap, List.mem_filter, decide_eq_true_iff]
    constructor
    · rintro ⟨k, hk, ho⟩
      obtain ⟨rfl, hmem⟩ := hfound.mp ho
      have hrange := List.mem_range'_1.mp hk
      exact ⟨hmem, by omega⟩
    · rintro ⟨hmem, hrange⟩
      exact ⟨o.start, List.mem_range'_1.mpr (by omega), hfound.mpr ⟨rfl, hmem⟩⟩
  rw [← hlist, List.map_filterMap, sides]
  refine List.filterMap_congr fun k _ => ?_
  rw [Option.map_map]
  exact (congrFun Option.map_id (sideAt? δ text k)).symm

omit hδ in
lemma filter_between {before inner after : List Occurrence} {o p : Occurrence}
    (h : (before ++ p :: (inner ++ o :: after)).Pairwise Precedes) :
    (before ++ p :: (inner ++ o :: after)).filter
      (fun x => p.start + 1 ≤ x.start ∧ x.start < o.start) = inner := by
  obtain ⟨_, hrest, hbefore⟩ := List.pairwise_append.mp h
  obtain ⟨hp, hrest⟩ := List.pairwise_cons.mp hrest
  obtain ⟨_, hlast, hinner⟩ := List.pairwise_append.mp hrest
  have hafter := (List.pairwise_cons.mp hlast).1
  have hfirst : before.filter (fun x => p.start + 1 ≤ x.start ∧ x.start < o.start) = [] := by
    refine List.filter_eq_nil_iff.mpr fun x hx => ?_
    have hlt := (hbefore x hx p List.mem_cons_self).start_lt
    simp only [decide_eq_true_eq]
    omega
  have hlast : after.filter (fun x => p.start + 1 ≤ x.start ∧ x.start < o.start) = [] := by
    refine List.filter_eq_nil_iff.mpr fun x hx => ?_
    have hlt := (hafter x hx).start_lt
    simp only [decide_eq_true_eq]
    omega
  have hmiddle : inner.filter (fun x => p.start + 1 ≤ x.start ∧ x.start < o.start) = inner := by
    refine List.filter_eq_self.mpr fun x hx => ?_
    have hlt := (hp x (List.mem_append_left _ hx)).start_lt
    have hlt' := (hinner x hx o List.mem_cons_self).start_lt
    simp only [decide_eq_true_eq]
    omega
  rw [List.filter_append, hfirst, List.nil_append, List.filter_cons_of_neg (by simp),
    List.filter_append, hmiddle, List.filter_cons_of_neg (by simp), hlast, List.append_nil]

lemma sides_between {before inner after : List Occurrence} {o p : Occurrence}
    (h : ofText [δ] text = before ++ p :: (inner ++ o :: after)) :
    sides δ text (p.start + 1) o.start = inner.map Occurrence.side := by
  have hpairwise := ofText_pairwise [δ] text
  rw [h] at hpairwise
  rw [sides_eq hδ, h, filter_between hpairwise]

theorem mem_matched_ofText_iff {q : Occurrence × Occurrence} : q ∈ matched (ofText [δ] text) ↔
    ∃ a b, Encloses δ text a b ∧ q = (standing δ a .left, standing δ b .right) := by
  have hreads {o : Occurrence} (ho : o ∈ ofText [δ] text) : Reads δ text o :=
    ((mem_ofText hδ).mp ho).toReads
  rw [mem_matched_iff_belong fun o ho => (hreads ho).delimiter]
  constructor
  · rintro ⟨before, inner, after, hsplit, hopen, hclose, hinner⟩
    have hmem : q.1 ∈ ofText [δ] text := by simp [hsplit]
    have hmem' : q.2 ∈ ofText [δ] text := by simp [hsplit]
    have hfirst := eq_standing (hreads hmem)
    have hsecond := eq_standing (hreads hmem')
    rw [hopen] at hfirst
    rw [hclose] at hsecond
    have hpairwise := ofText_pairwise [δ] text
    rw [hsplit] at hpairwise
    have hprecedes := (List.pairwise_cons.mp (List.pairwise_append.mp hpairwise).2.1).1 q.2 (by simp)
    refine ⟨q.1.start, q.2.start, ⟨?_, ?_, hprecedes.start_lt, ?_⟩, Prod.ext hfirst hsecond⟩
    · rwa [sideAt?_eq_some_iff hδ, ← hfirst]
    · rwa [sideAt?_eq_some_iff hδ, ← hsecond]
    · rwa [sides_between hδ hsplit]
  · rintro ⟨a, b, ⟨hopen, hclose, hlt, hinner⟩, rfl⟩
    obtain ⟨before, rest, hsplit⟩ := List.append_of_mem ((sideAt?_eq_some_iff hδ).mp hopen)
    have hmem := (sideAt?_eq_some_iff hδ).mp hclose
    have hpairwise := ofText_pairwise [δ] text
    rw [hsplit] at hmem hpairwise
    have hbehind : standing δ b .right ∈ rest := by
      rcases List.mem_append.mp hmem with hbefore | hmem
      · have hstart := ((List.pairwise_append.mp hpairwise).2.2 _ hbefore _ List.mem_cons_self).start_lt
        exact absurd hstart (Nat.lt_asymm hlt)
      · rcases List.mem_cons.mp hmem with heq | hmem
        · exact Side.noConfusion (congrArg Occurrence.side heq)
        · exact hmem
    obtain ⟨inner, after, rfl⟩ := List.append_of_mem hbehind
    exact ⟨before, inner, after, hsplit, rfl, rfl, sides_between hδ hsplit ▸ hinner⟩

end Text

end Occurrence

namespace PairSearch

open Occurrence

def pairAt (δ : Delimiter) (d : Document) (a b : Nat) : PairMatch where
  opening := .between (d.positionAt a) (d.positionAt (a + δ.opening.length))
  closing := .between (d.positionAt b) (d.positionAt (b + δ.closing.length))

structure Matches (δ : Delimiter) (d : Document) (pairs : List PairMatch) : Prop where
  mem_iff : ∀ p, p ∈ pairs ↔ ∃ a b, Encloses δ d.text a b ∧ p = pairAt δ d a b
  unshared : ∀ p ∈ pairs, ∀ q ∈ pairs, ∀ r,
    r = p.opening ∨ r = p.closing → r = q.opening ∨ r = q.closing → p = q
  uncrossed : ∀ p ∈ pairs, ∀ q ∈ pairs,
    p = q ∨ p.interior.containsRange q.content = true ∨ q.interior.containsRange p.content = true ∨
      p.content.stop ≤ q.content.start ∨ q.content.stop ≤ p.content.start
  inOrder : pairs.Pairwise fun p q => p.opening.start < q.opening.start
  texts : ∀ p ∈ pairs, d.textIn p.opening = δ.opening ∧ d.textIn p.closing = δ.closing

section Bracket

variable {δ : Delimiter} (hδ : δ.IsBracket) {s : PairSearch} {d : Document}

include hδ

lemma matchAt_standing (a b : Nat) :
    matchAt d 0 (standing δ a .left, standing δ b .right) = pairAt δ d a b := by
  have hopen : δ.opening.length = δ.length := hδ.length_textOf .left
  have hclose : δ.closing.length = δ.length := hδ.length_textOf .right
  rw [pairAt, hopen, hclose, matchAt, occurrenceRange, occurrenceRange]
  simp only [Nat.zero_add]
  rfl

lemma mem_findAll_iff_encloses (hs : s.delimiters = [δ]) {p : PairMatch} :
    p ∈ s.findAll d ↔ ∃ a b, Encloses δ d.text a b ∧ p = pairAt δ d a b := by
  rw [mem_findAll_bracket hδ hs]
  constructor
  · rintro ⟨q, hq, rfl⟩
    obtain ⟨a, b, hencloses, rfl⟩ := (mem_matched_ofText_iff hδ).mp hq
    exact ⟨a, b, hencloses, matchAt_standing hδ a b⟩
  · rintro ⟨a, b, hencloses, rfl⟩
    exact ⟨_, (mem_matched_ofText_iff hδ).mpr ⟨a, b, hencloses, rfl⟩, matchAt_standing hδ a b⟩

lemma precedes_cases {q q' : Occurrence × Occurrence} (hq : q ∈ matched (ofText [δ] d.text))
    (hq' : q' ∈ matched (ofText [δ] d.text)) :
    q = q' ∨ (q.1.Precedes q'.1 ∧ q'.2.Precedes q.2) ∨ (q'.1.Precedes q.1 ∧ q.2.Precedes q'.2) ∨
      q.2.Precedes q'.1 ∨ q'.2.Precedes q.1 := by
  have hsame : q.1.delimiter = q'.1.delimiter :=
    (paired_of_mem hδ hq).opening.delimiter.trans (paired_of_mem hδ hq').opening.delimiter.symm
  by_cases hne : q = q'
  · exact .inl hne
  · rcases settled_or (ofText_pairwise [δ] d.text) hq hq' hne with h | h
    · rcases h.2 hsame with hbefore | hinside
      · exact .inr (.inr (.inr (.inl hbefore)))
      · exact .inr (.inr (.inl hinside))
    · rcases h.2 hsame.symm with hbefore | hinside
      · exact .inr (.inr (.inr (.inr hbefore)))
      · exact .inr (.inl hinside)

lemma eq_of_place {q q' : Occurrence × Occurrence} (hq : q ∈ matched (ofText [δ] d.text))
    (hq' : q' ∈ matched (ofText [δ] d.text)) {k : Nat} (hk : k = q.1.start ∨ k = q.2.start)
    (hk' : k = q'.1.start ∨ k = q'.2.start) : q = q' := by
  have hlt := (paired_of_mem hδ hq).precedes.start_lt
  have hlt' := (paired_of_mem hδ hq').precedes.start_lt
  rcases precedes_cases hδ hq hq' with heq | ⟨h, h'⟩ | ⟨h, h'⟩ | h | h
  · exact heq
  · have h₁ := h.start_lt
    have h₂ := h'.start_lt
    omega
  · have h₁ := h.start_lt
    have h₂ := h'.start_lt
    omega
  · have h₁ := h.start_lt
    omega
  · have h₁ := h.start_lt
    omega

lemma eq_of_shared {q q' : Occurrence × Occurrence} (hq : q ∈ matched (ofText [δ] d.text))
    (hq' : q' ∈ matched (ofText [δ] d.text)) {r : Range}
    (hr : r = (matchAt d 0 q).opening ∨ r = (matchAt d 0 q).closing)
    (hr' : r = (matchAt d 0 q').opening ∨ r = (matchAt d 0 q').closing) : q = q' := by
  obtain ⟨hopen, _, hclose, _⟩ := (paired_of_mem hδ hq).offsets hδ
  obtain ⟨hopen', _, hclose', _⟩ := (paired_of_mem hδ hq').offsets hδ
  have hplace {r' : Range} {k : Nat} (h : r = r') (hk : d.offsetAt r'.start = k) :
      d.offsetAt r.start = k := by rw [h, hk]
  apply eq_of_place hδ hq hq'
  · exact hr.imp (fun h => hplace h hopen) fun h => hplace h hclose
  · exact hr'.imp (fun h => hplace h hopen') fun h => hplace h hclose'

omit hδ in
lemma containsRange_interior {q q' : Occurrence × Occurrence} (hq : q.1.Precedes q.2)
    (hq' : q'.1.Precedes q'.2) (h : q.1.Precedes q'.1) (h' : q'.2.Precedes q.2) :
    (matchAt d 0 q).interior.containsRange (matchAt d 0 q').content = true := by
  obtain ⟨hstart, hstop⟩ := PairMatch.interior_eq (fits_matchAt d 0 hq).ordered
  have hopen : (matchAt d 0 q).opening.stop = d.positionAt (0 + q.1.stop) :=
    Range.stop_between (d.positionAt_mono (Nat.add_le_add_left (Nat.le_of_lt hq.1) 0))
  have hclose : (matchAt d 0 q).closing.start = d.positionAt (0 + q.2.start) :=
    Range.start_between (d.positionAt_mono (Nat.add_le_add_left (Nat.le_of_lt hq.2.2) 0))
  rw [Range.containsRange_iff, hstart, hstop, hopen, hclose, Scope.start_matchAt d 0 hq',
    Scope.stop_matchAt d 0 hq']
  exact ⟨d.positionAt_mono (Nat.add_le_add_left h.2.1 0), d.positionAt_mono (Nat.add_le_add_left h'.2.1 0)⟩

lemma uncrossed_of_mem_matched {q q' : Occurrence × Occurrence} (hq : q ∈ matched (ofText [δ] d.text))
    (hq' : q' ∈ matched (ofText [δ] d.text)) :
    matchAt d 0 q = matchAt d 0 q' ∨
      (matchAt d 0 q).interior.containsRange (matchAt d 0 q').content = true ∨
      (matchAt d 0 q').interior.containsRange (matchAt d 0 q).content = true ∨
      (matchAt d 0 q).content.stop ≤ (matchAt d 0 q').content.start ∨
      (matchAt d 0 q').content.stop ≤ (matchAt d 0 q).content.start := by
  have hprecedes := (paired_of_mem hδ hq).precedes
  have hprecedes' := (paired_of_mem hδ hq').precedes
  rw [Scope.start_matchAt d 0 hprecedes, Scope.start_matchAt d 0 hprecedes',
    Scope.stop_matchAt d 0 hprecedes, Scope.stop_matchAt d 0 hprecedes']
  rcases precedes_cases hδ hq hq' with rfl | ⟨h, h'⟩ | ⟨h, h'⟩ | h | h
  · exact .inl rfl
  · exact .inr (.inl (containsRange_interior hprecedes hprecedes' h h'))
  · exact .inr (.inr (.inl (containsRange_interior hprecedes' hprecedes h h')))
  · exact .inr (.inr (.inr (.inl (d.positionAt_mono (Nat.add_le_add_left h.2.1 0)))))
  · exact .inr (.inr (.inr (.inr (d.positionAt_mono (Nat.add_le_add_left h.2.1 0)))))

end Bracket

variable {δ : Delimiter} {s : PairSearch}

/-- All pairs of one kind of brackets are those that belong together, from the first to the last one that
opens. No two share a bracket, and they are nested or apart. -/
theorem matches_findAll (hδ : δ ∈ Delimiter.table) (hsides : δ.isSymmetric = false)
    (hs : s.delimiters = [δ]) (d : Document) : Matches δ d (s.findAll d) := by
  have hbracket := Delimiter.isBracket_of_mem_table hδ hsides
  have htable : ∀ δ ∈ s.delimiters, δ ∈ Delimiter.table := by
    rw [hs]
    exact List.forall_mem_singleton.mpr hδ
  have hmem {p : PairMatch} (hp : p ∈ s.findAll d) :
      ∃ q ∈ matched (ofText [δ] d.text), matchAt d 0 q = p := (mem_findAll_bracket hbracket hs).mp hp
  refine ⟨fun p => mem_findAll_iff_encloses hbracket hs, fun p hp p' hp' r hr hr' => ?_,
    fun p hp p' hp' => ?_, ?_, fun p hp => ?_⟩
  · obtain ⟨q, hq, rfl⟩ := hmem hp
    obtain ⟨q', hq', rfl⟩ := hmem hp'
    rw [eq_of_shared hbracket hq hq' hr hr']
  · obtain ⟨q, hq, rfl⟩ := hmem hp
    obtain ⟨q', hq', rfl⟩ := hmem hp'
    exact uncrossed_of_mem_matched hbracket hq hq'
  · refine (pairwise_findAll htable d).imp_of_mem fun {p p'} hp hp' h => ?_
    have hstart := (PairMatch.content_eq (fits_of_mem_findAll s d p hp).ordered).1
    have hstart' := (PairMatch.content_eq (fits_of_mem_findAll s d p' hp').ordered).1
    rw [← hstart, ← hstart']
    exact h.1
  · obtain ⟨q, hq, rfl⟩ := hmem hp
    obtain ⟨a, b, hencloses, rfl⟩ := (mem_matched_ofText_iff hbracket).mp hq
    have hpaired := paired_of_mem hbracket hq
    exact ⟨(hpaired.opening.covers hbracket).textIn hδ (hpaired.opening.start_lt hbracket),
      (hpaired.closing.covers hbracket).textIn hδ (hpaired.closing.start_lt hbracket)⟩

theorem matches_findAll_unclosed :
    let δ : Delimiter := ⟨.parentheses, ['('], [')']⟩
    let d : Document := .ofText 1 "plaintext" "(a(b)\\)c".toList
    let p : PairMatch := ⟨.onLine 0 2 3, .onLine 0 4 5⟩
    δ ∈ Delimiter.table ∧ δ.isSymmetric = false ∧ parentheses.delimiters = [δ] ∧
      Matches δ d (parentheses.findAll d) ∧ p ∈ parentheses.findAll d := by
  intro δ d p
  have hdelimiters : parentheses.delimiters = [δ] := Delimiter.ofName_eq (by decide)
  have hmatches := matches_findAll (by decide) (by decide) hdelimiters d
  refine ⟨by decide, by decide, hdelimiters, hmatches, (hmatches.mem_iff p).mpr ⟨2, 4, ?_, ?_⟩⟩
  · exact ⟨by decide +kernel, by decide +kernel, by decide, .nil⟩
  · decide +kernel

end PairSearch

end Referent
