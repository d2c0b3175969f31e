import Referent.Proofs.Scope.Series
import Referent.Scope.Walk

namespace Referent

namespace Direction

variable {α : Type} {direction : Direction} {a : α} {l : List α}

def order (direction : Direction) (l : List α) : List α :=
  match direction with
  | forward => l
  | backward => l.reverse

lemma mem_order : a ∈ direction.order l ↔ a ∈ l := by
  cases direction with
  | forward => exact Iff.rfl
  | backward => exact List.mem_reverse

lemma length_order (direction : Direction) (l : List α) : (direction.order l).length = l.length := by
  cases direction with
  | forward => rfl
  | backward => exact List.length_reverse

lemma exists_order_eq (direction : Direction) (h : l ≠ []) :
    ∃ init last, direction.order l = init ++ [last] := by
  cases direction with
  | forward => exact ⟨_, _, (List.dropLast_concat_getLast h).symm⟩
  | backward =>
    obtain ⟨first, rest, rfl⟩ := List.exists_cons_of_ne_nil h
    exact ⟨_, _, List.reverse_cons⟩

lemma order_order (direction : Direction) (l : List α) : direction.order (direction.order l) = l := by
  cases direction with
  | forward => rfl
  | backward => exact List.reverse_reverse l

lemma order_infix {l' : List α} : direction.order l' <:+: direction.order l ↔ l' <:+: l := by
  cases direction with
  | forward => exact Iff.rfl
  | backward => exact List.reverse_infix

lemma order_filter (direction : Direction) (p : α → Bool) (l : List α) :
    direction.order (l.filter p) = (direction.order l).filter p := by
  cases direction with
  | forward => rfl
  | backward => exact List.filter_reverse.symm

end Direction

def Range.edge (r : Range) (direction : Direction) : Position :=
  match direction with
  | .forward => r.stop
  | .backward => r.start

namespace Scope

def isBeyond (direction : Direction) (mayTouch : Bool) (p : Position) (s : Scope) : Bool :=
  match direction, mayTouch with
  | .forward, true => p ≤ s.domain.start
  | .forward, false => p < s.domain.start
  | .backward, true => s.domain.stop ≤ p
  | .backward, false => s.domain.stop < p

def MetBefore (direction : Direction) (a b : Scope) : Prop :=
  match direction with
  | .forward => a.domain.Precedes b.domain
  | .backward => b.domain.Precedes a.domain

lemma filter_parted {direction : Direction} {u : Scope} {front rest : List Scope} {p : Scope → Bool}
    (h : (front ++ u :: rest).Pairwise (MetBefore direction))
    (hfront : ∀ s, MetBefore direction s u → p s = false)
    (hrest : ∀ s, MetBefore direction u s → p s = true) :
    (front ++ u :: rest).filter p = if p u then u :: rest else rest := by
  obtain ⟨_, hbehind, hbefore⟩ := List.pairwise_append.mp h
  have hdropped : front.filter p = [] := List.filter_eq_nil_iff.mpr fun s hs =>
    Bool.eq_false_iff.mp (hfront s (hbefore s hs u List.mem_cons_self))
  have hkept : rest.filter p = rest := List.filter_eq_self.mpr fun s hs =>
    hrest s ((List.pairwise_cons.mp hbehind).1 s hs)
  rw [List.filter_append, hdropped, List.nil_append, List.filter_cons, hkept]

lemma Series.pairwise_order {e : Editor} {l : List Scope} (h : Series e l) (direction : Direction) :
    (direction.order l).Pairwise (MetBefore direction) := by
  cases direction with
  | forward => exact h.precedes
  | backward => exact List.pairwise_reverse.mpr h.precedes

end Scope

namespace ScopeFinder

variable {f : ScopeFinder} {cx : Context} {e : Editor} {all : List Scope} {p : Position}

def containmentFor (mayTouch : Bool) : Containment :=
  if mayTouch then .disallowedIfStrict else .disallowed

lemma holds_ahead (hp : e.document.Has p) (direction : Direction) :
    e.document.Holds (ahead e.document direction p) := by
  cases direction with
  | forward => exact Document.holds_between hp e.document.holds_range.2
  | backward => exact Document.holds_between e.document.holds_range.1 hp

lemma isMet_iff {s : Scope} (hp : e.document.Has p) (hs : s.domain.touches e.document.range = true)
    (direction : Direction) (mayTouch : Bool) :
    ((isAhead direction p s && isAllowed (some (containmentFor mayTouch)) p s) &&
      s.domain.touches (ahead e.document direction p)) = s.isBeyond direction mayTouch p := by
  have hle := s.domain.start_le_stop
  have hbefore := (Range.touches_iff.mp hs).1
  have hbehind := e.document.start_range_le s.domain.stop
  have hahead : (s.domain.touches (ahead e.document direction p) = true) ↔
      match direction with
      | .forward => p ≤ s.domain.stop
      | .backward => s.domain.start ≤ p := by
    rw [Range.touches_iff, ahead.eq_def]
    cases direction with
    | forward =>
      have hstop := Document.le_stop_range hp
      rw [Range.start_between hstop, Range.stop_between hstop]
      exact and_iff_right hbefore
    | backward =>
      have hstart := e.document.start_range_le p
      rw [Range.start_between hstart, Range.stop_between hstart]
      exact and_iff_left hbehind
  rw [Bool.eq_iff_iff, Bool.and_eq_true, hahead]
  cases direction <;> cases mayTouch <;>
    simp only [isAhead, isAllowed, containmentFor, Scope.isBeyond, Range.strictlyContains,
      Range.contains, Range.isEmpty, Bool.and_eq_true, Bool.or_eq_true, Bool.not_eq_true',
      Bool.and_eq_false_iff, decide_eq_true_eq, decide_eq_false_iff_not, beq_iff_eq,
      Position.ext_iff', Position.lt_def, Position.le_def, if_true, Bool.false_eq_true,
      if_false] at hle ⊢ <;>
    omega

lemma sorted_order {l : List Scope} (hl : l.Pairwise fun a b => a.domain.Precedes b.domain)
    (hf : f.isHierarchical = false) (direction : Direction) :
    (l.mergeSort fun a b => (f.walkOrder direction a.domain b.domain).isLE) = direction.order l := by
  cases direction with
  | forward =>
    simp only [walkOrder, hf]
    refine sorted_eq (.refl l) (hl.imp fun {a b} h => ?_)
    rw [Ordering.then_eq_lt]
    exact .inl (Position.compare_eq_lt.mpr h.stop_lt)
  | backward =>
    simp only [walkOrder, hf]
    refine sorted_eq (List.reverse_perm l).symm (List.pairwise_reverse.mpr (hl.imp fun {a b} h => ?_))
    rw [Ordering.then_eq_lt]
    exact .inl (Position.compare_eq_lt.mpr h.start_lt)

lemma walk_series (h : f.Enumerates cx e all) (hp : e.document.Has p) (direction : Direction)
    {containment : Option Containment} (hc : containment ≠ some .required) :
    f.walk cx e p direction containment = .ok (direction.order (all.filter fun s =>
      (isAhead direction p s && isAllowed containment p s) &&
        s.domain.touches (ahead e.document direction p))) := by
  rw [walk, h.part _ (holds_ahead hp direction)]
  show (if _ then _ else _) = _
  rw [if_neg hc, Scope.touching, List.filter_filter,
    sorted_order (h.series.precedes.sublist List.filter_sublist) h.isHierarchical, h.isHierarchical]
  rfl

theorem walk_eq (h : f.Enumerates cx e all) (hp : e.document.Has p) (direction : Direction)
    (mayTouch : Bool) : f.walk cx e p direction (some (containmentFor mayTouch)) =
      .ok (direction.order (all.filter (Scope.isBeyond direction mayTouch p))) := by
  rw [walk_series h hp direction (by cases mayTouch <;> decide)]
  exact congrArg (fun l => Except.ok (direction.order l)) <|
    List.filter_congr fun s hs => isMet_iff hp (h.touches s hs) direction mayTouch

lemma touches_ahead {s : Scope} {direction : Direction} (hp : e.document.Has p)
    (hs : s.domain.touches e.document.range = true) (h : isAhead direction p s = true) :
    s.domain.touches (ahead e.document direction p) = true := by
  have hle := s.domain.start_le_stop
  obtain ⟨hbefore, hbehind⟩ := Range.touches_iff.mp hs
  rw [Range.touches_iff, ahead.eq_def]
  cases direction with
  | forward =>
    have hstop := Document.le_stop_range hp
    rw [Range.start_between hstop, Range.stop_between hstop]
    simp only [isAhead, Range.isEmpty, Bool.or_eq_true, Bool.and_eq_true, decide_eq_true_eq,
      beq_iff_eq] at h
    refine ⟨hbefore, h.elim Position.le_of_lt fun h => ?_⟩
    rw [← h.1, h.2]
    exact Position.le_refl p
  | backward =>
    have hstart := e.document.start_range_le p
    rw [Range.start_between hstart, Range.stop_between hstart]
    simp only [isAhead, Range.isEmpty, Bool.or_eq_true, Bool.and_eq_true, decide_eq_true_eq,
      beq_iff_eq] at h
    refine ⟨h.elim Position.le_of_lt fun h => ?_, hbehind⟩
    rw [h.2]
    exact Position.le_refl p

theorem walk_none (h : f.Enumerates cx e all) (hp : e.document.Has p) (direction : Direction) :
    f.walk cx e p direction none = .ok (direction.order (all.filter (isAhead direction p))) := by
  rw [walk_series h hp direction (by decide)]
  refine congrArg (fun l => Except.ok (direction.order l)) (List.filter_congr fun s hs => ?_)
  rw [isAllowed, Bool.and_true, Bool.and_eq_left_iff_imp]
  exact touches_ahead hp (h.touches s hs)

lemma mem_walk_required (h : f.Enumerates cx e all) (hp : e.document.Has p) (direction : Direction) :
    ∃ scopes, f.walk cx e p direction (some .required) = .ok scopes ∧
      ∀ s ∈ scopes, s ∈ all ∧ s.domain.contains p = true := by
  rw [walk, h.part _ (holds_ahead hp direction)]
  refine ⟨_, rfl, fun s hs => ?_⟩
  obtain ⟨hs, hmet⟩ := List.mem_filter.mp (List.mem_mergeSort.mp hs)
  exact ⟨(List.mem_filter.mp hs).1, (Bool.and_eq_true_iff.mp hmet).2⟩

end ScopeFinder

end Referent
