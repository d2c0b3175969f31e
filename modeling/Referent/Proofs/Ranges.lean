import Mathlib.Tactic.Common
import Referent.Range

namespace Referent

namespace Position

variable {p q b : Position}

lemma zero_le (p : Position) : zero ≤ p := by
  rw [le_def]
  simp only [zero]
  omega

lemma not_lt : ¬p < q ↔ q ≤ p := by rw [← not_le, Classical.not_not]

lemma lt_of_lt_of_le (h : p < q) (h' : q ≤ b) : p < b :=
  not_le.mp fun hle => not_le.mpr h (le_trans h' hle)

lemma lt_of_le_of_lt (h : p ≤ q) (h' : q < b) : p < b :=
  not_le.mp fun hle => not_le.mpr h' (le_trans hle h)

lemma min_eq_left (h : p ≤ q) : min p q = p := if_pos h

lemma max_eq_right (h : p ≤ q) : max p q = q := if_pos h

lemma max_le_iff : max p q ≤ b ↔ p ≤ b ∧ q ≤ b := by
  refine ⟨fun h => ⟨le_trans (le_max_left p q) h, le_trans (le_max_right p q) h⟩, fun h => ?_⟩
  show (if p ≤ q then q else p) ≤ b
  split
  · exact h.2
  · exact h.1

lemma le_min_iff : b ≤ min p q ↔ b ≤ p ∧ b ≤ q := by
  refine ⟨fun h => ⟨le_trans h (min_le_left p q), le_trans h (min_le_right p q)⟩, fun h => ?_⟩
  show b ≤ (if p ≤ q then p else q)
  split
  · exact h.1
  · exact h.2

lemma max_lt_iff : max p q < b ↔ p < b ∧ q < b := by
  show (if p ≤ q then q else p) < b ↔ _
  split
  · exact ⟨fun h => ⟨lt_of_le_of_lt ‹_› h, h⟩, And.right⟩
  · next h => exact ⟨fun hp => ⟨hp, lt_of_le_of_lt (le_of_not_le h) hp⟩, And.left⟩

lemma lt_min_iff : b < min p q ↔ b < p ∧ b < q := by
  show b < (if p ≤ q then p else q) ↔ _
  split
  · exact ⟨fun h => ⟨h, lt_of_lt_of_le h ‹_›⟩, And.left⟩
  · next h => exact ⟨fun hq => ⟨lt_of_lt_of_le hq (le_of_not_le h), hq⟩, And.right⟩

lemma line_le_of_le (h : p ≤ q) : p.line ≤ q.line := by
  rw [le_def] at h
  omega

end Position

namespace Range

variable {q r s : Range} {p : Position}

lemma start_line_le (r : Range) : r.start.line ≤ r.stop.line :=
  Position.line_le_of_le r.start_le_stop

lemma between_of_le {a b : Position} (h : a ≤ b) : between a b = ⟨a, b, h⟩ := by
  simp only [between, h, dite_true]

lemma between_cases (a b : Position) :
    ((between a b).start = a ∧ (between a b).stop = b) ∨
      ((between a b).start = b ∧ (between a b).stop = a) := by
  unfold between
  split
  · exact Or.inl ⟨rfl, rfl⟩
  · exact Or.inr ⟨rfl, rfl⟩

lemma start_between {a b : Position} (h : a ≤ b) : (between a b).start = a := by
  rw [between_of_le h]

lemma stop_between {a b : Position} (h : a ≤ b) : (between a b).stop = b := by
  rw [between_of_le h]

lemma start_onLine {line a b : Nat} (h : a ≤ b) : (onLine line a b).start = ⟨line, a⟩ :=
  start_between (.inr ⟨rfl, h⟩)

lemma stop_onLine {line a b : Nat} (h : a ≤ b) : (onLine line a b).stop = ⟨line, b⟩ :=
  stop_between (.inr ⟨rfl, h⟩)

lemma isEmpty_iff : r.isEmpty = true ↔ r.start = r.stop := beq_iff_eq

lemma contains_iff : r.contains p = true ↔ r.start ≤ p ∧ p ≤ r.stop := by simp [contains]

lemma start_lt_stop (h : ¬r.isEmpty = true) : r.start < r.stop := by
  refine Position.not_le.mp fun hle => h ?_
  exact isEmpty_iff.mpr (Position.le_antisymm r.start_le_stop hle)

lemma containsRange_iff (r s : Range) :
    r.containsRange s = true ↔ r.start ≤ s.start ∧ s.stop ≤ r.stop := by
  simp [containsRange]

lemma containsRange_refl (r : Range) : r.containsRange r = true :=
  (containsRange_iff r r).mpr ⟨Position.le_refl _, Position.le_refl _⟩

lemma containsRange_trans (h : q.containsRange r = true) (h' : r.containsRange s = true) :
    q.containsRange s = true := by
  rw [containsRange_iff] at *
  exact ⟨Position.le_trans h.1 h'.1, Position.le_trans h'.2 h.2⟩

lemma containsRange_antisymm (h : r.containsRange s = true) (h' : s.containsRange r = true) : r = s := by
  rw [containsRange_iff] at h h'
  exact ext_iff'.mpr ⟨Position.le_antisymm h.1 h'.1, Position.le_antisymm h'.2 h.2⟩

lemma strictlyContainsRange_iff :
    r.strictlyContainsRange s = true ↔ r.containsRange s = true ∧ r ≠ s := by
  simp [strictlyContainsRange]

lemma not_strictlyContainsRange_of_containsRange (h : s.containsRange r = true) :
    ¬r.strictlyContainsRange s = true := by
  rw [strictlyContainsRange_iff, not_and, not_not]
  exact fun h' => containsRange_antisymm h' h

lemma eq_of_not_strictlyContainsRange (h : r.containsRange s = true)
    (h' : ¬r.strictlyContainsRange s = true) : r = s :=
  not_not.mp fun hne => h' (strictlyContainsRange_iff.mpr ⟨h, hne⟩)

lemma strictlyContainsRange_of_containsRange (h : q.containsRange r = true)
    (h' : r.strictlyContainsRange s = true) : q.strictlyContainsRange s = true := by
  obtain ⟨hcontains, hne⟩ := strictlyContainsRange_iff.mp h'
  refine strictlyContainsRange_iff.mpr ⟨containsRange_trans h hcontains, ?_⟩
  rintro rfl
  exact hne (containsRange_antisymm hcontains h)

lemma contains_of_containsRange (h : s.containsRange r = true) :
    s.contains r.start = true ∧ s.contains r.stop = true := by
  obtain ⟨hstart, hstop⟩ := (containsRange_iff s r).mp h
  rw [contains_iff, contains_iff]
  exact ⟨⟨hstart, Position.le_trans r.start_le_stop hstop⟩,
    Position.le_trans hstart r.start_le_stop, hstop⟩

lemma containsRange_of_isEmpty (h : r.isEmpty = true) (s : Range) :
    s.containsRange r = s.contains r.start := by
  rw [Bool.eq_iff_iff, containsRange_iff, contains_iff, ← isEmpty_iff.mp h]

lemma ordered_of_stop_le (h : r.stop ≤ s.start) : r.start ≤ s.start ∧ r.stop ≤ s.stop :=
  ⟨Position.le_trans r.start_le_stop h, Position.le_trans h s.start_le_stop⟩

def Uncrossed (r s : Range) : Prop :=
  r.containsRange s = true ∨ s.containsRange r = true ∨ r.stop ≤ s.start ∨ s.stop ≤ r.start

lemma Uncrossed.symm (h : r.Uncrossed s) : s.Uncrossed r := by
  rcases h with h | h | h | h
  · exact .inr (.inl h)
  · exact .inl h
  · exact .inr (.inr (.inr h))
  · exact .inr (.inr (.inl h))

instance : Std.Symm Uncrossed := ⟨fun _ _ => Uncrossed.symm⟩

lemma uncrossed_refl (r : Range) : r.Uncrossed r := .inl (containsRange_refl r)

lemma containsRange_union_left (r s : Range) : (r.union s).containsRange r = true :=
  (containsRange_iff _ _).mpr ⟨Position.min_le_left _ _, Position.le_max_left _ _⟩

lemma containsRange_union_right (r s : Range) : (r.union s).containsRange s = true :=
  (containsRange_iff _ _).mpr ⟨Position.min_le_right _ _, Position.le_max_right _ _⟩

lemma union_comm (r s : Range) : r.union s = s.union r := by
  have hle {r s : Range} : (r.union s).containsRange (s.union r) = true := by
    rw [containsRange_iff]
    exact ⟨Position.le_min_iff.mpr ⟨Position.min_le_right _ _, Position.min_le_left _ _⟩,
      Position.max_le_iff.mpr ⟨Position.le_max_right _ _, Position.le_max_left _ _⟩⟩
  obtain ⟨hstart, hstop⟩ := (containsRange_iff (r.union s) (s.union r)).mp hle
  obtain ⟨hstart', hstop'⟩ := (containsRange_iff (s.union r) (r.union s)).mp hle
  exact ext_iff'.mpr ⟨Position.le_antisymm hstart hstart', Position.le_antisymm hstop' hstop⟩

lemma start_union_point {p : Position} (h : r.stop ≤ p) : (r.union (point p)).start = r.start :=
  Position.min_eq_left (Position.le_trans r.start_le_stop h)

lemma stop_union_point {p : Position} (h : r.stop ≤ p) : (r.union (point p)).stop = p := Position.max_eq_right h

lemma start_point_union {p : Position} (h : p ≤ r.start) : (r.union (point p)).start = p := by
  rw [union_comm]
  exact Position.min_eq_left h

lemma stop_point_union {p : Position} (h : p ≤ r.start) : (r.union (point p)).stop = r.stop := by
  rw [union_comm]
  exact Position.max_eq_right (Position.le_trans h r.start_le_stop)

lemma touches_iff : r.touches s = true ↔ r.start ≤ s.stop ∧ s.start ≤ r.stop := by
  have htouches : r.touches s = true ↔ max r.start s.start ≤ min r.stop s.stop := by
    rw [touches, intersection]
    split
    · exact iff_of_true rfl ‹_›
    · exact iff_of_false Bool.false_ne_true ‹_›
  rw [htouches, Position.max_le_iff, Position.le_min_iff, Position.le_min_iff]
  exact ⟨fun h => ⟨h.1.2, h.2.1⟩, fun h => ⟨⟨r.start_le_stop, h.1⟩, h.2, s.start_le_stop⟩⟩

lemma touches_point (r : Range) (p : Position) : r.touches (point p) = r.contains p := by
  rw [Bool.eq_iff_iff, touches_iff, contains_iff]
  rfl

lemma overlaps_iff : r.overlaps s = true ↔
    (r.start < r.stop ∧ r.start < s.stop) ∧ s.start < r.stop ∧ s.start < s.stop := by
  have hshared : r.overlaps s = true ↔ max r.start s.start < min r.stop s.stop := by
    rw [overlaps, intersection]
    split
    · next h =>
      show (!(⟨_, _, h⟩ : Range).isEmpty) = true ↔ _
      rw [Bool.not_eq_true']
      constructor
      · exact fun hempty => start_lt_stop (Bool.eq_false_iff.mp hempty)
      · refine fun hlt => Bool.eq_false_iff.mpr fun hempty => Position.not_le.mpr hlt ?_
        have heq : max r.start s.start = min r.stop s.stop := isEmpty_iff.mp hempty
        rw [heq]
        exact Position.le_refl _
    · next h => exact iff_of_false Bool.false_ne_true fun hlt => h (Position.le_of_lt hlt)
  rw [hshared, Position.max_lt_iff, Position.lt_min_iff, Position.lt_min_iff]

lemma not_overlaps_of_apart (h : r.stop ≤ s.start ∨ s.stop ≤ r.start) : r.overlaps s = false := by
  refine Bool.eq_false_iff.mpr fun hoverlaps => ?_
  obtain ⟨⟨_, hbefore⟩, hbehind, _⟩ := overlaps_iff.mp hoverlaps
  rcases h with hle | hle
  · exact Position.not_le.mpr hbehind hle
  · exact Position.not_le.mpr hbefore hle

end Range

end Referent
