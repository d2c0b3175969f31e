import Mathlib.Data.List.Flatten
import Mathlib.Tactic.Common
import Referent.Item.Lexer

/-! Pieces are read from left to right, and a comma outside of all pairs ends a segment. A pair that opens
in a segment also closes in it, unless it is the last one. So segments can be left out without changing
how the others are read. -/

namespace Referent.ItemToken

def isMark : List Char → Bool
  | [c] => isDelimiter c
  | _ => false

lemma exists_of_isMark {piece : List Char} (h : isMark piece = true) :
    ∃ c, piece = [c] ∧ isDelimiter c = true := by
  match piece with
  | [c] => exact ⟨c, rfl, h⟩

lemma marks_of_closing? {piece close : List Char} (h : closing? piece = some close) :
    (isMark piece = true ∧ piece ≠ [',']) ∧ isMark close = true ∧ close ≠ [','] := by
  simp only [closing?] at h
  split at h
  all_goals cases h
  all_goals decide

namespace Nesting

variable {n m : Nesting} {piece : List Char} {rest pieces after : List (List Char)}

def outside : Nesting := ⟨0, [], []⟩

def Proper (n : Nesting) : Prop := n.depth = 0 ∨ closing? n.opening = some n.closing

lemma proper_outside : outside.Proper := .inl rfl

lemma Proper.step (h : n.Proper) (piece : List Char) (rest : List (List Char)) :
    (n.step piece rest).Proper := by
  rw [Nesting.step]
  split
  · have hclosing := h.resolve_left (by omega)
    split
    · exact .inr hclosing
    · split
      · exact .inr hclosing
      · exact .inr hclosing
  · split
    · split
      · exact .inr ‹_›
      · exact h
    · exact h

lemma step_of_not_mark (h : n.Proper) (hmark : isMark piece = false) : n.step piece rest = n := by
  have hne {mark : List Char} (hm : isMark mark = true) : piece ≠ mark := by
    rintro rfl
    rw [hmark] at hm
    cases hm
  rw [Nesting.step]
  split
  · obtain ⟨⟨hopening, _⟩, hclosing, _⟩ := marks_of_closing? (h.resolve_left (by omega))
    rw [if_neg (hne hclosing), if_neg (hne hopening)]
  · split
    · next close hclose => exact absurd rfl (hne (marks_of_closing? hclose).1.1)
    · rfl

lemma step_comma (h : n.Proper) : n.step [','] rest = n := by
  rw [Nesting.step]
  split
  · obtain ⟨⟨_, hopening⟩, _, hclosing⟩ := marks_of_closing? (h.resolve_left (by omega))
    rw [if_neg hclosing.symm, if_neg hopening.symm]
  · rfl

lemma step_congr {rest' : List (List Char)}
    (h : ∀ mark, isMark mark = true → (mark ∈ rest ↔ mark ∈ rest')) :
    n.step piece rest = n.step piece rest' := by
  rw [Nesting.step, Nesting.step]
  split
  · rfl
  · split
    · next close hclose => simp only [List.contains_iff_mem, h close (marks_of_closing? hclose).2.1]
    · rfl

def Alike (n m : Nesting) : Prop := n = m ∨ n.depth = 0 ∧ m.depth = 0

lemma Alike.depth_eq (h : n.Alike m) : n.depth = m.depth := by
  rcases h with rfl | ⟨hn, hm⟩
  · rfl
  · rw [hn, hm]

lemma Alike.step (h : n.Alike m) (piece : List Char) (rest : List (List Char)) :
    (n.step piece rest).Alike (m.step piece rest) := by
  rcases h with rfl | ⟨hn, hm⟩
  · exact .inl rfl
  · rw [Nesting.step, Nesting.step, if_neg (by omega), if_neg (by omega)]
    split
    · split
      · exact .inl rfl
      · exact .inr ⟨hn, hm⟩
    · exact .inr ⟨hn, hm⟩

def read (n : Nesting) : List (List Char) → (after : List (List Char)) → Nesting
  | [], _ => n
  | piece :: rest, after => (n.step piece (rest ++ after)).read rest after

def Covers (n : Nesting) : List (List Char) → (after : List (List Char)) → Prop
  | [], _ => True
  | piece :: rest, after =>
    (piece = [','] → 0 < n.depth) ∧ (n.step piece (rest ++ after)).Covers rest after

lemma Proper.read (h : n.Proper) (pieces after : List (List Char)) : (n.read pieces after).Proper := by
  induction pieces generalizing n with
  | nil => exact h
  | cons piece rest ih => exact ih (h.step _ _)

lemma Alike.read (h : n.Alike m) (pieces after : List (List Char)) :
    (n.read pieces after).Alike (m.read pieces after) := by
  induction pieces generalizing n m with
  | nil => exact h
  | cons piece rest ih => exact ih (h.step _ _)

lemma Alike.covers (h : n.Alike m) (hcovers : n.Covers pieces after) : m.Covers pieces after := by
  induction pieces generalizing n m with
  | nil => trivial
  | cons piece rest ih => exact ⟨h.depth_eq ▸ hcovers.1, ih (h.step _ _) hcovers.2⟩

lemma depth_read_pos (hopen : 0 < n.depth) (hclosing : n.closing ∉ pieces) :
    0 < (n.read pieces after).depth := by
  induction pieces generalizing n with
  | nil => exact hopen
  | cons piece rest ih =>
    obtain ⟨hne, hrest⟩ := not_or.mp (mt List.mem_cons.mpr hclosing)
    rw [read, step, if_pos hopen, if_neg (Ne.symm hne)]
    split
    · exact ih (Nat.succ_pos _) hrest
    · exact ih hopen hrest

lemma step_of_closed {after' : List (List Char)} (hsub : after' ⊆ after)
    (hclosed : ((n.step piece (pieces ++ after)).read pieces after).depth = 0) :
    n.step piece (pieces ++ after') = n.step piece (pieces ++ after) := by
  rw [step] at hclosed
  rw [step, step]
  split
  · rfl
  · next hdepth =>
    rw [if_neg hdepth] at hclosed
    split
    · next close hclose =>
      rw [hclose] at hclosed
      simp only [List.contains_iff_mem, List.mem_append] at hclosed ⊢
      -- A pair that opens here is closed in these pieces, so the others are not needed for it.
      by_cases hin : close ∈ pieces
      · rw [if_pos (.inl hin), if_pos (.inl hin)]
      · by_cases hbehind : close ∈ after
        · rw [if_pos (.inr hbehind)] at hclosed
          have hpos : 0 < (read ⟨1, piece, close⟩ pieces after).depth :=
            depth_read_pos Nat.one_pos hin
          omega
        · have hbehind' : close ∉ after' := fun h => hbehind (hsub h)
          rw [if_neg (not_or.mpr ⟨hin, hbehind'⟩), if_neg (not_or.mpr ⟨hin, hbehind⟩)]
    · rfl

lemma covers_of_closed {after' : List (List Char)} (hsub : after' ⊆ after)
    (hclosed : (n.read pieces after).depth = 0) :
    (n.Covers pieces after → n.Covers pieces after') ∧
      n.read pieces after' = n.read pieces after := by
  induction pieces generalizing n with
  | nil => exact ⟨id, rfl⟩
  | cons piece rest ih =>
    have hstep := step_of_closed hsub hclosed
    obtain ⟨hcovers, hread⟩ := ih hclosed
    rw [Covers, Covers, read, read, hstep]
    exact ⟨.imp_right hcovers, hread⟩

end Nesting

def marks (pieces : List (List Char)) : List (List Char) := pieces.filter isMark

lemma mem_append_marks (pieces after : List (List Char)) (mark : List Char)
    (h : isMark mark = true) : mark ∈ marks pieces ++ marks after ↔ mark ∈ pieces ++ after := by
  simp [marks, h]

open Nesting in
lemma read_marks {n : Nesting} (h : n.Proper) (pieces after : List (List Char)) :
    (n.Covers (marks pieces) (marks after) ↔ n.Covers pieces after) ∧
      n.read (marks pieces) (marks after) = n.read pieces after := by
  induction pieces generalizing n with
  | nil => exact ⟨Iff.rfl, rfl⟩
  | cons piece rest ih =>
    by_cases hmark : isMark piece = true
    · obtain ⟨hcovers, hread⟩ := ih (h.step piece (rest ++ after))
      have hkeep : marks (piece :: rest) = piece :: marks rest := List.filter_cons_of_pos hmark
      have hstep : n.step piece (marks rest ++ marks after) = n.step piece (rest ++ after) :=
        step_congr (mem_append_marks rest after)
      rw [hkeep, Covers, Covers, Nesting.read, Nesting.read, hstep]
      exact ⟨and_congr_right' hcovers, hread⟩
    · obtain ⟨hcovers, hread⟩ := ih h
      have hdrop : marks (piece :: rest) = marks rest := List.filter_cons_of_neg hmark
      have hcomma : piece ≠ [','] := by
        rintro rfl
        exact hmark rfl
      rw [hdrop, Covers, Nesting.read, step_of_not_mark h (Bool.eq_false_iff.mpr hmark)]
      exact ⟨hcovers.trans ⟨fun h => ⟨(absurd · hcomma), h⟩, And.right⟩, hread⟩

def behind (segments : List (List (List Char))) : List (List Char) := segments.flatMap ([','] :: ·)

/-- Whether the pieces of some segments are read as these: commas in a segment are inside of pairs, and
those between them are not. -/
def Settled : List (List (List Char)) → Prop
  | [] => True
  | pieces :: rest =>
    Nesting.outside.Covers pieces (behind rest) ∧
      (rest ≠ [] → (Nesting.outside.read pieces (behind rest)).depth = 0) ∧ Settled rest

lemma behind_map_marks (segments : List (List (List Char))) :
    behind (segments.map marks) = marks (behind segments) := by
  rw [behind, behind, marks, List.filter_flatMap, List.flatMap_map]
  rfl

lemma settled_map_marks (segments : List (List (List Char))) :
    Settled (segments.map marks) ↔ Settled segments := by
  induction segments with
  | nil => exact Iff.rfl
  | cons pieces rest ih =>
    obtain ⟨hcovers, hread⟩ := read_marks Nesting.proper_outside pieces (behind rest)
    rw [← behind_map_marks] at hcovers hread
    constructor
    · rintro ⟨hc, hclosed, h⟩
      refine ⟨hcovers.mp hc, fun hne => ?_, ih.mp h⟩
      rw [← hread]
      exact hclosed (mt List.map_eq_nil_iff.mp hne)
    · rintro ⟨hc, hclosed, h⟩
      refine ⟨hcovers.mpr hc, fun hne => ?_, ih.mpr h⟩
      rw [hread]
      exact hclosed (mt List.map_eq_nil_iff.mpr hne)

lemma Settled.sublist {segments segments' : List (List (List Char))} (h : Settled segments)
    (hsub : segments'.Sublist segments) : Settled segments' := by
  induction hsub with
  | slnil => exact h
  | cons pieces hsub ih => exact ih h.2.2
  | @cons_cons rest' rest pieces hsub ih =>
    obtain ⟨hcovers, hclosed, h⟩ := h
    -- Only the last segment may leave a pair open. Behind the others, fewer pieces close as much.
    by_cases hlast : rest = []
    · obtain rfl := hlast
      obtain rfl := List.sublist_nil.mp hsub
      exact ⟨hcovers, hclosed, h⟩
    · have hbehind : behind rest' ⊆ behind rest := (hsub.flatMap _).subset
      obtain ⟨hcovers', hread⟩ := Nesting.covers_of_closed hbehind (hclosed hlast)
      exact ⟨hcovers' hcovers, fun _ => hread ▸ hclosed hlast, ih h⟩

lemma exists_settled {n : Nesting} (hn : n.Proper) (pieces : List (List Char)) :
    ∃ first rest, pieces = first ++ behind rest ∧ n.Covers first (behind rest) ∧
      (rest ≠ [] → (n.read first (behind rest)).depth = 0) ∧ Settled rest := by
  induction pieces generalizing n with
  | nil => exact ⟨[], [], rfl, trivial, (absurd rfl ·), trivial⟩
  | cons piece pieces ih =>
    obtain ⟨first, rest, rfl, hcovers, hclosed, hrest⟩ := ih (hn.step piece pieces)
    by_cases hcut : piece = [','] ∧ n.depth = 0
    · obtain ⟨rfl, hdepth⟩ := hcut
      rw [Nesting.step_comma hn] at hcovers hclosed
      have halike : n.Alike Nesting.outside := .inr ⟨hdepth, rfl⟩
      refine ⟨[], first :: rest, rfl, trivial, fun _ => hdepth, halike.covers hcovers, fun hne => ?_,
        hrest⟩
      rw [← (halike.read first (behind rest)).depth_eq]
      exact hclosed hne
    · refine ⟨piece :: first, rest, rfl, ⟨fun hcomma => ?_, hcovers⟩, hclosed, hrest⟩
      exact Nat.pos_of_ne_zero fun hdepth => hcut ⟨hcomma, hdepth⟩

end Referent.ItemToken
