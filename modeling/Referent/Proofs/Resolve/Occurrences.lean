import Mathlib.Data.List.Forall2
import Referent.Proofs.Resolve.Made
import Referent.Proofs.Scope.Order

namespace Referent

lemma le_of_mem_startsOf {text l : List Char} {skip index i : Nat}
    (h : i ∈ startsOf text skip index l) :
    index + skip ≤ i ∧ i + text.length ≤ index + l.length := by
  induction l generalizing skip index with
  | nil => exact absurd h List.not_mem_nil
  | cons c rest ih =>
    rw [List.length_cons]
    cases skip with
    | succ skip =>
      have hlater := ih h
      omega
    | zero =>
      by_cases hstarts : text.isPrefixOf (c :: rest) = true
      · rw [startsOf, if_pos hstarts] at h
        rcases List.mem_cons.mp h with rfl | h
        · have hlength := (List.isPrefixOf_iff_prefix.mp hstarts).length_le
          rw [List.length_cons] at hlength
          omega
        · have hlater := ih h
          omega
      · rw [startsOf, if_neg hstarts] at h
        have hlater := ih h
        omega

lemma pairwise_startsOf (text l : List Char) (skip index : Nat) :
    (startsOf text skip index l).Pairwise fun i j => i + text.length ≤ j := by
  induction l generalizing skip index with
  | nil => exact List.Pairwise.nil
  | cons c rest ih =>
    cases skip with
    | succ skip => exact ih skip (index + 1)
    | zero =>
      by_cases hstarts : text.isPrefixOf (c :: rest) = true
      · rw [startsOf, if_pos hstarts]
        apply List.pairwise_cons.mpr
        refine ⟨fun j hj => ?_, ih (text.length - 1) (index + 1)⟩
        have hlater := (le_of_mem_startsOf hj).1
        omega
      · rw [startsOf, if_neg hstarts]
        exact ih 0 (index + 1)

namespace Target

variable {cx : Context} {t : Target} {a c : Arena}

lemma content_acceptOccurrence {occurrence u : Target} (h : t.acceptOccurrence cx occurrence = some u) :
    u.content = occurrence.content := by
  rw [acceptOccurrence] at h
  split at h
  · rw [Option.some.inj h]
  · split at h
    · obtain ⟨hcontent, h⟩ := Option.ite_none_right_eq_some.mp h
      rw [← Option.some.inj h]
      exact hcontent
    · cases h

def occurrenceAt (t : Target) (start : Nat) : Range :=
  .between (t.document.positionAt start) (t.document.positionAt (start + t.text.length))

lemma ends_occurrenceAt (t : Target) (start : Nat) :
    (t.occurrenceAt start).start = t.document.positionAt start ∧
      (t.occurrenceAt start).stop = t.document.positionAt (start + t.text.length) := by
  have hle := t.document.positionAt_mono (Nat.le_add_right start t.text.length)
  exact ⟨Range.start_between hle, Range.stop_between hle⟩

lemma exists_of_mem_occurrencesIn {r : Range} {u : Target} (h : u ∈ t.occurrencesIn cx r) :
    ∃ start ∈ startsOf t.text 0 (t.document.offsetAt r.start) (t.document.textIn r),
      u.content = t.occurrenceAt start := by
  obtain ⟨start, hstart, h⟩ := List.mem_filterMap.mp h
  exact ⟨start, hstart, content_acceptOccurrence h⟩

lemma successive_occurrencesIn (cx : Context) (t : Target) (r : Range) :
    Range.Successive ((t.occurrencesIn cx r).map content) := by
  apply List.pairwise_map.mpr
  apply List.pairwise_filterMap.mpr
  refine (pairwise_startsOf _ _ 0 _).imp fun {i j} hle u hu v hv => ?_
  rw [content_acceptOccurrence hu, content_acceptOccurrence hv]
  show (t.occurrenceAt i).stop ≤ (t.occurrenceAt j).start
  rw [(t.ends_occurrenceAt i).2, (t.ends_occurrenceAt j).1]
  exact t.document.positionAt_mono hle

lemma containsRange_occurrencesIn {r : Range} (hr : t.document.Holds r) :
    ∀ u ∈ t.occurrencesIn cx r, r.containsRange u.content = true := by
  intro u hu
  obtain ⟨start, hstart, hcontent⟩ := exists_of_mem_occurrencesIn hu
  obtain ⟨hfirst, hlast⟩ := le_of_mem_startsOf hstart
  have hlength : (t.document.textIn r).length ≤
      t.document.offsetAt r.stop - t.document.offsetAt r.start := List.length_take_le _ _
  have hordered := (Document.offsetAt_le_iff hr.1 hr.2).mpr r.start_le_stop
  rw [hcontent, Range.containsRange_iff, (t.ends_occurrenceAt start).1, (t.ends_occurrenceAt start).2,
    ← Document.positionAt_offsetAt hr.1, ← Document.positionAt_offsetAt hr.2]
  constructor
  · exact t.document.positionAt_mono hfirst
  · apply t.document.positionAt_mono
    omega

/-- Whether groups of targets belong to ranges: those of a group come one after the other inside its
range. -/
def FoundIn (d : Document) (ranges : List Range) (groups : List (List Target)) : Prop :=
  List.Forall₂ (fun r group => Range.Successive (group.map content) ∧
    (d.Holds r → ∀ u ∈ group, r.containsRange u.content = true)) ranges groups

lemma FoundIn.within {d : Document} {ranges : List Range} {groups : List (List Target)}
    (h : FoundIn d ranges groups) (hd : ∀ r ∈ ranges, d.Holds r) :
    ∀ u ∈ groups.flatten, ∃ r ∈ ranges, r.containsRange u.content = true := by
  induction h with
  | nil => exact fun u hu => absurd hu List.not_mem_nil
  | @cons r group ranges groups hfirst _ ih =>
    intro u hu
    rcases List.mem_append.mp hu with hu | hu
    · exact ⟨r, List.mem_cons_self, hfirst.2 (hd r List.mem_cons_self) u hu⟩
    · obtain ⟨s, hs, hcontains⟩ := ih (fun s hs => hd s (List.mem_cons_of_mem r hs)) u hu
      exact ⟨s, List.mem_cons_of_mem r hs, hcontains⟩

lemma FoundIn.successive {d : Document} {ranges : List Range} {groups : List (List Target)}
    (h : FoundIn d ranges groups) (hd : ∀ r ∈ ranges, d.Holds r) (hranges : Range.Successive ranges) :
    Range.Successive (groups.flatten.map content) := by
  induction h with
  | nil => exact List.Pairwise.nil
  | @cons r group ranges groups hfirst hrest ih =>
    obtain ⟨hbehind, hranges⟩ := List.pairwise_cons.mp hranges
    have hrestd : ∀ s ∈ ranges, d.Holds s := fun s hs => hd s (List.mem_cons_of_mem r hs)
    rw [List.flatten_cons, List.map_append]
    apply List.pairwise_append.mpr
    refine ⟨hfirst.1, ih hrestd hranges, fun p hp q hq => ?_⟩
    obtain ⟨u, hu, rfl⟩ := List.mem_map.mp hp
    obtain ⟨v, hv, rfl⟩ := List.mem_map.mp hq
    have hinside := hfirst.2 (hd r List.mem_cons_self) u hu
    obtain ⟨s, hs, hcontains⟩ := FoundIn.within hrest hrestd v hv
    have hstop := ((Range.containsRange_iff _ _).mp hinside).2
    have hstart := ((Range.containsRange_iff _ _).mp hcontains).1
    exact Position.le_trans hstop (Position.le_trans (hbehind s hs) hstart)

lemma foundIn_occurrences (cx : Context) (t : Target) (ranges : List Range) :
    FoundIn t.document ranges (ranges.map (t.occurrencesToward cx .forward)) := by
  apply List.forall₂_map_right_iff.mpr
  apply List.forall₂_same.mpr
  intro r _
  exact ⟨successive_occurrencesIn cx t r, containsRange_occurrencesIn⟩

lemma everyOccurrence_eq {targets : List Target} (h : t.occurrences cx .every = .ok targets) :
    targets = ((t.searchRanges cx).map (t.occurrencesToward cx .forward)).flatten := by
  rw [occurrences] at h
  split at h
  · cases h
  · exact (Except.ok.inj h).symm

end Target

end Referent
