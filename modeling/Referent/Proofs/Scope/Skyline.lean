import Referent.Proofs.Scope.Kinds
import Referent.Proofs.Scope.Sweeps

namespace Referent

namespace Direction

variable {direction : Direction} {p q b : Position}

def Le (direction : Direction) (p q : Position) : Prop :=
  match direction with
  | .forward => p ≤ q
  | .backward => q ≤ p

lemma Le.refl (direction : Direction) (p : Position) : direction.Le p p := by
  cases direction with
  | forward => exact Position.le_refl p
  | backward => exact Position.le_refl p

lemma Le.trans (h : direction.Le p q) (h' : direction.Le q b) : direction.Le p b := by
  cases direction with
  | forward => exact Position.le_trans h h'
  | backward => exact Position.le_trans h' h

lemma Le.antisymm (h : direction.Le p q) (h' : direction.Le q p) : p = q := by
  cases direction with
  | forward => exact Position.le_antisymm h h'
  | backward => exact Position.le_antisymm h' h

end Direction

namespace Range

variable {direction : Direction} {p : Position} {r s : Range}

def near (r : Range) (direction : Direction) : Position :=
  match direction with
  | .forward => r.start
  | .backward => r.stop

lemma near_le_edge (r : Range) (direction : Direction) :
    direction.Le (r.near direction) (r.edge direction) := by
  cases direction with
  | forward => exact r.start_le_stop
  | backward => exact r.start_le_stop

lemma edge_point (p : Position) (direction : Direction) : (point p).edge direction = p := by
  cases direction with
  | forward => rfl
  | backward => rfl

lemma Precedes.edge_ne (h : r.Precedes s) (direction : Direction) : r.edge direction ≠ s.edge direction := by
  intro heq
  cases direction with
  | forward =>
    have heq : r.stop = s.stop := heq
    exact Position.not_le.mpr h.stop_lt (heq ▸ Position.le_refl _)
  | backward =>
    have heq : r.start = s.start := heq
    exact Position.not_le.mpr h.start_lt (heq ▸ Position.le_refl _)

lemma eq_point (hnear : r.near direction = p) (hedge : r.edge direction = p) : r = .point p := by
  cases direction with
  | forward => exact ext_iff'.mpr ⟨hnear, hedge⟩
  | backward => exact ext_iff'.mpr ⟨hedge, hnear⟩

lemma containsRange_iff_le (direction : Direction) : r.containsRange s = true ↔
    direction.Le (r.near direction) (s.near direction) ∧
      direction.Le (s.edge direction) (r.edge direction) := by
  rw [containsRange_iff]
  cases direction with
  | forward => exact Iff.rfl
  | backward => exact and_comm

lemma noFurther_iff : r.NoFurther direction s ↔
    direction.Le (r.near direction) (s.near direction) ∧
      direction.Le (r.edge direction) (s.edge direction) := by
  cases direction with
  | forward => exact Iff.rfl
  | backward => exact and_comm

lemma strictlyContains_iff (direction : Direction) : r.strictlyContains p = true ↔
    ¬direction.Le p (r.near direction) ∧ ¬direction.Le (r.edge direction) p := by
  rw [strictlyContains, Bool.and_eq_true, decide_eq_true_iff, decide_eq_true_iff]
  cases direction with
  | forward => exact and_congr Position.not_le.symm Position.not_le.symm
  | backward => exact and_comm.trans (and_congr Position.not_le.symm Position.not_le.symm)

end Range

namespace ScopeFinder

variable {direction : Direction} {p : Position} {s : Scope}

lemma isAhead_iff_le : isAhead direction p s = true ↔
    ¬direction.Le (s.domain.edge direction) p ∨ s.domain = .point p := by
  rw [isAhead_iff]
  cases direction with
  | forward => exact or_congr_left Position.not_le.symm
  | backward => exact or_congr_left Position.not_le.symm

lemma isAhead_of_le (h : direction.Le p (s.domain.near direction)) : isAhead direction p s = true := by
  rw [isAhead_iff_le]
  refine Classical.or_iff_not_imp_left.mpr fun hnot => ?_
  have hedge := Classical.not_not.mp hnot
  have hle := s.domain.near_le_edge direction
  exact Range.eq_point ((hle.trans hedge).antisymm h) (hedge.antisymm (h.trans hle))

end ScopeFinder

namespace ScopeFinder

variable {cx : Context} {e : Editor} {f : ScopeFinder} {r : Range} {direction : Direction} {p : Position}
  {all l : List Scope}

lemma Itemless.holds_domain (hf : f.Itemless) (ht : ∀ t, cx.tree? e.document = some t → t.Fits e.document)
    (hl : f.candidates cx e r = .ok l) {s : Scope} (hs : s ∈ l) : e.document.Holds s.domain := by
  induction hf generalizing l with
  | tokens b =>
    obtain rfl := Except.ok.inj hl
    exact ((Scope.series_tokens b r).fits s hs).holds
  | characters =>
    obtain rfl := Except.ok.inj hl
    exact ((Scope.series_characters r).fits s hs).holds
  | words =>
    obtain rfl := Except.ok.inj hl
    exact ((Scope.series_words r).fits s hs).holds
  | lines =>
    obtain rfl := Except.ok.inj hl
    exact ((Scope.series_lines r).fits s hs).holds
  | paragraphs =>
    obtain rfl := Except.ok.inj hl
    exact ((Scope.series_paragraphs r).fits s hs).holds
  | wholeDocument =>
    obtain rfl := Except.ok.inj hl
    exact (Scope.series_wholeDocument.fits s hs).holds
  | regex scopeType expression =>
    obtain rfl := Except.ok.inj hl
    exact ((Scope.series_regexMatches scopeType expression r).fits s hs).holds
  | pairs scopeType search =>
    obtain rfl := Except.ok.inj hl
    have hmade : s.target.Made True e := Scope.made_pairs search r s hs
    obtain ⟨q, _, rfl⟩ := List.mem_map.mp (List.mem_filter.mp hs).1
    exact Scope.holds_of_made hmade
  | nodes kind language matcher =>
    obtain ⟨t, htree, rfl⟩ := map_eq_ok.mp hl
    have hfits : t.Fits e.document := by
      rw [treeOf] at htree
      split at htree
      · exact Except.ok.inj htree ▸ ht _ ‹_›
      · cases htree
    obtain ⟨m, _, rfl⟩ := List.mem_map.mp (List.mem_filter.mp hs).1
    exact hfits.range m.node
  | oneOf scopeTypes _ ih =>
    rw [candidates] at hl
    obtain ⟨found, hfound, rfl⟩ := map_eq_ok.mp hl
    have hs := List.mem_mergeSort.mp (mem_of_mem_eraseRepsBy hs)
    obtain ⟨g, hg, l', hl', hs'⟩ := exists_of_mem_candidatesOfAny hfound hs
    exact ih g hg hl' hs'

/-- Whether scopes are the outermost ones of those ahead of a position, the nearest one first. -/
structure IsSkyline (direction : Direction) (p : Position) (all met : List Scope) : Prop where
  mem : ∀ s ∈ met, s ∈ all ∧ isAhead direction p s = true
  apart : met.Pairwise fun a b => a.domain.NoFurther direction b.domain ∧
    ¬a.domain.containsRange b.domain = true
  covered : ∀ s ∈ all, isAhead direction p s = true → ∃ o ∈ met, o.domain.containsRange s.domain = true

lemma apart_of_metBefore {a b : Scope} (h : Scope.MetBefore direction a b) :
    a.domain.NoFurther direction b.domain ∧ ¬a.domain.containsRange b.domain = true := by
  rw [Range.containsRange_iff]
  cases direction with
  | forward =>
    refine ⟨⟨Position.le_of_lt h.start_lt, Position.le_of_lt h.stop_lt⟩, fun hab => ?_⟩
    exact Position.not_le.mpr h.stop_lt hab.2
  | backward =>
    refine ⟨⟨Position.le_of_lt h.start_lt, Position.le_of_lt h.stop_lt⟩, fun hab => ?_⟩
    exact Position.not_le.mpr h.start_lt hab.1

lemma Enumerates.isSkyline (h : f.Enumerates cx e all) (direction : Direction) (p : Position) :
    IsSkyline direction p all (direction.order (all.filter (isAhead direction p))) where
  mem _ hs := List.mem_filter.mp (Direction.mem_order.mp hs)
  apart := ((h.series.sublist List.filter_sublist).pairwise_order direction).imp apart_of_metBefore
  covered s hs hahead := ⟨s, Direction.mem_order.mpr (List.mem_filter.mpr ⟨hs, hahead⟩),
    s.domain.containsRange_refl⟩

lemma isSkyline_dropInner (hf : f.isHierarchical = true) (hp : e.document.Has p)
    (hall : ∀ s ∈ all, s.domain.touches e.document.range = true) :
    IsSkyline direction p all (dropInner [] (f.met direction none p
      (Scope.touching (ahead e.document direction p) all))) := by
  let found := Scope.touching (ahead e.document direction p) all
  have hsweep : f.IsSweep direction none p found (dropInner [] (f.met direction none p found)) :=
    isSweep_dropInner hf found
  have hmet {s : Scope} : s.IsMet direction none p ↔ isAhead direction p s = true := by
    rw [← isMet_eq_true, isAllowed, Bool.and_true]
  refine ⟨fun s hs => ?_, ?_, fun s hs hahead => ?_⟩
  · obtain ⟨hfound, hs⟩ := hsweep.sound s hs
    exact ⟨(List.mem_filter.mp hfound).1, hmet.mp hs⟩
  · refine (hsweep.inOrder.and (hsweep.outermost hf)).imp fun h => ⟨h.1.resolve_right ?_, h.2.1⟩
    rintro ⟨rfl, _⟩
    cases hf
  · have htouches := touches_ahead hp (hall s hs) hahead
    exact hsweep.covered hf s (List.mem_filter.mpr ⟨hs, htouches⟩) (hmet.mpr hahead)

theorem Itemless.isSkyline_walk (hf : f.Itemless) (hall : f.candidates cx e e.document.range = .ok all)
    (hp : e.document.Has p) (direction : Direction) :
    ∃ met, f.walk cx e p direction none = .ok met ∧ IsSkyline direction p all met := by
  have htouching {r : Range} (hr : e.document.Holds r) :
      f.candidates cx e r = .ok (Scope.touching r all) := by
    rw [touching_candidates hf hr, hall]
    rfl
  cases hhier : f.isHierarchical with
  | true =>
    have hwhole := (hall.symm.trans (htouching e.document.holds_range))
    have hall : ∀ s ∈ all, s.domain.touches e.document.range = true :=
      List.filter_eq_self.mp (Except.ok.inj hwhole).symm
    refine ⟨_, ?_, isSkyline_dropInner hhier hp hall⟩
    rw [walk_eq_map (by decide), htouching (holds_ahead hp direction), hhier]
    rfl
  | false =>
    have hflat : f.IsFlat := isFlat_of_isHierarchical_eq_false hhier (by rintro rfl; cases hf)
    obtain ⟨all', h⟩ := hflat.exists_enumerates cx e
    obtain rfl := Except.ok.inj (hall.symm.trans h.whole)
    exact ⟨_, walk_none h hp direction, h.isSkyline direction p⟩

end ScopeFinder

end Referent
