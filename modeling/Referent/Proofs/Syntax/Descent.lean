import Referent.Proofs.Sorting
import Referent.Proofs.Syntax.Numbering

/-! The way down to the node at a range. It ends at a node of which no child contains the range. If siblings
share nothing, a range that is not empty is in only one of them, so the way passes through all nodes around
it. -/

namespace Referent.SyntaxTree

variable {t : SyntaxTree} {r : Range} {a b c i id last : Nat}

structure Arranged (t : SyntaxTree) : Prop where
  ordered : ∀ id < t.size,
    (t.children id).Pairwise fun a b => (t.range a).stop ≤ (t.range b).start
  nested : ∀ id < t.size, ∀ c ∈ t.children id, (t.range id).containsRange (t.range c) = true

inductive Descends (t : SyntaxTree) (r : Range) : Nat → Nat → Prop where
  | stop {id : Nat} (h : t.childAt r id = none) : Descends t r id id
  | down {id c last : Nat} (h : t.childAt r id = some c) (hlast : Descends t r c last) :
    Descends t r id last

lemma mem_of_childAt (h : t.childAt r id = some c) :
    c ∈ t.children id ∧ (t.range c).containsRange r = true := by
  have hmem : c ∈ (t.children id).reverse.filter fun c => (t.range c).containsRange r := by
    rw [childAt] at h
    split at h
    · next hfound => exact Option.some.inj h ▸ List.mem_of_find?_eq_some hfound
    · exact List.mem_of_mem_head? h
  simpa using hmem

lemma not_containsRange_of_childAt (h : t.childAt r id = none) :
    ∀ c ∈ t.children id, ¬(t.range c).containsRange r = true := by
  rw [childAt] at h
  split at h
  · cases h
  · have hnone := List.filter_eq_nil_iff.mp (List.head?_eq_none_iff.mp h)
    exact fun c hc => hnone c (List.mem_reverse.mpr hc)

lemma descends_nodeAtFrom {fuel : Nat} (hid : id < t.size) (hfuel : t.size ≤ id + fuel) :
    t.Descends r id (t.nodeAtFrom r fuel id) := by
  induction fuel generalizing id with
  | zero => omega
  | succ fuel ih =>
    rw [nodeAtFrom]
    cases h : t.childAt r id with
    | none => exact .stop h
    | some c =>
      -- Children have larger numbers, so no way down is longer than the tree is large.
      obtain ⟨hlt, hc, -⟩ := of_mem_children (mem_of_childAt h).1
      exact .down h (ih hc (by omega))

lemma Descends.unique (h : t.Descends r id a) (h' : t.Descends r id b) : a = b := by
  induction h with
  | stop h =>
    cases h' with
    | stop => rfl
    | down h' => cases h.symm.trans h'
  | down h _ ih =>
    cases h' with
    | stop h' => cases h.symm.trans h'
    | down h' hlast =>
      obtain rfl := Option.some.inj (h.symm.trans h')
      exact ih hlast

lemma descends_root_iff : t.Descends r root last ↔ last = t.nodeAt r := by
  have h : t.Descends r root (t.nodeAt r) := descends_nodeAtFrom t.root_lt_size (by simp [root])
  exact ⟨fun h' => h'.unique h, fun heq => heq ▸ h⟩

lemma Descends.lt_size (h : t.Descends r id last) (hid : id < t.size) : last < t.size := by
  induction h with
  | stop => exact hid
  | down h _ ih => exact ih (of_mem_children (mem_of_childAt h).1).2.1

lemma Descends.eq_or_containsRange (h : t.Descends r id last) :
    last = id ∨ (t.range last).containsRange r = true := by
  induction h with
  | stop => exact .inl rfl
  | down h _ ih =>
    rcases ih with rfl | hcontains
    · exact .inr (mem_of_childAt h).2
    · exact .inr hcontains

lemma Descends.not_containsRange (h : t.Descends r id last) :
    ∀ c ∈ t.children last, ¬(t.range c).containsRange r = true := by
  induction h with
  | stop h => exact not_containsRange_of_childAt h
  | down _ _ ih => exact ih

namespace Arranged

variable (ht : t.Arranged)

include ht

lemma containsRange_child (hc : c ∈ t.children id) : (t.range id).containsRange (t.range c) = true := by
  obtain ⟨hlt, hsize, -⟩ := of_mem_children hc
  exact ht.nested id (Nat.lt_trans hlt hsize) c hc

lemma containsRange_ancestor (hi : i < t.size) :
    ∀ a ∈ t.ancestors i, (t.range a).containsRange (t.range i) = true := by
  refine node_induction (P := fun i => ∀ a ∈ t.ancestors i,
    (t.range a).containsRange (t.range i) = true) (by simp [Range.containsRange_refl])
    (fun p c hc hp => ?_) i hi
  rw [ancestors_child hc]
  refine List.forall_mem_cons.mpr ⟨Range.containsRange_refl _, fun a ha => ?_⟩
  exact Range.containsRange_trans (hp a ha) (ht.containsRange_child hc)

lemma eq_of_siblings (hr : ¬r.isEmpty = true) (ha : a ∈ t.children id) (hb : b ∈ t.children id)
    (har : (t.range a).containsRange r = true) (hbr : (t.range b).containsRange r = true) : a = b := by
  have hid : id < t.size := Nat.lt_trans (of_mem_children ha).1 (of_mem_children ha).2.1
  rw [Range.containsRange_iff] at har hbr
  have hlt := Range.start_lt_stop hr
  rcases eq_or_rel_of_pairwise (ht.ordered id hid) ha hb with heq | hle | hle
  · exact heq
  · exact absurd (Position.le_trans har.2 (Position.le_trans hle hbr.1)) (Position.not_le.mpr hlt)
  · exact absurd (Position.le_trans hbr.2 (Position.le_trans hle har.1)) (Position.not_le.mpr hlt)

lemma mem_ancestors_of_descends (hr : ¬r.isEmpty = true) (hi : i < t.size)
    (hir : (t.range i).containsRange r = true) (h : t.Descends r id last) :
    id ∈ t.ancestors i ∨ i ∈ t.ancestors id → i ∈ t.ancestors last := by
  have hbelow {a : Nat} (ha : a ∈ t.ancestors i) (hne : a ≠ i) : ∃ b ∈ t.children a,
      b ∈ t.ancestors i ∧ (t.range b).containsRange r = true := by
    obtain ⟨b, hb, hmem⟩ := (exists_child_of_mem_ancestors hi a ha).resolve_left hne
    exact ⟨b, hb, hmem, Range.containsRange_trans (ht.containsRange_ancestor hi b hmem) hir⟩
  induction h with
  | @stop id h =>
    rintro (hid | hid)
    · by_cases hne : id = i
      · exact hne ▸ mem_ancestors_self (hne ▸ hi)
      · obtain ⟨b, hb, -, hbr⟩ := hbelow hid hne
        exact absurd hbr (not_containsRange_of_childAt h b hb)
    · exact hid
  | @down id c last h hlast ih =>
    obtain ⟨hc, hcr⟩ := mem_of_childAt h
    have hancestors := ancestors_child hc
    rintro (hid | hid)
    · by_cases hne : id = i
      · refine ih (.inr ?_)
        rw [hancestors, ← hne]
        have hc := of_mem_children hc
        exact List.mem_cons_of_mem c (mem_ancestors_self (Nat.lt_trans hc.1 hc.2.1))
      · obtain ⟨b, hb, hmem, hbr⟩ := hbelow hid hne
        exact ih (.inl (ht.eq_of_siblings hr hb hc hbr hcr ▸ hmem))
    · exact ih (.inr (hancestors ▸ List.mem_cons_of_mem c hid))

end Arranged

/-- The way down from the root ends, and only at the node at the range. This is the root or contains the
range, and none of its children does. In a tree of which the nodes do not overlap, a range that is not empty
is contained in this node and its ancestors only. -/
theorem nodeAt_smallest (t : SyntaxTree) (r : Range) :
    (∀ id, t.Descends r root id ↔ id = t.nodeAt r) ∧ t.nodeAt r < t.size ∧
      (t.nodeAt r = root ∨ (t.range (t.nodeAt r)).containsRange r = true) ∧
      (∀ c ∈ t.children (t.nodeAt r), ¬(t.range c).containsRange r = true) ∧
      (t.Arranged → ¬r.isEmpty = true → ∀ id < t.size, (t.range id).containsRange r = true →
        id ∈ t.ancestors (t.nodeAt r)) := by
  have h : t.Descends r root (t.nodeAt r) := descends_root_iff.mpr rfl
  refine ⟨fun id => descends_root_iff, h.lt_size t.root_lt_size, h.eq_or_containsRange,
    h.not_containsRange, fun ht hr id hid hcontains => ?_⟩
  exact ht.mem_ancestors_of_descends hr hid hcontains h (.inl (root_mem_ancestors hid))

theorem nodeAt_smallest_semicolon :
    let t : SyntaxTree := .ofNode (.node "program" (.onLine 0 0 3) true none
      [.node "expression_statement" (.onLine 0 0 2) true none
        [.node "identifier" (.onLine 0 0 1) true none [], .node ";" (.onLine 0 1 2) false none []],
        .node "expression_statement" (.onLine 0 2 3) true none
          [.node "identifier" (.onLine 0 2 3) true none []]])
    let r : Range := .onLine 0 1 2
    t.Arranged ∧ ¬r.isEmpty = true ∧ 1 < t.size ∧ (t.range 1).containsRange r = true ∧
      t.nodeAt r = 3 ∧ 1 ∈ t.ancestors 3 := by
  intro t r
  have ht : t.Arranged := ⟨by decide +kernel, by decide +kernel⟩
  have hr : ¬r.isEmpty = true := by decide
  have hsize : 1 < t.size := by decide +kernel
  have hcontains : (t.range 1).containsRange r = true := by decide +kernel
  have hnode : t.nodeAt r = 3 := by decide +kernel
  exact ⟨ht, hr, hsize, hcontains, hnode,
    hnode ▸ (nodeAt_smallest t r).2.2.2.2 ht hr 1 hsize hcontains⟩

end Referent.SyntaxTree
