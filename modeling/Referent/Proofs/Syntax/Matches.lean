import Referent.Proofs.Scope.Order

namespace Referent

lemma eraseRepsBy_of_same {α : Type} {same : α → α → Bool} {l : List α}
    (h : ∀ a ∈ l, ∀ b ∈ l, same a b = true) : l.eraseRepsBy same = l.take 1 := by
  cases l with
  | nil => rfl
  | cons a l =>
    induction l with
    | nil => rfl
    | cons b l ih =>
      rw [eraseRepsBy_cons_cons, if_pos (h a (by simp) b (by simp))]
      refine ih fun c hc d hd => h c ?_ d ?_
      · exact List.cons_subset_cons a (List.subset_cons_self b l) hc
      · exact List.cons_subset_cons a (List.subset_cons_self b l) hd

namespace Matcher

variable {m : Matcher} {t : SyntaxTree} {a b f g : NodeMatch}

def ComesBefore (t : SyntaxTree) (a b : NodeMatch) : Prop :=
  (t.range a.node).start < (t.range b.node).start ∨ (t.range a.node).start = (t.range b.node).start ∧
    ((t.range b.node).stop < (t.range a.node).stop ∨ (t.range b.node).stop = (t.range a.node).stop ∧
      (a.content.start < b.content.start ∨ a.content.start = b.content.start ∧
        a.content.stop < b.content.stop))

def place (t : SyntaxTree) (f : NodeMatch) : Range × Range := (t.range f.node, f.content)

lemma order_eq_lt : order t a b = .lt ↔ ComesBefore t a b := by
  rw [order, Ordering.then_eq_lt, Ordering.then_eq_lt, Ordering.then_eq_lt, ComesBefore]
  simp only [Position.compare_eq_lt, Position.compare_eq_eq]

lemma same_iff : same t a b = true ↔ place t a = place t b := by
  rw [same, Bool.and_eq_true, beq_iff_eq, beq_iff_eq, place, place, Prod.mk.injEq]

lemma order_eq_eq : order t a b = .eq ↔ same t a b = true := by
  rw [order, Ordering.then_eq_eq, Ordering.then_eq_eq, Ordering.then_eq_eq, same_iff, place, place,
    Prod.mk.injEq, Range.ext_iff', Range.ext_iff']
  simp only [Position.compare_eq_eq, and_assoc, eq_comm (a := (t.range b.node).stop)]

lemma same_of_between (t : SyntaxTree) (a b c : NodeMatch) (hab : (order t a b).isLE = true)
    (hbc : (order t b c).isLE = true) (hac : same t a c = true) : same t a b = true := by
  have hcb : (order t b a).isLE = true := by
    refine Std.TransCmp.isLE_trans hbc ?_
    rw [order_eq_eq.mpr (same_iff.mpr (same_iff.mp hac).symm)]
    rfl
  exact order_eq_eq.mp (Std.OrientedCmp.isLE_antisymm hab hcb)

lemma sorted_found (m : Matcher) (t : SyntaxTree) :
    ((t.ids.filterMap (m.find t)).mergeSort fun a b => (order t a b).isLE).Pairwise
      fun a b => (order t a b).isLE = true := pairwise_sorted _

lemma distinct_findAll (m : Matcher) (t : SyntaxTree) :
    (m.findAll t).Pairwise fun a b => same t a b = false :=
  pairwise_eraseRepsBy (same_of_between t) (sorted_found m t)

lemma comesBefore_findAll (m : Matcher) (t : SyntaxTree) : (m.findAll t).Pairwise (ComesBefore t) := by
  refine ((Scope.sorted_findAll m t).and (distinct_findAll m t)).imp fun {a b} ⟨hle, hne⟩ => ?_
  rw [← order_eq_lt]
  refine (Ordering.isLE_iff_eq_lt_or_eq_eq.mp hle).resolve_right fun heq => ?_
  exact Bool.false_ne_true (hne.symm.trans (order_eq_eq.mp heq))

lemma filter_findAll (m : Matcher) (t : SyntaxTree) (f : NodeMatch) :
    (m.findAll t).filter (same t f) = ((t.ids.filterMap (m.find t)).filter (same t f)).take 1 := by
  have hrespects (a b : NodeMatch) (hab : same t a b = true) : same t f a = same t f b := by
    rw [Bool.eq_iff_iff, same_iff, same_iff, same_iff.mp hab]
  have hsame : ∀ a ∈ (t.ids.filterMap (m.find t)).filter (same t f),
      ∀ b ∈ (t.ids.filterMap (m.find t)).filter (same t f), same t a b = true := by
    intro a ha b hb
    have hfa := same_iff.mp (List.mem_filter.mp ha).2
    have hfb := same_iff.mp (List.mem_filter.mp hb).2
    exact same_iff.mpr (hfa.symm.trans hfb)
  have hsorted : ((t.ids.filterMap (m.find t)).filter (same t f)).Pairwise
      fun a b => (order t a b).isLE = true := by
    refine List.pairwise_iff_forall_sublist.mpr fun {a b} hab => ?_
    have hmem := hab.subset
    rw [order_eq_eq.mpr (hsame a (hmem (by simp)) b (hmem (by simp)))]
    rfl
  rw [findAll, filter_eraseRepsBy (same_of_between t) hrespects (sorted_found m t),
    filter_sorted, List.mergeSort_of_pairwise hsorted, eraseRepsBy_of_same hsame]

lemma exists_same (hf : f ∈ t.ids.filterMap (m.find t)) : ∃ g ∈ m.findAll t, place t g = place t f := by
  have hmem : f ∈ (t.ids.filterMap (m.find t)).filter (same t f) :=
    List.mem_filter.mpr ⟨hf, same_iff.mpr rfl⟩
  have hkept := filter_findAll m t f
  cases hfound : (t.ids.filterMap (m.find t)).filter (same t f) with
  | nil => exact absurd hmem (hfound ▸ List.not_mem_nil)
  | cons g rest =>
    rw [hfound, List.take_succ_cons, List.take_zero] at hkept
    obtain ⟨hg, hsame⟩ := List.mem_filter.mp (hkept ▸ List.mem_singleton_self g)
    exact ⟨g, hg, (same_iff.mp hsame).symm⟩

lemma exists_first (hg : g ∈ m.findAll t) : ∃ id < t.size, m.find t id = some g ∧
    ∀ id' < id, ∀ f, m.find t id' = some f → place t f ≠ place t g := by
  have hmem : g ∈ (m.findAll t).filter (same t g) := List.mem_filter.mpr ⟨hg, same_iff.mpr rfl⟩
  have hfirst : (t.ids.filterMap (m.find t)).find? (same t g) = some g := by
    rw [filter_findAll] at hmem
    rw [← List.head?_filter]
    cases hfound : (t.ids.filterMap (m.find t)).filter (same t g) with
    | nil => simp [hfound] at hmem
    | cons a rest => simpa [hfound, eq_comm] using hmem
  rw [List.find?_filterMap, Option.bind_eq_some_iff] at hfirst
  obtain ⟨id, hid, hfind⟩ := hfirst
  obtain ⟨-, hlt, hbefore⟩ := List.find?_range_eq_some.mp hid
  refine ⟨id, List.mem_range.mp hlt, hfind, fun id' hid' f hf heq => ?_⟩
  have hnot := hbefore id' hid'
  rw [hf, Option.any_some, same_iff.mpr heq.symm] at hnot
  cases hnot

/-- All that a matcher finds in a tree is listed in order and each domain and content only once. Whatever
some node gives has its domain and content in the list, and what is listed is given by some node, the first
one of those that give them. -/
theorem findAll_distinct (m : Matcher) (t : SyntaxTree) :
    (m.findAll t).Pairwise (ComesBefore t) ∧ ((m.findAll t).map (place t)).Nodup ∧
      (∀ id < t.size, ∀ f, m.find t id = some f → ∃ g ∈ m.findAll t, place t g = place t f) ∧
      ∀ g ∈ m.findAll t, ∃ id < t.size, m.find t id = some g ∧
        ∀ id' < id, ∀ f, m.find t id' = some f → place t f ≠ place t g := by
  refine ⟨comesBefore_findAll m t, ?_, fun id hid f hf => ?_, fun g => exists_first⟩
  · refine List.pairwise_map.mpr ((distinct_findAll m t).imp fun hne heq => ?_)
    exact Bool.false_ne_true (hne.symm.trans (same_iff.mpr heq))
  · exact exists_same (List.mem_filterMap.mpr ⟨id, List.mem_range.mpr hid, hf⟩)

theorem findAll_distinct_exported :
    let t : SyntaxTree := .ofNode (.node "program" (.onLine 0 0 20) true none
      [.node "export_statement" (.onLine 0 0 10) true none
        [.node "class_declaration" (.onLine 0 7 10) true none []],
        .node "class_declaration" (.onLine 0 11 20) true none []])
    let m : Matcher := .patterns [⟨[⟨.exactly "export_statement", [], false, true⟩,
      ⟨.exactly "class_declaration", [], false, false⟩]⟩]
    let exported : NodeMatch := ⟨1, .onLine 0 0 10, none⟩
    let other : NodeMatch := ⟨3, .onLine 0 11 20, none⟩
    2 < t.size ∧ m.find t 1 = some exported ∧ m.find t 2 = some exported ∧
      m.findAll t = [exported, other] ∧ ComesBefore t exported other ∧
      (∃ g ∈ m.findAll t, place t g = place t exported) ∧
      ∃ id < t.size, m.find t id = some other ∧
        ∀ id' < id, ∀ f, m.find t id' = some f → place t f ≠ place t other := by
  intro t m exported other
  have hsize : 2 < t.size := by decide +kernel
  have hfind : m.find t 2 = some exported := by decide +kernel
  have hfound : t.ids.filterMap (m.find t) = [exported, exported, other] := by decide +kernel
  have hall : m.findAll t = [exported, other] := by
    rw [findAll, hfound, List.mergeSort_of_pairwise (by decide +kernel)]
    rfl
  obtain ⟨hordered, -, hlisted, hgiven⟩ := findAll_distinct m t
  refine ⟨hsize, by decide +kernel, hfind, hall, ?_, hlisted 2 hsize exported hfind, hgiven other ?_⟩
  · rw [hall] at hordered
    exact List.rel_of_pairwise_cons hordered (List.mem_singleton_self other)
  · rw [hall]
    exact List.mem_cons_of_mem exported (List.mem_singleton_self other)

end Matcher

end Referent
