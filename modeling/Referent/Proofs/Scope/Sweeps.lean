import Referent.Proofs.Resolve.Every
import Referent.Proofs.Scope.Walks

/-! What a walk makes of the scopes that it finds ahead of a position: which of them it meets, in which
order, and which ones it passes over because they lie in others. -/

namespace Referent

def Range.NoFurther (direction : Direction) (r s : Range) : Prop :=
  match direction with
  | .forward => r.start ≤ s.start ∧ r.stop ≤ s.stop
  | .backward => s.start ≤ r.start ∧ s.stop ≤ r.stop

def Range.PassedBy (direction : Direction) (r s : Range) : Prop :=
  match direction with
  | .forward => r.stop ≤ s.stop
  | .backward => s.start ≤ r.start

structure Scope.IsMet (direction : Direction) (containment : Option Containment) (p : Position)
    (s : Scope) : Prop where
  ahead : (match direction with
    | .forward => p < s.domain.stop
    | .backward => s.domain.start < p) ∨ s.domain = .point p
  allowed : match containment with
    | none => True
    | some .required => s.domain.start ≤ p ∧ p ≤ s.domain.stop
    | some .disallowed => ¬(s.domain.start ≤ p ∧ p ≤ s.domain.stop)
    | some .disallowedIfStrict => ¬(s.domain.start < p ∧ p < s.domain.stop)

namespace ScopeFinder

variable {f : ScopeFinder} {cx : Context} {e : Editor} {direction : Direction}
  {containment : Option Containment} {p : Position} {r s : Range} {kept : List Range}
  {found scopes : List Scope}

lemma isAhead_iff {s : Scope} : isAhead direction p s = true ↔
    (match direction with
      | .forward => p < s.domain.stop
      | .backward => s.domain.start < p) ∨ s.domain = .point p := by
  have hempty : (s.domain.isEmpty && s.domain.start == p) = true ↔ s.domain = .point p := by
    rw [Bool.and_eq_true, Range.isEmpty_iff, beq_iff_eq, Range.ext_iff', Range.point]
    exact ⟨fun h => ⟨h.2, h.1 ▸ h.2⟩, fun h => ⟨h.1.trans h.2.symm, h.1⟩⟩
  rw [isAhead.eq_def, Bool.or_eq_true, hempty]
  cases direction with
  | forward => exact or_congr_left decide_eq_true_iff
  | backward => exact or_congr_left decide_eq_true_iff

lemma isAllowed_iff {s : Scope} : isAllowed containment p s = true ↔ match containment with
    | none => True
    | some .required => s.domain.start ≤ p ∧ p ≤ s.domain.stop
    | some .disallowed => ¬(s.domain.start ≤ p ∧ p ≤ s.domain.stop)
    | some .disallowedIfStrict => ¬(s.domain.start < p ∧ p < s.domain.stop) := by
  rcases containment with - | - | - | -
  · exact iff_of_true rfl trivial
  · rw [isAllowed, Range.contains, Bool.and_eq_true, decide_eq_true_iff, decide_eq_true_iff]
  · rw [isAllowed, Range.contains, Bool.not_eq_true', ← Bool.not_eq_true, Bool.and_eq_true,
      decide_eq_true_iff, decide_eq_true_iff]
  · rw [isAllowed, Range.strictlyContains, Bool.not_eq_true', ← Bool.not_eq_true, Bool.and_eq_true,
      decide_eq_true_iff, decide_eq_true_iff]

lemma isMet_eq_true {s : Scope} :
    (isAhead direction p s && isAllowed containment p s) = true ↔ s.IsMet direction containment p := by
  rw [Bool.and_eq_true, isAhead_iff, isAllowed_iff]
  exact ⟨fun h => ⟨h.1, h.2⟩, fun h => ⟨h.ahead, h.allowed⟩⟩

section Order

instance (f : ScopeFinder) (direction : Direction) :
    Std.TransCmp fun a b : Scope => f.walkOrder direction a.domain b.domain := by
  cases hf : f.isHierarchical <;> cases direction <;> simp only [walkOrder, hf] <;> exact inferInstance

lemma isLE_compare_then {a b a' b' : Position} :
    ((compare a b).then (compare a' b')).isLE = true ↔ a < b ∨ a = b ∧ a' ≤ b' := by
  rw [Ordering.isLE_then_iff_or, Position.compare_eq_lt, Position.compare_eq_eq, Position.isLE_compare]

lemma noFurther_or_contains (hf : f.isHierarchical = false)
    (h : (f.walkOrder direction r s).isLE = true) :
    r.NoFurther direction s ∨ s.containsRange r = true := by
  rw [Range.containsRange_iff]
  cases direction with
  | forward =>
    simp only [walkOrder, hf, isLE_compare_then] at h
    have hstop : r.stop ≤ s.stop := h.elim Position.le_of_lt fun h => h.1 ▸ Position.le_refl _
    exact (Position.le_total r.start s.start).imp (fun hstart => ⟨hstart, hstop⟩) fun hstart =>
      ⟨hstart, hstop⟩
  | backward =>
    simp only [walkOrder, hf, isLE_compare_then] at h
    have hstart : s.start ≤ r.start := h.elim Position.le_of_lt fun h => h.1 ▸ Position.le_refl _
    exact (Position.le_total s.stop r.stop).imp (fun hstop => ⟨hstart, hstop⟩) fun hstop =>
      ⟨hstart, hstop⟩

lemma noFurther_of_apart (hf : f.isHierarchical = false)
    (h : (f.walkOrder direction r s).isLE = true) (hapart : r.stop ≤ s.start ∨ s.stop ≤ r.start) :
    r.NoFurther direction s := by
  have hr := r.start_le_stop
  have hs := s.start_le_stop
  cases direction with
  | forward =>
    simp only [walkOrder, hf, isLE_compare_then] at h
    simp only [Range.NoFurther, Position.ext_iff', Position.lt_def, Position.le_def] at *
    omega
  | backward =>
    simp only [walkOrder, hf, isLE_compare_then] at h
    simp only [Range.NoFurther, Position.ext_iff', Position.lt_def, Position.le_def] at *
    omega

lemma noFurther_of_not_contains (hf : f.isHierarchical = true)
    (h : (f.walkOrder direction r s).isLE = true) (hr : ¬r.containsRange s = true) :
    r.NoFurther direction s ∧ ¬s.containsRange r = true := by
  rw [Range.containsRange_iff] at *
  cases direction with
  | forward =>
    simp only [walkOrder, hf, isLE_compare_then] at h
    simp only [Range.NoFurther, Position.ext_iff', Position.lt_def, Position.le_def] at *
    omega
  | backward =>
    simp only [walkOrder, hf, isLE_compare_then] at h
    simp only [Range.NoFurther, Position.ext_iff', Position.lt_def, Position.le_def] at *
    omega

end Order

section Inner

lemma exists_contains_dropInner {l : List Scope} {s : Scope} (hs : s ∈ l) :
    (∃ k ∈ kept, k.containsRange s.domain = true) ∨
      ∃ o ∈ dropInner kept l, o.domain.containsRange s.domain = true := by
  fun_induction dropInner kept l with
  | case1 => cases hs
  | case2 kept u rest h ih =>
    rcases List.mem_cons.mp hs with rfl | hs
    · exact .inl (List.any_eq_true.mp h)
    · exact ih hs
  | case3 kept u rest h ih =>
    rcases List.mem_cons.mp hs with rfl | hs
    · exact .inr ⟨s, List.mem_cons_self, Range.containsRange_refl _⟩
    · rcases ih hs with ⟨k, hk, hcontains⟩ | ⟨o, ho, hcontains⟩
      · rcases List.mem_append.mp hk with hk | hk
        · exact .inl ⟨k, hk, hcontains⟩
        · exact .inr ⟨u, List.mem_cons_self, List.mem_singleton.mp hk ▸ hcontains⟩
      · exact .inr ⟨o, List.mem_cons_of_mem u ho, hcontains⟩

lemma not_contains_dropInner (kept : List Range) (l : List Scope) :
    (∀ s ∈ dropInner kept l, ∀ k ∈ kept, ¬k.containsRange s.domain = true) ∧
      (dropInner kept l).Pairwise fun a b => ¬a.domain.containsRange b.domain = true := by
  fun_induction dropInner kept l with
  | case1 => exact ⟨fun s hs => absurd hs List.not_mem_nil, .nil⟩
  | case2 kept u rest h ih => exact ih
  | case3 kept u rest h ih =>
    refine ⟨fun s hs k hk => ?_, List.pairwise_cons.mpr ⟨fun s hs => ?_, ih.2⟩⟩
    · rcases List.mem_cons.mp hs with rfl | hs
      · exact fun hcontains => h (List.any_eq_true.mpr ⟨k, hk, hcontains⟩)
      · exact ih.1 s hs k (List.mem_append_left _ hk)
    · exact ih.1 s hs u.domain (List.mem_append_right _ List.mem_cons_self)

end Inner

/-- What a walk meets of the scopes that a finder has found ahead of a position. -/
structure IsSweep (f : ScopeFinder) (direction : Direction) (containment : Option Containment)
    (p : Position) (found scopes : List Scope) : Prop where
  sound : ∀ s ∈ scopes, s ∈ found ∧ s.IsMet direction containment p
  nearest : scopes.Pairwise fun a b => a.domain.PassedBy direction b.domain
  /-- What is passed first also begins first, unless it is an item inside another one. -/
  inOrder : scopes.Pairwise fun a b =>
    a.domain.NoFurther direction b.domain ∨ f = .items ∧ b.domain.containsRange a.domain = true
  complete : f.isHierarchical = false → ∀ s ∈ found, s.IsMet direction containment p → s ∈ scopes
  outermost : f.isHierarchical = true → scopes.Pairwise fun a b =>
    ¬a.domain.containsRange b.domain = true ∧ ¬b.domain.containsRange a.domain = true
  covered : f.isHierarchical = true → ∀ s ∈ found, s.IsMet direction containment p →
    ∃ o ∈ scopes, o.domain.containsRange s.domain = true

lemma passedBy_of_noFurther_or {P : Prop}
    (h : r.NoFurther direction s ∨ P ∧ s.containsRange r = true) : r.PassedBy direction s := by
  cases direction with
  | forward => exact h.elim And.right fun h => ((Range.containsRange_iff s r).mp h.2).2
  | backward => exact h.elim And.left fun h => ((Range.containsRange_iff s r).mp h.2).1

def met (f : ScopeFinder) (direction : Direction) (containment : Option Containment) (p : Position)
    (found : List Scope) : List Scope :=
  (found.filter fun s => isAhead direction p s && isAllowed containment p s).mergeSort
    fun a b => (f.walkOrder direction a.domain b.domain).isLE

lemma mem_met {s : Scope} :
    s ∈ f.met direction containment p found ↔ s ∈ found ∧ s.IsMet direction containment p := by
  rw [met, List.mem_mergeSort, List.mem_filter, isMet_eq_true]

lemma pairwise_met (f : ScopeFinder) (direction : Direction) (containment : Option Containment)
    (p : Position) (found : List Scope) : (f.met direction containment p found).Pairwise fun a b =>
      (f.walkOrder direction a.domain b.domain).isLE = true :=
  pairwise_sorted _

lemma walk_eq_map (hc : containment ≠ some .required) : f.walk cx e p direction containment =
    (f.candidates cx e (ahead e.document direction p)).map fun found =>
      if f.isHierarchical then dropInner [] (f.met direction containment p found)
      else f.met direction containment p found := by
  rw [walk]
  cases f.candidates cx e (ahead e.document direction p) with
  | error error => rfl
  | ok found =>
    show (if _ then _ else _) = _
    rw [if_neg hc]
    rfl

lemma inOrder_met (hf : f.isHierarchical = false)
    (hfound : f.candidates cx e (ahead e.document direction p) = .ok found) :
    (f.met direction containment p found).Pairwise fun a b =>
      a.domain.NoFurther direction b.domain ∨ f = .items ∧ b.domain.containsRange a.domain = true := by
  have hsorted := f.pairwise_met direction containment p found
  -- Of the finders whose scopes are not swept only the items may find one inside another one.
  by_cases hitems : f = .items
  · exact hsorted.imp fun hle => (noFurther_or_contains hf hle).imp_right fun h => ⟨hitems, h⟩
  · let Apart (a b : Scope) : Prop :=
      a.domain.stop ≤ b.domain.start ∨ b.domain.stop ≤ a.domain.start
    have hsuccessive := successive_candidates (isFlat_of_isHierarchical_eq_false hf hitems) cx e
      (ahead e.document direction p) found hfound
    have hapart : found.Pairwise Apart := (List.pairwise_map.mp hsuccessive).imp Or.inl
    have hmet : (f.met direction containment p found).Pairwise Apart :=
      (hapart.sublist List.filter_sublist).perm (List.mergeSort_perm _ _).symm Or.symm
    exact (hsorted.and hmet).imp fun h => .inl (noFurther_of_apart hf h.1 h.2)

lemma isSweep_met (hf : f.isHierarchical = false)
    (hfound : f.candidates cx e (ahead e.document direction p) = .ok found) :
    f.IsSweep direction containment p found (f.met direction containment p found) where
  sound s hs := mem_met.mp hs
  nearest := (inOrder_met hf hfound).imp passedBy_of_noFurther_or
  inOrder := inOrder_met hf hfound
  complete _ s hs hmet := mem_met.mpr ⟨hs, hmet⟩
  outermost h := absurd h (by simp [hf])
  covered h := absurd h (by simp [hf])

lemma isSweep_dropInner (hf : f.isHierarchical = true) (found : List Scope) :
    f.IsSweep direction containment p found
      (dropInner [] (f.met direction containment p found)) := by
  have hsub := dropInner_sublist [] (f.met direction containment p found)
  have hinner := (not_contains_dropInner [] (f.met direction containment p found)).2
  have hpairs := (((f.pairwise_met direction containment p found).sublist hsub).and hinner).imp
    fun h => noFurther_of_not_contains hf h.1 h.2
  exact {
    sound := fun s hs => mem_met.mp (hsub.subset hs)
    nearest := hpairs.imp fun h => passedBy_of_noFurther_or (P := False) (.inl h.1)
    inOrder := hpairs.imp fun h => .inl h.1
    complete := fun h => absurd h (by simp [hf])
    outermost := fun _ => (hinner.and hpairs).imp fun h => ⟨h.1, h.2.2⟩
    covered := fun _ s hs hmet => (exists_contains_dropInner (mem_met.mpr ⟨hs, hmet⟩)).resolve_left
      fun ⟨_, hk, _⟩ => absurd hk List.not_mem_nil }

/-- A walk fails only if the finder does. Otherwise it meets those of the scopes found ahead that lie
there as they may, the nearest one first, and of those that may lie in others the outermost ones. -/
theorem walk_sweeps (f : ScopeFinder) (cx : Context) (e : Editor) (p : Position)
    (direction : Direction) (hc : containment ≠ some .required) :
    (∀ error, f.walk cx e p direction containment = .error error ↔
      f.candidates cx e (ahead e.document direction p) = .error error) ∧
    ∀ found, f.candidates cx e (ahead e.document direction p) = .ok found →
      ∃ scopes, f.walk cx e p direction containment = .ok scopes ∧
        f.IsSweep direction containment p found scopes := by
  rw [walk_eq_map hc]
  refine ⟨fun error => map_eq_error, fun found hfound => ⟨_, map_eq_ok.mpr ⟨found, hfound, rfl⟩, ?_⟩⟩
  split
  · exact isSweep_dropInner ‹_› found
  · exact isSweep_met (Bool.eq_false_iff.mpr ‹_›) hfound

def nestedParentheses : Document := .ofText 1 "plaintext" "((a) (b))".toList

lemma findAll_nestedParentheses :
    (PairSearch.ofName .parentheses "plaintext").findAll nestedParentheses =
      [⟨.onLine 0 0 1, .onLine 0 8 9⟩, ⟨.onLine 0 1 2, .onLine 0 3 4⟩,
        ⟨.onLine 0 5 6, .onLine 0 7 8⟩] := by
  have hdelimiters : Delimiter.ofName .parentheses "plaintext" = [⟨.parentheses, ['('], [')']⟩] :=
    List.mergeSort_of_pairwise (by decide)
  let pair (opening closing : Nat) : Occurrence × Occurrence :=
    (⟨opening, opening + 1, ⟨.parentheses, ['('], [')']⟩, .left⟩,
      ⟨closing, closing + 1, ⟨.parentheses, ['('], [')']⟩, .right⟩)
  have hpairs : (PairSearch.ofName .parentheses "plaintext").pairsIn
      (nestedParentheses.textIn nestedParentheses.range) none = [pair 1 3, pair 5 7, pair 0 8] := by
    rw [PairSearch.ofName, hdelimiters]
    decide +kernel
  have hsorted : ([pair 1 3, pair 5 7, pair 0 8].mergeSort fun p q => decide (p.1.start ≤ q.1.start)) =
      [pair 0 8, pair 1 3, pair 5 7] :=
    mergeSort_eq (by simp only [decide_eq_true_eq]; omega) (by simp; omega)
      (List.perm_append_singleton _ [pair 1 3, pair 5 7]) (by decide)
  rw [PairSearch.findAll, hpairs, hsorted]
  decide +kernel

theorem walk_sweeps_inner :
    let e : Editor := .ofDocument 1 nestedParentheses
    let f : ScopeFinder := .pairs (.pair .parentheses) (.ofName .parentheses "plaintext")
    ∃ found scopes, f.candidates {} e (ahead e.document .forward .zero) = .ok found ∧
      found.map Scope.domain = [.onLine 0 0 9, .onLine 0 1 4, .onLine 0 5 8] ∧
      f.walk {} e .zero .forward (some .disallowed) = .ok scopes ∧
      f.IsSweep .forward (some .disallowed) .zero found scopes := by
  intro e f
  let found := Scope.touching (ahead e.document .forward .zero)
    (((PairSearch.ofName .parentheses "plaintext").findAll e.document).map (Scope.ofPair e))
  have hdomains : found.map Scope.domain = [.onLine 0 0 9, .onLine 0 1 4, .onLine 0 5 8] := by
    have hall : (PairSearch.ofName .parentheses "plaintext").findAll e.document = _ :=
      findAll_nestedParentheses
    show (Scope.touching _ (List.map _ _)).map _ = _
    rw [hall]
    decide +kernel
  have hdisallowed : some Containment.disallowed ≠ some .required := by decide
  obtain ⟨scopes, hscopes, hsweep⟩ :=
    (walk_sweeps f {} e .zero .forward hdisallowed).2 found rfl
  exact ⟨found, scopes, rfl, hdomains, hscopes, hsweep⟩

end ScopeFinder

end Referent
