import Referent.Proofs.Scope.Missing

/-! Scope types that are one of several. The target of such a type is a smallest one of those that the
alternatives give, whatever their order is as long as all of these contain each other. -/

namespace Referent

section

variable {α : Type}

/-- Whether a computation fails and nothing else may be tried. -/
def Fatal (x : Except TargetError α) : Prop :=
  ∃ err, x = .error err ∧ err.isRecoverable = false

lemma unlessMissing_eq_some {x : Except TargetError (Option α)} {a : α} :
    unlessMissing none x = .ok (some a) ↔ x = .ok (some a) := by
  cases x with
  | ok a => rfl
  | error err =>
    rw [unlessMissing]
    split
    · simp
    · simp

lemma exists_unlessMissing_iff {x : Except TargetError α} (default : α) :
    (∃ a, unlessMissing default x = .ok a) ↔ ¬Fatal x := by
  have hfatal (err : TargetError) : unlessMissing default x = .error err → Fatal x :=
    fun h => ⟨err, unlessMissing_eq_error.mp h⟩
  cases h : unlessMissing default x with
  | ok a =>
    refine iff_of_true ⟨a, rfl⟩ ?_
    rintro ⟨err, herr⟩
    cases h.symm.trans (unlessMissing_eq_error.mpr herr)
  | error err => exact iff_of_false (by simp) fun hnot => hnot (hfatal err h)

lemma unlessMissing_eq_none {x : Except TargetError (Option α)} :
    unlessMissing none x = .ok none ↔ ¬Fatal x ∧ ∀ a, x ≠ .ok (some a) := by
  rw [← exists_unlessMissing_iff none]
  constructor
  · refine fun h => ⟨⟨none, h⟩, fun a ha => ?_⟩
    cases h.symm.trans (unlessMissing_eq_some.mpr ha)
  · rintro ⟨⟨o, ho⟩, hsome⟩
    cases o with
    | none => exact ho
    | some a => exact absurd (unlessMissing_eq_some.mp ho) (hsome a)

end

namespace ScopeFinder

variable {best o : Option Target} {l : List (Option Target)} {t u v : Target}

lemma exists_smaller (best : Option Target) (u : Target) : ∃ v, smaller best (some u) = some v ∧
    ¬v.content.strictlyContainsRange u.content = true := by
  have hself : ¬u.content.strictlyContainsRange u.content = true :=
    fun h => (Range.strictlyContainsRange_iff.mp h).2 rfl
  cases best with
  | none => exact ⟨u, rfl, hself⟩
  | some b =>
    rw [smaller]
    split
    · exact ⟨u, rfl, hself⟩
    · exact ⟨b, rfl, ‹_›⟩

lemma foldl_smaller_eq_none : l.foldl smaller best = none ↔ best = none ∧ ∀ o ∈ l, o = none := by
  induction l generalizing best with
  | nil => simp
  | cons o rest ih =>
    rw [List.foldl_cons, ih]
    cases o with
    | none => simp [smaller]
    | some u =>
      obtain ⟨v, hv, -⟩ := exists_smaller best u
      simp [hv]

lemma mem_of_foldl_smaller (h : l.foldl smaller best = some t) : best = some t ∨ some t ∈ l := by
  induction l generalizing best with
  | nil => exact .inl h
  | cons o rest ih =>
    rcases ih h with hstep | hmem
    · rcases smaller_cases best o t hstep with hbest | ho
      · exact .inl hbest
      · exact .inr (ho ▸ List.mem_cons_self)
    · exact .inr (List.mem_cons_of_mem o hmem)

lemma containsRange_foldl_smaller (h : l.foldl smaller (some v) = some t) :
    v.content.containsRange t.content = true := by
  induction l generalizing v with
  | nil =>
    obtain rfl := Option.some.inj h
    exact Range.containsRange_refl _
  | cons o rest ih =>
    rw [List.foldl_cons] at h
    cases o with
    | none => exact ih h
    | some u =>
      rw [smaller] at h
      split at h
      · next hinside =>
        exact Range.containsRange_trans (Range.strictlyContainsRange_iff.mp hinside).1 (ih h)
      · exact ih h

lemma not_strictlyContainsRange_foldl_smaller (h : l.foldl smaller best = some t)
    (hu : some u ∈ l) : ¬t.content.strictlyContainsRange u.content = true := by
  induction l generalizing best with
  | nil => cases hu
  | cons o rest ih =>
    rw [List.foldl_cons] at h
    rcases List.mem_cons.mp hu with rfl | hmem
    · obtain ⟨v, hv, hnot⟩ := exists_smaller best u
      rw [hv] at h
      exact fun hinside => hnot
        (Range.strictlyContainsRange_of_containsRange (containsRange_foldl_smaller h) hinside)
    · exact ih h hmem

end ScopeFinder

def ScopeType.containing (cx : Context) (e : Editor) (r : Range) (b : Bool) (s : ScopeType) :
    Except TargetError (Option Target) := do
  let f ← ScopeFinder.ofScopeType e.document.language s
  f.containing cx e r b

namespace ScopeType

variable {cx : Context} {e : Editor} {r : Range} {b : Bool} {ss : List ScopeType}

lemma containing_oneOf (cx : Context) (e : Editor) (r : Range) (b : Bool) (ss : List ScopeType) :
    (oneOf ss).containing cx e r b = ((ss.mapM (ScopeFinder.ofScopeType e.document.language)) >>=
      fun fs => fs.mapM fun f => unlessMissing none (f.containing cx e r b)).map
        (List.foldl ScopeFinder.smaller none) := by
  rw [containing, ScopeFinder.ofScopeType, ScopeFinder.ofScopeTypes_eq, map_bind]
  simp only [ScopeFinder.containing, ScopeFinder.smallestContaining_eq]
  cases ss.mapM (ScopeFinder.ofScopeType e.document.language) with
  | ok fs => rfl
  | error err => rfl

lemma unlessMissing_containing (s : ScopeType) : unlessMissing none (s.containing cx e r b) =
    ScopeFinder.ofScopeType e.document.language s >>= fun f =>
      unlessMissing none (f.containing cx e r b) := by
  rw [containing]
  cases h : ScopeFinder.ofScopeType e.document.language s with
  | ok f => rfl
  | error err =>
    have hfinal := ScopeFinder.fails_ofScopeType _ s err h
    exact unlessMissing_eq_error.mpr ⟨rfl, hfinal.isRecoverable⟩

lemma containing_oneOf_eq_ok {found : Option Target} : (oneOf ss).containing cx e r b = .ok found ↔
    ∃ all, (ss.mapM fun s => unlessMissing none (s.containing cx e r b)) = .ok all ∧
      all.foldl ScopeFinder.smaller none = found := by
  simp only [containing_oneOf, map_eq_ok, mapM_bind_mapM_eq_ok, unlessMissing_containing]

lemma exists_of_containing_oneOf {t : Target} (h : (oneOf ss).containing cx e r b = .ok (some t)) :
    ∃ s ∈ ss, s.containing cx e r b = .ok (some t) := by
  obtain ⟨found, hfound, ht⟩ := containing_oneOf_eq_ok.mp h
  have hmem : some t ∈ found := (ScopeFinder.mem_of_foldl_smaller ht).resolve_left (by simp)
  obtain ⟨s, hs, h⟩ := (mem_iff_of_mapM_eq_ok hfound _).mp hmem
  exact ⟨s, hs, unlessMissing_eq_some.mp h⟩

lemma minimal_containing_oneOf {t u : Target} (h : (oneOf ss).containing cx e r b = .ok (some t))
    {s : ScopeType} (hs : s ∈ ss) (hu : s.containing cx e r b = .ok (some u)) :
    ¬t.content.strictlyContainsRange u.content = true := by
  obtain ⟨found, hfound, ht⟩ := containing_oneOf_eq_ok.mp h
  have hmem := (mem_iff_of_mapM_eq_ok hfound (some u)).mpr ⟨s, hs, unlessMissing_eq_some.mpr hu⟩
  exact ScopeFinder.not_strictlyContainsRange_foldl_smaller ht hmem

variable (cx e r b) in
lemma exists_finder_iff {s : ScopeType} :
    (∃ f, ScopeFinder.ofScopeType e.document.language s = .ok f) ↔
      (Fatal (s.containing cx e r b) → s.containing cx e r b = .error .overflow) := by
  rw [containing]
  cases h : ScopeFinder.ofScopeType e.document.language s with
  | ok f =>
    refine iff_of_true ⟨f, rfl⟩ ?_
    rintro ⟨err, herr, hfatal⟩
    exact ScopeFinder.eq_overflow_of_containing herr hfatal ▸ herr
  | error err =>
    have hfinal := ScopeFinder.fails_ofScopeType _ s err h
    refine iff_of_false (by simp) fun hover => hfinal.ne_overflow ?_
    exact Except.error.inj (hover ⟨err, rfl, hfinal.isRecoverable⟩)

variable (cx e r b) in
lemma containing_eq_error {s : ScopeType} {err : TargetError} (hne : err ≠ .overflow) :
    s.containing cx e r b = .error err ∧ err.isRecoverable = false ↔
      ScopeFinder.ofScopeType e.document.language s = .error err := by
  rw [containing]
  cases h : ScopeFinder.ofScopeType e.document.language s with
  | ok f =>
    refine iff_of_false ?_ (by simp)
    rintro ⟨herr, hfatal⟩
    exact hne (ScopeFinder.eq_overflow_of_containing herr hfatal)
  | error err' =>
    constructor
    · rintro ⟨herr, -⟩
      cases herr
      rfl
    · intro herr
      cases herr
      exact ⟨rfl, (ScopeFinder.fails_ofScopeType _ s err h).isRecoverable⟩

lemma containing_oneOf_eq_error_iff {err : TargetError} (hne : err ≠ .overflow) :
    (oneOf ss).containing cx e r b = .error err ↔
      ss.mapM (ScopeFinder.ofScopeType e.document.language) = .error err := by
  rw [containing_oneOf, map_eq_error]
  cases h : ss.mapM (ScopeFinder.ofScopeType e.document.language) with
  | error err' =>
    constructor
    · intro herr
      cases herr
      rfl
    · intro herr
      cases herr
      rfl
  | ok fs =>
    refine iff_of_false (fun herr => ?_) (by simp)
    obtain ⟨_, f, _, -, hf, -⟩ := mapM_eq_error.mp herr
    obtain ⟨hf, hfatal⟩ := unlessMissing_eq_error.mp hf
    exact hne (ScopeFinder.eq_overflow_of_containing hf hfatal)

lemma containing_oneOf_eq_error {err : TargetError} (hne : err ≠ .overflow) :
    (oneOf ss).containing cx e r b = .error err ↔
      ∃ before s after, ss = before ++ s :: after ∧ s.containing cx e r b = .error err ∧
        err.isRecoverable = false ∧ ∀ s' ∈ before,
          Fatal (s'.containing cx e r b) → s'.containing cx e r b = .error .overflow := by
  rw [containing_oneOf_eq_error_iff hne, mapM_eq_error]
  simp only [exists_finder_iff cx e r b, ← and_assoc, ← containing_eq_error cx e r b hne]

lemma containing_oneOf_eq_none : (oneOf ss).containing cx e r b = .ok none ↔
    ∀ s ∈ ss, ¬Fatal (s.containing cx e r b) ∧ ∀ t, s.containing cx e r b ≠ .ok (some t) := by
  simp only [containing_oneOf_eq_ok, ← unlessMissing_eq_none]
  constructor
  · rintro ⟨found, hfound, hnone⟩ s hs
    obtain ⟨o, ho, heq⟩ := exists_of_mapM_eq_ok hfound s hs
    rwa [(ScopeFinder.foldl_smaller_eq_none.mp hnone).2 o ho] at heq
  · intro h
    obtain ⟨found, hfound⟩ := exists_mapM_eq_ok fun s hs => ⟨none, h s hs⟩
    refine ⟨found, hfound, ScopeFinder.foldl_smaller_eq_none.mpr ⟨rfl, fun o ho => ?_⟩⟩
    obtain ⟨s, hs, heq⟩ := (mem_iff_of_mapM_eq_ok hfound o).mp ho
    exact Except.ok.inj (heq.symm.trans (h s hs))

lemma not_fatal_of_containing_oneOf {found : Option Target} (h : (oneOf ss).containing cx e r b = .ok found) :
    ∀ s ∈ ss, ¬Fatal (s.containing cx e r b) := by
  intro s hs
  obtain ⟨all, hall, -⟩ := containing_oneOf_eq_ok.mp h
  obtain ⟨o, -, ho⟩ := exists_of_mapM_eq_ok hall s hs
  exact (exists_unlessMissing_iff none).mp ⟨o, ho⟩

lemma exists_containing_oneOf (h : ∀ s ∈ ss, ¬Fatal (s.containing cx e r b)) :
    ∃ found, (oneOf ss).containing cx e r b = .ok found := by
  obtain ⟨all, hall⟩ := exists_mapM_eq_ok fun s hs => (exists_unlessMissing_iff none).mpr (h s hs)
  exact ⟨_, containing_oneOf_eq_ok.mpr ⟨all, hall, rfl⟩⟩

lemma containing_oneOf_eq_overflow : (oneOf ss).containing cx e r b = .error .overflow ↔
    (∃ s ∈ ss, s.containing cx e r b = .error .overflow) ∧
      ∀ s ∈ ss, Fatal (s.containing cx e r b) → s.containing cx e r b = .error .overflow := by
  constructor
  · intro h
    rw [containing_oneOf, map_eq_error] at h
    cases hfinders : ss.mapM (ScopeFinder.ofScopeType e.document.language) with
    | error err =>
      rw [hfinders] at h
      cases h
      obtain ⟨_, s, _, -, hs, -⟩ := mapM_eq_error.mp hfinders
      exact absurd rfl (ScopeFinder.fails_ofScopeType _ s _ hs).ne_overflow
    | ok fs =>
      rw [hfinders] at h
      obtain ⟨_, f, _, rfl, hf, -⟩ := mapM_eq_error.mp h
      obtain ⟨s, hs, hfinder⟩ := (mem_iff_of_mapM_eq_ok hfinders f).mp (by simp)
      refine ⟨⟨s, hs, ?_⟩, fun s hs => ?_⟩
      · rw [containing, hfinder]
        exact (unlessMissing_eq_error.mp hf).1
      · obtain ⟨f, -, hf⟩ := exists_of_mapM_eq_ok hfinders s hs
        exact (exists_finder_iff cx e r b).mp ⟨f, hf⟩
  · rintro ⟨⟨s, hs, hover⟩, hall⟩
    cases h : (oneOf ss).containing cx e r b with
    | ok found => exact absurd ⟨_, hover, rfl⟩ (not_fatal_of_containing_oneOf h s hs)
    | error err =>
      by_contra hne
      have hne : err ≠ .overflow := fun heq => hne (congrArg Except.error heq)
      obtain ⟨_, s', _, rfl, hs', hfatal, -⟩ := (containing_oneOf_eq_error hne).mp h
      have hover' := hall s' (by simp) ⟨err, hs', hfatal⟩
      exact hne (Except.error.inj (hs'.symm.trans hover'))

/-- The target of one of several types is that of one of them, and no other one lies inside it. There is
none only if there is none of any of them, and the first of them that fails for good makes it fail, where
an overflow counts only after the others. Its range does not depend on their order if the ranges of any
two of them contain each other. -/
theorem containing_oneOf_smallest (cx : Context) (e : Editor) (r : Range) (b : Bool)
    (ss : List ScopeType) :
    let target (s : ScopeType) := s.containing cx e r b
    (∀ t, target (oneOf ss) = .ok (some t) → (∃ s ∈ ss, target s = .ok (some t)) ∧
      ∀ s ∈ ss, ∀ u, target s = .ok (some u) → ¬t.content.strictlyContainsRange u.content = true) ∧
    (target (oneOf ss) = .ok none ↔
      ∀ s ∈ ss, ¬Fatal (target s) ∧ ∀ t, target s ≠ .ok (some t)) ∧
    (∀ err ≠ .overflow, target (oneOf ss) = .error err ↔ ∃ before s after, ss = before ++ s :: after ∧
      target s = .error err ∧ err.isRecoverable = false ∧
        ∀ s' ∈ before, Fatal (target s') → target s' = .error .overflow) ∧
    (target (oneOf ss) = .error .overflow ↔ (∃ s ∈ ss, target s = .error .overflow) ∧
      ∀ s ∈ ss, Fatal (target s) → target s = .error .overflow) ∧
    ∀ ss', ss.Perm ss' →
      (∀ s ∈ ss, ∀ s' ∈ ss, ∀ t t', target s = .ok (some t) → target s' = .ok (some t') →
        t.content.containsRange t'.content = true ∨ t'.content.containsRange t.content = true) →
      ∀ found, target (oneOf ss) = .ok found → ∃ found', target (oneOf ss') = .ok found' ∧
        found'.map Target.content = found.map Target.content := by
  intro target
  refine ⟨fun t ht => ⟨exists_of_containing_oneOf ht, fun s hs u hu => minimal_containing_oneOf ht hs hu⟩,
    containing_oneOf_eq_none, fun err => containing_oneOf_eq_error, containing_oneOf_eq_overflow, ?_⟩
  intro ss' hperm hchain found hfound
  obtain ⟨found', hfound'⟩ := exists_containing_oneOf fun s hs =>
    not_fatal_of_containing_oneOf hfound s (hperm.mem_iff.mpr hs)
  refine ⟨found', hfound', ?_⟩
  cases found with
  | none =>
    cases found' with
    | none => rfl
    | some t' =>
      obtain ⟨s, hs, ht'⟩ := exists_of_containing_oneOf hfound'
      exact absurd ht' ((containing_oneOf_eq_none.mp hfound s (hperm.mem_iff.mpr hs)).2 t')
  | some t =>
    obtain ⟨s, hs, ht⟩ := exists_of_containing_oneOf hfound
    cases found' with
    | none => exact absurd ht ((containing_oneOf_eq_none.mp hfound' s (hperm.mem_iff.mp hs)).2 t)
    | some t' =>
      obtain ⟨s', hs', ht'⟩ := exists_of_containing_oneOf hfound'
      have hs' := hperm.mem_iff.mpr hs'
      have hmin := minimal_containing_oneOf hfound hs' ht'
      have hmin' := minimal_containing_oneOf hfound' (hperm.mem_iff.mp hs) ht
      rcases hchain s hs s' hs' t t' ht ht' with h | h
      · exact congrArg some (Range.eq_of_not_strictlyContainsRange h hmin).symm
      · exact congrArg some (Range.eq_of_not_strictlyContainsRange h hmin')

theorem containing_oneOf_smallest_line :
    let e : Editor := .ofDocument 1 (.ofText 1 "plaintext" "foo\nbar".toList)
    let target (s : ScopeType) := s.containing {} e (.onLine 1 1 2) false
    let ss : List ScopeType := [.document, .line]
    ss.Perm [.line, .document] ∧ ∃ t t', target (oneOf ss) = .ok (some t) ∧
      target (oneOf [.line, .document]) = .ok (some t') ∧ t.content = .onLine 1 0 3 ∧
      t'.content = t.content ∧ ∃ s ∈ ss, target s = .ok (some t) := by
  intro e target ss
  have hperm : ss.Perm [.line, .document] := .swap _ _ _
  have hcontent {s : ScopeType} {r : Range}
      (h : (target s).map (Option.map Target.content) = .ok (some r)) :
      ∃ t, target s = .ok (some t) ∧ t.content = r := by
    obtain ⟨found, hfound, hr⟩ := map_eq_ok.mp h
    obtain ⟨t, rfl, ht⟩ := Option.map_eq_some_iff.mp hr
    exact ⟨t, hfound, ht⟩
  obtain ⟨whole, hwhole, hwholeRange⟩ :=
    hcontent (s := .document) (r := .between ⟨0, 0⟩ ⟨1, 3⟩) (by decide +kernel)
  obtain ⟨line, hline, hlineRange⟩ := hcontent (s := .line) (r := .onLine 1 0 3) (by decide +kernel)
  obtain ⟨t, ht, htRange⟩ := hcontent (s := oneOf ss) (r := .onLine 1 0 3) (by decide +kernel)
  obtain ⟨hsome, -, -, -, horder⟩ := containing_oneOf_smallest {} e (.onLine 1 1 2) false ss
  have hranges : ∀ s ∈ ss, ∀ t, target s = .ok (some t) →
      t.content = .between ⟨0, 0⟩ ⟨1, 3⟩ ∨ t.content = .onLine 1 0 3 := by
    intro s hs t ht
    rcases (by simpa [ss] using hs : s = .document ∨ s = .line) with rfl | rfl
    · cases hwhole.symm.trans ht
      exact .inl hwholeRange
    · cases hline.symm.trans ht
      exact .inr hlineRange
  have hchain : ∀ s ∈ ss, ∀ s' ∈ ss, ∀ t t', target s = .ok (some t) → target s' = .ok (some t') →
      t.content.containsRange t'.content = true ∨ t'.content.containsRange t.content = true := by
    intro s hs s' hs' t t' ht ht'
    rcases hranges s hs t ht with h | h <;> rcases hranges s' hs' t' ht' with h' | h' <;>
      rw [h, h'] <;> decide
  obtain ⟨found', hfound', heq⟩ := horder _ hperm hchain _ ht
  obtain ⟨t', rfl, ht'⟩ := Option.map_eq_some_iff.mp heq
  exact ⟨hperm, t, t', ht, hfound', htRange, ht', (hsome t ht).1⟩

end ScopeType

end Referent
