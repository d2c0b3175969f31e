import Referent.Proofs.Document.Coordinates
import Referent.Proofs.Resolve.Consecutive
import Referent.Proofs.Scope.Sweeps

/-! The scope nearest to a target that lies in none. It is looked for from both ends of the target, so
that the scopes inside the target are passed over. -/

namespace Referent

namespace Target

def distanceTo (t : Target) (u : Scope) : Nat :=
  (t.document.offsetAt t.content.start - t.document.offsetAt u.domain.stop) +
    (t.document.offsetAt u.domain.start - t.document.offsetAt t.content.stop)

def FindsNearest (t : Target) (s : ScopeType) (scopes : List Scope)
    (result : Except TargetError (List Target)) : Prop :=
  (scopes = [] ∧ result = .error (.noContainingScope s.display)) ∨
    ∃ u ∈ scopes, result = .ok [u.oriented t.isReversed] ∧
      (∀ v ∈ scopes, t.distanceTo u ≤ t.distanceTo v) ∧
      ∀ v ∈ scopes, t.distanceTo v = t.distanceTo u →
        t.content.stop < v.domain.stop → t.content.stop < u.domain.stop

def outside (t : Target) (scopes : List Scope) : List Scope :=
  scopes.filter fun u => !t.content.containsRange u.domain

variable {cx : Context} {s : ScopeType} {t : Target} {f : ScopeFinder} {all : List Scope} {u v : Scope}

lemma distanceTo_eq_zero (h : t.content.containsRange u.domain = true) : t.distanceTo u = 0 := by
  obtain ⟨hstart, hstop⟩ := (Range.containsRange_iff _ _).mp h
  have hle := u.domain.start_le_stop
  have hbefore := t.document.offsetAt_mono (Position.le_trans hstart hle)
  have hbehind := t.document.offsetAt_mono (Position.le_trans hle hstop)
  rw [distanceTo]
  omega

def gap (t : Target) (direction : Direction) (u : Scope) : Nat :=
  match direction with
  | .forward => t.document.offsetAt u.domain.start - t.document.offsetAt t.content.stop
  | .backward => t.document.offsetAt t.content.start - t.document.offsetAt u.domain.stop

def IsPassed (t : Target) (direction : Direction) (u : Scope) : Prop :=
  match direction with
  | .forward => t.content.stop < u.domain.stop
  | .backward => u.domain.start < t.content.start

lemma distanceTo_eq_gap {direction : Direction} (h : t.IsPassed direction u) :
    t.distanceTo u = t.gap direction u := by
  have hle := t.content.start_le_stop
  rw [distanceTo]
  cases direction with
  | forward =>
    have hmono := t.document.offsetAt_mono (Position.le_trans hle (Position.le_of_lt h))
    rw [gap]
    omega
  | backward =>
    have hmono := t.document.offsetAt_mono (Position.le_trans (Position.le_of_lt h) hle)
    rw [gap]
    omega

lemma gap_le_gap {direction : Direction} (h : Scope.MetBefore direction u v) :
    t.gap direction u ≤ t.gap direction v := by
  cases direction with
  | forward => exact Nat.sub_le_sub_right (t.document.offsetAt_mono (Position.le_of_lt h.start_lt)) _
  | backward => exact Nat.sub_le_sub_left (t.document.offsetAt_mono (Position.le_of_lt h.stop_lt)) _

/-- What is found from one end of a target: nothing if no scope reaches beyond it, or else the nearest one
of those that do. -/
structure IsFirst (t : Target) (direction : Direction) (all : List Scope) (found : Option (Nat × Scope)) :
    Prop where
  none : found = none → ∀ v ∈ all, ¬t.IsPassed direction v
  some : ∀ n u, found = some (n, u) → u ∈ all ∧ t.IsPassed direction u ∧ n = t.distanceTo u ∧
    ∀ v ∈ all, t.IsPassed direction v → t.distanceTo u ≤ t.distanceTo v

lemma mem_outside : u ∈ t.outside all ↔
    u ∈ all ∧ (t.IsPassed .backward u ∨ t.IsPassed .forward u) := by
  rw [outside, List.mem_filter, Bool.not_eq_true', ← Bool.not_eq_true, Range.containsRange_iff,
    Classical.not_and_iff_not_or_not, Position.not_le, Position.not_le]
  exact Iff.rfl

lemma findsNearest_closer {previous next : Option (Nat × Scope)}
    (hbefore : t.IsFirst .backward all previous) (hbehind : t.IsFirst .forward all next) :
    t.FindsNearest s (t.outside all)
      (match closer previous next with
      | some found => .ok [found.oriented t.isReversed]
      | none => .error (.noContainingScope s.display)) := by
  match previous, next with
  | none, none =>
    refine .inl ⟨List.eq_nil_iff_forall_not_mem.mpr fun v hv => ?_, rfl⟩
    obtain ⟨hv, hpassed⟩ := mem_outside.mp hv
    exact hpassed.elim (hbefore.none rfl v hv) (hbehind.none rfl v hv)
  | some (n, p), none =>
    obtain ⟨hp, hpassed, rfl, hmin⟩ := hbefore.some n p rfl
    refine .inr ⟨p, mem_outside.mpr ⟨hp, .inl hpassed⟩, rfl, fun v hv => ?_, fun v hv _ hstop => ?_⟩
    · obtain ⟨hv, hpassed'⟩ := mem_outside.mp hv
      exact hmin v hv (hpassed'.resolve_right (hbehind.none rfl v hv))
    · exact absurd hstop (hbehind.none rfl v (mem_outside.mp hv).1)
  | none, some (m, q) =>
    obtain ⟨hq, hpassed, rfl, hmin⟩ := hbehind.some m q rfl
    refine .inr ⟨q, mem_outside.mpr ⟨hq, .inr hpassed⟩, rfl, fun v hv => ?_, fun _ _ _ _ => hpassed⟩
    obtain ⟨hv, hpassed'⟩ := mem_outside.mp hv
    exact hmin v hv (hpassed'.resolve_left (hbefore.none rfl v hv))
  | some (n, p), some (m, q) =>
    obtain ⟨hp, hpassedp, rfl, hminp⟩ := hbefore.some n p rfl
    obtain ⟨hq, hpassedq, rfl, hminq⟩ := hbehind.some m q rfl
    rw [closer]
    by_cases hlt : t.distanceTo p < t.distanceTo q
    · rw [if_pos hlt]
      refine .inr ⟨p, mem_outside.mpr ⟨hp, .inl hpassedp⟩, rfl, fun v hv => ?_, fun v hv heq hstop => ?_⟩
      · obtain ⟨hv, hpassed⟩ := mem_outside.mp hv
        exact hpassed.elim (hminp v hv) fun h => Nat.le_of_lt (Nat.lt_of_lt_of_le hlt (hminq v hv h))
      · have hle := hminq v (mem_outside.mp hv).1 hstop
        exact absurd hlt (Nat.not_lt.mpr (heq ▸ hle))
    · rw [if_neg hlt]
      refine .inr ⟨q, mem_outside.mpr ⟨hq, .inr hpassedq⟩, rfl, fun v hv => ?_, fun _ _ _ _ => hpassedq⟩
      obtain ⟨hv, hpassed⟩ := mem_outside.mp hv
      exact hpassed.elim (fun h => Nat.le_trans (Nat.not_lt.mp hlt) (hminp v hv h)) (hminq v hv)

section Walks

variable (h : f.Enumerates cx t.editor all) (hne : ∀ u ∈ all, ¬u.domain.isEmpty = true)
  (ht : t.document.Holds t.content)

lemma isAhead_iff_isPassed (hu : ¬u.domain.isEmpty = true) (direction : Direction) :
    ScopeFinder.isAhead direction (t.content.edge direction) u = true ↔ t.IsPassed direction u := by
  rw [ScopeFinder.isAhead_iff, or_iff_left]
  · cases direction with
    | forward => exact Iff.rfl
    | backward => exact Iff.rfl
  · intro hpoint
    rw [hpoint, Range.isEmpty_iff] at hu
    exact hu rfl

include h hne

lemma isFirst_head? (direction : Direction) : t.IsFirst direction all
    ((direction.order (all.filter (ScopeFinder.isAhead direction (t.content.edge direction)))).head?.map
      fun u => (t.gap direction u, u)) := by
  have hmem {v : Scope} : v ∈ direction.order
      (all.filter (ScopeFinder.isAhead direction (t.content.edge direction))) ↔
        v ∈ all ∧ t.IsPassed direction v := by
    rw [Direction.mem_order, List.mem_filter]
    exact and_congr_right fun hv => isAhead_iff_isPassed (hne v hv) direction
  have hpairs := (h.series.sublist (List.filter_sublist
    (p := ScopeFinder.isAhead direction (t.content.edge direction)))).pairwise_order direction
  generalize direction.order
    (all.filter (ScopeFinder.isAhead direction (t.content.edge direction))) = met at hmem hpairs ⊢
  cases met with
  | nil =>
    refine ⟨fun _ v hv hpassed => ?_, fun n u hfound => nomatch hfound⟩
    exact absurd (hmem.mpr ⟨hv, hpassed⟩) List.not_mem_nil
  | cons first rest =>
    refine ⟨fun hnone => (nomatch hnone), fun n u hfound => ?_⟩
    obtain ⟨rfl, rfl⟩ := Prod.mk.inj (Option.some.inj hfound)
    obtain ⟨hfirst, hpassed⟩ := hmem.mp List.mem_cons_self
    refine ⟨hfirst, hpassed, (distanceTo_eq_gap hpassed).symm, fun v hv hpassed' => ?_⟩
    rw [distanceTo_eq_gap hpassed, distanceTo_eq_gap hpassed']
    rcases List.mem_cons.mp (hmem.mpr ⟨hv, hpassed'⟩) with rfl | hrest
    · exact Nat.le_refl _
    · exact gap_le_gap ((List.pairwise_cons.mp hpairs).1 v hrest)

include ht

lemma isFirst_previousScope :
    ∃ found, t.previousScope cx f = .ok found ∧ t.IsFirst .backward all found := by
  refine ⟨_, ?_, isFirst_head? h hne .backward⟩
  rw [previousScope, ScopeFinder.walk_none h ht.1 .backward]
  rfl

lemma isFirst_nextScope : ∃ found, t.nextScope cx f = .ok found ∧ t.IsFirst .forward all found := by
  refine ⟨_, ?_, isFirst_head? h hne .forward⟩
  rw [nextScope, ScopeFinder.walk_none h ht.2 .forward]
  rfl

lemma findsNearest_nearestScope (hf : ScopeFinder.ofTarget s t = .ok f) :
    t.FindsNearest s (t.outside all) (t.nearestScope cx s) := by
  obtain ⟨previous, hprevious, hbefore⟩ := isFirst_previousScope h hne ht
  obtain ⟨next, hnext, hbehind⟩ := isFirst_nextScope h hne ht
  have hresult : t.nearestScope cx s =
      match closer previous next with
      | some found => .ok [found.oriented t.isReversed]
      | none => .error (.noContainingScope s.display) := by
    rw [nearestScope, hf]
    show (t.previousScope cx f >>= _) = _
    rw [hprevious]
    show (t.nextScope cx f >>= _) = _
    rw [hnext]
    rfl
  rw [hresult]
  exact findsNearest_closer hbefore hbehind

end Walks

lemma eq_of_oriented_eq {e : Editor} (hall : Scope.Series e all)
    (hne : ∀ u ∈ all, ¬u.domain.isEmpty = true) (hu : u ∈ all) (hv : v ∈ all) {b : Bool}
    (h : u.oriented b = v.oriented b) : u = v := by
  have hapart {a b : Scope} (ha : a ∈ all) (hb : b ∈ all) (hab : a.domain.Precedes b.domain) :
      a.target.content ≠ b.target.content := fun heq => by
    have hinside := (Range.containsRange_iff _ _).mp (hall.fits a ha).inside
    have hinside' := (Range.containsRange_iff _ _).mp (hall.fits b hb).inside
    have hlt := Range.start_lt_stop fun hempty => hne a ha ((hall.fits a ha).isEmpty hempty)
    have hle := Position.le_trans hinside.2 (Position.le_trans hab.stop_le hinside'.1)
    exact absurd (heq ▸ hle) (Position.not_le.mpr hlt)
  have hcontent : u.target.content = v.target.content := congrArg (fun w => w.content) h
  rcases hall.eq_or_precedes hu hv with heq | huv | hvu
  · exact heq
  · exact absurd hcontent (hapart hu hv huv)
  · exact absurd hcontent.symm (hapart hv hu hvu)

lemma findsNearest_iff {e : Editor} {result : Except TargetError (List Target)}
    (hall : Scope.Series e all) (hne : ∀ u ∈ all, ¬u.domain.isEmpty = true)
    (h : t.FindsNearest s (t.outside all) result) :
    t.FindsNearest s all result ↔ t.outside all = all ∨ ∃ u ∈ t.outside all, t.distanceTo u = 0 := by
  constructor
  · intro hnearest
    by_cases heq : t.outside all = all
    · exact .inl heq
    · obtain ⟨w, hw, hinside⟩ : ∃ w ∈ all, t.content.containsRange w.domain = true := by
        by_contra hnone
        refine heq (List.filter_eq_self.mpr fun w hw => ?_)
        rw [Bool.not_eq_true', ← Bool.not_eq_true]
        exact fun hinside => hnone ⟨w, hw, hinside⟩
      -- A scope inside the target is at no distance, so the one found must be as near.
      rcases hnearest with ⟨rfl, _⟩ | ⟨u, hu, hresult, hmin, _⟩
      · exact absurd hw List.not_mem_nil
      · have hzero : t.distanceTo u = 0 :=
          Nat.le_zero.mp (distanceTo_eq_zero hinside ▸ hmin w hw)
        rcases h with ⟨_, herror⟩ | ⟨v, hv, hresult', _⟩
        · rw [herror] at hresult
          cases hresult
        · have horiented := List.singleton_inj.mp (Except.ok.inj (hresult.symm.trans hresult'))
          obtain rfl := eq_of_oriented_eq hall hne hu (mem_outside.mp hv).1 horiented
          exact .inr ⟨u, hv, hzero⟩
  · rintro (heq | ⟨w, hw, hzero⟩)
    · rwa [heq] at h
    · rcases h with ⟨hnil, _⟩ | ⟨u, hu, hresult, hmin, htie⟩
      · exact absurd (hnil ▸ hw) List.not_mem_nil
      · refine .inr ⟨u, (mem_outside.mp hu).1, hresult, fun v _ => ?_, fun v hv heq hstop => ?_⟩
        · exact Nat.le_trans (hmin w hw) (hzero ▸ Nat.zero_le _)
        · exact htie v (mem_outside.mpr ⟨hv, .inr hstop⟩) heq hstop

lemma eq_invalidPattern {error : TargetError} (hs : s.IsFlat)
    (h : ScopeFinder.ofTarget s t = .error error) : ∃ pattern, error = .invalidPattern pattern := by
  have hpattern {s : ScopeType} {pattern : String}
      (h : ScopeFinder.ofPattern s pattern = .error error) : error = .invalidPattern pattern := by
    rw [ScopeFinder.ofPattern] at h
    split at h
    · cases h
    · exact (Except.error.inj h).symm
  cases s with
  | textual kind =>
    rw [ScopeFinder.ofTarget, ScopeFinder.ofScopeType] at h
    cases kind with
    | nonWhitespaceSequence =>
      rw [ScopeFinder.ofTextScope] at h
      exact ⟨_, hpattern h⟩
    | url =>
      rw [ScopeFinder.ofTextScope] at h
      exact ⟨_, hpattern h⟩
    | collectionItem => exact absurd rfl hs
    | _ => cases h
  | customRegex pattern =>
    rw [ScopeFinder.ofTarget, ScopeFinder.ofScopeType] at h
    exact ⟨_, hpattern h⟩
  | _ => exact hs.elim

/-- Where no scope contains a target, the preferred one is the nearest of those that do not lie inside it.
That is the nearest of all scopes if and only if none lies inside, or one outside touches the target. -/
theorem preferredScope_nearest {description : String} (hs : s.IsFlat) (hline : s ≠ .line)
    (hdocument : s ≠ .document) (ht : t.document.Holds t.content)
    (hnone : t.containingScope cx s = .error (.noContainingScope description)) :
    ∃ f all, ScopeFinder.ofTarget s t = .ok f ∧
      f.candidates cx t.editor t.document.range = .ok all ∧
      t.FindsNearest s (t.outside all) (t.preferredScope cx s) ∧
      (t.FindsNearest s all (t.preferredScope cx s) ↔
        t.outside all = all ∨ ∃ u ∈ t.outside all, t.distanceTo u = 0) := by
  have hpreferred : t.preferredScope cx s = t.nearestScope cx s := by rw [preferredScope, hnone]
  cases hf : ScopeFinder.ofTarget s t with
  | error error =>
    obtain ⟨pattern, rfl⟩ := eq_invalidPattern hs hf
    rw [containingScope, hf] at hnone
    cases hnone
  | ok f =>
    obtain ⟨all, hall⟩ := (ScopeFinder.isFlat_ofScopeType hs _ f hf).exists_enumerates cx t.editor
    have hne (u : Scope) (hu : u ∈ all) : ¬u.domain.isEmpty = true := fun hempty =>
      (ScopeFinder.eq_line_of_isEmpty hs hf hall.whole hu hempty).elim hline hdocument
    have hnearest := findsNearest_nearestScope hall hne ht hf
    rw [hpreferred]
    exact ⟨f, all, rfl, hall.whole, hnearest, findsNearest_iff hall.series hne hnearest⟩

def lacksContainingScope (s : ScopeType) : Except TargetError (List Target) → Bool
  | .error (.noContainingScope description) => description == s.display
  | _ => false

lemma eq_noContainingScope {result : Except TargetError (List Target)}
    (h : lacksContainingScope s result = true) : result = .error (.noContainingScope s.display) := by
  match result, h with
  | .error (.noContainingScope description), h => rw [beq_iff_eq.mp h]

theorem preferredScope_nearest_tie :
    let e : Editor := .ofDocument 1 (.ofText 1 "plaintext" "a\n\n\n\nb".toList)
    let t : Target := .untyped e (.onLine 2 0 0) false true
    let s : ScopeType := .textual .paragraph
    ∃ f all, ScopeFinder.ofTarget s t = .ok f ∧
      f.candidates {} t.editor t.document.range = .ok all ∧
      all.map Scope.domain = [.onLine 0 0 1, .onLine 4 0 1] ∧ all.map t.distanceTo = [2, 2] ∧
      t.FindsNearest s all (t.preferredScope {} s) := by
  intro e t s
  have hs : s.IsFlat := show TextScope.paragraph ≠ .collectionItem by decide
  have ht : t.document.Holds t.content := by decide +kernel
  have hnone : t.containingScope {} s = .error (.noContainingScope s.display) :=
    eq_noContainingScope (by decide +kernel)
  obtain ⟨f, all, hf, hall, _, hiff⟩ := preferredScope_nearest hs (by decide) (by decide) ht hnone
  obtain rfl : ScopeFinder.paragraphs = f := Except.ok.inj hf
  obtain rfl : Scope.paragraphs t.editor t.document.range = all := Except.ok.inj hall
  refine ⟨_, _, hf, hall, by decide +kernel, by decide +kernel, hiff.mpr (.inl ?_)⟩
  exact List.filter_eq_self.mpr (by decide +kernel)

theorem preferredScope_inside :
    let e : Editor := .ofDocument 1 (.ofText 1 "plaintext" "\na\n".toList)
    let t : Target := .untyped e (.between ⟨0, 0⟩ ⟨2, 0⟩) false true
    let s : ScopeType := .textual .paragraph
    ∃ all, ScopeFinder.paragraphs.candidates {} t.editor t.document.range = .ok all ∧
      all.map Scope.domain = [.onLine 1 0 1] ∧ t.document.Holds t.content ∧
      t.containingScope {} s = .error (.noContainingScope s.display) ∧
      t.preferredScope {} s = .error (.noContainingScope s.display) ∧
      ¬t.FindsNearest s all (t.preferredScope {} s) := by
  intro e t s
  have ht : t.document.Holds t.content := by decide +kernel
  have hnone : t.containingScope {} s = .error (.noContainingScope s.display) :=
    eq_noContainingScope (by decide +kernel)
  let all := Scope.paragraphs t.editor t.document.range
  have hdomains : all.map Scope.domain = [.onLine 1 0 1] := by decide +kernel
  have hseries : ScopeFinder.paragraphs.Enumerates {} t.editor all := by
    obtain ⟨all', hall'⟩ := ScopeFinder.IsFlat.exists_enumerates (f := .paragraphs) trivial {} t.editor
    obtain rfl : all = all' := Except.ok.inj hall'.whole
    exact hall'
  have hnearest := findsNearest_nearestScope (s := s) hseries (by decide +kernel) ht rfl
  have hpreferred : t.preferredScope {} s = .error (.noContainingScope s.display) := by
    rw [preferredScope, hnone]
    have hout : t.outside all = [] := List.filter_eq_nil_iff.mpr (by decide +kernel)
    rw [hout] at hnearest
    rcases hnearest with ⟨_, herror⟩ | ⟨_, hu, _⟩
    · exact herror
    · exact absurd hu List.not_mem_nil
  refine ⟨all, rfl, hdomains, ht, hnone, hpreferred, ?_⟩
  rw [hpreferred]
  rintro (⟨hnil, _⟩ | ⟨_, _, hresult, _⟩)
  · rw [hnil] at hdomains
    cases hdomains
  · cases hresult

end Target

end Referent
