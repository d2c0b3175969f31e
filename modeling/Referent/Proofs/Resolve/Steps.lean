import Referent.Proofs.Resolve.Outcome
import Referent.Proofs.Scope.Families
import Referent.Proofs.Scope.Walks

/-! Steps from a target to the scopes beyond it. Each step starts from what the one before gave, and yet
they lead through the scopes of the document one by one, without standing still or leaving one out. -/

namespace Referent

namespace Scope

variable {e : Editor} {u s : Scope} {t : Target} {direction : Direction}

def IsFurther (direction : Direction) (s u : Scope) : Prop :=
  match direction with
  | .forward => u.domain.start < s.domain.start
  | .backward => s.domain.stop < u.domain.stop

def LiesBeyond (direction : Direction) (t : Target) (s : Scope) : Prop :=
  match direction with
  | .forward => t.content.stop ≤ s.domain.start
  | .backward => s.domain.stop ≤ t.content.start

def isBeyondTarget (direction : Direction) (t : Target) (s : Scope) : Bool :=
  s.isBeyond direction (!t.content.isEmpty) (t.content.edge direction)

lemma isBeyondTarget_forward : s.isBeyondTarget .forward t = true ↔
    if t.content.isEmpty then t.content.stop < s.domain.start
    else t.content.stop ≤ s.domain.start := by
  rw [isBeyondTarget]
  cases t.content.isEmpty <;> exact decide_eq_true_iff

lemma isBeyondTarget_backward : s.isBeyondTarget .backward t = true ↔
    if t.content.isEmpty then s.domain.stop < t.content.start
    else s.domain.stop ≤ t.content.start := by
  rw [isBeyondTarget]
  cases t.content.isEmpty <;> exact decide_eq_true_iff

lemma liesBeyond_of_isBeyondTarget (h : s.isBeyondTarget direction t = true) :
    s.LiesBeyond direction t := by
  cases direction with
  | forward =>
    rw [isBeyondTarget_forward] at h
    split at h
    · exact Position.le_of_lt h
    · exact h
  | backward =>
    rw [isBeyondTarget_backward] at h
    split at h
    · exact Position.le_of_lt h
    · exact h

lemma Fits.isBeyondTarget_of_metBefore (hu : u.Fits e) (h : MetBefore direction u s) :
    s.isBeyondTarget direction u.target = true := by
  have hinside := (Range.containsRange_iff _ _).mp hu.inside
  cases direction with
  | forward =>
    rw [isBeyondTarget_forward]
    split
    · next hempty =>
      have hdomain := Range.isEmpty_iff.mp (hu.isEmpty hempty)
      have hlt := h.start_lt
      rw [hdomain] at hlt
      exact Position.lt_of_le_of_lt hinside.2 hlt
    · exact Position.le_trans hinside.2 h.stop_le
  | backward =>
    rw [isBeyondTarget_backward]
    split
    · next hempty =>
      have hdomain := Range.isEmpty_iff.mp (hu.isEmpty hempty)
      have hlt := h.stop_lt
      rw [← hdomain] at hlt
      exact Position.lt_of_lt_of_le hlt hinside.1
    · exact Position.le_trans h.stop_le hinside.1

lemma Fits.isFurther_of_isBeyondTarget (hu : u.Fits e)
    (h : s.isBeyondTarget direction u.target = true) : s.IsFurther direction u := by
  have hinside := (Range.containsRange_iff _ _).mp hu.inside
  have hcontent := u.target.content.start_le_stop
  cases direction with
  | forward =>
    rw [isBeyondTarget_forward] at h
    have hstart := Position.le_trans hinside.1 hcontent
    split at h
    · exact Position.lt_of_le_of_lt hstart h
    · next hempty =>
      have hlt := Range.start_lt_stop hempty
      exact Position.lt_of_lt_of_le (Position.lt_of_le_of_lt hinside.1 hlt) h
  | backward =>
    rw [isBeyondTarget_backward] at h
    have hstop := Position.le_trans hcontent hinside.2
    split at h
    · exact Position.lt_of_lt_of_le h hstop
    · next hempty =>
      have hlt := Range.start_lt_stop hempty
      exact Position.lt_of_le_of_lt h (Position.lt_of_lt_of_le hlt hinside.2)

lemma Fits.not_isBeyondTarget (hu : u.Fits e) (h : MetBefore direction s u ∨ s = u) :
    s.isBeyondTarget direction u.target = false := by
  refine Bool.eq_false_iff.mpr fun hbeyond => ?_
  have hlt := hu.isFurther_of_isBeyondTarget hbeyond
  rcases h with h | rfl
  · cases direction with
    | forward => exact Position.not_le.mpr hlt (Position.le_of_lt h.start_lt)
    | backward => exact Position.not_le.mpr hlt (Position.le_of_lt h.stop_lt)
  · cases direction with
    | forward => exact Position.not_le.mpr hlt (Position.le_refl _)
    | backward => exact Position.not_le.mpr hlt (Position.le_refl _)

lemma Fits.isBeyondTarget_trans (hu : u.Fits e) (h : u.isBeyondTarget direction t = true)
    (hs : s.isBeyondTarget direction u.target = true) : s.isBeyondTarget direction t = true := by
  have hlt := hu.isFurther_of_isBeyondTarget hs
  cases direction with
  | forward =>
    rw [isBeyondTarget_forward] at h ⊢
    split at h
    · exact (if_pos ‹_›).mpr (Position.lt_of_lt_of_le h (Position.le_of_lt hlt))
    · exact (if_neg ‹_›).mpr (Position.le_trans h (Position.le_of_lt hlt))
  | backward =>
    rw [isBeyondTarget_backward] at h ⊢
    split at h
    · exact (if_pos ‹_›).mpr (Position.lt_of_lt_of_le hlt (Position.le_of_lt h))
    · exact (if_neg ‹_›).mpr (Position.le_trans (Position.le_of_lt hlt) h)

lemma filter_isBeyondTarget (hu : u.Fits e) {front rest : List Scope}
    (h : (front ++ u :: rest).Pairwise (MetBefore direction)) :
    (front ++ u :: rest).filter (fun s => s.isBeyondTarget direction u.target) = rest := by
  have hself : u.isBeyondTarget direction u.target = false := hu.not_isBeyondTarget (.inr rfl)
  rw [filter_parted h (fun s hs => hu.not_isBeyondTarget (.inl hs))
    fun s hs => hu.isBeyondTarget_of_metBefore hs, hself]
  rfl

end Scope

namespace Target

variable {cx : Context} {t : Target} {f : ScopeFinder} {all : List Scope} {direction : Direction}

def scopesBeyond (direction : Direction) (all : List Scope) (t : Target) : List Scope :=
  (direction.order all).filter fun s => s.isBeyondTarget direction t

lemma walk_beyond (h : f.Enumerates cx t.editor all) (ht : t.document.Holds t.content)
    (direction : Direction) :
    f.walk cx t.editor (t.content.edge direction) direction
      (some (if t.content.isEmpty then .disallowed else .disallowedIfStrict)) =
        .ok (t.scopesBeyond direction all) := by
  have hedge : t.document.Has (t.content.edge direction) := by
    cases direction with
    | forward => exact ht.2
    | backward => exact ht.1
  have hcontainment : (if t.content.isEmpty then Containment.disallowed else .disallowedIfStrict) =
      ScopeFinder.containmentFor (!t.content.isEmpty) := by
    cases t.content.isEmpty <;> rfl
  rw [hcontainment, ScopeFinder.walk_eq h hedge, Direction.order_filter]
  rfl

lemma scopesBeyond_oriented {e : Editor} (h : Scope.Series e all) {i : Nat} {u : Scope}
    (hu : (t.scopesBeyond direction all)[i]? = some u) (b : Bool) :
    (u.oriented b).scopesBeyond direction all = (t.scopesBeyond direction all).drop (i + 1) := by
  let met := t.scopesBeyond direction all
  obtain ⟨hi, hget⟩ := List.getElem?_eq_some_iff.mp hu
  have hsplit : met = met.take i ++ u :: met.drop (i + 1) := by
    rw [← hget, ← List.drop_eq_getElem_cons hi, List.take_append_drop]
  obtain ⟨hmem, hbeyond⟩ := List.mem_filter.mp (List.mem_of_getElem? hu)
  have hfits := h.fits u (Direction.mem_order.mp hmem)
  have hfilter : (u.oriented b).scopesBeyond direction all =
      met.filter fun s => s.isBeyondTarget direction u.target := by
    refine Eq.trans ?_ List.filter_filter.symm
    refine List.filter_congr fun s _ => ?_
    show s.isBeyondTarget direction u.target = _
    cases hs : s.isBeyondTarget direction u.target with
    | true => rw [hfits.isBeyondTarget_trans hbeyond hs, Bool.and_true]
    | false => rw [Bool.false_and]
  have hpairwise : met.Pairwise (Scope.MetBefore direction) :=
    (h.pairwise_order direction).sublist List.filter_sublist
  rw [hsplit] at hpairwise
  rw [hfilter, hsplit]
  exact Scope.filter_isBeyondTarget hfits hpairwise

lemma scopesBeyondTarget_of_walk {l : List Scope}
    (hwalk : f.walk cx t.editor (t.content.edge direction) direction
      (some (if t.content.isEmpty then .disallowed else .disallowedIfStrict)) = .ok l)
    (offset length : Nat) : t.scopesBeyondTarget cx f offset length direction =
      let scopes := (l.drop (offset - 1)).take length
      if scopes.length < length || scopes.isEmpty then .error (.outOfRange f.scopeType.display)
      else .ok (direction.order scopes) := by
  rw [scopesBeyondTarget.eq_def]
  cases direction with
  | forward =>
    dsimp only [Range.edge] at hwalk ⊢
    rw [hwalk]
    rfl
  | backward =>
    dsimp only [Range.edge] at hwalk ⊢
    rw [hwalk]
    rfl

lemma scopesBeyondTarget_eq (h : f.Enumerates cx t.editor all) (ht : t.document.Holds t.content)
    (offset length : Nat) (direction : Direction) :
    t.scopesBeyondTarget cx f offset length direction =
      let scopes := ((t.scopesBeyond direction all).drop (offset - 1)).take length
      if scopes.length < length || scopes.isEmpty then .error (.outOfRange f.scopeType.display)
      else .ok (direction.order scopes) :=
  scopesBeyondTarget_of_walk (walk_beyond h ht direction) offset length

lemma relativeScope_eq {s : ScopeType} (hf : ScopeFinder.ofTarget s t = .ok f) (offset length : Nat)
    (direction : Direction) (isEvery : Bool) :
    t.relativeScope cx s offset length direction isEvery =
      (if offset = 0 then t.scopesFromTarget cx f length direction
        else t.scopesBeyondTarget cx f offset length direction).map fun scopes =>
          pick scopes isEvery t.isReversed := by
  rw [relativeScope, hf]
  cases offset with
  | zero =>
    show (t.scopesFromTarget cx f length direction >>= _) = _
    cases t.scopesFromTarget cx f length direction with
    | error error => rfl
    | ok scopes => rfl
  | succ i =>
    show (t.scopesBeyondTarget cx f (i + 1) length direction >>= _) = _
    cases t.scopesBeyondTarget cx f (i + 1) length direction with
    | error error => rfl
    | ok scopes => rfl

lemma length_scopesBeyondTarget (h : f.Enumerates cx t.editor all)
    (ht : t.document.Holds t.content) {offset length : Nat} {scopes : List Scope}
    (hscopes : t.scopesBeyondTarget cx f offset length direction = .ok scopes) :
    scopes.length = length ∧ ∀ u ∈ scopes, u ∈ all ∧ u.isBeyondTarget direction t = true := by
  rw [scopesBeyondTarget_eq h ht] at hscopes
  dsimp only at hscopes
  split at hscopes
  · cases hscopes
  · next hfound =>
    obtain rfl := Except.ok.inj hscopes
    simp only [Bool.or_eq_true, decide_eq_true_eq, not_or, Nat.not_lt] at hfound
    refine ⟨?_, fun u hu => ?_⟩
    · rw [Direction.length_order]
      exact Nat.le_antisymm (List.length_take_le _ _) hfound.1
    · have hmem := List.mem_of_mem_drop (List.mem_of_mem_take (Direction.mem_order.mp hu))
      obtain ⟨hmem, hbeyond⟩ := List.mem_filter.mp hmem
      exact ⟨Direction.mem_order.mp hmem, hbeyond⟩

lemma relativeScope_one {s : ScopeType} (hf : ScopeFinder.ofTarget s t = .ok f)
    (h : f.Enumerates cx t.editor all) (ht : t.document.Holds t.content) (i : Nat)
    (direction : Direction) (isEvery : Bool) :
    t.relativeScope cx s (i + 1) 1 direction isEvery =
      match (t.scopesBeyond direction all)[i]? with
      | some u => .ok [u.oriented t.isReversed]
      | none => .error (.outOfRange f.scopeType.display) := by
  have hscope : ((t.scopesBeyond direction all).drop i).take 1 =
      (t.scopesBeyond direction all)[i]?.toList := by
    rw [List.take_one, List.head?_drop]
  rw [relativeScope_eq hf, if_neg (Nat.succ_ne_zero i), scopesBeyondTarget_eq h ht, Nat.add_sub_cancel, hscope]
  cases (t.scopesBeyond direction all)[i]? with
  | none => rfl
  | some u => cases direction <;> cases isEvery <;> rfl

end Target

def ScopeType.IsFlat : ScopeType → Prop
  | textual kind => kind ≠ .collectionItem
  | customRegex _ => True
  | _ => False

namespace ScopeFinder

lemma isFlat_ofScopeType {s : ScopeType} (hs : s.IsFlat) (language : String) :
    Gives (ofScopeType language s) IsFlat := by
  cases s with
  | textual kind =>
    rw [ofScopeType]
    exact isFlat_ofTextScope hs
  | customRegex pattern =>
    rw [ofScopeType]
    exact isFlat_ofPattern _ pattern
  | _ => exact hs.elim

lemma scopeType_ofPattern (s : ScopeType) (pattern : String) :
    Gives (ofPattern s pattern) fun f => f.scopeType = s := by
  rw [ofPattern]
  split
  · exact .ok rfl
  · exact .error

lemma scopeType_ofTextScope (kind : TextScope) :
    Gives (ofTextScope kind) fun f => f.scopeType = .textual kind := by
  cases kind with
  | nonWhitespaceSequence =>
    rw [ofTextScope]
    exact scopeType_ofPattern _ _
  | url =>
    rw [ofTextScope]
    exact scopeType_ofPattern _ _
  | _ => exact .ok rfl

lemma scopeType_ofScopeType {s : ScopeType} (hs : s.IsFlat) (language : String) :
    Gives (ofScopeType language s) fun f => f.scopeType = s := by
  cases s with
  | textual kind =>
    rw [ofScopeType]
    exact scopeType_ofTextScope kind
  | customRegex pattern =>
    rw [ofScopeType]
    exact scopeType_ofPattern _ pattern
  | _ => exact hs.elim

end ScopeFinder

namespace Modifier

open Resolving

variable {cx : Context} {t : Target} {s : ScopeType}

lemma outcome_relativeScope (hs : s.IsFlat) (offset length : Nat) (direction : Direction)
    (isEvery : Bool) (a : Arena) :
    ((relativeScope s offset length direction isEvery).run cx t).outcome a =
      (t.relativeScope cx s offset length direction isEvery, a) := by
  have hoccurrence : s ≠ .occurrence := by
    rintro rfl
    exact hs
  rw [run, if_neg hoccurrence, outcome_lift]

lemma runAll_pair (cx : Context) (m m' : Modifier) (t : Target) :
    runAll cx [m, m'] [t] = m'.run cx t >>= forEach fun u => m.run cx u := by
  simp [runAll, forEach]

lemma runAll_pair_of_ok {m m' : Modifier} {u : Target} {a a' : Arena}
    (h : (m'.run cx t).outcome a = (.ok [u], a')) :
    (runAll cx [m, m'] [t]).outcome a = (m.run cx u).outcome a' := by
  rw [runAll_pair, outcome_bind_ok _ h]
  simp [forEach]

section Series

variable {f : ScopeFinder} {all : List Scope} {u : Scope}

lemma ofTarget_oriented (hf : ScopeFinder.ofTarget s t = .ok f) (h : f.Enumerates cx t.editor all)
    (hu : u ∈ all) (b : Bool) :
    ScopeFinder.ofTarget s (u.oriented b) = .ok f ∧ f.Enumerates cx (u.oriented b).editor all ∧
      (u.oriented b).document.Holds (u.oriented b).content := by
  have hfits := h.series.fits u hu
  have heditor : (u.oriented b).editor = t.editor := hfits.made.editor_eq
  have hdocument : (u.oriented b).document = t.document := congrArg Editor.document heditor
  refine ⟨?_, heditor ▸ h, ?_⟩
  · rw [ScopeFinder.ofTarget, hdocument]
    exact hf
  · rw [hdocument]
    exact Scope.holds_of_made hfits.made

lemma outcome_step (hs : s.IsFlat) (hf : ScopeFinder.ofTarget s t = .ok f)
    (h : f.Enumerates cx t.editor all) (ht : t.document.Holds t.content) (i : Nat)
    (direction : Direction) (isEvery : Bool) (a : Arena) :
    (runAll cx [relativeScope s 1 1 direction isEvery, relativeScope s (i + 1) 1 direction isEvery]
      [t]).outcome a = ((relativeScope s (i + 2) 1 direction isEvery).run cx t).outcome a := by
  rw [outcome_relativeScope hs, Target.relativeScope_one hf h ht]
  cases hu : (t.scopesBeyond direction all)[i]? with
  | none =>
    have hnext : (t.scopesBeyond direction all)[i + 1]? = none :=
      List.getElem?_eq_none (Nat.le_succ_of_le (List.getElem?_eq_none_iff.mp hu))
    have hfirst : ((relativeScope s (i + 1) 1 direction isEvery).run cx t).outcome a =
        (.error (.outOfRange f.scopeType.display), a) := by
      rw [outcome_relativeScope hs, Target.relativeScope_one hf h ht, hu]
    rw [runAll_pair, outcome_bind_error _ hfirst, hnext]
  | some u =>
    have hfirst : ((relativeScope s (i + 1) 1 direction isEvery).run cx t).outcome a =
        (.ok [u.oriented t.isReversed], a) := by
      rw [outcome_relativeScope hs, Target.relativeScope_one hf h ht, hu]
    have hmem : u ∈ all :=
      Direction.mem_order.mp (List.mem_filter.mp (List.mem_of_getElem? hu)).1
    obtain ⟨hf', h', ht'⟩ := ofTarget_oriented hf h hmem t.isReversed
    have hbeyond := Target.scopesBeyond_oriented h.series hu t.isReversed
    rw [runAll_pair_of_ok hfirst, outcome_relativeScope hs, Target.relativeScope_one hf' h' ht' 0,
      hbeyond, List.getElem?_drop]
    rfl

lemma outcome_next (hs : s.IsFlat) (hf : ScopeFinder.ofTarget s u.target = .ok f)
    (h : f.Enumerates cx u.target.editor all) {direction : Direction} {front rest : List Scope}
    {next : Scope} (hall : direction.order all = front ++ u :: next :: rest) (isEvery : Bool)
    (a : Arena) : ((relativeScope s 1 1 direction isEvery).run cx u.target).outcome a =
      (.ok [next.target], a) := by
  have hmem (v : Scope) (hv : v ∈ front ++ u :: next :: rest) : v.Fits u.target.editor :=
    h.series.fits v (Direction.mem_order.mp (hall ▸ hv))
  have hu := hmem u (by simp)
  have hnext := hmem next (by simp)
  have hpairwise := h.series.pairwise_order direction
  rw [hall] at hpairwise
  have hbeyond : u.target.scopesBeyond direction all = next :: rest := by
    rw [Target.scopesBeyond, hall, Scope.filter_isBeyondTarget hu hpairwise]
  rw [outcome_relativeScope hs, Target.relativeScope_one hf h (Scope.holds_of_made hu.made) 0, hbeyond,
    hu.unreversed, ← hnext.oriented_false]
  rfl

end Series

/-- Steps to the scopes beyond a target are a walk. A step on after some others leads as far as one more
of them at once, and fails where that fails. All that is given lies beyond the target. A step back takes
back a step on from a scope. -/
theorem relativeScope_steps (hs : s.IsFlat) (ht : t.document.Holds t.content) (isEvery : Bool) :
    (∀ direction offset a, 1 ≤ offset →
      (runAll cx [relativeScope s 1 1 direction isEvery, relativeScope s offset 1 direction isEvery]
        [t]).outcome a = ((relativeScope s (offset + 1) 1 direction isEvery).run cx t).outcome a) ∧
    (∀ direction offset length targets a a', 1 ≤ offset →
      ((relativeScope s offset length direction isEvery).run cx t).outcome a = (.ok targets, a') →
      ∃ f all scopes, ScopeFinder.ofTarget s t = .ok f ∧
        f.candidates cx t.editor t.document.range = .ok all ∧
        targets = Target.pick scopes isEvery t.isReversed ∧ scopes.length = length ∧
        ∀ u ∈ scopes, u ∈ all ∧ u.LiesBeyond direction t) ∧
    (∀ f all u next a, ScopeFinder.ofTarget s t = .ok f →
      f.candidates cx t.editor t.document.range = .ok all → t = u.target → [u, next] <:+: all →
      ((relativeScope s 1 1 .forward isEvery).run cx t).outcome a = (.ok [next.target], a) ∧
        (runAll cx [relativeScope s 1 1 .backward isEvery, relativeScope s 1 1 .forward isEvery]
          [t]).outcome a = (.ok [t], a)) := by
  have henumerates {f : ScopeFinder} (hf : ScopeFinder.ofTarget s t = .ok f) :
      ∃ all, f.Enumerates cx t.editor all :=
    (ScopeFinder.isFlat_ofScopeType hs _ f hf).exists_enumerates cx t.editor
  refine ⟨fun direction offset a hoffset => ?_, ?_, ?_⟩
  · obtain ⟨i, rfl⟩ : ∃ i, offset = i + 1 := ⟨offset - 1, by omega⟩
    cases hf : ScopeFinder.ofTarget s t with
    | error error =>
      have hfails (offset : Nat) :
          ((relativeScope s offset 1 direction isEvery).run cx t).outcome a = (.error error, a) := by
        rw [outcome_relativeScope hs, Target.relativeScope, hf]
        rfl
      rw [runAll_pair, outcome_bind_error _ (hfails _), hfails]
    | ok f =>
      obtain ⟨all, h⟩ := henumerates hf
      exact outcome_step hs hf h ht i direction isEvery a
  · intro direction offset length targets a a' hoffset hrun
    obtain ⟨i, rfl⟩ : ∃ i, offset = i + 1 := ⟨offset - 1, by omega⟩
    rw [outcome_relativeScope hs] at hrun
    have htargets : t.relativeScope cx s (i + 1) length direction isEvery = .ok targets :=
      congrArg Prod.fst hrun
    cases hf : ScopeFinder.ofTarget s t with
    | error error =>
      rw [Target.relativeScope, hf] at htargets
      cases htargets
    | ok f =>
      obtain ⟨all, h⟩ := henumerates hf
      rw [Target.relativeScope_eq hf, if_neg (Nat.succ_ne_zero i)] at htargets
      obtain ⟨scopes, hscopes, rfl⟩ := map_eq_ok.mp htargets
      obtain ⟨hlength, hbeyond⟩ := Target.length_scopesBeyondTarget h ht hscopes
      refine ⟨f, all, scopes, rfl, h.whole, rfl, hlength, fun u hu => ?_⟩
      exact ⟨(hbeyond u hu).1, Scope.liesBeyond_of_isBeyondTarget (hbeyond u hu).2⟩
  · rintro f all u next a hf hall rfl ⟨before, behind, hsplit⟩
    obtain ⟨all', h⟩ := henumerates hf
    obtain rfl : all = all' := Except.ok.inj (hall.symm.trans h.whole)
    have hforward : Direction.forward.order all = before ++ u :: next :: behind := by
      simp [Direction.order, ← hsplit]
    have hbackward : Direction.backward.order all =
        behind.reverse ++ next :: u :: before.reverse := by
      simp [Direction.order, ← hsplit]
    have hnext := (h.series.fits next (by simp [← hsplit]))
    obtain ⟨hf', h', _⟩ := ofTarget_oriented hf h (show next ∈ all by simp [← hsplit]) false
    rw [hnext.oriented_false] at hf' h'
    have hstep := outcome_next hs hf h hforward isEvery a
    exact ⟨hstep, (runAll_pair_of_ok hstep).trans (outcome_next hs hf' h' hbackward isEvery a)⟩

theorem relativeScope_steps_blankLine :
    let e : Editor := .ofDocument 1 (.ofText 1 "plaintext" "a\n\nb".toList)
    let on := relativeScope .line 1 1 .forward true
    let t := (Scope.lineScope e 0).target
    let blank := (Scope.lineScope e 1).target
    blank.content = .onLine 1 0 0 ∧
      (on.run {} t).outcome .empty = (.ok [blank], .empty) ∧
      (runAll {} [relativeScope .line 1 1 .backward true, on] [t]).outcome .empty =
        (.ok [t], .empty) ∧
      (runAll {} [on, on] [t]).outcome .empty =
        ((relativeScope .line 2 1 .forward true).run {} t).outcome .empty := by
  intro e on t blank
  have hs : ScopeType.line.IsFlat := show TextScope.line ≠ .collectionItem by decide
  obtain ⟨hstep, -, hnext⟩ := @relativeScope_steps {} t .line hs (by decide +kernel) true
  have hneighbours := hnext .lines (Scope.lines e e.document.range) (Scope.lineScope e 0)
    (Scope.lineScope e 1) .empty rfl rfl rfl ⟨[], [Scope.lineScope e 2], rfl⟩
  exact ⟨by decide +kernel, hneighbours.1, hneighbours.2, hstep .forward 1 .empty (by decide)⟩

end Modifier

end Referent
