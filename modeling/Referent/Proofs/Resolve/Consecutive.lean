import Referent.Proofs.Resolve.Steps

/-! Scopes from a target on. The first ones are those at the target, and the further ones are found from
the last of them. They follow each other unless that one is empty: it is found a second time then. -/

namespace Referent

section Lists

variable {α : Type} {R : α → α → Prop} {p : α → Bool} {l : List α}

lemma filter_suffix (hl : l.Pairwise R) (hp : ∀ a b, R a b → p a = true → p b = true) :
    l.filter p <:+ l := by
  induction l with
  | nil => exact List.suffix_refl []
  | cons a rest ih =>
    obtain ⟨ha, hrest⟩ := List.pairwise_cons.mp hl
    by_cases hpa : p a = true
    · have hall : (a :: rest).filter p = a :: rest := by
        refine List.filter_eq_self.mpr fun b hb => ?_
        rcases List.mem_cons.mp hb with rfl | hb
        · exact hpa
        · exact hp a b (ha b hb) hpa
      exact ⟨[], hall⟩
    · rw [List.filter_cons_of_neg hpa]
      exact (ih hrest).trans (List.suffix_cons a rest)

lemma filter_prefix (hl : l.Pairwise R) (hp : ∀ a b, R a b → p b = true → p a = true) :
    l.filter p <+: l := by
  induction l with
  | nil => exact List.prefix_refl []
  | cons a rest ih =>
    obtain ⟨ha, hrest⟩ := List.pairwise_cons.mp hl
    by_cases hpa : p a = true
    · rw [List.filter_cons_of_pos hpa]
      exact (List.prefix_cons_inj a).mpr (ih hrest)
    · have hnone : (a :: rest).filter p = [] := by
        refine List.filter_eq_nil_iff.mpr fun b hb hpb => hpa ?_
        rcases List.mem_cons.mp hb with rfl | hb
        · exact hpb
        · exact hp a b (ha b hb) hpb
      rw [hnone]
      exact List.nil_prefix

end Lists

namespace Scope

variable {e : Editor} {u s : Scope} {r : Range} {direction : Direction} {all : List Scope}

lemma overlaps_iff (hr : ¬r.isEmpty = true) :
    s.overlaps r = true ↔ r.start < s.domain.stop ∧ s.domain.start < r.stop := by
  have hlt := Range.start_lt_stop hr
  rw [overlaps, Bool.or_eq_true, Range.overlaps_iff, Bool.and_eq_true, Range.strictlyContains,
    Bool.and_eq_true, decide_eq_true_eq, decide_eq_true_eq]
  by_cases hempty : s.domain.isEmpty = true
  · have hstop := Range.isEmpty_iff.mp hempty
    constructor
    · rintro (⟨⟨_, hbefore⟩, hbehind, _⟩ | ⟨_, hbehind, hbefore⟩)
      · exact ⟨hbehind, hbefore⟩
      · exact ⟨hstop ▸ hbehind, hbefore⟩
    · rintro ⟨hbehind, hbefore⟩
      exact .inr ⟨hempty, hstop ▸ hbehind, hbefore⟩
  · constructor
    · rintro (⟨⟨_, hbefore⟩, hbehind, _⟩ | ⟨h, _⟩)
      · exact ⟨hbehind, hbefore⟩
      · exact absurd h hempty
    · rintro ⟨hbehind, hbefore⟩
      exact .inl ⟨⟨Range.start_lt_stop hempty, hbefore⟩, hbehind, hlt⟩

lemma touches_of_overlaps (hr : ¬r.isEmpty = true) (h : s.overlaps r = true) :
    s.domain.touches r = true := by
  obtain ⟨hbehind, hbefore⟩ := (overlaps_iff hr).mp h
  exact Range.touches_iff.mpr ⟨Position.le_of_lt hbefore, Position.le_of_lt hbehind⟩

lemma Series.infix_overlapping (h : Series e all) (hr : ¬r.isEmpty = true) :
    all.filter (fun s => s.overlaps r) <:+: all := by
  let endsBehind (s : Scope) : Bool := r.start < s.domain.stop
  let beginsBefore (s : Scope) : Bool := s.domain.start < r.stop
  have hsplit : all.filter (fun s => s.overlaps r) = (all.filter endsBehind).filter beginsBefore := by
    rw [List.filter_filter]
    refine List.filter_congr fun s _ => ?_
    rw [Bool.eq_iff_iff, overlaps_iff hr, Bool.and_eq_true, and_comm, decide_eq_true_eq,
      decide_eq_true_eq]
  have hbehind : all.filter endsBehind <:+ all := filter_suffix h.precedes fun a b hab ha =>
    decide_eq_true (Position.lt_of_lt_of_le (of_decide_eq_true ha) (Position.le_of_lt hab.stop_lt))
  have hfront : (all.filter endsBehind).filter beginsBefore <+: all.filter endsBehind :=
    filter_prefix (h.precedes.sublist List.filter_sublist) fun a b hab hb =>
      decide_eq_true (Position.lt_of_le_of_lt (Position.le_of_lt hab.start_lt) (of_decide_eq_true hb))
  rw [hsplit]
  exact hfront.isInfix.trans hbehind.isInfix

lemma filter_isBeyond_edge {front rest : List Scope}
    (h : (front ++ u :: rest).Pairwise (MetBefore direction)) :
    (front ++ u :: rest).filter (isBeyond direction true (u.domain.edge direction)) =
      if u.domain.isEmpty then u :: rest else rest := by
  have hself : u.isBeyond direction true (u.domain.edge direction) = u.domain.isEmpty := by
    have hdecide : u.isBeyond direction true (u.domain.edge direction) =
        decide (u.domain.stop ≤ u.domain.start) := by cases direction <;> rfl
    rw [hdecide, Bool.eq_iff_iff, decide_eq_true_eq, Range.isEmpty_iff]
    exact ⟨Position.le_antisymm u.domain.start_le_stop, fun heq => heq ▸ Position.le_refl _⟩
  have hbefore (s : Scope) (hs : MetBefore direction s u) :
      s.isBeyond direction true (u.domain.edge direction) = false := by
    have hle := u.domain.start_le_stop
    refine Bool.eq_false_iff.mpr fun hbeyond => ?_
    cases direction with
    | forward =>
      exact Position.not_le.mpr hs.start_lt (Position.le_trans hle (of_decide_eq_true hbeyond))
    | backward =>
      exact Position.not_le.mpr hs.stop_lt (Position.le_trans (of_decide_eq_true hbeyond) hle)
  have hbehind (s : Scope) (hs : MetBefore direction u s) :
      s.isBeyond direction true (u.domain.edge direction) = true := by
    cases direction with
    | forward => exact decide_eq_true hs.stop_le
    | backward => exact decide_eq_true hs.stop_le
  rw [filter_parted h hbefore hbehind, hself]

end Scope

namespace Target

variable {cx : Context} {t : Target} {f : ScopeFinder} {all : List Scope} {direction : Direction}

/-- Whether some scopes are those at a target: all that overlap it or, if it is empty, one that contains
its position. -/
def StartsAt (t : Target) (all starting : List Scope) : Prop :=
  if t.content.isEmpty then ∃ u ∈ all, u.domain.contains t.content.start = true ∧ starting = [u]
  else starting = all.filter fun s => s.overlaps t.content

/-- How scopes go on from those at a target: with those that follow, but first with the last one of them
once more, if it is empty and further ones are wanted. -/
structure GoesOn (t : Target) (direction : Direction) (all starting : List Scope) (edge : Scope)
    (scopes : List Scope) : Prop where
  startsAt : t.StartsAt all starting
  getLast? : (direction.order starting).getLast? = some edge
  more : ∃ more, direction.order starting ++ more <:+: direction.order all ∧
    direction.order scopes = direction.order starting ++
      if starting.length < scopes.length ∧ edge.domain.isEmpty = true then edge :: more else more

lemma StartsAt.isInfix {e : Editor} (hall : Scope.Series e all) {starting : List Scope}
    (h : t.StartsAt all starting) : starting <:+: all := by
  rw [StartsAt] at h
  split at h
  · obtain ⟨u, hu, _, rfl⟩ := h
    obtain ⟨before, behind, rfl⟩ := List.append_of_mem hu
    exact ⟨before, behind, by simp⟩
  · rw [h]
    exact hall.infix_overlapping ‹_›

lemma scopesIntersecting_eq (h : f.Enumerates cx t.editor all) (ht : t.document.Holds t.content)
    (hempty : ¬t.content.isEmpty = true) :
    t.scopesIntersecting cx f = .ok (all.filter fun s => s.overlaps t.content) := by
  have hoverlapping : (Scope.touching t.content all).filter (fun s => s.overlaps t.content) =
      all.filter fun s => s.overlaps t.content := by
    rw [Scope.touching, List.filter_filter]
    refine List.filter_congr fun s _ => ?_
    cases hs : s.overlaps t.content with
    | true => rw [Scope.touches_of_overlaps hempty hs, Bool.and_true]
    | false => rw [Bool.false_and]
  rw [scopesIntersecting, ScopeFinder.scopesOverlapping, h.part _ ht, ← hoverlapping]
  show (if !f.isHierarchical then _ else _) = _
  rw [h.isHierarchical]
  rfl

lemma startsAt_scopeAtCursor (h : f.Enumerates cx t.editor all) (ht : t.document.Holds t.content)
    {starting : List Scope} (hstarting : t.scopeAtCursor cx f direction = .ok starting) :
    ∀ u ∈ starting, u ∈ all ∧ u.domain.contains t.content.start = true ∧ starting = [u] := by
  have hany (direction : Direction) := ScopeFinder.mem_walk_required h ht.1 direction
  obtain ⟨found, hfound, hmem⟩ := hany direction
  obtain ⟨other, hother, hmem'⟩ := hany direction.opposite
  rw [scopeAtCursor] at hstarting
  obtain ⟨scopes, hscopes, hstarting⟩ := bind_eq_ok.mp hstarting
  obtain rfl : found = scopes := Except.ok.inj (hfound.symm.trans hscopes)
  have hhead {l : List Scope} (hl : ∀ u ∈ l, u ∈ all ∧ u.domain.contains t.content.start = true) :
      ∀ u ∈ l.head?.toList, u ∈ all ∧ u.domain.contains t.content.start = true ∧
        l.head?.toList = [u] := by
    intro u hu
    cases l with
    | nil => cases hu
    | cons v rest =>
      obtain rfl := List.mem_singleton.mp hu
      exact ⟨(hl u List.mem_cons_self).1, (hl u List.mem_cons_self).2, rfl⟩
  cases found with
  | cons v rest =>
    obtain rfl : [v] = starting := Except.ok.inj hstarting
    exact hhead hmem
  | nil =>
    obtain ⟨scopes, hscopes, hstarting⟩ := bind_eq_ok.mp hstarting
    obtain rfl : other = scopes := Except.ok.inj (hother.symm.trans hscopes)
    obtain rfl : other.head?.toList = starting := Except.ok.inj hstarting
    exact hhead hmem'

lemma extend_eq (h : f.Enumerates cx t.editor all) {first u : Scope} {rest init : List Scope}
    (hu : u ∈ all) (hstarting : direction.order (first :: rest) = init ++ [u]) (missing : Nat) :
    t.extend cx f missing direction first rest =
      let further := (direction.order all).filter
        (Scope.isBeyond direction true (u.domain.edge direction))
      if further.length < missing then .error (.outOfRange f.scopeType.display)
      else .ok (direction.order (direction.order (first :: rest) ++ further.take missing)) := by
  have hedge : t.editor.document.Has (u.domain.edge direction) := by
    have hholds := (h.series.fits u hu).holds
    cases direction with
    | forward => exact hholds.2
    | backward => exact hholds.1
  have hwalk := ScopeFinder.walk_eq h hedge direction true
  rw [Direction.order_filter] at hwalk
  rw [extend.eq_def]
  cases direction with
  | forward =>
    have hlast : rest.getLastD first = u := by
      have heq := congrArg List.getLast? hstarting
      simpa [Direction.order, List.getLast?_cons, List.getLastD_eq_getLast?] using heq
    dsimp only [Range.edge] at hwalk ⊢
    rw [hlast, show Containment.disallowedIfStrict = ScopeFinder.containmentFor true from rfl, hwalk]
    rfl
  | backward =>
    have hfirst : first = u := by
      have heq := congrArg List.head? (congrArg List.reverse hstarting)
      simpa [Direction.order] using heq
    dsimp only [Range.edge] at hwalk ⊢
    rw [hfirst, show Containment.disallowedIfStrict = ScopeFinder.containmentFor true from rfl, hwalk]
    simp only [Direction.order, List.reverse_append, List.reverse_reverse]
    rfl

lemma goesOn_extend (h : f.Enumerates cx t.editor all) {first : Scope} {rest scopes : List Scope}
    {missing : Nat} (hmissing : 0 < missing) (hstarting : t.StartsAt all (first :: rest))
    (hscopes : t.extend cx f missing direction first rest = .ok scopes) :
    scopes.length = (first :: rest).length + missing ∧
      ∃ edge, t.GoesOn direction all (first :: rest) edge scopes := by
  obtain ⟨init, edge, hedge⟩ := direction.exists_order_eq (List.cons_ne_nil first rest)
  have hwithin : direction.order (first :: rest) <:+: direction.order all :=
    Direction.order_infix.mpr (hstarting.isInfix h.series)
  obtain ⟨front, behind, hall⟩ := hwithin
  rw [hedge] at hall
  have hall : direction.order all = (front ++ init) ++ edge :: behind := by
    rw [← hall]
    simp
  have hmem : edge ∈ direction.order all := by simp [hall]
  have hmem := Direction.mem_order.mp hmem
  have hpairwise := h.series.pairwise_order direction
  rw [hall] at hpairwise
  rw [extend_eq h hmem hedge, hall, Scope.filter_isBeyond_edge hpairwise] at hscopes
  generalize hfurther : (if edge.domain.isEmpty then edge :: behind else behind) = further at hscopes
  dsimp only at hscopes
  split at hscopes
  · cases hscopes
  · next hfound =>
    obtain rfl := Except.ok.inj hscopes
    have hlength : (direction.order (direction.order (first :: rest) ++ further.take missing)).length =
        (first :: rest).length + missing := by
      rw [Direction.length_order, List.length_append, Direction.length_order, List.length_take,
        Nat.min_eq_left (Nat.not_lt.mp hfound)]
    have hmore (k : Nat) :
        direction.order (first :: rest) ++ behind.take k <:+: direction.order all :=
      ⟨front, behind.drop k, by simp [hall, hedge]⟩
    have hlt : (first :: rest).length < (first :: rest).length + missing := by omega
    refine ⟨hlength, edge, hstarting, by simp [hedge], ?_⟩
    rw [hlength, Direction.order_order, ← hfurther]
    cases edge.domain.isEmpty with
    | true =>
      obtain ⟨k, rfl⟩ : ∃ k, missing = k + 1 := ⟨missing - 1, by omega⟩
      exact ⟨_, hmore k, by rw [if_pos rfl, if_pos ⟨hlt, rfl⟩, List.take_succ_cons]⟩
    | false => exact ⟨_, hmore missing, by rw [if_neg (by simp), if_neg (by simp)]⟩

lemma goesOn_scopesFromTarget (h : f.Enumerates cx t.editor all) (ht : t.document.Holds t.content)
    {length : Nat} {scopes : List Scope}
    (hscopes : t.scopesFromTarget cx f length direction = .ok scopes) :
    scopes.length = length ∧ ∃ starting edge, t.GoesOn direction all starting edge scopes := by
  rw [scopesFromTarget] at hscopes
  obtain ⟨found, hfound, hscopes⟩ := ite_bind_eq_ok.mp hscopes
  have hstarting : found ≠ [] → t.StartsAt all found := by
    intro hne
    rw [StartsAt]
    split at hfound
    · next hempty =>
      obtain ⟨u, hu⟩ := List.exists_mem_of_ne_nil found hne
      rw [if_pos hempty]
      exact ⟨u, startsAt_scopeAtCursor h ht hfound u hu⟩
    · next hempty =>
      rw [if_neg hempty]
      rw [scopesIntersecting_eq h ht hempty] at hfound
      exact (Except.ok.inj hfound).symm
  cases found with
  | nil => cases hscopes
  | cons first rest =>
    have hstarting := hstarting (List.cons_ne_nil first rest)
    dsimp only at hscopes
    split at hscopes
    · cases hscopes
    · split at hscopes
      · next hlt =>
        obtain ⟨hlength, edge, hgoesOn⟩ := goesOn_extend h (Nat.sub_pos_of_lt hlt) hstarting hscopes
        exact ⟨by omega, _, edge, hgoesOn⟩
      · next hmany hfew =>
        have hlength : (first :: rest).length = length := by omega
        obtain rfl := Except.ok.inj hscopes
        obtain ⟨init, edge, hedge⟩ := direction.exists_order_eq (List.cons_ne_nil first rest)
        refine ⟨hlength, _, edge, hstarting, by simp [hedge], [], ?_, ?_⟩
        · rw [List.append_nil]
          exact Direction.order_infix.mpr (hstarting.isInfix h.series)
        · rw [if_neg (fun hlt => Nat.lt_irrefl _ hlt.1)]
          exact (List.append_nil _).symm

namespace GoesOn

variable {e : Editor} {starting scopes : List Scope} {edge : Scope}

lemma subset (h : t.GoesOn direction all starting edge scopes) : starting ⊆ scopes := by
  obtain ⟨more, _, heq⟩ := h.more
  intro u hu
  have hmem : u ∈ direction.order scopes := by
    rw [heq]
    exact List.mem_append_left _ (Direction.mem_order.mpr hu)
  exact Direction.mem_order.mp hmem

lemma edge_mem (h : t.GoesOn direction all starting edge scopes) : edge ∈ all := by
  obtain ⟨more, hmore, _⟩ := h.more
  have hmem : edge ∈ direction.order starting := List.mem_of_getLast? h.getLast?
  exact Direction.mem_order.mp (hmore.subset (List.mem_append_left more hmem))

lemma exists_repeated (h : t.GoesOn direction all starting edge scopes)
    (hagain : starting.length < scopes.length ∧ edge.domain.isEmpty = true) :
    ∃ init more, direction.order scopes = init ++ edge :: edge :: more := by
  obtain ⟨more, _, heq⟩ := h.more
  obtain ⟨init, hinit⟩ := List.getLast?_eq_some_iff.mp h.getLast?
  rw [if_pos hagain, hinit] at heq
  exact ⟨init, more, by simp [heq]⟩

lemma consecutive_iff (h : t.GoesOn direction all starting edge scopes) (hall : Scope.Series e all) :
    (scopes <:+: all ∧ Scope.Distinct scopes) ↔
      ¬(starting.length < scopes.length ∧ edge.domain.isEmpty = true) := by
  constructor
  · rintro ⟨_, hdistinct⟩ hagain
    obtain ⟨init, more, heq⟩ := h.exists_repeated hagain
    have hdistinct : Scope.Distinct (direction.order scopes) := by
      cases direction with
      | forward => exact hdistinct
      | backward => exact List.pairwise_reverse.mpr (hdistinct.imp Ne.symm)
    rw [heq] at hdistinct
    have hedge := (List.pairwise_cons.mp (List.pairwise_append.mp hdistinct).2.1).1
    exact hedge edge List.mem_cons_self rfl
  · intro hagain
    obtain ⟨more, hmore, heq⟩ := h.more
    rw [if_neg hagain] at heq
    have hwithin : scopes <:+: all := Direction.order_infix.mp (heq ▸ hmore)
    refine ⟨hwithin, (hall.sublist hwithin.sublist).precedes.imp fun hab hdomain => ?_⟩
    exact Position.not_le.mpr hab.start_lt (hdomain ▸ Position.le_refl _)

end GoesOn

end Target

namespace ScopeFinder

variable {f : ScopeFinder} {s : ScopeType}

lemma eq_line_of_isEmpty (hs : s.IsFlat) {cx : Context} {t : Target} {all : List Scope}
    (hf : ofTarget s t = .ok f) (hall : f.candidates cx t.editor t.document.range = .ok all) {u : Scope}
    (hu : u ∈ all) (h : u.domain.isEmpty = true) : s = .line ∨ s = .document := by
  have htype : f.scopeType = s := scopeType_ofScopeType hs _ f hf
  rcases (isFlat_ofScopeType hs _ f hf).eq_of_isEmpty hall hu h with rfl | rfl
  · exact .inl htype.symm
  · exact .inr htype.symm

end ScopeFinder

namespace Modifier

open Resolving

variable {cx : Context} {t : Target} {s : ScopeType}

/-- Scopes from a target on are as many as wanted, and those at the target are among them. They are
distinct and follow each other in the document if and only if there is no need for further ones, or the
scope from which these are looked for is not empty. Only lines and documents can be. -/
theorem relativeScope_fromTarget (hs : s.IsFlat) (ht : t.document.Holds t.content) {length : Nat}
    {direction : Direction} {targets : List Target} {a a' : Arena}
    (h : ((relativeScope s 0 length direction true).run cx t).outcome a = (.ok targets, a')) :
    ∃ f all starting edge scopes, ScopeFinder.ofTarget s t = .ok f ∧
      f.candidates cx t.editor t.document.range = .ok all ∧
      targets = scopes.map (fun u => u.oriented t.isReversed) ∧ scopes.length = length ∧
      t.GoesOn direction all starting edge scopes ∧ starting ⊆ scopes ∧
      ((scopes <:+: all ∧ Scope.Distinct scopes) ↔
        ¬(starting.length < length ∧ edge.domain.isEmpty = true)) ∧
      (edge.domain.isEmpty = true → s = .line ∨ s = .document) := by
  rw [outcome_relativeScope hs] at h
  have htargets : t.relativeScope cx s 0 length direction true = .ok targets := congrArg Prod.fst h
  cases hf : ScopeFinder.ofTarget s t with
  | error error =>
    rw [Target.relativeScope, hf] at htargets
    cases htargets
  | ok f =>
    obtain ⟨all, hall⟩ := (ScopeFinder.isFlat_ofScopeType hs _ f hf).exists_enumerates cx t.editor
    rw [Target.relativeScope_eq hf, if_pos rfl] at htargets
    obtain ⟨scopes, hscopes, rfl⟩ := map_eq_ok.mp htargets
    obtain ⟨rfl, starting, edge, hgoesOn⟩ := Target.goesOn_scopesFromTarget hall ht hscopes
    exact ⟨f, all, starting, edge, scopes, rfl, hall.whole, rfl, rfl, hgoesOn,
      hgoesOn.subset, hgoesOn.consecutive_iff hall.series,
      ScopeFinder.eq_line_of_isEmpty hs hf hall.whole hgoesOn.edge_mem⟩

theorem relativeScope_fromTarget_nextLine :
    let e : Editor := .ofDocument 1 (.ofText 1 "plaintext" "a\n\nb".toList)
    let t : Target := .untyped e (.onLine 0 0 1) false true
    let first := (Scope.lineScope e 0).target
    let blank := (Scope.lineScope e 1).target
    ((relativeScope .line 0 2 .forward true).run {} t).outcome .empty = (.ok [first, blank], .empty) ∧
      ∃ scopes, [first, blank] = scopes.map (fun u => u.oriented false) ∧
        scopes <:+: Scope.lines e e.document.range ∧ Scope.Distinct scopes := by
  intro e t first blank
  have hs : ScopeType.line.IsFlat := show TextScope.line ≠ .collectionItem by decide
  have ht : t.document.Holds t.content := by decide +kernel
  have hrun : ((relativeScope .line 0 2 .forward true).run {} t).outcome .empty =
      (.ok [first, blank], .empty) := by
    have hlines := ScopeFinder.enumerates_lines {} e
    have hfound : t.scopesIntersecting {} .lines = .ok [Scope.lineScope e 0] := by
      rw [Target.scopesIntersecting_eq hlines ht (by decide)]
      rfl
    have hextend : t.extend {} .lines 1 .forward (Scope.lineScope e 0) [] =
        .ok [Scope.lineScope e 0, Scope.lineScope e 1] := by
      have hedge : Direction.forward.order [Scope.lineScope e 0] = [] ++ [Scope.lineScope e 0] := rfl
      rw [Target.extend_eq hlines List.mem_cons_self hedge]
      rfl
    have hscopes : t.scopesFromTarget {} .lines 2 .forward =
        .ok [Scope.lineScope e 0, Scope.lineScope e 1] := by
      rw [Target.scopesFromTarget]
      exact ite_bind_eq_ok.mpr ⟨_, hfound, hextend⟩
    rw [outcome_relativeScope hs, Target.relativeScope_eq rfl, if_pos rfl, hscopes]
    rfl
  obtain ⟨f, all, starting, edge, scopes, hf, hall, htargets, -, hgoesOn, -, hiff, -⟩ :=
    relativeScope_fromTarget hs ht hrun
  obtain rfl : .lines = f := Except.ok.inj hf
  obtain rfl : Scope.lines e e.document.range = all := Except.ok.inj hall
  have hstarting : starting = [Scope.lineScope e 0] := hgoesOn.startsAt
  have hedge : Scope.lineScope e 0 = edge := by
    have hlast := hgoesOn.getLast?
    rw [hstarting] at hlast
    exact Option.some.inj hlast
  have hempty : ¬edge.domain.isEmpty = true := by
    rw [← hedge]
    decide +kernel
  obtain ⟨hwithin, hdistinct⟩ := hiff.mpr fun hagain => hempty hagain.2
  exact ⟨hrun, scopes, htargets, hwithin, hdistinct⟩

theorem relativeScope_fromTarget_blankLine :
    let e : Editor := .ofDocument 1 (.ofText 1 "plaintext" "a\n\nb".toList)
    let t : Target := .untyped e (.point ⟨1, 0⟩) false false
    let blank := (Scope.lineScope e 1).target
    ScopeType.line.IsFlat ∧ t.document.Holds t.content ∧ blank.content = .onLine 1 0 0 ∧
      ∃ targets, ((relativeScope .line 0 2 .forward true).run {} t).outcome .empty =
        (.ok targets, .empty) ∧ targets = [blank, blank] ∧ ¬targets.Nodup := by
  intro e t blank
  have hs : ScopeType.line.IsFlat := show TextScope.line ≠ .collectionItem by decide
  have hcursor : t.scopeAtCursor {} .lines .forward = .ok [Scope.lineScope e 1] := by
    have hwalk : ScopeFinder.lines.walk {} e ⟨1, 0⟩ .forward (some .required) =
        .ok [Scope.lineScope e 1] := by
      rw [ScopeFinder.walk]
      show Except.ok (List.mergeSort [Scope.lineScope e 1] _) = _
      rw [List.mergeSort_singleton]
    exact bind_eq_ok.mpr ⟨_, hwalk, rfl⟩
  have hextend : t.extend {} .lines 1 .forward (Scope.lineScope e 1) [] =
      .ok [Scope.lineScope e 1, Scope.lineScope e 1] := by
    have hlines := ScopeFinder.enumerates_lines {} e
    have hedge : Direction.forward.order [Scope.lineScope e 1] = [] ++ [Scope.lineScope e 1] := rfl
    rw [Target.extend_eq hlines (List.mem_cons_of_mem _ List.mem_cons_self) hedge]
    rfl
  have hscopes : t.scopesFromTarget {} .lines 2 .forward =
      .ok [Scope.lineScope e 1, Scope.lineScope e 1] := by
    rw [Target.scopesFromTarget]
    exact ite_bind_eq_ok.mpr ⟨_, hcursor, hextend⟩
  have hrun : ((relativeScope .line 0 2 .forward true).run {} t).outcome .empty =
      (.ok [blank, blank], .empty) := by
    rw [outcome_relativeScope hs, Target.relativeScope_eq rfl, if_pos rfl, hscopes]
    rfl
  refine ⟨hs, by decide +kernel, by decide +kernel, _, hrun, rfl, fun hnodup => ?_⟩
  exact (List.nodup_cons.mp hnodup).1 List.mem_cons_self

end Modifier

end Referent
