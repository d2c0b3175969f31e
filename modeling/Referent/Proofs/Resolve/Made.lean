import Mathlib.Tactic.Common
import Referent.Proofs.Scope.Finders
import Referent.Resolve.Occurrences
import Referent.Resolve.Parts
import Referent.Resolve.Siblings

namespace Referent

namespace Target

def GivesMade (sound : Prop) (e : Editor) (x : Except TargetError (List Target)) : Prop :=
  Gives x fun found => ∀ t ∈ found, t.Made sound e

variable {sound : Prop} {cx : Context} {e : Editor} {t : Target}

lemma givesMade_singleton {u : Target} (h : u.Made sound e) :
    GivesMade sound e (.ok [u]) := by
  refine .ok fun v hv => ?_
  obtain rfl := List.mem_singleton.mp hv
  exact h

lemma givesMade_pair {u v : Target} (hu : u.Made sound e) (hv : v.Made sound e) :
    GivesMade sound e (.ok [u, v]) := by
  refine .ok fun w hw => ?_
  rcases List.mem_cons.mp hw with rfl | hw
  · exact hu
  · obtain rfl := List.mem_singleton.mp hw
    exact hv

lemma gives_true {α : Type} (x : Except TargetError α) : Gives x fun _ => True :=
  fun _ _ => trivial

lemma made_containingScope (h : sound → cx.Fits t.editor) (s : ScopeType) :
    GivesMade sound t.editor (t.containingScope cx s) := by
  refine (gives_true _).bind fun f _ => ?_
  refine (f.made_containing h t.content t.isReversed).bind fun found hfound => ?_
  cases found with
  | none => exact .error
  | some u => exact givesMade_singleton (hfound u rfl)

lemma made_previousScope (h : sound → cx.Fits t.editor) (f : ScopeFinder) :
    Gives (t.previousScope cx f) fun found => ∀ s ∈ found, s.2.target.Made sound t.editor := by
  refine (f.made_walk h _ _ _).bind fun scopes hscopes => .ok fun s hs => ?_
  obtain ⟨u, hu, rfl⟩ := Option.map_eq_some_iff.mp hs
  exact hscopes u (List.mem_of_head? hu)

lemma made_nextScope (h : sound → cx.Fits t.editor) (f : ScopeFinder) :
    Gives (t.nextScope cx f) fun found => ∀ s ∈ found, s.2.target.Made sound t.editor := by
  refine (f.made_walk h _ _ _).bind fun scopes hscopes => .ok fun s hs => ?_
  obtain ⟨u, hu, rfl⟩ := Option.map_eq_some_iff.mp hs
  exact hscopes u (List.mem_of_head? hu)

lemma closer_cases {previous next : Option (Nat × Scope)} {s : Scope}
    (h : closer previous next = some s) :
    (∃ p ∈ previous, p.2 = s) ∨ ∃ n ∈ next, n.2 = s := by
  unfold closer at h
  split at h
  · next p n =>
    split at h
    · exact .inl ⟨p, rfl, Option.some.inj h⟩
    · exact .inr ⟨n, rfl, Option.some.inj h⟩
  · next n => exact .inr ⟨n, rfl, Option.some.inj h⟩
  · obtain ⟨p, hp, rfl⟩ := Option.map_eq_some_iff.mp h
    exact .inl ⟨p, hp, rfl⟩

lemma made_nearestScope (h : sound → cx.Fits t.editor) (s : ScopeType) :
    GivesMade sound t.editor (t.nearestScope cx s) := by
  refine (gives_true _).bind fun f _ => ?_
  refine (made_previousScope h f).bind fun previous hprevious => ?_
  refine (made_nextScope h f).bind fun next hnext => ?_
  split
  · next found hfound =>
    refine givesMade_singleton ?_
    rcases closer_cases hfound with ⟨p, hp, rfl⟩ | ⟨n, hn, rfl⟩
    · exact (hprevious p hp).withReversed t.isReversed
    · exact (hnext n hn).withReversed t.isReversed
  · exact .error

lemma made_preferredScope (h : sound → cx.Fits t.editor) (s : ScopeType) :
    GivesMade sound t.editor (t.preferredScope cx s) := by
  unfold preferredScope
  split
  · exact made_nearestScope h s
  · exact made_containingScope h s

lemma mem_of_runEnd (d : Document) (direction : Direction) (s : Scope) (l : List Scope) :
    runEnd d direction s l ∈ s :: l := by
  induction l generalizing s with
  | nil => exact List.mem_cons_self
  | cons a rest ih =>
    unfold runEnd
    dsimp only
    split_ifs
    · exact List.mem_cons_of_mem s (ih a)
    · exact List.mem_cons_self

lemma made_distalScope (h : sound → cx.Fits t.editor) (f : ScopeFinder) (p : Position)
    (direction : Direction) :
    Gives (t.distalScope cx f p direction) fun found =>
      ∀ s ∈ found, s.target.Made sound t.editor := by
  refine (f.made_scopesAt h p).bind fun touching htouching => ?_
  dsimp only
  split
  · exact .ok fun s hs => absurd hs (Option.not_mem_none s)
  · next s hs =>
    refine (f.made_walk h _ _ _).bind fun further hfurther => .ok fun u hu => ?_
    obtain rfl := Option.some.inj hu
    rcases List.mem_cons.mp (mem_of_runEnd t.document direction s further) with heq | hmem
    · rw [heq]
      exact htouching s (ScopeFinder.mem_of_preferred hs)
    · exact hfurther _ hmem

lemma made_ofScopes {first last : Scope} (b : Bool) (hf : first.target.Made sound e)
    (hl : last.target.Made sound e) : (ofScopes first last b).Made sound e := by
  unfold ofScopes
  split
  · exact hf.withReversed b
  · exact (hf.withReversed false).continuous (hl.withReversed false) true true b

lemma made_contiguousScope (h : sound → cx.Fits t.editor) (s : ScopeType) :
    GivesMade sound t.editor (t.contiguousScope cx s) := by
  refine (gives_true _).bind fun f _ => ?_
  refine (made_distalScope h f _ _).bind fun first hfirst => ?_
  refine (made_distalScope h f _ _).bind fun last hlast => ?_
  split
  · exact givesMade_singleton (made_ofScopes t.isReversed (hfirst _ rfl) (hlast _ rfl))
  · exact .error

lemma made_inferredToken (h : sound → cx.Fits t.editor) :
    Gives (t.inferredToken cx) fun found => ∀ u ∈ found, u.Made sound t.editor := by
  unfold inferredToken
  split
  · exact ScopeFinder.made_containing h _ _ _
  · exact .ok fun u hu => absurd hu (Option.not_mem_none u)

lemma made_siblingScopes (h : sound → cx.Fits t.editor) (f : ScopeFinder) :
    Gives (t.siblingScopes cx f) fun l => ∀ s ∈ l, s.target.Made sound t.editor := by
  refine (f.made_iterations h t.content).bind fun iterations hiterations => ?_
  dsimp only
  split
  · next scopes hscopes =>
    obtain ⟨i, hi, rfl⟩ := List.mem_map.mp (List.mem_of_find?_eq_some hscopes)
    exact .ok fun s hs => hiterations i hi s (List.mem_filter.mp hs).1
  · exact .error

lemma made_scopesIntersecting (h : sound → cx.Fits t.editor) (f : ScopeFinder) :
    Gives (t.scopesIntersecting cx f) fun l => ∀ s ∈ l, s.target.Made sound t.editor := by
  refine (f.made_scopesOverlapping h t.content).bind fun overlapping hoverlapping => ?_
  split
  · exact .ok hoverlapping
  · split
    · exact .ok fun s hs => hoverlapping s (List.mem_filter.mp hs).1
    · refine .ok fun s hs => hoverlapping s ?_
      exact (List.mem_filter.mp (List.mem_filter.mp hs).1).1

lemma made_everyScopeOf (h : sound → cx.Fits t.editor) (s : ScopeType) :
    Gives (t.everyScopeOf cx s) fun l => ∀ s ∈ l, s.target.Made sound t.editor := by
  refine (gives_true _).bind fun f _ => ?_
  split
  · refine (f.made_scopesOverlapping h t.content).bind fun overlapping hoverlapping => ?_
    dsimp only
    split
    · exact made_siblingScopes h f
    · refine .ok fun s hs => hoverlapping s ?_
      have hinside := (List.mem_filter.mp (List.mem_filter.mp hs).1).1
      exact (List.mem_filter.mp hinside).1
  · exact made_siblingScopes h f

lemma made_oriented {scopes : List Scope} (b : Bool) (h : ∀ s ∈ scopes, s.target.Made sound e) :
    ∀ u ∈ scopes.map fun s => s.oriented b, u.Made sound e := by
  intro u hu
  obtain ⟨s, hs, rfl⟩ := List.mem_map.mp hu
  exact (h s hs).withReversed b

lemma made_everyScope (h : sound → cx.Fits t.editor) (s : ScopeType) :
    GivesMade sound t.editor (t.everyScope cx s) :=
  (made_everyScopeOf h s).map fun _ hl => made_oriented t.isReversed hl

lemma made_pick {scopes : List Scope} (isEvery b : Bool)
    (h : ∀ s ∈ scopes, s.target.Made sound e) : ∀ u ∈ pick scopes isEvery b, u.Made sound e := by
  intro u hu
  unfold pick at hu
  split at hu
  · exact made_oriented b h u hu
  · split at hu
    · exact absurd hu List.not_mem_nil
    · next s =>
      obtain rfl := List.mem_singleton.mp hu
      exact (h s List.mem_cons_self).withReversed b
    · next first second rest =>
      obtain rfl := List.mem_singleton.mp hu
      refine made_ofScopes b (h first List.mem_cons_self) (h _ ?_)
      rw [List.getLastD_cons]
      exact List.mem_cons_of_mem first List.getLastD_mem_cons

lemma mem_of_sliceFrom? {α : Type} {l l' : List α} {start : Int} {length : Nat}
    (h : sliceFrom? l start length = some l') : ∀ a ∈ l', a ∈ l := by
  obtain ⟨_, h⟩ := Option.ite_none_right_eq_some.mp h
  obtain rfl := Option.some.inj h
  exact fun a ha => List.mem_of_mem_drop (List.mem_of_mem_take ha)

lemma made_ordinalScope (h : sound → cx.Fits t.editor) (s : ScopeType) (start : Int)
    (length : Nat) (isEvery : Bool) :
    GivesMade sound t.editor (t.ordinalScope cx s start length isEvery) := by
  refine (made_everyScopeOf h s).bind fun scopes hscopes => ?_
  split
  · next picked hpicked =>
    exact .ok (made_pick isEvery t.isReversed fun s hs => hscopes s (mem_of_sliceFrom? hpicked s hs))
  · exact .error

lemma made_scopeAtCursor (h : sound → cx.Fits t.editor) (f : ScopeFinder) (direction : Direction) :
    Gives (t.scopeAtCursor cx f direction) fun l => ∀ s ∈ l, s.target.Made sound t.editor := by
  refine (f.made_walk h _ _ _).bind fun scopes hscopes => ?_
  split
  · next s hs =>
    refine .ok fun u hu => ?_
    obtain rfl := List.mem_singleton.mp hu
    exact hscopes u (List.mem_of_head? hs)
  · refine (f.made_walk h _ _ _).bind fun other hother => .ok fun s hs => ?_
    exact hother s (List.mem_of_head? (Option.mem_toList.mp hs))

lemma made_extend (h : sound → cx.Fits t.editor) (f : ScopeFinder) (missing : Nat)
    (direction : Direction) {first : Scope} {rest : List Scope}
    (hscopes : ∀ s ∈ first :: rest, s.target.Made sound t.editor) :
    Gives (t.extend cx f missing direction first rest) fun l =>
      ∀ s ∈ l, s.target.Made sound t.editor := by
  refine (f.made_walk h _ _ _).bind fun further hfurther => ?_
  dsimp only
  split_ifs
  · exact .error
  · have htake : ∀ s ∈ further.take missing, s.target.Made sound t.editor :=
      fun s hs => hfurther s (List.mem_of_mem_take hs)
    cases direction with
    | forward =>
      refine .ok fun s hs => ?_
      rcases List.mem_append.mp hs with hs | hs
      · exact hscopes s hs
      · exact htake s hs
    | backward =>
      refine .ok fun s hs => ?_
      rcases List.mem_append.mp hs with hs | hs
      · exact htake s (List.mem_reverse.mp hs)
      · exact hscopes s hs

lemma made_scopesFromTarget (h : sound → cx.Fits t.editor) (f : ScopeFinder) (length : Nat)
    (direction : Direction) :
    Gives (t.scopesFromTarget cx f length direction) fun l =>
      ∀ s ∈ l, s.target.Made sound t.editor := by
  unfold scopesFromTarget
  dsimp only
  refine Gives.ite_bind (made_scopeAtCursor h f direction) (made_scopesIntersecting h f)
    fun found hscopes => ?_
  split
  · exact .error
  · split
    · exact .error
    · split
      · exact made_extend h f _ direction hscopes
      · exact .ok hscopes

lemma made_scopesBeyondTarget (h : sound → cx.Fits t.editor) (f : ScopeFinder)
    (offset length : Nat) (direction : Direction) :
    Gives (t.scopesBeyondTarget cx f offset length direction) fun l =>
      ∀ s ∈ l, s.target.Made sound t.editor := by
  refine (f.made_walk h _ _ _).bind fun walked hwalked => ?_
  have hscopes : ∀ s ∈ (walked.drop (offset - 1)).take length, s.target.Made sound t.editor :=
    fun s hs => hwalked s (List.mem_of_mem_drop (List.mem_of_mem_take hs))
  dsimp only
  split
  · exact .error
  · cases direction with
    | forward => exact .ok hscopes
    | backward => exact .ok fun s hs => hscopes s (List.mem_reverse.mp hs)

lemma made_relativeScope (h : sound → cx.Fits t.editor) (s : ScopeType) (offset length : Nat)
    (direction : Direction) (isEvery : Bool) :
    GivesMade sound t.editor (t.relativeScope cx s offset length direction isEvery) := by
  refine (gives_true _).bind fun f _ => ?_
  exact Gives.ite_bind (made_scopesFromTarget h f length direction)
    (made_scopesBeyondTarget h f offset length direction)
    fun scopes hscopes => .ok (made_pick isEvery t.isReversed hscopes)

lemma holds_dividedRange (h : sound → cx.Fits t.editor) (ht : sound → t.WellFormed) :
    Gives (t.dividedRange cx) fun r => sound → t.document.Holds r := by
  unfold dividedRange
  split
  · exact .ok fun hs => (ht hs).content
  · refine (ScopeFinder.made_containing h t.content false (.tokens false)).bind fun found hfound => ?_
    split
    · next token =>
      refine .ok fun hs => ?_
      have hmade := hfound token rfl
      have hcontent := (hmade.wellFormed hs).content
      rwa [document, hmade.editor_eq] at hcontent
    · exact .error

lemma pieceSpans_le_length (pieceType : PieceType) (text : List Char) :
    ∀ s ∈ pieceSpans pieceType text, s.1 ≤ text.length ∧ s.2 ≤ text.length := by
  cases pieceType with
  | word => exact wordSpans_le_length text
  | character => exact Unicode.clusterSpans_le_length text

lemma made_ofPieces (pieceType : PieceType) {r : Range} {pieces : List (Nat × Nat)}
    (first last : Nat) (b : Bool)
    (hp : ∀ w ∈ pieces, w.1 ≤ (e.document.textIn r).length ∧ w.2 ≤ (e.document.textIn r).length)
    (h : sound → e.document.HoldsLine r) :
    (ofPieces pieceType e r pieces first last b).Made sound e := by
  cases pieceType with
  | word => exact Scope.made_wordTarget pieces first last b hp h
  | character =>
    have hfirst := forall_getD (d := (0, 0)) hp ⟨Nat.zero_le _, Nat.zero_le _⟩ first
    have hlast := forall_getD (d := (0, 0)) hp ⟨Nat.zero_le _, Nat.zero_le _⟩ last
    exact made_plain b fun hs => Document.holds_piece (h hs) hfirst.1 hlast.2

lemma made_subpiece (h : sound → cx.Fits t.editor) (ht : sound → t.WellFormed)
    (pieceType : PieceType) (anchor active : Int) (excludeAnchor excludeActive : Bool) :
    GivesMade sound t.editor
      (t.subpiece cx pieceType anchor active excludeAnchor excludeActive) := by
  unfold subpiece
  dsimp only
  split
  · exact .error
  · refine (holds_dividedRange h ht).bind fun r hr => ?_
    split_ifs with hsingle
    · exact .error
    · have hline : sound → t.document.HoldsLine r :=
        fun hs => ⟨hr hs, by simpa using hsingle⟩
      split
      · exact givesMade_singleton
          (made_ofPieces pieceType _ _ _ (pieceSpans_le_length pieceType _) hline)
      · exact .error

lemma made_enclosingPair (h : sound → cx.Fits t.editor) (delimiter : PairName)
    (inclusion : Option DelimiterInclusion) (direction : Option PairDirection) :
    GivesMade sound t.editor (t.enclosingPair cx delimiter inclusion direction) := by
  intro ts hts
  obtain ⟨found, hfound, hts⟩ := bind_eq_ok.mp hts
  refine (?_ : GivesMade sound t.editor _) ts hts
  cases found with
  | none => exact .error
  | some p =>
    have hfits : sound → p.Fits t.document := fun hs => PairSearch.fits_find (h hs).tree hfound
    dsimp only
    split
    · exact givesMade_singleton (PairMatch.made_target t.isReversed hfits)
    · exact givesMade_singleton (made_interiorOf t.isReversed fun hs => (hfits hs).interior)
    · exact givesMade_pair (made_plain t.isReversed fun hs => (hfits hs).opening)
        (made_plain t.isReversed fun hs => (hfits hs).closing)

lemma asPair_wellFormed (h : sound → cx.Fits t.editor) (ht : sound → t.WellFormed) :
    Gives (t.asPair cx) fun p => p.editor = t.editor ∧ (sound → p.WellFormed) := by
  unfold asPair
  split
  · exact .ok ⟨rfl, ht⟩
  · intro pair hpair
    obtain ⟨found, hfound, hpair⟩ := bind_eq_ok.mp hpair
    cases found with
    | none => cases hpair
    | some p =>
      cases hpair
      have hmade := PairMatch.made_target t.isReversed
        fun hs : sound => PairSearch.fits_find (h hs).tree hfound
      exact ⟨rfl, hmade.wellFormed⟩

lemma made_interiorOnly (h : sound → cx.Fits t.editor) (ht : sound → t.WellFormed) :
    GivesMade sound t.editor (t.interiorOnly cx) := by
  refine (asPair_wellFormed h ht).bind fun p hp => ?_
  obtain ⟨he, hwf⟩ := hp
  split
  · next r hr =>
    rw [← he]
    exact givesMade_singleton (made_interiorOf p.isReversed fun hs => (hwf hs).interior r hr)
  · exact .error

lemma made_boundaryOnly (h : sound → cx.Fits t.editor) (ht : sound → t.WellFormed) :
    GivesMade sound t.editor (t.boundaryOnly cx) := by
  refine (asPair_wellFormed h ht).bind fun p hp => ?_
  obtain ⟨he, hwf⟩ := hp
  split
  · next opening closing hb =>
    rw [← he]
    exact givesMade_pair (made_plain p.isReversed fun hs => ((hwf hs).boundary _ hb).1)
      (made_plain p.isReversed fun hs => ((hwf hs).boundary _ hb).2)
  · exact .error

lemma made_delimiterTarget {delimiter : Option Range} (missing : TargetError)
    (h : sound → ∀ r ∈ delimiter, t.document.Holds r) :
    GivesMade sound t.editor (t.delimiterTarget delimiter missing) := by
  cases delimiter with
  | none => exact .error
  | some r => exact givesMade_singleton (made_plain t.isReversed fun hs => h hs r rfl)

lemma made_position (kind : PositionKind) (ht : sound → t.WellFormed) :
    (t.position kind).Made sound t.editor := by
  cases kind with
  | before => exact made_insertionPoint .before ht
  | after => exact made_insertionPoint .after ht
  | start => exact made_plain false fun hs => Document.holds_point (ht hs).content.1
  | stop => exact made_plain false fun hs => Document.holds_point (ht hs).content.2

lemma made_visibleRanges (h : sound → cx.Fits t.editor) :
    ∀ u ∈ t.visibleRanges, u.Made sound t.editor := by
  intro u hu
  obtain ⟨r, hr, rfl⟩ := List.mem_map.mp hu
  exact made_plain t.isReversed fun hs => (h hs).visible r hr

lemma made_acceptOccurrence (h : sound → cx.Fits t.editor) {occurrence : Target}
    (ho : occurrence.Made sound t.editor) :
    ∀ u ∈ t.acceptOccurrence cx occurrence, u.Made sound t.editor := by
  intro u hu
  unfold acceptOccurrence at hu
  split at hu
  · cases hu
    exact ho
  · split at hu
    · next s _ found hfound =>
      obtain ⟨_, heq⟩ := Option.ite_none_right_eq_some.mp hu
      obtain rfl := Option.some.inj heq
      have hfits : sound → cx.Fits occurrence.editor := by
        rw [ho.editor_eq]
        exact h
      have hmade := made_containingScope hfits _ _ hfound found List.mem_cons_self
      rw [ho.editor_eq] at hmade
      exact hmade.withReversed t.isReversed
    · cases hu

lemma made_occurrencesIn (h : sound → cx.Fits t.editor) (r : Range) :
    ∀ u ∈ t.occurrencesIn cx r, u.Made sound t.editor := by
  intro u hu
  obtain ⟨start, _, hu⟩ := List.mem_filterMap.mp hu
  exact made_acceptOccurrence h
    (made_plain t.isReversed fun _ => Document.holds_positions _ _ _) u hu

lemma made_occurrencesToward (h : sound → cx.Fits t.editor) (direction : Direction) (r : Range) :
    ∀ u ∈ t.occurrencesToward cx direction r, u.Made sound t.editor := by
  intro u hu
  cases direction with
  | forward => exact made_occurrencesIn h r u hu
  | backward => exact made_occurrencesIn h r u (List.mem_reverse.mp hu)

lemma mem_of_takeExactly? {α : Type} {offset count : Nat} {l l' : List α}
    (h : takeExactly? offset count l = some l') : ∀ a ∈ l', a ∈ l := by
  obtain ⟨_, h⟩ := Option.ite_none_left_eq_some.mp h
  obtain rfl := Option.some.inj h
  exact fun a ha => List.mem_of_mem_drop (List.mem_of_mem_take ha)

lemma made_ordinalOccurrences (h : sound → cx.Fits t.editor) (start : Int) (length : Nat)
    (r : Range) : ∀ l ∈ t.ordinalOccurrences cx start length r, ∀ u ∈ l, u.Made sound t.editor := by
  intro l hl u hu
  unfold ordinalOccurrences at hl
  dsimp only at hl
  split_ifs at hl
  · exact made_occurrencesToward h .forward r u (mem_of_takeExactly? hl u hu)
  · obtain ⟨l', hl', rfl⟩ := Option.map_eq_some_iff.mp hl
    exact made_occurrencesToward h .backward r u
      (mem_of_takeExactly? hl' u (List.mem_reverse.mp hu))
  · cases hl

lemma made_relativeOccurrences (h : sound → cx.Fits t.editor) (offset length : Nat)
    (direction : Direction) (origin : Range) :
    ∀ l ∈ t.relativeOccurrences cx offset length direction origin,
      ∀ u ∈ l, u.Made sound t.editor :=
  fun _ hl u hu => made_occurrencesToward h direction _ u (mem_of_takeExactly? hl u hu)

lemma forall_of_mapM {α β : Type} {P : β → Prop} {f : α → Option β} {l : List α} {l' : List β}
    (h : l.mapM f = some l') (hf : ∀ a ∈ l, ∀ b ∈ f a, P b) : ∀ b ∈ l', P b := by
  induction l generalizing l' with
  | nil =>
    obtain rfl := Option.some.inj h
    exact fun b hb => absurd hb List.not_mem_nil
  | cons a rest ih =>
    rw [List.mapM_cons] at h
    obtain ⟨b, hb, h⟩ := Option.bind_eq_some_iff.mp h
    obtain ⟨bs, hbs, h⟩ := Option.bind_eq_some_iff.mp h
    obtain rfl := Option.some.inj h
    intro c hc
    rcases List.mem_cons.mp hc with rfl | hc
    · exact hf a List.mem_cons_self c hb
    · exact ih hbs (fun a' ha' => hf a' (List.mem_cons_of_mem a ha')) c hc

lemma made_queriedOccurrences (h : sound → cx.Fits t.editor) (query : OccurrenceQuery) :
    ∀ ls ∈ t.queriedOccurrences cx query, ∀ l ∈ ls, ∀ u ∈ l, u.Made sound t.editor := by
  intro ls hls
  cases query with
  | every =>
    obtain rfl := Option.some.inj hls
    intro l hl
    obtain ⟨r, _, rfl⟩ := List.mem_map.mp hl
    exact made_occurrencesToward h .forward r
  | ordinal start length =>
    exact forall_of_mapM hls fun r _ => made_ordinalOccurrences h start length r
  | relative offset length direction =>
    exact forall_of_mapM hls fun r _ => made_relativeOccurrences h offset length direction r

lemma made_occurrences (h : sound → cx.Fits t.editor) (query : OccurrenceQuery) :
    GivesMade sound t.editor (t.occurrences cx query) := by
  unfold occurrences
  split
  · exact .error
  · split
    · next found hfound =>
      refine .ok fun u hu => ?_
      obtain ⟨l, hl, hu⟩ := List.mem_flatten.mp hu
      exact made_queriedOccurrences h query found hfound l hl u hu
    · exact .error

end Target

end Referent
