import Referent.Proofs.Scope.Walks
import Referent.Proofs.Scope.Windows
import Referent.Proofs.Target.Spans

/-! Which token a range stands for. At a position there are at most two tokens, one that ends there and one
that begins there, of which an identifier is preferred. A range that lies in no token stands for all that is
between the tokens at its ends. -/

namespace Referent

namespace Range

lemma not_isEmpty_of_lt {r : Range} (h : r.start < r.stop) : ¬r.isEmpty = true :=
  fun hempty => Position.not_le.mpr h (isEmpty_iff.mp hempty ▸ Position.le_refl _)

lemma Successive.apart {l : List Range} {a b : Range} (h : Successive l) (ha : a ∈ l) (hb : b ∈ l)
    (hne : a ≠ b) : a.stop ≤ b.start ∨ b.stop ≤ a.start :=
  (eq_or_rel_of_pairwise h ha hb).resolve_left hne

lemma Successive.eq_of_mem_iff {l l' : List Range} (h : Successive l) (h' : Successive l')
    (hlt : ∀ r ∈ l, r.start < r.stop) (hmem : ∀ r, r ∈ l ↔ r ∈ l') : l = l' := by
  have hantisymm : Std.Antisymm fun r s : Range => r.start < s.start :=
    ⟨fun _ _ hrs hsr => absurd (Position.le_of_lt hrs) (Position.not_le.mpr hsr)⟩
  have hirrefl : Std.Irrefl fun r s : Range => r.start < s.start :=
    ⟨fun _ hlt => absurd (Position.le_refl _) (Position.not_le.mpr hlt)⟩
  have hstarts {l : List Range} (h : Successive l) (hlt : ∀ r ∈ l, r.start < r.stop) :
      l.Pairwise fun r s => r.start < s.start :=
    List.Pairwise.imp_of_mem (fun hr _ hle => Position.lt_of_lt_of_le (hlt _ hr) hle) h
  exact (hstarts h hlt).eq_of_mem_iff (hstarts h' fun r hr => hlt r ((hmem r).mpr hr)) hmem

end Range

namespace Context

variable {cx : Context} {d : Document} {p : Position} {a b r : Range}

def documentTokens (cx : Context) (d : Document) : List Range := cx.tokens d d.range

def tokensAt (cx : Context) (d : Document) (p : Position) : List Range :=
  (cx.documentTokens d).filter fun r => r.contains p

def identifies (cx : Context) (d : Document) (r : Range) : Bool := cx.isIdentifier d (d.textIn r)

/-- Whether a token is the one that is chosen where it begins, or where it ends if one looks backward. An
identifier on the other side comes before it if it is none. -/
structure Chosen (cx : Context) (d : Document) (direction : Direction) (r : Range) : Prop where
  mem : r ∈ cx.documentTokens d
  identifies : ∀ other ∈ cx.documentTokens d, other.edge direction = r.edge direction.opposite →
    cx.identifies d other = true → cx.identifies d r = true

def Joins (cx : Context) (d : Document) (r : Range) : Prop :=
  ∃ first last, cx.Chosen d .forward first ∧ cx.Chosen d .backward last ∧ first.start = r.start ∧
    last.stop = r.stop ∧ first.stop ≤ last.start

lemma successive_tokens (cx : Context) (d : Document) (r : Range) :
    Range.Successive (cx.tokens d r) := by
  apply List.pairwise_flatMap.mpr
  refine ⟨fun line _ => Scope.successive_tokensOfLine cx d line, ?_⟩
  refine List.Pairwise.imp_of_mem (fun {i j} hi hj hlt s hs t ht => .inl ?_) List.pairwise_lt_range'
  rw [(Scope.holdsLine_of_mem (Document.mem_linesOf hi) hs).2.2,
    (Scope.holdsLine_of_mem (Document.mem_linesOf hj) ht).2.1]
  exact hlt

lemma successive_documentTokens (cx : Context) (d : Document) :
    Range.Successive (cx.documentTokens d) := successive_tokens cx d d.range

lemma holdsLine_of_mem (h : r ∈ cx.documentTokens d) : d.HoldsLine r := cx.holdsLine_tokens d d.range r h

lemma start_lt_stop_of_mem (h : r ∈ cx.documentTokens d) : r.start < r.stop := by
  obtain ⟨line, _, h⟩ := List.mem_flatMap.mp h
  obtain ⟨token, htoken, rfl⟩ := List.mem_map.mp h
  have hlt := (cx.along_tokensOfText _ _).nonempty token htoken
  rw [Range.start_onLine (Nat.le_of_lt hlt), Range.stop_onLine (Nat.le_of_lt hlt)]
  exact .inr ⟨rfl, hlt⟩

lemma eq_of_overlap (ha : a ∈ cx.documentTokens d) (hb : b ∈ cx.documentTokens d)
    (hab : a.start < b.stop) (hba : b.start < a.stop) : a = b := by
  by_contra hne
  rcases (successive_documentTokens cx d).apart ha hb hne with hle | hle
  · exact Position.not_le.mpr hba hle
  · exact Position.not_le.mpr hab hle

lemma eq_of_start_eq (ha : a ∈ cx.documentTokens d) (hb : b ∈ cx.documentTokens d)
    (h : a.start = b.start) : a = b :=
  eq_of_overlap ha hb (h ▸ start_lt_stop_of_mem hb) (h ▸ start_lt_stop_of_mem ha)

lemma eq_of_stop_eq (ha : a ∈ cx.documentTokens d) (hb : b ∈ cx.documentTokens d)
    (h : a.stop = b.stop) : a = b :=
  eq_of_overlap ha hb (h ▸ start_lt_stop_of_mem ha) (h ▸ start_lt_stop_of_mem hb)

lemma Joins.not_containsRange (h : cx.Joins d r) (ha : a ∈ cx.documentTokens d) :
    ¬a.containsRange r = true := by
  intro hcontains
  obtain ⟨first, last, hfirst, hlast, hstart, hstop, hle⟩ := h
  obtain ⟨hbefore, hbehind⟩ := (Range.containsRange_iff _ _).mp hcontains
  have hshort := start_lt_stop_of_mem hfirst.mem
  have hlong := start_lt_stop_of_mem hlast.mem
  rw [← hstart] at hbefore
  rw [← hstop] at hbehind
  have heq : a = first := eq_of_overlap ha hfirst.mem (Position.lt_of_le_of_lt hbefore hshort)
    (Position.lt_of_lt_of_le (Position.lt_of_lt_of_le hshort (Position.le_trans hle last.start_le_stop))
      hbehind)
  subst heq
  exact Position.not_le.mpr (Position.lt_of_le_of_lt hle hlong) hbehind

lemma Joins.not_mem (h : cx.Joins d r) : r ∉ cx.documentTokens d :=
  fun hmem => h.not_containsRange hmem (Range.containsRange_refl r)

lemma mem_tokensAt : r ∈ cx.tokensAt d p ↔ r ∈ cx.documentTokens d ∧ r.start ≤ p ∧ p ≤ r.stop := by
  simp [tokensAt, Range.contains]

lemma tokensAt_cases (cx : Context) (d : Document) (p : Position) :
    cx.tokensAt d p = [] ∨ (∃ a, cx.tokensAt d p = [a]) ∨
      ∃ a b, cx.tokensAt d p = [a, b] ∧ a.stop = p ∧ b.start = p := by
  have hsuccessive : Range.Successive (cx.tokensAt d p) :=
    (successive_documentTokens cx d).sublist List.filter_sublist
  have hmem (r : Range) (h : r ∈ cx.tokensAt d p) : r.start < r.stop ∧ r.start ≤ p ∧ p ≤ r.stop :=
    ⟨start_lt_stop_of_mem (mem_tokensAt.mp h).1, (mem_tokensAt.mp h).2⟩
  generalize cx.tokensAt d p = found at hsuccessive hmem ⊢
  have hmeet {a b : Range} (ha : a.start < a.stop ∧ a.start ≤ p ∧ p ≤ a.stop)
      (hb : b.start < b.stop ∧ b.start ≤ p ∧ p ≤ b.stop) (h : a.stop ≤ b.start) :
      a.stop = p ∧ b.start = p :=
    ⟨Position.le_antisymm (Position.le_trans h hb.2.1) ha.2.2,
      Position.le_antisymm hb.2.1 (Position.le_trans ha.2.2 h)⟩
  match found with
  | [] => exact .inl rfl
  | [a] => exact .inr (.inl ⟨a, rfl⟩)
  | [a, b] =>
    have hle : a.stop ≤ b.start := by simpa [Range.Successive] using hsuccessive
    exact .inr (.inr ⟨a, b, rfl, hmeet (hmem a (by simp)) (hmem b (by simp)) hle⟩)
  | a :: b :: c :: rest =>
    have hab : a.stop ≤ b.start := List.rel_of_pairwise_cons hsuccessive (by simp)
    have hbc : b.stop ≤ c.start := List.rel_of_pairwise_cons hsuccessive.tail (by simp)
    have hb := hmem b (by simp)
    have hstart := (hmeet (hmem a (by simp)) hb hab).2
    have hstop := (hmeet hb (hmem c (by simp)) hbc).1
    exact absurd hb.1 (Position.not_lt.mpr (hstart ▸ hstop ▸ Position.le_refl _))

lemma chosen_forward_iff (ha : a ∈ cx.documentTokens d) (hb : b ∈ cx.documentTokens d)
    (h : a.stop = b.start) : cx.Chosen d .forward b ↔
      (cx.identifies d a = true → cx.identifies d b = true) := by
  refine ⟨fun hchosen => hchosen.identifies a ha h, fun himp => ⟨hb, fun other hmem hedge => ?_⟩⟩
  have hsame : other = a := eq_of_stop_eq hmem ha (hedge.trans h.symm)
  rwa [hsame]

lemma chosen_backward_iff (ha : a ∈ cx.documentTokens d) (hb : b ∈ cx.documentTokens d)
    (h : a.stop = b.start) : cx.Chosen d .backward a ↔
      (cx.identifies d b = true → cx.identifies d a = true) := by
  refine ⟨fun hchosen => hchosen.identifies b hb h.symm, fun himp => ⟨ha, fun other hmem hedge => ?_⟩⟩
  have hsame : other = b := eq_of_start_eq hmem hb (hedge.trans h)
  rwa [hsame]

end Context

namespace Scope

def ofToken (e : Editor) (r : Range) : Scope := ofTarget (.token e r false)

@[simp] lemma domain_ofToken (e : Editor) (r : Range) : (ofToken e r).domain = r := rfl

end Scope

namespace ScopeFinder

open Scope (ofToken)

variable {cx : Context} {e : Editor} {p : Position} {a b r : Range} {direction : Direction}

lemma scopesAt_tokens (hp : e.document.Has p) : (tokens false).scopesAt cx e p =
    .ok ((cx.tokensAt e.document p).map (ofToken e)) := by
  have hall : (tokens false).candidates cx e e.document.range =
      .ok (Scope.touching e.document.range ((cx.documentTokens e.document).map (ofToken e))) := by
    rw [candidates, Scope.tokens]
    simp [Context.documentTokens]
    rfl
  have htouches {r : Range} (hr : r.contains p = true) : r.touches e.document.range = true := by
    obtain ⟨hstart, hstop⟩ := Range.contains_iff.mp hr
    refine Range.touches_iff.mpr ⟨?_, ?_⟩
    · exact Position.le_trans hstart (Document.le_stop_range hp)
    · exact Position.le_trans (e.document.start_range_le p) hstop
  have hpart : (tokens false).candidates cx e (.point p) = .ok (Scope.touching (.point p)
      (Scope.touching e.document.range ((cx.documentTokens e.document).map (ofToken e)))) := by
    rw [touching_candidates (.tokens false) (Document.holds_point hp), hall]
    rfl
  rw [scopesAt_of_touching hpart]
  simp only [Scope.touching, List.filter_filter, List.filter_map, Context.tokensAt]
  congr 2
  apply List.filter_congr
  intro r _
  cases hr : r.contains p with
  | false => simp [hr]
  | true => simp [hr, htouches hr]

lemma isBetter_tokens (ha : a ∈ cx.documentTokens e.document) (hb : b ∈ cx.documentTokens e.document)
    (hle : a.stop ≤ b.start) (direction : Direction) :
    (tokens false).isBetter cx direction (ofToken e b) (ofToken e a) =
      if cx.identifies e.document b = cx.identifies e.document a then decide (direction = .forward)
      else cx.identifies e.document b := by
  have hshort := Context.start_lt_stop_of_mem ha
  have hlong := Context.start_lt_stop_of_mem hb
  have hstart : a.start < b.start := Position.lt_of_lt_of_le hshort hle
  have hstop : a.stop < b.stop := Position.lt_of_le_of_lt hle hlong
  have hne : b ≠ a := fun h => Position.not_le.mpr hstart (h ▸ Position.le_refl _)
  have houtside : ¬a.containsRange b = true :=
    fun h => Position.not_le.mpr hstop ((Range.containsRange_iff _ _).mp h).2
  have hinside : ¬b.containsRange a = true :=
    fun h => Position.not_le.mpr hstart ((Range.containsRange_iff _ _).mp h).1
  have hpreference : (tokens false).prefers? cx (ofToken e b) (ofToken e a) =
      if cx.identifies e.document b = cx.identifies e.document a then none
      else some (cx.identifies e.document b) := rfl
  rw [isBetter.eq_def, hpreference, Scope.domain_ofToken, Scope.domain_ofToken, if_neg hne, if_neg houtside,
    if_neg hinside]
  by_cases hsame : cx.identifies e.document b = cx.identifies e.document a
  · rw [if_pos hsame, if_pos hsame]
    cases direction with
    | forward => simpa using hstart
    | backward => simpa using Position.not_lt.mpr (Position.le_of_lt hstop)
  · rw [if_neg hsame, if_neg hsame]

lemma ofToken_inj : ofToken e a = ofToken e b ↔ a = b :=
  ⟨fun h => congrArg Scope.domain h, fun h => h ▸ rfl⟩

lemma preferred_tokensAt_iff (direction : Direction) (hr : r ∈ cx.documentTokens e.document)
    (hp : r.edge direction.opposite = p) :
    (tokens false).preferred cx direction ((cx.tokensAt e.document p).map (ofToken e)) =
        some (ofToken e r) ↔ cx.Chosen e.document direction r := by
  subst hp
  have hown : r ∈ cx.tokensAt e.document (r.edge direction.opposite) := by
    refine Context.mem_tokensAt.mpr ⟨hr, ?_⟩
    cases direction with
    | forward => exact ⟨Position.le_refl _, r.start_le_stop⟩
    | backward => exact ⟨r.start_le_stop, Position.le_refl _⟩
  have hother {other : Range} (hmem : other ∈ cx.documentTokens e.document)
      (hedge : other.edge direction = r.edge direction.opposite) :
      other ∈ cx.tokensAt e.document (r.edge direction.opposite) := by
    refine Context.mem_tokensAt.mpr ⟨hmem, ?_⟩
    rw [← hedge]
    cases direction with
    | forward => exact ⟨other.start_le_stop, Position.le_refl _⟩
    | backward => exact ⟨Position.le_refl _, other.start_le_stop⟩
  have hshort := Context.start_lt_stop_of_mem hr
  rcases Context.tokensAt_cases cx e.document (r.edge direction.opposite) with
    hnone | ⟨a, hone⟩ | ⟨a, b, hboth, ha, hb⟩
  · simp [hnone] at hown
  · rw [hone, List.mem_singleton] at hown
    subst hown
    rw [hone]
    refine iff_of_true rfl ⟨hr, fun other hmem hedge hidentifier => ?_⟩
    have hsame := hother hmem hedge
    rw [hone, List.mem_singleton] at hsame
    rwa [← hsame]
  · have hmem : a ∈ cx.documentTokens e.document ∧ b ∈ cx.documentTokens e.document := by
      have hin (s : Range) (hs : s ∈ [a, b]) : s ∈ cx.documentTokens e.document :=
        (Context.mem_tokensAt.mp (hboth ▸ hs)).1
      exact ⟨hin a (by simp), hin b (by simp)⟩
    have hne : a ≠ b := by
      rintro rfl
      exact Position.not_le.mpr (Context.start_lt_stop_of_mem hmem.1) (ha ▸ hb ▸ Position.le_refl _)
    have hbetter := isBetter_tokens hmem.1 hmem.2 (ha ▸ hb ▸ Position.le_refl _) direction
    have hpick : (tokens false).preferred cx direction [ofToken e a, ofToken e b] =
        if (tokens false).isBetter cx direction (ofToken e b) (ofToken e a) then some (ofToken e b)
        else some (ofToken e a) := apply_ite some _ _ _
    have hmeet : a.stop = b.start := ha.trans hb.symm
    rw [hboth, List.map_cons, List.map_cons, List.map_nil, hpick, hbetter]
    cases direction with
    | forward =>
      obtain rfl : r = b := Context.eq_of_start_eq hr hmem.2 hb.symm
      rw [Context.chosen_forward_iff hmem.1 hr hmeet]
      cases cx.identifies e.document a <;> cases cx.identifies e.document r <;> simp [ofToken_inj, hne]
    | backward =>
      obtain rfl : r = a := Context.eq_of_stop_eq hr hmem.1 ha.symm
      rw [Context.chosen_backward_iff hr hmem.2 hmeet]
      cases cx.identifies e.document r <;> cases cx.identifies e.document b <;>
        simp [ofToken_inj, Ne.symm hne]

lemma exists_of_preferred {s : Scope}
    (h : (tokens false).preferred cx direction ((cx.tokensAt e.document p).map (ofToken e)) = some s) :
    ∃ a ∈ cx.tokensAt e.document p, ofToken e a = s := List.mem_map.mp (mem_of_preferred h)

lemma containing_tokens (hp : e.document.Has r.start) (b : Bool) :
    (tokens false).containing cx e r b =
      let atStart := (cx.tokensAt e.document r.start).map (ofToken e)
      if r.isEmpty then .ok (((tokens false).preferred cx .forward atStart).map fun s => s.oriented b)
      else
        match (tokens false).preferred cx .forward (atStart.filter fun s => s.domain.containsRange r) with
        | some s => .ok (some (s.oriented b))
        | none => (tokens false).spanning cx e r b atStart := by
  show containingByDomain _ _ _ _ _ = _
  rw [containingByDomain, scopesAt_tokens hp]
  rfl

lemma containing_tokens_of_isEmpty {u : Target} {b : Bool} (hp : e.document.Has r.start)
    (hr : r.isEmpty = true) (h : (tokens false).containing cx e r b = .ok (some u)) :
    ∃ a ∈ cx.documentTokens e.document, u = .token e a b := by
  rw [containing_tokens hp, if_pos hr] at h
  obtain ⟨s, hs, rfl⟩ := Option.map_eq_some_iff.mp (Except.ok.inj h)
  obtain ⟨a, ha, rfl⟩ := exists_of_preferred hs
  exact ⟨a, (Context.mem_tokensAt.mp ha).1, rfl⟩

lemma containing_tokens_of_containsRange (hp : e.document.Has r.start) (hr : r.start < r.stop)
    (ha : a ∈ cx.documentTokens e.document) (hcontains : a.containsRange r = true) (b : Bool) :
    (tokens false).containing cx e r b = .ok (some (.token e a b)) := by
  have hinside := (Range.containsRange_iff _ _).mp hcontains
  have hfound : ((cx.tokensAt e.document r.start).map (ofToken e)).filter
      (fun s => s.domain.containsRange r) ≠ [] := by
    apply List.ne_nil_of_mem (a := ofToken e a)
    simp [hcontains, Context.mem_tokensAt, ha, hinside.1, ofToken_inj,
      Position.le_trans r.start_le_stop hinside.2]
  rw [containing_tokens hp, if_neg (Range.not_isEmpty_of_lt hr)]
  cases hs : (tokens false).preferred cx .forward
      (((cx.tokensAt e.document r.start).map (ofToken e)).filter fun s => s.domain.containsRange r) with
  | none =>
    cases hl : ((cx.tokensAt e.document r.start).map (ofToken e)).filter
      fun s => s.domain.containsRange r with
    | nil => exact absurd hl hfound
    | cons s rest =>
      rw [hl] at hs
      cases hs
  | some s =>
    obtain ⟨hs, hs'⟩ := List.mem_filter.mp (mem_of_preferred hs)
    obtain ⟨other, hother, rfl⟩ := List.mem_map.mp hs
    have haround := (Range.containsRange_iff _ _).mp hs'
    obtain rfl : other = a := Context.eq_of_overlap (Context.mem_tokensAt.mp hother).1 ha
      (Position.lt_of_le_of_lt haround.1 (Position.lt_of_lt_of_le hr hinside.2))
      (Position.lt_of_le_of_lt hinside.1 (Position.lt_of_lt_of_le hr haround.2))
    rfl

lemma content_continuous_tokens (e : Editor) (a c : Range) (b : Bool) :
    ((Target.token e a false).continuous (.token e c false) true true b).content =
      .between a.start c.stop := by
  rw [Target.content_continuous]
  rfl

lemma spanning_tokens_iff (hr : e.document.Holds r) (hlt : r.start < r.stop)
    (hapart : ∀ a ∈ cx.documentTokens e.document, ¬a.containsRange r = true) (b : Bool) :
    (∃ u, (tokens false).spanning cx e r b ((cx.tokensAt e.document r.start).map (ofToken e)) =
        .ok (some u) ∧ u.content = r) ↔ cx.Joins e.document r := by
  rw [spanning, scopesAt_tokens hr.2]
  constructor
  · rintro ⟨u, hu, hcontent⟩
    split at hu
    · cases hu
    · next s hs =>
      obtain ⟨s', hs', rfl⟩ := Option.map_eq_some_iff.mp (Except.ok.inj hu)
      obtain ⟨first, hfirst, rfl⟩ := exists_of_preferred hs
      obtain ⟨last, hlast, rfl⟩ := exists_of_preferred hs'
      obtain ⟨hfirst, hbefore, hreach⟩ := Context.mem_tokensAt.mp hfirst
      obtain ⟨hlast, hreach', hbehind⟩ := Context.mem_tokensAt.mp hlast
      have hbetween : Range.between first.start last.stop = r :=
        (content_continuous_tokens e first last b).symm.trans hcontent
      have hle : first.start ≤ last.stop :=
        Position.le_trans hbefore (Position.le_trans r.start_le_stop hbehind)
      have hstart : first.start = r.start := by rw [← hbetween, Range.start_between hle]
      have hstop : last.stop = r.stop := by rw [← hbetween, Range.stop_between hle]
      refine ⟨first, last, ?_, ?_, hstart, hstop, ?_⟩
      · exact (preferred_tokensAt_iff .forward hfirst hstart).mp hs
      · exact (preferred_tokensAt_iff .backward hlast hstop).mp hs'
      · have hne : first ≠ last := by
          rintro rfl
          refine hapart first hfirst ((Range.containsRange_iff _ _).mpr ⟨?_, ?_⟩)
          · exact hstart ▸ Position.le_refl _
          · exact hstop ▸ Position.le_refl _
        refine ((Context.successive_documentTokens cx _).apart hfirst hlast hne).resolve_right ?_
        intro hback
        rw [hstart, hstop] at hback
        exact Position.not_le.mpr hlt hback
  · rintro ⟨first, last, hfirst, hlast, hstart, hstop, hle⟩
    rw [(preferred_tokensAt_iff .forward hfirst.mem hstart).mpr hfirst]
    dsimp only [Except.map]
    rw [(preferred_tokensAt_iff .backward hlast.mem hstop).mpr hlast]
    refine ⟨_, rfl, ?_⟩
    have hends : first.start ≤ last.stop := by
      rw [hstart, hstop]
      exact r.start_le_stop
    refine (content_continuous_tokens e first last b).trans ?_
    rw [Range.ext_iff', Range.start_between hends, Range.stop_between hends]
    exact ⟨hstart, hstop⟩

lemma containing_tokens_iff (hr : e.document.Holds r) (hlt : r.start < r.stop) (b : Bool) :
    (∃ u, (tokens false).containing cx e r b = .ok (some u) ∧ u.content = r) ↔
      r ∈ cx.documentTokens e.document ∨ cx.Joins e.document r := by
  by_cases hinside : ∃ a ∈ cx.documentTokens e.document, a.containsRange r = true
  · obtain ⟨a, ha, hcontains⟩ := hinside
    rw [containing_tokens_of_containsRange hr.1 hlt ha hcontains]
    constructor
    · rintro ⟨u, hu, rfl⟩
      cases hu
      exact .inl ha
    · rintro (hmem | hjoins)
      · obtain ⟨hbefore, hbehind⟩ := (Range.containsRange_iff _ _).mp hcontains
        exact ⟨_, rfl, Context.eq_of_overlap ha hmem (Position.lt_of_le_of_lt hbefore hlt)
          (Position.lt_of_lt_of_le hlt hbehind)⟩
      · exact absurd hcontains (hjoins.not_containsRange ha)
  · have hapart : ∀ a ∈ cx.documentTokens e.document, ¬a.containsRange r = true :=
      fun a ha hcontains => hinside ⟨a, ha, hcontains⟩
    have hnone : ((cx.tokensAt e.document r.start).map (ofToken e)).filter
        (fun s => s.domain.containsRange r) = [] := by
      apply List.filter_eq_nil_iff.mpr
      intro s hs
      obtain ⟨a, ha, rfl⟩ := List.mem_map.mp hs
      exact hapart a (Context.mem_tokensAt.mp ha).1
    have hmem : r ∉ cx.documentTokens e.document :=
      fun h => hapart r h (Range.containsRange_refl r)
    rw [containing_tokens hr.1, if_neg (Range.not_isEmpty_of_lt hlt), hnone, or_iff_right hmem]
    exact spanning_tokens_iff hr hlt hapart b

end ScopeFinder

end Referent
