import Referent.Proofs.Resolve.OccurrencePicks
import Referent.Proofs.Resolve.Marks
import Referent.Proofs.Resolve.Steps
import Referent.Proofs.Resolve.Visible

namespace Referent

/-- Whether a sum of machine words does not overflow. -/
def AddsExactly (a b : Int64) : Prop := (a + b).toInt = a.toInt + b.toInt

instance (a b : Int64) : Decidable (AddsExactly a b) := inferInstanceAs (Decidable (_ = _))

lemma addsExactly_iff {count : Nat} (h : count < 2 ^ 63) (n : Int64) :
    AddsExactly (.ofNat count) n ↔ count + n.toInt ≤ Int64.maxValue.toInt := by
  have hmax : Int64.maxValue.toInt = 2 ^ 63 - 1 := rfl
  have hlower := n.le_toInt
  have hupper := n.toInt_lt
  rw [AddsExactly, Int64.toInt_add, Int64.toInt_ofNat_of_lt h, Int.bmod_def]
  split
  · omega
  · omega

lemma addsExactly_of_neg {count : Nat} (h : count < 2 ^ 63) {n : Int64} (hn : n < 0) :
    AddsExactly (.ofNat count) n := by
  have hneg : n.toInt < 0 := Int64.lt_iff_toInt_lt.mp hn
  have hmax : Int64.maxValue.toInt = 2 ^ 63 - 1 := rfl
  exact (addsExactly_iff h n).mpr (by omega)

namespace Mark

variable {cx : Context} {e : Editor}

lemma documentLine_eq_ok {d : Document} {i : Int} {l : Nat} :
    documentLine d i = .ok l ↔ l < d.lineCount ∧ (l : Int) = i := by
  rw [documentLine]
  split
  · rw [Except.ok.injEq]
    omega
  · constructor
    · intro h
      cases h
    · omega

lemma lineIndex_relative (hactive : activeLine e < 2 ^ 63) (n : Int64) :
    lineIndex cx e ⟨.relative, n.toInt⟩ =
      if activeLine e + n.toInt ≤ Int64.maxValue.toInt then
        documentLine e.document (activeLine e + n.toInt)
      else .error .overflow := by
  have hlower := n.le_toInt
  have hmin : Int64.minValue.toInt = -2 ^ 63 := rfl
  have hword : Int.bmod (activeLine e) UInt64.size = activeLine e :=
    Int.bmod_eq_of_le (by rw [UInt64.size]; omega) (by rw [UInt64.size]; omega)
  simp only [lineIndex, hword, signedWord, hmin]
  split
  · next h => rw [if_pos h.2]; rfl
  · next h => rw [if_neg (by omega)]; rfl

lemma lineIndex_relative_eq_ok (hlines : e.document.lineCount < 2 ^ 63)
    (hactive : activeLine e < 2 ^ 63) (n : Int64) (l : Nat) :
    lineIndex cx e ⟨.relative, n.toInt⟩ = .ok l ↔
      l < e.document.lineCount ∧ (l : Int) = activeLine e + n.toInt := by
  have hmax : Int64.maxValue.toInt = 2 ^ 63 - 1 := rfl
  rw [lineIndex_relative hactive]
  split
  · exact documentLine_eq_ok
  · exact iff_of_false (by rintro ⟨⟩) (by omega)

lemma lineIndex_relative_eq_overflow (hactive : activeLine e < 2 ^ 63) (n : Int64) :
    lineIndex cx e ⟨.relative, n.toInt⟩ = .error .overflow ↔
      ¬AddsExactly (.ofNat (activeLine e)) n := by
  rw [lineIndex_relative hactive, addsExactly_iff hactive]
  split
  · next h =>
    refine iff_of_false ?_ (not_not.mpr h)
    rw [documentLine]
    split <;> rintro ⟨⟩
  · next h => exact iff_of_true rfl h

lemma visibleLine_eq_ok {row : Int} {modulo l : Nat} :
    visibleLine e row modulo = .ok l ↔ row < modulo ∧ l ∈ visibleLines e ∧
      ((l % modulo : Nat) : Int) = row ∧ ∀ l' ∈ visibleLines e, l' % modulo = l % modulo → l' = l := by
  rw [visibleLine_eq_ok_iff]
  simp only [mem_visibleLines, IsRow, and_imp]
  constructor
  · rintro ⟨⟨_, hlt⟩, ⟨hshown, hrow⟩, hall⟩
    exact ⟨hlt, hshown, hrow, fun l' hl' hsame => hall l' hl' (by omega)⟩
  · rintro ⟨hlt, hshown, hrow, hall⟩
    exact ⟨⟨by omega, hlt⟩, ⟨hshown, hrow⟩, fun l' hl' hsame => hall l' hl' (by omega)⟩

/-- What line numbers name: the line that exact arithmetic gives, and nothing if there is none. -/
structure NamesLines (cx : Context) (e : Editor) : Prop where
  absolute (n : Int64) (l : Nat) : lineIndex cx e ⟨.absolute, n.toInt⟩ = .ok l ↔
    l < e.document.lineCount ∧ (l : Int) = n.toInt
  relative (n : Int64) (l : Nat) : lineIndex cx e ⟨.relative, n.toInt⟩ = .ok l ↔
    l < e.document.lineCount ∧ (l : Int) = activeLine e + n.toInt
  overflow (n : Int64) : lineIndex cx e ⟨.relative, n.toInt⟩ = .error .overflow ↔
    ¬AddsExactly (.ofNat (activeLine e)) n
  addsExactly (n : Int64) : AddsExactly (.ofNat (activeLine e)) n ↔
    activeLine e + n.toInt ≤ Int64.maxValue.toInt
  modulo (n : Int64) (l : Nat) : lineIndex cx e ⟨.modulo100, n.toInt⟩ = .ok l ↔
    n.toInt < cx.config.visibleLineModulo ∧ l ∈ visibleLines e ∧
      ((l % cx.config.visibleLineModulo : Nat) : Int) = n.toInt ∧
      ∀ l' ∈ visibleLines e,
        l' % cx.config.visibleLineModulo = l % cx.config.visibleLineModulo → l' = l

lemma namesLines (hlines : e.document.lineCount < 2 ^ 63) (hactive : activeLine e < 2 ^ 63) :
    NamesLines cx e where
  absolute _ _ := documentLine_eq_ok
  relative := lineIndex_relative_eq_ok hlines hactive
  overflow := lineIndex_relative_eq_overflow hactive
  addsExactly := addsExactly_iff hactive
  modulo _ _ := visibleLine_eq_ok

end Mark

namespace Target

open Resolving

variable {cx : Context} {t token : Target} {f : ScopeFinder} {direction : Direction}

def pieceWord? (count : Nat) (index : Int64) : Option Nat :=
  let i := if index < 0 then Int64.ofNat count + index else index
  if 0 ≤ i ∧ i.toUInt64.toNat < count then some i.toUInt64.toNat else none

lemma pieceIndex?_eq (count : Nat) (index : Int) : pieceIndex? count index =
    if 0 ≤ firstIndex count index ∧ firstIndex count index < count then
      some (firstIndex count index).toNat
    else none := by
  have hfirst : (if index < 0 then (count : Int) + index else index) = firstIndex count index := by
    rw [firstIndex]
    split
    · rw [if_neg (by omega)]
    · rw [if_pos (by omega)]
  rw [pieceIndex?, hfirst]

lemma pieceWord?_eq {α : Type} {l : List α} (h : l.length < 2 ^ 63) (index : Int64) :
    pieceWord? l.length index = pieceIndex? l.length index.toInt := by
  have hfirst := toInt_firstWord h index
  rw [pieceIndex?_eq, pieceWord?]
  generalize (if index < 0 then Int64.ofNat l.length + index else index) = i at hfirst ⊢
  have hnonneg : 0 ≤ i ↔ 0 ≤ i.toInt := Int64.le_iff_toInt_le
  rw [← hfirst]
  by_cases hle : 0 ≤ i.toInt
  · have hword : i.toUInt64.toNat = i.toInt.toNat := Int64.toNat_toUInt64_of_le (hnonneg.mpr hle)
    rw [hword]
    exact if_congr (by rw [hnonneg]; omega) rfl rfl
  · rw [if_neg (fun hin => hle (hnonneg.mp hin.1)), if_neg (fun hin => hle hin.1)]

lemma subpiece_eq {pieceType : PieceType} {range : Range} (hrange : t.dividedRange cx = .ok range)
    (hline : range.isSingleLine = true) (anchor active : Int) :
    let pieces := pieceSpans pieceType (t.document.textIn range)
    t.subpiece cx pieceType anchor active false false =
      match pieceIndex? pieces.length anchor, pieceIndex? pieces.length active with
      | some first, some last => .ok [ofPieces pieceType t.editor range pieces (min first last)
          (max first last) (last < first)]
      | _, _ => .error (.outOfRange (pieceScope pieceType).display) := by
  intro pieces
  rw [subpiece, hrange]
  simp only [bind, Except.bind, Bool.or_self, Bool.false_eq_true, if_false, hline, Bool.not_true]
  cases pieceIndex? (pieceSpans pieceType (t.document.textIn range)).length anchor with
  | none => rfl
  | some first =>
    cases pieceIndex? (pieceSpans pieceType (t.document.textIn range)).length active with
    | none => rfl
    | some last => rfl

def scopesTouched (cx : Context) (f : ScopeFinder) (direction : Direction) (t : Target) :
    Except TargetError (List Scope) :=
  if t.content.isEmpty then t.scopeAtCursor cx f direction else t.scopesIntersecting cx f

def scopesBehind (cx : Context) (f : ScopeFinder) (direction : Direction) (t : Target) (first : Scope)
    (rest : List Scope) : Except TargetError (List Scope) :=
  f.walk cx t.editor
    (match direction with
    | .forward => (rest.getLastD first).domain.stop
    | .backward => first.domain.start)
    direction (some .disallowedIfStrict)

lemma scopesFromTarget_of_untouched (hfound : t.scopesTouched cx f direction = .ok []) (length : Nat) :
    t.scopesFromTarget cx f length direction = .error (.noContainingScope f.scopeType.display) := by
  rw [scopesTouched] at hfound
  rw [scopesFromTarget]
  split at hfound
  · next h =>
    rw [if_pos h, hfound]
    rfl
  · next h =>
    rw [if_neg h, hfound]
    rfl

lemma extend_of_walk {first : Scope} {rest further : List Scope}
    (hfurther : t.scopesBehind cx f direction first rest = .ok further) (missing : Nat) :
    t.extend cx f missing direction first rest =
      if further.length < missing then .error (.outOfRange f.scopeType.display)
      else .ok (direction.order (direction.order (first :: rest) ++ further.take missing)) := by
  cases direction with
  | forward =>
    have hwalk : f.walk cx t.editor (rest.getLastD first).domain.stop .forward
        (some .disallowedIfStrict) = .ok further := hfurther
    simp only [extend, hwalk, bind, Except.bind]
    split <;> rfl
  | backward =>
    have hwalk : f.walk cx t.editor first.domain.start .backward (some .disallowedIfStrict) =
        .ok further := hfurther
    simp only [extend, hwalk, bind, Except.bind, Direction.order, List.reverse_append,
      List.reverse_reverse]
    split <;> rfl

lemma scopesFromTarget_of_walk {first : Scope} {rest further : List Scope}
    (hfound : t.scopesTouched cx f direction = .ok (first :: rest))
    (hfurther : t.scopesBehind cx f direction first rest = .ok further) (length : Nat) :
    t.scopesFromTarget cx f length direction =
      if length < rest.length + 1 then
        .error (.tooFewScopes f.scopeType.display length (rest.length + 1))
      else if length ≤ rest.length + 1 + further.length then
        .ok (direction.order ((direction.order (first :: rest) ++ further).take length))
      else .error (.outOfRange f.scopeType.display) := by
  have hcons : t.scopesFromTarget cx f length direction =
      if length < rest.length + 1 then
        .error (.tooFewScopes f.scopeType.display length (rest.length + 1))
      else if rest.length + 1 < length then
        t.extend cx f (length - (rest.length + 1)) direction first rest
      else .ok (first :: rest) := by
    rw [scopesTouched] at hfound
    rw [scopesFromTarget]
    split at hfound
    · next h =>
      rw [if_pos h, hfound]
      rfl
    · next h =>
      rw [if_neg h, hfound]
      rfl
  rw [hcons]
  split
  · rfl
  · next henough =>
    have htake : (direction.order (first :: rest) ++ further).take length =
        direction.order (first :: rest) ++ further.take (length - (rest.length + 1)) := by
      have hlength : (direction.order (first :: rest)).length = rest.length + 1 :=
        Direction.length_order _ _
      rw [List.take_append, List.take_of_length_le (by omega), hlength]
    rw [htake]
    split
    · rw [extend_of_walk hfurther]
      by_cases hfew : further.length < length - (rest.length + 1)
      · rw [if_pos hfew, if_neg (by omega)]
      · rw [if_neg hfew, if_pos (by omega)]
    · have hnone : length - (rest.length + 1) = 0 := by omega
      rw [if_pos (by omega), hnone, List.take_zero, List.append_nil, Direction.order_order]

lemma few_taken_iff {α : Type} {l : List α} {offset length : Nat} :
    (((l.drop offset).take length).length < length || ((l.drop offset).take length).isEmpty) = true ↔
      ¬(1 ≤ length ∧ offset + length ≤ l.length) := by
  rw [Bool.or_eq_true, decide_eq_true_eq, List.isEmpty_iff, ← List.length_eq_zero_iff,
    List.length_take, List.length_drop]
  omega

lemma mapM_ite {α β : Type} {P : α → Prop} [DecidablePred P] (g : α → β) (l : List α) :
    (l.mapM fun a => if P a then some (g a) else none) =
      if ∀ a ∈ l, P a then some (l.map g) else none := by
  induction l with
  | nil => simp
  | cons a l ih =>
    rw [List.mapM_cons, ih]
    by_cases ha : P a
    · by_cases hl : ∀ a ∈ l, P a
      · rw [if_pos ha, if_pos hl, if_pos (List.forall_mem_cons.mpr ⟨ha, hl⟩)]
        rfl
      · rw [if_pos ha, if_neg hl, if_neg fun h => hl (List.forall_mem_cons.mp h).2]
        rfl
    · rw [if_neg ha, if_neg fun h => ha (List.forall_mem_cons.mp h).1]
      rfl

lemma occurrences_ordinal (htext : t.text.isEmpty = false) {start : Int}
    (hstart : Int64.minValue.toInt ≤ start) {length : Nat} (hpos : 1 ≤ length) :
    t.occurrences cx (.ordinal start length) =
      if ∀ r ∈ t.searchRanges cx, InRange (t.occurrencesIn cx r).length start length then
        .ok ((t.searchRanges cx).flatMap fun r => ((t.occurrencesIn cx r).drop
          (firstIndex (t.occurrencesIn cx r).length start).toNat).take length)
      else .error (.outOfRange ScopeType.occurrence.display) := by
  have hordinal : t.ordinalOccurrences cx start length = _ :=
    funext fun r => ordinalOccurrences_eq (r := r) hstart hpos
  rw [occurrences, htext, if_neg Bool.false_ne_true, queriedOccurrences, hordinal, mapM_ite]
  by_cases h : ∀ r ∈ t.searchRanges cx, InRange (t.occurrencesIn cx r).length start length
  · rw [if_pos h, if_pos h, List.flatMap_def]
  · rw [if_neg h, if_neg h]

def occurrencesFrom (cx : Context) (t : Target) (offset : Nat) (direction : Direction)
    (origin : Range) : List Target :=
  t.occurrencesToward cx direction (rangeToward t.document origin direction offset)

def origins (cx : Context) (t : Target) : List Range :=
  ((cx.stored? .occurrenceReference).getD [t]).map content

lemma occurrences_relative (htext : t.text.isEmpty = false) (offset : Nat) {length : Nat}
    (hpos : 1 ≤ length) (direction : Direction) :
    t.occurrences cx (.relative offset length direction) =
      if ∀ r ∈ t.origins cx,
          offset - 1 + length ≤ (t.occurrencesFrom cx offset direction r).length then
        .ok ((t.origins cx).flatMap fun r =>
          ((t.occurrencesFrom cx offset direction r).drop (offset - 1)).take length)
      else .error (.outOfRange ScopeType.occurrence.display) := by
  have hrelative : t.relativeOccurrences cx offset length direction = _ :=
    funext fun r => takeExactly?_eq hpos (offset - 1) (t.occurrencesFrom cx offset direction r)
  rw [occurrences, htext, if_neg Bool.false_ne_true, queriedOccurrences, ← origins, hrelative,
    mapM_ite]
  by_cases h : ∀ r ∈ t.origins cx,
      offset - 1 + length ≤ (t.occurrencesFrom cx offset direction r).length
  · rw [if_pos h, if_pos h, List.flatMap_def]
  · rw [if_neg h, if_neg h]

/-- What modifiers pick by number: the pieces that exact arithmetic gives, and nothing if not all of them are
there. The numbers are words, and so are those that are computed from them. -/
structure PicksExactly (cx : Context) (t : Target) : Prop where
  subpiece {pieceType : PieceType} {range : Range} (hrange : t.dividedRange cx = .ok range)
    (hline : range.isSingleLine = true)
    (hwords : (pieceSpans pieceType (t.document.textIn range)).length < 2 ^ 63)
    (anchor active : Int64) (a : Arena) :
    let pieces := pieceSpans pieceType (t.document.textIn range)
    let first := firstIndex pieces.length anchor.toInt
    let last := firstIndex pieces.length active.toInt
    ((Modifier.subpiece pieceType anchor.toInt active.toInt false false).run cx t).outcome a =
      (if (0 ≤ first ∧ first < pieces.length) ∧ 0 ≤ last ∧ last < pieces.length then
        .ok [ofPieces pieceType t.editor range pieces (min first.toNat last.toNat)
          (max first.toNat last.toNat) (last < first)]
      else .error (.outOfRange (pieceScope pieceType).display), a) ∧
    (anchor < 0 → AddsExactly (.ofNat pieces.length) anchor) ∧
    pieceWord? pieces.length anchor =
      if 0 ≤ first ∧ first < pieces.length then some first.toNat else none
  ordinalScope {s : ScopeType} (hs : s ≠ .occurrence) {scopes : List Scope}
    (hscopes : t.everyScopeOf cx s = .ok scopes) (hwords : scopes.length < 2 ^ 63) (start : Int64)
    (length : UInt64) (isEvery : Bool) (a : Arena) :
    let first := firstIndex scopes.length start.toInt
    ((Modifier.ordinalScope s start.toInt length.toNat isEvery).run cx t).outcome a =
      (if InRange scopes.length start.toInt length.toNat then
        .ok (pick ((scopes.drop first.toNat).take length.toNat) isEvery t.isReversed)
      else .error (.outOfRange s.display), a) ∧
    (start < 0 → AddsExactly (.ofNat scopes.length) start) ∧
    sliceWords? scopes start length =
      if InRange scopes.length start.toInt length.toNat then
        some ((scopes.drop first.toNat).take length.toNat)
      else none
  relativeScope_beyond {s : ScopeType} (hs : s ≠ .occurrence) {f : ScopeFinder}
    (hf : ScopeFinder.ofTarget s t = .ok f) {direction : Direction} {scopes : List Scope}
    (hscopes : f.walk cx t.editor (t.content.edge direction) direction
      (some (if t.content.isEmpty then .disallowed else .disallowedIfStrict)) = .ok scopes)
    {offset : UInt64} (hoffset : offset ≠ 0) (length : UInt64) (isEvery : Bool) (a : Arena) :
    (offset - 1).toNat = offset.toNat - 1 ∧
    ((Modifier.relativeScope s offset.toNat length.toNat direction isEvery).run cx t).outcome a =
      (if 1 ≤ length.toNat ∧ offset.toNat - 1 + length.toNat ≤ scopes.length then
        .ok (pick (direction.order ((scopes.drop (offset.toNat - 1)).take length.toNat)) isEvery
          t.isReversed)
      else .error (.outOfRange f.scopeType.display), a)
  relativeScope_touched {s : ScopeType} (hs : s ≠ .occurrence) {f : ScopeFinder}
    (hf : ScopeFinder.ofTarget s t = .ok f) {direction : Direction} {first : Scope}
    {rest further : List Scope} (hfound : t.scopesTouched cx f direction = .ok (first :: rest))
    (hfurther : t.scopesBehind cx f direction first rest = .ok further) (length : UInt64)
    (isEvery : Bool) (a : Arena) :
    let touched := rest.length + 1
    (touched ≤ length.toNat → (length - .ofNat touched).toNat = length.toNat - touched) ∧
    ((Modifier.relativeScope s 0 length.toNat direction isEvery).run cx t).outcome a =
      (if length.toNat < touched then .error (.tooFewScopes f.scopeType.display length.toNat touched)
      else if length.toNat ≤ touched + further.length then
        .ok (pick (direction.order ((direction.order (first :: rest) ++ further).take length.toNat))
          isEvery t.isReversed)
      else .error (.outOfRange f.scopeType.display), a)
  relativeScope_untouched {s : ScopeType} (hs : s ≠ .occurrence) {f : ScopeFinder}
    (hf : ScopeFinder.ofTarget s t = .ok f) {direction : Direction}
    (hfound : t.scopesTouched cx f direction = .ok []) (length : UInt64) (isEvery : Bool) (a : Arena) :
    ((Modifier.relativeScope s 0 length.toNat direction isEvery).run cx t).outcome a =
      (.error (.noContainingScope f.scopeType.display), a)
  ordinalOccurrences {token : Target} {a c : Arena} (htoken : (t.expandCursor cx).outcome a = (.ok token, c))
    (htext : token.text.isEmpty = false) (start : Int64) {length : UInt64} (hpos : 1 ≤ length.toNat)
    (isEvery : Bool) :
    let found r := token.occurrencesIn cx r
    let first r := firstIndex (found r).length start.toInt
    ((Modifier.ordinalScope .occurrence start.toInt length.toNat isEvery).run cx t).outcome a =
      (if ∀ r ∈ token.searchRanges cx, InRange (found r).length start.toInt length.toNat then
        .ok ((token.searchRanges cx).flatMap fun r =>
          ((found r).drop (first r).toNat).take length.toNat)
      else .error (.outOfRange ScopeType.occurrence.display), c) ∧
    ∀ r, (found r).length < 2 ^ 63 → ordinalWords? (found r) start length =
      if InRange (found r).length start.toInt length.toNat then
        some (((found r).drop (first r).toNat).take length.toNat)
      else none
  relativeOccurrences {token : Target} {a c : Arena}
    (htoken : (t.expandCursor cx).outcome a = (.ok token, c)) (htext : token.text.isEmpty = false)
    (offset : UInt64) {length : UInt64} (hpos : 1 ≤ length.toNat) (direction : Direction)
    (isEvery : Bool) :
    let found r := token.occurrencesFrom cx offset.toNat direction r
    ((Modifier.relativeScope .occurrence offset.toNat length.toNat direction isEvery).run cx t).outcome
        a =
      (if ∀ r ∈ token.origins cx, offset.toNat - 1 + length.toNat ≤ (found r).length then
        .ok ((token.origins cx).flatMap fun r =>
          ((found r).drop (offset.toNat - 1)).take length.toNat)
      else .error (.outOfRange ScopeType.occurrence.display), c)

lemma picksExactly (cx : Context) (t : Target) : t.PicksExactly cx where
  subpiece {pieceType range} hrange hline hwords anchor active a := by
    refine ⟨?_, addsExactly_of_neg hwords, by rw [pieceWord?_eq hwords, pieceIndex?_eq]⟩
    rw [Modifier.run, outcome_lift, subpiece_eq hrange hline, pieceIndex?_eq, pieceIndex?_eq]
    generalize pieceSpans pieceType (t.document.textIn range) = pieces
    generalize firstIndex pieces.length anchor.toInt = first
    generalize firstIndex pieces.length active.toInt = last
    by_cases hfirst : 0 ≤ first ∧ first < pieces.length
    · by_cases hlast : 0 ≤ last ∧ last < pieces.length
      · have hreversed : last.toNat < first.toNat ↔ last < first := by omega
        rw [if_pos hfirst, if_pos hlast, if_pos ⟨hfirst, hlast⟩]
        simp only [hreversed]
      · rw [if_pos hfirst, if_neg hlast, if_neg fun h => hlast h.2]
    · have hout : ¬((0 ≤ first ∧ first < pieces.length) ∧ 0 ≤ last ∧ last < pieces.length) :=
        fun h => hfirst h.1
      rw [if_neg hfirst, if_neg hout]
  ordinalScope hs scopes hscopes hwords start length isEvery a :=
    ⟨run_ordinalScope hs hscopes _ _ isEvery a, addsExactly_of_neg hwords,
      by rw [sliceWords?_eq hwords, sliceFrom?_eq]⟩
  relativeScope_beyond {s} hs {f} hf {direction scopes} hscopes {offset} hoffset length isEvery a := by
    have hpos : offset.toNat ≠ 0 := fun h => hoffset (UInt64.toNat_inj.mp h)
    have hone : (1 : UInt64) ≤ offset := UInt64.le_iff_toNat_le.mpr (Nat.pos_of_ne_zero hpos)
    refine ⟨UInt64.toNat_sub_of_le _ _ hone, ?_⟩
    rw [Modifier.run, if_neg hs, outcome_lift, relativeScope_eq hf, if_neg hpos,
      scopesBeyondTarget_of_walk hscopes]
    dsimp only
    by_cases h : 1 ≤ length.toNat ∧ offset.toNat - 1 + length.toNat ≤ scopes.length
    · rw [if_neg (fun hfew => few_taken_iff.mp hfew h), if_pos h]
      rfl
    · rw [if_pos (few_taken_iff.mpr h), if_neg h]
      rfl
  relativeScope_touched {s} hs {f} hf {direction first rest further} hfound hfurther length isEvery a := by
    refine ⟨fun hle => ?_, ?_⟩
    · have hlt := length.toNat_lt
      have hword : (UInt64.ofNat (rest.length + 1)).toNat = rest.length + 1 :=
        UInt64.toNat_ofNat_of_lt' (Nat.lt_of_le_of_lt hle hlt)
      rw [UInt64.toNat_sub_of_le _ _ (UInt64.le_iff_toNat_le.mpr (by rwa [hword])), hword]
    · rw [Modifier.run, if_neg hs, outcome_lift, relativeScope_eq hf, if_pos rfl,
        scopesFromTarget_of_walk hfound hfurther]
      by_cases hmany : length.toNat < rest.length + 1
      · rw [if_pos hmany, if_pos hmany]
        rfl
      · by_cases henough : length.toNat ≤ rest.length + 1 + further.length
        · rw [if_neg hmany, if_neg hmany, if_pos henough, if_pos henough]
          rfl
        · rw [if_neg hmany, if_neg hmany, if_neg henough, if_neg henough]
          rfl
  relativeScope_untouched {s} hs {f} hf {direction} hfound length isEvery a := by
    rw [Modifier.run, if_neg hs, outcome_lift, relativeScope_eq hf, if_pos rfl,
      scopesFromTarget_of_untouched hfound]
    rfl
  ordinalOccurrences {token a c} htoken htext start {length} hpos isEvery := by
    refine ⟨?_, fun r hwords => ordinalWords?_eq hwords start hpos⟩
    rw [Modifier.run, if_pos rfl, outcome_resolveOccurrences _ htoken,
      occurrences_ordinal htext start.minValue_le_toInt hpos]
  relativeOccurrences {token a c} htoken htext offset {length} hpos direction isEvery := by
    rw [Modifier.run, if_pos rfl, outcome_resolveOccurrences _ htoken,
      occurrences_relative htext _ hpos]

end Target

/-- The numbers of lines, scopes, occurrences and pieces. Where at least one occurrence is wanted, they pick
what exact arithmetic gives. Only the sum for a relative line may overflow. -/
theorem Modifier.picks_exactly {cx : Context} {e : Editor} (hlines : e.document.lineCount < 2 ^ 63)
    (hactive : Mark.activeLine e < 2 ^ 63) (t : Target) :
    Mark.NamesLines cx e ∧ t.PicksExactly cx :=
  ⟨Mark.namesLines hlines hactive, t.picksExactly cx⟩

theorem Modifier.picks_exactly_atLimits :
    let t : Target := .plain threeTimes (.onLine 0 0 1) false
    threeTimes.document.lineCount < 2 ^ 63 ∧ Mark.activeLine threeTimes < 2 ^ 63 ∧
      (∀ l, Mark.lineIndex {} threeTimes ⟨.relative, Int64.maxValue.toInt⟩ ≠ .ok l) ∧
      ((ordinalScope .occurrence Int64.minValue.toInt 1 true).run {} t).outcome .empty =
        (.error (.outOfRange ScopeType.occurrence.display), .empty) := by
  intro t
  have hlines : threeTimes.document.lineCount < 2 ^ 63 := by decide
  have hactive : Mark.activeLine threeTimes < 2 ^ 63 := by decide
  obtain ⟨hnames, hpicks⟩ : Mark.NamesLines {} threeTimes ∧ t.PicksExactly {} :=
    picks_exactly hlines hactive t
  refine ⟨hlines, hactive, fun l hl => ?_, ?_⟩
  · obtain ⟨hlt, heq⟩ := (hnames.relative Int64.maxValue l).mp hl
    have hmax : Int64.maxValue.toInt = 2 ^ 63 - 1 := rfl
    omega
  · have htoken : (t.expandCursor {}).outcome .empty = (.ok t, .empty) := rfl
    have hlength : (1 : UInt64).toNat = 1 := rfl
    have hordinal := (hpicks.ordinalOccurrences htoken (by decide +kernel) Int64.minValue
      (Nat.le_of_eq hlength.symm) true).1
    rw [hlength] at hordinal
    rw [hordinal, if_neg (by decide +kernel)]

theorem Modifier.not_picks_exactly :
    (∃ t targets, ((everyScope .occurrence).run {} t).outcome .empty = (.ok targets, .empty) ∧
      targets.length = 3 ∧
      ((ordinalScope .occurrence 1000 0 true).run {} t).outcome .empty = (.ok [], .empty)) ∧
    ∃ e : Editor, (∀ s ∈ e.selections, e.document.Has s.active) ∧
      ¬AddsExactly (.ofNat (Mark.activeLine e)) Int64.maxValue ∧
      Mark.lineIndex {} e ⟨.relative, Int64.maxValue.toInt⟩ = .error .overflow := by
  constructor
  · obtain ⟨targets, hrun, hcontents⟩ := everyScope_threeTimes (r := .onLine 0 0 1) (by simp)
    refine ⟨_, targets, hrun, ?_, ?_⟩
    · rw [← List.length_map (f := Target.content), hcontents]
      rfl
    · rfl
  · exact ⟨⟨1, .ofText 1 "plaintext" "a\nb".toList, [.point ⟨1, 0⟩], []⟩, by decide, by decide,
      by decide⟩

end Referent
