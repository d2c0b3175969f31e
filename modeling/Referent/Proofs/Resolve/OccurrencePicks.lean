import Referent.Proofs.Document.LineTexts
import Referent.Proofs.Resolve.Ordinals
import Referent.Proofs.Resolve.Scanning
import Referent.Proofs.Scope.TokensAt

namespace Referent

section Taken

variable {α : Type} {l : List α} {offset count behind : Nat}

lemma takeExactly?_eq (hpos : 1 ≤ count) (offset : Nat) (l : List α) : takeExactly? offset count l =
    if offset + count ≤ l.length then some ((l.drop offset).take count) else none := by
  rw [takeExactly?, List.length_take, List.length_drop]
  by_cases h : offset + count ≤ l.length
  · rw [if_pos h, if_neg (by omega)]
  · rw [if_neg h, if_pos (by omega)]

lemma reverse_takeExactly?_reverse (hpos : 1 ≤ count) (behind : Nat) (l : List α) :
    (takeExactly? behind count l.reverse).map List.reverse =
      if behind + count ≤ l.length then some ((l.drop (l.length - behind - count)).take count)
      else none := by
  rw [takeExactly?_eq hpos, List.length_reverse]
  by_cases h : behind + count ≤ l.length
  · have hrest : l.length - behind - (l.length - behind - count) = count := by omega
    rw [if_pos h, if_pos h, Option.map_some, List.drop_reverse, List.take_reverse, List.reverse_reverse,
      List.length_take, Nat.min_eq_left (Nat.sub_le _ _), List.drop_take, hrest]
  · rw [if_neg h, if_neg h, Option.map_none]

lemma takeExactly?_eq_mapM (offset count : Nat) (l : List α) :
    takeExactly? offset count l = (List.range count).mapM fun i => l[offset + i]? := by
  induction count generalizing offset with
  | zero => simp [takeExactly?]
  | succ count ih =>
    rw [List.range_succ_eq_map, List.mapM_cons, List.mapM_map]
    have hshift : ((fun i => l[offset + i]?) ∘ Nat.succ) = fun i => l[offset + 1 + i]? := by
      funext i
      show l[offset + (i + 1)]? = _
      congr 1
      omega
    rw [hshift, ← ih, Nat.add_zero]
    cases hfirst : l[offset]? with
    | none =>
      have hend : l.drop offset = [] := List.drop_eq_nil_of_le (List.getElem?_eq_none_iff.mp hfirst)
      simp [takeExactly?, hend]
    | some b =>
      have hsplit : l.drop offset = b :: l.drop (offset + 1) := by
        obtain ⟨hlt, rfl⟩ := List.getElem?_eq_some_iff.mp hfirst
        exact List.drop_eq_getElem_cons hlt
      rw [takeExactly?, takeExactly?, hsplit, List.take_succ_cons, List.length_cons]
      dsimp only [bind, Option.bind]
      split
      · rw [if_pos (by omega)]
      · rw [if_neg (by omega)]
        rfl

end Taken

namespace Target

def neighbour? {α : Type} (l : List α) (k : Nat) (direction : Direction) (distance : Nat) : Option α :=
  match direction with
  | .forward => l[k + distance]?
  | .backward => if distance ≤ k then l[k - distance]? else none

def ordinalWords? {α : Type} (l : List α) (start : Int64) (length : UInt64) : Option (List α) :=
  if 0 ≤ start then takeExactly? start.toUInt64.toNat length.toNat l
  else if Int64.maxValue.toInt < length.toNat then none
  else
    let stop := start + length.toInt64
    if stop < start ∨ stop = Int64.minValue ∨ -stop < 0 then none
    else (takeExactly? (-stop).toUInt64.toNat length.toNat l.reverse).map List.reverse

variable {cx : Context} {t token : Target} {r : Range} {a c : Arena} {length : Nat}

lemma ordinalOccurrences_eq {start : Int} (hstart : Int64.minValue.toInt ≤ start) (hpos : 1 ≤ length) :
    t.ordinalOccurrences cx start length r =
      if InRange (t.occurrencesIn cx r).length start length then
        some (((t.occurrencesIn cx r).drop
          (firstIndex (t.occurrencesIn cx r).length start).toNat).take length)
      else none := by
  have hmin : Int64.minValue.toInt = -2 ^ 63 := rfl
  have hmax : Int64.maxValue.toInt = 2 ^ 63 - 1 := rfl
  rw [ordinalOccurrences, occurrencesToward, occurrencesToward]
  generalize t.occurrencesIn cx r = l
  by_cases hneg : 0 ≤ start
  · have hfirst : firstIndex l.length start = start := if_pos hneg
    rw [if_pos hneg, takeExactly?_eq hpos]
    exact if_congr (by rw [InRange, hfirst]; omega) (by rw [hfirst]) rfl
  · have hfirst : firstIndex l.length start = l.length + start := if_neg hneg
    rw [if_neg hneg]
    by_cases hbehind : 0 ≤ -(start + length)
    · have hrest : l.length - (-(start + length)).toNat - length = (l.length + start).toNat := by
        omega
      rw [if_pos ⟨hbehind, by omega⟩, reverse_takeExactly?_reverse hpos]
      exact if_congr (by rw [InRange, hfirst]; omega) (by rw [hfirst, hrest]) rfl
    · rw [if_neg (by omega), if_neg (by rw [InRange, hfirst]; omega)]

lemma toInt_toInt64 {length : UInt64} (h : length.toNat < 2 ^ 63) :
    length.toInt64.toInt = length.toNat := by
  have hword : 2 * length.toBitVec.toNat < 2 ^ 64 := by
    rw [UInt64.toNat_toBitVec]
    omega
  exact BitVec.toInt_eq_toNat_of_lt hword

lemma ordinalWords?_eq {α : Type} {l : List α} (hl : l.length < 2 ^ 63) (start : Int64) {length : UInt64}
    (hpos : 1 ≤ length.toNat) : ordinalWords? l start length =
      if InRange l.length start.toInt length.toNat then
        some ((l.drop (firstIndex l.length start.toInt).toNat).take length.toNat)
      else none := by
  have hmin := start.le_toInt
  have hmax : Int64.maxValue.toInt = 2 ^ 63 - 1 := rfl
  have hnonneg : 0 ≤ start ↔ 0 ≤ start.toInt := Int64.le_iff_toInt_le
  rw [ordinalWords?]
  by_cases hneg : 0 ≤ start.toInt
  · have hfirst : firstIndex l.length start.toInt = start.toInt := if_pos hneg
    have hword : start.toUInt64.toNat = start.toInt.toNat :=
      Int64.toNat_toUInt64_of_le (hnonneg.mpr hneg)
    rw [if_pos (hnonneg.mpr hneg), takeExactly?_eq hpos, hword]
    exact if_congr (by rw [InRange, hfirst]; omega) (by rw [hfirst]) rfl
  · have hfirst : firstIndex l.length start.toInt = l.length + start.toInt := if_neg hneg
    rw [if_neg (hnonneg.not.mpr hneg)]
    by_cases hlong : Int64.maxValue.toInt < length.toNat
    · rw [if_pos hlong, if_neg (by rw [InRange, hfirst]; omega)]
    · have hlength : length.toInt64.toInt = length.toNat := toInt_toInt64 (by omega)
      have hstop : (start + length.toInt64).toInt = start.toInt + length.toNat := by
        rw [Int64.toInt_add, hlength, Int.bmod_eq_of_le (by omega) (by omega)]
      have hnegated : (-(start + length.toInt64)).toInt = -(start.toInt + length.toNat) := by
        rw [Int64.toInt_neg, hstop, Int.bmod_eq_of_le (by omega) (by omega)]
      have hoverflow : ¬start + length.toInt64 < start := by
        rw [Int64.lt_iff_toInt_lt, hstop]
        omega
      have hleast : start + length.toInt64 ≠ Int64.minValue := by
        intro h
        rw [h, Int64.toInt_minValue] at hstop
        omega
      have hsign : -(start + length.toInt64) < 0 ↔ 0 < start.toInt + length.toNat := by
        rw [Int64.lt_iff_toInt_lt, hnegated]
        show -(start.toInt + length.toNat) < 0 ↔ _
        omega
      simp only [hoverflow, hleast, hsign, false_or, if_neg hlong]
      by_cases hover : 0 < start.toInt + length.toNat
      · rw [if_pos hover, if_neg (by rw [InRange, hfirst]; omega)]
      · have hword : (-(start + length.toInt64)).toUInt64.toNat = (-(start.toInt + length.toNat)).toNat := by
          rw [← hnegated]
          apply Int64.toNat_toUInt64_of_le
          rw [Int64.le_iff_toInt_le, hnegated]
          show 0 ≤ -(start.toInt + length.toNat)
          omega
        have hrest : l.length - (-(start.toInt + length.toNat)).toNat - length.toNat =
            (l.length + start.toInt).toNat := by omega
        rw [if_neg hover, reverse_takeExactly?_reverse hpos, hword]
        exact if_congr (by rw [InRange, hfirst]; omega) (by rw [hfirst, hrest]) rfl

lemma outcome_resolveOccurrences (query : OccurrenceQuery)
    (h : (t.expandCursor cx).outcome a = (.ok token, c)) :
    (t.resolveOccurrences cx query).outcome a = (token.occurrences cx query, c) :=
  Resolving.outcome_bind_ok _ h

lemma searchRanges_congr (h : token.editor = t.editor) : token.searchRanges cx = t.searchRanges cx := by
  rw [searchRanges, searchRanges, document, document, h]

lemma exists_of_everyOccurrence {targets : List Target} (hsingle : t.searchRanges cx = [r])
    (h : (t.resolveOccurrences cx .every).outcome a = (.ok targets, c)) :
    ∃ token, (t.expandCursor cx).outcome a = (.ok token, c) ∧ token.editor = t.editor ∧
      token.text.isEmpty = false ∧ targets = token.occurrencesIn cx r := by
  obtain ⟨token, c', htoken, h⟩ := Resolving.outcome_bind_eq_ok.mp h
  obtain ⟨hfound, rfl⟩ := Prod.mk.inj h
  have heditor := editor_expandCursor htoken
  have hranges := (searchRanges_congr heditor).trans hsingle
  refine ⟨token, htoken, heditor, ?_, ?_⟩
  · rw [occurrences] at hfound
    split at hfound
    · cases hfound
    · exact Bool.eq_false_iff.mpr ‹_›
  · rw [everyOccurrence_eq hfound, hranges]
    simp [occurrencesToward]

lemma exists_of_inferredToken {v : Target} (h : t.inferredToken cx = .ok (some v))
    (hp : t.document.Has t.content.start) : t.content.isEmpty = true ∧
      ∃ s ∈ cx.documentTokens t.document, v = .token t.editor s t.isReversed := by
  rw [inferredToken] at h
  split at h
  · next hbare =>
    have hempty : t.content.isEmpty = true := by simpa using (Bool.and_eq_true_iff.mp hbare).2
    exact ⟨hempty, ScopeFinder.containing_tokens_of_isEmpty hp hempty h⟩
  · cases h

lemma exists_of_everyOccurrence_stored (hstored : cx.stored? .occurrenceReference = none) {u : Target}
    {targets : List Target} {k : Nat}
    (h : (t.resolveOccurrences cx .every).outcome a = (.ok targets, c)) (hk : targets[k]? = some u)
    (hu : u.content = t.content) : (t.expandCursor cx).outcome a = (.ok t, c) ∧ 0 < t.text.length ∧
      targets = t.occurrencesIn cx t.document.range := by
  have hsingle : t.searchRanges cx = [t.document.range] := by rw [searchRanges, hstored]
  obtain ⟨token, htoken, heditor, htext, rfl⟩ := exists_of_everyOccurrence hsingle h
  have hpos : 0 < token.text.length := List.length_pos_of_ne_nil (by simpa using htext)
  obtain ⟨start, hstart, hplace⟩ := exists_of_mem_occurrencesIn (List.mem_of_getElem? hk)
  have hdocument : token.document = t.document := congrArg Editor.document heditor
  suffices hsame : token = t by
    subst hsame
    exact ⟨htoken, hpos, rfl⟩
  obtain ⟨found, b, hfound, hrest⟩ := Resolving.outcome_bind_eq_ok.mp htoken
  cases found with
  | none =>
    cases hrest
    rfl
  | some v =>
    obtain ⟨hcursor, s, hs, rfl⟩ := exists_of_inferredToken (congrArg Prod.fst hfound) (by
      rw [← hu, hplace, (token.ends_occurrenceAt start).1, hdocument]
      exact t.document.has_positionAt start)
    obtain ⟨id, rfl⟩ : ∃ id, token = (Target.token t.editor s t.isReversed).withThat id := by
      cases hrest
      exact ⟨_, rfl⟩
    have hchars : ∀ c ∈ t.document.textIn s, LineEnding.ofChar? c = none :=
      fun c hc => Document.ofChar?_of_mem_textIn (Context.holdsLine_of_mem hs) hc
    rw [hdocument, Document.textIn_range, Document.offsetAt_start_range] at hstart
    have hlt := start_lt_stop_occurrenceAt hpos (prefix_of_mem_startsOf_zero hstart) hchars
    rw [← hplace, hu, Range.isEmpty_iff.mp hcursor] at hlt
    exact absurd (Position.le_refl _) (Position.not_le.mpr hlt)

lemma relativeOccurrences_eq {u : Target} {k : Nat}
    (hk : (t.occurrencesIn cx t.document.range)[k]? = some u) (hu : u.content = t.content)
    (hpos : 0 < t.text.length) (offset length : Nat) (direction : Direction) :
    t.relativeOccurrences cx offset length direction t.content =
      (List.range length).mapM fun i =>
        neighbour? (t.occurrencesIn cx t.document.range) k direction (offset + i) := by
  have hlt : k < (t.occurrencesIn cx t.document.range).length := (List.getElem?_eq_some_iff.mp hk).1
  rw [relativeOccurrences, occurrencesToward_eq hk hu hpos, takeExactly?_eq_mapM]
  congr 1
  funext i
  generalize t.occurrencesIn cx t.document.range = l at hlt ⊢
  cases direction with
  | forward =>
    rw [neighbour?, List.getElem?_drop]
    congr 1
    omega
  | backward =>
    dsimp only [neighbour?]
    by_cases hle : offset + i ≤ k
    · have hindex : (l.take (k + 1 - min offset 1)).length - 1 - (offset - 1 + i) = k - (offset + i) := by
        rw [List.length_take]
        omega
      rw [if_pos hle, List.getElem?_reverse (by rw [List.length_take]; omega), hindex,
        List.getElem?_take_of_lt (by omega)]
    · rw [if_neg hle, List.getElem?_eq_none (by rw [List.length_reverse, List.length_take]; omega)]

end Target

/-- The occurrences in one searched range that are picked by number are a slice of all that are found there if
they are in range, and are missing otherwise. In machine words the slice is the same. -/
theorem Modifier.ordinalScope_occurrences {cx : Context} {t : Target} {r : Range} {a a' : Arena}
    {targets : List Target} (hsingle : t.searchRanges cx = [r])
    (h : ((everyScope .occurrence).run cx t).outcome a = (.ok targets, a')) (start : Int64)
    {length : UInt64} (hpos : 1 ≤ length.toNat) :
    Range.Successive (targets.map Target.content) ∧
    (∀ isEvery, ((ordinalScope .occurrence start.toInt length.toNat isEvery).run cx t).outcome a =
      (if Target.InRange targets.length start.toInt length.toNat then
        .ok ((targets.drop (Target.firstIndex targets.length start.toInt).toNat).take length.toNat)
      else .error (.outOfRange ScopeType.occurrence.display), a')) ∧
    (targets.length < 2 ^ 63 → Target.ordinalWords? targets start length =
      if Target.InRange targets.length start.toInt length.toNat then
        some ((targets.drop (Target.firstIndex targets.length start.toInt).toNat).take length.toNat)
      else none) := by
  rw [run, if_pos rfl] at h
  obtain ⟨token, htoken, heditor, htext, rfl⟩ := Target.exists_of_everyOccurrence hsingle h
  refine ⟨Target.successive_occurrencesIn cx token r, fun isEvery => ?_, fun hlt => ?_⟩
  · have hranges := (Target.searchRanges_congr heditor).trans hsingle
    have hordinal : token.ordinalOccurrences cx start.toInt length.toNat r = _ :=
      Target.ordinalOccurrences_eq start.minValue_le_toInt hpos
    rw [run, if_pos rfl, Target.outcome_resolveOccurrences _ htoken, Target.occurrences,
      if_neg (Bool.eq_false_iff.mp htext), Target.queriedOccurrences, hranges, List.mapM_cons,
      List.mapM_nil, hordinal]
    by_cases hrange : Target.InRange (token.occurrencesIn cx r).length start.toInt length.toNat
    · simp [hrange]
    · simp [hrange]
  · exact Target.ordinalWords?_eq hlt start hpos

def threeTimes : Editor := .ofDocument 1 (.ofText 1 "plaintext" "abaa".toList)

lemma everyScope_threeTimes {r : Range} (hr : r ∈ [Range.onLine 0 0 1, .onLine 0 2 3]) :
    ∃ targets, ((Modifier.everyScope .occurrence).run {} (.plain threeTimes r false)).outcome .empty =
        (.ok targets, .empty) ∧
      targets.map Target.content = [.onLine 0 0 1, .onLine 0 2 3, .onLine 0 3 4] := by
  have hcontents : ((Target.plain threeTimes r false).occurrences {} .every).toOption.map
      (List.map Target.content) = some [.onLine 0 0 1, .onLine 0 2 3, .onLine 0 3 4] := by
    rcases List.mem_pair.mp hr with rfl | rfl
    · decide +kernel
    · decide +kernel
  have hrun : ((Modifier.everyScope .occurrence).run {} (.plain threeTimes r false)).outcome .empty =
      ((Target.plain threeTimes r false).occurrences {} .every, .empty) := by
    rw [Modifier.run, if_pos rfl]
    rfl
  cases htargets : (Target.plain threeTimes r false).occurrences {} .every with
  | error e =>
    rw [htargets] at hcontents
    cases hcontents
  | ok targets =>
    rw [htargets] at hcontents hrun
    exact ⟨targets, hrun, Option.some.inj hcontents⟩

theorem Modifier.ordinalScope_occurrences_fromEnd :
    let t : Target := .plain threeTimes (.onLine 0 0 1) false
    t.searchRanges {} = [threeTimes.document.range] ∧ 1 ≤ (2 : UInt64).toNat ∧
      ∃ targets, ((everyScope .occurrence).run {} t).outcome .empty = (.ok targets, .empty) ∧
        targets.length = 3 ∧
        ((ordinalScope .occurrence (-2) 2 true).run {} t).outcome .empty =
          (.ok (targets.drop 1), .empty) ∧
        ((ordinalScope .occurrence Int64.minValue.toInt 2 true).run {} t).outcome .empty =
          (.error (.outOfRange ScopeType.occurrence.display), .empty) ∧
        Target.ordinalWords? targets Int64.minValue 2 = none := by
  intro t
  obtain ⟨targets, hrun, hcontents⟩ := everyScope_threeTimes (r := .onLine 0 0 1) (by simp)
  have hlength : targets.length = 3 := by
    rw [← List.length_map (f := Target.content), hcontents]
    rfl
  have hpos : 1 ≤ (2 : UInt64).toNat := by decide
  obtain ⟨_, hlast, _⟩ := Modifier.ordinalScope_occurrences rfl hrun (-2) hpos
  obtain ⟨_, hmissing, hwords⟩ := Modifier.ordinalScope_occurrences rfl hrun Int64.minValue hpos
  rw [hlength] at hlast hmissing hwords
  refine ⟨rfl, hpos, targets, hrun, hlength, ?_, hmissing true, hwords (by decide)⟩
  have hfirst : (Target.firstIndex 3 (-2 : Int64).toInt).toNat = 1 := by decide
  have hslice : (targets.drop 1).take (2 : UInt64).toNat = targets.drop 1 :=
    List.take_of_length_le (by simp [hlength])
  rw [if_pos (by decide), hfirst, hslice] at hlast
  exact hlast true

/-- Where the whole document is searched and the target is an occurrence itself, those that are picked by their
distance from it are its neighbours among all occurrences, the nearest one first. They are missing if one of
those is. -/
theorem Modifier.relativeScope_occurrences {cx : Context} {t u : Target} {a a' : Arena}
    {targets : List Target} {k : Nat} (hstored : cx.stored? .occurrenceReference = none)
    (h : ((everyScope .occurrence).run cx t).outcome a = (.ok targets, a')) (hk : targets[k]? = some u)
    (hu : u.content = t.content) (offset length : Nat) (direction : Direction) (isEvery : Bool) :
    ((relativeScope .occurrence offset length direction isEvery).run cx t).outcome a =
      (match (List.range length).mapM fun i => Target.neighbour? targets k direction (offset + i) with
      | some found => .ok found
      | none => .error (.outOfRange ScopeType.occurrence.display), a') := by
  rw [run, if_pos rfl] at h
  obtain ⟨hown, hpos, rfl⟩ := Target.exists_of_everyOccurrence_stored hstored h hk hu
  have htext : ¬t.text.isEmpty = true := by
    rw [List.isEmpty_iff]
    exact List.ne_nil_of_length_pos hpos
  rw [run, if_pos rfl, Target.outcome_resolveOccurrences _ hown, Target.occurrences, if_neg htext,
    Target.queriedOccurrences, hstored, Option.getD_none, List.map_singleton, List.mapM_cons,
    List.mapM_nil, Target.relativeOccurrences_eq hk hu hpos]
  cases (List.range length).mapM fun i =>
    Target.neighbour? (t.occurrencesIn cx t.document.range) k direction (offset + i) with
  | none => rfl
  | some found => simp

theorem Modifier.relativeScope_occurrences_second :
    let t : Target := .plain threeTimes (.onLine 0 2 3) false
    ({} : Context).stored? .occurrenceReference = none ∧
      ∃ targets u u₁ u₂, ((everyScope .occurrence).run {} t).outcome .empty = (.ok targets, .empty) ∧
        targets = [u, u₁, u₂] ∧ u₁.content = t.content ∧
        ((relativeScope .occurrence 0 2 .forward true).run {} t).outcome .empty = (.ok [u₁, u₂], .empty) ∧
        ((relativeScope .occurrence 0 2 .backward true).run {} t).outcome .empty = (.ok [u₁, u], .empty) ∧
        ((relativeScope .occurrence 2 1 .forward true).run {} t).outcome .empty =
          (.error (.outOfRange ScopeType.occurrence.display), .empty) := by
  intro t
  obtain ⟨targets, hrun, hcontents⟩ := everyScope_threeTimes (r := .onLine 0 2 3) (by simp)
  obtain ⟨u, u₁, u₂, rfl⟩ : ∃ u u₁ u₂, targets = [u, u₁, u₂] := by
    rw [← List.length_eq_three, ← List.length_map (f := Target.content), hcontents]
    rfl
  have hu : u₁.content = t.content := by
    simp only [List.map_cons, List.cons.injEq] at hcontents
    exact hcontents.2.1
  have hpicks := Modifier.relativeScope_occurrences rfl hrun (k := 1) rfl hu
  exact ⟨rfl, _, u, u₁, u₂, hrun, rfl, hu, hpicks 0 2 .forward true, hpicks 0 2 .backward true,
    hpicks 2 1 .forward true⟩

end Referent
