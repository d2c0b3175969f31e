import Referent.Proofs.Resolve.Ordinals
import Referent.Proofs.Scope.TokensAt
import Referent.Proofs.Target.Sequence

namespace Referent

lemma Position.min_onLine (line a b : Nat) :
    min (⟨line, a⟩ : Position) ⟨line, b⟩ = ⟨line, min a b⟩ := by
  have hle : (⟨line, a⟩ : Position) ≤ ⟨line, b⟩ ↔ a ≤ b := by simp [Position.le_def]
  show (if (⟨line, a⟩ : Position) ≤ ⟨line, b⟩ then _ else _) = _
  rw [← apply_ite (Position.mk line), Nat.min_def]
  simp only [hle]

lemma Position.max_onLine (line a b : Nat) :
    max (⟨line, a⟩ : Position) ⟨line, b⟩ = ⟨line, max a b⟩ := by
  have hle : (⟨line, a⟩ : Position) ≤ ⟨line, b⟩ ↔ a ≤ b := by simp [Position.le_def]
  show (if (⟨line, a⟩ : Position) ≤ ⟨line, b⟩ then _ else _) = _
  rw [← apply_ite (Position.mk line), Nat.max_def]
  simp only [hle]

namespace Scope

section Pieces

variable {token : Range} {a b c d : Nat}

lemma ends_piece (token : Range) (h : a ≤ b) :
    (piece token a b).start = ⟨token.start.line, token.start.character + a⟩ ∧
      (piece token a b).stop = ⟨token.start.line, token.start.character + b⟩ := by
  have hle := Nat.add_le_add_left h token.start.character
  exact ⟨Range.start_onLine hle, Range.stop_onLine hle⟩

lemma isEmpty_piece (h : a ≤ b) : (piece token a b).isEmpty = true ↔ a = b := by
  rw [Range.isEmpty_iff, (ends_piece token h).1, (ends_piece token h).2, Position.ext_iff']
  simp

lemma piece_inj (h : a ≤ c) (h' : b ≤ c) : piece token a c = piece token b c ↔ a = b := by
  rw [Range.ext_iff', (ends_piece token h).1, (ends_piece token h).2, (ends_piece token h').1,
    (ends_piece token h').2, Position.ext_iff']
  simp

lemma union_piece (h : a ≤ b) (h' : c ≤ d) :
    (piece token a b).union (piece token c d) = piece token (min a c) (max b d) := by
  have hle : min a c ≤ max b d := by omega
  rw [Range.ext_iff', (ends_piece token hle).1, (ends_piece token hle).2]
  show min (piece token a b).start (piece token c d).start = _ ∧
    max (piece token a b).stop (piece token c d).stop = _
  rw [(ends_piece token h).1, (ends_piece token h).2, (ends_piece token h').1, (ends_piece token h').2,
    Position.min_onLine, Position.max_onLine, Nat.add_min_add_left, Nat.add_max_add_left]
  exact ⟨rfl, rfl⟩

lemma filter_piece (hle : a ≤ c) :
    (some (piece token a c)).filter (!·.isEmpty) = if a < c then some (piece token a c) else none := by
  by_cases hlt : a < c
  · have hne : (piece token a c).isEmpty = false :=
      Bool.eq_false_iff.mpr fun hempty => Nat.ne_of_lt hlt ((isEmpty_piece hle).mp hempty)
    rw [if_pos hlt, Option.filter_some, hne, Bool.not_false, if_pos rfl]
  · have hempty : (piece token a c).isEmpty = true := (isEmpty_piece hle).mpr (by omega)
    rw [if_neg hlt, Option.filter_some, hempty, Bool.not_true, if_neg Bool.false_ne_true]

end Pieces

section Gaps

variable {words : List (Nat × Nat)} {token : Range} {e : Editor} {i j first last : Nat} {b : Bool}

def wordAt (words : List (Nat × Nat)) (i : Nat) : Nat × Nat := words.getD i (0, 0)

def HasGap (words : List (Nat × Nat)) (i : Nat) : Prop :=
  i + 1 < words.length ∧ (wordAt words i).2 < (wordAt words (i + 1)).1

instance (words : List (Nat × Nat)) (i : Nat) : Decidable (HasGap words i) :=
  inferInstanceAs (Decidable (_ ∧ _))

def GapBefore (words : List (Nat × Nat)) (i : Nat) : Prop := 0 < i ∧ HasGap words (i - 1)

instance (words : List (Nat × Nat)) (i : Nat) : Decidable (GapBefore words i) :=
  inferInstanceAs (Decidable (_ ∧ _))

def removalStart (words : List (Nat × Nat)) (first last : Nat) : Nat :=
  if GapBefore words first ∧ ¬HasGap words last then (wordAt words (first - 1)).2
  else (wordAt words first).1

def removalStop (words : List (Nat × Nat)) (last : Nat) : Nat :=
  if HasGap words last then (wordAt words (last + 1)).1 else (wordAt words last).2

lemma getElem?_eq_wordAt (h : i < words.length) : words[i]? = some (wordAt words i) := by
  rw [wordAt, List.getD_eq_getElem?_getD, List.getElem?_eq_getElem h, Option.getD_some]

structure InTurn (words : List (Nat × Nat)) : Prop where
  successive : Referent.Successive words
  nonempty : ∀ w ∈ words, w.1 < w.2

lemma inTurn_wordSpans (text : List Char) : InTurn (wordSpans text) :=
  ⟨successive_wordSpans text, fun _ => lt_of_mem_wordSpans⟩

namespace InTurn

variable (h : InTurn words)

include h

lemma lt (hi : i < words.length) : (wordAt words i).1 < (wordAt words i).2 :=
  h.nonempty _ (List.mem_of_getElem? (getElem?_eq_wordAt hi))

lemma le (hij : i < j) (hj : j < words.length) : (wordAt words i).2 ≤ (wordAt words j).1 := by
  have hi := Nat.lt_trans hij hj
  have hle := List.pairwise_iff_getElem.mp h.successive i j hi hj hij
  have hfirst := List.getElem?_eq_getElem hi ▸ getElem?_eq_wordAt hi
  have hsecond := List.getElem?_eq_getElem hj ▸ getElem?_eq_wordAt hj
  rwa [Option.some.inj hfirst, Option.some.inj hsecond] at hle

lemma trailing_wordTarget : (wordTarget e token words first last b).trailing =
    if HasGap words last then some (piece token (wordAt words last).2 (wordAt words (last + 1)).1)
    else none := by
  show ((words[last + 1]?.map fun w => piece token (wordAt words last).2 w.1).filter _) = _
  by_cases hlast : last + 1 < words.length
  · rw [getElem?_eq_wordAt hlast, Option.map_some, filter_piece (h.le (Nat.lt_succ_self _) hlast)]
    exact if_congr (by simp [HasGap, hlast]) rfl rfl
  · have hnone : words[last + 1]? = none := List.getElem?_eq_none (Nat.not_lt.mp hlast)
    rw [hnone, if_neg fun hgap => hlast hgap.1]
    rfl

lemma leading_wordTarget (hfirst : first < words.length) :
    (wordTarget e token words first last b).leading =
      if GapBefore words first then some (piece token (wordAt words (first - 1)).2 (wordAt words first).1)
      else none := by
  show (((if first = 0 then none else words[first - 1]?).map
    fun w => piece token w.2 (wordAt words first).1).filter _) = _
  cases first with
  | zero => rfl
  | succ previous =>
    have hprevious : previous < words.length := Nat.lt_of_succ_lt hfirst
    rw [if_neg (Nat.succ_ne_zero _), Nat.add_sub_cancel, getElem?_eq_wordAt hprevious, Option.map_some,
      filter_piece (h.le (Nat.lt_succ_self _) hfirst)]
    exact if_congr (by simp [GapBefore, HasGap, hfirst]) rfl rfl

lemma start_le_stop (hle : first ≤ last) (hlast : last < words.length) :
    (wordAt words first).1 ≤ (wordAt words last).2 := by
  have hfirst := h.lt (Nat.lt_of_le_of_lt hle hlast)
  rcases Nat.lt_or_eq_of_le hle with hlt | rfl
  · have hbetween := h.le hlt hlast
    have hsecond := h.lt hlast
    omega
  · omega

lemma removal_wordTarget (hle : first ≤ last) (hlast : last < words.length) :
    (wordTarget e token words first last b).removal =
      piece token (removalStart words first last) (removalStop words last) := by
  have hcontent := h.start_le_stop hle hlast
  have hremoval : (wordTarget e token words first last b).removal =
      elementRemoval (piece token (wordAt words first).1 (wordAt words last).2)
        (wordTarget e token words first last b).leading
        (wordTarget e token words first last b).trailing := rfl
  rw [hremoval, h.trailing_wordTarget, h.leading_wordTarget (Nat.lt_of_le_of_lt hle hlast), removalStart,
    removalStop]
  by_cases hgap : HasGap words last
  · have hbehind := hgap.2
    simp only [hgap, not_true_eq_false, and_false, if_true, if_false, elementRemoval]
    rw [union_piece hcontent (Nat.le_of_lt hbehind), Nat.min_eq_left hcontent,
      Nat.max_eq_right (Nat.le_of_lt hbehind)]
  · simp only [hgap, not_false_eq_true, and_true, if_false]
    by_cases hbefore : GapBefore words first
    · have hle' : (wordAt words (first - 1)).2 ≤ (wordAt words first).1 :=
        h.le (Nat.sub_one_lt (Nat.ne_of_gt hbefore.1)) (Nat.lt_of_le_of_lt hle hlast)
      simp only [if_pos hbefore, elementRemoval]
      rw [union_piece hcontent hle', Nat.min_eq_right hle', Nat.max_eq_left hcontent]
    · simp only [if_neg hbefore, elementRemoval]

lemma removalStop_bounds (last : Nat) :
    (wordAt words last).2 ≤ removalStop words last ∧
      ∀ j, last < j → j < words.length → removalStop words last ≤ (wordAt words j).1 := by
  rw [removalStop]
  split
  · next hgap =>
    refine ⟨Nat.le_of_lt hgap.2, fun j hj hlt => ?_⟩
    rcases Nat.lt_or_eq_of_le (Nat.succ_le_of_lt hj) with hnext | rfl
    · exact Nat.le_trans (Nat.le_of_lt (h.lt hgap.1)) (h.le hnext hlt)
    · exact Nat.le_refl _
  · exact ⟨Nat.le_refl _, fun j hj hlt => h.le hj hlt⟩

lemma removalStart_bounds (hfirst : first < words.length) (last : Nat) :
    removalStart words first last ≤ (wordAt words first).1 ∧
      ∀ i < first, (wordAt words i).2 ≤ removalStart words first last := by
  rw [removalStart]
  split
  · next hgap =>
    have hprevious : first - 1 < first := Nat.sub_one_lt (Nat.ne_of_gt hgap.1.1)
    refine ⟨h.le hprevious hfirst, fun i hi => ?_⟩
    rcases Nat.lt_or_eq_of_le (Nat.le_sub_one_of_lt hi) with hlt | rfl
    · have hbefore := h.le hlt (Nat.lt_trans hprevious hfirst)
      have hlt := h.lt (Nat.lt_trans hprevious hfirst)
      omega
    · exact Nat.le_refl _
  · exact ⟨Nat.le_refl _, fun i hi => h.le hi hfirst⟩

lemma removal_joinElements (hlt : first < last) (hlast : last < words.length) :
    (Target.joinElements (wordTarget e token words first first false)
      (wordTarget e token words last last false)
      (piece token (wordAt words first).1 (wordAt words last).2) b).removal =
        piece token (removalStart words first first) (removalStop words last) := by
  have hfirst := Nat.lt_trans hlt hlast
  have hshort := h.lt hfirst
  have hshort' := h.lt hlast
  have hbetween := h.le hlt hlast
  obtain ⟨hstart, _⟩ := h.removalStart_bounds hfirst first
  obtain ⟨hstart', hapart⟩ := h.removalStart_bounds hlast last
  obtain ⟨hstop, hapart'⟩ := h.removalStop_bounds first
  obtain ⟨hstop', _⟩ := h.removalStop_bounds last
  have hapart := hapart first hlt
  have hapart' := hapart' last hlt hlast
  show ((wordTarget e token words first first false).removal.union
    (wordTarget e token words last last false).removal).union _ = _
  rw [h.removal_wordTarget (Nat.le_refl _) hfirst, h.removal_wordTarget (Nat.le_refl _) hlast,
    union_piece (by omega) (by omega), union_piece (by omega) (by omega)]
  congr 1
  · omega
  · omega

end InTurn

lemma removalStart_eq_iff (words : List (Nat × Nat)) (first last : Nat) :
    removalStart words first last = removalStart words first first ↔
      ¬GapBefore words first ∨ (HasGap words first ↔ HasGap words last) := by
  rw [removalStart, removalStart]
  by_cases hbefore : GapBefore words first
  · have hlt : (wordAt words (first - 1)).2 < (wordAt words first).1 := by
      have hgap := hbefore.2.2
      rwa [Nat.sub_add_cancel hbefore.1] at hgap
    by_cases hgap : HasGap words first
    · by_cases hgap' : HasGap words last
      · simp [hbefore, hgap, hgap']
      · simp [hbefore, hgap, hgap', Nat.ne_of_lt hlt]
    · by_cases hgap' : HasGap words last
      · simp [hbefore, hgap, hgap', Nat.ne_of_gt hlt]
      · simp [hbefore, hgap, hgap']
  · simp [hbefore]

end Gaps

section Within

variable {cx : Context} {e : Editor} {token : Range}

lemma length_wordsOfToken (e : Editor) (token : Range) :
    (wordsOfToken e token).length = (wordSpans (e.document.textIn token)).length := by
  rw [wordsOfToken, List.length_map, List.length_range]

lemma getElem?_wordsOfToken {i : Nat} (hi : i < (wordSpans (e.document.textIn token)).length) :
    (wordsOfToken e token)[i]? =
      some (ofTarget (wordTarget e token (wordSpans (e.document.textIn token)) i i false)) := by
  rw [wordsOfToken, List.getElem?_map, List.getElem?_range hi, Option.map_some]

lemma isEmpty_word {s : Scope} (hs : s ∈ wordsOfToken e token) : s.domain.isEmpty = false := by
  obtain ⟨w, hw, hdomain⟩ := domain_word hs
  have hlt := lt_of_mem_wordSpans hw
  rw [hdomain, Bool.eq_false_iff, ne_eq, isEmpty_piece (Nat.le_of_lt hlt)]
  exact Nat.ne_of_lt hlt

lemma mem_tokens_self (htoken : token ∈ cx.documentTokens e.document) :
    token ∈ cx.tokens e.document token := by
  obtain ⟨line, hline, hmem⟩ := List.mem_flatMap.mp htoken
  obtain ⟨hholds, hstart, _⟩ := holdsLine_of_mem (Document.mem_linesOf hline) hmem
  have hlast := (e.document.le_lastLine_iff line).mpr (Document.mem_linesOf hline)
  have hle := Range.start_line_le token
  refine List.mem_flatMap.mpr ⟨line, List.mem_range'_1.mpr ⟨Nat.le_of_eq hstart, ?_⟩, hmem⟩
  omega

lemma scopesWithin_words (htoken : token ∈ cx.documentTokens e.document) :
    ScopeFinder.words.scopesWithin cx e token = .ok (wordsOfToken e token) := by
  let isWithin (s : Scope) : Bool :=
    s.domain.touches token && (s.overlaps token && token.containsRange s.domain)
  have hwords : ScopeFinder.words.scopesWithin cx e token =
      .ok ((cx.tokens e.document token).flatMap fun t => (wordsOfToken e t).filter isWithin) := by
    have hall : words cx e token = touching token ((cx.tokens e.document token).flatMap (wordsOfToken e)) := by
      rw [words_eq, Context.tokens, List.flatMap_assoc]
      rfl
    show Except.ok (((words cx e token).filter fun s => s.overlaps token).filter
      fun s => token.containsRange s.domain) = _
    rw [hall, touching, List.filter_filter, List.filter_filter, List.filter_flatMap]
    simp only [isWithin, Bool.and_comm]
  have hown : (wordsOfToken e token).filter isWithin = wordsOfToken e token := by
    apply List.filter_eq_self.mpr
    intro s hs
    have hcontains := containsRange_word (Context.holdsLine_of_mem htoken) hs
    obtain ⟨hstart, hstop⟩ := (Range.containsRange_iff _ _).mp hcontains
    have hlt := Range.start_lt_stop (Bool.eq_false_iff.mp (isEmpty_word hs))
    have htouches : s.domain.touches token = true := Range.touches_iff.mpr
      ⟨Position.le_trans s.domain.start_le_stop hstop, Position.le_trans hstart s.domain.start_le_stop⟩
    have hoverlaps : s.domain.overlaps token = true := Range.overlaps_iff.mpr
      ⟨⟨hlt, Position.lt_of_lt_of_le hlt hstop⟩, Position.lt_of_le_of_lt hstart hlt,
        Context.start_lt_stop_of_mem htoken⟩
    simp [isWithin, htouches, overlaps, hoverlaps, hcontains]
  have hother {t : Range} (ht : t ∈ cx.tokens e.document token)
      (hapart : t.stop ≤ token.start ∨ token.stop ≤ t.start) :
      (wordsOfToken e t).filter isWithin = [] := by
    apply List.filter_eq_nil_iff.mpr
    intro s hs hwithin
    have hinside := containsRange_word (cx.holdsLine_tokens _ _ t ht) hs
    obtain ⟨hstart, hstop⟩ := (Range.containsRange_iff _ _).mp hinside
    have hlt := Range.start_lt_stop (Bool.eq_false_iff.mp (isEmpty_word hs))
    have hcontains : token.containsRange s.domain = true := by
      simp only [isWithin, Bool.and_eq_true] at hwithin
      exact hwithin.2.2
    obtain ⟨hstart', hstop'⟩ := (Range.containsRange_iff _ _).mp hcontains
    rcases hapart with hle | hle
    · exact Position.not_lt.mpr (Position.le_trans hstop (Position.le_trans hle hstart')) hlt
    · exact Position.not_lt.mpr (Position.le_trans hstop' (Position.le_trans hle hstart)) hlt
  have hsuccessive := Context.successive_tokens cx e.document token
  obtain ⟨before, after, hsplit⟩ := List.append_of_mem (mem_tokens_self htoken)
  rw [hsplit] at hsuccessive
  obtain ⟨_, hbehind, hbefore⟩ := List.pairwise_append.mp hsuccessive
  have hnone {l : List Range} (hl : ∀ t ∈ l, (wordsOfToken e t).filter isWithin = []) :
      l.flatMap (fun t => (wordsOfToken e t).filter isWithin) = [] := List.flatMap_eq_nil_iff.mpr hl
  rw [hwords, hsplit, List.flatMap_append, List.flatMap_cons, hown, hnone, hnone, List.append_nil,
    List.nil_append]
  · intro t ht
    have hmem : t ∈ cx.tokens e.document token := by simp [hsplit, ht]
    exact hother hmem (.inr ((List.pairwise_cons.mp hbehind).1 t ht))
  · intro t ht
    have hmem : t ∈ cx.tokens e.document token := by simp [hsplit, ht]
    exact hother hmem (.inl (hbefore t ht token List.mem_cons_self))

end Within

end Scope

end Referent
