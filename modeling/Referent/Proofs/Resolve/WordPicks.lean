import Referent.Proofs.Resolve.TokenOccurrences
import Referent.Proofs.Scope.Words

namespace Referent

section Joined

open Scope (wordTarget wordAt)

variable {e : Editor} {token : Range} {words : List (Nat × Nat)} {first last : Nat}

lemma Target.continuousRange_words (h : Scope.InTurn words) (hlt : first < last)
    (hlast : last < words.length) :
    (wordTarget e token words first first false).continuousRange
        (wordTarget e token words last last false) true true =
      Scope.piece token (wordAt words first).1 (wordAt words last).2 := by
  have hstart := h.lt (Nat.lt_trans hlt hlast)
  have hstop := h.lt hlast
  have hends : (wordTarget e token words first first false).continuousRange
      (wordTarget e token words last last false) true true =
        .between (Scope.piece token (wordAt words first).1 (wordAt words first).2).start
          (Scope.piece token (wordAt words last).1 (wordAt words last).2).stop := rfl
  rw [hends, (Scope.ends_piece token (Nat.le_of_lt hstart)).1,
    (Scope.ends_piece token (Nat.le_of_lt hstop)).2]
  rfl

lemma Target.ofScopes_words (h : Scope.InTurn words) (hlt : first < last) (hlast : last < words.length)
    (b : Bool) :
    let s := wordTarget e token words first first false
    let t := wordTarget e token words last last false
    ofScopes (.ofTarget s) (.ofTarget t) b =
      (s.joinElements t (Scope.piece token (wordAt words first).1 (wordAt words last).2) b).withFlags
        { explicitRange := true } := by
  intro s t
  have hne : ¬(Scope.ofTarget s == Scope.ofTarget t) = true := fun heq => by
    have hsame : Scope.piece token (wordAt words first).1 (wordAt words first).2 =
      Scope.piece token (wordAt words last).1 (wordAt words last).2 := (eq_of_scope_beq heq).1
    have hfirst := h.lt (Nat.lt_trans hlt hlast)
    have hbetween := h.le hlt hlast
    have hsecond := h.lt hlast
    have hstarts := congrArg (fun r => r.start.character) hsame
    simp only [(Scope.ends_piece token (Nat.le_of_lt hfirst)).1,
      (Scope.ends_piece token (Nat.le_of_lt hsecond)).1] at hstarts
    omega
  rw [ofScopes, if_neg hne]
  show s.continuous t true true b = _
  rw [continuous_elements (s := s) (t := t) rfl (.inr rfl), Target.continuousRange_words h hlt hlast]

end Joined

structure Target.IsCursorIn (cx : Context) (t : Target) (token : Range) : Prop where
  isEmpty : t.content.isEmpty = true
  implicit : t.flags.explicitRange = false
  mem : token ∈ cx.documentTokens t.document
  inside : token.strictlyContains t.content.start = true

namespace Target.IsCursorIn

open Scope (wordsOfToken wordTarget)

variable {cx : Context} {t : Target} {token : Range}

lemma between (h : t.IsCursorIn cx token) :
    token.start < t.content.start ∧ t.content.start < token.stop := by
  have hinside := h.inside
  rwa [Range.strictlyContains, Bool.and_eq_true, decide_eq_true_eq, decide_eq_true_eq] at hinside

lemma tokensAt_eq (h : t.IsCursorIn cx token) : cx.tokensAt t.document t.content.start = [token] := by
  obtain ⟨hstart, hstop⟩ := h.between
  have hmem : token ∈ cx.tokensAt t.document t.content.start :=
    Context.mem_tokensAt.mpr ⟨h.mem, Position.le_of_lt hstart, Position.le_of_lt hstop⟩
  rcases cx.tokensAt_cases t.document t.content.start with hnone | ⟨a, hone⟩ | ⟨a, b, hboth, ha, hb⟩
  · rw [hnone] at hmem
    cases hmem
  · rw [hone] at hmem ⊢
    rw [List.mem_singleton.mp hmem]
  · rw [hboth] at hmem
    rcases List.mem_cons.mp hmem with rfl | hmem
    · exact absurd hstop (ha ▸ Position.not_lt.mpr (Position.le_refl _))
    · obtain rfl := List.mem_singleton.mp hmem
      exact absurd hstart (hb ▸ Position.not_lt.mpr (Position.le_refl _))

lemma has_start (h : t.IsCursorIn cx token) : t.document.Has t.content.start := by
  obtain ⟨hstart, hstop⟩ := h.between
  have hline := Context.holdsLine_of_mem h.mem
  have hsame : token.start.line = token.stop.line := by simpa [Range.isSingleLine] using hline.single
  have hend := hline.holds.2.2
  rw [Position.lt_def] at hstart hstop
  have hplace : t.content.start.line = token.stop.line := by omega
  refine ⟨hplace ▸ hline.holds.2.1, ?_⟩
  rw [hplace]
  omega

lemma containsRange (h : t.IsCursorIn cx token) : token.containsRange t.content = true := by
  obtain ⟨hstart, hstop⟩ := h.between
  rw [Range.containsRange_iff, ← Range.isEmpty_iff.mp h.isEmpty]
  exact ⟨Position.le_of_lt hstart, Position.le_of_lt hstop⟩

lemma scopesAt_tokens (h : t.IsCursorIn cx token) :
    (ScopeFinder.tokens false).scopesAt cx t.editor t.content.start =
      .ok [Scope.ofToken t.editor token] := by
  have hat : cx.tokensAt t.editor.document t.content.start = [token] := h.tokensAt_eq
  rw [ScopeFinder.scopesAt_tokens h.has_start, hat]
  rfl

lemma domains_words (h : t.IsCursorIn cx token) :
    ∃ outer, ScopeFinder.words.domains cx t.editor t.content = .ok (token :: outer) := by
  have hdomains : ScopeFinder.words.domains cx t.editor t.content =
      .ok ([token] ++ [t.document.range]).eraseReps := by
    rw [ScopeFinder.domains, ScopeFinder.siblingFinder, h.scopesAt_tokens]
    · simp [bind, Except.bind, pure, Except.pure, h.containsRange, ScopeFinder.sortDomains]
      rfl
    all_goals simp
  rw [hdomains]
  cases hwhole : token == t.document.range with
  | true => exact ⟨[], by simp [List.eraseReps, List.eraseRepsBy, List.eraseRepsBy.loop, hwhole]⟩
  | false => exact ⟨_, by simp [List.eraseReps, List.eraseRepsBy, List.eraseRepsBy.loop, hwhole]; rfl⟩

lemma dividedRange_eq (h : t.IsCursorIn cx token) : t.dividedRange cx = .ok token := by
  have hcontaining : (ScopeFinder.tokens false).containing cx t.editor t.content false =
      .ok (some ((Scope.ofToken t.editor token).oriented false)) := by
    rw [ScopeFinder.containing_tokens h.has_start, if_pos h.isEmpty]
    have hat : cx.tokensAt t.editor.document t.content.start = [token] := h.tokensAt_eq
    rw [hat]
    rfl
  rw [dividedRange, h.implicit, if_neg Bool.false_ne_true, hcontaining]
  rfl

lemma siblingScopes_words (h : t.IsCursorIn cx token)
    (hwords : wordSpans (t.document.textIn token) ≠ []) :
    t.siblingScopes cx .words = .ok (wordsOfToken t.editor token) := by
  obtain ⟨outer, houter⟩ := h.domains_words
  have hsiblings (domain : Range) : ScopeFinder.words.siblings cx t.editor t.content domain =
      ScopeFinder.words.scopesWithin cx t.editor domain := rfl
  have hiterations : ∃ rest, ScopeFinder.words.iterations cx t.editor t.content =
      .ok (⟨token, wordsOfToken t.editor token⟩ :: rest) := by
    have hall : ∀ domain ∈ outer, ∃ i, (ScopeFinder.words.siblings cx t.editor t.content domain).map
        (Iteration.mk domain) = .ok i := fun domain _ => ⟨_, rfl⟩
    obtain ⟨rest, hrest⟩ := exists_mapM_eq_ok hall
    refine ⟨rest, bind_eq_ok.mpr ⟨_, houter, ?_⟩⟩
    rw [List.mapM_cons, hrest, hsiblings, Scope.scopesWithin_words h.mem]
    rfl
  obtain ⟨rest, hrest⟩ := hiterations
  refine bind_eq_ok.mpr ⟨_, hrest, ?_⟩
  have hcounted : (wordsOfToken t.editor token).filter ScopeFinder.words.countsInEvery =
      wordsOfToken t.editor token := List.filter_true _
  have hne : (!(wordsOfToken t.editor token).isEmpty) = true := by
    rw [Bool.not_eq_true', List.isEmpty_eq_false_iff, ← List.length_pos_iff, Scope.length_wordsOfToken]
    exact List.length_pos_iff.mpr hwords
  dsimp only
  rw [List.map_cons, List.find?_cons_of_pos (by rw [hcounted]; exact hne), hcounted]
  rfl

lemma everyScopeOf_word (h : t.IsCursorIn cx token)
    (hwords : wordSpans (t.document.textIn token) ≠ []) :
    t.everyScopeOf cx .word = .ok (wordsOfToken t.editor token) := by
  refine bind_eq_ok.mpr ⟨.words, rfl, ?_⟩
  rw [h.implicit, if_neg Bool.false_ne_true]
  exact h.siblingScopes_words hwords

lemma isSingleLine (h : t.IsCursorIn cx token) : token.isSingleLine = true :=
  (Context.holdsLine_of_mem h.mem).single

lemma run_subpiece (h : t.IsCursorIn cx token) {a b : Nat} (hle : a ≤ b)
    (hb : b < (wordSpans (t.document.textIn token)).length) (arena : Arena) :
    ((Modifier.subpiece .word a b false false).run cx t).outcome arena =
      (.ok [wordTarget t.editor token (wordSpans (t.document.textIn token)) a b false], arena) := by
  have hindex {i : Nat} (hi : i < (wordSpans (t.document.textIn token)).length) :
      pieceIndex? (wordSpans (t.document.textIn token)).length i = some i := by
    have hnonneg : ¬(i : Int) < 0 := by omega
    rw [pieceIndex?, if_neg hnonneg, if_pos (by omega), Int.toNat_natCast]
  rw [Modifier.run, Resolving.outcome_lift, subpiece, h.dividedRange_eq]
  dsimp only [bind, Except.bind, pieceSpans]
  rw [h.isSingleLine, hindex (Nat.lt_of_le_of_lt hle hb), hindex hb]
  dsimp only [ofPieces]
  rw [Nat.min_eq_left hle, Nat.max_eq_right hle, decide_eq_false (Nat.not_lt.mpr hle)]
  rfl

lemma run_ordinalScope (h : t.IsCursorIn cx token) {a b : Nat} (hle : a ≤ b)
    (hb : b < (wordSpans (t.document.textIn token)).length) (arena : Arena) :
    let word i := Scope.ofTarget (wordTarget t.editor token (wordSpans (t.document.textIn token)) i i false)
    ((Modifier.ordinalScope .word a (b - a + 1) false).run cx t).outcome arena =
      (.ok [if a = b then (word a).oriented t.isReversed else ofScopes (word a) (word b) t.isReversed],
        arena) := by
  intro word
  have hscopes := h.everyScopeOf_word (List.length_pos_iff.mp (Nat.zero_lt_of_lt hb))
  have hlast : b < (wordsOfToken t.editor token).length := by
    rw [Scope.length_wordsOfToken]
    exact hb
  have hrange : InRange (wordsOfToken t.editor token).length a (b - a + 1) ∧
      (firstIndex (wordsOfToken t.editor token).length a).toNat = a := by
    rw [InRange, firstIndex, if_pos (Int.natCast_nonneg a)]
    omega
  have hstop : a + (b - a + 1) ≤ (wordsOfToken t.editor token).length := by omega
  obtain ⟨hhead, hend⟩ := getElem?_slice (Nat.le_add_left 1 (b - a)) hstop
  rw [Scope.getElem?_wordsOfToken (Nat.lt_of_le_of_lt hle hb)] at hhead
  rw [show a + (b - a + 1) - 1 = b by omega, Scope.getElem?_wordsOfToken hb] at hend
  rw [Target.run_ordinalScope (by decide) hscopes, if_pos hrange.1, hrange.2, pick_ends hhead hend,
    List.length_take, List.length_drop]
  have hone : min (b - a + 1) ((wordsOfToken t.editor token).length - a) = 1 ↔ a = b := by omega
  simp only [hone]
  rfl

end Target.IsCursorIn

lemma isUncapitalized_iff (c : Char) : isUncapitalized c = true ↔
    ∃ g ∈ [.lowercaseLetter, .otherLetter, .modifierLetter] ++ Unicode.GeneralCategory.marks,
      Unicode.CharSet.Covers g.chars.ranges.toList c.toNat := by
  rw [isUncapitalized, Unicode.CharSet.contains, uncapitalizedChars, Unicode.CharSet.containsCode_unions]
  simp only [Unicode.markChars, Unicode.GeneralCategory.charsOf, Unicode.GeneralCategory.chars,
    List.mem_cons, List.not_mem_nil, or_false, exists_eq_left, Unicode.CharSet.covers_unions, List.mem_map,
    exists_exists_and_eq_and, List.mem_append, or_and_right, exists_or, or_assoc]

lemma isNumber_iff (c : Char) : Unicode.isNumber c = true ↔
    ∃ g ∈ Unicode.GeneralCategory.numbers, Unicode.CharSet.Covers g.chars.ranges.toList c.toNat := by
  rw [Unicode.isNumber, Unicode.CharSet.contains, Unicode.numberChars, Unicode.GeneralCategory.charsOf,
    Unicode.CharSet.containsCode_unions]
  simp only [List.mem_map, exists_exists_and_eq_and]

lemma splitCapitals_single (start : Nat) (c : Char) : splitCapitals start [c] = [(start, start + 1)] := by
  have hshort : (List.takeWhile Unicode.isUppercase [c]).length ≤ 1 :=
    (List.takeWhile_sublist _).length_le
  rw [splitCapitals, if_neg (by omega)]
  rfl

lemma wordSpansFrom_of_one {c : Char} {rest : List Char} (h : wordLength (c :: rest) = 1) (start : Nat) :
    wordSpansFrom start (c :: rest) = (start, start + 1) :: wordSpansFrom (start + 1) rest := by
  rw [wordSpansFrom.eq_def]
  dsimp only
  rw [dif_pos (h ▸ Nat.one_pos), h]
  exact congrArg (· ++ _) (splitCapitals_single start c)

lemma wordSpansFrom_of_none {c : Char} {rest : List Char} (h : wordLength (c :: rest) = 0) (start : Nat) :
    wordSpansFrom start (c :: rest) = wordSpansFrom (start + 1) rest := by
  rw [wordSpansFrom.eq_def]
  exact dif_neg (Nat.not_lt.mpr (Nat.le_of_eq h))

section SnakeCase

def snakeCase : Document := .ofText 1 "plaintext" "a_b_1".toList

lemma matchLength_snakeCase :
    (Token.identifier [['_']]).matchLength? ['a', '_', 'b', '_', '1'] = some 5 := by
  obtain ⟨hletters, -⟩ := contains_identifierChars_ascii
  have ha := hletters 'a' (by simp)
  have hb := hletters 'b' (by simp)
  have hone := hletters '1' (by simp)
  have hbar : Token.identifierChars.contains '_' = false := by
    rw [← Bool.not_eq_true, Token.contains_identifierChars]
    decide +kernel
  have hseparator (c : Char) : (Unicode.CharSet.singleton 95).contains c = decide (c = '_') := by
    rw [Bool.eq_iff_iff, decide_eq_true_eq]
    exact Regex.contains_singleton (b := '_')
  generalize hset : Token.identifierChars = set at *
  simp [Token.identifier, Token.identifierRun, hset, Regex.matchLength?, Regex.matchEnd?, Place.start,
    Regex.all, Regex.oneOf, Regex.ofText, Regex.literal, Regex.star, Regex.optional, Regex.ends, Regex.reach,
    Regex.iterate, Regex.Ends.none, Regex.Ends.push, Regex.Ends.pushAll, Regex.Ends.toList, Nat.testBit, ha, hb,
    hone, hbar, hseparator]

lemma tokens_snakeCase : ({} : Context).documentTokens snakeCase = [.onLine 0 0 5] := by
  have ha : (isHorizontalSpace 'a' || isLineEnding 'a') = false := by decide
  have hoperator : (Token.operators.find? fun o => o.isPrefixOf ['a', '_', 'b', '_', '1']) = none := by decide
  have hdecimal : Token.standaloneDecimal? none ['a', '_', 'b', '_', '1'] = none := by decide +kernel
  have hlength : Token.lengthAt (Token.identifier [['_']]) none ['a', '_', 'b', '_', '1'] = 5 := by
    simp only [Token.lengthAt, hoperator, hdecimal, matchLength_snakeCase]
  have htext : Token.ofText [['_']] ['a', '_', 'b', '_', '1'] = [⟨0, 5, ['a', '_', 'b', '_', '1']⟩] := by
    simp [Token.ofText, Token.ofTextFrom, ha, hlength]
  exact Context.documentTokens_of_line {} snakeCase (by decide +kernel) htext

lemma wordSpans_snakeCase : wordSpans ['a', '_', 'b', '_', '1'] = [(0, 1), (2, 3), (4, 5)] := by
  have hcapital : isCapital 'a' = false ∧ isCapital 'b' = false ∧ isCapital '_' = false ∧
      isCapital '1' = false := by decide +kernel
  have hletter : isUncapitalized 'a' = true ∧ isUncapitalized 'b' = true ∧ isUncapitalized '_' = false ∧
      isUncapitalized '1' = false := by
    simp only [← Bool.not_eq_true, isUncapitalized_iff]
    decide +kernel
  have hnumber : Unicode.isNumber '1' = true ∧ Unicode.isNumber '_' = false := by
    simp only [← Bool.not_eq_true, isNumber_iff]
    decide +kernel
  have hword (rest : List Char) : wordLength ('a' :: '_' :: rest) = 1 ∧
      wordLength ('b' :: '_' :: rest) = 1 ∧ wordLength ['1'] = 1 ∧ wordLength ('_' :: rest) = 0 := by
    simp [wordLength, hcapital, hletter, hnumber]
  rw [wordSpans, wordSpansFrom_of_one (hword _).1, wordSpansFrom_of_none (hword _).2.2.2,
    wordSpansFrom_of_one (hword _).2.1, wordSpansFrom_of_none (hword _).2.2.2,
    wordSpansFrom_of_one (hword []).2.2.1, wordSpansFrom.eq_def]

def inSnakeCase : Target := .untyped (.ofDocument 1 snakeCase) (.onLine 0 1 1) false false

lemma isCursorIn_snakeCase : inSnakeCase.IsCursorIn {} (.onLine 0 0 5) where
  isEmpty := by decide
  implicit := rfl
  mem := by
    have htokens : ({} : Context).documentTokens inSnakeCase.document = [.onLine 0 0 5] := tokens_snakeCase
    rw [htokens]
    exact List.mem_singleton_self _
  inside := by decide

lemma words_inSnakeCase :
    wordSpans (inSnakeCase.document.textIn (.onLine 0 0 5)) = [(0, 1), (2, 3), (4, 5)] :=
  wordSpans_snakeCase

end SnakeCase

namespace Modifier

open Scope (HasGap GapBefore)

/-- Words picked as pieces of a token are those picked by number, with the same gaps beside them. What is
removed with them is the same exactly if there is no gap before the first of them, or else if the first and
the last one both have a gap behind them or neither has. -/
theorem picks_words {cx : Context} {t : Target} {token : Range} (h : t.IsCursorIn cx token) {a b : Nat}
    (hle : a ≤ b) (hb : b < (wordSpans (t.document.textIn token)).length) (arena : Arena) :
    let words := wordSpans (t.document.textIn token)
    ∃ piece scope,
      ((subpiece .word a b false false).run cx t).outcome arena = (.ok [piece], arena) ∧
      ((ordinalScope .word a (b - a + 1) false).run cx t).outcome arena = (.ok [scope], arena) ∧
      piece.content = scope.content ∧ piece.leading = scope.leading ∧ piece.trailing = scope.trailing ∧
      (piece.removal = scope.removal ↔ ¬GapBefore words a ∨ (HasGap words a ↔ HasGap words b)) := by
  intro words
  have hinTurn := Scope.inTurn_wordSpans (t.document.textIn token)
  refine ⟨_, _, h.run_subpiece hle hb arena, h.run_ordinalScope hle hb arena, ?_⟩
  rcases Nat.lt_or_eq_of_le hle with hlt | rfl
  · rw [if_neg (Nat.ne_of_lt hlt), Target.ofScopes_words hinTurn hlt hb]
    refine ⟨rfl, rfl, rfl, ?_⟩
    show _ = (Target.joinElements _ _ _ t.isReversed).removal ↔ _
    have ha := Nat.lt_trans hlt hb
    obtain ⟨hstart, _⟩ := hinTurn.removalStart_bounds ha a
    obtain ⟨hstart', _⟩ := hinTurn.removalStart_bounds ha b
    obtain ⟨hstop, _⟩ := hinTurn.removalStop_bounds b
    have hcontent := hinTurn.start_le_stop hle hb
    rw [hinTurn.removal_wordTarget hle hb, hinTurn.removal_joinElements hlt hb,
      Scope.piece_inj (by omega) (by omega), Scope.removalStart_eq_iff]
  · rw [if_pos rfl]
    exact ⟨rfl, rfl, rfl, by simp [Scope.oriented, Target.withReversed, Scope.ofTarget]⟩

theorem picks_words_snakeCase :
    inSnakeCase.IsCursorIn {} (.onLine 0 0 5) ∧
    wordSpans (inSnakeCase.document.textIn (.onLine 0 0 5)) = [(0, 1), (2, 3), (4, 5)] ∧
    ∃ piece scope,
      ((subpiece .word 0 1 false false).run {} inSnakeCase).outcome .empty = (.ok [piece], .empty) ∧
      ((ordinalScope .word 0 2 false).run {} inSnakeCase).outcome .empty = (.ok [scope], .empty) ∧
      piece.content = scope.content ∧ piece.leading = scope.leading ∧ piece.trailing = scope.trailing ∧
      piece.removal = scope.removal := by
  have hcursor := isCursorIn_snakeCase
  obtain ⟨piece, scope, hpiece, hscope, hcontent, hleading, htrailing, hremoval⟩ :=
    picks_words hcursor (Nat.zero_le 1) (by rw [words_inSnakeCase]; decide) .empty
  exact ⟨hcursor, words_inSnakeCase, piece, scope, hpiece, hscope, hcontent, hleading, htrailing,
    hremoval.mpr (.inl fun hgap => Nat.lt_irrefl 0 hgap.1)⟩

theorem not_picks_words_toEnd :
    inSnakeCase.IsCursorIn {} (.onLine 0 0 5) ∧
    wordSpans (inSnakeCase.document.textIn (.onLine 0 0 5)) = [(0, 1), (2, 3), (4, 5)] ∧
    ∃ piece scope,
      ((subpiece .word 1 2 false false).run {} inSnakeCase).outcome .empty = (.ok [piece], .empty) ∧
      ((ordinalScope .word 1 2 false).run {} inSnakeCase).outcome .empty = (.ok [scope], .empty) ∧
      piece.removal = .onLine 0 1 5 ∧ scope.removal = .onLine 0 2 5 ∧ piece.removal ≠ scope.removal := by
  have hcursor := isCursorIn_snakeCase
  have hinTurn : Scope.InTurn [(0, 1), (2, 3), (4, 5)] := wordSpans_snakeCase ▸ Scope.inTurn_wordSpans _
  have hlast : 2 < (wordSpans (inSnakeCase.document.textIn (.onLine 0 0 5))).length := by
    rw [words_inSnakeCase]
    decide
  have hpiece := hcursor.run_subpiece (a := 1) (by decide) hlast .empty
  have hscope := hcursor.run_ordinalScope (a := 1) (by decide) hlast .empty
  rw [words_inSnakeCase] at hpiece hscope
  dsimp only at hscope
  rw [if_neg (by decide), Target.ofScopes_words hinTurn (by decide) (by decide)] at hscope
  refine ⟨hcursor, words_inSnakeCase, _, _, hpiece, hscope, ?_⟩
  decide

end Modifier

end Referent
