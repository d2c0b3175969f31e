import Mathlib.Data.List.Infix
import Referent.Proofs.Document.LineTexts
import Referent.Proofs.Resolve.Every
import Referent.Proofs.Resolve.Scanning
import Referent.Proofs.Scope.TokensAt
import Referent.Proofs.Text.Identifiers

namespace Referent

namespace Target

variable {cx : Context} {t u : Target} {i j : Nat} {r s : Range} {a c : Arena}

def met (t : Target) : List Range := (startsOf t.text 0 0 t.document.text).map t.occurrenceAt

def namesakes (cx : Context) (t : Target) : List Range :=
  (cx.documentTokens t.document).filter fun r => t.document.textIn r = t.text

/-- Whether a search has met another place of the text that ends behind the beginning of a range. -/
def Overtakes (t : Target) (r : Range) : Prop := ∃ s ∈ t.met, s.start < r.start ∧ r.start < s.stop

lemma successive_met (t : Target) : Range.Successive t.met := by
  apply List.pairwise_map.mpr
  refine (pairwise_startsOf t.text t.document.text 0 0).imp fun {i j} hle => ?_
  rw [(t.ends_occurrenceAt i).2, (t.ends_occurrenceAt j).1]
  exact t.document.positionAt_mono hle

lemma of_namesake (hr : r ∈ t.namesakes cx) : t.text <+: t.document.text.drop (t.document.offsetAt r.start) ∧
    t.document.positionAt (t.document.offsetAt r.start) = r.start ∧
    t.occurrenceAt (t.document.offsetAt r.start) = r := by
  obtain ⟨hmem, htext⟩ := List.mem_filter.mp hr
  have htext : t.document.textIn r = t.text := of_decide_eq_true htext
  have hholds := (Context.holdsLine_of_mem hmem).1
  have hlength := Document.length_textIn hholds
  have hle := Document.offsetAt_mono (d := t.document) r.start_le_stop
  have hstop : t.document.offsetAt r.start + t.text.length = t.document.offsetAt r.stop := by
    rw [htext] at hlength
    omega
  refine ⟨htext ▸ t.document.textIn_to_front r, Document.positionAt_offsetAt hholds.1, ?_⟩
  obtain ⟨hfirst, hlast⟩ := t.ends_occurrenceAt (t.document.offsetAt r.start)
  rw [Range.ext_iff', hfirst, hlast, hstop, Document.positionAt_offsetAt hholds.1,
    Document.positionAt_offsetAt hholds.2]
  exact ⟨rfl, rfl⟩

lemma exists_border (hr : r ∈ t.namesakes cx) (hovertakes : t.Overtakes r) :
    ∃ k, 0 < k ∧ k < t.text.length ∧ t.text.drop k <+: t.text := by
  obtain ⟨hbegins, hstart, _⟩ := of_namesake hr
  obtain ⟨s, hs, hbefore, hbehind⟩ := hovertakes
  obtain ⟨i, hi, rfl⟩ := List.mem_map.mp hs
  generalize t.document.offsetAt r.start = j at hbegins hstart
  have hearlier := prefix_of_mem_startsOf_zero hi
  rw [(t.ends_occurrenceAt i).1, ← hstart] at hbefore
  rw [(t.ends_occurrenceAt i).2, ← hstart] at hbehind
  have hij : i < j := by
    by_contra hle
    exact Position.not_le.mpr hbefore (t.document.positionAt_mono (Nat.not_lt.mp hle))
  have hji : j < i + t.text.length := by
    by_contra hle
    exact Position.not_le.mpr hbehind (t.document.positionAt_mono (Nat.not_lt.mp hle))
  refine ⟨j - i, by omega, by omega, ?_⟩
  have hrest : t.text.drop (j - i) <+: t.document.text.drop j := by
    have hdrop := List.IsPrefix.drop hearlier (j - i)
    rwa [List.drop_drop, Nat.add_sub_cancel' (Nat.le_of_lt hij)] at hdrop
  exact List.prefix_of_prefix_length_le hrest hbegins (by rw [List.length_drop]; omega)

structure IsToken (cx : Context) (t : Target) : Prop where
  kind : t.kind = .token
  line : t.flags.line = false
  mem : t.content ∈ cx.documentTokens t.document

namespace IsToken

lemma occurrenceScope_eq (h : t.IsToken cx) : t.occurrenceScope = some .token := by
  rw [occurrenceScope, h.line, h.kind]
  rfl

lemma expandCursor_eq (h : t.IsToken cx) (a : Arena) : (t.expandCursor cx).outcome a = (.ok t, a) := by
  have hbare : t.isBareCursor = false := by
    rw [isBareCursor, h.kind]
    rfl
  rw [expandCursor, inferredToken, hbare]
  rfl

lemma ofChar?_eq_none (h : t.IsToken cx) : ∀ c ∈ t.text, LineEnding.ofChar? c = none :=
  fun _ hc => Document.ofChar?_of_mem_textIn (Context.holdsLine_of_mem h.mem) hc

lemma length_pos (h : t.IsToken cx) : 0 < t.text.length := by
  have hholds := (Context.holdsLine_of_mem h.mem).1
  rw [text, Document.length_textIn hholds]
  apply Nat.sub_pos_of_lt
  by_contra hle
  have hback := (Document.offsetAt_le_iff hholds.2 hholds.1).mp (Nat.not_lt.mp hle)
  exact Position.not_le.mpr (Context.start_lt_stop_of_mem h.mem) hback

lemma of_met (h : t.IsToken cx) (hi : i ∈ startsOf t.text 0 0 t.document.text) :
    t.document.Holds (t.occurrenceAt i) ∧ (t.occurrenceAt i).start < (t.occurrenceAt i).stop ∧
      t.document.textIn (t.occurrenceAt i) = t.text := by
  have hbegins := prefix_of_mem_startsOf_zero hi
  have hpos := h.length_pos
  have hend := add_length_le_length hpos hbegins
  have hchar (j : Nat) (hj : j < t.text.length) :
      t.document.text[i + j]? = some t.text[j] ∧ LineEnding.ofChar? t.text[j] = none := by
    rw [← List.prefix_iff_getElem?.mp hbegins j hj, List.getElem?_drop]
    exact ⟨rfl, h.ofChar?_eq_none _ (List.getElem_mem hj)⟩
  have hfirst : t.document.offsetAt (t.occurrenceAt i).start = i := by
    rw [(t.ends_occurrenceAt i).1]
    apply Document.offsetAt_positionAt (by omega)
    intro hin
    obtain ⟨hc, hending⟩ := hchar 0 hpos
    rw [Nat.add_zero, hin.2.2] at hc
    rw [← Option.some.inj hc] at hending
    exact absurd hending (by decide)
  have hlast : t.document.offsetAt (t.occurrenceAt i).stop = i + t.text.length := by
    rw [(t.ends_occurrenceAt i).2]
    apply Document.offsetAt_positionAt hend
    intro hin
    obtain ⟨hc, hending⟩ := hchar (t.text.length - 1) (by omega)
    rw [← Nat.add_sub_assoc hpos, hin.2.1] at hc
    rw [← Option.some.inj hc] at hending
    exact absurd hending (by decide)
  refine ⟨t.document.holds_positions _ _, start_lt_stop_occurrenceAt hpos hbegins h.ofChar?_eq_none, ?_⟩
  rw [Document.textIn, hfirst, hlast, Nat.add_sub_cancel_left]
  exact (List.prefix_iff_eq_take.mp hbegins).symm

lemma acceptAt_eq (h : t.IsToken cx) (i : Nat) : t.acceptAt cx i =
    match (ScopeFinder.tokens false).containing cx t.editor (t.occurrenceAt i) t.isReversed with
    | .ok (some found) =>
      if found.content = t.occurrenceAt i then some (found.withReversed t.isReversed) else none
    | _ => none := by
  have hfinder : ScopeFinder.ofTarget .token (.plain t.editor (t.occurrenceAt i) t.isReversed) =
      .ok (.tokens false) := by
    rw [ScopeFinder.ofTarget, ScopeType.token, ScopeFinder.ofScopeType]
    rfl
  let place := plain t.editor (t.occurrenceAt i) t.isReversed
  have hplace : (ScopeFinder.tokens false).containing cx place.editor place.content place.isReversed =
      (ScopeFinder.tokens false).containing cx t.editor (t.occurrenceAt i) t.isReversed := rfl
  rw [acceptAt, acceptOccurrence, h.occurrenceScope_eq]
  simp only [containingScope, hfinder, bind, Except.bind, place, hplace]
  cases (ScopeFinder.tokens false).containing cx t.editor (t.occurrenceAt i) t.isReversed with
  | error e => rfl
  | ok found =>
    cases found with
    | none => rfl
    | some found => rfl

lemma acceptAt_of_mem (h : t.IsToken cx) (hi : i ∈ startsOf t.text 0 0 t.document.text)
    (hmem : t.occurrenceAt i ∈ cx.documentTokens t.document) :
    t.acceptAt cx i = some (.token t.editor (t.occurrenceAt i) t.isReversed) := by
  obtain ⟨hholds, hlt, _⟩ := h.of_met hi
  rw [h.acceptAt_eq, ScopeFinder.containing_tokens_of_containsRange hholds.1 hlt hmem
    (Range.containsRange_refl _)]
  exact if_pos rfl

lemma exists_acceptAt_iff (h : t.IsToken cx) (hi : i ∈ startsOf t.text 0 0 t.document.text) :
    (∃ u, t.acceptAt cx i = some u) ↔ t.occurrenceAt i ∈ cx.documentTokens t.document ∨
      cx.Joins t.document (t.occurrenceAt i) := by
  obtain ⟨hholds, hlt, _⟩ := h.of_met hi
  refine Iff.trans ?_ (ScopeFinder.containing_tokens_iff (e := t.editor) hholds hlt t.isReversed)
  rw [h.acceptAt_eq]
  cases (ScopeFinder.tokens false).containing cx t.editor (t.occurrenceAt i) t.isReversed with
  | error e => simp
  | ok found =>
    cases found with
    | none => simp
    | some found => simp

lemma everyOccurrence_eq (h : t.IsToken cx) (hstored : cx.stored? .occurrenceReference = none) :
    t.occurrences cx .every = .ok (t.occurrencesIn cx t.document.range) := by
  have htext : ¬t.text.isEmpty = true := by
    rw [List.isEmpty_iff]
    exact List.ne_nil_of_length_pos h.length_pos
  rw [occurrences, if_neg htext, queriedOccurrences, searchRanges, hstored]
  simp [occurrencesToward]

lemma mem_contents_iff (h : t.IsToken cx) : r ∈ (t.occurrencesIn cx t.document.range).map content ↔
    r ∈ t.met ∧ (r ∈ cx.documentTokens t.document ∨ cx.Joins t.document r) := by
  rw [occurrencesIn_range, met, List.mem_map, List.mem_map]
  constructor
  · rintro ⟨u, hu, rfl⟩
    obtain ⟨i, hi, hu⟩ := List.mem_filterMap.mp hu
    rw [content_acceptAt hu]
    exact ⟨⟨i, hi, rfl⟩, (h.exists_acceptAt_iff hi).mp ⟨u, hu⟩⟩
  · rintro ⟨⟨i, hi, rfl⟩, htoken⟩
    obtain ⟨u, hu⟩ := (h.exists_acceptAt_iff hi).mpr htoken
    exact ⟨u, List.mem_filterMap.mpr ⟨i, hi, hu⟩, content_acceptAt hu⟩

lemma eq_token (h : t.IsToken cx) (hu : u ∈ t.occurrencesIn cx t.document.range)
    (hmem : u.content ∈ cx.documentTokens t.document) :
    u = .token t.editor u.content t.isReversed := by
  rw [occurrencesIn_range] at hu
  obtain ⟨i, hi, hu⟩ := List.mem_filterMap.mp hu
  have hcontent := content_acceptAt hu
  rw [hcontent] at hmem ⊢
  rw [h.acceptAt_of_mem hi hmem] at hu
  exact (Option.some.inj hu).symm

lemma mem_met_or_overtakes (h : t.IsToken cx) (hr : r ∈ t.namesakes cx) : r ∈ t.met ∨ t.Overtakes r := by
  obtain ⟨hbegins, hstart, hplace⟩ := of_namesake hr
  generalize t.document.offsetAt r.start = j at hbegins hstart hplace
  have hpos := h.length_pos
  have hplaces : j ∈ startsOf t.text 0 0 t.document.text ∨
      ∃ i ∈ startsOf t.text 0 0 t.document.text, i < j ∧ j < i + t.text.length :=
    mem_startsOf_of_begins hpos (Nat.zero_le j) hbegins
  rcases hplaces with hj | ⟨i, hi, hij, hji⟩
  · exact .inl (List.mem_map.mpr ⟨j, hj, hplace⟩)
  · have hearlier := prefix_of_mem_startsOf_zero hi
    have hchars := h.ofChar?_eq_none
    have hend := add_length_le_length hpos hearlier
    refine .inr ⟨t.occurrenceAt i, List.mem_map.mpr ⟨i, hi, rfl⟩, ?_, ?_⟩
    · rw [(t.ends_occurrenceAt i).1, ← hstart]
      exact positionAt_lt_of_begins hpos hearlier hchars hij (by omega)
    · rw [(t.ends_occurrenceAt i).2, ← hstart]
      exact positionAt_lt_of_begins hpos hbegins hchars hji hend

lemma contents_eq_namesakes (h : t.IsToken cx) (hovertaken : ∀ r ∈ t.namesakes cx, ¬t.Overtakes r)
    (hjoins : ∀ r ∈ t.met, ¬cx.Joins t.document r) :
    (t.occurrencesIn cx t.document.range).map content = t.namesakes cx := by
  have hnamesakes : Range.Successive (t.namesakes cx) :=
    (Context.successive_documentTokens cx t.document).sublist List.filter_sublist
  apply (successive_occurrencesIn cx t t.document.range).eq_of_mem_iff hnamesakes
  · intro r hr
    obtain ⟨i, hi, rfl⟩ := List.mem_map.mp (h.mem_contents_iff.mp hr).1
    exact (h.of_met hi).2.1
  · intro r
    rw [h.mem_contents_iff]
    constructor
    · rintro ⟨hmet, htoken⟩
      obtain ⟨i, hi, rfl⟩ := List.mem_map.mp hmet
      have hmem := htoken.resolve_right (hjoins _ hmet)
      exact List.mem_filter.mpr ⟨hmem, decide_eq_true (h.of_met hi).2.2⟩
    · intro hr
      exact ⟨(h.mem_met_or_overtakes hr).resolve_right (hovertaken r hr), .inl (List.mem_filter.mp hr).1⟩

lemma run_everyScope (h : t.IsToken cx) (hstored : cx.stored? .occurrenceReference = none) (a : Arena) :
    ((Modifier.everyScope .occurrence).run cx t).outcome a =
      (.ok (t.occurrencesIn cx t.document.range), a) := by
  rw [Modifier.run, if_pos rfl, resolveOccurrences, Resolving.outcome_bind_ok _ (h.expandCursor_eq a),
    Resolving.outcome_lift, h.everyOccurrence_eq hstored]

end IsToken

end Target

/-- Where the whole document is searched for a token, what is found comes from left to right, and consists of
those places at which the text is met that are tokens or go from one token to another one. These are all
tokens with the text, each once and in order, exactly if no such token is overtaken by a place that overlaps
it and no place goes from one token to another one. A token can only be overtaken if its text begins again
inside itself. -/
theorem Modifier.everyScope_token {cx : Context} {t : Target}
    (hstored : cx.stored? .occurrenceReference = none) (ht : t.IsToken cx) (a : Arena) :
    ∃ targets, ((everyScope .occurrence).run cx t).outcome a = (.ok targets, a) ∧
      Range.Successive (targets.map Target.content) ∧
      (∀ r, r ∈ targets.map Target.content ↔
        r ∈ t.met ∧ (r ∈ cx.documentTokens t.document ∨ cx.Joins t.document r)) ∧
      (targets = (t.namesakes cx).map (fun r => .token t.editor r t.isReversed) ↔
        (∀ r ∈ t.namesakes cx, ¬t.Overtakes r) ∧ ∀ r ∈ t.met, ¬cx.Joins t.document r) ∧
      ∀ r ∈ t.namesakes cx, t.Overtakes r →
        ∃ k, 0 < k ∧ k < t.text.length ∧ t.text.drop k <+: t.text := by
  refine ⟨t.occurrencesIn cx t.document.range, ht.run_everyScope hstored a,
    Target.successive_occurrencesIn cx t _, fun r => ht.mem_contents_iff, ?_,
    fun r hr => Target.exists_border hr⟩
  · have hcontent : ((t.namesakes cx).map fun r => Target.token t.editor r t.isReversed).map
        Target.content = t.namesakes cx := by
      rw [List.map_map]
      exact List.map_id _
    constructor
    · intro heq
      rw [← heq] at hcontent
      have hmet {r : Range} (hr : r ∈ t.namesakes cx) : r ∈ t.met :=
        (ht.mem_contents_iff.mp (hcontent ▸ hr)).1
      refine ⟨fun r hr hovertakes => ?_, fun r hr hjoins => ?_⟩
      · obtain ⟨s, hs, hbefore, hbehind⟩ := hovertakes
        have hne : s ≠ r := fun h => Position.not_le.mpr hbefore (h ▸ Position.le_refl _)
        rcases t.successive_met.apart hs (hmet hr) hne with hle | hle
        · exact Position.not_le.mpr hbehind hle
        · exact Position.not_le.mpr hbefore (Position.le_trans r.start_le_stop hle)
      · have hfound := ht.mem_contents_iff.mpr ⟨hr, .inr hjoins⟩
        rw [hcontent] at hfound
        exact hjoins.not_mem (List.mem_filter.mp hfound).1
    · rintro ⟨hovertaken, hjoins⟩
      rw [← ht.contents_eq_namesakes hovertaken hjoins, List.map_map]
      refine ((List.map_congr_left fun u hu => ?_).trans (List.map_id _)).symm
      obtain ⟨hmet, htoken⟩ := ht.mem_contents_iff.mp (List.mem_map_of_mem hu)
      exact (ht.eq_token hu (htoken.resolve_right (hjoins _ hmet))).symm

def threeLetters : Document := .ofText 1 "plaintext" "a b a".toList

def lapped : Document := .ofText 1 "plaintext" "+===".toList

def dotted : Document := .ofText 1 "plaintext" "1.1 1.1.".toList

lemma Context.documentTokens_of_line (cx : Context) (d : Document) {found : List Token}
    (h : d.linesOf d.range = [0])
    (hfound : cx.tokensOfText d.language (d.lineAt 0).text = found) :
    cx.documentTokens d = found.map fun t => .onLine 0 t.start t.stop := by
  rw [documentTokens, tokens, h, List.flatMap_singleton, tokensOfLine, hfound]

lemma contains_identifierChars_ascii : (∀ c ∈ ['a', 'b', '1'], Token.identifierChars.contains c = true) ∧
    ∀ c ∈ [' ', '.', '='], Token.identifierChars.contains c = false := by
  simp only [Token.contains_identifierChars, ← Bool.not_eq_true, List.forall_mem_cons]
  refine ⟨⟨?_, ?_, ?_, List.forall_mem_nil _⟩, ?_, ?_, ?_, List.forall_mem_nil _⟩
  all_goals decide +kernel

lemma stops_symbol {c : Char} (hc : c ∈ [' ', '.', '=']) (rest : List Char) :
    Token.Stops [['_']] (c :: rest) := by
  apply Token.stops_cons (contains_identifierChars_ascii.2 c hc)
  intro s hs
  obtain rfl := List.mem_singleton.mp hs
  refine ⟨'_', rfl, ?_⟩
  rintro rfl
  exact absurd hc (by decide)

lemma lengthAt_letter (c : Char) (prev : Option Char) (rest : List Char) (hc : c ∈ ['a', 'b', '1'])
    (hoperators : (Token.operators.find? fun o => o.isPrefixOf (c :: rest)) = none)
    (hdecimal : Token.standaloneDecimal? prev (c :: rest) = none) (hrest : Token.Stops [['_']] rest) :
    Token.lengthAt (Token.identifier [['_']]) prev (c :: rest) = 1 := by
  apply Token.lengthAt_of_single hoperators hdecimal (contains_identifierChars_ascii.1 c hc) _ hrest
  intro s hs
  obtain rfl := List.mem_singleton.mp hs
  refine ⟨'_', rfl, ?_⟩
  rintro rfl
  exact absurd hc (by decide)

lemma tokens_threeLetters : ({} : Context).documentTokens threeLetters =
    [.onLine 0 0 1, .onLine 0 2 3, .onLine 0 4 5] := by
  have hblank : (isHorizontalSpace ' ' || isLineEnding ' ') = true := by decide
  have ha : (isHorizontalSpace 'a' || isLineEnding 'a') = false := by decide
  have hb : (isHorizontalSpace 'b' || isLineEnding 'b') = false := by decide
  have hfirst := lengthAt_letter 'a' none [' ', 'b', ' ', 'a'] (by simp)
    (by decide) (by decide +kernel) (stops_symbol (by simp) _)
  have hsecond := lengthAt_letter 'b' (some ' ') [' ', 'a'] (by simp)
    (by decide) (by decide +kernel) (stops_symbol (by simp) _)
  have hthird := lengthAt_letter 'a' (some ' ') [] (by simp)
    (by decide) (by decide +kernel) (Token.stops_nil (by simp))
  have htext : Token.ofText [['_']] ['a', ' ', 'b', ' ', 'a'] =
      [⟨0, 1, ['a']⟩, ⟨2, 3, ['b']⟩, ⟨4, 5, ['a']⟩] := by
    simp [Token.ofText, Token.ofTextFrom, hblank, ha, hb, hfirst, hsecond, hthird]
  exact Context.documentTokens_of_line {} threeLetters (by decide +kernel) htext

lemma tokens_lapped : ({} : Context).documentTokens lapped = [.onLine 0 0 2, .onLine 0 2 4] := by
  have hplus : (isHorizontalSpace '+' || isLineEnding '+') = false := by decide
  have hequals : (isHorizontalSpace '=' || isLineEnding '=') = false := by decide
  have hfirst : Token.lengthAt (Token.identifier [['_']]) none ['+', '=', '=', '='] = 2 := by
    decide +kernel
  have hsecond : Token.lengthAt (Token.identifier [['_']]) (some '=') ['=', '='] = 2 :=
    Token.lengthAt_of_stops (by decide) (by decide +kernel) (stops_symbol (by simp) _) (by decide)
  have htext : Token.ofText [['_']] ['+', '=', '=', '='] =
      [⟨0, 2, ['+', '=']⟩, ⟨2, 4, ['=', '=']⟩] := by
    simp [Token.ofText, Token.ofTextFrom, hplus, hequals, hfirst, hsecond]
  exact Context.documentTokens_of_line {} lapped (by decide +kernel) htext

lemma tokens_dotted : ({} : Context).documentTokens dotted =
    [.onLine 0 0 3, .onLine 0 4 5, .onLine 0 5 6, .onLine 0 6 7, .onLine 0 7 8] := by
  have hblank : (isHorizontalSpace ' ' || isLineEnding ' ') = true := by decide
  have hdot : (isHorizontalSpace '.' || isLineEnding '.') = false := by decide
  have hone : (isHorizontalSpace '1' || isLineEnding '1') = false := by decide
  have hdecimal : Token.lengthAt (Token.identifier [['_']]) none
      ['1', '.', '1', ' ', '1', '.', '1', '.'] = 3 := by decide +kernel
  have hdigit := lengthAt_letter '1' (some ' ') ['.', '1', '.'] (by simp)
    (by decide) (by decide +kernel) (stops_symbol (by simp) _)
  have hpoint : Token.lengthAt (Token.identifier [['_']]) (some '1') ['.', '1', '.'] = 1 :=
    Token.lengthAt_of_stops (by decide) (by decide +kernel) (stops_symbol (by simp) _) (by decide)
  have hdigit' := lengthAt_letter '1' (some '.') ['.'] (by simp)
    (by decide) (by decide +kernel) (stops_symbol (by simp) _)
  have hpoint' : Token.lengthAt (Token.identifier [['_']]) (some '1') ['.'] = 1 :=
    Token.lengthAt_of_stops (by decide) (by decide +kernel) (stops_symbol (by simp) _) (by decide)
  have htext : Token.ofText [['_']] ['1', '.', '1', ' ', '1', '.', '1', '.'] =
      [⟨0, 3, ['1', '.', '1']⟩, ⟨4, 5, ['1']⟩, ⟨5, 6, ['.']⟩, ⟨6, 7, ['1']⟩, ⟨7, 8, ['.']⟩] := by
    simp [Token.ofText, Token.ofTextFrom, hblank, hdot, hone, hdecimal, hdigit, hpoint, hdigit', hpoint']
  exact Context.documentTokens_of_line {} dotted (by decide +kernel) htext

theorem Modifier.everyScope_token_twice :
    let e : Editor := .ofDocument 1 threeLetters
    let t : Target := .token e (.onLine 0 0 1) false
    ({} : Context).stored? .occurrenceReference = none ∧ t.IsToken {} ∧
      ((everyScope .occurrence).run {} t).outcome .empty =
        (.ok [.token e (.onLine 0 0 1) false, .token e (.onLine 0 4 5) false], .empty) := by
  intro e t
  have htokens : ({} : Context).documentTokens t.document =
      [.onLine 0 0 1, .onLine 0 2 3, .onLine 0 4 5] := tokens_threeLetters
  have ht : t.IsToken {} := ⟨rfl, rfl, htokens ▸ List.mem_cons_self⟩
  have hnamesakes : t.namesakes {} = [.onLine 0 0 1, .onLine 0 4 5] := by
    rw [Target.namesakes, htokens]
    decide +kernel
  have hmet : t.met = [.onLine 0 0 1, .onLine 0 4 5] := by decide +kernel
  obtain ⟨targets, hrun, _, _, hall, hborder⟩ := Modifier.everyScope_token rfl ht .empty
  have htargets : targets = [.token e (.onLine 0 0 1) false, .token e (.onLine 0 4 5) false] := by
    rw [hnamesakes] at hall hborder
    refine hall.mpr ⟨fun r hr hovertakes => ?_, fun r hr hjoins => ?_⟩
    · obtain ⟨k, hpos, hlt, _⟩ := hborder r hr hovertakes
      have hlength : t.text.length = 1 := by decide +kernel
      omega
    · apply hjoins.not_mem
      rw [hmet] at hr
      rw [htokens]
      exact List.cons_subset_cons _ (List.subset_cons_self _ _) hr
  exact ⟨rfl, ht, htargets ▸ hrun⟩

theorem Modifier.not_everyScope_token :
    let e : Editor := .ofDocument 1 lapped
    let t : Target := .token e (.onLine 0 2 4) false
    let e' : Editor := .ofDocument 1 dotted
    let t' : Target := .token e' (.onLine 0 0 3) false
    (t.IsToken {} ∧ t.namesakes {} = [.onLine 0 2 4] ∧
      ((everyScope .occurrence).run {} t).outcome .empty = (.ok [], .empty)) ∧
    t'.IsToken {} ∧ t'.namesakes {} = [.onLine 0 0 3] ∧
      ∃ targets, ((everyScope .occurrence).run {} t').outcome .empty = (.ok targets, .empty) ∧
        targets.map Target.content = [.onLine 0 0 3, .onLine 0 4 7] := by
  intro e t e' t'
  constructor
  · have htokens : ({} : Context).documentTokens t.document = [.onLine 0 0 2, .onLine 0 2 4] :=
      tokens_lapped
    have ht : t.IsToken {} := ⟨rfl, rfl, htokens ▸ List.mem_cons_of_mem _ List.mem_cons_self⟩
    have hnamesakes : t.namesakes {} = [.onLine 0 2 4] := by
      rw [Target.namesakes, htokens]
      decide +kernel
    have hmet : t.met = [.onLine 0 1 3] := by decide +kernel
    have hnone : (t.occurrencesIn {} t.document.range).map Target.content = [] := by
      apply List.eq_nil_iff_forall_not_mem.mpr
      intro r hr
      obtain ⟨hr, htoken⟩ := ht.mem_contents_iff.mp hr
      rw [hmet, List.mem_singleton] at hr
      subst hr
      rcases htoken with hmem | ⟨first, last, hfirst, _, hstart, _⟩
      · rw [htokens] at hmem
        exact absurd hmem (by decide)
      · have hmem := hfirst.mem
        rw [htokens] at hmem
        rcases List.mem_pair.mp hmem with rfl | rfl
        · exact absurd hstart (by decide)
        · exact absurd hstart (by decide)
    exact ⟨ht, hnamesakes, List.map_eq_nil_iff.mp hnone ▸ ht.run_everyScope rfl .empty⟩
  · have htokens : ({} : Context).documentTokens t'.document =
        [.onLine 0 0 3, .onLine 0 4 5, .onLine 0 5 6, .onLine 0 6 7, .onLine 0 7 8] := tokens_dotted
    have ht : t'.IsToken {} := ⟨rfl, rfl, htokens ▸ List.mem_cons_self⟩
    have hnamesakes : t'.namesakes {} = [.onLine 0 0 3] := by
      rw [Target.namesakes, htokens]
      decide +kernel
    have hmet : t'.met = [.onLine 0 0 3, .onLine 0 4 7] := by decide +kernel
    have hjoins : ({} : Context).Joins t'.document (.onLine 0 4 7) := by
      refine ⟨.onLine 0 4 5, .onLine 0 6 7, ⟨htokens ▸ by decide, ?_⟩, ⟨htokens ▸ by decide, ?_⟩, rfl, rfl,
        by decide⟩
      · rw [htokens]
        decide
      · -- Only the dot at the end begins where the last digit ends, and a dot is no identifier.
        rw [htokens]
        have honly : ∀ other ∈ [Range.onLine 0 0 3, .onLine 0 4 5, .onLine 0 5 6, .onLine 0 6 7, .onLine 0 7 8],
            other.start = ⟨0, 7⟩ → other = .onLine 0 7 8 := by decide
        intro other hmem hedge hidentifies
        obtain rfl := honly other hmem hedge
        have htext : t'.document.textIn (.onLine 0 7 8) = ['.'] := by decide +kernel
        have hdot : ({} : Context).identifies t'.document (.onLine 0 7 8) = false := by
          rw [Context.identifies, htext]
          exact Token.not_isIdentifier_of_stops (stops_symbol (by simp) [])
        rw [hdot] at hidentifies
        cases hidentifies
    have hboth : ∀ r ∈ t'.met, r ∈ ({} : Context).documentTokens t'.document ∨
        ({} : Context).Joins t'.document r := by
      rw [hmet]
      intro r hr
      rcases List.mem_pair.mp hr with rfl | rfl
      · exact .inl (htokens ▸ List.mem_cons_self)
      · exact .inr hjoins
    refine ⟨ht, hnamesakes, _, ht.run_everyScope rfl .empty, ?_⟩
    rw [← hmet]
    refine (Target.successive_occurrencesIn {} t' t'.document.range).eq_of_mem_iff t'.successive_met
      (fun r hr => ?_) fun r => ht.mem_contents_iff.trans (and_iff_left_of_imp (hboth r))
    have hshort : ∀ r ∈ [Range.onLine 0 0 3, .onLine 0 4 7], r.start < r.stop := by decide
    exact hshort r (hmet ▸ (ht.mem_contents_iff.mp hr).1)

end Referent
