import Referent.Proofs.Document.Offsets
import Referent.Proofs.Scope.Finders
import Referent.Proofs.Sorting
import Referent.Proofs.Text.Order

namespace Referent

namespace Range

def Successive (l : List Range) : Prop := l.Pairwise fun r s => r.stop ≤ s.start

def Ordered (l : List Range) : Prop := l.Pairwise fun r s => r.start ≤ s.start

lemma Successive.ordered {l : List Range} (h : Successive l) : Ordered l :=
  h.imp fun {r _} hle => Position.le_trans r.start_le_stop hle

lemma successive_onLine {spans : List (Nat × Nat)} (line : Nat) (hs : Referent.Successive spans)
    (hordered : ∀ s ∈ spans, s.1 ≤ s.2) :
    Successive (spans.map fun s => onLine line s.1 s.2) := by
  refine List.pairwise_map.mpr (hs.imp_of_mem fun {s t} hs ht hle => ?_)
  rw [stop_onLine (hordered s hs), start_onLine (hordered t ht)]
  exact .inr ⟨rfl, hle⟩

lemma touches_of_containsRange {r s q : Range} (h : r.containsRange s = true)
    (hs : s.touches q = true) : r.touches q = true := by
  obtain ⟨hstart, hstop⟩ := (containsRange_iff r s).mp h
  obtain ⟨hbefore, hbehind⟩ := touches_iff.mp hs
  exact touches_iff.mpr ⟨Position.le_trans hstart hbefore, Position.le_trans hbehind hstop⟩

end Range

lemma flatMap_filter {α β : Type} {p : α → Bool} {f : α → List β} {l : List α}
    (h : ∀ a ∈ l, p a = false → f a = []) : (l.filter p).flatMap f = l.flatMap f := by
  induction l with
  | nil => rfl
  | cons a l ih =>
    have hrest := ih fun b hb => h b (List.mem_cons_of_mem a hb)
    cases hp : p a with
    | true => rw [List.filter_cons_of_pos hp, List.flatMap_cons, List.flatMap_cons, hrest]
    | false =>
      rw [List.filter_cons_of_neg (by simp [hp]), List.flatMap_cons, h a List.mem_cons_self hp, hrest,
        List.nil_append]

namespace Scope

def Successive (l : List Scope) : Prop := Range.Successive (l.map domain)

def Ordered (l : List Scope) : Prop := Range.Ordered (l.map domain)

lemma Successive.ordered {l : List Scope} (h : Successive l) : Ordered l := Range.Successive.ordered h

lemma Successive.sublist {l l' : List Scope} (h : Successive l) (hl : List.Sublist l' l) :
    Successive l' := List.Pairwise.sublist (hl.map domain) h

lemma Ordered.sublist {l l' : List Scope} (h : Ordered l) (hl : List.Sublist l' l) : Ordered l' :=
  List.Pairwise.sublist (hl.map domain) h

lemma touching_sublist (r : Range) (l : List Scope) : List.Sublist (touching r l) l :=
  List.filter_sublist

section Lines

variable {cx : Context} {e : Editor} {d : Document}

structure InLines (d : Document) (scopesOf : Nat → List Scope) : Prop where
  onLine : ∀ line < d.lineCount, ∀ s ∈ scopesOf line,
    s.domain.start.line = line ∧ s.domain.stop.line = line
  successive : ∀ line < d.lineCount, Successive (scopesOf line)

lemma InLines.successive_flatMap {scopesOf : Nat → List Scope} (h : InLines d scopesOf) (r : Range) :
    Successive ((d.linesOf r).flatMap scopesOf) := by
  refine List.pairwise_map.mpr (List.pairwise_flatMap.mpr ⟨fun line hline => ?_, ?_⟩)
  · exact List.pairwise_map.mp (h.successive line (Document.mem_linesOf hline))
  · refine List.Pairwise.imp_of_mem (fun {a b} ha hb hlt s hs t ht => ?_) List.pairwise_lt_range'
    refine .inl ?_
    rw [(h.onLine a (Document.mem_linesOf ha) s hs).2, (h.onLine b (Document.mem_linesOf hb) t ht).1]
    exact hlt

lemma InLines.mono {scopesOf scopesOf' : Nat → List Scope} (h : InLines d scopesOf)
    (hsub : ∀ line, List.Sublist (scopesOf' line) (scopesOf line)) : InLines d scopesOf' where
  onLine line hline s hs := h.onLine line hline s ((hsub line).subset hs)
  successive line hline := (h.successive line hline).sublist (hsub line)

lemma inLines_spans {spansOf : Nat → List (Nat × Nat)} {scope : Nat → Nat × Nat → Scope}
    (hs : ∀ line, Referent.Successive (spansOf line)) (hordered : ∀ line, ∀ s ∈ spansOf line, s.1 ≤ s.2)
    (hdomain : ∀ line < d.lineCount, ∀ s, (scope line s).domain = .onLine line s.1 s.2) :
    InLines d fun line => (spansOf line).map (scope line) where
  onLine line hline t ht := by
    obtain ⟨s, hs, rfl⟩ := List.mem_map.mp ht
    rw [hdomain line hline, Range.start_onLine (hordered line s hs),
      Range.stop_onLine (hordered line s hs)]
    exact ⟨rfl, rfl⟩
  successive line hline := by
    have hdomains : ((spansOf line).map (scope line)).map domain =
        (spansOf line).map fun s => .onLine line s.1 s.2 := by
      rw [List.map_map]
      exact List.map_congr_left fun s _ => hdomain line hline s
    rw [Successive, hdomains]
    exact Range.successive_onLine line (hs line) (hordered line)

lemma inLines_characters (e : Editor) : InLines d (charactersOfLine e) :=
  inLines_spans (fun _ => Unicode.successive_clusterSpans _)
    (fun _ _ hs => Unicode.clusterSpans_ordered hs) fun _ _ _ => rfl

lemma inLines_matches (scopeType : ScopeType) (regex : Regex) (e : Editor) :
    InLines d (matchesOfLine scopeType regex e) := by
  apply inLines_spans
  · exact fun line => regex.successive_spans _
  · exact fun line s hs => Nat.le_of_lt (regex.spansFrom_bounds 0 0 none _ s hs).1
  · exact fun line _ s => Target.content_scope e scopeType _ false

def lineScope (e : Editor) (line : Nat) : Scope :=
  ⟨(e.document.lineAt line).range, .line e (e.document.lineAt line).range false⟩

lemma domain_lineScope {line : Nat} (hline : line < e.document.lineCount) :
    (lineScope e line).domain = .onLine line 0 (e.document.lineLength line) := by
  have hnumber : min line e.document.lastLine = line :=
    Nat.min_eq_left ((e.document.le_lastLine_iff line).mpr hline)
  show Range.onLine (min line e.document.lastLine) 0 (e.document.lineLength line) = _
  rw [hnumber]

lemma inLines_lines (e : Editor) : InLines e.document fun line => [lineScope e line] where
  onLine line hline s hs := by
    rw [List.mem_singleton.mp hs, domain_lineScope hline, Range.start_onLine (Nat.zero_le _),
      Range.stop_onLine (Nat.zero_le _)]
    exact ⟨rfl, rfl⟩
  successive _ _ := List.pairwise_singleton _ _

lemma lines_eq (r : Range) :
    lines e r = (e.document.linesOf r).flatMap fun line => [lineScope e line] := by
  rw [lines, List.map_eq_flatMap]
  rfl

def tokensOf (cx : Context) (identifiersOnly : Bool) (e : Editor) (line : Nat) : List Scope :=
  ((cx.tokensOfLine e.document line).filter fun t =>
    !identifiersOnly || cx.isIdentifier e.document (e.document.textIn t)).map fun t =>
      ofTarget (.token e t false)

lemma tokens_eq (b : Bool) (r : Range) :
    tokens cx b e r = touching r ((e.document.linesOf r).flatMap (tokensOf cx b e)) := by
  rw [tokens, Context.tokens, List.filter_flatMap, List.map_flatMap]
  rfl

lemma inLines_tokens (cx : Context) (b : Bool) (e : Editor) : InLines d (tokensOf cx b e) := by
  have htokens (line : Nat) :=
    cx.along_tokensOfText e.document.language (e.document.lineAt line).text
  have hall : InLines d fun line =>
      ((cx.tokensOfText e.document.language (e.document.lineAt line).text).map
        fun t => (t.start, t.stop)).map fun s => ofTarget (.token e (.onLine line s.1 s.2) false) := by
    apply inLines_spans
    · exact fun line => List.pairwise_map.mpr (htokens line).successive
    · intro line s hs
      obtain ⟨t, ht, rfl⟩ := List.mem_map.mp hs
      exact Nat.le_of_lt ((htokens line).nonempty t ht)
    · exact fun _ _ _ => rfl
  refine hall.mono fun line => ?_
  have hmap : ((cx.tokensOfText e.document.language (e.document.lineAt line).text).map
      fun t => (t.start, t.stop)).map (fun s => ofTarget (.token e (.onLine line s.1 s.2) false)) =
        (cx.tokensOfLine e.document line).map fun t => ofTarget (.token e t false) := by
    rw [Context.tokensOfLine, List.map_map, List.map_map]
    rfl
  rw [hmap]
  exact List.filter_sublist.map _

def wordsOf (cx : Context) (e : Editor) (line : Nat) : List Scope :=
  (cx.tokensOfLine e.document line).flatMap (wordsOfToken e)

lemma domains_wordsOfToken (e : Editor) (token : Range) :
    (wordsOfToken e token).map domain =
      (wordSpans (e.document.textIn token)).map fun w => piece token w.1 w.2 := by
  rw [wordsOfToken, List.map_map]
  apply List.ext_getElem
  · rw [List.length_map, List.length_map, List.length_range]
  · intro i hi hi'
    rw [List.length_map] at hi'
    rw [List.getElem_map, List.getElem_map, List.getElem_range]
    show piece token ((wordSpans _).getD i (0, 0)).1 ((wordSpans _).getD i (0, 0)).2 = _
    rw [List.getD_eq_getElem?_getD, List.getElem?_eq_getElem hi', Option.getD_some]

lemma domain_word {token : Range} {s : Scope} (hs : s ∈ wordsOfToken e token) :
    ∃ w ∈ wordSpans (e.document.textIn token), s.domain = piece token w.1 w.2 := by
  have hdomain := List.mem_map_of_mem (f := domain) hs
  rw [domains_wordsOfToken] at hdomain
  obtain ⟨w, hw, heq⟩ := List.mem_map.mp hdomain
  exact ⟨w, hw, heq.symm⟩

lemma containsRange_word {token : Range} (h : e.document.HoldsLine token) {s : Scope}
    (hs : s ∈ wordsOfToken e token) : token.containsRange s.domain = true := by
  obtain ⟨w, hw, hdomain⟩ := domain_word hs
  have hlength := Document.length_textIn_le h.holds h.single
  have hbound := wordSpans_le_length _ w hw
  have hline : token.start.line = token.stop.line := by simpa [Range.isSingleLine] using h.single
  have hle := Position.le_def.mp token.start_le_stop
  have hw := Nat.add_le_add_left (wordSpans_ordered hw) token.start.character
  rw [hdomain, piece, Range.containsRange_iff, Range.start_onLine hw, Range.stop_onLine hw]
  refine ⟨.inr ⟨rfl, Nat.le_add_right _ _⟩, .inr ⟨hline, ?_⟩⟩
  dsimp only
  omega

lemma successive_wordsOfToken (token : Range) : Successive (wordsOfToken e token) := by
  rw [Successive, domains_wordsOfToken]
  have hspans := successive_wordSpans (e.document.textIn token)
  refine List.pairwise_map.mpr (hspans.imp_of_mem fun {v w} hv hw hle => ?_)
  have hv := Nat.add_le_add_left (wordSpans_ordered hv) token.start.character
  have hw := Nat.add_le_add_left (wordSpans_ordered hw) token.start.character
  rw [piece, piece, Range.stop_onLine hv, Range.start_onLine hw]
  exact .inr ⟨rfl, Nat.add_le_add_left hle _⟩

lemma holdsLine_of_mem {line : Nat} (hline : line < d.lineCount) {token : Range}
    (h : token ∈ cx.tokensOfLine d line) :
    d.HoldsLine token ∧ token.start.line = line ∧ token.stop.line = line := by
  obtain ⟨t, ht, rfl⟩ := List.mem_map.mp h
  have htokens := cx.along_tokensOfText d.language (d.lineAt line).text
  have hordered := Nat.le_of_lt (htokens.nonempty t ht)
  have hstop := (htokens.within t ht).1
  rw [Range.start_onLine hordered, Range.stop_onLine hordered]
  exact ⟨Document.holdsLine_onLine hline (Nat.le_trans hordered hstop) hstop, rfl, rfl⟩

lemma successive_tokensOfLine (cx : Context) (d : Document) (line : Nat) :
    Range.Successive (cx.tokensOfLine d line) := by
  have htokens := cx.along_tokensOfText d.language (d.lineAt line).text
  refine List.pairwise_map.mpr (htokens.successive.imp_of_mem fun {s t} hs ht hle => ?_)
  rw [Range.stop_onLine (Nat.le_of_lt (htokens.nonempty s hs)),
    Range.start_onLine (Nat.le_of_lt (htokens.nonempty t ht))]
  exact .inr ⟨rfl, hle⟩

lemma words_eq (r : Range) :
    words cx e r = touching r ((e.document.linesOf r).flatMap (wordsOf cx e)) := by
  have hwords : (e.document.linesOf r).flatMap (wordsOf cx e) =
      (cx.tokens e.document r).flatMap (wordsOfToken e) := by
    rw [Context.tokens, List.flatMap_assoc]
    rfl
  rw [words, hwords, touching, touching, List.filter_flatMap, List.filter_flatMap]
  apply flatMap_filter
  intro token htoken hapart
  have hline := cx.holdsLine_tokens e.document r token htoken
  apply List.filter_eq_nil_iff.mpr
  intro s hs htouches
  rw [Range.touches_of_containsRange (containsRange_word hline hs) htouches] at hapart
  exact Bool.noConfusion hapart

lemma inLines_words (cx : Context) (e : Editor) : InLines e.document (wordsOf cx e) where
  onLine line hline s hs := by
    obtain ⟨token, htoken, hs⟩ := List.mem_flatMap.mp hs
    obtain ⟨w, hw, hdomain⟩ := domain_word hs
    have hw := Nat.add_le_add_left (wordSpans_ordered hw) token.start.character
    rw [hdomain, piece, Range.start_onLine hw, Range.stop_onLine hw]
    have hstart := (holdsLine_of_mem hline htoken).2.1
    exact ⟨hstart, hstart⟩
  successive line hline := by
    refine List.pairwise_map.mpr (List.pairwise_flatMap.mpr ⟨fun token _ => ?_, ?_⟩)
    · exact List.pairwise_map.mp (successive_wordsOfToken token)
    · refine (successive_tokensOfLine cx e.document line).imp_of_mem fun {a b} ha hb hle s hs t ht => ?_
      have hs := (Range.containsRange_iff _ _).mp (containsRange_word (holdsLine_of_mem hline ha).1 hs)
      have ht := (Range.containsRange_iff _ _).mp (containsRange_word (holdsLine_of_mem hline hb).1 ht)
      exact Position.le_trans hs.2 (Position.le_trans hle ht.1)

end Lines

lemma textRuns_bounds (opened : Option Nat) (line : Nat) (blank : List Bool)
    (hopened : ∀ first ∈ opened, first < line) :
    (∀ run ∈ textRuns opened line blank, opened.getD line ≤ run.1 ∧ run.1 ≤ run.2) ∧
      (textRuns opened line blank).Pairwise fun a b => a.2 < b.1 := by
  induction blank generalizing opened line with
  | nil =>
    cases opened with
    | none => exact ⟨fun run hrun => absurd hrun List.not_mem_nil, List.Pairwise.nil⟩
    | some first =>
      refine ⟨fun run hrun => ?_, List.pairwise_singleton _ _⟩
      rw [List.mem_singleton.mp hrun]
      exact ⟨Nat.le_refl _, Nat.le_sub_one_of_lt (hopened first rfl)⟩
  | cons isBlank rest ih =>
    cases opened with
    | none =>
      cases isBlank with
      | true =>
        obtain ⟨hbounds, hpairwise⟩ := ih none (line + 1) (by simp)
        exact ⟨fun run hrun => ⟨Nat.le_of_succ_le (hbounds run hrun).1, (hbounds run hrun).2⟩, hpairwise⟩
      | false => exact ih (some line) (line + 1) (by simp)
    | some first =>
      have hfirst := hopened first rfl
      cases isBlank with
      | true =>
        obtain ⟨hbounds, hpairwise⟩ := ih none (line + 1) (by simp)
        have hlater : ∀ run ∈ textRuns none (line + 1) rest, line + 1 ≤ run.1 :=
          fun run hrun => (hbounds run hrun).1
        refine ⟨fun run hrun => ?_, List.pairwise_cons.mpr ⟨fun run hrun => ?_, hpairwise⟩⟩
        · rcases List.mem_cons.mp hrun with rfl | hrun
          · exact ⟨Nat.le_refl _, Nat.le_sub_one_of_lt hfirst⟩
          · have hrun' := hlater run hrun
            exact ⟨show first ≤ run.1 by omega, (hbounds run hrun).2⟩
        · have hrun' := hlater run hrun
          dsimp only
          omega
      | false =>
        exact ih (some first) (line + 1) fun _ h => Option.some.inj h ▸ Nat.lt_succ_of_lt hfirst

lemma successive_paragraphs (e : Editor) :
    Successive ((textRunsOf e.document).map fun run => paragraphOf e run.1 run.2) := by
  obtain ⟨hbounds, hpairwise⟩ := textRuns_bounds none 0
    ((List.range e.document.lineCount).map fun l => (e.document.lineAt l).isBlank) (by simp)
  have hlines {first last : Nat} (h : first ≤ last) : (⟨first, 0⟩ : Position) ≤
      ⟨last, e.document.lineLength last⟩ := by
    rw [Position.le_def]
    dsimp only
    omega
  rw [Successive, List.map_map]
  refine List.pairwise_map.mpr (hpairwise.imp_of_mem fun {a b} ha hb hlt => ?_)
  show (e.document.fullLines a.1 a.2).stop ≤ (e.document.fullLines b.1 b.2).start
  rw [Document.fullLines, Document.fullLines, Range.stop_between (hlines (hbounds a ha).2),
    Range.start_between (hlines (hbounds b hb).2)]
  exact .inl hlt

lemma start_matchAt (d : Document) (base : Nat) {q : Occurrence × Occurrence}
    (h : q.1.Precedes q.2) :
    (PairSearch.matchAt d base q).content.start = d.positionAt (base + q.1.start) := by
  rw [(PairMatch.content_eq (PairSearch.fits_matchAt d base h).ordered).1]
  exact Range.start_between (d.positionAt_mono (Nat.add_le_add_left (Nat.le_of_lt h.1) base))

lemma stop_matchAt (d : Document) (base : Nat) {q : Occurrence × Occurrence}
    (h : q.1.Precedes q.2) :
    (PairSearch.matchAt d base q).content.stop = d.positionAt (base + q.2.stop) := by
  rw [(PairMatch.content_eq (PairSearch.fits_matchAt d base h).ordered).2]
  exact Range.stop_between (d.positionAt_mono (Nat.add_le_add_left (Nat.le_of_lt h.2.2) base))

lemma pairwise_sortedPairs (l : List (Occurrence × Occurrence)) :
    (l.mergeSort fun p q => decide (p.1.start ≤ q.1.start)).Pairwise
      fun p q => p.1.start ≤ q.1.start := by
  have hsorted : (l.mergeSort fun p q => decide (p.1.start ≤ q.1.start)).Pairwise
      fun p q => decide (p.1.start ≤ q.1.start) = true := by
    apply List.pairwise_mergeSort
    · intro p q r hpq hqr
      exact decide_eq_true (Nat.le_trans (of_decide_eq_true hpq) (of_decide_eq_true hqr))
    · intro p q
      simpa only [Bool.or_eq_true, decide_eq_true_eq] using Nat.le_total _ _
  exact hsorted.imp of_decide_eq_true

lemma ordered_pairs (search : PairSearch) (e : Editor) :
    Ordered ((search.findAll e.document).map (ofPair e)) := by
  have hprecedes := search.precedes_of_mem_pairsIn (e.document.textIn e.document.range) none
  rw [Ordered, PairSearch.findAll, List.map_map, List.map_map]
  refine List.pairwise_map.mpr ((pairwise_sortedPairs _).imp_of_mem fun {p q} hp hq hle => ?_)
  show (PairSearch.matchAt e.document 0 p).content.start ≤
    (PairSearch.matchAt e.document 0 q).content.start
  rw [start_matchAt _ _ (hprecedes p (List.mem_mergeSort.mp hp)),
    start_matchAt _ _ (hprecedes q (List.mem_mergeSort.mp hq))]
  exact e.document.positionAt_mono (Nat.add_le_add_left hle 0)

instance (t : SyntaxTree) : Std.TransCmp (Matcher.order t) :=
  inferInstanceAs (Std.TransCmp fun a b : NodeMatch =>
    (compare (t.range a.node).start (t.range b.node).start).then <|
    (compare (t.range b.node).stop (t.range a.node).stop).then <|
    (compare a.content.start b.content.start).then (compare a.content.stop b.content.stop))

lemma sorted_findAll (m : Matcher) (t : SyntaxTree) :
    (m.findAll t).Pairwise fun a b => (Matcher.order t a b).isLE = true := by
  have hsorted (l : List NodeMatch) : (l.mergeSort fun a b => (Matcher.order t a b).isLE).Pairwise
      fun a b => (Matcher.order t a b).isLE = true := pairwise_sorted l
  exact (hsorted _).sublist (eraseRepsBy_sublist _)

lemma ordered_nodes (kind : SyntacticScope) (matcher : Matcher) (t : SyntaxTree) (e : Editor) :
    Ordered ((matcher.findAll t).map (ofMatch kind t e)) := by
  rw [Ordered, List.map_map]
  refine List.pairwise_map.mpr ((sorted_findAll matcher t).imp fun h => ?_)
  exact Position.isLE_compare.mp (Ordering.isLE_left_of_isLE_then h)

lemma ordered_nested (l : List Scope) : Ordered (nested l) := by
  refine List.pairwise_map.mpr (((pairwise_sorted _).sublist (eraseRepsBy_sublist _)).imp fun h => ?_)
  exact Position.isLE_compare.mp (Ordering.isLE_left_of_isLE_then h)

lemma ordered_itemsOfBoth (e : Editor) (r : Range) (first last : Collection) :
    Ordered (itemsOfBoth e r first last) := by
  refine List.pairwise_map.mpr (((pairwise_sorted _).sublist (eraseRepsBy_sublist _)).imp fun h => ?_)
  exact Position.isLE_compare.mp (Ordering.isLE_left_of_isLE_then h)

end Scope

namespace ScopeFinder

def IsFlat : ScopeFinder → Prop
  | pairs _ _ => False
  | items => False
  | nodes _ _ _ => False
  | oneOf _ _ => False
  | _ => True

lemma successive_candidates {f : ScopeFinder} (hf : f.IsFlat) (cx : Context) (e : Editor) (r : Range) :
    Gives (f.candidates cx e r) Scope.Successive := by
  cases f with
  | tokens b =>
    rw [candidates, Scope.tokens_eq]
    exact .ok (((Scope.inLines_tokens cx b e).successive_flatMap r).sublist (Scope.touching_sublist r _))
  | characters =>
    rw [candidates]
    exact .ok (((Scope.inLines_characters e).successive_flatMap r).sublist (Scope.touching_sublist r _))
  | words =>
    rw [candidates, Scope.words_eq]
    exact .ok (((Scope.inLines_words cx e).successive_flatMap r).sublist (Scope.touching_sublist r _))
  | lines =>
    rw [candidates, Scope.lines_eq]
    exact .ok ((Scope.inLines_lines e).successive_flatMap r)
  | paragraphs =>
    rw [candidates]
    exact .ok ((Scope.successive_paragraphs e).sublist (Scope.touching_sublist r _))
  | wholeDocument =>
    rw [candidates]
    exact .ok (List.pairwise_singleton _ _)
  | regex s expression =>
    rw [candidates]
    exact .ok (((Scope.inLines_matches s expression e).successive_flatMap r).sublist
      (Scope.touching_sublist r _))
  | pairs s search => exact hf.elim
  | items => exact hf.elim
  | nodes kind language matcher => exact hf.elim
  | oneOf scopeTypes finders => exact hf.elim

lemma ordered_candidates (cx : Context) (e : Editor) (r : Range) (f : ScopeFinder) :
    Gives (f.candidates cx e r) Scope.Ordered := by
  cases f with
  | pairs s search =>
    rw [candidates]
    exact .ok ((Scope.ordered_pairs search e).sublist (Scope.touching_sublist r _))
  | items =>
    rw [candidates]
    have hany (p : Position) : Gives (Collection.around cx e.document (.point p)) fun _ => True :=
      fun _ _ => trivial
    exact (hany _).bind fun _ _ => (hany _).bind fun _ _ => .ok (Scope.ordered_itemsOfBoth e r _ _)
  | nodes kind language matcher =>
    rw [candidates]
    have hany : Gives (treeOf cx e language) fun _ => True := fun _ _ => trivial
    exact hany.map fun t _ => (Scope.ordered_nodes kind matcher t e).sublist (Scope.touching_sublist r _)
  | oneOf scopeTypes finders =>
    rw [candidates]
    have hany : Gives (candidatesOfAny cx e r finders) fun _ => True := fun _ _ => trivial
    exact hany.map fun l _ => Scope.ordered_nested l
  | _ =>
    apply Gives.mono (successive_candidates ?_ cx e r) fun _ h => h.ordered
    exact trivial

end ScopeFinder

end Referent
