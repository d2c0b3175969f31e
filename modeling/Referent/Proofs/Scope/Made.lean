import Mathlib.Tactic.Common
import Referent.Proofs.Except
import Referent.Proofs.Item.Fits
import Referent.Proofs.Target.Merge
import Referent.Proofs.Text.Order

namespace Referent

structure Context.Fits (cx : Context) (e : Editor) : Prop where
  visible : ∀ r ∈ e.visible, e.document.Holds r
  tree : ∀ t, cx.tree? e.document = some t → t.Fits e.document

section

variable {sound : Prop} {cx : Context} {e : Editor}

structure Document.HoldsLine (d : Document) (r : Range) : Prop where
  holds : d.Holds r
  single : r.isSingleLine = true

namespace Document

variable {d : Document}

lemma holdsLine_onLine {line a b : Nat} (h : line < d.lineCount) (ha : a ≤ d.lineLength line)
    (hb : b ≤ d.lineLength line) : d.HoldsLine (.onLine line a b) := by
  refine ⟨holds_onLine h ha hb, ?_⟩
  rcases Range.between_cases ⟨line, a⟩ ⟨line, b⟩ with ⟨h₁, h₂⟩ | ⟨h₁, h₂⟩
  · simp [Range.isSingleLine, Range.onLine, h₁, h₂]
  · simp [Range.isSingleLine, Range.onLine, h₁, h₂]

lemma holds_piece {r : Range} (h : d.HoldsLine r) {a b : Nat} (ha : a ≤ (d.textIn r).length)
    (hb : b ≤ (d.textIn r).length) : d.Holds (Scope.piece r a b) := by
  have hlength := length_textIn_le h.holds h.single
  have hline : r.start.line = r.stop.line := by simpa [Range.isSingleLine] using h.single
  have hle := Position.le_def.mp r.start_le_stop
  have hstop := h.holds.2.2
  rw [← hline] at hstop
  exact holds_onLine h.holds.1.1 (by omega) (by omega)

end Document

lemma Context.along_tokensOfText (cx : Context) (language : String) (line : List Char) :
    Token.Along line (cx.tokensOfText language line) := by
  unfold tokensOfText
  split
  · next host _ => exact host.along line language
  · exact Token.along_ofText _ line

lemma Context.holdsLine_tokens (cx : Context) (d : Document) (r : Range) :
    ∀ t ∈ cx.tokens d r, d.HoldsLine t := by
  intro t ht
  obtain ⟨line, hline, ht⟩ := List.mem_flatMap.mp ht
  obtain ⟨token, htoken, rfl⟩ := List.mem_map.mp ht
  have htokens := cx.along_tokensOfText d.language (d.lineAt line).text
  have hstop := (htokens.within token htoken).1
  have hstart := Nat.le_trans (Nat.le_of_lt (htokens.nonempty token htoken)) hstop
  exact Document.holdsLine_onLine (Document.mem_linesOf hline) hstart hstop

lemma forall_getD {α : Type} {P : α → Prop} {l : List α} {d : α} (h : ∀ a ∈ l, P a) (hd : P d)
    (i : Nat) : P (l.getD i d) := by
  rw [List.getD_eq_getElem?_getD]
  cases hi : l[i]? with
  | none => exact hd
  | some a => exact h a (List.mem_of_getElem? hi)

namespace Scope

lemma made_touching {r : Range} {l : List Scope} (h : ∀ s ∈ l, s.target.Made sound e) :
    ∀ s ∈ touching r l, s.target.Made sound e :=
  fun s hs => h s (List.mem_filter.mp hs).1

lemma made_tokens (identifiersOnly : Bool) (r : Range) :
    ∀ s ∈ tokens cx identifiersOnly e r, s.target.Made sound e := by
  refine made_touching fun s hs => ?_
  obtain ⟨t, ht, rfl⟩ := List.mem_map.mp hs
  have hline := cx.holdsLine_tokens e.document r t (List.mem_filter.mp ht).1
  exact Target.made_token false fun _ => hline.holds

lemma made_characters (r : Range) : ∀ s ∈ characters e r, s.target.Made sound e := by
  refine made_touching fun s hs => ?_
  obtain ⟨line, hline, hs⟩ := List.mem_flatMap.mp hs
  obtain ⟨span, hspan, rfl⟩ := List.mem_map.mp hs
  have hb := Unicode.clusterSpans_le_length _ span hspan
  exact Target.made_plain false
    fun _ => Document.holds_onLine (Document.mem_linesOf hline) hb.1 hb.2

lemma made_wordTarget {token : Range} (words : List (Nat × Nat)) (first last : Nat) (b : Bool)
    (hw : ∀ w ∈ words, w.1 ≤ (e.document.textIn token).length ∧
      w.2 ≤ (e.document.textIn token).length)
    (h : sound → e.document.HoldsLine token) :
    (wordTarget e token words first last b).Made sound e := by
  have hget := forall_getD (d := (0, 0)) hw ⟨Nat.zero_le _, Nat.zero_le _⟩
  refine Target.made_delimited _ _ b
    (fun hs => Document.holds_piece (h hs) (hget first).1 (hget last).2) ?_ ?_
  · intro hs r hr
    obtain ⟨w, hprevious, rfl⟩ := Option.map_eq_some_iff.mp (Option.filter_eq_some_iff.mp hr).1
    obtain ⟨_, hprevious⟩ := Option.ite_none_left_eq_some.mp hprevious
    exact Document.holds_piece (h hs) (hw w (List.mem_of_getElem? hprevious)).2 (hget first).1
  · intro hs r hr
    obtain ⟨w, hnext, rfl⟩ := Option.map_eq_some_iff.mp (Option.filter_eq_some_iff.mp hr).1
    exact Document.holds_piece (h hs) (hget last).2 (hw w (List.mem_of_getElem? hnext)).1

lemma made_words (r : Range) : ∀ s ∈ words cx e r, s.target.Made sound e := by
  refine made_touching fun s hs => ?_
  obtain ⟨token, htoken, hs⟩ := List.mem_flatMap.mp hs
  obtain ⟨i, _, rfl⟩ := List.mem_map.mp hs
  have hline := cx.holdsLine_tokens e.document r token (List.mem_filter.mp htoken).1
  exact made_wordTarget _ i i false (wordSpans_le_length _) fun _ => hline

lemma made_lines (r : Range) : ∀ s ∈ lines e r, s.target.Made sound e := by
  intro s hs
  obtain ⟨l, hl, rfl⟩ := List.mem_map.mp hs
  have hlength := Document.lineLength_number e.document l
  exact Target.made_line false fun _ =>
    Document.holds_onLine (e.document.number_lineAt_lt l) (Nat.zero_le _) (Nat.le_of_eq hlength.symm)

lemma made_paragraphs (r : Range) : ∀ s ∈ paragraphs e r, s.target.Made sound e := by
  refine made_touching fun s hs => ?_
  obtain ⟨run, _, rfl⟩ := List.mem_map.mp hs
  have hfirst := e.document.holds_trimmedRange run.1
  have hlast := e.document.holds_trimmedRange run.2
  exact Target.made_paragraph false fun _ => Document.holds_between hfirst.1 hlast.2

lemma made_wholeDocument : ∀ s ∈ wholeDocument e, s.target.Made sound e := by
  intro s hs
  obtain rfl := List.mem_singleton.mp hs
  exact Target.made_wholeDocument

lemma made_regexMatches (scopeType : ScopeType) (regex : Regex) (r : Range) :
    ∀ s ∈ regexMatches scopeType regex e r, s.target.Made sound e := by
  refine made_touching fun s hs => ?_
  obtain ⟨line, hline, hs⟩ := List.mem_flatMap.mp hs
  obtain ⟨span, hspan, rfl⟩ := List.mem_map.mp hs
  have hb := regex.spans_le_length _ span hspan
  exact Target.made_scope scopeType false
    fun _ => Document.holds_onLine (Document.mem_linesOf hline) hb.1 hb.2

lemma made_pairs (search : PairSearch) (r : Range) :
    ∀ s ∈ pairs search e r, s.target.Made sound e := by
  refine made_touching fun s hs => ?_
  obtain ⟨p, hp, rfl⟩ := List.mem_map.mp hs
  exact PairMatch.made_target false fun _ => search.fits_of_mem_findAll _ p hp

end Scope

namespace Scope

lemma made_itemTarget {i : Item} (b : Bool) (h : sound → i.Fits e.document) :
    (itemTarget e i b).Made sound e :=
  Target.made_delimited _ _ b (fun hs => (h hs).content) (fun hs => (h hs).leading)
    fun hs => (h hs).trailing

lemma fits_around (h : sound → cx.Fits e) (r : Range) :
    Gives (Collection.around cx e.document r) fun c => sound → c.Fits e.document :=
  fun c hc hsound => Collection.fits_around (h hsound).tree r c hc

lemma made_itemsOf {c : Collection} (hc : sound → c.Fits e.document) :
    ∀ s ∈ itemsOf e c, s.target.Made sound e := by
  intro s hs
  obtain ⟨i, hi, rfl⟩ := List.mem_map.mp hs
  exact made_itemTarget false fun hsound => Collection.fits_items (hc hsound) i hi

lemma made_itemsOfBoth {first last : Collection} (hfirst : sound → first.Fits e.document)
    (hlast : sound → last.Fits e.document) (r : Range) :
    ∀ s ∈ itemsOfBoth e r first last, s.target.Made sound e := by
  intro s hs
  have hmem := List.mem_mergeSort.mp (mem_of_mem_eraseRepsBy hs)
  refine made_touching (fun s hs => ?_) s hmem
  rcases List.mem_append.mp hs with hs | hs
  · exact made_itemsOf hfirst s hs
  · split at hs
    · exact absurd hs List.not_mem_nil
    · exact made_itemsOf hlast s hs

lemma made_items (h : sound → cx.Fits e) (r : Range) :
    Gives (items cx e r) fun l => ∀ s ∈ l, s.target.Made sound e :=
  (fits_around h _).bind fun _ hfirst => (fits_around h _).bind fun _ hlast =>
    .ok (made_itemsOfBoth hfirst hlast r)

end Scope

lemma Scope.made_nodes (kind : SyntacticScope) (matcher : Matcher) {t : SyntaxTree}
    (ht : sound → t.Fits e.document) (r : Range) :
    ∀ s ∈ nodes kind matcher t e r, s.target.Made sound e := by
  refine made_touching fun s hs => ?_
  obtain ⟨m, hm, rfl⟩ := List.mem_map.mp hs
  have hfits : sound → m.Fits e.document :=
    fun hsound => Matcher.fits_of_mem_findAll (ht hsound) m hm
  unfold ofMatch
  dsimp only
  split
  · exact Target.made_scope _ false fun hsound => (hfits hsound).content
  · next leading trailing hseparators =>
    exact Target.made_delimited _ _ false (fun hsound => (hfits hsound).content)
      (fun hsound => ((hfits hsound).separators _ hseparators).1)
      fun hsound => ((hfits hsound).separators _ hseparators).2

end

end Referent
