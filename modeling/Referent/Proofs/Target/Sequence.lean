import Referent.Proofs.Document.LineTexts
import Referent.Proofs.Syntax.Fits
import Referent.Proofs.Target.Spans

/-! What becomes of the separators of a sequence when two of its elements are joined. Items and words keep
them. Arguments are joined to an instance of their scope type, which has the white space around it instead. -/

namespace Referent

lemma Range.containsRange_union_iff {q r s : Range} : q.containsRange (r.union s) = true ↔
    q.containsRange r = true ∧ q.containsRange s = true := by
  refine ⟨fun h => ⟨Range.containsRange_trans h (Range.containsRange_union_left _ _),
    Range.containsRange_trans h (Range.containsRange_union_right _ _)⟩, fun ⟨hr, hs⟩ => ?_⟩
  rw [Range.containsRange_iff] at *
  exact ⟨Position.le_min_iff.mpr ⟨hr.1, hs.1⟩, Position.max_le_iff.mpr ⟨hr.2, hs.2⟩⟩

section Whitespace

variable {d : Document} {p : Position} {r : Range} {c : Char}

lemma whitespaceBefore_eq_some (h : whitespaceBefore d p = some r) :
    ∃ n, 0 < n ∧ r = .onLine p.line (p.character - n) p.character ∧
      n = (((d.textLine p.line).body.take p.character).reverse.takeWhile isHorizontalSpace).length := by
  obtain ⟨hpos, hr⟩ := Option.ite_none_right_eq_some.mp h
  exact ⟨_, hpos, (Option.some.inj hr).symm, rfl⟩

lemma whitespaceAfter_eq_some (h : whitespaceAfter d p = some r) :
    ∃ n, 0 < n ∧ r = .onLine p.line p.character (p.character + n) ∧
      n = (((d.textLine p.line).body.drop p.character).takeWhile isHorizontalSpace).length := by
  obtain ⟨hpos, hr⟩ := Option.ite_none_right_eq_some.mp h
  exact ⟨_, hpos, (Option.some.inj hr).symm, rfl⟩

lemma isHorizontalSpace_of_mem_before (h : whitespaceBefore d p = some r) (hp : d.Has p)
    (hc : c ∈ d.textIn r) : isHorizontalSpace c = true := by
  obtain ⟨n, -, rfl, hn⟩ := whitespaceBefore_eq_some h
  have hback := Nat.sub_le p.character n
  have hline := Document.holdsLine_onLine hp.1 (Nat.le_trans hback hp.2) hp.2
  rw [Document.textIn_of_holdsLine hline, Range.start_onLine hback, Range.stop_onLine hback] at hc
  dsimp only at hc
  set before := (d.textLine p.line).body.take p.character with hbefore
  have hlength : before.length = p.character := List.length_take_of_le hp.2
  have hlast : before.drop (p.character - n) = (before.reverse.take n).reverse := by
    rw [List.reverse_take, List.reverse_reverse, List.length_reverse, hlength]
  rw [← List.drop_take, ← hbefore, hlast, List.mem_reverse, hn, take_length_takeWhile] at hc
  exact List.all_eq_true.mp List.all_takeWhile c hc

lemma isHorizontalSpace_of_mem_after (h : whitespaceAfter d p = some r) (hp : d.Has p)
    (hc : c ∈ d.textIn r) : isHorizontalSpace c = true := by
  have hstop := (Document.holds_whitespaceAfter hp r h).2.2
  obtain ⟨n, -, rfl, hn⟩ := whitespaceAfter_eq_some h
  have hahead := Nat.le_add_right p.character n
  rw [Range.stop_onLine hahead] at hstop
  have hline := Document.holdsLine_onLine hp.1 hp.2 hstop
  rw [Document.textIn_of_holdsLine hline, Range.start_onLine hahead, Range.stop_onLine hahead] at hc
  dsimp only at hc
  rw [Nat.add_sub_cancel_left, hn, take_length_takeWhile] at hc
  exact List.all_eq_true.mp List.all_takeWhile c hc

lemma ends_whitespaceAfter (h : whitespaceAfter d p = some r) : r.start = p ∧ p < r.stop := by
  obtain ⟨n, hpos, rfl, -⟩ := whitespaceAfter_eq_some h
  rw [Range.start_onLine (Nat.le_add_right _ _), Range.stop_onLine (Nat.le_add_right _ _)]
  exact ⟨rfl, .inr ⟨rfl, Nat.lt_add_of_pos_right hpos⟩⟩

lemma stop_whitespaceBefore (h : whitespaceBefore d p = some r) : r.stop = p := by
  obtain ⟨n, -, rfl, -⟩ := whitespaceBefore_eq_some h
  exact Range.stop_onLine (Nat.sub_le _ _)

end Whitespace

namespace Target

/-- Whether a joined target has the separators that are outside of what it was joined from, and is removed with
all that those are removed with. -/
structure Keeps (s t joined : Target) : Prop where
  leading : joined.leading = s.leading
  trailing : joined.trailing = t.trailing
  removes_first : joined.removal.containsRange s.removal = true
  removes_last : joined.removal.containsRange t.removal = true

variable {s t : Target} {e : Editor} {d : Document} {r : Range} {b : Bool}

lemma keeps_joinElements (s t : Target) (r : Range) (b : Bool) : s.Keeps t (joinElements s t r b) where
  leading := rfl
  trailing := rfl
  removes_first := Range.containsRange_trans (Range.containsRange_union_left _ _)
    (Range.containsRange_union_left s.removal t.removal)
  removes_last := Range.containsRange_trans (Range.containsRange_union_left _ _)
    (Range.containsRange_union_right s.removal t.removal)

lemma Keeps.withFlags {joined : Target} (h : s.Keeps t joined) (flags : TargetFlags) :
    s.Keeps t (joined.withFlags flags) := ⟨h.1, h.2, h.3, h.4⟩

abbrev argument : TargetKind := .scope (.syntactic .argumentOrParameter)

lemma continuous_eq_joinKind (hkind : s.kind = t.kind) (hline : s.kind ≠ .line) :
    s.continuous t true true b =
      (joinKind s t (s.continuousRange t true true) b).withFlags { explicitRange := true } := by
  have hnot : ¬(s.kind = .line ∧ t.kind = .line) := fun h => hline h.1
  have hsame : ¬((!(true && true) || s.kind != t.kind) = true) := by simp [hkind]
  simp only [continuous, if_neg hnot, if_neg hsame]

lemma continuous_elements (hkind : s.kind = t.kind) (h : s.kind = .collectionItem ∨ s.kind = .subTokenWord) :
    s.continuous t true true b =
      (joinElements s t (s.continuousRange t true true) b).withFlags { explicitRange := true } := by
  have hline : s.kind ≠ .line := by rcases h with h | h <;> simp [h]
  rw [continuous_eq_joinKind hkind hline, joinKind]
  rcases h with h | h
  · simp only [h]
  · simp only [h]

lemma scope_argument (e : Editor) (r : Range) (b : Bool) :
    scope e (.syntactic .argumentOrParameter) r b =
      { (bare e argument r b).withWhitespace with delimiter := some ", " } := by
  have hinline : ((", " : String).contains '\n') = false := by simp
  simp [scope, ScopeType.delimiter, hinline]

lemma continuous_arguments (hs : s.kind = argument) (ht : t.kind = argument) (b : Bool) :
    let r := s.continuousRange t true true
    let joined := s.continuous t true true b
    joined.kind = argument ∧ joined.content = r ∧
      joined.leading = whitespaceBefore s.document r.start ∧
      joined.trailing = whitespaceAfter s.document r.stop ∧
      joined.removal = tokenRemoval s.document r joined.leading joined.trailing := by
  have hline : s.kind ≠ .line := by simp [hs]
  dsimp only
  rw [continuous_eq_joinKind (hs.trans ht.symm) hline, joinKind, hs]
  dsimp only
  rw [scope_argument]
  exact ⟨rfl, rfl, rfl, rfl, rfl⟩

/-- Whether a token in the given range is removed together with the white space after it, if there is any: it is
not the last of its line, or has nothing but white space before it. -/
def RemovesTrailing (d : Document) (r : Range) (leading trailing : Option Range) : Prop :=
  ∀ g ∈ trailing, g.stop.character < d.lineLength r.stop.line ∨ ∀ l ∈ leading, l.start.character = 0

lemma containsRange_tokenRemoval_iff {leading : Option Range} {trailing : Range}
    (hl : ∀ l ∈ leading, l.stop ≤ r.stop) (ht : r.stop < trailing.stop) :
    (tokenRemoval d r leading (some trailing)).containsRange trailing = true ↔
      RemovesTrailing d r leading (some trailing) := by
  have hgoes := Range.containsRange_union_right r trailing
  have hstays {l : Range} (hl : l.stop ≤ r.stop) : ¬(r.union l).containsRange trailing = true := by
    intro h
    have hstop := ((Range.containsRange_iff _ _).mp h).2
    exact Position.not_le.mpr ht
      (Position.le_trans hstop (Position.max_le_iff.mpr ⟨Position.le_refl _, hl⟩))
  by_cases hinner : trailing.stop.character < d.lineLength r.stop.line
  · simp [tokenRemoval, RemovesTrailing, hinner, hgoes]
  · cases leading with
    | none => simp [tokenRemoval, RemovesTrailing, hinner, hgoes]
    | some l =>
      by_cases hstart : 0 < l.start.character
      · simp [tokenRemoval, RemovesTrailing, hinner, hstart, hstays (hl l rfl), Nat.ne_of_gt hstart]
      · simp [tokenRemoval, RemovesTrailing, hinner, hgoes, Nat.eq_zero_of_not_pos hstart]

section Elements

variable {kind : TargetKind} {first last : Range} {leading₁ trailing₁ leading₂ trailing₂ : Option Range}
  {delimiter₁ delimiter₂ : String} {b₁ b₂ : Bool}

/-- Whether two ranges in a document may be elements of one list there. The first one has a separator behind it,
and that lies between the two, as the one before the last does. -/
structure Listed (d : Document) (first last : Range) (trailing leading : Option Range) : Prop where
  holds_first : d.Holds first
  holds_last : d.Holds last
  stop_le_start : first.stop ≤ last.start
  isSome : trailing.isSome = true
  trailing : ∀ g ∈ trailing, first.stop ≤ g.start ∧ g.stop ≤ last.start
  leading : ∀ g ∈ leading, first.stop ≤ g.start ∧ g.stop ≤ last.start

def span (first last : Range) (h : first.stop ≤ last.start) : Range where
  start := first.start
  stop := last.stop
  start_le_stop := Position.le_trans (Range.ordered_of_stop_le h).1 last.start_le_stop

lemma containsRange_span_last (h : first.stop ≤ last.start) : (span first last h).containsRange last = true :=
  (Range.containsRange_iff _ _).mpr ⟨(Range.ordered_of_stop_le h).1, Position.le_refl _⟩

lemma containsRange_span_gap {g : Range} (h : first.stop ≤ last.start)
    (hg : first.stop ≤ g.start ∧ g.stop ≤ last.start) : (span first last h).containsRange g = true :=
  (Range.containsRange_iff _ _).mpr
    ⟨Position.le_trans first.start_le_stop hg.1, Position.le_trans hg.2 last.start_le_stop⟩

lemma Listed.containsRange_removal (h : Listed d first last trailing₁ leading₂) (leading : Option Range) :
    (span first last h.stop_le_start).containsRange (elementRemoval first leading trailing₁) = true := by
  obtain ⟨g, rfl⟩ := Option.isSome_iff_exists.mp h.isSome
  refine Range.containsRange_union_iff.mpr ⟨?_, containsRange_span_gap _ (h.trailing g rfl)⟩
  exact (Range.containsRange_iff _ _).mpr
    ⟨Position.le_refl _, (Range.ordered_of_stop_le h.stop_le_start).2⟩

lemma Listed.containsRange_removal_last (h : Listed d first last trailing₁ leading₂) :
    (span first last h.stop_le_start).containsRange (elementRemoval last leading₂ none) = true := by
  have hcontent := containsRange_span_last h.stop_le_start
  cases leading₂ with
  | none => exact hcontent
  | some g =>
    exact Range.containsRange_union_iff.mpr ⟨hcontent, containsRange_span_gap _ (h.leading g rfl)⟩

lemma keeps_arguments_iff (h : Listed e.document first last trailing₁ leading₂) :
    let s := delimited e argument first leading₁ trailing₁ delimiter₁ b₁
    let t := delimited e argument last leading₂ trailing₂ delimiter₂ b₂
    s.Keeps t (s.continuous t true true b) ↔
      leading₁ = whitespaceBefore e.document first.start ∧
        trailing₂ = whitespaceAfter e.document last.stop ∧
        RemovesTrailing e.document last leading₁ trailing₂ := by
  intro s t
  set r := span first last h.stop_le_start
  have hrange : s.continuousRange t true true = r :=
    continuousRange_kept (s := s) (t := t) (Range.ordered_of_stop_le h.stop_le_start).1
  obtain ⟨-, -, hleading, htrailing, hremoval⟩ := continuous_arguments (s := s) (t := t) rfl rfl b
  rw [hrange] at hleading htrailing hremoval
  set joined := s.continuous t true true b
  have hholds : e.document.Holds r := ⟨h.holds_first.1, h.holds_last.2⟩
  have hbefore := Document.holds_whitespaceBefore h.holds_first.1
  have hafter := Document.holds_whitespaceAfter h.holds_last.2
  have hjoins : joined.removal.containsRange r = true := by
    rw [hremoval, hleading, htrailing]
    exact (Document.removes_tokenRemoval hholds hbefore hafter).contains
  have hkeeps : s.Keeps t joined ↔ leading₁ = whitespaceBefore e.document first.start ∧
      trailing₂ = whitespaceAfter e.document last.stop ∧ joined.removal.containsRange t.removal = true := by
    constructor
    · rintro ⟨hl, ht, -, hremoves⟩
      exact ⟨hl.symm.trans hleading, ht.symm.trans htrailing, hremoves⟩
    · rintro ⟨hl, ht, hremoves⟩
      exact ⟨hleading.trans hl.symm, htrailing.trans ht.symm,
        Range.containsRange_trans hjoins (h.containsRange_removal leading₁), hremoves⟩
  rw [hkeeps]
  refine and_congr_right fun hl => and_congr_right fun ht => ?_
  cases trailing₂ with
  | none =>
    refine iff_of_true ?_ (by simp [RemovesTrailing])
    exact Range.containsRange_trans hjoins h.containsRange_removal_last
  | some g =>
    have hcontent := Range.containsRange_trans hjoins (containsRange_span_last h.stop_le_start)
    have hinside : ∀ l ∈ leading₁, l.stop ≤ r.stop := by
      intro l hmem
      rw [hl] at hmem
      rw [stop_whitespaceBefore hmem]
      exact r.start_le_stop
    have hbehind := (ends_whitespaceAfter ht.symm).2
    have hremoval' : t.removal = last.union g := rfl
    rw [hremoval', Range.containsRange_union_iff, and_iff_right hcontent, hremoval,
      hleading.trans hl.symm, htrailing.trans ht.symm]
    exact containsRange_tokenRemoval_iff hinside hbehind

lemma eq_none_of_blank {gap : Option Range}
    (hblack : ∀ g ∈ gap, ∃ c ∈ d.textIn g, isHorizontalSpace c = false)
    (hblank : ∀ g ∈ gap, ∀ c ∈ d.textIn g, isHorizontalSpace c = true) : gap = none := by
  rw [Option.eq_none_iff_forall_ne_some]
  intro g hg
  obtain ⟨c, hc, hfalse⟩ := hblack g hg
  exact Bool.false_ne_true (hfalse.symm.trans (hblank g hg c hc))

lemma whitespace_separators_iff (hfirst : d.Has first.start) (hlast : d.Has last.stop)
    (hgaps : ∀ g, leading₁ = some g ∨ trailing₂ = some g → ∃ c ∈ d.textIn g, isHorizontalSpace c = false) :
    (leading₁ = whitespaceBefore d first.start ∧ trailing₂ = whitespaceAfter d last.stop ∧
        RemovesTrailing d last leading₁ trailing₂) ↔
      (leading₁ = none ∧ trailing₂ = none) ∧
        whitespaceBefore d first.start = none ∧ whitespaceAfter d last.stop = none := by
  constructor
  · rintro ⟨hl, ht, -⟩
    have hnone₁ : leading₁ = none := eq_none_of_blank (fun g hg => hgaps g (.inl hg)) fun g hg _ hc =>
      isHorizontalSpace_of_mem_before (hl.symm.trans hg) hfirst hc
    have hnone₂ : trailing₂ = none := eq_none_of_blank (fun g hg => hgaps g (.inr hg)) fun g hg _ hc =>
      isHorizontalSpace_of_mem_after (ht.symm.trans hg) hlast hc
    exact ⟨⟨hnone₁, hnone₂⟩, hl.symm.trans hnone₁, ht.symm.trans hnone₂⟩
  · rintro ⟨⟨hl, ht⟩, hbefore, hafter⟩
    exact ⟨hl.trans hbefore.symm, ht.trans hafter.symm, by simp [RemovesTrailing, ht]⟩

variable (delimiter₁ delimiter₂ b₁ b₂ b) in
/-- Two elements of a sequence become one of the same kind. Items and words keep the separators outside of them,
and all that goes with them. Arguments have the white space around them instead, so they keep theirs exactly if
these are that white space and go with a token there. If separators are more than white space, that is exactly
if there are none outside of the two, and no white space either. -/
theorem continuous_delimited
    (hkind : kind = .collectionItem ∨ kind = .subTokenWord ∨ kind = argument) (hle : first.stop ≤ last.start)
    (h : kind = argument → Listed e.document first last trailing₁ leading₂) :
    let s := delimited e kind first leading₁ trailing₁ delimiter₁ b₁
    let t := delimited e kind last leading₂ trailing₂ delimiter₂ b₂
    let joined := s.continuous t true true b
    joined.kind = kind ∧ joined.content = span first last hle ∧
      (kind ≠ argument → s.Keeps t joined) ∧
      (kind = argument → (s.Keeps t joined ↔
        leading₁ = whitespaceBefore e.document first.start ∧
          trailing₂ = whitespaceAfter e.document last.stop ∧
          RemovesTrailing e.document last leading₁ trailing₂)) ∧
      (kind = argument →
        (∀ g, leading₁ = some g ∨ trailing₂ = some g →
          ∃ c ∈ e.document.textIn g, isHorizontalSpace c = false) →
        (s.Keeps t joined ↔ (leading₁ = none ∧ trailing₂ = none) ∧
          whitespaceBefore e.document first.start = none ∧
            whitespaceAfter e.document last.stop = none)) := by
  intro s t joined
  have hrange : s.continuousRange t true true = span first last hle :=
    continuousRange_kept (s := s) (t := t) (Range.ordered_of_stop_le hle).1
  by_cases hargument : kind = argument
  · subst hargument
    obtain ⟨hjoined, hcontent, -⟩ := continuous_arguments (s := s) (t := t) rfl rfl b
    have hlisted := h rfl
    have hkeeps : s.Keeps t joined ↔ _ := keeps_arguments_iff hlisted
    exact ⟨hjoined, hcontent.trans hrange, fun hne => absurd rfl hne, fun _ => hkeeps,
      fun _ hgaps => hkeeps.trans
        (whitespace_separators_iff hlisted.holds_first.1 hlisted.holds_last.2 hgaps)⟩
  · have helement : kind = .collectionItem ∨ kind = .subTokenWord :=
      hkind.imp_right fun hrest => hrest.resolve_right hargument
    have hjoined : joined = (joinElements s t (span first last hle) b).withFlags
        { explicitRange := true } := by
      rw [← hrange]
      exact continuous_elements rfl helement
    rw [hjoined]
    exact ⟨rfl, rfl, fun _ => (keeps_joinElements s t _ b).withFlags _, fun h => absurd h hargument,
      fun h => absurd h hargument⟩

theorem continuous_delimited_wholeList :
    let e : Editor := .ofDocument 1 (.ofText 1 "javascript" "f(a, b, c)".toList)
    let s := delimited e argument (.onLine 0 2 3) none (some (.onLine 0 3 5)) ", " false
    let t := delimited e argument (.onLine 0 8 9) (some (.onLine 0 6 8)) none ", " false
    Listed e.document (.onLine 0 2 3) (.onLine 0 8 9) (some (.onLine 0 3 5)) (some (.onLine 0 6 8)) ∧
      (s.continuous t true true false).kind = argument ∧ s.Keeps t (s.continuous t true true false) := by
  intro e s t
  have hlisted : Listed e.document (.onLine 0 2 3) (.onLine 0 8 9) (some (.onLine 0 3 5))
      (some (.onLine 0 6 8)) :=
    ⟨by decide, by decide, by decide, rfl, by rintro g ⟨⟩; decide, by rintro g ⟨⟩; decide⟩
  obtain ⟨hkind, -, -, -, hkeeps⟩ := continuous_delimited (e := e) false ", " ", " false false
    (.inr (.inr rfl)) hlisted.stop_le_start fun _ => hlisted
  refine ⟨hlisted, hkind, (hkeeps rfl ?_).mpr ⟨⟨rfl, rfl⟩, ?_, ?_⟩⟩
  · simp
  · decide
  · decide

theorem not_keeps_arguments :
    let e : Editor := .ofDocument 1 (.ofText 1 "javascript" "f(a, b, c)".toList)
    let s := delimited e argument (.onLine 0 2 3) none (some (.onLine 0 3 5)) ", " false
    let t := delimited e argument (.onLine 0 5 6) (some (.onLine 0 3 5)) (some (.onLine 0 6 8)) ", " false
    let joined := s.continuous t true true false
    joined.kind = argument ∧ joined.trailing ≠ t.trailing ∧
      ¬joined.removal.containsRange t.removal = true := by
  intro e s t joined
  obtain ⟨hkind, -, hleading, htrailing, hremoval⟩ := continuous_arguments (s := s) (t := t) rfl rfl false
  refine ⟨hkind, ?_, ?_⟩
  · show (s.continuous t true true false).trailing ≠ _
    rw [htrailing]
    decide
  · show ¬(s.continuous t true true false).removal.containsRange _ = true
    rw [hremoval, hleading, htrailing]
    decide

end Elements

end Target

namespace Matcher

open Target

variable {d : Document} {t : SyntaxTree} {elements : List Nat} {i j a b : Nat}

lemma listed_separatorsAt (ht : t.Fits d)
    (hordered : elements.Pairwise fun a b => (t.range a).stop ≤ (t.range b).start)
    (hi : elements[i]? = some a) (hj : elements[j]? = some b) (hij : i < j) :
    Listed d (t.range a) (t.range b) (separatorsAt t elements i a).2
      (separatorsAt t elements j b).1 := by
  obtain ⟨hilt, rfl⟩ := List.getElem?_eq_some_iff.mp hi
  obtain ⟨hjlt, rfl⟩ := List.getElem?_eq_some_iff.mp hj
  have hle {k l : Nat} (hk : k < elements.length) (hl : l < elements.length) (hkl : k < l) :
      (t.range elements[k]).stop ≤ (t.range elements[l]).start :=
    List.pairwise_iff_getElem.mp hordered k l hk hl hkl
  have hnext : i + 1 < elements.length := Nat.lt_of_le_of_lt hij hjlt
  have hprevious : j - 1 < elements.length := Nat.lt_of_le_of_lt (Nat.sub_le _ _) hjlt
  have hpos : j ≠ 0 := Nat.ne_of_gt (Nat.zero_lt_of_lt hij)
  have htrailing : (separatorsAt t elements i elements[i]).2 =
      some (.between (t.range elements[i]).stop (t.range elements[i + 1]).start) := by
    simp [separatorsAt, List.getElem?_eq_getElem hnext]
  have hleading : (separatorsAt t elements j elements[j]).1 =
      some (.between (t.range elements[j - 1]).stop (t.range elements[j]).start) := by
    simp [separatorsAt, hpos, List.getElem?_eq_getElem hprevious]
  rw [htrailing, hleading]
  refine ⟨ht.range _, ht.range _, hle hilt hjlt hij, rfl, ?_, ?_⟩
  · rintro g ⟨⟩
    have hgap := hle hilt hnext (Nat.lt_succ_self i)
    rw [Range.start_between hgap, Range.stop_between hgap]
    refine ⟨Position.le_refl _, ?_⟩
    rcases Nat.lt_or_eq_of_le (Nat.succ_le_of_lt hij) with hlt | rfl
    · exact (Range.ordered_of_stop_le (hle hnext hjlt hlt)).1
    · exact Position.le_refl _
  · rintro g ⟨⟩
    have hgap := hle hprevious hjlt (Nat.sub_one_lt hpos)
    rw [Range.start_between hgap, Range.stop_between hgap]
    refine ⟨?_, Position.le_refl _⟩
    rcases Nat.lt_or_eq_of_le (Nat.le_sub_one_of_lt hij) with hlt | rfl
    · exact (Range.ordered_of_stop_le (hle hilt hprevious hlt)).2
    · exact Position.le_refl _

lemma findElement_eq_some {parents : List String} {m : NodeMatch} (h : findElement parents t a = some m) :
    ∃ parent i, t.parent a = some parent ∧ m.content = t.range a ∧
      ((t.namedChildren parent).filter fun c => !brackets.contains (t.kind c))[i]? = some a ∧
      m.separators = some (separatorsAt t
        ((t.namedChildren parent).filter fun c => !brackets.contains (t.kind c)) i a) := by
  unfold findElement at h
  obtain ⟨parent, hparent, h⟩ := Option.bind_eq_some_iff.mp h
  split at h
  · obtain ⟨i, hi, h⟩ := Option.bind_eq_some_iff.mp h
    cases h
    obtain ⟨hilt, hget, -⟩ := List.idxOf?_eq_some_iff.mp hi
    exact ⟨parent, i, hparent, rfl, List.getElem?_eq_some_iff.mpr ⟨hilt, hget⟩, rfl⟩
  · cases h

theorem listed_of_findElement {parents : List String} {m n : NodeMatch} (ht : t.Fits d)
    (hm : findElement parents t a = some m) (hn : findElement parents t b = some n)
    (hparent : t.parent a = t.parent b) (hlt : m.content.start < n.content.start) :
    ∃ leading₁ trailing₁ leading₂ trailing₂, m.separators = some (leading₁, trailing₁) ∧
      n.separators = some (leading₂, trailing₂) ∧ Listed d m.content n.content trailing₁ leading₂ := by
  obtain ⟨parent, i, hp, hcontent, hi, hsep⟩ := findElement_eq_some hm
  obtain ⟨parent', j, hp', hcontent', hj, hsep'⟩ := findElement_eq_some hn
  obtain rfl : parent = parent' := by
    rw [hparent, hp'] at hp
    exact (Option.some.inj hp).symm
  rw [hcontent, hcontent'] at hlt ⊢
  have hordered := ((ht.pairwise parent).filter t.isNamed).filter fun c => !brackets.contains (t.kind c)
  have hij : i < j := by
    obtain ⟨hilt, rfl⟩ := List.getElem?_eq_some_iff.mp hi
    obtain ⟨hjlt, rfl⟩ := List.getElem?_eq_some_iff.mp hj
    by_contra hnot
    rcases Nat.lt_or_eq_of_le (Nat.not_lt.mp hnot) with hji | rfl
    · have hle := List.pairwise_iff_getElem.mp hordered j i hjlt hilt hji
      exact Position.not_le.mpr hlt (Range.ordered_of_stop_le hle).1
    · exact Position.not_le.mpr hlt (Position.le_refl _)
  exact ⟨_, _, _, _, hsep, hsep', listed_separatorsAt ht hordered hi hj hij⟩

end Matcher

end Referent
