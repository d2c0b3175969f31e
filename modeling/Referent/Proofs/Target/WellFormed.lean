import Mathlib.Tactic.Common
import Referent.Proofs.Document.Places
import Referent.Target.Merge

namespace Referent

namespace Target

/-- What an action may rely on: all ranges lie in the document, the removal range contains the
content, and the two ends of a pair enclose its interior and nothing else. -/
structure WellFormed (t : Target) : Prop where
  content : t.document.Holds t.content
  removal : t.document.Holds t.removal
  leading : ∀ r ∈ t.leading, t.document.Holds r
  trailing : ∀ r ∈ t.trailing, t.document.Holds r
  interior : ∀ r ∈ t.interior, t.document.Holds r
  boundary : ∀ b ∈ t.boundary, t.document.Holds b.1 ∧ t.document.Holds b.2
  removes : t.removal.containsRange t.content = true
  encloses : ∀ b ∈ t.boundary, b.1.stop ≤ b.2.start ∧ b.1.start = t.content.start ∧
    b.2.stop = t.content.stop ∧ ∃ r ∈ t.interior, r.start = b.1.stop ∧ r.stop = b.2.start

/-- Whether a target is made in an editor, and is well formed if what it was made of is sound. -/
structure Made (sound : Prop) (e : Editor) (t : Target) : Prop where
  editor_eq : t.editor = e
  that_eq : t.that = none
  wellFormed : sound → t.WellFormed

end Target

structure Document.Removes (d : Document) (content r : Range) : Prop where
  holds : d.Holds r
  contains : r.containsRange content = true

lemma forall_mem_ite_some {α : Type} {c : Prop} [Decidable c] {a : α} {P : α → Prop}
    (h : c → P a) : ∀ b ∈ (if c then some a else none), P b := by
  intro b hb
  obtain ⟨hc, rfl⟩ := Option.ite_none_right_eq_some.mp hb |>.imp_right Option.some.inj
  exact h hc

namespace Document

variable {d : Document} {content : Range}

lemma removes_self (h : d.Holds content) : d.Removes content content :=
  ⟨h, Range.containsRange_refl content⟩

lemma removes_union (h : d.Holds content) {r : Range} (hr : d.Holds r) :
    d.Removes content (content.union r) :=
  ⟨holds_union h hr, Range.containsRange_union_left _ _⟩

lemma Removes.trans {lines r : Range} (h : d.Removes lines r)
    (hl : lines.containsRange content = true) : d.Removes content r := by
  have h₁ := (Range.containsRange_iff _ _).mp h.contains
  have h₂ := (Range.containsRange_iff _ _).mp hl
  exact ⟨h.holds, (Range.containsRange_iff _ _).mpr
    ⟨Position.le_trans h₁.1 h₂.1, Position.le_trans h₂.2 h₁.2⟩⟩

lemma has_previousLineEnd {line : Nat} (h : line < d.lineCount) : d.Has (d.previousLineEnd line) :=
  has_lineStop (by omega)

lemma holds_whitespaceBefore {p : Position} (h : d.Has p) :
    ∀ r ∈ whitespaceBefore d p, d.Holds r :=
  forall_mem_ite_some fun _ => holds_between (has_of_le h (Nat.sub_le _ _)) h

lemma holds_whitespaceAfter {p : Position} (h : d.Has p) :
    ∀ r ∈ whitespaceAfter d p, d.Holds r := by
  refine forall_mem_ite_some fun _ => holds_between h ⟨h.1, ?_⟩
  have hlength : (d.lineAt p.line).text.length = d.lineLength p.line := rfl
  have hcount := (List.takeWhile_sublist isHorizontalSpace
    (l := (d.lineAt p.line).text.drop p.character)).length_le
  have hcharacter := h.2
  rw [List.length_drop, hlength] at hcount
  dsimp only
  omega

lemma removes_tokenRemoval (h : d.Holds content) {leading trailing : Option Range}
    (hl : ∀ r ∈ leading, d.Holds r) (ht : ∀ r ∈ trailing, d.Holds r) :
    d.Removes content (tokenRemoval d content leading trailing) := by
  unfold tokenRemoval
  split
  · next trailing =>
    have htrailing := removes_union h (ht trailing rfl)
    split
    · exact htrailing
    · split
      · exact htrailing
      · next l =>
        split
        · exact removes_union h (hl l rfl)
        · exact htrailing
  · next l =>
    split
    · exact removes_union h (hl l rfl)
    · exact removes_self h
  · exact removes_self h

lemma removes_elementRemoval (h : d.Holds content) {leading trailing : Option Range}
    (hl : ∀ r ∈ leading, d.Holds r) (ht : ∀ r ∈ trailing, d.Holds r) :
    d.Removes content (elementRemoval content leading trailing) := by
  unfold elementRemoval
  split
  · exact removes_union h (ht _ rfl)
  · exact removes_union h (hl _ rfl)
  · exact removes_self h

lemma removes_lineRemoval (h : d.Holds content) : d.Removes content (lineRemoval d content) := by
  unfold lineRemoval
  split
  · exact removes_union h (holds_point (has_lineStart ‹_›))
  · split
    · exact removes_union h (holds_point (has_previousLineEnd h.1.1))
    · exact removes_self h

end Document

namespace Target

open Document

variable {sound : Prop} {e : Editor} {content : Range}

@[simp] lemma document_bare (e : Editor) (kind : TargetKind) (content : Range) (b : Bool) :
    (bare e kind content b).document = e.document := rfl

lemma wellFormed_bare (kind : TargetKind) (b : Bool) (h : e.document.Holds content) :
    (bare e kind content b).WellFormed where
  content := h
  removal := h
  leading := by simp [bare]
  trailing := by simp [bare]
  interior := by simp [bare]
  boundary := by simp [bare]
  removes := Range.containsRange_refl content
  encloses := by simp [bare]

lemma WellFormed.withDelimiters {t : Target} (h : t.WellFormed) {removal : Range}
    {leading trailing : Option Range} (hl : ∀ r ∈ leading, t.document.Holds r)
    (ht : ∀ r ∈ trailing, t.document.Holds r) (hr : t.document.Removes t.content removal) :
    WellFormed { t with leading := leading, trailing := trailing, removal := removal } where
  content := h.content
  removal := hr.holds
  leading := hl
  trailing := ht
  interior := h.interior
  boundary := h.boundary
  removes := hr.contains
  encloses := h.encloses

lemma WellFormed.withWhitespace {t : Target} (h : t.WellFormed) : t.withWhitespace.WellFormed :=
  have hl := holds_whitespaceBefore h.content.1
  have ht := holds_whitespaceAfter h.content.2
  h.withDelimiters hl ht (removes_tokenRemoval h.content hl ht)

lemma WellFormed.congr {s t : Target} (h : s.WellFormed) (hd : t.document = s.document)
    (hc : t.content = s.content) (hr : t.removal = s.removal) (hl : t.leading = s.leading)
    (ht : t.trailing = s.trailing) (hi : t.interior = s.interior)
    (hb : t.boundary = s.boundary) : t.WellFormed where
  content := by rw [hd, hc]; exact h.content
  removal := by rw [hd, hr]; exact h.removal
  leading := by rw [hd, hl]; exact h.leading
  trailing := by rw [hd, ht]; exact h.trailing
  interior := by rw [hd, hi]; exact h.interior
  boundary := by rw [hd, hb]; exact h.boundary
  removes := by rw [hr, hc]; exact h.removes
  encloses := by rw [hb, hc, hi]; exact h.encloses

lemma WellFormed.withFlags {t : Target} (h : t.WellFormed) (flags : TargetFlags) :
    (t.withFlags flags).WellFormed := h.congr rfl rfl rfl rfl rfl rfl rfl

lemma WellFormed.withReversed {t : Target} (h : t.WellFormed) (b : Bool) :
    (t.withReversed b).WellFormed := h.congr rfl rfl rfl rfl rfl rfl rfl

lemma WellFormed.withThat {t : Target} (h : t.WellFormed) (id : Nat) :
    (t.withThat id).WellFormed := h.congr rfl rfl rfl rfl rfl rfl rfl

lemma Made.withReversed {t : Target} (h : t.Made sound e) (b : Bool) :
    (t.withReversed b).Made sound e := ⟨h.1, h.2, fun hs => (h.3 hs).withReversed b⟩

lemma Made.withFlags {t : Target} (h : t.Made sound e) (flags : TargetFlags) :
    (t.withFlags flags).Made sound e := ⟨h.1, h.2, fun hs => (h.3 hs).withFlags flags⟩

lemma made_untyped (b explicit : Bool) (h : sound → e.document.Holds content) :
    (untyped e content b explicit).Made sound e :=
  ⟨rfl, rfl, fun hs => (wellFormed_bare .untyped b (h hs)).withWhitespace.congr
    rfl rfl rfl rfl rfl rfl rfl⟩

lemma made_plain (b : Bool) (h : sound → e.document.Holds content) :
    (plain e content b).Made sound e :=
  ⟨rfl, rfl, fun hs => (wellFormed_bare .plain b (h hs)).withFlags _⟩

lemma made_raw (b : Bool) (h : sound → e.document.Holds content) :
    (raw e content b).Made sound e :=
  ⟨rfl, rfl, fun hs => (wellFormed_bare .raw b (h hs)).withFlags _⟩

lemma made_token (b : Bool) (h : sound → e.document.Holds content) :
    (token e content b).Made sound e :=
  ⟨rfl, rfl, fun hs => (wellFormed_bare .token b (h hs)).withWhitespace.congr
    rfl rfl rfl rfl rfl rfl rfl⟩

lemma wellFormed_line {r : Range} (b : Bool) (h : e.document.Holds r) :
    (line e r b).WellFormed := by
  have hlines := holds_fullLines h.1.1 h.2.1
  have hl : ∀ s ∈ (line e r b).leading, e.document.Holds s :=
    forall_mem_ite_some fun _ => holds_between (has_previousLineEnd hlines.1.1) hlines.1
  have ht : ∀ s ∈ (line e r b).trailing, e.document.Holds s :=
    forall_mem_ite_some fun hnext => holds_between hlines.2 (has_lineStart hnext)
  exact (wellFormed_bare .line b hlines).withDelimiters hl ht (removes_lineRemoval hlines) |>.congr
    rfl rfl rfl rfl rfl rfl rfl

lemma made_line {r : Range} (b : Bool) (h : sound → e.document.Holds r) :
    (line e r b).Made sound e := ⟨rfl, rfl, fun hs => wellFormed_line b (h hs)⟩

lemma has_textBefore {d : Document} {line : Nat} (h : line < d.lineCount) :
    ∀ p ∈ textBefore d line, d.Has p := by
  intro p hp
  obtain ⟨l, hl, rfl⟩ := Option.map_eq_some_iff.mp hp
  have hmem := List.mem_range.mp (List.mem_reverse.mp (List.mem_of_find?_eq_some hl))
  exact has_lineStop (by omega)

lemma has_textAfter {d : Document} {line : Nat} : ∀ p ∈ textAfter d line, d.Has p := by
  intro p hp
  obtain ⟨l, hl, rfl⟩ := Option.map_eq_some_iff.mp hp
  have hmem := List.mem_range'_1.mp (List.mem_of_find?_eq_some hl)
  exact has_lineStart (by omega)

lemma wellFormed_paragraph (b : Bool) (h : e.document.Holds content) :
    (paragraph e content b).WellFormed := by
  have hl : ∀ r ∈ (paragraph e content b).leading, e.document.Holds r := by
    intro r hr
    obtain ⟨p, hp, rfl⟩ := Option.map_eq_some_iff.mp (Option.filter_eq_some_iff.mp hr).1
    exact holds_between (has_textBefore h.1.1 p hp) h.1
  have ht : ∀ r ∈ (paragraph e content b).trailing, e.document.Holds r := by
    intro r hr
    obtain ⟨p, hp, rfl⟩ := Option.map_eq_some_iff.mp (Option.filter_eq_some_iff.mp hr).1
    exact holds_between h.2 (has_textAfter p hp)
  have hr : e.document.Removes content (paragraph e content b).removal := by
    unfold paragraph
    dsimp only
    split
    · exact removes_lineRemoval h
    · exact removes_elementRemoval h hl ht
  exact (wellFormed_bare .paragraph b h).withDelimiters hl ht hr |>.congr
    rfl rfl rfl rfl rfl rfl rfl

lemma made_paragraph (b : Bool) (h : sound → e.document.Holds content) :
    (paragraph e content b).Made sound e := ⟨rfl, rfl, fun hs => wellFormed_paragraph b (h hs)⟩

lemma made_wholeDocument : (wholeDocument e).Made sound e :=
  ⟨rfl, rfl, fun _ => (wellFormed_bare .document false (holds_range _)).congr
    rfl rfl rfl rfl rfl rfl rfl⟩

lemma wellFormed_scopeLines (s : ScopeType) (b : Bool) (h : e.document.Holds content) :
    (scopeLines e s content b).WellFormed := by
  have hlines := holds_fullLines h.1.1 h.2.1
  have hremoves := (removes_lineRemoval hlines).trans (fullLines_containsRange h.2)
  have hl : ∀ r ∈ (scopeLines e s content b).leading, e.document.Holds r :=
    forall_mem_ite_some fun _ => holds_between (has_previousLineEnd h.1.1) h.1
  have ht : ∀ r ∈ (scopeLines e s content b).trailing, e.document.Holds r := by
    refine forall_mem_ite_some fun hnext => holds_between h.2 ?_
    have hindent := has_indent e.document (content.stop.line + 1)
    rwa [number_lineAt hnext] at hindent
  exact (wellFormed_bare (.scope s) b h).withDelimiters hl ht hremoves |>.congr
    rfl rfl rfl rfl rfl rfl rfl

lemma content_scope (e : Editor) (s : ScopeType) (r : Range) (b : Bool) :
    (Target.scope e s r b).content = r := by
  rw [Target.scope]
  split
  · rfl
  · rfl

lemma made_scope (s : ScopeType) (b : Bool) (h : sound → e.document.Holds content) :
    (scope e s content b).Made sound e := by
  unfold scope
  split
  · exact ⟨rfl, rfl, fun hs => wellFormed_scopeLines s b (h hs)⟩
  · exact ⟨rfl, rfl, fun hs => (wellFormed_bare (.scope s) b (h hs)).withWhitespace.congr
      rfl rfl rfl rfl rfl rfl rfl⟩

lemma made_interiorOf (b : Bool) (h : sound → e.document.Holds content) :
    (interiorOf e content b).Made sound e :=
  ⟨rfl, rfl, fun hs => (wellFormed_bare .interior b (h hs)).congr rfl rfl rfl rfl rfl rfl rfl⟩

lemma made_delimited (kind : TargetKind) {leading trailing : Option Range} (delimiter : String)
    (b : Bool) (h : sound → e.document.Holds content)
    (hl : sound → ∀ r ∈ leading, e.document.Holds r)
    (ht : sound → ∀ r ∈ trailing, e.document.Holds r) :
    (delimited e kind content leading trailing delimiter b).Made sound e :=
  ⟨rfl, rfl, fun hs => (wellFormed_bare kind b (h hs)).withDelimiters (hl hs) (ht hs)
    (removes_elementRemoval (h hs) (hl hs) (ht hs)) |>.congr rfl rfl rfl rfl rfl rfl rfl⟩

lemma Made.withRemoval {t : Target} {r : Range} (h : t.Made sound e)
    (hr : sound → e.document.Removes t.content r) : (t.withRemoval r).Made sound e := by
  refine ⟨h.1, h.2, fun hs => ?_⟩
  have hw := h.3 hs
  have hremoves : t.document.Removes t.content r := by
    rw [document, h.1]
    exact hr hs
  exact hw.withDelimiters hw.leading hw.trailing hremoves

lemma made_insertionPoint {t : Target} (side : InsertionSide) (h : sound → t.WellFormed) :
    (t.insertionPoint side).Made sound t.editor := by
  refine ⟨rfl, rfl, fun hs => ?_⟩
  have hpoint {p : Position} (hp : t.document.Has p) :=
    wellFormed_bare (e := t.editor) (.insertionPoint side) false (holds_point hp)
  cases side with
  | before => exact (hpoint (h hs).content.1).congr rfl rfl rfl rfl rfl rfl rfl
  | after => exact (hpoint (h hs).content.2).congr rfl rfl rfl rfl rfl rfl rfl

end Target

end Referent
