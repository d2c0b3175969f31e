import Mathlib.Tactic.Common
import Referent.Proofs.Pair.Fits
import Referent.Proofs.Target.WellFormed

namespace Referent

namespace Target

open Document

variable {sound : Prop} {e : Editor} {s t : Target}

lemma has_rangeStart (h : s.WellFormed) (isIncluded : Bool) :
    s.document.Has (s.rangeStart isIncluded) := by
  unfold rangeStart
  split
  · exact h.content.1
  · split
    · next hnext => exact has_lineStart (by simp at hnext; exact hnext.2)
    · exact h.content.2

lemma has_rangeStop (h : t.WellFormed) (isIncluded : Bool) :
    t.document.Has (t.rangeStop t.document isIncluded) := by
  unfold rangeStop
  split
  · exact h.content.2
  · split
    · exact has_previousLineEnd h.content.1.1
    · exact h.content.1

lemma holds_continuousRange (hd : t.document = s.document) (hs : s.WellFormed) (ht : t.WellFormed)
    (includeStart includeStop : Bool) :
    s.document.Holds (s.continuousRange t includeStart includeStop) := by
  have hstop := has_rangeStop ht includeStop
  rw [hd] at hstop
  exact holds_between (has_rangeStart hs includeStart) hstop

lemma made_joinElements {range : Range} (b : Bool) (hd : sound → t.document = s.document)
    (hs : sound → s.WellFormed) (ht : sound → t.WellFormed)
    (hr : sound → s.document.Holds range) :
    (joinElements s t range b).Made sound s.editor := by
  have htrailing : sound → ∀ r ∈ t.trailing, s.document.Holds r :=
    fun h => hd h ▸ (ht h).trailing
  refine (made_delimited _ _ b hr (fun h => (hs h).leading) htrailing).withRemoval fun h => ?_
  have hremoval : s.document.Holds t.removal := hd h ▸ (ht h).removal
  exact ⟨holds_union (holds_union (hs h).removal hremoval) (hr h),
    Range.containsRange_union_right _ _⟩

lemma made_joinKind {range : Range} (b : Bool) (hd : sound → t.document = s.document)
    (hs : sound → s.WellFormed) (ht : sound → t.WellFormed)
    (hr : sound → s.document.Holds range) : (joinKind s t range b).Made sound s.editor := by
  unfold joinKind
  dsimp only
  split
  · exact made_untyped b true hr
  · exact made_plain b hr
  · exact made_raw b hr
  · exact made_token b hr
  · exact made_untyped b true hr
  · exact made_paragraph b fun h => holds_fullLines (hr h).1.1 (hr h).2.1
  · exact made_wholeDocument.withReversed b
  · exact made_scope _ b hr
  · exact made_untyped b true hr
  all_goals exact made_joinElements b hd hs ht hr

lemma made_continuous (includeStart includeStop b : Bool) (hd : sound → t.document = s.document)
    (hs : sound → s.WellFormed) (ht : sound → t.WellFormed) :
    (s.continuous t includeStart includeStop b).Made sound s.editor := by
  have hr : sound → s.document.Holds (s.continuousRange t includeStart includeStop) :=
    fun h => holds_continuousRange (hd h) (hs h) (ht h) includeStart includeStop
  unfold continuous
  dsimp only
  split
  · exact made_line b hr
  · split
    · exact made_untyped b true hr
    · exact (made_joinKind b hd hs ht hr).withFlags _

lemma Made.continuous (hs : s.Made sound e) (ht : t.Made sound e)
    (includeStart includeStop b : Bool) :
    (s.continuous t includeStart includeStop b).Made sound e := by
  obtain rfl := hs.editor_eq
  exact made_continuous _ _ b (fun _ => congrArg Editor.document ht.editor_eq) hs.wellFormed
    ht.wellFormed

lemma made_rangeBetween (excludeAnchor excludeActive : Bool) (he : t.editor = s.editor)
    (hs : sound → s.WellFormed) (ht : sound → t.WellFormed) :
    (s.rangeBetween t excludeAnchor excludeActive).Made sound s.editor := by
  have hd : t.document = s.document := congrArg Editor.document he
  unfold rangeBetween
  split
  · rw [← he]
    exact made_continuous _ _ true (fun _ => hd.symm) ht hs
  · exact made_continuous _ _ false (fun _ => hd) hs ht

lemma that_continuous (includeStart includeStop b : Bool) :
    (s.continuous t includeStart includeStop b).that = none :=
  (made_continuous includeStart includeStop b (fun h : False => h.elim) False.elim
    False.elim).that_eq

lemma that_rangeBetween (excludeAnchor excludeActive : Bool) :
    (s.rangeBetween t excludeAnchor excludeActive).that = none := by
  unfold rangeBetween
  split
  · exact that_continuous ..
  · exact that_continuous ..

lemma editor_rangeBetween (excludeAnchor excludeActive : Bool) :
    (s.rangeBetween t excludeAnchor excludeActive).editor = s.editor ∨
      (s.rangeBetween t excludeAnchor excludeActive).editor = t.editor := by
  have hmade (s t : Target) (includeStart includeStop b : Bool) :
      (s.continuous t includeStart includeStop b).Made False s.editor :=
    made_continuous includeStart includeStop b False.elim False.elim False.elim
  unfold rangeBetween
  split
  · exact .inr (hmade t s _ _ _).editor_eq
  · exact .inl (hmade s t _ _ _).editor_eq

lemma wellFormed_rangeBetween (excludeAnchor excludeActive : Bool)
    (hd : t.document = s.document) (hs : s.WellFormed) (ht : t.WellFormed) :
    (s.rangeBetween t excludeAnchor excludeActive).WellFormed := by
  unfold rangeBetween
  split
  · exact (made_continuous _ _ true (fun _ : True => hd.symm) (fun _ => ht)
      (fun _ => hs)).wellFormed trivial
  · exact (made_continuous _ _ false (fun _ : True => hd) (fun _ => hs)
      (fun _ => ht)).wellFormed trivial

end Target

lemma PairMatch.made_target {sound : Prop} {e : Editor} {p : PairMatch} (b : Bool)
    (h : sound → p.Fits e.document) : (p.target e b).Made sound e := by
  refine ⟨rfl, rfl, fun hs => ?_⟩
  have hp := h hs
  have hbare := (Target.wellFormed_bare (e := e) .surroundingPair b hp.content).withWhitespace
  obtain ⟨hstart, hstop⟩ := PairMatch.content_eq hp.ordered
  obtain ⟨hopen, hclose⟩ := PairMatch.interior_eq hp.ordered
  exact {
    content := hbare.content
    removal := hbare.removal
    leading := hbare.leading
    trailing := hbare.trailing
    interior := by rintro r ⟨⟩; exact hp.interior
    boundary := by rintro r ⟨⟩; exact ⟨hp.opening, hp.closing⟩
    removes := hbare.removes
    encloses := by
      rintro r ⟨⟩
      exact ⟨hp.ordered, hstart.symm, hstop.symm, p.interior, rfl, hopen, hclose⟩ }

end Referent
