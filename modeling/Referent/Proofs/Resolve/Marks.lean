import Mathlib.Tactic.Common
import Referent.Proofs.Resolve.Descriptions

namespace Referent

namespace Context

def editors (cx : Context) : List Editor :=
  cx.activeEditor.toList ++ cx.hats.map Hat.editor ++
    (cx.stored.flatMap Prod.snd).map Target.editor

structure Sound (cx : Context) : Prop where
  selections : ∀ e ∈ cx.activeEditor, ∀ s ∈ e.selections,
    e.document.Has s.anchor ∧ e.document.Has s.active
  hats : ∀ h ∈ cx.hats, h.editor.document.Holds h.range
  stored : ∀ t ∈ cx.stored.flatMap Prod.snd, t.WellFormed
  fits : ∀ e ∈ cx.editors, cx.Fits e

variable {cx : Context}

lemma active_mem_editors {e : Editor} (h : cx.activeEditor = some e) : e ∈ cx.editors := by
  simp [editors, h]

lemma hat_mem_editors {h : Hat} (hh : h ∈ cx.hats) : h.editor ∈ cx.editors := by
  simp only [editors, List.mem_append, List.mem_map]
  exact .inl (.inr ⟨h, hh, rfl⟩)

lemma stored_mem_editors {t : Target} (ht : t ∈ cx.stored.flatMap Prod.snd) :
    t.editor ∈ cx.editors := by
  simp only [editors, List.mem_append, List.mem_map]
  exact .inr ⟨t, ht, rfl⟩

lemma mem_stored {key : StoredKey} {l : List Target} (h : cx.stored? key = some l) :
    ∀ t ∈ l, t ∈ cx.stored.flatMap Prod.snd := by
  obtain ⟨entry, hentry, rfl⟩ := Option.map_eq_some_iff.mp h
  exact fun t ht => List.mem_flatMap.mpr ⟨entry, List.mem_of_find?_eq_some hentry, ht⟩

end Context

namespace Mark

variable {sound : Prop} {cx : Context} {e : Editor}

def isStored : Mark → Bool
  | that => true
  | source => true
  | _ => false

lemma documentLine_lt {d : Document} {line : Int} :
    Gives (documentLine d line) fun n => n < d.lineCount := by
  unfold documentLine
  split
  · exact .ok (by omega)
  · exact .error

lemma visibleLine_lt {row : Int} {modulo : Nat} :
    Gives (visibleLine e row modulo) fun n => n < e.document.lineCount := by
  unfold visibleLine
  split
  · exact .error
  · split
    · exact .error
    · next n hn =>
      have hmem : n ∈ (visibleLines e).filter fun l => l % modulo = row.toNat := by
        rw [hn]
        exact List.mem_singleton.mpr rfl
      exact .ok (List.mem_range.mp (List.mem_filter.mp (List.mem_filter.mp hmem).1).1)
    · exact .error

lemma lineIndex_lt (n : LineNumber) :
    Gives (lineIndex cx e n) fun line => line < e.document.lineCount := by
  unfold lineIndex
  split
  · exact documentLine_lt
  · have hany (n : Int) : Gives (signedWord n) fun _ => True := fun _ _ => trivial
    exact (hany _).bind fun _ _ => documentLine_lt
  · exact visibleLine_lt

lemma made_lineTarget (anchor active : LineNumber) :
    Gives (lineTarget cx e anchor active) fun t => t.Made sound e := by
  refine (lineIndex_lt anchor).bind fun first hfirst => ?_
  refine (lineIndex_lt active).bind fun last hlast => .ok ?_
  exact Target.made_line _ fun _ =>
    Document.holds_between (Document.has_lineStart hfirst) (Document.has_lineStart hlast)

lemma made_cursorTokenOf : Gives (cursorTokenOf cx e) fun t => t.Made sound e := by
  unfold cursorTokenOf
  split
  · exact .error
  · next s _ =>
    dsimp only
    split
    · exact .error
    · next c hc =>
      obtain ⟨t, ht, rfl⟩ := List.mem_map.mp (mem_of_lastMax? hc)
      have hline := cx.holdsLine_tokens e.document s.range t (List.mem_filter.mp ht).1
      exact .ok (Target.made_token _ fun _ => hline.holds)

lemma made_ofSelection {s : Selection}
    (h : sound → e.document.Has s.anchor ∧ e.document.Has s.active) :
    (Target.ofSelection e s).Made sound e :=
  (Target.made_untyped _ _ fun hs => Document.holds_between (h hs).1 (h hs).2).withFlags _

lemma gives_inEditor {f : Editor → Except TargetError (List Target)} {P : List Target → Prop}
    (hnil : P []) (h : ∀ e, cx.activeEditor = some e → Gives (f e) P) : Gives (inEditor cx f) P := by
  unfold inEditor
  split
  · exact .ok hnil
  · next e he => exact h e he

theorem made_targets (h : sound → cx.Sound) (m : Mark) (hm : m.isStored = false) :
    Gives (m.targets cx) fun l => ∀ t ∈ l, ∃ e ∈ cx.editors, t.Made sound e := by
  have hnil : ∀ t ∈ ([] : List Target), ∃ e ∈ cx.editors, t.Made sound e :=
    fun t ht => absurd ht List.not_mem_nil
  have hsingle {t : Target} {e : Editor} (he : e ∈ cx.editors) (ht : t.Made sound e) :
      ∀ u ∈ [t], ∃ e ∈ cx.editors, u.Made sound e := by
    intro u hu
    obtain rfl := List.mem_singleton.mp hu
    exact ⟨e, he, ht⟩
  cases m with
  | cursor =>
    refine gives_inEditor hnil fun e he => .ok fun t ht => ?_
    obtain ⟨s, hs, rfl⟩ := List.mem_map.mp ht
    exact ⟨e, Context.active_mem_editors he,
      made_ofSelection fun hsound => (h hsound).selections e he s hs⟩
  | cursorToken =>
    refine gives_inEditor hnil fun e he =>
      Gives.map (P := fun t => t.Made sound e) made_cursorTokenOf fun t ht => ?_
    exact hsingle (Context.active_mem_editors he) ht
  | decoratedSymbol style character =>
    rw [targets]
    split
    · next hat hhat =>
      have hmem := List.mem_of_find?_eq_some hhat
      exact .ok (hsingle (Context.hat_mem_editors hmem)
        (Target.made_token false fun hsound => (h hsound).hats hat hmem))
    · exact .error
  | that => cases hm
  | source => cases hm
  | lineNumber anchor active =>
    refine gives_inEditor hnil fun e he =>
      Gives.map (P := fun t => t.Made sound e) (made_lineTarget anchor active) fun t ht => ?_
    exact hsingle (Context.active_mem_editors he) ht
  | nothing => exact .ok hnil

lemma mem_storedTargets {key : StoredKey} {l : List Target}
    (h : storedTargets cx key = .ok l) : ∀ t ∈ l, t ∈ cx.stored.flatMap Prod.snd := by
  unfold storedTargets at h
  split at h
  · next hl =>
    cases h
    exact Context.mem_stored hl
  · cases h

theorem mem_stored_or_unlinked {m : Mark} {l : List Target} (h : m.targets cx = .ok l) {t : Target}
    (ht : t ∈ l) : t ∈ cx.stored.flatMap Prod.snd ∨ t.that = none := by
  cases hm : m.isStored with
  | false =>
    obtain ⟨e, _, hmade⟩ := made_targets (False.elim : False → cx.Sound) m hm l h t ht
    exact .inr hmade.that_eq
  | true =>
    cases m with
    | that => exact .inl (mem_storedTargets h t ht)
    | source => exact .inl (mem_storedTargets h t ht)
    | _ => cases hm

end Mark

namespace Linking

variable {L : Linking} {sound : Prop} {cx cx' : Context}

def StoredAlike (L : Linking) (sound : Prop) (E : Editor → Prop) (cx cx' : Context) : Prop :=
  ∀ (key : StoredKey) ⦃a a' : Arena⦄, L.arenas a a' →
    Option.Rel (L.MatchAll sound E a a') (cx.stored? key) (cx'.stored? key)

lemma agrees_stored {E : Editor → Prop} (hstored : L.StoredAlike sound E cx cx') (key : StoredKey)
    {a a' : Arena} (h : L.arenas a a') :
    L.Agrees a a' (liftM (Mark.storedTargets cx key)) (liftM (Mark.storedTargets cx' key))
      (L.MatchAll sound E) := by
  unfold Mark.storedTargets
  have hrel := hstored key h
  cases hx : cx.stored? key with
  | none =>
    rw [hx] at hrel
    cases hx' : cx'.stored? key with
    | none => exact .error rfl rfl (.refl h)
    | some l' =>
      rw [hx'] at hrel
      cases hrel
  | some l =>
    rw [hx] at hrel
    cases hx' : cx'.stored? key with
    | none =>
      rw [hx'] at hrel
      cases hrel
    | some l' =>
      rw [hx'] at hrel
      cases hrel with
      | some hl => exact .ok rfl rfl (.refl h) hl

lemma matchAll_self {a a' : Arena} {l : List Target}
    (h : ∀ t ∈ l, ∃ e ∈ cx.editors, t.Made sound e) :
    L.MatchAll sound (· ∈ cx.editors) a a' l l := by
  refine List.forall₂_same.mpr fun t ht => ?_
  obtain ⟨e, he, hmade⟩ := h t ht
  exact ⟨hmade.editor_eq ▸ he, rfl, hmade.wellFormed, L.unlinked hmade.that_eq hmade.that_eq⟩

lemma storedAlike_self (h : sound → cx.Sound)
    (hl : ∀ t ∈ cx.stored.flatMap Prod.snd, ∀ ⦃a a' : Arena⦄, L.arenas a a' →
      L.targets a a' t t) : L.StoredAlike sound (· ∈ cx.editors) cx cx := by
  intro key a a' harenas
  cases hx : cx.stored? key with
  | none => exact .none
  | some l =>
    refine .some (List.forall₂_same.mpr fun t ht => ?_)
    have hmem := Context.mem_stored hx t ht
    exact ⟨Context.stored_mem_editors hmem, rfl, fun hs => (h hs).stored t hmem, hl t hmem harenas⟩

theorem marksAlike (h : sound → cx.Sound) (hcx : cx' = { cx with stored := cx'.stored })
    (hstored : L.StoredAlike sound (· ∈ cx.editors) cx cx') :
    L.MarksAlike sound (· ∈ cx.editors) cx cx' := by
  intro m a a' harenas
  cases hm : m.isStored with
  | false =>
    have heq : m.targets cx' = m.targets cx := by
      rw [hcx]
      cases m with
      | that => cases hm
      | source => cases hm
      | _ => rfl
    have hmade := Mark.made_targets h m hm
    rw [heq]
    cases hx : m.targets cx with
    | error error => exact .error rfl rfl (.refl harenas)
    | ok l => exact .ok rfl rfl (.refl harenas) (matchAll_self (hmade l hx))
  | true =>
    cases m with
    | that => exact agrees_stored hstored .that harenas
    | source => exact agrees_stored hstored .source harenas
    | _ => cases hm

end Linking

end Referent
