import Mathlib.Tactic.Common
import Referent.Proofs.Resolve.Marks

/-! Descriptions stand for well-formed targets, provided that the host data lie in their documents and
that no two of the editors show different states of what counts as one document. Ranges compare
editors and documents by their numbers only, and keeping stored targets up to date with later edits is
left to the host. -/

namespace Referent

open Resolving

namespace TargetDescriptor

/-- Whatever a description is resolved against, the targets that it stands for are well formed. -/
theorem wellFormed_of_resolve {cx : Context} (hsound : cx.Sound)
    (hcoherent : Editor.Coherent (· ∈ cx.editors)) (options : ResolveOptions)
    (d : TargetDescriptor) (a : Arena) {l : List Target} {c : Arena}
    (h : (d.resolve cx options).outcome a = (.ok l, c)) : ∀ t ∈ l, t.WellFormed := by
  -- The resolution is compared to itself: what corresponds to anything is well formed.
  have hmarks : Linking.free.MarksAlike True (· ∈ cx.editors) cx cx :=
    Linking.marksAlike (fun _ => hsound) rfl
      (Linking.storedAlike_self (fun _ => hsound) fun _ _ _ _ _ => trivial)
  have halike : cx.Alike True (· ∈ cx.editors) cx := ⟨rfl, fun _ => hsound.fits⟩
  have hagrees := Linking.agrees_resolve halike hmarks (fun _ => hcoherent) options d
    (show Linking.free.arenas a a from trivial)
  obtain ⟨l', c', _, _, hmatch⟩ := hagrees.of_ok h
  intro t ht
  obtain ⟨t', _, htarget⟩ := hmatch.exists_of_mem ht
  exact htarget.wellFormed trivial

def storedPart (text earlier : List Char) (part : Range) : Context where
  activeEditor := some (.ofDocument 1 (.ofText 1 "plaintext" text))
  stored := [(.that, [.plain (.ofDocument 1 (.ofText 1 "plaintext" earlier)) part false])]

def cursorToStored : TargetDescriptor :=
  .range ⟨⟨.cursor, []⟩, ⟨.that, []⟩, false, false, .continuous⟩

variable {text earlier : List Char} {part : Range}

lemma sound_storedPart (h : (Document.ofText 1 "plaintext" earlier).Holds part) :
    (storedPart text earlier part).Sound where
  selections := by
    rintro e ⟨⟩ s hs
    obtain rfl := List.mem_singleton.mp hs
    have hrange := (Document.ofText 1 "plaintext" text).holds_range
    exact ⟨hrange.1, hrange.1⟩
  hats := fun hat hhat => absurd hhat List.not_mem_nil
  stored := by
    intro t ht
    obtain rfl := List.mem_singleton.mp ht
    exact (Target.made_plain false fun _ : True => h).wellFormed trivial
  fits := by
    intro e he
    refine ⟨fun r hr => ?_, fun t ht => by cases ht⟩
    rcases List.mem_cons.mp he with rfl | he
    · obtain rfl := List.mem_singleton.mp hr
      exact Document.holds_range _
    · obtain rfl := List.mem_singleton.mp he
      obtain rfl := List.mem_singleton.mp hr
      exact Document.holds_range _

lemma coherent_storedPart : Editor.Coherent (· ∈ (storedPart text text part).editors) := by
  have heq : ∀ e ∈ (storedPart text text part).editors,
      e = .ofDocument 1 (.ofText 1 "plaintext" text) := by
    intro e he
    rcases List.mem_cons.mp he with rfl | he
    · rfl
    · exact List.mem_singleton.mp he
  intro e₁ e₂ h₁ h₂ _ _
  rw [heq e₁ h₁, heq e₂ h₂]

theorem wellFormed_cursorToStored :
    ∃ t c, (cursorToStored.resolve (storedPart "abcdef".toList "abcdef".toList (.onLine 0 4 6))
        { infersToken := false }).outcome .empty = (.ok [t], c) ∧
      t.content = .onLine 0 0 6 ∧ t.WellFormed := by
  refine ⟨_, _, rfl, rfl, ?_⟩
  exact wellFormed_of_resolve (sound_storedPart (by decide)) coherent_storedPart
    { infersToken := false } cursorToStored .empty rfl _ List.mem_cons_self

theorem not_wellFormed_of_earlier_text :
    (storedPart "ab".toList "abcdef".toList (.onLine 0 4 6)).Sound ∧
      ∃ t c, (cursorToStored.resolve (storedPart "ab".toList "abcdef".toList (.onLine 0 4 6))
          { infersToken := false }).outcome .empty = (.ok [t], c) ∧ ¬t.WellFormed := by
  refine ⟨sound_storedPart (by decide), _, _, rfl, fun h => ?_⟩
  exact absurd h.content (by decide)

end TargetDescriptor

end Referent
