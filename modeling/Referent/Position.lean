/-! Positions in a document: a line and a character of that line, both counted from zero. -/

namespace Referent

structure Position where
  line : Nat
  character : Nat
deriving Repr, DecidableEq, Inhabited

namespace Position

instance : LT Position :=
  ⟨fun a b => a.line < b.line ∨ (a.line = b.line ∧ a.character < b.character)⟩

instance : LE Position :=
  ⟨fun a b => a.line < b.line ∨ (a.line = b.line ∧ a.character ≤ b.character)⟩

instance (a b : Position) : Decidable (a < b) :=
  inferInstanceAs (Decidable (a.line < b.line ∨ (a.line = b.line ∧ a.character < b.character)))

instance (a b : Position) : Decidable (a ≤ b) :=
  inferInstanceAs (Decidable (a.line < b.line ∨ (a.line = b.line ∧ a.character ≤ b.character)))

theorem lt_def {a b : Position} :
    a < b ↔ a.line < b.line ∨ (a.line = b.line ∧ a.character < b.character) := Iff.rfl

theorem le_def {a b : Position} :
    a ≤ b ↔ a.line < b.line ∨ (a.line = b.line ∧ a.character ≤ b.character) := Iff.rfl

theorem ext_iff' {a b : Position} : a = b ↔ a.line = b.line ∧ a.character = b.character := by
  cases a
  cases b
  simp

theorem le_refl (a : Position) : a ≤ a := by
  rw [le_def]
  omega

theorem le_trans {a b c : Position} (hab : a ≤ b) (hbc : b ≤ c) : a ≤ c := by
  rw [le_def] at *
  omega

theorem le_total (a b : Position) : a ≤ b ∨ b ≤ a := by
  rw [le_def, le_def]
  omega

theorem le_antisymm {a b : Position} (hab : a ≤ b) (hba : b ≤ a) : a = b := by
  rw [le_def] at *
  rw [ext_iff']
  omega

theorem not_le {a b : Position} : ¬a ≤ b ↔ b < a := by
  rw [le_def, lt_def]
  omega

theorem le_of_lt {a b : Position} (h : a < b) : a ≤ b := by
  rw [lt_def] at h
  rw [le_def]
  omega

theorem le_of_not_le {a b : Position} (h : ¬a ≤ b) : b ≤ a := le_of_lt (not_le.mp h)

instance : Min Position := ⟨fun a b => if a ≤ b then a else b⟩

instance : Max Position := ⟨fun a b => if a ≤ b then b else a⟩

theorem min_le_left (a b : Position) : min a b ≤ a := by
  show (if a ≤ b then a else b) ≤ a
  split
  · exact le_refl a
  · exact le_of_not_le ‹_›

theorem min_le_right (a b : Position) : min a b ≤ b := by
  show (if a ≤ b then a else b) ≤ b
  split
  · assumption
  · exact le_refl b

theorem le_max_left (a b : Position) : a ≤ max a b := by
  show a ≤ (if a ≤ b then b else a)
  split
  · assumption
  · exact le_refl a

theorem le_max_right (a b : Position) : b ≤ max a b := by
  show b ≤ (if a ≤ b then b else a)
  split
  · exact le_refl b
  · exact le_of_not_le ‹_›

def zero : Position := ⟨0, 0⟩

def withCharacter (p : Position) (character : Nat) : Position := ⟨p.line, character⟩

protected def compare (a b : Position) : Ordering :=
  (compare a.line b.line).then (compare a.character b.character)

instance : Ord Position := ⟨Position.compare⟩

instance : ToString Position := ⟨fun p => s!"{p.line}:{p.character}"⟩

end Position

end Referent
