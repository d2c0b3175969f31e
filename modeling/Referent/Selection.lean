import Referent.Range

namespace Referent

structure Selection where
  anchor : Position
  active : Position
deriving Repr, DecidableEq, Inhabited

namespace Selection

def point (p : Position) : Selection := ⟨p, p⟩

def ofRange (r : Range) (isReversed : Bool) : Selection :=
  if isReversed then ⟨r.stop, r.start⟩ else ⟨r.start, r.stop⟩

def range (s : Selection) : Range := .between s.anchor s.active

def isReversed (s : Selection) : Bool := s.active < s.anchor

def isEmpty (s : Selection) : Bool := s.anchor == s.active

theorem range_ofRange (r : Range) (b : Bool) : (ofRange r b).range = r := by
  have h := r.start_le_stop
  cases b with
  | false => simp [ofRange, range, Range.between, h]
  | true =>
    simp only [ofRange, range, Range.between, if_true]
    split
    · have := Position.le_antisymm ‹_› h
      simp [Range.ext_iff', this]
    · rfl

end Selection

end Referent
