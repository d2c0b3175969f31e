import Referent.Position

namespace Referent

structure Range where
  start : Position
  stop : Position
  start_le_stop : start ≤ stop
deriving DecidableEq

namespace Range

theorem ext_iff' {a b : Range} : a = b ↔ a.start = b.start ∧ a.stop = b.stop := by
  cases a
  cases b
  simp

def between (a b : Position) : Range :=
  if h : a ≤ b then ⟨a, b, h⟩ else ⟨b, a, Position.le_of_not_le h⟩

def point (p : Position) : Range := ⟨p, p, Position.le_refl p⟩

instance : Inhabited Range := ⟨point .zero⟩

def onLine (line first last : Nat) : Range := between ⟨line, first⟩ ⟨line, last⟩

def isEmpty (r : Range) : Bool := r.start == r.stop

def isSingleLine (r : Range) : Bool := r.start.line == r.stop.line

def contains (r : Range) (p : Position) : Bool := r.start ≤ p && p ≤ r.stop

def strictlyContains (r : Range) (p : Position) : Bool := r.start < p && p < r.stop

def containsRange (r s : Range) : Bool := r.start ≤ s.start && s.stop ≤ r.stop

def strictlyContainsRange (r s : Range) : Bool := r.containsRange s && r != s

def intersection (r s : Range) : Option Range :=
  if h : max r.start s.start ≤ min r.stop s.stop then some ⟨_, _, h⟩ else none

def touches (r s : Range) : Bool := (r.intersection s).isSome

def overlaps (r s : Range) : Bool := (r.intersection s).any fun i => !i.isEmpty

def union (r s : Range) : Range where
  start := min r.start s.start
  stop := max r.stop s.stop
  start_le_stop := Position.le_trans (Position.min_le_left r.start s.start)
    (Position.le_trans r.start_le_stop (Position.le_max_left r.stop s.stop))

/-- Orders ranges so that each comes before those that contain it: nested ranges from the inner to
the outer one, others by their start. -/
def compareSize (r s : Range) : Ordering :=
  if r = s then .eq
  else if s.containsRange r then .lt
  else if r.containsRange s then .gt
  else compare r.start s.start

instance : ToString Range := ⟨fun r => s!"{r.start}-{r.stop}"⟩

end Range

end Referent
