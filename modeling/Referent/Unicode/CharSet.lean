namespace Referent.Unicode

/-- The inclusive ranges are in increasing order and neither overlap nor touch. -/
structure CharSet where
  ranges : Array (Nat × Nat)
deriving Repr, DecidableEq, Inhabited

namespace CharSet

def searchFrom (ranges : Array (Nat × Nat)) (code : Nat) : Nat → Nat → Nat → Bool
  | 0, _, _ => false
  | fuel + 1, low, high =>
    if low < high then
      let middle := (low + high) / 2
      match ranges[middle]? with
      | none => false
      | some (first, last) =>
        if code < first then searchFrom ranges code fuel low middle
        else if last < code then searchFrom ranges code fuel (middle + 1) high
        else true
    else false

def containsCode (s : CharSet) (code : Nat) : Bool :=
  searchFrom s.ranges code (s.ranges.size + 1) 0 s.ranges.size

def contains (s : CharSet) (c : Char) : Bool := s.containsCode c.toNat

def empty : CharSet := ⟨#[]⟩

def maxCode : Nat := 0x10FFFF

def any : CharSet := ⟨#[(0, maxCode)]⟩

def isEmpty (s : CharSet) : Bool := s.ranges.isEmpty

def ofRanges (ranges : List (Nat × Nat)) : CharSet :=
  let sorted := (ranges.filter fun r => r.1 ≤ r.2).mergeSort fun a b => a.1 ≤ b.1
  let grown := sorted.foldl
    (fun (acc : List (Nat × Nat)) r =>
      match acc with
      | [] => [r]
      | q :: more => if r.1 ≤ q.2 + 1 then (q.1, max q.2 r.2) :: more else r :: acc) []
  ⟨grown.reverse.toArray⟩

def singleton (code : Nat) : CharSet := ⟨#[(code, code)]⟩

def range (first last : Nat) : CharSet := ofRanges [(first, last)]

def union (s t : CharSet) : CharSet := ofRanges (s.ranges.toList ++ t.ranges.toList)

def unions (sets : List CharSet) : CharSet := ofRanges (sets.flatMap fun s => s.ranges.toList)

def gaps : Nat → List (Nat × Nat) → List (Nat × Nat)
  | start, [] => if start ≤ maxCode then [(start, maxCode)] else []
  | start, (first, last) :: rest =>
    if start < first then (start, first - 1) :: gaps (last + 1) rest else gaps (last + 1) rest

def compl (s : CharSet) : CharSet := ⟨(gaps 0 s.ranges.toList).toArray⟩

def inter (s t : CharSet) : CharSet := (s.compl.union t.compl).compl

def diff (s t : CharSet) : CharSet := s.inter t.compl

def symmDiff (s t : CharSet) : CharSet := (s.diff t).union (t.diff s)

def count (s : CharSet) : Nat := s.ranges.foldl (fun n r => n + (r.2 - r.1 + 1)) 0

end CharSet

end Referent.Unicode
