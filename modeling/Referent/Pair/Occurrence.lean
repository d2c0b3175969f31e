import Referent.Pair.Delimiter

/-! The places where delimiters stand in a text, and which of them belong together.

A delimiter after a backslash does not count. Where opening and closing look the same, a delimiter
closes a pair exactly if one like it is open. -/

namespace Referent

inductive Side where
  | left | right
deriving Repr, DecidableEq

structure Occurrence where
  start : Nat
  stop : Nat
  delimiter : Delimiter
  side : Side
deriving Repr, DecidableEq

namespace Occurrence

def delimiterAt? (delimiters : List Delimiter) (text : List Char) : Option (Delimiter × Side) :=
  delimiters.findSome? fun d =>
    if d.opening.isPrefixOf text then some (d, .left)
    else if d.closing.isPrefixOf text then some (d, .right)
    else none

def textOf (d : Delimiter) : Side → List Char
  | .left => d.opening
  | .right => d.closing

/-- Scans a text whose first character has the given index and comes after `prev`. The quotes that
are open at that place are those in `opened`. -/
def scan (delimiters opened : List Delimiter) (index : Nat) (prev : Option Char)
    (text : List Char) : List Occurrence :=
  match text with
  | [] => []
  | c :: rest =>
    if c = '\n' then scan delimiters (opened.filter (!·.isSingleLine)) (index + 1) (some c) rest
    else if prev = some '\\' then scan delimiters opened (index + 1) (some c) rest
    else
      match delimiterAt? delimiters (c :: rest) with
      | none => scan delimiters opened (index + 1) (some c) rest
      | some (d, side) =>
        let width := max 1 (textOf d side).length
        let last := ((c :: rest).take width).getLast?
        if d.isSymmetric then
          if opened.contains d then
            ⟨index, index + width, d, .right⟩
              :: scan delimiters (opened.filter (· ≠ d)) (index + width) last
                ((c :: rest).drop width)
          else
            ⟨index, index + width, d, .left⟩
              :: scan delimiters (d :: opened) (index + width) last ((c :: rest).drop width)
        else
          ⟨index, index + width, d, side⟩
            :: scan delimiters opened (index + width) last ((c :: rest).drop width)
termination_by text.length
decreasing_by
  all_goals
    simp only [List.length_drop, List.length_cons]
    omega

def ofText (delimiters : List Delimiter) (text : List Char) : List Occurrence :=
  scan delimiters [] 0 none text

def matchFrom (opened : List Occurrence) : List Occurrence → List (Occurrence × Occurrence)
  | [] => []
  | o :: rest =>
    match o.side with
    | .left => matchFrom (o :: opened) rest
    | .right =>
      match opened.find? fun p => p.delimiter = o.delimiter with
      | some p => (p, o) :: matchFrom (opened.eraseP fun p => p.delimiter = o.delimiter) rest
      | none => matchFrom opened rest

def matched (l : List Occurrence) : List (Occurrence × Occurrence) := matchFrom [] l

abbrev Span := Nat × Nat

/-- The last occurrence that starts no later than the selection does, and the first one after it that
reaches the end of the selection. -/
def pairFromLeft (l : List Occurrence) (selection : Span) : Option (Occurrence × Occurrence) :=
  match l.reverse.dropWhile fun o => selection.1 < o.start with
  | [] => none
  | opening :: before =>
    ((l.drop (before.length + 1)).find? fun o => selection.2 ≤ o.stop).map fun closing =>
      (opening, closing)

/-- The first occurrence that reaches the end of the selection, and the last one before it that
starts no later than the selection does. -/
def pairFromRight (l : List Occurrence) (selection : Span) : Option (Occurrence × Occurrence) :=
  match l.dropWhile fun o => o.stop < selection.2 with
  | [] => none
  | closing :: after =>
    ((l.take (l.length - (after.length + 1))).reverse.find? fun o => o.start ≤ selection.1).map
      fun opening => (opening, closing)

def forced (direction : PairDirection) (l : List Occurrence) (selection : Span) :
    Option (Occurrence × Occurrence) :=
  match direction with
  | .left => pairFromLeft l selection
  | .right => pairFromRight l selection

def matchedToward (direction : PairDirection) (selection : Span) (l : List Occurrence)
    (d : Delimiter) : List (Occurrence × Occurrence) :=
  let same := l.filter fun o => o.delimiter = d
  if d.isSymmetric then (forced direction same selection).toList else matched same

end Occurrence

end Referent
