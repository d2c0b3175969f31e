import Referent.Resolve.Containing

/-! The other places where the text of a target stands.

They are looked for in the targets that are stored for that, or else in the whole document. A line,
token or word stands only for those places that are a whole line, token or word. -/

namespace Referent

/-- The indices at which a text starts within another, one after the end of the other. The first
`skip` characters are passed over. -/
def startsOf (text : List Char) (skip index : Nat) : List Char → List Nat
  | [] => []
  | c :: rest =>
    match skip with
    | skip' + 1 => startsOf text skip' (index + 1) rest
    | 0 =>
      if text.isPrefixOf (c :: rest) then index :: startsOf text (text.length - 1) (index + 1) rest
      else startsOf text 0 (index + 1) rest

def takeExactly? {α : Type} (offset count : Nat) (l : List α) : Option (List α) :=
  let taken := (l.drop offset).take count
  if taken.length < count then none else some taken

inductive OccurrenceQuery where
  | every
  | ordinal (start : Int) (length : Nat)
  | relative (offset length : Nat) (direction : Direction)

namespace Target

def occurrenceScope (t : Target) : Option ScopeType :=
  if t.flags.line then some .line
  else
    match t.kind with
    | .token => some .token
    | .subTokenWord => some .word
    | _ => none

def acceptOccurrence (cx : Context) (t occurrence : Target) : Option Target :=
  match t.occurrenceScope with
  | none => some occurrence
  | some s =>
    match occurrence.containingScope cx s with
    | .ok [found] =>
      if found.content = occurrence.content then some (found.withReversed t.isReversed) else none
    | _ => none

def occurrencesIn (cx : Context) (t : Target) (r : Range) : List Target :=
  let d := t.document
  let base := d.offsetAt r.start
  (startsOf t.text 0 base (d.textIn r)).filterMap fun start =>
    t.acceptOccurrence cx
      (.plain t.editor (.between (d.positionAt start) (d.positionAt (start + t.text.length)))
        t.isReversed)

def occurrencesToward (cx : Context) (t : Target) (direction : Direction) (r : Range) :
    List Target :=
  match direction with
  | .forward => t.occurrencesIn cx r
  | .backward => (t.occurrencesIn cx r).reverse

def searchRanges (cx : Context) (t : Target) : List Range :=
  match cx.stored? .occurrenceReference with
  | some references => references.map Target.content
  | none => [t.document.range]

def ordinalOccurrences (cx : Context) (t : Target) (start : Int) (length : Nat) (r : Range) :
    Option (List Target) :=
  let behind := -(start + length)
  if 0 ≤ start then takeExactly? start.toNat length (t.occurrencesToward cx .forward r)
  else if 0 ≤ behind ∧ behind ≤ Int64.maxValue.toInt then
    (takeExactly? behind.toNat length (t.occurrencesToward cx .backward r)).map List.reverse
  else none

/-- What lies before or behind a range. With the offset 0 the range itself counts. -/
def rangeToward (d : Document) (origin : Range) (direction : Direction) (offset : Nat) : Range :=
  match direction, offset with
  | .forward, 0 => .between origin.start d.range.stop
  | .forward, _ => .between origin.stop d.range.stop
  | .backward, 0 => .between d.range.start origin.stop
  | .backward, _ => .between d.range.start origin.start

def relativeOccurrences (cx : Context) (t : Target) (offset length : Nat) (direction : Direction)
    (origin : Range) : Option (List Target) :=
  takeExactly? (offset - 1) length
    (t.occurrencesToward cx direction (rangeToward t.document origin direction offset))

def queriedOccurrences (cx : Context) (t : Target) : OccurrenceQuery → Option (List (List Target))
  | .every => some ((t.searchRanges cx).map (t.occurrencesToward cx .forward))
  | .ordinal start length => (t.searchRanges cx).mapM (t.ordinalOccurrences cx start length)
  | .relative offset length direction =>
    (((cx.stored? .occurrenceReference).getD [t]).map Target.content).mapM
      (t.relativeOccurrences cx offset length direction)

def occurrences (cx : Context) (query : OccurrenceQuery) (t : Target) :
    Except TargetError (List Target) :=
  if t.text.isEmpty then .error (.noContainingScope ScopeType.occurrence.display)
  else
    match t.queriedOccurrences cx query with
    | some found => .ok found.flatten
    | none => .error (.outOfRange ScopeType.occurrence.display)

end Target

end Referent
