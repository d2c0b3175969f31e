import Referent.Item.Lexer
import Referent.Pair.Basic

/-! The items of a collection: what stands between the commas inside a pair of brackets, or on a
line. -/

namespace Referent

structure Collection where
  range : Range
  boundary : Option (Range × Range)
deriving DecidableEq

structure Item where
  content : Range
  /-- From what ends the item before to what starts the one after. -/
  domain : Range
  leading : Option Range
  trailing : Option Range
deriving DecidableEq

namespace Item

abbrev Placed := ItemKind × Range

/-- The gap before an item: back to the item before it, or else with the separator. -/
def leadingGap (content : Range) : (before : List Placed) → Option Range
  | _ :: (.item, r) :: _ => some (.between r.stop content.start)
  | (.separator, r) :: _ => some (.between r.start content.start)
  | _ => none

def trailingGap (content : Range) : (after : List Placed) → Option Range
  | _ :: (.item, r) :: _ => some (.between content.stop r.start)
  | (.separator, r) :: _ => some (.between content.stop r.stop)
  | _ => none

def domainStart (content : Range) : (before : List Placed) → Position
  | (.separator, r) :: _ => r.stop
  | (.boundary, r) :: _ => r.stop
  | _ => content.start

def domainStop (content : Range) : (after : List Placed) → Position
  | (.separator, r) :: _ => r.start
  | (.boundary, r) :: _ => r.start
  | _ => content.stop

def between (before : List Placed) (content : Range) (after : List Placed) : Item where
  content := content
  domain := .between (domainStart content before) (domainStop content after)
  leading := leadingGap content before
  trailing := trailingGap content after

def ofPlaced (before : List Placed) : List Placed → List Item
  | [] => []
  | (.item, r) :: after => between before r after :: ofPlaced ((.item, r) :: before) after
  | t :: after => ofPlaced (t :: before) after

/-- What to put between an item with the given gaps and a further one: the longer gap, if there is
one. -/
def delimiter (d : Document) (leading trailing : Option Range) : String :=
  let gaps := (leading.toList ++ trailing.toList).map fun r => String.ofList (d.textIn r)
  (lastMax? (fun a b => a.utf8ByteSize ≤ b.utf8ByteSize) gaps).getD ", "

end Item

namespace Collection

def placed (c : Collection) (d : Document) : List Item.Placed :=
  let base := d.offsetAt c.range.start
  let place (t : ItemToken) : Item.Placed :=
    (t.kind, .between (d.positionAt (base + t.start)) (d.positionAt (base + t.stop)))
  let inside := (ItemToken.ofText (d.textIn c.range)).map place
  match c.boundary with
  | none => inside
  | some (opening, closing) => (.boundary, opening) :: inside ++ [(.boundary, closing)]

def items (c : Collection) (d : Document) : List Item := Item.ofPlaced [] (c.placed d)

def isBlankAt (l : Line) (index : Nat) : Bool :=
  match l.text[index]? with
  | none => true
  | some c => isHorizontalSpace c || c == '\n' || c == '\r'

/-- Whether a selection inside or at the edge of a pair means what is in the pair. -/
def meansInside (d : Document) (r : Range) (p : PairMatch) : Bool :=
  if r.isEmpty then
    let line := d.lineAt r.start.line
    let column := r.start.character
    if r.start = p.opening.start ∨ r.start = p.closing.stop then false
    else if r.start = p.opening.stop ∧ isBlankAt line column then false
    else if r.start = p.closing.start ∧ (column = 0 ∨ isBlankAt line (column - 1)) then false
    else true
  else r ≠ p.content ∧ r ≠ p.opening ∧ r ≠ p.closing

def isInString (cx : Context) (d : Document) (p : PairMatch) : Except TargetError Bool :=
  ((PairSearch.ofName .string d.language).strong.find cx d p.content).map fun string =>
    string.any fun s => p.opening.start ≤ s.opening.start

def isUsable (cx : Context) (d : Document) (r : Range) (p : PairMatch) : Except TargetError Bool :=
  if meansInside d r p then (isInString cx d p).map (!·) else .ok false

def boundaries (d : Document) : PairSearch :=
  (PairSearch.ofName .collectionBoundary d.language).strong

/-- The pair to go on with after one that is not usable: one around the place before it. -/
def outer? (cx : Context) (d : Document) (p : PairMatch) : Except TargetError (Option PairMatch) :=
  match d.offsetAt p.opening.start with
  | 0 => .ok none
  | offset + 1 => (boundaries d).find cx d (.point (d.positionAt offset))

/-- The first usable pair from `p` outwards. The fuel bounds the number of pairs that are passed
over. -/
def pairFrom (cx : Context) (d : Document) (r : Range) :
    Nat → PairMatch → Except TargetError (Option PairMatch)
  | 0, _ => .ok none
  | fuel + 1, p => do
    if ← isUsable cx d r p then .ok (some p)
    else
      match ← outer? cx d p with
      | none => .ok none
      | some outer => pairFrom cx d r fuel outer

def pair? (cx : Context) (d : Document) (r : Range) : Except TargetError (Option PairMatch) := do
  match ← (boundaries d).find cx d r with
  | none => .ok none
  | some p => pairFrom cx d r (d.length + 2) p

def ofLines (d : Document) (r : Range) : Collection :=
  let first := d.lineAt r.start.line
  ⟨.between ⟨first.number, first.indent⟩ (d.lineAt r.stop.line).trimmedRange.stop, none⟩

def ofPair (p : PairMatch) : Collection := ⟨p.interior, some (p.opening, p.closing)⟩

/-- The collection around a range: what is in the innermost pair of brackets that is usable, or else
the lines of the range. -/
def around (cx : Context) (d : Document) (r : Range) : Except TargetError Collection :=
  (pair? cx d r).map fun found => (found.map ofPair).getD (ofLines d r)

end Collection

end Referent
