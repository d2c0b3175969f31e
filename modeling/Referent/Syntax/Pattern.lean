import Referent.Syntax.Tree
import Referent.Unicode.Property

/-! Patterns that describe a node by its kind and the kinds of the nodes around it.

A pattern is a chain of parts from the outer to the inner node, divided by dots. A part is a kind, `*`
for any kind, or `~` before a kind for any other one. Marks may follow: `?` if the part is optional, `!`
if its node is what the pattern stands for, and roles or numbers of children in square brackets,
which lead on from the node. Only named nodes match. -/

namespace Referent

inductive KindPattern where
  | any
  | exactly (kind : String)
  | other (kind : String)
deriving Repr, DecidableEq

inductive ChildSelector where
  | index (n : Nat)
  | field (name : String)
deriving Repr, DecidableEq

structure PatternPart where
  kind : KindPattern
  selectors : List ChildSelector
  isImportant : Bool
  isOptional : Bool
deriving Repr, DecidableEq

namespace PatternPart

def isKindChar (c : Char) : Bool := Unicode.isAlphanumeric c || c == '_' || c == '*' || c == '~'

def index? (text : List Char) : Option Nat :=
  let digits := if text.head? = some '+' then text.drop 1 else text
  if digits.isEmpty ∨ ¬digits.all Char.isDigit then none
  else
    let n := digits.foldl (fun n c => n * 10 + (c.toNat - '0'.toNat)) 0
    if n < UInt64.size then some n else none

def selectorOf (text : List Char) : ChildSelector :=
  match index? text with
  | some n => .index n
  | none => .field (String.ofList text)

/-- What the brackets in a text hold. A bracket that opens inside another starts anew. -/
def selectorsFrom (opened : Option (List Char)) : List Char → List ChildSelector
  | [] => []
  | '[' :: rest => selectorsFrom (some []) rest
  | c :: rest =>
    match opened with
    | none => selectorsFrom none rest
    | some text =>
      if c = ']' then selectorOf text.reverse :: selectorsFrom none rest
      else selectorsFrom (some (c :: text)) rest

def ofText (text : List Char) : PatternPart where
  kind :=
    match text.takeWhile isKindChar with
    | ['*'] => .any
    | '~' :: kind => .other (String.ofList kind)
    | kind => .exactly (String.ofList kind)
  selectors := selectorsFrom none (text.dropWhile isKindChar)
  isImportant := text.contains '!'
  isOptional := text.contains '?'

def accepts (p : PatternPart) (t : SyntaxTree) (id : Nat) : Bool :=
  t.isNamed id &&
    match p.kind with
    | .any => true
    | .exactly kind => t.kind id == kind
    | .other kind => t.kind id != kind

def select (p : PatternPart) (t : SyntaxTree) (id : Nat) : Option Nat :=
  p.selectors.foldlM (fun id s =>
    match s with
    | .index n => t.namedChild id n
    | .field name => t.childByField id name) id

end PatternPart

structure PatternMatch where
  node : Nat
  target : Nat
deriving Repr, DecidableEq

structure Pattern where
  parts : List PatternPart
deriving Repr, DecidableEq

namespace Pattern

def splitDots (part : List Char) : List Char → List (List Char)
  | [] => [part.reverse]
  | c :: rest => if c = '.' then part.reverse :: splitDots [] rest else splitDots (c :: part) rest

def ofText (text : String) : Pattern := ⟨(splitDots [] text.toList).map PatternPart.ofText⟩

/-- Matches parts, the innermost one first, against a node and those around it. Of the nodes that
match, the last one is kept, or the first important one. -/
def ascend (t : SyntaxTree) (found : Option (Nat × PatternPart)) (current : Option Nat) :
    List PatternPart → Option (Nat × PatternPart)
  | [] => found
  | p :: rest =>
    match current.filter (p.accepts t) with
    | some id =>
      let found' := if found.any fun f => f.2.isImportant then found else some (id, p)
      ascend t found' (t.parent id) rest
    | none => if p.isOptional then ascend t found current rest else none

def onlyChild (t : SyntaxTree) (id : Nat) (p : PatternPart) : Option Nat :=
  match (t.namedChildren id).filter (p.accepts t) with
  | [child] => some child
  | _ => none

/-- Matches parts, the outermost one first, against a node and those below it. Of the nodes that
match, the first one is kept, or the last important one. -/
def descend (t : SyntaxTree) (found : Option (Nat × PatternPart)) (current : Option Nat) :
    List PatternPart → Option (Nat × PatternPart)
  | [] => found
  | p :: rest =>
    match current.filter (p.accepts t) with
    | some id =>
      let found' := if found.isNone || p.isImportant then some (id, p) else found
      let current' :=
        match rest with
        | [] => current
        | next :: _ => onlyChild t id next
      descend t found' current' rest
    | none => if p.isOptional then descend t found current rest else none

/-- Matches the innermost part at a node and the others around it. If that fails, the outermost part
may match there and the others below it. -/
def find (p : Pattern) (t : SyntaxTree) (id : Nat) : Option PatternMatch := do
  let (node, part) ← (ascend t none (some id) p.parts.reverse).orElse fun _ =>
    if 1 < p.parts.length then descend t none (some id) p.parts else none
  return ⟨node, ← part.select t node⟩

def findFirst (patterns : List Pattern) (t : SyntaxTree) (id : Nat) : Option PatternMatch :=
  patterns.findSome? fun p => p.find t id

end Pattern

end Referent
