import Referent.Syntax.Pattern

namespace Referent

/-- The range of `node` is where the thing is looked up, `content` is what it consists of. The
separators on either side are known for the elements of a list. -/
structure NodeMatch where
  node : Nat
  content : Range
  separators : Option (Option Range × Option Range)
deriving DecidableEq

inductive Matcher where
  | patterns (patterns : List Pattern)
  | element (parents : List String)
  /-- As `patterns`, without one layer of parentheses around what is found. -/
  | condition (patterns : List Pattern)
deriving Repr, DecidableEq

namespace Matcher

def brackets : List String := ["(", ")", "\x7b", "\x7d", "[", "]", "<", ">", ","]

def unwrap (t : SyntaxTree) (id : Nat) : Nat :=
  if t.kind id = "parenthesized_expression" then (t.namedChild id 0).getD id else id

def separatorsAt (t : SyntaxTree) (elements : List Nat) (index id : Nat) :
    Option Range × Option Range :=
  let previous := if index = 0 then none else elements[index - 1]?
  (previous.map fun p => .between (t.range p).stop (t.range id).start,
    elements[index + 1]?.map fun n => .between (t.range id).stop (t.range n).start)

def findElement (parents : List String) (t : SyntaxTree) (id : Nat) : Option NodeMatch := do
  let parent ← t.parent id
  if t.isNamed id && parents.contains (t.kind parent) then
    let elements := (t.namedChildren parent).filter fun c => !brackets.contains (t.kind c)
    let index ← elements.idxOf? id
    return ⟨id, t.range id, some (separatorsAt t elements index id)⟩
  else none

def find (m : Matcher) (t : SyntaxTree) (id : Nat) : Option NodeMatch :=
  match m with
  | patterns ps =>
    (Pattern.findFirst ps t id).map fun f => ⟨f.node, t.range f.target, none⟩
  | condition ps =>
    (Pattern.findFirst ps t id).map fun f => ⟨f.node, t.range (unwrap t f.target), none⟩
  | element parents => findElement parents t id

def order (t : SyntaxTree) (a b : NodeMatch) : Ordering :=
  (compare (t.range a.node).start (t.range b.node).start).then <|
  (compare (t.range b.node).stop (t.range a.node).stop).then <|
  (compare a.content.start b.content.start).then (compare a.content.stop b.content.stop)

def same (t : SyntaxTree) (a b : NodeMatch) : Bool :=
  t.range a.node == t.range b.node && a.content == b.content

def findAll (m : Matcher) (t : SyntaxTree) : List NodeMatch :=
  ((t.ids.filterMap (m.find t)).mergeSort fun a b => (order t a b).isLE).eraseRepsBy (same t)

end Matcher

end Referent
