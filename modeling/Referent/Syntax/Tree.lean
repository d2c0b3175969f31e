import Referent.Range

/-! Syntax trees. A node is addressed by its number in pre-order. -/

namespace Referent

inductive SyntaxNode where
  | node (kind : String) (range : Range) (isNamed : Bool) (field : Option String)
    (children : List SyntaxNode)
deriving Inhabited

structure TreeNode where
  kind : String
  range : Range
  isNamed : Bool
  field : Option String
  parent : Option Nat
  children : List Nat
deriving Inhabited

namespace SyntaxNode

mutual

def size : SyntaxNode → Nat
  | node _ _ _ _ children => sizeAll children + 1

def sizeAll : List SyntaxNode → Nat
  | [] => 0
  | n :: rest => size n + sizeAll rest

end

def siblingIds (id : Nat) : List SyntaxNode → List Nat
  | [] => []
  | n :: rest => id :: siblingIds (id + n.size) rest

mutual

def preorder (id : Nat) (parent : Option Nat) : SyntaxNode → List TreeNode
  | node kind range isNamed field children =>
    ⟨kind, range, isNamed, field, parent, siblingIds (id + 1) children⟩
      :: preorderAll (id + 1) id children

def preorderAll (id parent : Nat) : List SyntaxNode → List TreeNode
  | [] => []
  | n :: rest => preorder id (some parent) n ++ preorderAll (id + n.size) parent rest

end

end SyntaxNode

structure SyntaxTree where
  top : SyntaxNode
  nodes : Array TreeNode
  nodes_eq : nodes = (top.preorder 0 none).toArray

namespace SyntaxTree

def ofNode (top : SyntaxNode) : SyntaxTree := ⟨top, (top.preorder 0 none).toArray, rfl⟩

instance : Inhabited SyntaxTree := ⟨ofNode default⟩

def root : Nat := 0

def size (t : SyntaxTree) : Nat := t.nodes.size

def ids (t : SyntaxTree) : List Nat := List.range t.size

def get (t : SyntaxTree) (id : Nat) : TreeNode := (t.nodes[id]?).getD default

def kind (t : SyntaxTree) (id : Nat) : String := (t.get id).kind

def range (t : SyntaxTree) (id : Nat) : Range := (t.get id).range

def isNamed (t : SyntaxTree) (id : Nat) : Bool := (t.get id).isNamed

def parent (t : SyntaxTree) (id : Nat) : Option Nat := (t.get id).parent

def children (t : SyntaxTree) (id : Nat) : List Nat := (t.get id).children

def namedChildren (t : SyntaxTree) (id : Nat) : List Nat := (t.children id).filter t.isNamed

def namedChild (t : SyntaxTree) (id index : Nat) : Option Nat := (t.namedChildren id)[index]?

def childByField (t : SyntaxTree) (id : Nat) (field : String) : Option Nat :=
  (t.children id).find? fun c => (t.get c).field == some field

def ancestorsFrom (t : SyntaxTree) : Nat → Nat → List Nat
  | 0, _ => []
  | fuel + 1, id =>
    id ::
      match t.parent id with
      | none => []
      | some p => ancestorsFrom t fuel p

def ancestors (t : SyntaxTree) (id : Nat) : List Nat := t.ancestorsFrom t.size id

/-- The child to look for a range in. Between two siblings it is the right one, and a child that
ends where the range starts comes last. -/
def childAt (t : SyntaxTree) (r : Range) (id : Nat) : Option Nat :=
  let holding := (t.children id).reverse.filter fun c => (t.range c).containsRange r
  match holding.find? fun c => r.start < (t.range c).stop || (t.range c).isEmpty with
  | some c => some c
  | none => holding.head?

def nodeAtFrom (t : SyntaxTree) (r : Range) : Nat → Nat → Nat
  | 0, id => id
  | fuel + 1, id =>
    match t.childAt r id with
    | none => id
    | some c => nodeAtFrom t r fuel c

def nodeAt (t : SyntaxTree) (r : Range) : Nat := t.nodeAtFrom r t.size root

end SyntaxTree

end Referent
