import Referent.Text.CharClass

namespace Referent

inductive ItemKind where
  | item | separator | boundary
deriving Repr, DecidableEq

structure ItemToken where
  kind : ItemKind
  start : Nat
  stop : Nat
deriving Repr, DecidableEq

namespace ItemToken

def isQuote (c : Char) : Bool := c == '"' || c == '\'' || c == '\x60'

def isDelimiter (c : Char) : Bool :=
  [',', '(', ')', '\x7b', '\x7d', '<', '>', '[', ']'].contains c || isQuote c

def closing? (piece : List Char) : Option (List Char) :=
  match piece with
  | ['('] => some [')']
  | ['\x7b'] => some ['\x7d']
  | ['<'] => some ['>']
  | ['['] => some [']']
  | ['"'] => some ['"']
  | ['\''] => some ['\'']
  | ['\x60'] => some ['\x60']
  | _ => none

def flush (plain : List Char) : List (List Char) := if plain.isEmpty then [] else [plain.reverse]

def piecesFrom (plain : List Char) : List Char → List (List Char)
  | [] => flush plain
  | '\\' :: c :: rest =>
    if isQuote c then flush plain ++ ['\\', c] :: piecesFrom [] rest
    else piecesFrom ('\\' :: plain) (c :: rest)
  | c :: rest =>
    if isDelimiter c then flush plain ++ [c] :: piecesFrom [] rest
    else piecesFrom (c :: plain) rest

def pieces (text : List Char) : List (List Char) := piecesFrom [] text

structure Nesting where
  depth : Nat
  opening : List Char
  closing : List Char

/-- Outside of pairs, a piece opens one if what closes it is still to come. -/
def Nesting.step (n : Nesting) (piece : List Char) (rest : List (List Char)) : Nesting :=
  if 0 < n.depth then
    if piece = n.closing then { n with depth := n.depth - 1 }
    else if piece = n.opening then { n with depth := n.depth + 1 }
    else n
  else
    match closing? piece with
    | some close => if rest.contains close then ⟨1, piece, close⟩ else n
    | none => n

def joinFrom (n : Nesting) (current : List (List Char)) : List (List Char) → List (ItemKind × List Char)
  | [] => if current.isEmpty then [] else [(.item, current.reverse.flatten)]
  | piece :: rest =>
    let n' := n.step piece rest
    if piece = [','] ∧ n'.depth = 0 then
      (if current.isEmpty then [] else [(.item, current.reverse.flatten)])
        ++ (.separator, piece) :: joinFrom n' [] rest
    else joinFrom n' (piece :: current) rest

def join (pieces : List (List Char)) : List (ItemKind × List Char) := joinFrom ⟨0, [], []⟩ [] pieces

def trimmed (start : Nat) : List (ItemKind × List Char) → List ItemToken
  | [] => []
  | (kind, text) :: rest =>
    let further := trimmed (start + text.length) rest
    if isBlank text then further
    else
      match kind with
      | .separator => ⟨.separator, start, start + text.length⟩ :: further
      | _ =>
        let from' := start + (text.length - (trimStart text).length)
        ⟨.item, from', from' + (trim text).length⟩ :: further

def ofText (text : List Char) : List ItemToken := trimmed 0 (join (pieces text))

end ItemToken

end Referent
