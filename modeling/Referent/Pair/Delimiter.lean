import Referent.Descriptor.ScopeType

namespace Referent

structure Delimiter where
  name : PairName
  opening : List Char
  closing : List Char
deriving Repr, DecidableEq

namespace Delimiter

def isSymmetric (d : Delimiter) : Bool := d.opening == d.closing

def isSingleLine (d : Delimiter) : Bool :=
  [PairName.doubleQuotes, .singleQuotes, .escapedDoubleQuotes, .escapedSingleQuotes].contains d.name

def length (d : Delimiter) : Nat := max d.opening.length d.closing.length

def table : List Delimiter :=
  [⟨.angleBrackets, ['<'], ['>']⟩,
    ⟨.backtickQuotes, ['\x60'], ['\x60']⟩,
    ⟨.curlyBrackets, ['\x7b'], ['\x7d']⟩,
    ⟨.doubleQuotes, ['"'], ['"']⟩,
    ⟨.escapedDoubleQuotes, ['\\', '"'], ['\\', '"']⟩,
    ⟨.escapedParentheses, ['\\', '('], ['\\', ')']⟩,
    ⟨.escapedSingleQuotes, ['\\', '\''], ['\\', '\'']⟩,
    ⟨.escapedSquareBrackets, ['\\', '['], ['\\', ']']⟩,
    ⟨.parentheses, ['('], [')']⟩,
    ⟨.singleQuotes, ['\''], ['\'']⟩,
    ⟨.squareBrackets, ['['], [']']⟩,
    ⟨.tripleDoubleQuotes, ['"', '"', '"'], ['"', '"', '"']⟩,
    ⟨.tripleSingleQuotes, ['\'', '\'', '\''], ['\'', '\'', '\'']⟩]

def names : PairName → List PairName
  | .any => [.parentheses, .squareBrackets, .curlyBrackets, .angleBrackets]
  | .string =>
    [.tripleDoubleQuotes, .tripleSingleQuotes, .doubleQuotes, .singleQuotes, .backtickQuotes]
  | .collectionBoundary => [.parentheses, .squareBrackets, .curlyBrackets]
  | name => [name]

def isTripleQuote (d : Delimiter) : Bool :=
  d.name == .tripleDoubleQuotes || d.name == .tripleSingleQuotes

/-- The delimiters that a name stands for, the longest ones first. Only Python has triple quotes. -/
def ofName (name : PairName) (language : String) : List Delimiter :=
  (table.filter fun d =>
    (names name).contains d.name && (language == "python" || !d.isTripleQuote)).mergeSort
      fun d e => e.length ≤ d.length

end Delimiter

end Referent
