import Referent.Text.LineEnding
import Referent.Unicode.Grapheme

namespace Referent

inductive CharCategory where
  | whitespace | lineBreak | word | punctuation | unknown
deriving Repr, DecidableEq

/-- Ranks the categories for a position between two characters: words first, then symbols,
whitespace and line breaks. -/
def CharCategory.preference : CharCategory → Nat
  | word => 4
  | punctuation => 3
  | unknown => 3
  | whitespace => 2
  | lineBreak => 1

def isHorizontalSpace (c : Char) : Bool :=
  let code := c.toNat
  code = 0x09 || code = 0x20 || code = 0xA0 || code = 0x180E || code = 0x202F || code = 0x205F
    || code = 0x3000 || code = 0xFEFF || (0x2000 ≤ code && code ≤ 0x200B)

def punctuationChars : Unicode.CharSet :=
  Unicode.GeneralCategory.charsOf
    (Unicode.GeneralCategory.punctuation ++ [.mathSymbol, .currencySymbol, .modifierSymbol])

def isPunctuation (c : Char) : Bool := punctuationChars.contains c

def isWordChar (c : Char) : Bool := Unicode.isAlphanumeric c || c == '_'

def CharCategory.ofChar (c : Char) : CharCategory :=
  if isLineEnding c then .lineBreak
  else if Unicode.isWhiteSpace c then .whitespace
  else if isWordChar c then .word
  else if isPunctuation c then .punctuation
  else .unknown

def CharCategory.ofCluster (cluster : List Char) : CharCategory :=
  if cluster = ['\r', '\n'] then .lineBreak
  else
    match cluster with
    | [] => .unknown
    | c :: _ => .ofChar c

def isBlank (text : List Char) : Bool := text.all Unicode.isWhiteSpace

def trimStart (text : List Char) : List Char := text.dropWhile Unicode.isWhiteSpace

def trimEnd (text : List Char) : List Char := (trimStart text.reverse).reverse

def trim (text : List Char) : List Char := trimEnd (trimStart text)

end Referent
