import Referent.Regex.Basic
import Referent.Text.CharClass

namespace Referent

structure Token where
  start : Nat
  stop : Nat
  text : List Char
deriving Repr, DecidableEq

namespace Token

def operators : List (List Char) :=
  ["!==", "!=", "+=", "-=", "*=", "/=", "%=", "<=", ">=", "=>", "->", "??", "\"\"\"",
    "\x60\x60\x60", "/*", "*/", "<!--", "-->"].map String.toList

def repeatable : List Char :=
  ['-', '+', '*', '/', '=', '<', '>', '_', '#', '.', '|', '&', ':']

def identifierChars : Unicode.CharSet :=
  .unions [Unicode.letterChars, Unicode.markChars, Unicode.numberChars]

def identifierRun : Regex := .plus (.chars identifierChars) true

def identifier (separators : List (List Char)) : Regex :=
  match separators with
  | [] => identifierRun
  | _ =>
    let separator := Regex.oneOf (separators.map Regex.ofText)
    Regex.all [separator.star true, identifierRun,
      (Regex.all [separator.plus true, identifierRun]).star true]

def isIdentifier (separators : List (List Char)) (text : List Char) : Bool :=
  (identifier separators).matchesAll text

def isDotOrDigit (c : Char) : Bool := c == '.' || c.isDigit

def decimalLength? (text : List Char) : Option Nat :=
  let whole := (text.takeWhile Char.isDigit).length
  match text.drop whole with
  | '.' :: rest =>
    let fraction := (rest.takeWhile Char.isDigit).length
    if 0 < whole ∧ 0 < fraction then some (whole + 1 + fraction) else none
  | _ => none

/-- A decimal number that is no part of a number with more dots. -/
def standaloneDecimal? (prev : Option Char) (text : List Char) : Option Nat :=
  if prev.any isDotOrDigit then none
  else
    (decimalLength? text).filter fun n => !((text.drop n).head?.any isDotOrDigit)

def lengthAt (identifier : Regex) (prev : Option Char) (text : List Char) : Nat :=
  match operators.find? fun o => o.isPrefixOf text with
  | some o => o.length
  | none =>
    match standaloneDecimal? prev text with
    | some n => n
    | none =>
      match identifier.matchLength? text with
      | some n => n
      | none =>
        match text with
        | [] => 0
        | c :: rest =>
          if repeatable.contains c then 1 + (rest.takeWhile (· == c)).length
          else (Unicode.firstCluster text).length

def ofTextFrom (identifier : Regex) (start : Nat) (prev : Option Char) (text : List Char) :
    List Token :=
  match text with
  | [] => []
  | c :: rest =>
    if isHorizontalSpace c || isLineEnding c then ofTextFrom identifier (start + 1) (some c) rest
    else
      let length := max 1 (lengthAt identifier prev (c :: rest))
      let token := (c :: rest).take length
      ⟨start, start + token.length, token⟩
        :: ofTextFrom identifier (start + token.length) token.getLast? ((c :: rest).drop length)
termination_by text.length
decreasing_by
  · simp
  · simp only [List.length_drop, List.length_cons]
    omega

def ofText (separators : List (List Char)) (text : List Char) : List Token :=
  ofTextFrom (identifier separators) 0 none text

structure Along (line : List Char) (tokens : List Token) : Prop where
  nonempty : ∀ t ∈ tokens, t.start < t.stop
  successive : tokens.Pairwise fun s t => s.stop ≤ t.start
  within : ∀ t ∈ tokens, t.stop ≤ line.length ∧ t.text = (line.take t.stop).drop t.start

end Token

/-- A way to divide lines into tokens and to tell identifiers, both in some language. Tokens are
parts of the line, from left to right. -/
structure Tokenizer where
  tokens : (line : List Char) → (language : String) → List Token
  isIdentifier : (text : List Char) → (language : String) → Bool
  along : ∀ line language, Token.Along line (tokens line language)

end Referent
