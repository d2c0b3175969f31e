namespace Referent

inductive LineEnding where
  | crlf | lf | vt | ff | cr | nel | ls | ps
deriving Repr, DecidableEq

namespace LineEnding

def length : LineEnding → Nat
  | crlf => 2
  | _ => 1

def chars : LineEnding → List Char
  | crlf => ['\r', '\n']
  | lf => ['\n']
  | vt => ['\x0b']
  | ff => ['\x0c']
  | cr => ['\r']
  | nel => ['\u0085']
  | ls => ['\u2028']
  | ps => ['\u2029']

theorem length_chars (e : LineEnding) : e.chars.length = e.length := by
  cases e <;> rfl

def ofChar? (c : Char) : Option LineEnding :=
  match c.toNat with
  | 0x0A => some lf
  | 0x0B => some vt
  | 0x0C => some ff
  | 0x0D => some cr
  | 0x85 => some nel
  | 0x2028 => some ls
  | 0x2029 => some ps
  | _ => none

/-- The line ending at the end of a line, read off its characters. -/
def ofChars? (line : List Char) : Option LineEnding :=
  if ['\r', '\n'].isSuffixOf line then some crlf else line.getLast?.bind ofChar?

def lengthBefore (line : List Char) : Nat := line.length - ((ofChars? line).map length).getD 0

end LineEnding

def isLineEnding (c : Char) : Bool := (LineEnding.ofChar? c).isSome

structure TextLine where
  body : List Char
  ending : Option LineEnding
deriving Repr, DecidableEq

namespace TextLine

def length (l : TextLine) : Nat := l.body.length

def breakLength (l : TextLine) : Nat :=
  match l.ending with
  | none => 0
  | some e => e.length

def width (l : TextLine) : Nat := l.length + l.breakLength

def chars (l : TextLine) : List Char :=
  match l.ending with
  | none => l.body
  | some e => l.body ++ e.chars

end TextLine

def splitLinesFrom (body : List Char) : List Char → List TextLine
  | [] => [⟨body.reverse, none⟩]
  | '\r' :: '\n' :: rest => ⟨body.reverse, some .crlf⟩ :: splitLinesFrom [] rest
  | c :: rest =>
    match LineEnding.ofChar? c with
    | some e => ⟨body.reverse, some e⟩ :: splitLinesFrom [] rest
    | none => splitLinesFrom (c :: body) rest

/-- The lines of a text. There is always at least one, and a text that ends in a line ending has an
empty line after it. -/
def splitLines (text : List Char) : List TextLine := splitLinesFrom [] text

end Referent
