import Referent.Text.CharClass
import Referent.Range

/-! Documents: a text, the lines it consists of, and the two ways of addressing a place in it, by
offset and by position. -/

namespace Referent

structure Document where
  id : Nat
  language : String
  text : List Char
  lines : List TextLine
  lines_eq : lines = splitLines text

structure Line where
  number : Nat
  text : List Char
  isLast : Bool
deriving Repr, DecidableEq

namespace Line

def length (l : Line) : Nat := l.text.length

def range (l : Line) : Range := .onLine l.number 0 l.length

def rangeWithBreak (l : Line) : Range :=
  if l.isLast then l.range else .between ⟨l.number, 0⟩ ⟨l.number + 1, 0⟩

def indent (l : Line) : Nat := (l.text.takeWhile isHorizontalSpace).length

def isBlank (l : Line) : Bool := l.text.all isHorizontalSpace

def trimmedLength (l : Line) : Nat :=
  l.length - (l.text.reverse.takeWhile isHorizontalSpace).length

def trimmedRange (l : Line) : Range :=
  .onLine l.number (min l.indent l.trimmedLength) l.trimmedLength

end Line

namespace Document

def ofText (id : Nat) (language : String) (text : List Char) : Document :=
  ⟨id, language, text, splitLines text, rfl⟩

instance : Inhabited Document := ⟨ofText 0 "" []⟩

def lineCount (d : Document) : Nat := d.lines.length

def lastLine (d : Document) : Nat := d.lineCount - 1

def length (d : Document) : Nat := d.text.length

def textLine (d : Document) (line : Nat) : TextLine :=
  (d.lines[min line d.lastLine]?).getD ⟨[], none⟩

def lineLength (d : Document) (line : Nat) : Nat := (d.textLine line).length

def lineAt (d : Document) (line : Nat) : Line where
  number := min line d.lastLine
  text := (d.textLine line).body
  isLast := d.lastLine ≤ line

def lineStart (d : Document) (line : Nat) : Nat :=
  (d.lines.take line).foldl (fun offset l => offset + l.width) 0

/-- The offset at which a line ends, in front of its line ending. -/
def lineEnd (d : Document) (line : Nat) : Nat :=
  d.lineStart line + LineEnding.lengthBefore (d.textLine line).chars

def range (d : Document) : Range := .between .zero ⟨d.lastLine, d.lineLength d.lastLine⟩

def clamp (d : Document) (p : Position) : Position :=
  if d.lastLine < p.line then ⟨d.lastLine, d.lineLength d.lastLine⟩
  else ⟨p.line, min p.character (d.lineLength p.line)⟩

def offsetAt (d : Document) (p : Position) : Nat :=
  d.lineStart (d.clamp p).line + (d.clamp p).character

def locate (line : Nat) : List TextLine → Nat → Position
  | [], _ => ⟨line, 0⟩
  | [l], offset => ⟨line, min offset l.length⟩
  | l :: rest, offset =>
    if offset < l.width then ⟨line, min offset l.length⟩
    else locate (line + 1) rest (offset - l.width)

/-- The position of an offset. Inside a line ending it is the end of the line, past the text it is
the end of the document. -/
def positionAt (d : Document) (offset : Nat) : Position := locate 0 d.lines offset

def textIn (d : Document) (r : Range) : List Char :=
  let start := d.offsetAt r.start
  (d.text.drop start).take (d.offsetAt r.stop - start)

def charAt (d : Document) (p : Position) : Option Char := (d.text.drop (d.offsetAt p)).head?

def fullLines (d : Document) (first last : Nat) : Range :=
  .between ⟨first, 0⟩ ⟨last, d.lineLength last⟩

def linesOf (d : Document) (r : Range) : List Nat :=
  List.range' r.start.line (min r.stop.line d.lastLine + 1 - r.start.line)

end Document

end Referent
