import Referent.Context
import Referent.Regex.Basic
import Referent.Scope.Basic
import Referent.Unicode.Grapheme
import Referent.Words

/-! The scopes that can be read off the text: those whose domain touches a range, in order. -/

namespace Referent.Scope

def touching (r : Range) (scopes : List Scope) : List Scope :=
  scopes.filter fun s => s.domain.touches r

def tokens (cx : Context) (identifiersOnly : Bool) (e : Editor) (r : Range) : List Scope :=
  let d := e.document
  let ranges := (cx.tokens d r).filter fun t => !identifiersOnly || cx.isIdentifier d (d.textIn t)
  touching r (ranges.map fun t => ofTarget (.token e t false))

def charactersOfLine (e : Editor) (line : Nat) : List Scope :=
  (Unicode.clusterSpans (e.document.lineAt line).text).map fun s =>
    ofTarget (.plain e (.onLine line s.1 s.2) false)

def characters (e : Editor) (r : Range) : List Scope :=
  touching r ((e.document.linesOf r).flatMap (charactersOfLine e))

def piece (token : Range) (start stop : Nat) : Range :=
  .onLine token.start.line (token.start.character + start) (token.start.character + stop)

def wordTarget (e : Editor) (token : Range) (words : List (Nat × Nat)) (first last : Nat)
    (isReversed : Bool) : Target :=
  let start := (words.getD first (0, 0)).1
  let stop := (words.getD last (0, 0)).2
  let previous := if first = 0 then none else words[first - 1]?
  let leading := (previous.map fun w => piece token w.2 start).filter (!·.isEmpty)
  let trailing := (words[last + 1]?.map fun w => piece token stop w.1).filter (!·.isEmpty)
  let delimiter := ((leading.or trailing).map e.document.textIn).getD []
  .delimited e .subTokenWord (piece token start stop) leading trailing (String.ofList delimiter)
    isReversed

def wordsOfToken (e : Editor) (token : Range) : List Scope :=
  let words := wordSpans (e.document.textIn token)
  (List.range words.length).map fun i => ofTarget (wordTarget e token words i i false)

def words (cx : Context) (e : Editor) (r : Range) : List Scope :=
  touching r (((cx.tokens e.document r).filter fun t => t.touches r).flatMap (wordsOfToken e))

def lines (e : Editor) (r : Range) : List Scope :=
  (e.document.linesOf r).map fun l =>
    let range := (e.document.lineAt l).range
    ⟨range, .line e range false⟩

def textRuns (opened : Option Nat) (line : Nat) : List Bool → List (Nat × Nat)
  | [] =>
    match opened with
    | none => []
    | some first => [(first, line - 1)]
  | isBlank :: rest =>
    match opened, isBlank with
    | none, false => textRuns (some line) (line + 1) rest
    | some first, true => (first, line - 1) :: textRuns none (line + 1) rest
    | _, _ => textRuns opened (line + 1) rest

def textRunsOf (d : Document) : List (Nat × Nat) :=
  textRuns none 0 ((List.range d.lineCount).map fun l => (d.lineAt l).isBlank)

def paragraphOf (e : Editor) (first last : Nat) : Scope :=
  let d := e.document
  ⟨d.fullLines first last,
    .paragraph e
      (.between (d.lineAt first).trimmedRange.start (d.lineAt last).trimmedRange.stop) false⟩

def paragraphs (e : Editor) (r : Range) : List Scope :=
  touching r ((textRunsOf e.document).map fun run => paragraphOf e run.1 run.2)

def wholeDocument (e : Editor) : List Scope := [ofTarget (.wholeDocument e)]

def matchesOfLine (scopeType : ScopeType) (regex : Regex) (e : Editor) (line : Nat) : List Scope :=
  (regex.spans (e.document.lineAt line).text).map fun s =>
    ofTarget (.scope e scopeType (.onLine line s.1 s.2) false)

def regexMatches (scopeType : ScopeType) (regex : Regex) (e : Editor) (r : Range) : List Scope :=
  touching r ((e.document.linesOf r).flatMap (matchesOfLine scopeType regex e))

end Referent.Scope
