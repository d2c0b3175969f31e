import Referent.Regex.Basic

/-! Reading regular expressions from their written form. -/

namespace Referent.Regex

open Unicode

structure ReadFlags where
  ignoreCase : Bool := false
  multiLine : Bool := false
  dotAll : Bool := false
  swapGreed : Bool := false
  unicode : Bool := true
  crlf : Bool := false
  verbose : Bool := false
deriving Repr

def skipLine : List Char → List Char
  | [] => []
  | '\n' :: rest => rest
  | _ :: rest => skipLine rest

def skipVerbose : Nat → List Char → List Char
  | 0, cs => cs
  | fuel + 1, cs =>
    match cs with
    | [] => []
    | '#' :: rest => skipVerbose fuel (skipLine rest)
    | c :: rest => if isWhiteSpace c then skipVerbose fuel rest else cs

def ReadFlags.skip (f : ReadFlags) (cs : List Char) : List Char :=
  if f.verbose then skipVerbose (cs.length + 1) cs else cs

def ReadFlags.advance (f : ReadFlags) (cs : List Char) : List Char := f.skip (cs.drop 1)

def hexValue? (c : Char) : Option Nat :=
  if '0' ≤ c ∧ c ≤ '9' then some (c.toNat - 0x30)
  else if 'a' ≤ c ∧ c ≤ 'f' then some (c.toNat - 0x57)
  else if 'A' ≤ c ∧ c ≤ 'F' then some (c.toNat - 0x37)
  else none

def charOfCode? (code : Nat) : Option Char :=
  if code.isValidChar then some (Char.ofNat code) else none

/-- What a backslash and what follows it stand for. A byte is a character written by its number. -/
inductive Escape where
  | literal (c : Char)
  | byte (c : Char)
  | set (s : CharSet)
  | anchor (a : Anchor)

def fixedHex (f : ReadFlags) : Nat → Nat → List Char → Option (Nat × List Char)
  | 0, value, cs => some (value, cs)
  | n + 1, value, cs =>
    match cs with
    | [] => none
    | c :: _ => (hexValue? c).bind fun d => fixedHex f n (value * 16 + d) (f.advance cs)

def bracedHex (f : ReadFlags) : Nat → Option Nat → List Char → Option (Nat × List Char)
  | 0, _, _ => none
  | fuel + 1, value, cs =>
    match cs with
    | [] => none
    | '}' :: _ => value.map fun v => (v, f.advance cs)
    | c :: _ =>
      (hexValue? c).bind fun d =>
        bracedHex f fuel (some (min (value.getD 0 * 16 + d) 0x110000)) (f.advance cs)

def readHex (f : ReadFlags) (digits : Nat) (cs : List Char) : Option (Char × List Char) := do
  let (code, rest) ←
    match cs with
    | [] => none
    | '{' :: _ => bracedHex f (cs.length + 1) none (f.advance cs)
    | _ => fixedHex f digits 0 cs
  return (← charOfCode? code, rest)

def bracedName (f : ReadFlags) : Nat → List Char → List Char → Option (List Char × List Char)
  | 0, _, _ => none
  | fuel + 1, name, cs =>
    match cs with
    | [] => none
    | '}' :: rest => some (name.reverse, rest)
    | c :: _ => bracedName f fuel (c :: name) (f.advance cs)

def splitAtFirst (separator : List Char) : List Char → Option (List Char × List Char)
  | [] => none
  | c :: rest =>
    if separator.isPrefixOf (c :: rest) then some ([], (c :: rest).drop separator.length)
    else (splitAtFirst separator rest).map fun p => (c :: p.1, p.2)

def namedSet? (name : List Char) : Option (CharSet × Bool) :=
  match splitAtFirst ['!', '='] name with
  | some (property, value) => (charsWithValue? property value).map (·, true)
  | none =>
    match (splitAtFirst [':'] name).orElse fun _ => splitAtFirst ['='] name with
    | some (property, value) => (charsWithValue? property value).map (·, false)
    | none => (charsNamed? name).map (·, false)

def ReadFlags.foldSet (f : ReadFlags) (s : CharSet) : CharSet :=
  if f.ignoreCase then if f.unicode then s.foldCase else s.foldAscii else s

def ReadFlags.foldNegate (f : ReadFlags) (negated : Bool) (s : CharSet) : CharSet :=
  if negated then (f.foldSet s).compl else f.foldSet s

def readPropertySet (f : ReadFlags) (negated : Bool) (cs : List Char) :
    Option (CharSet × List Char) := do
  guard f.unicode
  match cs with
  | [] => none
  | '{' :: _ =>
    let (name, rest) ← bracedName f (cs.length + 1) [] (f.advance cs)
    let (s, excluded) ← namedSet? name
    return (f.foldNegate (negated != excluded) s, rest)
  | '\\' :: _ => none
  | c :: _ => return (f.foldNegate negated (← charsNamed? [c]), f.advance cs)

def ReadFlags.classSet (f : ReadFlags) (c : Char) : CharSet :=
  match c with
  | 'd' => if f.unicode then decimalNumber else ⟨#[(0x30, 0x39)]⟩
  | 's' => if f.unicode then whiteSpace else ⟨#[(0x09, 0x0D), (0x20, 0x20)]⟩
  | _ => if f.unicode then wordChars else Anchor.asciiWordChars

def metaChars : List Char :=
  ['\\', '.', '+', '*', '?', '(', ')', '|', '[', ']', '{', '}', '^', '$', '#', '&', '-', '~']

def isEscapable (c : Char) : Bool :=
  metaChars.contains c || (c.toNat < 0x80 && !c.isAlphanum && c != '<' && c != '>')

def boundaryNameChar (c : Char) : Bool := c.isAlpha || c == '-'

def boundaryName (f : ReadFlags) : Nat → List Char → List Char → List Char × List Char
  | 0, name, cs => (name.reverse, cs)
  | fuel + 1, name, cs =>
    match cs with
    | [] => (name.reverse, [])
    | c :: _ =>
      if boundaryNameChar c then boundaryName f fuel (c :: name) (f.advance cs)
      else (name.reverse, cs)

def readBoundary (f : ReadFlags) (cs : List Char) : Option (Anchor × List Char) :=
  let ascii := !f.unicode
  match cs with
  | '{' :: _ =>
    match f.advance cs with
    | [] => none
    | c :: more =>
      if boundaryNameChar c then
        match boundaryName f (more.length + 2) [] (c :: more) with
        | (name, '}' :: rest) =>
          match String.ofList name with
          | "start" => some (.wordStart ascii, rest)
          | "end" => some (.wordEnd ascii, rest)
          | "start-half" => some (.wordStartHalf ascii, rest)
          | "end-half" => some (.wordEndHalf ascii, rest)
          | _ => none
        | _ => none
      else some (.wordBoundary ascii, cs)
  | _ => some (.wordBoundary ascii, cs)

def readNumbered (f : ReadFlags) (digits : Nat) (cs : List Char) : Option (Escape × List Char) :=
  match f.advance cs with
  | [] => none
  | more => (readHex f digits more).map fun p => (.byte p.1, p.2)

def readEscape (f : ReadFlags) (cs : List Char) : Option (Escape × List Char) :=
  match cs with
  | [] => none
  | c :: rest =>
    let ascii := !f.unicode
    match c with
    | 'x' => readNumbered f 2 cs
    | 'u' => readNumbered f 4 cs
    | 'U' => readNumbered f 8 cs
    | 'p' => (readPropertySet f false (f.advance cs)).map fun p => (.set p.1, p.2)
    | 'P' => (readPropertySet f true (f.advance cs)).map fun p => (.set p.1, p.2)
    | 'd' => some (.set (f.classSet c), rest)
    | 's' => some (.set (f.classSet c), rest)
    | 'w' => some (.set (f.classSet c), rest)
    | 'D' => some (.set (f.classSet 'd').compl, rest)
    | 'S' => some (.set (f.classSet 's').compl, rest)
    | 'W' => some (.set (f.classSet 'w').compl, rest)
    | 'a' => some (.literal '\x07', rest)
    | 'f' => some (.literal '\x0c', rest)
    | 't' => some (.literal '\t', rest)
    | 'n' => some (.literal '\n', rest)
    | 'r' => some (.literal '\r', rest)
    | 'v' => some (.literal '\x0b', rest)
    | 'A' => some (.anchor .textStart, rest)
    | 'z' => some (.anchor .textEnd, rest)
    | 'b' => (readBoundary f rest).map fun p => (.anchor p.1, p.2)
    | 'B' => some (.anchor (.notWordBoundary ascii), rest)
    | '<' => some (.anchor (.wordStart ascii), rest)
    | '>' => some (.anchor (.wordEnd ascii), rest)
    | _ => if isEscapable c then some (.literal c, rest) else none
/-! Bracketed sets. -/

inductive SetOp where
  | inter | diff | symmDiff

structure PendingOp where
  op : SetOp
  left : CharSet

/-- An open bracket: whether its set is negated, the items read so far, and the operator before
them. -/
structure SetFrame where
  negated : Bool
  items : List CharSet
  pending : Option PendingOp
  depth : Nat

def SetFrame.push (s : SetFrame) (set : CharSet) : SetFrame := { s with items := set :: s.items }

def SetFrame.value (f : ReadFlags) (s : SetFrame) : CharSet :=
  let items := CharSet.unions s.items
  match s.pending with
  | none => items
  | some ⟨op, left⟩ =>
    let left := f.foldSet left
    let right := f.foldSet items
    match op with
    | .inter => left.inter right
    | .diff => left.diff right
    | .symmDiff => left.symmDiff right

def SetFrame.pushOp (f : ReadFlags) (s : SetFrame) (op : SetOp) : SetFrame :=
  { s with items := [], pending := some ⟨op, s.value f⟩ }

def posixSet? (name : List Char) : Option CharSet :=
  match String.ofList name with
  | "alnum" => some ⟨#[(0x30, 0x39), (0x41, 0x5A), (0x61, 0x7A)]⟩
  | "alpha" => some ⟨#[(0x41, 0x5A), (0x61, 0x7A)]⟩
  | "ascii" => some ascii
  | "blank" => some ⟨#[(0x09, 0x09), (0x20, 0x20)]⟩
  | "cntrl" => some ⟨#[(0x00, 0x1F), (0x7F, 0x7F)]⟩
  | "digit" => some ⟨#[(0x30, 0x39)]⟩
  | "graph" => some ⟨#[(0x21, 0x7E)]⟩
  | "lower" => some ⟨#[(0x61, 0x7A)]⟩
  | "print" => some ⟨#[(0x20, 0x7E)]⟩
  | "punct" => some ⟨#[(0x21, 0x2F), (0x3A, 0x40), (0x5B, 0x60), (0x7B, 0x7E)]⟩
  | "space" => some ⟨#[(0x09, 0x0D), (0x20, 0x20)]⟩
  | "upper" => some ⟨#[(0x41, 0x5A)]⟩
  | "word" => some Anchor.asciiWordChars
  | "xdigit" => some ⟨#[(0x30, 0x39), (0x41, 0x46), (0x61, 0x66)]⟩
  | _ => none

def readPosix (f : ReadFlags) (cs : List Char) : Option (CharSet × List Char) := do
  let rest ←
    match cs with
    | '[' :: ':' :: rest => some rest
    | _ => none
  let (negated, rest) :=
    match rest with
    | '^' :: more => (true, more)
    | _ => (false, rest)
  let name := rest.takeWhile (· != ':')
  match rest.drop name.length with
  | ':' :: ']' :: more => return (f.foldNegate negated (← posixSet? name), more)
  | _ => none

def leadingHyphens (f : ReadFlags) : Nat → SetFrame → List Char → Option (SetFrame × List Char)
  | 0, _, _ => none
  | fuel + 1, frame, cs =>
    match cs with
    | [] => none
    | '-' :: _ => leadingHyphens f fuel (frame.push (.singleton '-'.toNat)) (f.advance cs)
    | ']' :: _ =>
      if frame.items.isEmpty then
        match f.advance cs with
        | [] => none
        | more => some (frame.push (.singleton ']'.toNat), more)
      else some (frame, cs)
    | _ => some (frame, cs)

def openSet (f : ReadFlags) (depth : Nat) (cs : List Char) : Option (SetFrame × List Char) :=
  let cs := f.advance cs
  match cs with
  | [] => none
  | '^' :: _ => leadingHyphens f (cs.length + 1) ⟨true, [], none, depth⟩ (f.advance cs)
  | _ => leadingHyphens f (cs.length + 1) ⟨false, [], none, depth⟩ cs

def readSetItem (f : ReadFlags) (cs : List Char) : Option (Escape × List Char) :=
  match cs with
  | [] => none
  | '\\' :: rest => readEscape f rest
  | c :: rest => some (.literal c, rest)

def ReadFlags.literalCode? (f : ReadFlags) : Escape → Option Nat
  | .literal c => if f.unicode || c.toNat < 0x80 then some c.toNat else none
  | .byte c => if f.unicode || c.toNat < 0x100 then some c.toNat else none
  | _ => none

def readSetRange (f : ReadFlags) (cs : List Char) : Option (CharSet × List Char) := do
  let (first, rest) ← readSetItem f cs
  let single : Option CharSet :=
    match first with
    | .set s => some s
    | .anchor _ => none
    | e => (f.literalCode? e).map CharSet.singleton
  let rest := f.skip rest
  match rest with
  | [] => none
  | '-' :: _ =>
    match f.advance rest with
    | [] => none
    | ']' :: _ => return (← single, rest)
    | '-' :: _ => return (← single, rest)
    | more =>
      let (second, rest) ← readSetItem f more
      let low ← f.literalCode? first
      let high ← f.literalCode? second
      guard (low ≤ high)
      return (.range low high, rest)
  | _ => return (← single, rest)

def readSetLoop (f : ReadFlags) : Nat → SetFrame → List SetFrame → List Char →
    Option (CharSet × Nat × List Char)
  | 0, _, _, _ => none
  | fuel + 1, frame, outer, cs =>
    let cs := f.skip cs
    match cs with
    | [] => none
    | '[' :: _ =>
      match readPosix f cs with
      | some (s, rest) => readSetLoop f fuel (frame.push s) outer rest
      | none =>
        match openSet f 0 cs with
        | none => none
        | some (inner, rest) => readSetLoop f fuel inner (frame :: outer) rest
    | ']' :: rest =>
      let s := f.foldNegate frame.negated (frame.value f)
      match outer with
      | [] => some (s, frame.depth + 1, rest)
      | up :: further =>
        readSetLoop f fuel { up.push s with depth := max up.depth (frame.depth + 1) } further rest
    | '&' :: '&' :: rest => readSetLoop f fuel (frame.pushOp f .inter) outer rest
    | '-' :: '-' :: rest => readSetLoop f fuel (frame.pushOp f .diff) outer rest
    | '~' :: '~' :: rest => readSetLoop f fuel (frame.pushOp f .symmDiff) outer rest
    | _ =>
      match readSetRange f cs with
      | none => none
      | some (s, rest) => readSetLoop f fuel (frame.push s) outer rest

def isAsciiSet (s : CharSet) : Bool := s.ranges.all fun r => r.2 < 0x80

/-- Without Unicode a set may only hold ASCII characters, for it would match parts of others. -/
def ReadFlags.checkSet (f : ReadFlags) (s : CharSet) : Option CharSet :=
  if f.unicode || isAsciiSet s then some s else none

def readSet (f : ReadFlags) (cs : List Char) : Option (CharSet × Nat × List Char) := do
  let (frame, rest) ← openSet f 0 cs
  let (s, depth, rest) ← readSetLoop f (2 * cs.length + 1) frame [] rest
  return (← f.checkSet s, depth, rest)

/-! Groups and repetitions. -/

structure Piece where
  regex : Regex
  depth : Nat
  isFlags : Bool := false

structure GroupFrame where
  pieces : List Piece
  branches : List Piece
  flags : ReadFlags

structure ReadState where
  flags : ReadFlags
  pieces : List Piece
  branches : List Piece
  groups : List GroupFrame
  names : List (List Char)

def sequencePiece (pieces : List Piece) : Piece :=
  match pieces with
  | [] => ⟨.empty, 0, false⟩
  | [p] => p
  | _ => ⟨Regex.all (pieces.reverse.map Piece.regex), (pieces.map Piece.depth).foldl max 0 + 1, false⟩

def branchPiece (branches : List Piece) : Piece :=
  match branches with
  | [p] => p
  | _ => ⟨Regex.oneOf (branches.reverse.map Piece.regex), (branches.map Piece.depth).foldl max 0 + 1,
      false⟩

namespace ReadState

def push (s : ReadState) (p : Piece) : ReadState := { s with pieces := p :: s.pieces }

def body (s : ReadState) : Piece := branchPiece (sequencePiece s.pieces :: s.branches)

end ReadState

def countDigits (f : ReadFlags) : Nat → Option Nat → List Char → Option Nat × List Char
  | 0, value, cs => (value, cs)
  | fuel + 1, value, cs =>
    match cs with
    | [] => (value, [])
    | c :: _ =>
      if c.isDigit then
        countDigits f fuel (some (min (value.getD 0 * 10 + (c.toNat - 0x30)) UInt32.size))
          (f.advance cs)
      else (value, cs)

def readCount (f : ReadFlags) (cs : List Char) : Option (Nat × List Char) :=
  let cs := cs.dropWhile isWhiteSpace
  match countDigits f (cs.length + 1) none cs with
  | (some n, rest) => if n < UInt32.size then some (n, f.skip (rest.dropWhile isWhiteSpace)) else none
  | (none, _) => none

def readGreed (f : ReadFlags) (cs : List Char) : Bool × List Char :=
  match cs with
  | '?' :: rest => (f.swapGreed, rest)
  | _ => (!f.swapGreed, cs)

def ReadState.repeatLast (s : ReadState) (make : Regex → Regex) : Option ReadState :=
  match s.pieces with
  | [] => none
  | p :: rest =>
    if p.isFlags then none
    else some { s with pieces := ⟨make p.regex, p.depth + 1, false⟩ :: rest }

def readBounds (f : ReadFlags) (cs : List Char) : Option (Nat × Option Nat × List Char) := do
  guard (!cs.isEmpty)
  let (low, rest) ← readCount f cs
  match rest with
  | '}' :: _ => return (low, some low, rest)
  | ',' :: _ =>
    match f.advance rest with
    | [] => none
    | '}' :: more => return (low, none, '}' :: more)
    | more =>
      let (high, rest) ← readCount f more
      match rest with
      | '}' :: _ =>
        guard (low ≤ high)
        return (low, some high, rest)
      | _ => none
  | _ => none

def countedLoop (low : Nat) (high : Option Nat) (greedy : Bool) (r : Regex) : Regex :=
  match high with
  | none => r.atLeast low greedy
  | some high => r.between low high greedy

def readCounted (s : ReadState) (cs : List Char) : Option (ReadState × List Char) := do
  let (low, high, rest) ← readBounds s.flags (s.flags.advance cs)
  let (greedy, rest) := readGreed s.flags (s.flags.advance rest)
  let s ← s.repeatLast (countedLoop low high greedy)
  return (s, rest)

def isNameStart (c : Char) : Bool := c == '_' || isAlphabetic c

def isNameChar (c : Char) : Bool :=
  c == '_' || c == '.' || c == '[' || c == ']' || isAlphanumeric c

def readGroupName (cs : List Char) : Option (List Char × List Char) :=
  let name := cs.takeWhile (· != '>')
  match name, cs.drop name.length with
  | c :: more, '>' :: rest => if isNameStart c && more.all isNameChar then some (name, rest) else none
  | _, _ => none

def ReadFlags.set (f : ReadFlags) (c : Char) (on : Bool) : Option ReadFlags :=
  match c with
  | 'i' => some { f with ignoreCase := on }
  | 'm' => some { f with multiLine := on }
  | 's' => some { f with dotAll := on }
  | 'U' => some { f with swapGreed := on }
  | 'u' => some { f with unicode := on }
  | 'R' => some { f with crlf := on }
  | 'x' => some { f with verbose := on }
  | _ => none

def readFlags (seen : List Char) (on dangling : Bool) (f : ReadFlags) : List Char →
    Option (ReadFlags × Bool × List Char)
  | [] => none
  | ':' :: rest => if dangling then none else some (f, seen.isEmpty, ':' :: rest)
  | ')' :: rest => if dangling then none else some (f, seen.isEmpty, ')' :: rest)
  | '-' :: rest => if on then readFlags ('-' :: seen) false true f rest else none
  | c :: rest =>
    if seen.contains c then none
    else
      match f.set c on with
      | none => none
      | some f' => readFlags (c :: seen) on false f' rest

def ReadState.openGroup (s : ReadState) (inner : ReadFlags) : ReadState :=
  { s with
    flags := inner
    pieces := []
    branches := []
    groups := ⟨s.pieces, s.branches, s.flags⟩ :: s.groups }

def ReadState.openNamed (s : ReadState) (cs : List Char) : Option (ReadState × List Char) := do
  let (name, rest) ← readGroupName cs
  guard (!s.names.contains name)
  return ({ s.openGroup s.flags with names := name :: s.names }, rest)

def readGroup (s : ReadState) (cs : List Char) : Option (ReadState × List Char) :=
  match s.flags.skip cs with
  | '?' :: '=' :: _ => none
  | '?' :: '!' :: _ => none
  | '?' :: '<' :: '=' :: _ => none
  | '?' :: '<' :: '!' :: _ => none
  | '?' :: 'P' :: '<' :: rest => s.openNamed rest
  | '?' :: '<' :: rest => s.openNamed rest
  | '?' :: rest => do
    let (inner, isBare, rest) ← readFlags [] true false s.flags rest
    match rest with
    | ')' :: rest =>
      guard (!isBare)
      return ({ s with flags := inner }.push ⟨.empty, 0, true⟩, rest)
    | _ :: rest => return (s.openGroup inner, rest)
    | [] => none
  | rest => some (s.openGroup s.flags, rest)

def ReadState.closeGroup (s : ReadState) : Option ReadState :=
  match s.groups with
  | [] => none
  | g :: groups =>
    let body := s.body
    some
      { s with
        flags := g.flags
        pieces := ⟨body.regex, body.depth + 1, false⟩ :: g.pieces
        branches := g.branches
        groups := groups }

def ReadFlags.literalPiece (f : ReadFlags) (c : Char) : Piece :=
  ⟨.chars (f.foldSet (.singleton c.toNat)), 0, false⟩

def ReadFlags.escapePiece (f : ReadFlags) : Escape → Option Piece
  | .literal c => some (f.literalPiece c)
  | .byte c => if f.unicode || c.toNat < 0x80 then some (f.literalPiece c) else none
  | .set s => (f.checkSet s).map fun s => ⟨.chars s, 0, false⟩
  | .anchor a => some ⟨.anchor a, 0, false⟩

def ReadFlags.dot (f : ReadFlags) : CharSet :=
  if f.dotAll then .any
  else if f.crlf then (CharSet.compl ⟨#[(0x0A, 0x0A), (0x0D, 0x0D)]⟩)
  else (CharSet.compl ⟨#[(0x0A, 0x0A)]⟩)

def readStep (s : ReadState) (cs : List Char) : Option (ReadState × List Char) :=
  let f := s.flags
  match cs with
  | [] => none
  | c :: rest =>
    match c with
    | '(' => readGroup s rest
    | ')' => s.closeGroup.map (·, rest)
    | '|' => some ({ s with pieces := [], branches := sequencePiece s.pieces :: s.branches }, rest)
    | '[' => (readSet f cs).map fun (set, depth, rest) => (s.push ⟨.chars set, depth, false⟩, rest)
    | '?' =>
      let (greedy, rest) := readGreed f rest
      (s.repeatLast fun r => r.optional greedy).map (·, rest)
    | '*' =>
      let (greedy, rest) := readGreed f rest
      (s.repeatLast fun r => r.star greedy).map (·, rest)
    | '+' =>
      let (greedy, rest) := readGreed f rest
      (s.repeatLast fun r => r.plus greedy).map (·, rest)
    | '{' => readCounted s cs
    | '\\' => do
      let (e, rest) ← readEscape f rest
      return (s.push (← f.escapePiece e), rest)
    | '.' => if f.unicode then some (s.push ⟨.chars f.dot, 0, false⟩, rest) else none
    | '^' =>
      let a := if f.multiLine then Anchor.lineStart f.crlf else Anchor.textStart
      some (s.push ⟨.anchor a, 0, false⟩, rest)
    | '$' =>
      let a := if f.multiLine then Anchor.lineEnd f.crlf else Anchor.textEnd
      some (s.push ⟨.anchor a, 0, false⟩, rest)
    | _ => some (s.push (f.literalPiece c), rest)

def readLoop : Nat → ReadState → List Char → Option ReadState
  | 0, _, _ => none
  | fuel + 1, s, cs =>
    match s.flags.skip cs with
    | [] => some s
    | cs => (readStep s cs).bind fun p => readLoop fuel p.1 p.2

def maxDepth : Nat := 250

def maxWeight : Nat := 10 * 1024 * 1024

/-- The expression that is written as `pattern`, if it is well formed, and neither nested nor
repeated too much. -/
def read? (pattern : List Char) : Option Regex := do
  let s ← readLoop (pattern.length + 1) ⟨{}, [], [], [], []⟩ pattern
  guard s.groups.isEmpty
  let body := s.body
  guard (body.depth ≤ maxDepth)
  guard (body.regex.weight ≤ maxWeight)
  return body.regex

end Referent.Regex
