import Referent.Descriptor.ScopeType
import Referent.Editor

/-! Targets: what an action is to act on.

A target is a range of text together with what an action needs to edit around it: what to put between
it and a further one, what to delete along with it, the delimiters on either side, and for pairs the
inside and the two ends. -/

namespace Referent

structure TargetFlags where
  weak : Bool := false
  raw : Bool := false
  line : Bool := false
  notebookCell : Bool := false
  explicitRange : Bool := false
  explicitScopeType : Bool := false
deriving Repr, DecidableEq, Inhabited

def TargetFlags.union (f g : TargetFlags) : TargetFlags :=
  ⟨f.weak || g.weak, f.raw || g.raw, f.line || g.line, f.notebookCell || g.notebookCell,
    f.explicitRange || g.explicitRange, f.explicitScopeType || g.explicitScopeType⟩

inductive InsertionSide where
  | before | after
deriving Repr, DecidableEq

inductive TargetKind where
  | untyped
  | plain
  | raw
  | token
  | line
  | paragraph
  | document
  | scope (scopeType : ScopeType)
  | surroundingPair
  | interior
  | collectionItem
  | subTokenWord
  | insertionPoint (side : InsertionSide)
deriving Repr, DecidableEq, Inhabited

structure Target where
  editor : Editor
  kind : TargetKind
  content : Range
  isReversed : Bool
  flags : TargetFlags
  delimiter : Option String
  removal : Range
  leading : Option Range
  trailing : Option Range
  interior : Option Range
  boundary : Option (Range × Range)
  /-- The number of the target that this one was inferred from. -/
  that : Option Nat
deriving Inhabited

def whitespaceBefore (d : Document) (p : Position) : Option Range :=
  let count := (((d.lineAt p.line).text.take p.character).reverse.takeWhile isHorizontalSpace).length
  if 0 < count then some (.between ⟨p.line, p.character - count⟩ p) else none

def whitespaceAfter (d : Document) (p : Position) : Option Range :=
  let count := (((d.lineAt p.line).text.drop p.character).takeWhile isHorizontalSpace).length
  if 0 < count then some (.between p ⟨p.line, p.character + count⟩) else none

def Document.previousLineEnd (d : Document) (line : Nat) : Position :=
  ⟨line - 1, d.lineLength (line - 1)⟩

/-- Lines go with the line break after them, the last ones with the one before them. -/
def lineRemoval (d : Document) (lines : Range) : Range :=
  if lines.stop.line + 1 < d.lineCount then lines.union (.point ⟨lines.stop.line + 1, 0⟩)
  else if 0 < lines.start.line then lines.union (.point (d.previousLineEnd lines.start.line))
  else lines

/-- A token goes with the white space after it, or with that before it if it ends its line. -/
def tokenRemoval (d : Document) (content : Range) : (leading trailing : Option Range) → Range
  | leading, some trailing =>
    if trailing.stop.character < d.lineLength content.stop.line then content.union trailing
    else
      match leading with
      | none => content.union trailing
      | some l => if 0 < l.start.character then content.union l else content.union trailing
  | some l, none => if 0 < l.start.character then content.union l else content
  | none, none => content

/-- An element of a sequence goes with the delimiter after it, the last one with that before it. -/
def elementRemoval (content : Range) : (leading trailing : Option Range) → Range
  | _, some trailing => content.union trailing
  | some leading, none => content.union leading
  | none, none => content

def occupiesFullLines (d : Document) (r : Range) : Bool :=
  r.start.character ≤ (d.lineAt r.start.line).indent
    && (d.lineAt r.stop.line).trimmedRange.stop.character ≤ r.stop.character

namespace Target

def document (t : Target) : Document := t.editor.document

def bare (editor : Editor) (kind : TargetKind) (content : Range) (isReversed : Bool) : Target where
  editor := editor
  kind := kind
  content := content
  isReversed := isReversed
  flags := { explicitScopeType := kind != .untyped }
  delimiter := none
  removal := content
  leading := none
  trailing := none
  interior := none
  boundary := none
  that := none

def withFlags (t : Target) (flags : TargetFlags) : Target := { t with flags := t.flags.union flags }

def withReversed (t : Target) (isReversed : Bool) : Target := { t with isReversed := isReversed }

def withRemoval (t : Target) (removal : Range) : Target := { t with removal := removal }

def withThat (t : Target) (id : Nat) : Target := { t with that := some id }

def withWhitespace (t : Target) : Target :=
  let leading := whitespaceBefore t.document t.content.start
  let trailing := whitespaceAfter t.document t.content.stop
  { t with
    leading := leading
    trailing := trailing
    removal := tokenRemoval t.document t.content leading trailing }

def untyped (editor : Editor) (content : Range) (isReversed hasExplicitRange : Bool) : Target :=
  { (bare editor .untyped content isReversed).withWhitespace with
    delimiter := some " "
    flags := { explicitRange := hasExplicitRange } }

def ofSelection (editor : Editor) (s : Selection) : Target :=
  (untyped editor s.range s.isReversed (!s.range.isEmpty)).withFlags { weak := true }

def plain (editor : Editor) (content : Range) (isReversed : Bool) : Target :=
  (bare editor .plain content isReversed).withFlags { explicitRange := true }

def raw (editor : Editor) (content : Range) (isReversed : Bool) : Target :=
  (bare editor .raw content isReversed).withFlags { raw := true, explicitRange := true }

def token (editor : Editor) (content : Range) (isReversed : Bool) : Target :=
  { (bare editor .token content isReversed).withWhitespace with delimiter := some " " }

def line (editor : Editor) (range : Range) (isReversed : Bool) : Target :=
  let d := editor.document
  let content := d.fullLines range.start.line range.stop.line
  let first := content.start
  let last := content.stop
  { (bare editor .line content isReversed).withFlags { line := true } with
    delimiter := some "\n"
    leading := if 0 < first.line then some (.between (d.previousLineEnd first.line) first) else none
    trailing :=
      if last.line + 1 < d.lineCount then some (.between last ⟨last.line + 1, 0⟩) else none
    removal := lineRemoval d content }

def textBefore (d : Document) (line : Nat) : Option Position :=
  ((List.range line).reverse.find? fun l => !(d.lineAt l).isBlank).map fun l => ⟨l, d.lineLength l⟩

def textAfter (d : Document) (line : Nat) : Option Position :=
  ((List.range' (line + 1) (d.lineCount - (line + 1))).find? fun l => !(d.lineAt l).isBlank).map
    fun l => ⟨l, 0⟩

def paragraph (editor : Editor) (content : Range) (isReversed : Bool) : Target :=
  let d := editor.document
  let leading := ((textBefore d content.start.line).map fun p => Range.between p content.start).filter
    fun r => r.start.line + 1 < content.start.line
  let trailing := ((textAfter d content.stop.line).map (Range.between content.stop)).filter
    fun r => content.stop.line + 1 < r.stop.line
  { (bare editor .paragraph content isReversed).withFlags { line := true } with
    delimiter := some "\n\n"
    leading := leading
    trailing := trailing
    removal :=
      match leading, trailing with
      | none, none => lineRemoval d content
      | _, _ => elementRemoval content leading trailing }

def wholeDocument (editor : Editor) : Target :=
  { bare editor .document editor.document.range false with delimiter := some "\n" }

def scopeLines (editor : Editor) (scopeType : ScopeType) (content : Range) (isReversed : Bool) :
    Target :=
  let d := editor.document
  let first := content.start.line
  let last := content.stop.line
  { bare editor (.scope scopeType) content isReversed with
    delimiter := some scopeType.delimiter
    leading :=
      if 0 < first then some (.between (d.previousLineEnd first) content.start) else none
    trailing :=
      if last + 1 < d.lineCount then
        some (.between content.stop ⟨last + 1, (d.lineAt (last + 1)).indent⟩)
      else none
    removal := lineRemoval d (d.fullLines first last) }

/-- An instance of a scope type. If those are divided by line breaks and it fills its lines, it is
removed as lines are, otherwise as a token is. -/
def scope (editor : Editor) (scopeType : ScopeType) (content : Range) (isReversed : Bool) : Target :=
  if scopeType.delimiter.contains '\n' && occupiesFullLines editor.document content then
    scopeLines editor scopeType content isReversed
  else
    { (bare editor (.scope scopeType) content isReversed).withWhitespace with
      delimiter := some scopeType.delimiter }

def surroundingPair (editor : Editor) (content interior : Range) (boundary : Range × Range)
    (isReversed : Bool) : Target :=
  { (bare editor .surroundingPair content isReversed).withWhitespace with
    delimiter := some " "
    interior := some interior
    boundary := some boundary }

def interiorOf (editor : Editor) (content : Range) (isReversed : Bool) : Target :=
  { bare editor .interior content isReversed with delimiter := some " " }

def delimited (editor : Editor) (kind : TargetKind) (content : Range)
    (leading trailing : Option Range) (delimiter : String) (isReversed : Bool) : Target :=
  { bare editor kind content isReversed with
    delimiter := some delimiter
    leading := leading
    trailing := trailing
    removal := elementRemoval content leading trailing }

def insertionPoint (t : Target) (side : InsertionSide) : Target :=
  let position :=
    match side with
    | .before => t.content.start
    | .after => t.content.stop
  { (bare t.editor (.insertionPoint side) (.point position) false).withFlags
      { explicitRange := true, line := t.flags.line } with
    delimiter := t.delimiter }

def selection (t : Target) : Selection := .ofRange t.content t.isReversed

def text (t : Target) : List Char := t.document.textIn t.content

def sameEditor (s t : Target) : Bool := s.editor.id == t.editor.id

/-- Targets are equal if they agree in all but what they were inferred from. -/
instance : BEq Target where
  beq s t :=
    s.sameEditor t && s.kind == t.kind && s.content == t.content && s.isReversed == t.isReversed
      && s.flags == t.flags && s.delimiter == t.delimiter && s.removal == t.removal
      && s.leading == t.leading && s.trailing == t.trailing && s.interior == t.interior
      && s.boundary == t.boundary

end Target

def runsBackward (anchor active : Range) : Bool :=
  if anchor.start = active.start then active.stop < anchor.stop else active.start < anchor.start

end Referent
