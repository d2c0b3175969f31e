import Referent.Target.Basic

/-! One target from two.

Two targets of one kind give a target of that kind. Anything else gives a range of which nothing more
is known. An end that is excluded is cut off with all of its target, for line targets with the line
break. -/

namespace Referent.Target

def rangeStart (t : Target) (isIncluded : Bool) : Position :=
  if isIncluded then t.content.start
  else if t.flags.line && t.content.stop.line + 1 < t.document.lineCount then
    ⟨t.content.stop.line + 1, 0⟩
  else t.content.stop

def rangeStop (d : Document) (t : Target) (isIncluded : Bool) : Position :=
  if isIncluded then t.content.stop
  else if t.flags.line && 0 < t.content.start.line then d.previousLineEnd t.content.start.line
  else t.content.start

def continuousRange (start stop : Target) (includeStart includeStop : Bool) : Range :=
  .between (start.rangeStart includeStart) (stop.rangeStop start.document includeStop)

def joinElements (start stop : Target) (range : Range) (isReversed : Bool) : Target :=
  (delimited start.editor start.kind range start.leading stop.trailing (start.delimiter.getD "")
    isReversed).withRemoval ((start.removal.union stop.removal).union range)

def joinKind (start stop : Target) (range : Range) (isReversed : Bool) : Target :=
  let editor := start.editor
  match start.kind with
  | .untyped => untyped editor range isReversed true
  | .plain => plain editor range isReversed
  | .raw => raw editor range isReversed
  | .token => token editor range isReversed
  | .line => untyped editor range isReversed true
  | .paragraph =>
    paragraph editor (start.document.fullLines range.start.line range.stop.line) isReversed
  | .document => (wholeDocument editor).withReversed isReversed
  | .scope scopeType => scope editor scopeType range isReversed
  | .insertionPoint _ => untyped editor range isReversed true
  | .surroundingPair => joinElements start stop range isReversed
  | .interior => joinElements start stop range isReversed
  | .collectionItem => joinElements start stop range isReversed
  | .subTokenWord => joinElements start stop range isReversed

def continuous (start stop : Target) (includeStart includeStop isReversed : Bool) : Target :=
  let range := start.continuousRange stop includeStart includeStop
  if start.kind = .line ∧ stop.kind = .line then line start.editor range isReversed
  else if !(includeStart && includeStop) || start.kind != stop.kind then
    untyped start.editor range isReversed true
  else (joinKind start stop range isReversed).withFlags { explicitRange := true }

def rangeBetween (anchor active : Target) (excludeAnchor excludeActive : Bool) : Target :=
  if runsBackward anchor.content active.content then
    active.continuous anchor (!excludeActive) (!excludeAnchor) true
  else anchor.continuous active (!excludeAnchor) (!excludeActive) false

end Referent.Target
