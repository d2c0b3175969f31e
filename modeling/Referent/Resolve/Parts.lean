import Referent.Resolve.Containing

namespace Referent.Target

def pieceIndex? (count : Nat) (index : Int) : Option Nat :=
  let i := if index < 0 then count + index else index
  if 0 ≤ i ∧ i < count then some i.toNat else none

/-- The token to be divided: what the target covers if it has a range of its own, else the token
around it. -/
def dividedRange (cx : Context) (t : Target) : Except TargetError Range :=
  if t.flags.explicitRange then .ok t.content
  else do
    match ← (ScopeFinder.tokens false).containing cx t.editor t.content false with
    | some token => return token.content
    | none => throw (.noContainingScope ScopeType.token.display)

def pieceScope : PieceType → ScopeType
  | .word => .word
  | .character => .character

def pieceSpans (pieceType : PieceType) (text : List Char) : List (Nat × Nat) :=
  match pieceType with
  | .word => wordSpans text
  | .character => Unicode.clusterSpans text

def ofPieces (pieceType : PieceType) (e : Editor) (r : Range) (pieces : List (Nat × Nat))
    (first last : Nat) (isReversed : Bool) : Target :=
  match pieceType with
  | .word => Scope.wordTarget e r pieces first last isReversed
  | .character =>
    .plain e (Scope.piece r (pieces.getD first (0, 0)).1 (pieces.getD last (0, 0)).2) isReversed

def subpiece (cx : Context) (pieceType : PieceType) (anchor active : Int)
    (excludeAnchor excludeActive : Bool) (t : Target) : Except TargetError (List Target) := do
  if excludeAnchor || excludeActive then throw .subtokenExclusionUnsupported
  let range ← t.dividedRange cx
  let outside := TargetError.outOfRange (pieceScope pieceType).display
  if !range.isSingleLine then throw outside
  let pieces := pieceSpans pieceType (t.document.textIn range)
  match pieceIndex? pieces.length anchor, pieceIndex? pieces.length active with
  | some a, some b => return [ofPieces pieceType t.editor range pieces (min a b) (max a b) (b < a)]
  | _, _ => throw outside

def enclosingPair (cx : Context) (delimiter : PairName) (inclusion : Option DelimiterInclusion)
    (direction : Option PairDirection) (t : Target) : Except TargetError (List Target) := do
  let search := { PairSearch.ofName delimiter t.document.language with direction := direction }
  match ← search.find cx t.document t.content with
  | none => throw (.noContainingScope (ScopeType.pair delimiter).display)
  | some p =>
    match inclusion with
    | none => return [p.target t.editor t.isReversed]
    | some .interiorOnly => return [.interiorOf t.editor p.interior t.isReversed]
    | some .excludeInterior =>
      return [.plain t.editor p.opening t.isReversed, .plain t.editor p.closing t.isReversed]

def asPair (cx : Context) (t : Target) : Except TargetError Target :=
  if t.interior.isSome || t.boundary.isSome then .ok t
  else do
    match ← (PairSearch.ofName .any t.document.language).strong.find cx t.document t.content with
    | some p => return p.target t.editor t.isReversed
    | none => throw (.noContainingScope (ScopeType.pair .any).display)

def interiorOnly (cx : Context) (t : Target) : Except TargetError (List Target) := do
  let pair ← t.asPair cx
  match pair.interior with
  | some r => return [.interiorOf pair.editor r pair.isReversed]
  | none => throw .noInterior

def boundaryOnly (cx : Context) (t : Target) : Except TargetError (List Target) := do
  let pair ← t.asPair cx
  match pair.boundary with
  | some (opening, closing) =>
    return [.plain pair.editor opening pair.isReversed, .plain pair.editor closing pair.isReversed]
  | none => throw .noBoundary

def delimiterTarget (t : Target) (delimiter : Option Range) (missing : TargetError) :
    Except TargetError (List Target) :=
  match delimiter with
  | some r => .ok [.plain t.editor r t.isReversed]
  | none => .error missing

/-- Before and after a target there are places to insert a further one, at its start and end there
are empty ranges. -/
def position (kind : PositionKind) (t : Target) : Target :=
  match kind with
  | .before => t.insertionPoint .before
  | .after => t.insertionPoint .after
  | .start => .plain t.editor (.point t.content.start) false
  | .stop => .plain t.editor (.point t.content.stop) false

def visibleRanges (t : Target) : List Target :=
  t.editor.visible.map fun r => .plain t.editor r t.isReversed

end Referent.Target
