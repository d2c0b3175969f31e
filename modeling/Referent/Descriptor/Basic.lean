import Referent.Descriptor.ScopeType

/-! Descriptors: what a command says it acts on. A mark names where to start, modifiers refine it. -/

namespace Referent

inductive LineNumberKind where
  | absolute
  | relative
  /-- The visible line whose number ends in the given digits. -/
  | modulo100
deriving Repr, DecidableEq

structure LineNumber where
  kind : LineNumberKind
  number : Int
deriving Repr, DecidableEq

inductive Mark where
  | cursor
  | cursorToken
  | decoratedSymbol (symbolColor character : String)
  | that
  | source
  | lineNumber (anchor active : LineNumber)
  | nothing
deriving Repr, DecidableEq, Inhabited

inductive StoredKey where
  | that
  | source
  | occurrenceReference
deriving Repr, DecidableEq

def StoredKey.name : StoredKey → String
  | that => "that"
  | source => "source"
  | occurrenceReference => "instanceReference"

inductive DelimiterInclusion where
  | interiorOnly | excludeInterior
deriving Repr, DecidableEq

inductive Direction where
  | forward | backward
deriving Repr, DecidableEq

def Direction.opposite : Direction → Direction
  | forward => backward
  | backward => forward

inductive PositionKind where
  | before | after | start | stop
deriving Repr, DecidableEq

inductive PieceType where
  | word | character
deriving Repr, DecidableEq

inductive Modifier where
  | position (kind : PositionKind)
  | containingScope (scopeType : ScopeType)
  | everyScope (scopeType : ScopeType)
  | preferredScope (scopeType : ScopeType)
  | contiguousScope (scopeType : ScopeType)
  /-- A negative `start` counts from the end. -/
  | ordinalScope (scopeType : ScopeType) (start : Int) (length : Nat) (isEvery : Bool)
  | relativeScope (scopeType : ScopeType) (offset length : Nat) (direction : Direction)
    (isEvery : Bool)
  | surroundingPair (delimiter : PairName) (inclusion : Option DelimiterInclusion)
    (forceDirection : Option PairDirection)
  | interiorOnly
  | excludeInterior
  | leading
  | trailing
  | head (modifiers : List Modifier)
  | tail (modifiers : List Modifier)
  | subpiece (pieceType : PieceType) (anchor active : Int) (excludeAnchor excludeActive : Bool)
  | toRawSelection
  | modifyIfUntyped (modifier : Modifier)
  | modifyIfWeak (modifier : Modifier)
  | cascading (modifiers : List Modifier)
  | range (anchor active : Modifier) (excludeAnchor excludeActive : Bool)
  | keepContentFilter
  | keepEmptyFilter
  | visible
deriving Repr, Inhabited

inductive RangeType where
  | continuous
  | vertical
deriving Repr, DecidableEq

/-- The outermost modifier comes first. -/
structure PrimitiveDescriptor where
  mark : Mark
  modifiers : List Modifier
deriving Repr, Inhabited

structure RangeDescriptor where
  anchor : PrimitiveDescriptor
  active : PrimitiveDescriptor
  excludeAnchor : Bool
  excludeActive : Bool
  rangeType : RangeType
deriving Repr

inductive TargetDescriptor where
  | primitive (d : PrimitiveDescriptor)
  | range (d : RangeDescriptor)
  | list (elements : List TargetDescriptor)
deriving Repr, Inhabited

end Referent
