import Referent.Descriptor.Basic
import Referent.Json

/-! The JSON form of descriptors. An object names its alternative with the field `type`. Fields that
have a default may be left out, and fields that mean nothing are ignored. -/

namespace Referent

inductive Content where
  | named (fields : List (String × Json))
  | listed (items : List Json)

namespace Content

def ofStructure? : Json → Option Content
  | .obj fields => some (.named fields)
  | .arr items => some (.listed items)
  | _ => none

/-- A tag with the fields or the items beside it. A tag that is given by its number is not read. -/
def ofTagged? : Json → Option (String × Content)
  | .obj fields =>
    match Json.field? "type" fields with
    | some (.str tag) => some (tag, .named (fields.filter fun f => f.1 != "type"))
    | _ => none
  | .arr (.str tag :: items) => some (tag, .listed items)
  | _ => none

def find (c : Content) (index : Nat) (names : List String) : Option (Option Json) :=
  match c with
  | listed items => some items[index]?
  | named fields =>
    match names.filterMap fun n => Json.field? n fields with
    | [] => some none
    | [v] => some (some v)
    | _ => none

def fits (c : Content) (count : Nat) : Bool :=
  match c with
  | listed items => items.length ≤ count
  | named _ => true

def required (c : Content) (index : Nat) (name : String) : Option Json :=
  (c.find index [name]).bind id

def flag (c : Content) (index : Nat) (name : String) : Option Bool :=
  match c.find index [name] with
  | some none => some false
  | some (some (.bool b)) => some b
  | _ => none

def optional {α : Type} (c : Content) (index : Nat) (name : String) (read : Json → Option α) :
    Option (Option α) :=
  match c.find index [name] with
  | some none => some none
  | some (some .null) => some none
  | some (some v) => (read v).map some
  | none => none

end Content

namespace Json

def text? : Json → Option String
  | str s => some s
  | _ => none

def natural? : Json → Option Nat
  | int n => if 0 ≤ n ∧ n < UInt64.size then some n.toNat else none
  | _ => none

def integer? : Json → Option Int
  | int n => if Int64.minValue.toInt ≤ n ∧ n ≤ Int64.maxValue.toInt then some n else none
  | _ => none

/-- A name, or an object with that name as its only field and nothing in it. A choice that is given by its
number, or with an empty object for its content, is not read. -/
def choice? {α : Type} (ofTag? : String → Option α) : Json → Option α
  | str s => ofTag? s
  | obj [(name, null)] => ofTag? name
  | _ => none

def ofTag (tag : String) (fields : List (String × Json)) : Json := obj (("type", str tag) :: fields)

end Json

open Json

namespace PairDirection

def tag : PairDirection → String
  | left => "left"
  | right => "right"

def ofTag? (tag : String) : Option PairDirection :=
  [left, right].find? fun d => d.tag = tag

end PairDirection

namespace LineNumberKind

def tag : LineNumberKind → String
  | absolute => "absolute"
  | relative => "relative"
  | modulo100 => "modulo100"

def ofTag? (tag : String) : Option LineNumberKind :=
  [absolute, relative, modulo100].find? fun k => k.tag = tag

end LineNumberKind

namespace DelimiterInclusion

def tag : DelimiterInclusion → String
  | interiorOnly => "interiorOnly"
  | excludeInterior => "excludeInterior"

def ofTag? (tag : String) : Option DelimiterInclusion :=
  [interiorOnly, excludeInterior].find? fun i => i.tag = tag

end DelimiterInclusion

namespace Direction

def tag : Direction → String
  | forward => "forward"
  | backward => "backward"

def ofTag? (tag : String) : Option Direction :=
  [forward, backward].find? fun d => d.tag = tag

end Direction

namespace PositionKind

def tag : PositionKind → String
  | before => "before"
  | after => "after"
  | start => "start"
  | stop => "end"

def ofTag? (tag : String) : Option PositionKind :=
  [before, after, start, stop].find? fun k => k.tag = tag

end PositionKind

namespace PieceType

def tag : PieceType → String
  | word => "word"
  | character => "character"

def ofTag? (tag : String) : Option PieceType :=
  [word, character].find? fun t => t.tag = tag

end PieceType

namespace RangeType

def tag : RangeType → String
  | continuous => "continuous"
  | vertical => "vertical"

def ofTag? (tag : String) : Option RangeType :=
  [continuous, vertical].find? fun t => t.tag = tag

end RangeType

/-! Scope types. -/

namespace ScopeType

def ofName? (tag : String) : Option ScopeType :=
  match SyntacticScope.ofTag? tag with
  | some s => some (syntactic s)
  | none => (TextScope.ofTag? tag).map textual

def readNested : Nat → Json → Option ScopeType
  | 0, _ => none
  | fuel + 1, j => do
    let (tag, c) ← Content.ofTagged? j
    match tag with
    | "surroundingPair" =>
      guard (c.fits 3)
      let delimiter ← (← c.required 0 "delimiter") |> choice? PairName.ofTag?
      let forceDirection ← c.optional 1 "forceDirection" (choice? PairDirection.ofTag?)
      let strong ← c.flag 2 "requireStrongContainment"
      return surroundingPair delimiter forceDirection strong
    | "customRegex" =>
      guard (c.fits 1)
      return customRegex (← text? (← c.required 0 "regex"))
    | "oneOf" =>
      guard (c.fits 1)
      match ← c.required 0 "scopeTypes" with
      | .arr items => return oneOf (← items.mapM (readNested fuel))
      | _ => none
    | _ =>
      guard (c.fits 0)
      ofName? tag

def ofJson? (j : Json) : Option ScopeType := readNested j.depth j

def optionalField {α : Type} (name : String) (tag : α → String) : Option α → List (String × Json)
  | none => []
  | some a => [(name, str (tag a))]

mutual

def toJson : ScopeType → Json
  | surroundingPair delimiter forceDirection strong =>
    ofTag "surroundingPair"
      ([("delimiter", str delimiter.tag)]
        ++ optionalField "forceDirection" PairDirection.tag forceDirection
        ++ [("requireStrongContainment", bool strong)])
  | customRegex regex => ofTag "customRegex" [("regex", str regex)]
  | oneOf scopeTypes => ofTag "oneOf" [("scopeTypes", arr (toJsonList scopeTypes))]
  | syntactic s => ofTag s.tag []
  | textual s => ofTag s.tag []

def toJsonList : List ScopeType → List Json
  | [] => []
  | s :: rest => toJson s :: toJsonList rest

end

end ScopeType

/-! Marks. -/

def LineNumber.ofJson? (j : Json) : Option LineNumber := do
  let c ← Content.ofStructure? j
  guard (c.fits 2)
  let kind ← (← c.required 0 "type") |> choice? LineNumberKind.ofTag?
  let number ← integer? (← c.required 1 "lineNumber")
  return ⟨kind, number⟩

def LineNumber.toJson (n : LineNumber) : Json := ofTag n.kind.tag [("lineNumber", int n.number)]

namespace Mark

def ofJson? (j : Json) : Option Mark := do
  let (tag, c) ← Content.ofTagged? j
  match tag with
  | "decoratedSymbol" =>
    guard (c.fits 2)
    let symbolColor ← text? (← (← c.find 0 ["symbolColor", "hatStyle"]))
    let character ← text? (← c.required 1 "character")
    return decoratedSymbol symbolColor character
  | "lineNumber" =>
    guard (c.fits 2)
    let anchor ← LineNumber.ofJson? (← c.required 0 "anchor")
    let active ← LineNumber.ofJson? (← c.required 1 "active")
    return lineNumber anchor active
  | _ =>
    guard (c.fits 0)
    match tag with
    | "cursor" => return cursor
    | "cursorToken" => return cursorToken
    | "that" => return that
    | "source" => return source
    | "nothing" => return nothing
    | _ => none

def toJson : Mark → Json
  | cursor => ofTag "cursor" []
  | cursorToken => ofTag "cursorToken" []
  | decoratedSymbol symbolColor character =>
    ofTag "decoratedSymbol" [("symbolColor", str symbolColor), ("character", str character)]
  | that => ofTag "that" []
  | source => ofTag "source" []
  | lineNumber anchor active =>
    ofTag "lineNumber" [("anchor", anchor.toJson), ("active", active.toJson)]
  | nothing => ofTag "nothing" []

end Mark

/-! Modifiers. -/

namespace Modifier

def scopeField (c : Content) : Option ScopeType := do ScopeType.ofJson? (← c.required 0 "scopeType")

def listField {α : Type} (read : Json → Option α) (c : Content) (index : Nat) (name : String) :
    Option (List α) :=
  match c.find index [name] with
  | some none => some []
  | some (some (.arr items)) => items.mapM read
  | _ => none

def readNested : Nat → Json → Option Modifier
  | 0, _ => none
  | fuel + 1, j => do
    let (tag, c) ← Content.ofTagged? j
    match tag with
    | "position" =>
      guard (c.fits 1)
      return position (← (← c.required 0 "position") |> choice? PositionKind.ofTag?)
    | "containingScope" =>
      guard (c.fits 1)
      return containingScope (← scopeField c)
    | "everyScope" =>
      guard (c.fits 1)
      return everyScope (← scopeField c)
    | "preferredScope" =>
      guard (c.fits 1)
      return preferredScope (← scopeField c)
    | "contiguousScope" =>
      guard (c.fits 1)
      return contiguousScope (← scopeField c)
    | "ordinalScope" =>
      guard (c.fits 4)
      let scopeType ← scopeField c
      let start ← integer? (← c.required 1 "start")
      let length ← natural? (← c.required 2 "length")
      return ordinalScope scopeType start length (← c.flag 3 "isEvery")
    | "relativeScope" =>
      guard (c.fits 5)
      let scopeType ← scopeField c
      let offset ← natural? (← c.required 1 "offset")
      let length ← natural? (← c.required 2 "length")
      let direction ← (← c.required 3 "direction") |> choice? Direction.ofTag?
      return relativeScope scopeType offset length direction (← c.flag 4 "isEvery")
    | "surroundingPair" =>
      guard (c.fits 3)
      let delimiter ← (← c.required 0 "delimiter") |> choice? PairName.ofTag?
      let inclusion ← c.optional 1 "delimiterInclusion" (choice? DelimiterInclusion.ofTag?)
      let forceDirection ← c.optional 2 "forceDirection" (choice? PairDirection.ofTag?)
      return surroundingPair delimiter inclusion forceDirection
    | "extendThroughStartOf" =>
      guard (c.fits 1)
      return head (← listField (readNested fuel) c 0 "modifiers")
    | "head" =>
      guard (c.fits 1)
      return head (← listField (readNested fuel) c 0 "modifiers")
    | "extendThroughEndOf" =>
      guard (c.fits 1)
      return tail (← listField (readNested fuel) c 0 "modifiers")
    | "tail" =>
      guard (c.fits 1)
      return tail (← listField (readNested fuel) c 0 "modifiers")
    | "subpiece" =>
      guard (c.fits 5)
      let pieceType ← (← c.required 0 "pieceType") |> choice? PieceType.ofTag?
      let anchor ← integer? (← c.required 1 "anchor")
      let active ← integer? (← c.required 2 "active")
      let excludeAnchor ← c.flag 3 "excludeAnchor"
      let excludeActive ← c.flag 4 "excludeActive"
      return subpiece pieceType anchor active excludeAnchor excludeActive
    | "modifyIfUntyped" =>
      guard (c.fits 1)
      return modifyIfUntyped (← readNested fuel (← c.required 0 "modifier"))
    | "modifyIfWeak" =>
      guard (c.fits 1)
      return modifyIfWeak (← readNested fuel (← c.required 0 "modifier"))
    | "cascading" =>
      guard (c.fits 1)
      match ← c.required 0 "modifiers" with
      | .arr items => return cascading (← items.mapM (readNested fuel))
      | _ => none
    | "range" =>
      guard (c.fits 4)
      let anchor ← readNested fuel (← c.required 0 "anchor")
      let active ← readNested fuel (← c.required 1 "active")
      let excludeAnchor ← c.flag 2 "excludeAnchor"
      let excludeActive ← c.flag 3 "excludeActive"
      return range anchor active excludeAnchor excludeActive
    | _ =>
      guard (c.fits 0)
      match tag with
      | "interiorOnly" => return interiorOnly
      | "excludeInterior" => return excludeInterior
      | "leading" => return leading
      | "trailing" => return trailing
      | "toRawSelection" => return toRawSelection
      | "keepContentFilter" => return keepContentFilter
      | "keepEmptyFilter" => return keepEmptyFilter
      | "visible" => return visible
      | _ => none

def ofJson? (j : Json) : Option Modifier := readNested j.depth j

mutual

def toJson : Modifier → Json
  | position kind => ofTag "position" [("position", str kind.tag)]
  | containingScope s => ofTag "containingScope" [("scopeType", s.toJson)]
  | everyScope s => ofTag "everyScope" [("scopeType", s.toJson)]
  | preferredScope s => ofTag "preferredScope" [("scopeType", s.toJson)]
  | contiguousScope s => ofTag "contiguousScope" [("scopeType", s.toJson)]
  | ordinalScope s start length isEvery =>
    ofTag "ordinalScope"
      [("scopeType", s.toJson), ("start", int start), ("length", int length),
        ("isEvery", bool isEvery)]
  | relativeScope s offset length direction isEvery =>
    ofTag "relativeScope"
      [("scopeType", s.toJson), ("offset", int offset), ("length", int length),
        ("direction", str direction.tag), ("isEvery", bool isEvery)]
  | surroundingPair delimiter inclusion forceDirection =>
    ofTag "surroundingPair"
      ([("delimiter", str delimiter.tag)]
        ++ ScopeType.optionalField "delimiterInclusion" DelimiterInclusion.tag inclusion
        ++ ScopeType.optionalField "forceDirection" PairDirection.tag forceDirection)
  | interiorOnly => ofTag "interiorOnly" []
  | excludeInterior => ofTag "excludeInterior" []
  | leading => ofTag "leading" []
  | trailing => ofTag "trailing" []
  | head modifiers => ofTag "extendThroughStartOf" [("modifiers", arr (toJsonList modifiers))]
  | tail modifiers => ofTag "extendThroughEndOf" [("modifiers", arr (toJsonList modifiers))]
  | subpiece pieceType anchor active excludeAnchor excludeActive =>
    ofTag "subpiece"
      [("pieceType", str pieceType.tag), ("anchor", int anchor), ("active", int active),
        ("excludeAnchor", bool excludeAnchor), ("excludeActive", bool excludeActive)]
  | toRawSelection => ofTag "toRawSelection" []
  | modifyIfUntyped modifier => ofTag "modifyIfUntyped" [("modifier", toJson modifier)]
  | modifyIfWeak modifier => ofTag "modifyIfWeak" [("modifier", toJson modifier)]
  | cascading modifiers => ofTag "cascading" [("modifiers", arr (toJsonList modifiers))]
  | range anchor active excludeAnchor excludeActive =>
    ofTag "range"
      [("anchor", toJson anchor), ("active", toJson active),
        ("excludeAnchor", bool excludeAnchor), ("excludeActive", bool excludeActive)]
  | keepContentFilter => ofTag "keepContentFilter" []
  | keepEmptyFilter => ofTag "keepEmptyFilter" []
  | visible => ofTag "visible" []

def toJsonList : List Modifier → List Json
  | [] => []
  | m :: rest => toJson m :: toJsonList rest

end

end Modifier

/-! Targets. -/

namespace PrimitiveDescriptor

def ofContent? (c : Content) : Option PrimitiveDescriptor := do
  guard (c.fits 2)
  let mark ←
    match ← c.find 0 ["mark"] with
    | none => pure Mark.cursor
    | some j => Mark.ofJson? j
  return ⟨mark, ← Modifier.listField Modifier.ofJson? c 1 "modifiers"⟩

def ofJson? (j : Json) : Option PrimitiveDescriptor := (Content.ofStructure? j).bind ofContent?

def fields (d : PrimitiveDescriptor) : List (String × Json) :=
  [("mark", d.mark.toJson), ("modifiers", arr (Modifier.toJsonList d.modifiers))]

end PrimitiveDescriptor

def RangeDescriptor.ofContent? (c : Content) : Option RangeDescriptor := do
  guard (c.fits 5)
  let anchor ← PrimitiveDescriptor.ofJson? (← c.required 0 "anchor")
  let active ← PrimitiveDescriptor.ofJson? (← c.required 1 "active")
  let excludeAnchor ← c.flag 2 "excludeAnchor"
  let excludeActive ← c.flag 3 "excludeActive"
  let rangeType ←
    match ← c.find 4 ["rangeType"] with
    | none => pure RangeType.continuous
    | some j => choice? RangeType.ofTag? j
  return ⟨anchor, active, excludeAnchor, excludeActive, rangeType⟩

namespace TargetDescriptor

def readNested : Nat → Json → Option TargetDescriptor
  | 0, _ => none
  | fuel + 1, j => do
    let (tag, c) ← Content.ofTagged? j
    match tag with
    | "primitive" => return primitive (← PrimitiveDescriptor.ofContent? c)
    | "range" => return range (← RangeDescriptor.ofContent? c)
    | "list" =>
      guard (c.fits 1)
      match ← c.required 0 "elements" with
      | .arr items => return list (← items.mapM (readNested fuel))
      | _ => none
    | _ => none

def ofJson? (j : Json) : Option TargetDescriptor := readNested j.depth j

mutual

def toJson : TargetDescriptor → Json
  | primitive d => ofTag "primitive" d.fields
  | range d =>
    ofTag "range"
      [("anchor", obj d.anchor.fields), ("active", obj d.active.fields),
        ("excludeAnchor", bool d.excludeAnchor), ("excludeActive", bool d.excludeActive),
        ("rangeType", str d.rangeType.tag)]
  | list elements => ofTag "list" [("elements", arr (toJsonList elements))]

def toJsonList : List TargetDescriptor → List Json
  | [] => []
  | d :: rest => toJson d :: toJsonList rest

end

end TargetDescriptor

end Referent
