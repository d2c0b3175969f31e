import Referent.Resolve.Mark
import Referent.Resolve.Modifier

/-! The targets that a descriptor stands for. Any failure is one of the whole descriptor. -/

namespace Referent

open Resolving

structure ResolveOptions where
  prePosition : List Modifier := []
  final : List Modifier := []
  infersToken : Bool := true
deriving Inhabited

namespace PrimitiveDescriptor

/-- Divides modifiers into the position that comes outermost, if there is one, and the others. -/
def splitPosition : List Modifier → List Modifier × List Modifier
  | .position kind :: rest => ([.position kind], rest)
  | modifiers => ([], modifiers)

def runInOrder (cx : Context) (modifiers : List Modifier) (targets : List Target) :
    Resolving (List Target) :=
  modifiers.foldlM (fun targets m => forEach (m.run cx) targets) targets

def resolve (cx : Context) (options : ResolveOptions) (p : PrimitiveDescriptor) :
    Resolving (List Target) := do
  let marked ← p.mark.targets cx
  let (position, inner) := splitPosition p.modifiers
  let refined ← Modifier.runAll cx inner marked
  let placed ← runInOrder cx (options.prePosition ++ position ++ options.final) refined
  if options.infersToken then forEach (fun t => return [← t.expandCursor cx]) placed
  else return placed

end PrimitiveDescriptor

namespace Target

def onLine (anchor : Target) (line : Nat) : Target :=
  let d := anchor.document
  .plain anchor.editor
    (.between (d.clamp ⟨line, anchor.content.start.character⟩)
      (d.clamp ⟨line, anchor.content.stop.character⟩)) anchor.isReversed

def verticalFrom (anchor : Target) (last : Nat) (excludeAnchor excludeActive : Bool) :
    List Nat → List Target
  | [] => []
  | line :: rest =>
    let first := anchor.content.start.line
    let further := verticalFrom anchor last excludeAnchor excludeActive rest
    if excludeAnchor && line == first then further
    else if excludeActive && line == last then []
    else if line = first then anchor :: further
    else anchor.onLine line :: further

def vertical (anchor active : Target) (excludeAnchor excludeActive : Bool) : List Target :=
  let first := anchor.content.start.line
  let last := active.content.start.line
  let lines := List.range' (min first last) (max first last + 1 - min first last)
  anchor.verticalFrom last excludeAnchor excludeActive
    (if runsBackward anchor.content active.content then lines.reverse else lines)

end Target

namespace RangeDescriptor

def between (r : RangeDescriptor) (anchor active : Target) : Except TargetError (List Target) :=
  if !anchor.sameEditor active || anchor.document.id != active.document.id then
    .error (.crossDocumentRange anchor.document.id active.document.id)
  else
    match r.rangeType with
    | .continuous => .ok [anchor.rangeBetween active r.excludeAnchor r.excludeActive]
    | .vertical => .ok (anchor.vertical active r.excludeAnchor r.excludeActive)

def resolve (cx : Context) (options : ResolveOptions) (r : RangeDescriptor) :
    Resolving (List Target) := do
  let anchors ← r.anchor.resolve cx options
  let actives ← r.active.resolve cx options
  if anchors.length ≠ actives.length then
    throw (.rangeLengthMismatch anchors.length actives.length)
  let found ← (anchors.zip actives).mapM fun p => r.between p.1 p.2
  return found.flatten

end RangeDescriptor

namespace TargetDescriptor

def addNew (found : List Target) (t : Target) : List Target :=
  if found.contains t then found else found ++ [t]

mutual

def resolve (cx : Context) (options : ResolveOptions) : TargetDescriptor → Resolving (List Target)
  | primitive p => p.resolve cx options
  | range r => r.resolve cx options
  | list elements => resolveElements cx options [] elements

def resolveElements (cx : Context) (options : ResolveOptions) (found : List Target) :
    List TargetDescriptor → Resolving (List Target)
  | [] => return found
  | d :: rest => do
    let targets ← resolve cx options d
    resolveElements cx options (targets.foldl addNew found) rest

end

def resolveAll (cx : Context) (options : ResolveOptions) (descriptors : List TargetDescriptor) :
    Resolving (List (List Target)) :=
  descriptors.mapM (resolve cx options)

end TargetDescriptor

end Referent
