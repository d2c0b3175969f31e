import Referent.Scope.Containing
import Referent.Scope.Walk

namespace Referent

namespace ScopeFinder

def ofTarget (s : ScopeType) (t : Target) : Except TargetError ScopeFinder :=
  ofScopeType t.document.language s

end ScopeFinder

namespace Target

open ScopeFinder (ofTarget)

def containingScope (cx : Context) (s : ScopeType) (t : Target) : Except TargetError (List Target) :=
  do
    let f ← ofTarget s t
    match ← f.containing cx t.editor t.content t.isReversed with
    | some found => return [found]
    | none => throw (.noContainingScope s.display)

def previousScope (cx : Context) (f : ScopeFinder) (t : Target) :
    Except TargetError (Option (Nat × Scope)) := do
  let scopes ← f.walk cx t.editor t.content.start .backward none
  return scopes.head?.map fun s =>
    (t.document.offsetAt t.content.start - t.document.offsetAt s.domain.stop, s)

def nextScope (cx : Context) (f : ScopeFinder) (t : Target) :
    Except TargetError (Option (Nat × Scope)) := do
  let scopes ← f.walk cx t.editor t.content.stop .forward none
  return scopes.head?.map fun s =>
    (t.document.offsetAt s.domain.start - t.document.offsetAt t.content.stop, s)

/-- The closer one of two scopes, the second if they are equally close. -/
def closer : (previous next : Option (Nat × Scope)) → Option Scope
  | some p, some n => if p.1 < n.1 then some p.2 else some n.2
  | none, some n => some n.2
  | p, none => p.map Prod.snd

def nearestScope (cx : Context) (s : ScopeType) (t : Target) : Except TargetError (List Target) := do
  let f ← ofTarget s t
  let previous ← t.previousScope cx f
  let next ← t.nextScope cx f
  match closer previous next with
  | some found => return [found.oriented t.isReversed]
  | none => throw (.noContainingScope s.display)

def preferredScope (cx : Context) (s : ScopeType) (t : Target) : Except TargetError (List Target) :=
  match t.containingScope cx s with
  | .error (.noContainingScope _) => t.nearestScope cx s
  | found => found

def isAdjacent (d : Document) (before after : Range) : Bool :=
  before.stop ≤ after.start && after.start.line ≤ before.stop.line + 1
    && isBlank (d.textIn (.between before.stop after.start))

def runEnd (d : Document) (direction : Direction) (current : Scope) : List Scope → Scope
  | [] => current
  | s :: rest =>
    let isNext :=
      match direction with
      | .forward => isAdjacent d current.domain s.domain
      | .backward => isAdjacent d s.domain current.domain
    if isNext then runEnd d direction s rest else current

def distalScope (cx : Context) (f : ScopeFinder) (t : Target) (p : Position) (direction : Direction) :
    Except TargetError (Option Scope) := do
  let touching ← f.scopesAt cx t.editor p
  match f.preferred cx direction.opposite touching with
  | none => return none
  | some s =>
    let edge :=
      match direction with
      | .forward => s.domain.stop
      | .backward => s.domain.start
    let further ← f.walk cx t.editor edge direction none
    return some (runEnd t.document direction s further)

def ofScopes (first last : Scope) (isReversed : Bool) : Target :=
  if first == last then first.oriented isReversed
  else (first.oriented false).continuous (last.oriented false) true true isReversed

def contiguousScope (cx : Context) (s : ScopeType) (t : Target) : Except TargetError (List Target) :=
  do
    let f ← ofTarget s t
    let first ← t.distalScope cx f t.content.start .backward
    let last ← t.distalScope cx f t.content.stop .forward
    match first, last with
    | some first, some last => return [ofScopes first last t.isReversed]
    | _, _ => throw (.noContainingScope s.display)

def isBareCursor (t : Target) : Bool :=
  t.kind == .untyped && !t.flags.explicitScopeType && t.content.isEmpty

def inferredToken (cx : Context) (t : Target) : Except TargetError (Option Target) :=
  if t.isBareCursor then (ScopeFinder.tokens false).containing cx t.editor t.content t.isReversed
  else .ok none

end Target

end Referent
