import Referent.Resolve.Occurrences
import Referent.Resolve.Parts
import Referent.Resolve.Siblings
import Referent.Target.Arena

/-! What modifiers make of a target.

A modifier gives any number of targets for one. Where it infers them from a target that says less, it
keeps that one in an arena and links them to it. The arena outlives a failure. -/

namespace Referent

abbrev Resolving := ExceptT TargetError (StateM Arena)

namespace Resolving

def remember (t : Target) : Resolving Nat := do
  let a ← get
  set (a.push t)
  return a.size

def forEach (f : Target → Resolving (List Target)) : List Target → Resolving (List Target)
  | [] => return []
  | t :: rest => do
    let first ← f t
    return first ++ (← forEach f rest)

def inferredFrom (t : Target) (outcome : Resolving (List Target)) : Resolving (List Target) := do
  let found ← outcome
  let id ← remember t
  return found.map fun f => f.withThat id

end Resolving

open Resolving

namespace Target

def expandCursor (cx : Context) (t : Target) : Resolving Target := do
  match ← t.inferredToken cx with
  | some token => return token.withThat (← remember t)
  | none => return t

def resolveOccurrences (cx : Context) (query : OccurrenceQuery) (t : Target) :
    Resolving (List Target) := do
  let token ← t.expandCursor cx
  token.occurrences cx query

def single (targets : List Target) : Except TargetError Target :=
  match targets with
  | [t] => .ok t
  | _ => .error (.expectedSingleTarget targets.length)

end Target

namespace Modifier

mutual

def run (cx : Context) : Modifier → Target → Resolving (List Target)
  | position kind, t => return [t.position kind]
  | containingScope s, t => t.containingScope cx s
  | everyScope s, t => if s = .occurrence then t.resolveOccurrences cx .every else t.everyScope cx s
  | preferredScope s, t => t.preferredScope cx s
  | contiguousScope s, t => t.contiguousScope cx s
  | ordinalScope s start length isEvery, t =>
    if s = .occurrence then t.resolveOccurrences cx (.ordinal start length)
    else t.ordinalScope cx s start length isEvery
  | relativeScope s offset length direction isEvery, t =>
    if s = .occurrence then t.resolveOccurrences cx (.relative offset length direction)
    else t.relativeScope cx s offset length direction isEvery
  | surroundingPair delimiter inclusion direction, t => t.enclosingPair cx delimiter inclusion direction
  | interiorOnly, t => t.interiorOnly cx
  | excludeInterior, t => t.boundaryOnly cx
  | leading, t => t.delimiterTarget t.leading .noLeadingDelimiter
  | trailing, t => t.delimiterTarget t.trailing .noTrailingDelimiter
  | head modifiers, t => do
    let extents ← runExtent cx modifiers t
    return extents.map fun e => e.continuous t true true true
  | tail modifiers, t => do
    let extents ← runExtent cx modifiers t
    return extents.map fun e => t.continuous e true true false
  | subpiece pieceType anchor active excludeAnchor excludeActive, t =>
    t.subpiece cx pieceType anchor active excludeAnchor excludeActive
  | toRawSelection, t => return [.raw t.editor t.content t.isReversed]
  | modifyIfUntyped m, t =>
    if t.flags.explicitScopeType then return [t] else inferredFrom t (run cx m t)
  | modifyIfWeak m, t => if t.flags.weak then inferredFrom t (run cx m t) else return [t]
  | cascading modifiers, t => runFirst cx (.noContainingScope "cascading") modifiers t
  | range anchor active excludeAnchor excludeActive, t => do
    let a ← Target.single (← run cx anchor t)
    let b ← Target.single (← run cx active t)
    return [a.rangeBetween b excludeAnchor excludeActive]
  | keepContentFilter, t => return if isBlank t.text then [] else [t]
  | keepEmptyFilter, t => return if t.content.isEmpty then [t] else []
  | visible, t => return t.visibleRanges

def runAll (cx : Context) : List Modifier → List Target → Resolving (List Target)
  | [], targets => return targets
  | m :: rest, targets => do
    let inner ← runAll cx rest targets
    forEach (fun t => run cx m t) inner

def runExtent (cx : Context) : List Modifier → Target → Resolving (List Target)
  | [], t => t.containingScope cx .line
  | m :: rest, t => do
    let inner ← runAll cx rest [t]
    forEach (fun t => run cx m t) inner

/-- What the first modifier gives that finds something. If none does, fails as the last one did. -/
def runFirst (cx : Context) (failure : TargetError) :
    List Modifier → Target → Resolving (List Target)
  | [], _ => throw failure
  | m :: rest, t =>
    tryCatch (run cx m t) fun e =>
      if e.isRecoverable then runFirst cx e rest t else throw e

end

end Modifier

end Referent
