import Referent.Resolve.Containing
import Referent.Scope.Iteration

namespace Referent.Target

open ScopeFinder (ofTarget)

def innermostDomain (r : Range) (scopes : List Scope) : Option Range :=
  match (scopes.map Scope.domain).filter fun s => s.containsRange r with
  | [] => none
  | d :: rest => some (rest.foldl (fun outer d => if outer.containsRange d then d else outer) d)

/-- The scopes that overlap the target. Of nested ones it is the innermost one around the target and
the outermost ones inside it. -/
def scopesIntersecting (cx : Context) (f : ScopeFinder) (t : Target) :
    Except TargetError (List Scope) := do
  let overlapping ← f.scopesOverlapping cx t.editor t.content
  if !f.isHierarchical then return overlapping
  match innermostDomain t.content overlapping with
  | none => return Scope.topLevel overlapping
  | some inner =>
    return Scope.topLevel (overlapping.filter fun s =>
      s.domain == inner || !s.domain.containsRange inner)

def scopesInside (overlapping : List Scope) (r : Range) : List Scope :=
  Scope.topLevel (overlapping.filter fun s => !s.domain.strictlyContainsRange r)

def isOnlyContainer (r : Range) : List Scope → Bool
  | [s] => s.domain.containsRange r
  | _ => false

def siblingScopes (cx : Context) (f : ScopeFinder) (t : Target) : Except TargetError (List Scope) := do
  let iterations ← f.iterations cx t.editor t.content
  let counted := iterations.map fun i => i.scopes.filter f.countsInEvery
  match counted.find? fun l => !l.isEmpty with
  | some scopes => return scopes
  | none => throw (.noContainingScope f.scopeType.display)

def everyScopeOf (cx : Context) (s : ScopeType) (t : Target) : Except TargetError (List Scope) := do
  let f ← ofTarget s t
  if t.flags.explicitRange then
    let overlapping ← f.scopesOverlapping cx t.editor t.content
    let inside := (scopesInside overlapping t.content).filter f.countsInEvery
    if isOnlyContainer t.content overlapping || inside.isEmpty then t.siblingScopes cx f
    else return inside
  else t.siblingScopes cx f

def everyScope (cx : Context) (s : ScopeType) (t : Target) : Except TargetError (List Target) :=
  (t.everyScopeOf cx s).map fun scopes => scopes.map fun s => s.oriented t.isReversed

def pick (scopes : List Scope) (isEvery isReversed : Bool) : List Target :=
  if isEvery then scopes.map fun s => s.oriented isReversed
  else
    match scopes with
    | [] => []
    | [s] => [s.oriented isReversed]
    | first :: second :: rest => [ofScopes first ((second :: rest).getLastD second) isReversed]

def sliceFrom? {α : Type} (l : List α) (start : Int) (length : Nat) : Option (List α) :=
  let first := if start < 0 then l.length + start else start
  if 0 ≤ first ∧ 0 < length ∧ first + length ≤ l.length then some ((l.drop first.toNat).take length)
  else none

def ordinalScope (cx : Context) (s : ScopeType) (start : Int) (length : Nat) (isEvery : Bool)
    (t : Target) : Except TargetError (List Target) := do
  let scopes ← t.everyScopeOf cx s
  match sliceFrom? scopes start length with
  | some picked => return pick picked isEvery t.isReversed
  | none => throw (.outOfRange s.display)

def scopeAtCursor (cx : Context) (f : ScopeFinder) (direction : Direction) (t : Target) :
    Except TargetError (List Scope) := do
  match (← f.walk cx t.editor t.content.start direction (some .required)).head? with
  | some s => return [s]
  | none =>
    let other ← f.walk cx t.editor t.content.start direction.opposite (some .required)
    return other.head?.toList

def extend (cx : Context) (f : ScopeFinder) (missing : Nat) (direction : Direction) (t : Target)
    (first : Scope) (rest : List Scope) : Except TargetError (List Scope) := do
  let edge :=
    match direction with
    | .forward => (rest.getLastD first).domain.stop
    | .backward => first.domain.start
  let further ← f.walk cx t.editor edge direction (some .disallowedIfStrict)
  if further.length < missing then throw (.outOfRange f.scopeType.display)
  match direction with
  | .forward => return first :: rest ++ further.take missing
  | .backward => return (further.take missing).reverse ++ first :: rest

/-- `length` scopes, of which the first ones are those that the target touches. -/
def scopesFromTarget (cx : Context) (f : ScopeFinder) (length : Nat) (direction : Direction)
    (t : Target) : Except TargetError (List Scope) := do
  let found ←
    if t.content.isEmpty then t.scopeAtCursor cx f direction else t.scopesIntersecting cx f
  match found with
  | [] => throw (.noContainingScope f.scopeType.display)
  | first :: rest =>
    if length < found.length then throw (.tooFewScopes f.scopeType.display length found.length)
    else if found.length < length then
      t.extend cx f (length - found.length) direction first rest
    else return found

def scopesBeyondTarget (cx : Context) (f : ScopeFinder) (offset length : Nat) (direction : Direction)
    (t : Target) : Except TargetError (List Scope) := do
  let edge :=
    match direction with
    | .forward => t.content.stop
    | .backward => t.content.start
  let containment := if t.content.isEmpty then Containment.disallowed else .disallowedIfStrict
  let scopes := ((← f.walk cx t.editor edge direction (some containment)).drop (offset - 1)).take length
  if scopes.length < length || scopes.isEmpty then throw (.outOfRange f.scopeType.display)
  match direction with
  | .forward => return scopes
  | .backward => return scopes.reverse

def relativeScope (cx : Context) (s : ScopeType) (offset length : Nat) (direction : Direction)
    (isEvery : Bool) (t : Target) : Except TargetError (List Target) := do
  let f ← ofTarget s t
  let scopes ←
    if offset = 0 then t.scopesFromTarget cx f length direction
    else t.scopesBeyondTarget cx f offset length direction
  return pick scopes isEvery t.isReversed

end Referent.Target
