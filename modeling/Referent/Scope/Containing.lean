import Referent.Scope.Finder
import Referent.Target.Merge

namespace Referent

namespace Scope

def itemsTouching (e : Editor) (r : Range) (isReversed : Bool) (c : Collection) : Option Target :=
  let d := e.document
  let touched := (c.items d).filter fun i => i.domain.touches r
  let length (g : Range) := d.offsetAt g.stop - d.offsetAt g.start
  match touched with
  | [] => none
  | first :: rest =>
    let last := rest.getLastD first
    let merged : Item :=
      ⟨first.content.union last.content, first.domain.union last.domain, first.leading, last.trailing⟩
    let target := itemTarget e merged isReversed
    match merged.leading, merged.trailing with
    | some leading, some trailing =>
      if length trailing < length leading then
        some (target.withRemoval (merged.content.union leading))
      else some target
    | _, _ => some target

def itemsAround (cx : Context) (e : Editor) (r : Range) (isReversed : Bool) :
    Except TargetError (Option Target) :=
  (Collection.around cx e.document r).map (itemsTouching e r isReversed)

end Scope

namespace ScopeFinder

def spanning (f : ScopeFinder) (cx : Context) (e : Editor) (r : Range) (isReversed : Bool)
    (atStart : List Scope) : Except TargetError (Option Target) :=
  match f.preferred cx .forward atStart with
  | none => .ok none
  | some first =>
    (f.scopesAt cx e r.stop).map fun atStop =>
      (f.preferred cx .backward atStop).map fun last =>
        first.target.continuous last.target true true isReversed

def containingByDomain (f : ScopeFinder) (cx : Context) (e : Editor) (r : Range)
    (isReversed : Bool) : Except TargetError (Option Target) := do
  let atStart ← f.scopesAt cx e r.start
  if r.isEmpty then
    return (f.preferred cx .forward atStart).map fun s => s.oriented isReversed
  match f.preferred cx .forward (atStart.filter fun s => s.domain.containsRange r) with
  | some s => return some (s.oriented isReversed)
  | none => f.spanning cx e r isReversed atStart

def smaller (best : Option Target) : Option Target → Option Target
  | none => best
  | some target =>
    match best with
    | none => some target
    | some b => if b.content.strictlyContainsRange target.content then some target else some b

mutual

def containing (cx : Context) (e : Editor) (r : Range) (isReversed : Bool) :
    ScopeFinder → Except TargetError (Option Target)
  | pairs _ search =>
    (search.find cx e.document r).map fun found => found.map fun p => p.target e isReversed
  | items => Scope.itemsAround cx e r isReversed
  | oneOf _ finders => smallestContaining cx e r isReversed none finders
  | f => f.containingByDomain cx e r isReversed

def smallestContaining (cx : Context) (e : Editor) (r : Range) (isReversed : Bool)
    (best : Option Target) : List ScopeFinder → Except TargetError (Option Target)
  | [] => .ok best
  | f :: rest => do
    let found ← unlessMissing none (containing cx e r isReversed f)
    smallestContaining cx e r isReversed (smaller best found) rest

end

end ScopeFinder

end Referent
