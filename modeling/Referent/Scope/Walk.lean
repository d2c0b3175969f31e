import Referent.Scope.Finder

namespace Referent.ScopeFinder

def ahead (d : Document) (direction : Direction) (p : Position) : Range :=
  match direction with
  | .forward => .between p d.range.stop
  | .backward => .between d.range.start p

def isAhead (direction : Direction) (p : Position) (s : Scope) : Bool :=
  let isBeyond : Bool :=
    match direction with
    | .forward => p < s.domain.stop
    | .backward => s.domain.start < p
  isBeyond || (s.domain.isEmpty && s.domain.start == p)

def isAllowed (containment : Option Containment) (p : Position) (s : Scope) : Bool :=
  match containment with
  | none => true
  | some .required => s.domain.contains p
  | some .disallowed => !s.domain.contains p
  | some .disallowedIfStrict => !s.domain.strictlyContains p

/-- The order in which scopes are met. Of scopes that may lie in others, the outer ones are met
first. -/
def walkOrder (f : ScopeFinder) (direction : Direction) (a b : Range) : Ordering :=
  match direction, f.isHierarchical with
  | .forward, false => (compare a.stop b.stop).then (compare a.start b.start)
  | .forward, true => (compare a.start b.start).then (compare b.stop a.stop)
  | .backward, false => (compare b.start a.start).then (compare b.stop a.stop)
  | .backward, true => (compare b.stop a.stop).then (compare a.start b.start)

def dropInner (kept : List Range) : List Scope → List Scope
  | [] => []
  | s :: rest =>
    if kept.any fun k => k.containsRange s.domain then dropInner kept rest
    else s :: dropInner (kept ++ [s.domain]) rest

/-- The scopes from a position on, the nearest ones first. If they are to contain the position, they
come from the inner to the outer ones. -/
def walk (f : ScopeFinder) (cx : Context) (e : Editor) (p : Position) (direction : Direction)
    (containment : Option Containment) : Except TargetError (List Scope) := do
  let found ← f.candidates cx e (ahead e.document direction p)
  let scopes := found.filter fun s => isAhead direction p s && isAllowed containment p s
  if containment = some .required then
    return scopes.mergeSort fun a b => (a.domain.compareSize b.domain).isLE
  let sorted := scopes.mergeSort fun a b => (f.walkOrder direction a.domain b.domain).isLE
  return if f.isHierarchical then dropInner [] sorted else sorted

end Referent.ScopeFinder
