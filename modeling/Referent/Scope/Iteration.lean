import Referent.Scope.Finder

namespace Referent.ScopeFinder

def sortDomains (domains : List Range) : List Range :=
  domains.mergeSort fun a b => (a.compareSize b).isLE

def nodeDomains (matcher : Matcher) (t : SyntaxTree) (r : Range) : List Range :=
  let id := t.nodeAt r
  let found := (t.ancestors id).findSome? fun a =>
    (matcher.find t a).filter fun m => (t.range m.node).containsRange r
  let start :=
    match found with
    | some m => t.parent m.node
    | none => some id
  ((start.toList.flatMap t.ancestors).filter t.isNamed).map t.range

mutual

def domains (cx : Context) (e : Editor) (r : Range) : ScopeFinder → Except TargetError (List Range)
  | items => (Collection.around cx e.document r).map fun c => [c.range]
  | wholeDocument => .ok [e.document.range]
  | nodes _ language matcher => do
    let t ← treeOf cx e language
    return (nodeDomains matcher t r ++ [e.document.range]).eraseReps
  | oneOf _ finders => do
    let found ← domainsOfAny cx e r finders
    return (sortDomains (found ++ [e.document.range])).eraseReps
  | f => do
    let around ← (f.siblingFinder e.document.language).scopesAt cx e r.start
    let found := (around.map Scope.domain).filter fun s => s.containsRange r
    return (sortDomains found ++ [e.document.range]).eraseReps

def domainsOfAny (cx : Context) (e : Editor) (r : Range) :
    List ScopeFinder → Except TargetError (List Range)
  | [] => .ok []
  | f :: rest => do
    let found ← unlessMissing [] (domains cx e r f)
    return found ++ (← domainsOfAny cx e r rest)

end

def siblings (f : ScopeFinder) (cx : Context) (e : Editor) (r domain : Range) :
    Except TargetError (List Scope) :=
  match f with
  | items => (Collection.around cx e.document r).map (Scope.itemsOf e)
  | wholeDocument => .ok (Scope.wholeDocument e)
  | _ => f.scopesWithin cx e domain

def iterations (f : ScopeFinder) (cx : Context) (e : Editor) (r : Range) :
    Except TargetError (List Iteration) := do
  let domains ← f.domains cx e r
  domains.mapM fun domain => (f.siblings cx e r domain).map (Iteration.mk domain)

end Referent.ScopeFinder
