import Referent.Target.Basic

namespace Referent

structure Arena where
  targets : Array Target
deriving Inhabited

namespace Arena

def empty : Arena := ⟨#[]⟩

def size (a : Arena) : Nat := a.targets.size

def get? (a : Arena) (id : Nat) : Option Target := a.targets[id]?

def push (a : Arena) (t : Target) : Arena := ⟨a.targets.push t⟩

def source? (a : Arena) (t : Target) : Option Target := t.that.bind a.get?

def rootFrom (a : Arena) : Nat → Target → Option Target
  | 0, t => if (a.source? t).isSome then none else some t
  | fuel + 1, t =>
    match a.source? t with
    | none => some t
    | some s => rootFrom a fuel s

/-- What a target was first inferred from, itself if it was not. Numbers may go in a circle, and then
there is no such target. -/
def root? (a : Arena) (t : Target) : Option Target := a.rootFrom a.size t

end Arena

end Referent
