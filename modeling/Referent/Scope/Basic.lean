import Referent.Target.Basic

namespace Referent

structure Scope where
  domain : Range
  target : Target
deriving Inhabited

structure Iteration where
  domain : Range
  scopes : List Scope

inductive Containment where
  | required
  /-- Not even at their edge. -/
  | disallowed
  /-- Only at their edge. -/
  | disallowedIfStrict
deriving Repr, DecidableEq

namespace Scope

instance : BEq Scope := ⟨fun s t => s.domain == t.domain && s.target == t.target⟩

def ofTarget (t : Target) : Scope := ⟨t.content, t⟩

def oriented (s : Scope) (isReversed : Bool) : Target := s.target.withReversed isReversed

def document (s : Scope) : Document := s.target.document

/-- Whether a scope shares a character with a range, or is empty and strictly inside it. -/
def overlaps (s : Scope) (r : Range) : Bool :=
  s.domain.overlaps r || (s.domain.isEmpty && r.strictlyContains s.domain.start)

def topLevel (scopes : List Scope) : List Scope :=
  scopes.filter fun s =>
    !scopes.any fun o => o.domain != s.domain && o.domain.containsRange s.domain

/-- Sorts outer scopes before those inside them, and keeps one for each domain. -/
def nested (scopes : List Scope) : List Scope :=
  (scopes.mergeSort fun a b =>
    ((compare a.domain.start b.domain.start).then
      (compare b.domain.stop a.domain.stop)).isLE).eraseRepsBy fun a b => a.domain == b.domain

end Scope

end Referent
