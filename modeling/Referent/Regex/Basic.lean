import Referent.Unicode.Named
import Referent.Unicode.CaseFold

/-! Regular expressions, and the matches they have in a text. -/

namespace Referent

inductive Anchor where
  | textStart | textEnd
  | lineStart (crlf : Bool) | lineEnd (crlf : Bool)
  | wordBoundary (ascii : Bool) | notWordBoundary (ascii : Bool)
  | wordStart (ascii : Bool) | wordEnd (ascii : Bool)
  | wordStartHalf (ascii : Bool) | wordEndHalf (ascii : Bool)
deriving Repr, DecidableEq

/-- Of the two branches of `alt`, the first is preferred; a greedy loop prefers to go on. -/
inductive Regex where
  | empty
  | chars (set : Unicode.CharSet)
  | anchor (a : Anchor)
  | concat (r s : Regex)
  | alt (r s : Regex)
  | plus (r : Regex) (greedy : Bool)
  | times (r : Regex) (count : Nat)
  | upTo (r : Regex) (count : Nat) (greedy : Bool)
deriving Repr, DecidableEq, Inhabited

structure Place where
  index : Nat
  prev : Option Char
  rest : List Char
deriving Repr, DecidableEq

namespace Place

def start (text : List Char) : Place := ⟨0, none, text⟩

def next? (p : Place) : Option Char := p.rest.head?

end Place

namespace Anchor

def asciiWordChars : Unicode.CharSet := ⟨#[(0x30, 0x39), (0x41, 0x5A), (0x5F, 0x5F), (0x61, 0x7A)]⟩

def isWord (ascii : Bool) (c : Option Char) : Bool :=
  c.any fun c => if ascii then asciiWordChars.contains c else Unicode.wordChars.contains c

def holds (a : Anchor) (p : Place) : Bool :=
  match a with
  | textStart => p.prev.isNone
  | textEnd => p.rest.isEmpty
  | lineStart false => p.prev.isNone || p.prev == some '\n'
  | lineEnd false => p.rest.isEmpty || p.next? == some '\n'
  | lineStart true =>
    p.prev.isNone || p.prev == some '\n' || (p.prev == some '\r' && p.next? != some '\n')
  | lineEnd true =>
    p.rest.isEmpty || p.next? == some '\r' || (p.next? == some '\n' && p.prev != some '\r')
  | wordBoundary ascii => isWord ascii p.prev != isWord ascii p.next?
  | notWordBoundary ascii => isWord ascii p.prev == isWord ascii p.next?
  | wordStart ascii => !isWord ascii p.prev && isWord ascii p.next?
  | wordEnd ascii => isWord ascii p.prev && !isWord ascii p.next?
  | wordStartHalf ascii => !isWord ascii p.prev
  | wordEndHalf ascii => !isWord ascii p.next?

end Anchor

namespace Regex

/-- Places in order of preference, each once. `seen` has the bits of their indices set. -/
structure Ends where
  seen : Nat
  reversed : List Place

namespace Ends

def none : Ends := ⟨0, []⟩

def push (e : Ends) (p : Place) : Ends :=
  if e.seen.testBit p.index then e else ⟨e.seen ||| (1 <<< p.index), p :: e.reversed⟩

def pushAll (e : Ends) (ps : List Place) : Ends := ps.foldl push e

def toList (e : Ends) : List Place := e.reversed.reverse

end Ends

def reach (step : Place → List Place) (ps : List Place) : List Place :=
  match ps with
  | [] => []
  | [p] => step p
  | _ => (ps.foldl (fun e p => e.pushAll (step p)) Ends.none).toList

/-- The state of a loop: the places at which an iteration has begun, and those where the loop may
end. -/
structure Loop where
  entered : Nat
  ends : Ends

/-- Iterates from `p`. An iteration that consumes nothing is not followed by another, and one that
begins where an earlier one began adds nothing. -/
def iterate (step : Place → List Place) (greedy : Bool) : Nat → Loop → Place → Loop
  | 0, l, _ => l
  | fuel + 1, l, p =>
    if l.entered.testBit p.index then l
    else
      (step p).foldl
        (fun l q =>
          if p.index < q.index then
            if greedy then
              let l := iterate step greedy fuel l q
              { l with ends := l.ends.push q }
            else iterate step greedy fuel { l with ends := l.ends.push q } q
          else { l with ends := l.ends.push q })
        { l with entered := l.entered ||| (1 <<< p.index) }

def repeatReach (step : Place → List Place) : Nat → List Place → List Place
  | 0, ps => ps
  | n + 1, ps =>
    match ps with
    | [] => []
    | _ => repeatReach step n (reach step ps)

/-- Makes up to the given number of iterations from `p`. A place counts once for each number of
iterations that are left there. -/
def descend (step : Place → List Place) (greedy : Bool) (width : Nat) : Nat → Loop → Place → Loop
  | 0, l, p => { l with ends := l.ends.push p }
  | n + 1, l, p =>
    let key := p.index * width + n
    if l.entered.testBit key then l
    else
      let l := { l with entered := l.entered ||| (1 <<< key) }
      if greedy then
        let l := (step p).foldl (descend step greedy width n) l
        { l with ends := l.ends.push p }
      else (step p).foldl (descend step greedy width n) { l with ends := l.ends.push p }

def ends : Regex → Place → List Place
  | empty, p => [p]
  | chars set, p =>
    match p.rest with
    | [] => []
    | c :: rest => if set.contains c then [⟨p.index + 1, some c, rest⟩] else []
  | anchor a, p => if a.holds p then [p] else []
  | concat r s, p => reach (ends s) (ends r p)
  | alt r s, p => ((Ends.none.pushAll (ends r p)).pushAll (ends s p)).toList
  | plus r greedy, p => (iterate (ends r) greedy (p.rest.length + 1) ⟨0, .none⟩ p).ends.toList
  | times r count, p => repeatReach (ends r) count [p]
  | upTo r count greedy, p =>
    (descend (ends r) greedy count count ⟨0, .none⟩ p).ends.toList

section Equations

variable (r s : Regex) (p : Place) (greedy : Bool)

theorem ends_empty : empty.ends p = [p] := rfl

theorem ends_chars_nil (set : Unicode.CharSet) (index : Nat) (prev : Option Char) :
    (chars set).ends ⟨index, prev, []⟩ = [] := rfl

theorem ends_chars_cons (set : Unicode.CharSet) (index : Nat) (prev : Option Char) (c : Char)
    (rest : List Char) : (chars set).ends ⟨index, prev, c :: rest⟩ =
      if set.contains c then [⟨index + 1, some c, rest⟩] else [] := rfl

theorem ends_anchor (a : Anchor) : (anchor a).ends p = if a.holds p then [p] else [] := rfl

theorem ends_concat : (concat r s).ends p = reach s.ends (r.ends p) := rfl

theorem ends_alt : (alt r s).ends p = ((Ends.none.pushAll (r.ends p)).pushAll (s.ends p)).toList := rfl

theorem ends_plus : (plus r greedy).ends p =
    (iterate r.ends greedy (p.rest.length + 1) ⟨0, .none⟩ p).ends.toList := rfl

end Equations

def matchEnd? (r : Regex) (p : Place) : Option Nat := (r.ends p).head?.map Place.index

def matchLength? (r : Regex) (text : List Char) : Option Nat := r.matchEnd? (.start text)

def matchesAll (r : Regex) (text : List Char) : Bool :=
  (r.ends (.start text)).any fun p => p.rest.isEmpty

def spansFrom (r : Regex) (resume index : Nat) (prev : Option Char) : List Char → List (Nat × Nat)
  | [] => []
  | c :: rest =>
    if index < resume then spansFrom r resume (index + 1) (some c) rest
    else
      match r.matchEnd? ⟨index, prev, c :: rest⟩ with
      | none => spansFrom r resume (index + 1) (some c) rest
      | some stop =>
        if index < stop then (index, stop) :: spansFrom r stop (index + 1) (some c) rest
        else spansFrom r resume (index + 1) (some c) rest

def spans (r : Regex) (text : List Char) : List (Nat × Nat) := spansFrom r 0 0 none text

def optional (r : Regex) (greedy : Bool) : Regex := if greedy then alt r empty else alt empty r

def star (r : Regex) (greedy : Bool) : Regex := optional (plus r greedy) greedy

def literal (c : Char) : Regex := chars (.singleton c.toNat)

def ofText (text : List Char) : Regex := text.foldr (fun c r => concat (literal c) r) empty

def oneOf : List Regex → Regex
  | [] => chars .empty
  | [r] => r
  | r :: rest => alt r (oneOf rest)

def all : List Regex → Regex
  | [] => empty
  | [r] => r
  | r :: rest => concat r (all rest)

def atLeast (r : Regex) (count : Nat) (greedy : Bool) : Regex :=
  match count with
  | 0 => star r greedy
  | 1 => plus r greedy
  | n + 2 => concat (times r (n + 1)) (plus r greedy)

def between (r : Regex) (low high : Nat) (greedy : Bool) : Regex :=
  if low = high then times r low else concat (times r low) (upTo r (high - low) greedy)

/-- An estimate of the memory that the expression takes with its counted loops unrolled. -/
def weight : Regex → Nat
  | empty => 32
  | chars set =>
    32 + set.ranges.foldl (fun n r => n + if r.2 < 0x80 then 8 else 80) 0
  | anchor _ => 32
  | concat r s => r.weight + s.weight
  | alt r s => r.weight + s.weight + 64
  | plus r _ => r.weight + 64
  | times r count => r.weight * count
  | upTo r count _ => (r.weight + 64) * count

end Regex

end Referent
