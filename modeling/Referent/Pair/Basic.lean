import Referent.Context
import Referent.Error
import Referent.Maximum
import Referent.Pair.Occurrence
import Referent.Syntax.Language

/-! Pairs of delimiters around a selection.

In a string or comment of the syntax tree, the text of that is searched first. After that comes a node
around the selection whose first and last child are a pair. Without either, the text around the
selection is searched, in a window that grows until there is a pair in it. -/

namespace Referent

structure PairMatch where
  opening : Range
  closing : Range
deriving DecidableEq

namespace PairMatch

def content (p : PairMatch) : Range := .between p.opening.start p.closing.stop

def interior (p : PairMatch) : Range := .between p.opening.stop p.closing.start

def target (p : PairMatch) (editor : Editor) (isReversed : Bool) : Target :=
  .surroundingPair editor p.content p.interior (p.opening, p.closing) isReversed

end PairMatch

namespace ScanConfig

def first (scan : ScanConfig) : Nat := max scan.initialLength 1

def next (scan : ScanConfig) (length : Nat) : Except TargetError Nat :=
  (word (length * max scan.factor 2)).map fun product => min product scan.maxLength

end ScanConfig

structure PairSearch where
  delimiters : List Delimiter
  direction : Option PairDirection
  isStrong : Bool
deriving Repr

namespace PairSearch

open Occurrence (Span)

def ofName (name : PairName) (language : String) : PairSearch :=
  ⟨Delimiter.ofName name language, none, false⟩

def strong (s : PairSearch) : PairSearch := { s with isStrong := true }

def pairsIn (s : PairSearch) (text : List Char) (selection : Option Span) :
    List (Occurrence × Occurrence) :=
  let occurrences := Occurrence.ofText s.delimiters text
  match s.direction, selection with
  | some direction, some selection =>
    s.delimiters.flatMap (Occurrence.matchedToward direction selection occurrences)
  | _, _ => Occurrence.matched occurrences

def occurrenceRange (d : Document) (base : Nat) (o : Occurrence) : Range :=
  .between (d.positionAt (base + o.start)) (d.positionAt (base + o.stop))

def matchAt (d : Document) (base : Nat) (p : Occurrence × Occurrence) : PairMatch :=
  ⟨occurrenceRange d base p.1, occurrenceRange d base p.2⟩

def findAll (s : PairSearch) (d : Document) : List PairMatch :=
  ((s.pairsIn (d.textIn d.range) none).mergeSort fun p q => p.1.start ≤ q.1.start).map (matchAt d 0)

def encloses (s : PairSearch) (selection : Span) (p : Occurrence × Occurrence) : Bool :=
  if s.isStrong then p.1.stop ≤ selection.1 && selection.2 ≤ p.2.start
  else p.1.start ≤ selection.1 && selection.2 ≤ p.2.stop

def isInner (p q : Occurrence × Occurrence) : Bool :=
  p.1.start < q.1.start || (p.1.start == q.1.start && q.2.stop ≤ p.2.stop)

def findInWindow (s : PairSearch) (d : Document) (window r : Range) : Option PairMatch :=
  let base := d.offsetAt window.start
  let selection := (d.offsetAt r.start - base, d.offsetAt r.stop - base)
  (lastMax? isInner
    ((s.pairsIn (d.textIn window) (some selection)).filter (s.encloses selection))).map (matchAt d base)

/-- A pair that ends where the window cuts the text may have been cut off itself. -/
def isWhole (d : Document) (start stop : Nat) (p : PairMatch) : Bool :=
  !(0 < start && d.offsetAt p.opening.start == start)
    && !(stop < d.length && d.offsetAt p.closing.stop == stop)

def findBetween (s : PairSearch) (d : Document) (r : Range) (window : Span) : Option PairMatch :=
  (s.findInWindow d (.between (d.positionAt window.1) (d.positionAt window.2)) r).filter
    (isWhole d window.1 window.2)

def windowAround (d : Document) (r : Range) (length : Nat) : Except TargetError Span :=
  (word (d.offsetAt r.stop + length)).map fun stop => (d.offsetAt r.start - length, min stop d.length)

/-- Whether no larger window is looked in: there is a pair, the whole document has been searched, or
windows do not get larger. -/
def isLastWindow (s : PairSearch) (scan : ScanConfig) (d : Document) (r : Range) (length : Nat)
    (window : Span) : Bool :=
  (s.findBetween d r window).isSome || window == (0, d.length) || scan.maxLength ≤ length

def scanFrom (s : PairSearch) (scan : ScanConfig) (d : Document) (r : Range) :
    (rounds length : Nat) → Except TargetError (Option PairMatch)
  | 0, _ => .ok none
  | rounds + 1, length => do
    let window ← windowAround d r length
    if s.isLastWindow scan d r length window then .ok (s.findBetween d r window)
    else
      let next ← scan.next length
      scanFrom s scan d r rounds next

/-- Each window reaches farther than the one before, so there are no more rounds than characters. -/
def findInText (s : PairSearch) (scan : ScanConfig) (d : Document) (r : Range) :
    Except TargetError (Option PairMatch) :=
  s.scanFrom scan d r (d.length + 1) scan.first

def nodePair? (s : PairSearch) (t : SyntaxTree) (r : Range) (id : Nat) : Option PairMatch :=
  match t.children id with
  | first :: second :: rest =>
    let last := (second :: rest).getLastD second
    let p : PairMatch := ⟨t.range first, t.range last⟩
    let isPair := s.delimiters.any fun d =>
      d.opening == (t.kind first).toList && d.closing == (t.kind last).toList
    if isPair && (if s.isStrong then p.interior else p.content).containsRange r then some p
    else none
  | _ => none

def findInTree (s : PairSearch) (t : SyntaxTree) (id : Nat) (r : Range) : Option PairMatch :=
  (t.ancestors id).findSome? (s.nodePair? t r)

def findInFragment (s : PairSearch) (t : SyntaxTree) (id : Nat) (d : Document) (r : Range) :
    Option PairMatch :=
  match (Language.ofName d.language).textFragment? t id with
  | none => none
  | some fragment => if fragment.containsRange r then s.findInWindow d fragment r else none

def findInSyntax (s : PairSearch) (cx : Context) (d : Document) (r : Range) : Option PairMatch :=
  match cx.tree? d with
  | none => none
  | some t => (s.findInFragment t (t.nodeAt r) d r).orElse fun _ => s.findInTree t (t.nodeAt r) r

def find (s : PairSearch) (cx : Context) (d : Document) (r : Range) :
    Except TargetError (Option PairMatch) :=
  match s.findInSyntax cx d r with
  | some p => .ok (some p)
  | none => s.findInText cx.config.scan d r

end PairSearch

end Referent
