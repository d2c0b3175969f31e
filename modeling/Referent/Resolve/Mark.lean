import Referent.Context
import Referent.Error
import Referent.Maximum

namespace Referent

structure TokenChoice where
  range : Range
  isIdentifier : Bool
  length : Nat

/-- Identifiers come after other tokens, long tokens after short ones, left ones after right ones. -/
def TokenChoice.le (a b : TokenChoice) : Bool :=
  if a.isIdentifier ≠ b.isIdentifier then b.isIdentifier
  else if a.length ≠ b.length then a.length < b.length
  else b.range.start ≤ a.range.start

namespace Mark

def tokenChoice (cx : Context) (d : Document) (token : Range) : TokenChoice :=
  ⟨token, cx.isIdentifier d (d.textIn token), d.offsetAt token.stop - d.offsetAt token.start⟩

def cursorTokenOf (cx : Context) (e : Editor) : Except TargetError Target :=
  match e.primarySelection with
  | none => .error .noTokenInSelection
  | some s =>
    let touching := (cx.tokens e.document s.range).filter fun t => t.touches s.range
    match lastMax? TokenChoice.le (touching.map (tokenChoice cx e.document)) with
    | none => .error .noTokenInSelection
    | some c => .ok (.token e c.range s.isReversed)

def visibleLines (e : Editor) : List Nat :=
  (List.range e.document.lineCount).filter fun l =>
    e.visible.any fun r => r.start.line ≤ l && l ≤ r.stop.line

def visibleLine (e : Editor) (row : Int) (modulo : Nat) : Except TargetError Nat :=
  if row < 0 ∨ modulo ≤ row then .error (.outOfRange "line")
  else
    match (visibleLines e).filter fun l => l % modulo = row.toNat with
    | [] => .error (.noVisibleLine row.toNat)
    | [l] => .ok l
    | _ => .error (.ambiguousVisibleLine row.toNat)

def documentLine (d : Document) (line : Int) : Except TargetError Nat :=
  if 0 ≤ line ∧ line < d.lineCount then .ok line.toNat else .error (.outOfRange "line")

def activeLine (e : Editor) : Nat := (e.primarySelection.map fun s => s.active.line).getD 0

def lineIndex (cx : Context) (e : Editor) (n : LineNumber) : Except TargetError Nat :=
  match n.kind with
  | .absolute => documentLine e.document n.number
  | .relative => do
    let line ← signedWord (Int.bmod (activeLine e) UInt64.size + n.number)
    documentLine e.document line
  | .modulo100 => visibleLine e n.number cx.config.visibleLineModulo

def lineTarget (cx : Context) (e : Editor) (anchor active : LineNumber) :
    Except TargetError Target := do
  let first ← lineIndex cx e anchor
  let last ← lineIndex cx e active
  return .line e (.between ⟨first, 0⟩ ⟨last, 0⟩) (last < first)

def storedTargets (cx : Context) (key : StoredKey) : Except TargetError (List Target) :=
  match cx.stored? key with
  | some targets => .ok targets
  | none => .error (.noStoredTargets key)

def inEditor (cx : Context) (f : Editor → Except TargetError (List Target)) :
    Except TargetError (List Target) :=
  match cx.activeEditor with
  | none => .ok []
  | some e => f e

def targets (cx : Context) : Mark → Except TargetError (List Target)
  | cursor => inEditor cx fun e => .ok (e.selections.map (Target.ofSelection e))
  | cursorToken => inEditor cx fun e => (cursorTokenOf cx e).map ([·])
  | decoratedSymbol style character =>
    match cx.hat? style character with
    | some h => .ok [.token h.editor h.range false]
    | none => .error (.missingMark style character)
  | that => storedTargets cx .that
  | source => storedTargets cx .source
  | lineNumber anchor active => inEditor cx fun e => (lineTarget cx e anchor active).map ([·])
  | nothing => .ok []

end Mark

end Referent
