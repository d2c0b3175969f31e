import Referent.Descriptor.Basic

namespace Referent

inductive TargetError where
  | noContainingScope (scopeType : String)
  | outOfRange (scopeType : String)
  | tooFewScopes (scopeType : String) (requested found : Nat)
  | unsupportedLanguage (language : String)
  | missingMark (style character : String)
  | noTokenInSelection
  | noStoredTargets (key : StoredKey)
  | noVisibleLine (row : Nat)
  | ambiguousVisibleLine (row : Nat)
  | rangeLengthMismatch (anchor active : Nat)
  | crossDocumentRange (anchor active : Nat)
  | expectedSingleTarget (count : Nat)
  | subtokenExclusionUnsupported
  | noInterior
  | noBoundary
  | noLeadingDelimiter
  | noTrailingDelimiter
  | unsupportedScopeType (scopeType language : String)
  | invalidPattern (pattern : String)
  /-- A number that is worked out is not a machine word. Nothing recovers from that. -/
  | overflow
deriving Repr, DecidableEq

namespace TargetError

def rowText (row : Nat) : String := if row < 10 then "0" ++ toString row else toString row

def message : TargetError → String
  | noContainingScope s => s!"couldn't find containing {s}"
  | outOfRange s => s!"{s} index out of range"
  | tooFewScopes s requested found =>
    s!"expected at most {requested} {s} scopes but found {found}"
  | unsupportedLanguage l => s!"no syntax tree available for language '{l}'"
  | missingMark style character => s!"couldn't find mark {style} '{character}'"
  | noTokenInSelection => "couldn't find token in selection"
  | noStoredTargets key => "no available " ++ key.name ++ " marks"
  | noVisibleLine row => "no visible line ends in " ++ rowText row
  | ambiguousVisibleLine row => "visible line number " ++ rowText row ++ " is ambiguous"
  | rangeLengthMismatch anchor active =>
    s!"anchor and active target lengths don't match ({anchor} vs {active})"
  | crossDocumentRange anchor active =>
    s!"anchor and active must be in same document (document#{anchor} vs document#{active})"
  | expectedSingleTarget count => s!"expected exactly one target from range modifier, got {count}"
  | subtokenExclusionUnsupported => "subtoken exclusions are not supported"
  | noInterior => "no available interior"
  | noBoundary => "no available boundary"
  | noLeadingDelimiter => "target has no leading delimiter"
  | noTrailingDelimiter => "target has no trailing delimiter"
  | unsupportedScopeType s language => s!"scope type {s} is not supported for language '{language}'"
  | invalidPattern pattern => s!"invalid pattern '{pattern}'"
  | overflow => "arithmetic overflow"

/-- Whether nothing was found where something else may still be: of several modifiers to try, the
next one follows. -/
def isRecoverable : TargetError → Bool
  | noContainingScope _ => true
  | outOfRange _ => true
  | tooFewScopes _ _ _ => true
  | unsupportedLanguage _ => true
  | _ => false

end TargetError

def word (n : Nat) : Except TargetError Nat := if n < UInt64.size then .ok n else .error .overflow

def signedWord (n : Int) : Except TargetError Int :=
  if Int64.minValue.toInt ≤ n ∧ n ≤ Int64.maxValue.toInt then .ok n else .error .overflow

end Referent
