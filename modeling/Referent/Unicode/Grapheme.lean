import Referent.Unicode.Property

namespace Referent.Unicode

inductive BreakClass where
  | carriageReturn | lineFeed | control | extend | joiner | regionalIndicator | prepended
  | spacing | leadingJamo | vowelJamo | trailingJamo | openSyllable | closedSyllable
  | pictographic | consonant | other
deriving Repr, DecidableEq

def prependedChars : CharSet := ⟨#[
  (0x600, 0x605), (0x6DD, 0x6DD), (0x70F, 0x70F), (0x890, 0x891), (0x8E2, 0x8E2), (0xD4E, 0xD4E),
  (0x110BD, 0x110BD), (0x110CD, 0x110CD), (0x111C2, 0x111C3), (0x113D1, 0x113D1),
  (0x1193F, 0x1193F), (0x11941, 0x11941), (0x11A3A, 0x11A3A), (0x11A84, 0x11A89),
  (0x11D46, 0x11D46), (0x11F02, 0x11F02)]⟩

def standaloneSpacing : CharSet := ⟨#[
  (0x102B, 0x102C), (0x1038, 0x1038), (0x1062, 0x1064), (0x1067, 0x106D), (0x1083, 0x1083),
  (0x1087, 0x108C), (0x108F, 0x108F), (0x109A, 0x109C), (0x1A61, 0x1A61), (0x1A63, 0x1A64),
  (0xAA7B, 0xAA7B), (0xAA7D, 0xAA7D), (0x11720, 0x11721)]⟩

def conjunctConsonant : CharSet := ⟨#[
  (0x915, 0x939), (0x958, 0x95F), (0x978, 0x97F), (0x995, 0x9A8), (0x9AA, 0x9B0), (0x9B2, 0x9B2),
  (0x9B6, 0x9B9), (0x9DC, 0x9DD), (0x9DF, 0x9DF), (0x9F0, 0x9F1), (0xA95, 0xAA8), (0xAAA, 0xAB0),
  (0xAB2, 0xAB3), (0xAB5, 0xAB9), (0xAF9, 0xAF9), (0xB15, 0xB28), (0xB2A, 0xB30), (0xB32, 0xB33),
  (0xB35, 0xB39), (0xB5C, 0xB5D), (0xB5F, 0xB5F), (0xB71, 0xB71), (0xC15, 0xC28), (0xC2A, 0xC39),
  (0xC58, 0xC5A), (0xD15, 0xD3A)]⟩

def conjunctLinker : CharSet := ⟨#[
  (0x94D, 0x94D), (0x9CD, 0x9CD), (0xACD, 0xACD), (0xB4D, 0xB4D), (0xC4D, 0xC4D), (0xD4D, 0xD4D)]⟩

def emojiModifier : CharSet := ⟨#[(0x1F3FB, 0x1F3FF)]⟩

def regionalIndicatorChars : CharSet := ⟨#[(0x1F1E6, 0x1F1FF)]⟩

def vowelJamoChars : CharSet :=
  ⟨#[(0x1160, 0x11A7), (0xD7B0, 0xD7C6), (0x16D63, 0x16D63), (0x16D67, 0x16D6A)]⟩

def trailingJamoChars : CharSet := ⟨#[(0x11A8, 0x11FF), (0xD7CB, 0xD7FB)]⟩

def leadingJamoChars : CharSet := ⟨#[(0x1100, 0x115F), (0xA960, 0xA97C)]⟩

def breakControl : CharSet := .unions [control, format, lineSeparator, paragraphSeparator,
  unassignedIgnorable]

def extendingChars : CharSet := graphemeExtend.union emojiModifier

def spacingChars : CharSet :=
  (spacingMark.union ⟨#[(0xE33, 0xE33), (0xEB3, 0xEB3)]⟩).diff (extendingChars.union standaloneSpacing)

def breakClass (c : Char) : BreakClass :=
  let code := c.toNat
  if code = 0x0D then .carriageReturn
  else if code = 0x0A then .lineFeed
  else if 0x20 ≤ code ∧ code < 0x7F then .other
  else if code = 0x200D then .joiner
  else if 0xAC00 ≤ code ∧ code ≤ 0xD7A3 then
    if (code - 0xAC00) % 28 = 0 then .openSyllable else .closedSyllable
  else if regionalIndicatorChars.containsCode code then .regionalIndicator
  else if prependedChars.containsCode code then .prepended
  else if extendingChars.containsCode code then .extend
  else if breakControl.containsCode code then .control
  else if spacingChars.containsCode code then .spacing
  else if leadingJamoChars.containsCode code then .leadingJamo
  else if vowelJamoChars.containsCode code then .vowelJamo
  else if trailingJamoChars.containsCode code then .trailingJamo
  else if conjunctConsonant.containsCode code then .consonant
  else if extendedPictographic.containsCode code then .pictographic
  else .other

/-- How far the end of a cluster has got into a sequence that a later character may complete. -/
structure ClusterState where
  last : BreakClass
  unpairedRegional : Bool
  pictograph : Bool
  joinedPictograph : Bool
  conjunct : Bool
  linked : Bool
deriving Repr, DecidableEq

def isConjunctExtend (c : Char) (k : BreakClass) : Bool :=
  (k == .extend || k == .joiner) && c.toNat != 0x200C

def ClusterState.start (c : Char) : ClusterState :=
  let k := breakClass c
  { last := k
    unpairedRegional := k == .regionalIndicator
    pictograph := k == .pictographic
    joinedPictograph := false
    conjunct := k == .consonant
    linked := false }

def ClusterState.push (s : ClusterState) (c : Char) : ClusterState :=
  let k := breakClass c
  let isLinker := conjunctLinker.contains c
  { last := k
    unpairedRegional := k == .regionalIndicator && !s.unpairedRegional
    pictograph := k == .pictographic || (s.pictograph && k == .extend)
    joinedPictograph := s.pictograph && k == .joiner
    conjunct := k == .consonant || (s.conjunct && isConjunctExtend c k)
    linked := s.conjunct && k != .consonant && isConjunctExtend c k && (s.linked || isLinker) }

def ClusterState.joins (s : ClusterState) (c : Char) : Bool :=
  match s.last, breakClass c with
  | .carriageReturn, .lineFeed => true
  | .control, _ | .carriageReturn, _ | .lineFeed, _ => false
  | _, .control | _, .carriageReturn | _, .lineFeed => false
  | .leadingJamo, .leadingJamo | .leadingJamo, .vowelJamo | .leadingJamo, .openSyllable
  | .leadingJamo, .closedSyllable => true
  | .openSyllable, .vowelJamo | .openSyllable, .trailingJamo | .vowelJamo, .vowelJamo
  | .vowelJamo, .trailingJamo => true
  | .closedSyllable, .trailingJamo | .trailingJamo, .trailingJamo => true
  | _, .extend | _, .joiner | _, .spacing => true
  | .prepended, _ => true
  | _, .consonant => s.linked
  | .joiner, .pictographic => s.joinedPictograph
  | .regionalIndicator, .regionalIndicator => s.unpairedRegional
  | _, _ => false

def clusterRest (s : ClusterState) : List Char → List Char
  | [] => []
  | c :: rest => if s.joins c then c :: clusterRest (s.push c) rest else []

def firstCluster : List Char → List Char
  | [] => []
  | c :: rest => c :: clusterRest (.start c) rest

def clustersFrom (s : ClusterState) (cluster : List Char) : List Char → List (List Char)
  | [] => [cluster.reverse]
  | c :: rest =>
    if s.joins c then clustersFrom (s.push c) (c :: cluster) rest
    else cluster.reverse :: clustersFrom (.start c) [c] rest

def clusters : List Char → List (List Char)
  | [] => []
  | c :: rest => clustersFrom (.start c) [c] rest

def spansFrom (start : Nat) : List (List Char) → List (Nat × Nat)
  | [] => []
  | g :: rest => (start, start + g.length) :: spansFrom (start + g.length) rest

def clusterSpans (text : List Char) : List (Nat × Nat) := spansFrom 0 (clusters text)

end Referent.Unicode
