import Referent.Unicode.CharSet
import Referent.Unicode.FoldTable

namespace Referent.Unicode

def FoldRun.codes (r : FoldRun) : List Nat :=
  (List.range ((r.last - r.first) / r.step + 1)).map fun i => r.first + i * r.step

def foldPairs : List (Nat × Nat) :=
  foldRuns.toList.flatMap fun r => r.codes.map fun code => (code, code + r.delta)

def CharSet.foldCase (s : CharSet) : CharSet :=
  s.union (.ofRanges (foldPairs.flatMap fun p =>
    (if s.containsCode p.1 then [(p.2, p.2)] else [])
      ++ if s.containsCode p.2 then [(p.1, p.1)] else []))

def CharSet.foldAscii (s : CharSet) : CharSet :=
  s.union (.ofRanges ((List.range 26).flatMap fun i =>
    (if s.containsCode (0x41 + i) then [(0x61 + i, 0x61 + i)] else [])
      ++ if s.containsCode (0x61 + i) then [(0x41 + i, 0x41 + i)] else []))

end Referent.Unicode
