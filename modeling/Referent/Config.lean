import Referent.Toml.Reader

namespace Referent

/-- The window in which a plain text is scanned for a pair of delimiters. It reaches
`initialLength` characters beyond the selection and grows by `factor` up to `maxLength`. -/
structure ScanConfig where
  initialLength : Nat := 200
  maxLength : Nat := 50000
  factor : Nat := 3
deriving Repr, DecidableEq

structure Config where
  wordSeparators : List String := ["_"]
  scan : ScanConfig := {}
  visibleLineModulo : Nat := 100
  /-- For each language, the separators that it has instead. -/
  languages : List (String × Option (List String)) := []
deriving Repr, DecidableEq

inductive ConfigError where
  | malformed
  | zeroModulo
  | emptyWindow
deriving Repr, DecidableEq

def ConfigError.message : ConfigError → String
  | malformed => "failed to parse target config"
  | zeroModulo => "invalid target config: visible-line-modulo must be positive"
  | emptyWindow =>
    "invalid target config: surrounding-pair scan window must start non-empty and grow"

namespace Config

def separatorsFor (c : Config) (language : String) : List String :=
  match c.languages.find? fun e => e.1 = language with
  | some (_, some separators) => separators
  | _ => c.wordSeparators

def validate (c : Config) : Except ConfigError Config :=
  if c.visibleLineModulo = 0 then .error .zeroModulo
  else if c.scan.initialLength = 0 ∨ c.scan.factor < 2 then .error .emptyWindow
  else .ok c

def natOfToml? : Toml → Option Nat
  | .integer n => if 0 ≤ n ∧ n < UInt64.size then some n.toNat else none
  | _ => none

def textOfToml? : Toml → Option String
  | .text s => some s
  | _ => none

def textsOfToml? : Toml → Option (List String)
  | .array items => items.mapM textOfToml?
  | _ => none

def settings? (names : List String) : Toml → Option (List (String × Toml))
  | .table _ entries => if entries.all fun e => names.contains e.1 then some entries else none
  | .array items => some (names.zip items)
  | _ => none

def setting {α : Type} (entries : List (String × Toml)) (name : String) (read : Toml → Option α)
    (default : α) : Option α :=
  match Toml.lookup name entries with
  | none => some default
  | some v => read v

def scanOfToml? (t : Toml) : Option ScanConfig := do
  let entries ← settings? ["initial-scan-length", "max-scan-length", "scan-expansion-factor"] t
  let d : ScanConfig := {}
  return {
    initialLength := ← setting entries "initial-scan-length" natOfToml? d.initialLength
    maxLength := ← setting entries "max-scan-length" natOfToml? d.maxLength
    factor := ← setting entries "scan-expansion-factor" natOfToml? d.factor }

def languageOfToml? (t : Toml) : Option (Option (List String)) := do
  let entries ← settings? ["word-separators"] t
  setting entries "word-separators" (fun v => (textsOfToml? v).map some) none

def languagesOfToml? : Toml → Option (List (String × Option (List String)))
  | .table _ entries => entries.mapM fun e => (languageOfToml? e.2).map fun l => (e.1, l)
  | _ => none

def ofEntries? (entries : Toml.Entries) : Option Config := do
  let entries ←
    settings? ["word-separators", "surrounding-pair", "visible-line-modulo", "language"]
      (.table .header entries)
  let d : Config := {}
  return {
    wordSeparators := ← setting entries "word-separators" textsOfToml? d.wordSeparators
    scan := ← setting entries "surrounding-pair" scanOfToml? d.scan
    visibleLineModulo := ← setting entries "visible-line-modulo" natOfToml? d.visibleLineModulo
    languages := ← setting entries "language" languagesOfToml? d.languages }

def ofText (text : List Char) : Except ConfigError Config :=
  match (Toml.read? text).bind ofEntries? with
  | some c => c.validate
  | none => .error .malformed

end Config

end Referent
