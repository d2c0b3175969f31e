import Referent.Config
import Referent.Descriptor.Basic
import Referent.Syntax.Tree
import Referent.Target.Basic
import Referent.Token

/-! What a description is resolved against: the settings, the active editor, the syntax trees that
are known, the hats over tokens, and the targets that earlier commands have left behind. -/

namespace Referent

structure Hat where
  style : String
  character : String
  editor : Editor
  range : Range
deriving Inhabited

structure Context where
  config : Config := {}
  tokenizer : Option Tokenizer := none
  activeEditor : Option Editor := none
  trees : List (Nat × SyntaxTree) := []
  hats : List Hat := []
  stored : List (StoredKey × List Target) := []
deriving Inhabited

namespace Context

def tree? (cx : Context) (d : Document) : Option SyntaxTree :=
  (cx.trees.find? fun e => e.1 = d.id).map Prod.snd

def hat? (cx : Context) (style character : String) : Option Hat :=
  cx.hats.find? fun h => h.style = style ∧ h.character = character

def stored? (cx : Context) (key : StoredKey) : Option (List Target) :=
  (cx.stored.find? fun e => e.1 = key).map Prod.snd

def withTree (cx : Context) (document : Nat) (tree : Option SyntaxTree) : Context :=
  { cx with trees :=
      tree.toList.map (fun t => (document, t)) ++ cx.trees.filter fun e => e.1 ≠ document }

def withHat (cx : Context) (hat : Hat) : Context :=
  { cx with hats :=
      hat :: cx.hats.filter fun h => ¬(h.style = hat.style ∧ h.character = hat.character) }

def withStored (cx : Context) (key : StoredKey) (targets : List Target) : Context :=
  { cx with stored := (key, targets) :: cx.stored.filter fun e => e.1 ≠ key }

def separators (cx : Context) (language : String) : List (List Char) :=
  (cx.config.separatorsFor language).map String.toList

def isIdentifier (cx : Context) (d : Document) (text : List Char) : Bool :=
  match cx.tokenizer with
  | some host => host.isIdentifier text d.language
  | none => Token.isIdentifier (cx.separators d.language) text

def tokensOfText (cx : Context) (language : String) (line : List Char) : List Token :=
  match cx.tokenizer with
  | some host => host.tokens line language
  | none => Token.ofText (cx.separators language) line

def tokensOfLine (cx : Context) (d : Document) (line : Nat) : List Range :=
  (cx.tokensOfText d.language (d.lineAt line).text).map fun t => .onLine line t.start t.stop

def tokens (cx : Context) (d : Document) (r : Range) : List Range :=
  (d.linesOf r).flatMap (cx.tokensOfLine d)

end Context

end Referent
