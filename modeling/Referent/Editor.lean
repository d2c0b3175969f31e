import Referent.Document
import Referent.Selection

namespace Referent

structure Editor where
  id : Nat
  document : Document
  selections : List Selection
  visible : List Range
deriving Inhabited

namespace Editor

def ofDocument (id : Nat) (document : Document) : Editor :=
  ⟨id, document, [.point document.range.start], [document.range]⟩

def primarySelection (e : Editor) : Option Selection := e.selections.head?

end Editor

end Referent
