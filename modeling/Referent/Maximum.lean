namespace Referent

def lastMax? {α : Type} (le : α → α → Bool) : List α → Option α
  | [] => none
  | a :: rest => some (rest.foldl (fun best b => if le best b then b else best) a)

end Referent
