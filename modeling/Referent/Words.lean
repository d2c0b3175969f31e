import Referent.Unicode.Property

namespace Referent

def isCapital (c : Char) : Bool := Unicode.uppercaseLetter.contains c

def uncapitalizedChars : Unicode.CharSet :=
  .unions [Unicode.lowercaseLetter, Unicode.otherLetter, Unicode.modifierLetter, Unicode.markChars]

def isUncapitalized (c : Char) : Bool := uncapitalizedChars.contains c

def wordLength (text : List Char) : Nat :=
  let capitals := (text.takeWhile isCapital).length
  if 0 < capitals then capitals + ((text.drop capitals).takeWhile isUncapitalized).length
  else
    let letters := (text.takeWhile isUncapitalized).length
    if 0 < letters then letters else (text.takeWhile Unicode.isNumber).length

/-- The last of several capitals starts the next word, as in `HTMLParser`. -/
def splitCapitals (start : Nat) (word : List Char) : List (Nat × Nat) :=
  let upper := (word.takeWhile Unicode.isUppercase).length
  if 1 < upper ∧ upper < word.length then
    [(start, start + upper - 1), (start + upper - 1, start + word.length)]
  else [(start, start + word.length)]

def wordSpansFrom (start : Nat) (text : List Char) : List (Nat × Nat) :=
  match text with
  | [] => []
  | c :: rest =>
    let length := wordLength (c :: rest)
    if h : 0 < length then
      splitCapitals start ((c :: rest).take length)
        ++ wordSpansFrom (start + length) ((c :: rest).drop length)
    else wordSpansFrom (start + 1) rest
termination_by text.length
decreasing_by
  · simp only [List.length_drop, List.length_cons]
    omega
  · simp

def wordSpans (text : List Char) : List (Nat × Nat) := wordSpansFrom 0 text

def slice (text : List Char) (span : Nat × Nat) : List Char :=
  (text.drop span.1).take (span.2 - span.1)

def words (text : List Char) : List (List Char) := (wordSpans text).map (slice text)

end Referent
