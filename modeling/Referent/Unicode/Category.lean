import Referent.Unicode.Letters
import Referent.Unicode.Marks
import Referent.Unicode.Symbols
import Referent.Unicode.Separators

namespace Referent.Unicode

inductive GeneralCategory where
  | uppercaseLetter | lowercaseLetter | titlecaseLetter | modifierLetter | otherLetter
  | nonspacingMark | spacingMark | enclosingMark
  | decimalNumber | letterNumber | otherNumber
  | connectorPunctuation | dashPunctuation | openPunctuation | closePunctuation
  | initialPunctuation | finalPunctuation | otherPunctuation
  | mathSymbol | currencySymbol | modifierSymbol | otherSymbol
  | spaceSeparator | lineSeparator | paragraphSeparator
  | control | format | privateUse
deriving Repr, DecidableEq

namespace GeneralCategory

def chars : GeneralCategory → CharSet
  | uppercaseLetter => Unicode.uppercaseLetter
  | lowercaseLetter => Unicode.lowercaseLetter
  | titlecaseLetter => Unicode.titlecaseLetter
  | modifierLetter => Unicode.modifierLetter
  | otherLetter => Unicode.otherLetter
  | nonspacingMark => Unicode.nonspacingMark
  | spacingMark => Unicode.spacingMark
  | enclosingMark => Unicode.enclosingMark
  | decimalNumber => Unicode.decimalNumber
  | letterNumber => Unicode.letterNumber
  | otherNumber => Unicode.otherNumber
  | connectorPunctuation => Unicode.connectorPunctuation
  | dashPunctuation => Unicode.dashPunctuation
  | openPunctuation => Unicode.openPunctuation
  | closePunctuation => Unicode.closePunctuation
  | initialPunctuation => Unicode.initialPunctuation
  | finalPunctuation => Unicode.finalPunctuation
  | otherPunctuation => Unicode.otherPunctuation
  | mathSymbol => Unicode.mathSymbol
  | currencySymbol => Unicode.currencySymbol
  | modifierSymbol => Unicode.modifierSymbol
  | otherSymbol => Unicode.otherSymbol
  | spaceSeparator => Unicode.spaceSeparator
  | lineSeparator => Unicode.lineSeparator
  | paragraphSeparator => Unicode.paragraphSeparator
  | control => Unicode.control
  | format => Unicode.format
  | privateUse => Unicode.privateUse

def contains (g : GeneralCategory) (c : Char) : Bool := g.chars.contains c

def letters : List GeneralCategory :=
  [uppercaseLetter, lowercaseLetter, titlecaseLetter, modifierLetter, otherLetter]

def marks : List GeneralCategory := [nonspacingMark, spacingMark, enclosingMark]

def numbers : List GeneralCategory := [decimalNumber, letterNumber, otherNumber]

def punctuation : List GeneralCategory :=
  [connectorPunctuation, dashPunctuation, openPunctuation, closePunctuation, initialPunctuation,
    finalPunctuation, otherPunctuation]

def symbols : List GeneralCategory := [mathSymbol, currencySymbol, modifierSymbol, otherSymbol]

def separators : List GeneralCategory := [spaceSeparator, lineSeparator, paragraphSeparator]

def assigned : List GeneralCategory :=
  letters ++ marks ++ numbers ++ punctuation ++ symbols ++ separators ++ [control, format, privateUse]

def charsOf (categories : List GeneralCategory) : CharSet :=
  .unions (categories.map chars)

end GeneralCategory

def letterChars : CharSet := GeneralCategory.charsOf GeneralCategory.letters

def markChars : CharSet := GeneralCategory.charsOf GeneralCategory.marks

def numberChars : CharSet := GeneralCategory.charsOf GeneralCategory.numbers

def unassignedChars : CharSet := (GeneralCategory.charsOf GeneralCategory.assigned).compl

def isLetter (c : Char) : Bool := letterChars.contains c

def isMark (c : Char) : Bool := markChars.contains c

def isNumber (c : Char) : Bool := numberChars.contains c

end Referent.Unicode
