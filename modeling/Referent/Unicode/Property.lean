import Referent.Unicode.Category
import Referent.Unicode.PropertyTables

namespace Referent.Unicode

def isWhiteSpace (c : Char) : Bool := whiteSpace.contains c

def alphabetic : CharSet := .unions [letterChars, letterNumber, otherAlphabetic]

def lowercase : CharSet := lowercaseLetter.union otherLowercase

def uppercase : CharSet := uppercaseLetter.union otherUppercase

def cased : CharSet := .unions [lowercase, uppercase, titlecaseLetter]

def graphemeExtend : CharSet := .unions [nonspacingMark, enclosingMark, otherGraphemeExtend]

def isAlphabetic (c : Char) : Bool := alphabetic.contains c

def isNumeric (c : Char) : Bool := numberChars.contains c

def isAlphanumeric (c : Char) : Bool := isAlphabetic c || isNumeric c

def isUppercase (c : Char) : Bool := uppercase.contains c

end Referent.Unicode
