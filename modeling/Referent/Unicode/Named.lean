import Referent.Unicode.Grapheme
import Referent.Unicode.ScriptTable

namespace Referent.Unicode

/-- Names are compared without case, spaces, underscores and hyphens, and without a leading `is`. -/
def looseName (name : List Char) : String :=
  let kept := (name.filter fun c => c.toNat < 0x80 && c != ' ' && c != '_' && c != '-').map Char.toLower
  match (name.take 2).map Char.toLower, kept with
  | ['i', 's'], 'i' :: 's' :: ['c'] => "isc"
  | ['i', 's'], 'i' :: 's' :: rest => String.ofList rest
  | _, _ => String.ofList kept

def identifierStart : CharSet :=
  (CharSet.unions [letterChars, letterNumber,
    ⟨#[(0x1885, 0x1886), (0x2118, 0x2118), (0x212E, 0x212E), (0x309B, 0x309C)]⟩]).diff
    ⟨#[(0x2E2F, 0x2E2F)]⟩

def identifierContinue : CharSet :=
  .unions [identifierStart, nonspacingMark, spacingMark, decimalNumber, connectorPunctuation,
    ⟨#[(0xB7, 0xB7), (0x387, 0x387), (0x1369, 0x1371), (0x19DA, 0x19DA), (0x200C, 0x200D),
      (0x30FB, 0x30FB), (0xFF65, 0xFF65)]⟩]

def noncharacters : CharSet :=
  .ofRanges ((0xFDD0, 0xFDEF) :: (List.range 17).map fun i => (i * 0x10000 + 0xFFFE, i * 0x10000 + 0xFFFF))

def binaryProperties : List (List String × CharSet) := [
  (["alpha", "alphabetic"], alphabetic),
  (["lower", "lowercase"], lowercase),
  (["upper", "uppercase"], uppercase),
  (["space", "wspace", "whitespace"], whiteSpace),
  (["cased"], cased),
  (["emoji"], emoji),
  (["epres", "emojipresentation"], emojiPresentation),
  (["ebase", "emojimodifierbase"], emojiModifierBase),
  (["emod", "emojimodifier"], emojiModifier),
  (["ecomp", "emojicomponent"], emojiComponent),
  (["extpict", "extendedpictographic"], extendedPictographic),
  (["ri", "regionalindicator"], regionalIndicatorChars),
  (["grext", "graphemeextend"], graphemeExtend),
  (["dash"], dash),
  (["hex", "hexdigit"], hexDigit),
  (["ahex", "asciihexdigit"], ⟨#[(0x30, 0x39), (0x41, 0x46), (0x61, 0x66)]⟩),
  (["ideo", "ideographic"], ideographic),
  (["uideo", "unifiedideograph"], unifiedIdeograph),
  (["math"], math),
  (["qmark", "quotationmark"], quotationMark),
  (["dia", "diacritic"], diacritic),
  (["patsyn", "patternsyntax"], patternSyntax),
  (["patws", "patternwhitespace"],
    ⟨#[(0x09, 0x0D), (0x20, 0x20), (0x85, 0x85), (0x200E, 0x200F), (0x2028, 0x2029)]⟩),
  (["vs", "variationselector"], variationSelector),
  (["joinc", "joincontrol"], ⟨#[(0x200C, 0x200D)]⟩),
  (["nchar", "noncharactercodepoint"], noncharacters),
  (["ids", "idstart"], identifierStart),
  (["idc", "idcontinue"], identifierContinue),
  (["xids", "xidstart"], identifierStart),
  (["xidc", "xidcontinue"], identifierContinue)]

def categoryNames : List (List String × List GeneralCategory) := [
  (["l", "letter"], GeneralCategory.letters),
  (["lc", "casedletter"], [.uppercaseLetter, .lowercaseLetter, .titlecaseLetter]),
  (["lu", "uppercaseletter"], [.uppercaseLetter]),
  (["ll", "lowercaseletter"], [.lowercaseLetter]),
  (["lt", "titlecaseletter"], [.titlecaseLetter]),
  (["lm", "modifierletter"], [.modifierLetter]),
  (["lo", "otherletter"], [.otherLetter]),
  (["m", "mark", "combiningmark"], GeneralCategory.marks),
  (["mn", "nonspacingmark"], [.nonspacingMark]),
  (["mc", "spacingmark"], [.spacingMark]),
  (["me", "enclosingmark"], [.enclosingMark]),
  (["n", "number"], GeneralCategory.numbers),
  (["nd", "decimalnumber", "digit"], [.decimalNumber]),
  (["nl", "letternumber"], [.letterNumber]),
  (["no", "othernumber"], [.otherNumber]),
  (["p", "punctuation", "punct"], GeneralCategory.punctuation),
  (["pc", "connectorpunctuation"], [.connectorPunctuation]),
  (["pd", "dashpunctuation"], [.dashPunctuation]),
  (["ps", "openpunctuation"], [.openPunctuation]),
  (["pe", "closepunctuation"], [.closePunctuation]),
  (["pi", "initialpunctuation"], [.initialPunctuation]),
  (["pf", "finalpunctuation"], [.finalPunctuation]),
  (["po", "otherpunctuation"], [.otherPunctuation]),
  (["s", "symbol"], GeneralCategory.symbols),
  (["sm", "mathsymbol"], [.mathSymbol]),
  (["sc", "currencysymbol"], [.currencySymbol]),
  (["sk", "modifiersymbol"], [.modifierSymbol]),
  (["so", "othersymbol"], [.otherSymbol]),
  (["z", "separator"], GeneralCategory.separators),
  (["zs", "spaceseparator"], [.spaceSeparator]),
  (["zl", "lineseparator"], [.lineSeparator]),
  (["zp", "paragraphseparator"], [.paragraphSeparator]),
  (["cc", "control", "cntrl"], [.control]),
  (["cf", "format"], [.format]),
  (["co", "privateuse"], [.privateUse])]

def ascii : CharSet := ⟨#[(0, 0x7F)]⟩

def categoryNamed? (name : String) : Option CharSet :=
  if name = "any" then some .any
  else if name = "ascii" then some ascii
  else if name = "assigned" then some unassignedChars.compl
  else if name = "cn" || name = "unassigned" then some unassignedChars
  else if name = "c" || name = "other" then
    some (.unions [control, format, privateUse, unassignedChars])
  else (categoryNames.find? fun e => e.1.contains name).map fun e => GeneralCategory.charsOf e.2

def scriptNamed? (name : String) : Option CharSet :=
  (scripts.find? fun e => looseName e.1.toList = name || looseName e.2.1.toList = name
    || (name = "qaai" && e.1 = "Zinh") || (name = "qaac" && e.1 = "Copt")).map fun e => e.2.2

def charsNamed? (name : List Char) : Option CharSet :=
  let loose := looseName name
  match binaryProperties.find? fun e => e.1.contains loose with
  | some e => some e.2
  | none =>
    match categoryNamed? loose with
    | some s => some s
    | none => scriptNamed? loose

def charsWithValue? (property value : List Char) : Option CharSet :=
  let loose := looseName property
  if loose = "gc" || loose = "generalcategory" then categoryNamed? (looseName value)
  else if ["sc", "script", "scx", "scriptextensions"].contains loose then
    scriptNamed? (looseName value)
  else none

def wordChars : CharSet :=
  .unions [alphabetic, markChars, decimalNumber, connectorPunctuation, ⟨#[(0x200C, 0x200D)]⟩]

end Referent.Unicode
