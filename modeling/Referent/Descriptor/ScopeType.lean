namespace Referent

/-- Kinds that the syntax tree answers. An `occurrence` is a place where the same text stands. -/
inductive SyntacticScope where
  | argumentOrParameter | anonymousFunction | elementAttribute | branch | classDefinition | className
  | collectionKey | comment | functionCall | functionCallee | functionName | ifStatement
  | occurrence | list | map | name | namedFunction | regularExpression | statement | string
  | type | value | condition | documentSection | selector | unit | xmlBothTags | xmlElement | xmlEndTag
  | xmlStartTag
deriving Repr, DecidableEq

inductive TextScope where
  | collectionItem | character | word | token | identifier | line | paragraph | document
  | nonWhitespaceSequence | url
deriving Repr, DecidableEq

inductive PairName where
  | angleBrackets | backtickQuotes | curlyBrackets | doubleQuotes | escapedDoubleQuotes
  | escapedParentheses | escapedSingleQuotes | escapedSquareBrackets | parentheses | singleQuotes
  | squareBrackets | tripleDoubleQuotes | tripleSingleQuotes
  | string
  | any
  | collectionBoundary
deriving Repr, DecidableEq

inductive PairDirection where
  | left | right
deriving Repr, DecidableEq

inductive ScopeType where
  | syntactic (kind : SyntacticScope)
  | textual (kind : TextScope)
  | surroundingPair (delimiter : PairName) (forceDirection : Option PairDirection)
    (requireStrongContainment : Bool)
  | customRegex (regex : String)
  | oneOf (scopeTypes : List ScopeType)
deriving Repr, Inhabited

namespace SyntacticScope

def all : List SyntacticScope :=
  [argumentOrParameter, anonymousFunction, elementAttribute, branch, classDefinition, className,
    collectionKey, comment, functionCall, functionCallee, functionName, ifStatement, occurrence,
    list, map, name, namedFunction, regularExpression, statement, string, type, value, condition,
    documentSection, selector, unit, xmlBothTags, xmlElement, xmlEndTag, xmlStartTag]

def tag : SyntacticScope → String
  | argumentOrParameter => "argumentOrParameter"
  | anonymousFunction => "anonymousFunction"
  | elementAttribute => "attribute"
  | branch => "branch"
  | classDefinition => "class"
  | className => "className"
  | collectionKey => "collectionKey"
  | comment => "comment"
  | functionCall => "functionCall"
  | functionCallee => "functionCallee"
  | functionName => "functionName"
  | ifStatement => "ifStatement"
  | occurrence => "instance"
  | list => "list"
  | map => "map"
  | name => "name"
  | namedFunction => "namedFunction"
  | regularExpression => "regularExpression"
  | statement => "statement"
  | string => "string"
  | type => "type"
  | value => "value"
  | condition => "condition"
  | documentSection => "section"
  | selector => "selector"
  | unit => "unit"
  | xmlBothTags => "xmlBothTags"
  | xmlElement => "xmlElement"
  | xmlEndTag => "xmlEndTag"
  | xmlStartTag => "xmlStartTag"

def ofTag? (tag : String) : Option SyntacticScope := all.find? fun s => s.tag = tag

end SyntacticScope

namespace TextScope

def all : List TextScope :=
  [collectionItem, character, word, token, identifier, line, paragraph, document,
    nonWhitespaceSequence, url]

def tag : TextScope → String
  | collectionItem => "collectionItem"
  | character => "character"
  | word => "word"
  | token => "token"
  | identifier => "identifier"
  | line => "line"
  | paragraph => "paragraph"
  | document => "document"
  | nonWhitespaceSequence => "nonWhitespaceSequence"
  | url => "url"

def ofTag? (tag : String) : Option TextScope := all.find? fun s => s.tag = tag

end TextScope

namespace PairName

def all : List PairName :=
  [angleBrackets, backtickQuotes, curlyBrackets, doubleQuotes, escapedDoubleQuotes,
    escapedParentheses, escapedSingleQuotes, escapedSquareBrackets, parentheses, singleQuotes,
    squareBrackets, tripleDoubleQuotes, tripleSingleQuotes, string, any, collectionBoundary]

def tag : PairName → String
  | angleBrackets => "angleBrackets"
  | backtickQuotes => "backtickQuotes"
  | curlyBrackets => "curlyBrackets"
  | doubleQuotes => "doubleQuotes"
  | escapedDoubleQuotes => "escapedDoubleQuotes"
  | escapedParentheses => "escapedParentheses"
  | escapedSingleQuotes => "escapedSingleQuotes"
  | escapedSquareBrackets => "escapedSquareBrackets"
  | parentheses => "parentheses"
  | singleQuotes => "singleQuotes"
  | squareBrackets => "squareBrackets"
  | tripleDoubleQuotes => "tripleDoubleQuotes"
  | tripleSingleQuotes => "tripleSingleQuotes"
  | string => "string"
  | any => "any"
  | collectionBoundary => "collectionBoundary"

def ofTag? (tag : String) : Option PairName := all.find? fun n => n.tag = tag

end PairName

namespace ScopeType

def token : ScopeType := textual .token

def line : ScopeType := textual .line

def document : ScopeType := textual .document

def word : ScopeType := textual .word

def character : ScopeType := textual .character

def occurrence : ScopeType := syntactic .occurrence

def pair (delimiter : PairName) : ScopeType := surroundingPair delimiter none false

mutual

def decEq : (a b : ScopeType) → Decidable (a = b)
  | syntactic s, syntactic t =>
    if h : s = t then isTrue (h ▸ rfl) else isFalse fun e => h (by injection e)
  | textual s, textual t =>
    if h : s = t then isTrue (h ▸ rfl) else isFalse fun e => h (by injection e)
  | surroundingPair d f r, surroundingPair d' f' r' =>
    if h : d = d' ∧ f = f' ∧ r = r' then isTrue (by simp [h])
    else isFalse fun e => h (by injection e; exact ⟨‹_›, ‹_›, ‹_›⟩)
  | customRegex s, customRegex t =>
    if h : s = t then isTrue (h ▸ rfl) else isFalse fun e => h (by injection e)
  | oneOf l, oneOf m =>
    match decEqList l m with
    | isTrue h => isTrue (h ▸ rfl)
    | isFalse h => isFalse fun e => h (by injection e)
  | syntactic _, textual _ => isFalse (by simp)
  | syntactic _, surroundingPair _ _ _ => isFalse (by simp)
  | syntactic _, customRegex _ => isFalse (by simp)
  | syntactic _, oneOf _ => isFalse (by simp)
  | textual _, syntactic _ => isFalse (by simp)
  | textual _, surroundingPair _ _ _ => isFalse (by simp)
  | textual _, customRegex _ => isFalse (by simp)
  | textual _, oneOf _ => isFalse (by simp)
  | surroundingPair _ _ _, syntactic _ => isFalse (by simp)
  | surroundingPair _ _ _, textual _ => isFalse (by simp)
  | surroundingPair _ _ _, customRegex _ => isFalse (by simp)
  | surroundingPair _ _ _, oneOf _ => isFalse (by simp)
  | customRegex _, syntactic _ => isFalse (by simp)
  | customRegex _, textual _ => isFalse (by simp)
  | customRegex _, surroundingPair _ _ _ => isFalse (by simp)
  | customRegex _, oneOf _ => isFalse (by simp)
  | oneOf _, syntactic _ => isFalse (by simp)
  | oneOf _, textual _ => isFalse (by simp)
  | oneOf _, surroundingPair _ _ _ => isFalse (by simp)
  | oneOf _, customRegex _ => isFalse (by simp)

def decEqList : (a b : List ScopeType) → Decidable (a = b)
  | [], [] => isTrue rfl
  | [], _ :: _ => isFalse (by simp)
  | _ :: _, [] => isFalse (by simp)
  | s :: l, t :: m =>
    match decEq s t, decEqList l m with
    | isTrue h, isTrue h' => isTrue (by rw [h, h'])
    | isFalse h, _ => isFalse fun e => h (by injection e)
    | _, isFalse h => isFalse fun e => h (by injection e)

end

instance : DecidableEq ScopeType := decEq

def tag : ScopeType → String
  | syntactic s => s.tag
  | textual s => s.tag
  | surroundingPair _ _ _ => "surroundingPair"
  | customRegex _ => "customRegex"
  | oneOf _ => "oneOf"

def isSyntactic : ScopeType → Bool
  | syntactic _ => true
  | _ => false

def display : ScopeType → String
  | surroundingPair delimiter _ _ => "surroundingPair(" ++ delimiter.tag.capitalize ++ ")"
  | customRegex regex => "customRegex(" ++ regex ++ ")"
  | s => s.tag

def delimiter : ScopeType → String
  | syntactic .classDefinition => "\n\n"
  | syntactic .namedFunction => "\n\n"
  | syntactic .documentSection => "\n\n"
  | syntactic .anonymousFunction => "\n"
  | syntactic .statement => "\n"
  | syntactic .ifStatement => "\n"
  | syntactic .comment => "\n"
  | syntactic .xmlElement => "\n"
  | syntactic .branch => "\n"
  | textual .line => "\n"
  | textual .paragraph => "\n\n"
  | textual .collectionItem => ", "
  | syntactic .argumentOrParameter => ", "
  | textual .character => ""
  | textual .word => ""
  | _ => " "

end ScopeType

end Referent
