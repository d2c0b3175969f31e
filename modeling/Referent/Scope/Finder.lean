import Referent.Error
import Referent.Item.Collection
import Referent.Regex.Reader
import Referent.Scope.Text

/-! Finders, which know the scopes of one scope type. -/

namespace Referent

inductive ScopeFinder where
  | tokens (identifiersOnly : Bool)
  | characters
  | words
  | lines
  | paragraphs
  | wholeDocument
  | regex (scopeType : ScopeType) (regex : Regex)
  | pairs (scopeType : ScopeType) (search : PairSearch)
  | items
  | nodes (kind : SyntacticScope) (language : String) (matcher : Matcher)
  | oneOf (scopeTypes : List ScopeType) (finders : List ScopeFinder)
deriving Inhabited

def unlessMissing {α : Type} (default : α) : Except TargetError α → Except TargetError α
  | .error e => if e.isRecoverable then .ok default else .error e
  | .ok a => .ok a

namespace ScopeFinder

def urlPattern : String :=
  "(?i)(?:https?|ftp|file)://[-\\w+&@#/%?=~|!:,.;']*[-\\w+&@#/%=~|]"
    ++ "|www\\.[-\\w+&@#/%?=~|!:,.;']*[-\\w+&@#/%=~|]"

def ofPattern (scopeType : ScopeType) (pattern : String) : Except TargetError ScopeFinder :=
  match Regex.read? pattern.toList with
  | some r => .ok (regex scopeType r)
  | none => .error (.invalidPattern pattern)

def ofTextScope (kind : TextScope) : Except TargetError ScopeFinder :=
  match kind with
  | .collectionItem => .ok items
  | .character => .ok characters
  | .word => .ok words
  | .token => .ok (tokens false)
  | .identifier => .ok (tokens true)
  | .line => .ok lines
  | .paragraph => .ok paragraphs
  | .document => .ok wholeDocument
  | .nonWhitespaceSequence => ofPattern (.textual kind) "\\S+"
  | .url => ofPattern (.textual kind) urlPattern

mutual

def ofScopeType (language : String) : ScopeType → Except TargetError ScopeFinder
  | .textual kind => ofTextScope kind
  | .customRegex pattern => ofPattern (.customRegex pattern) pattern
  | .surroundingPair delimiter direction isStrong =>
    .ok (pairs (.surroundingPair delimiter direction isStrong)
      ⟨Delimiter.ofName delimiter language, direction, isStrong⟩)
  | .oneOf scopeTypes => (ofScopeTypes language scopeTypes).map (oneOf scopeTypes)
  | .syntactic kind =>
    match (Language.ofName language).matcher? kind with
    | some matcher => .ok (nodes kind language matcher)
    | none => .error (.unsupportedScopeType kind.tag language)

def ofScopeTypes (language : String) : List ScopeType → Except TargetError (List ScopeFinder)
  | [] => .ok []
  | s :: rest => do
    let finder ← ofScopeType language s
    return finder :: (← ofScopeTypes language rest)

end

def scopeType : ScopeFinder → ScopeType
  | tokens false => .token
  | tokens true => .textual .identifier
  | characters => .character
  | words => .word
  | lines => .line
  | paragraphs => .textual .paragraph
  | wholeDocument => .document
  | regex s _ => s
  | pairs s _ => s
  | items => .textual .collectionItem
  | nodes kind _ _ => .syntactic kind
  | oneOf scopeTypes _ => .oneOf scopeTypes

def siblingFinder (language : String) : ScopeFinder → ScopeFinder
  | tokens _ => lines
  | characters => tokens false
  | words => tokens false
  | lines => wholeDocument
  | paragraphs => wholeDocument
  | wholeDocument => wholeDocument
  | regex _ _ => lines
  | pairs _ _ => pairs (.pair .any) (PairSearch.ofName .any language)
  | items => lines
  | nodes _ _ _ => wholeDocument
  | oneOf _ _ => wholeDocument

def isHierarchical : ScopeFinder → Bool
  | pairs _ _ => true
  | nodes _ _ _ => true
  | oneOf _ _ => true
  | _ => false

end ScopeFinder

namespace Scope

def ofPair (e : Editor) (p : PairMatch) : Scope := ⟨p.content, p.target e false⟩

def pairs (search : PairSearch) (e : Editor) (r : Range) : List Scope :=
  touching r ((search.findAll e.document).map (ofPair e))

def itemTarget (e : Editor) (item : Item) (isReversed : Bool) : Target :=
  .delimited e .collectionItem item.content item.leading item.trailing
    (Item.delimiter e.document item.leading item.trailing) isReversed

def itemsOf (e : Editor) (c : Collection) : List Scope :=
  (c.items e.document).map fun i => ⟨i.domain, itemTarget e i false⟩

def itemsOfBoth (e : Editor) (r : Range) (first last : Collection) : List Scope :=
  let found := itemsOf e first ++ (if first = last then [] else itemsOf e last)
  ((touching r found).mergeSort fun a b =>
    ((compare a.domain.start b.domain.start).then
      (compare a.domain.stop b.domain.stop)).isLE).eraseRepsBy fun a b => a.domain == b.domain

def items (cx : Context) (e : Editor) (r : Range) : Except TargetError (List Scope) := do
  let first ← Collection.around cx e.document (.point r.start)
  let last ← Collection.around cx e.document (.point r.stop)
  return itemsOfBoth e r first last

def ofMatch (kind : SyntacticScope) (t : SyntaxTree) (e : Editor) (m : NodeMatch) : Scope :=
  let s := ScopeType.syntactic kind
  let target :=
    match m.separators with
    | none => Target.scope e s m.content false
    | some (leading, trailing) =>
      .delimited e (.scope s) m.content leading trailing s.delimiter false
  ⟨t.range m.node, target⟩

def nodes (kind : SyntacticScope) (matcher : Matcher) (t : SyntaxTree) (e : Editor) (r : Range) :
    List Scope :=
  touching r ((matcher.findAll t).map (ofMatch kind t e))

end Scope

namespace ScopeFinder

def treeOf (cx : Context) (e : Editor) (language : String) : Except TargetError SyntaxTree :=
  match cx.tree? e.document with
  | some t => .ok t
  | none => .error (.unsupportedLanguage language)

mutual

def candidates (cx : Context) (e : Editor) (r : Range) : ScopeFinder → Except TargetError (List Scope)
  | tokens identifiersOnly => .ok (Scope.tokens cx identifiersOnly e r)
  | characters => .ok (Scope.characters e r)
  | words => .ok (Scope.words cx e r)
  | lines => .ok (Scope.lines e r)
  | paragraphs => .ok (Scope.paragraphs e r)
  | wholeDocument => .ok (Scope.wholeDocument e)
  | regex s expression => .ok (Scope.regexMatches s expression e r)
  | pairs _ search => .ok (Scope.pairs search e r)
  | items => Scope.items cx e r
  | nodes kind language matcher =>
    (treeOf cx e language).map fun t => Scope.nodes kind matcher t e r
  | oneOf _ finders => (candidatesOfAny cx e r finders).map Scope.nested

def candidatesOfAny (cx : Context) (e : Editor) (r : Range) :
    List ScopeFinder → Except TargetError (List Scope)
  | [] => .ok []
  | f :: rest => do
    let found ← unlessMissing [] (candidates cx e r f)
    return found ++ (← candidatesOfAny cx e r rest)

end

def scopesAt (f : ScopeFinder) (cx : Context) (e : Editor) (p : Position) :
    Except TargetError (List Scope) :=
  (f.candidates cx e (.point p)).map fun l => l.filter fun s => s.domain.contains p

def scopesOverlapping (f : ScopeFinder) (cx : Context) (e : Editor) (r : Range) :
    Except TargetError (List Scope) :=
  (f.candidates cx e r).map fun l => l.filter fun s => s.overlaps r

def scopesWithin (f : ScopeFinder) (cx : Context) (e : Editor) (domain : Range) :
    Except TargetError (List Scope) :=
  (f.scopesOverlapping cx e domain).map fun l =>
    let inside := l.filter fun s => domain.containsRange s.domain
    if f.isHierarchical then Scope.topLevel (inside.filter fun s => s.domain ≠ domain) else inside

/-- Of two scopes at one place, whether the first is preferred, if there is any reason to prefer
one. -/
def prefers? (f : ScopeFinder) (cx : Context) (a b : Scope) : Option Bool :=
  let textOf (s : Scope) := s.document.textIn s.domain
  match f with
  | characters =>
    let rank (s : Scope) := (CharCategory.ofCluster (textOf s)).preference
    if rank a = rank b then none else some (rank b < rank a)
  | tokens _ =>
    let isIdentifier (s : Scope) := cx.isIdentifier a.document (textOf s)
    if isIdentifier a = isIdentifier b then none else some (isIdentifier a)
  | _ => none

def countsInEvery (f : ScopeFinder) (s : Scope) : Bool :=
  match f with
  | lines => !(s.document.lineAt s.domain.start.line).isBlank
  | _ => true

/-- Whether `candidate` is a better choice than `current`: the inner one of two that are nested, else
the one that the finder prefers, else the one further in the given direction. -/
def isBetter (f : ScopeFinder) (cx : Context) (direction : Direction) (candidate current : Scope) :
    Bool :=
  if candidate.domain = current.domain then false
  else if current.domain.containsRange candidate.domain then true
  else if candidate.domain.containsRange current.domain then false
  else
    match f.prefers? cx candidate current with
    | some b => b
    | none =>
      match direction with
      | .forward => current.domain.start < candidate.domain.start
      | .backward => candidate.domain.stop < current.domain.stop

def preferred (f : ScopeFinder) (cx : Context) (direction : Direction) : List Scope → Option Scope
  | [] => none
  | s :: rest =>
    some (rest.foldl (fun best c => if f.isBetter cx direction c best then c else best) s)

end ScopeFinder

end Referent
