import Referent.Proofs.Item.Order
import Referent.Proofs.Pair.Order
import Referent.Proofs.Scope.Windows
import Referent.Proofs.Syntax.Nesting

/-! Which scopes of a document may cross each other. Those of one family do not, so that the outermost
ones of it share nothing. -/

namespace Referent

namespace Range

structure Crosses (r s : Range) : Prop where
  start_lt : r.start < s.start
  shared : s.start < r.stop
  stop_lt : r.stop < s.stop

lemma before_or_crosses {r s : Range} (hle : r.start ≤ s.start) (hr : ¬r.containsRange s = true)
    (hs : ¬s.containsRange r = true) : r.stop ≤ s.start ∨ r.Crosses s := by
  rw [containsRange_iff] at hr hs
  by_cases hbefore : r.stop ≤ s.start
  · exact .inl hbefore
  · have hstop : r.stop < s.stop := Position.not_le.mp fun h => hr ⟨hle, h⟩
    have hstart : r.start < s.start :=
      Position.not_le.mp fun h => hs ⟨h, Position.le_of_lt hstop⟩
    exact .inr ⟨hstart, Position.not_le.mp hbefore, hstop⟩

lemma Crosses.not_uncrossed {r s : Range} (h : r.Crosses s) : ¬r.Uncrossed s := by
  rintro (hr | hs | hbefore | hbehind)
  · exact Position.not_le.mpr h.stop_lt ((containsRange_iff r s).mp hr).2
  · exact Position.not_le.mpr h.start_lt ((containsRange_iff s r).mp hs).1
  · exact Position.not_le.mpr h.shared hbefore
  · exact Position.not_le.mpr h.start_lt (Position.le_trans s.start_le_stop hbehind)

end Range

namespace Scope

def Distinct (l : List Scope) : Prop := l.Pairwise fun a b => a.domain ≠ b.domain

lemma Successive.uncrossed {l : List Scope} (h : Successive l) {a b : Scope} (ha : a ∈ l)
    (hb : b ∈ l) : a.domain.Uncrossed b.domain := by
  have hpairs : (l.map domain).Pairwise Range.Uncrossed :=
    List.Pairwise.imp (fun hle => .inr (.inr (.inl hle))) h
  apply hpairs.forall_of_forall fun r _ => r.uncrossed_refl
  · exact List.mem_map_of_mem ha
  · exact List.mem_map_of_mem hb

lemma topLevel_sublist (l : List Scope) : List.Sublist (topLevel l) l := List.filter_sublist

lemma not_contains_of_mem_topLevel {l : List Scope} {s o : Scope} (hs : s ∈ topLevel l) (ho : o ∈ l)
    (hne : o.domain ≠ s.domain) : ¬o.domain.containsRange s.domain = true := by
  obtain ⟨_, houter⟩ := List.mem_filter.mp hs
  intro hcontains
  have hany : l.any (fun o => o.domain != s.domain && o.domain.containsRange s.domain) = true :=
    List.any_eq_true.mpr ⟨o, ho, by rw [hcontains, Bool.and_true]; exact bne_iff_ne.mpr hne⟩
  rw [hany] at houter
  exact Bool.noConfusion houter

lemma distinct_nested (l : List Scope) : Distinct (nested l) := by
  have h : (nested l).Pairwise fun a b => (a.domain == b.domain) = false := pairwise_eraseRepsBy
    (fun a b c => domain_eq_of_between (a := a) (b := b) (c := c)) (pairwise_sorted l)
  exact h.imp fun hne => by simpa using hne

lemma domain_eq_of_between_items {a b c : Scope}
    (hab : ((compare a.domain.start b.domain.start).then
      (compare a.domain.stop b.domain.stop)).isLE = true)
    (hbc : ((compare b.domain.start c.domain.start).then
      (compare b.domain.stop c.domain.stop)).isLE = true)
    (hac : (a.domain == c.domain) = true) : (a.domain == b.domain) = true := by
  refine beq_of_between (fun r s : Range => (compare r.start s.start).then (compare r.stop s.stop))
    (fun r s h => ?_) hab hbc hac
  obtain ⟨hstart, hstop⟩ := Ordering.then_eq_eq.mp h
  exact Range.ext_iff'.mpr ⟨Position.compare_eq_eq.mp hstart, Position.compare_eq_eq.mp hstop⟩

lemma distinct_items (cx : Context) (e : Editor) (r : Range) : Gives (items cx e r) Distinct := by
  intro l hl
  obtain ⟨first, -, hl⟩ := bind_eq_ok.mp hl
  obtain ⟨last, -, hl⟩ := bind_eq_ok.mp hl
  obtain rfl := Except.ok.inj hl
  have h : (itemsOfBoth e r first last).Pairwise fun a b => (a.domain == b.domain) = false :=
    pairwise_eraseRepsBy (fun a b c => domain_eq_of_between_items (a := a) (b := b) (c := c))
      (pairwise_sorted _)
  exact h.imp fun hne => by simpa using hne

lemma successive_itemsOf {e : Editor} {c : Collection} (hc : c.Fits e.document) :
    Successive (itemsOf e c) := by
  have hitems := Collection.successive_items hc
  rw [Successive, itemsOf, List.map_map]
  exact hitems

def opening (s : Scope) : Option (List Char) :=
  s.target.boundary.map fun b => s.document.textIn b.1

end Scope

/-- Whether two scopes of a type belong to one family. There is a single one for most types, one for
each collection and each delimiter, and those of all types that a type is made of. -/
inductive ScopeType.Akin (cx : Context) (e : Editor) : ScopeType → Scope → Scope → Prop where
  | syntactic (kind : SyntacticScope) (a b : Scope) : Akin cx e (.syntactic kind) a b
  | textual {kind : TextScope} (h : kind ≠ .collectionItem) (a b : Scope) :
    Akin cx e (.textual kind) a b
  | items {r : Range} {c : Collection} (hc : Collection.around cx e.document r = .ok c) {a b : Scope}
    (ha : a ∈ Scope.itemsOf e c) (hb : b ∈ Scope.itemsOf e c) :
    Akin cx e (.textual .collectionItem) a b
  | surroundingPair (delimiter : PairName) (direction : Option PairDirection) (isStrong : Bool)
    {a b : Scope} (h : a.opening = b.opening) :
    Akin cx e (.surroundingPair delimiter direction isStrong) a b
  | customRegex (pattern : String) (a b : Scope) : Akin cx e (.customRegex pattern) a b
  | oneOf {scopeTypes : List ScopeType} {s : ScopeType} (hs : s ∈ scopeTypes) {f : ScopeFinder}
    (hf : ScopeFinder.ofScopeType e.document.language s = .ok f) {r : Range} {l : List Scope}
    (hl : f.candidates cx e r = .ok l) {a b : Scope} (ha : a ∈ l) (hb : b ∈ l)
    (h : Akin cx e s a b) : Akin cx e (.oneOf scopeTypes) a b

/-- Whether scopes of a type come in order and share nothing. Those of different families may cross, and
those of a syntactic kind may have one domain. -/
def ScopeType.Arranges (cx : Context) (e : Editor) (s : ScopeType) (l : List Scope) : Prop :=
  l.Pairwise fun a b => a.domain.start ≤ b.domain.start ∧
    (a.domain.stop ≤ b.domain.start ∨ ¬s.Akin cx e a b ∧ a.domain.Crosses b.domain ∨
      (∃ kind, s = .syntactic kind) ∧ a.domain = b.domain)

lemma Scope.Successive.arranged {cx : Context} {e : Editor} {s : ScopeType} {l : List Scope}
    (h : Successive l) : s.Arranges cx e l :=
  (List.pairwise_map.mp h).imp fun {a _} hle =>
    ⟨Position.le_trans a.domain.start_le_stop hle, .inl hle⟩

namespace ScopeFinder

variable {cx : Context} {e : Editor} {s : ScopeType} {f : ScopeFinder} {r : Range} {l : List Scope}

lemma isFlat_ofPattern (s : ScopeType) (pattern : String) : Gives (ofPattern s pattern) IsFlat := by
  rw [ofPattern]
  split
  · exact .ok trivial
  · exact .error

lemma isFlat_ofTextScope {kind : TextScope} (h : kind ≠ .collectionItem) :
    Gives (ofTextScope kind) IsFlat := by
  cases kind with
  | collectionItem => exact absurd rfl h
  | nonWhitespaceSequence =>
    rw [ofTextScope]
    exact isFlat_ofPattern _ _
  | url =>
    rw [ofTextScope]
    exact isFlat_ofPattern _ _
  | _ => exact .ok trivial

lemma uncrossed_nodes {t : SyntaxTree} (ht : t.Fits e.document) {kind : SyntacticScope}
    {matcher : Matcher} {a b : Scope} (ha : a ∈ Scope.nodes kind matcher t e r)
    (hb : b ∈ Scope.nodes kind matcher t e r) : a.domain.Uncrossed b.domain := by
  obtain ⟨m, _, rfl⟩ := List.mem_map.mp (List.mem_filter.mp ha).1
  obtain ⟨m', _, rfl⟩ := List.mem_map.mp (List.mem_filter.mp hb).1
  exact ht.uncrossed m.node m'.node

lemma uncrossed_pairs {search : PairSearch} (htable : ∀ d ∈ search.delimiters, d ∈ Delimiter.table)
    {a b : Scope} (ha : a ∈ Scope.pairs search e r) (hb : b ∈ Scope.pairs search e r)
    (h : a.opening = b.opening) : a.domain.Uncrossed b.domain := by
  obtain ⟨p, hp, rfl⟩ := List.mem_map.mp (List.mem_filter.mp ha).1
  obtain ⟨q, hq, rfl⟩ := List.mem_map.mp (List.mem_filter.mp hb).1
  exact search.uncrossed_findAll htable hp hq (Option.some.inj h)

lemma uncrossed_of_akin (ht : ∀ t, cx.tree? e.document = some t → t.Fits e.document)
    (hf : ofScopeType e.document.language s = .ok f) (hl : f.candidates cx e r = .ok l) {a b : Scope}
    (ha : a ∈ l) (hb : b ∈ l) (h : s.Akin cx e a b) : a.domain.Uncrossed b.domain := by
  induction h generalizing f r l with
  | syntactic kind a b =>
    rw [ofScopeType] at hf
    split at hf
    · obtain rfl := Except.ok.inj hf
      obtain ⟨t, htree, rfl⟩ := map_eq_ok.mp hl
      rw [treeOf] at htree
      split at htree
      · obtain rfl := Except.ok.inj htree
        exact uncrossed_nodes (ht _ ‹_›) ha hb
      · cases htree
    · cases hf
  | textual h a b =>
    rw [ofScopeType] at hf
    have hflat := isFlat_ofTextScope h f hf
    exact (successive_candidates hflat cx e r l hl).uncrossed ha hb
  | items hc ha' hb' =>
    exact (Scope.successive_itemsOf (Collection.fits_around ht _ _ hc)).uncrossed ha' hb'
  | surroundingPair delimiter direction isStrong h =>
    rw [ofScopeType] at hf
    obtain rfl := Except.ok.inj hf
    obtain rfl := Except.ok.inj hl
    exact uncrossed_pairs (fun d hd => Delimiter.mem_table_of_mem_ofName hd) ha hb h
  | customRegex pattern a b =>
    rw [ofScopeType] at hf
    have hflat := isFlat_ofPattern _ pattern f hf
    exact (successive_candidates hflat cx e r l hl).uncrossed ha hb
  | oneOf hs hf' hl' ha' hb' h ih => exact ih hf' hl' ha' hb'

lemma distinct_candidates (hs : ¬∃ kind, s = .syntactic kind)
    (hf : ofScopeType e.document.language s = .ok f) (hflat : ¬f.IsFlat)
    (hl : f.candidates cx e r = .ok l) : Scope.Distinct l := by
  cases s with
  | syntactic kind => exact absurd ⟨kind, rfl⟩ hs
  | textual kind =>
    by_cases hkind : kind = .collectionItem
    · subst hkind
      obtain rfl := Except.ok.inj hf
      exact Scope.distinct_items cx e r l hl
    · rw [ofScopeType] at hf
      exact absurd (isFlat_ofTextScope hkind f hf) hflat
  | surroundingPair delimiter direction isStrong =>
    rw [ofScopeType] at hf
    obtain rfl := Except.ok.inj hf
    obtain rfl := Except.ok.inj hl
    refine List.Pairwise.sublist (Scope.touching_sublist r _) (List.pairwise_map.mpr ?_)
    apply (PairSearch.pairwise_findAll (fun d hd => Delimiter.mem_table_of_mem_ofName hd) _).imp
    intro p q h heq
    have hstart : p.content.start = q.content.start := congrArg Range.start heq
    exact Position.not_le.mpr h.1 (hstart ▸ Position.le_refl _)
  | customRegex pattern =>
    rw [ofScopeType] at hf
    exact absurd (isFlat_ofPattern _ pattern f hf) hflat
  | oneOf scopeTypes =>
    rw [ofScopeType] at hf
    obtain ⟨finders, _, rfl⟩ := map_eq_ok.mp hf
    rw [candidates] at hl
    obtain ⟨all, _, rfl⟩ := map_eq_ok.mp hl
    exact Scope.distinct_nested all

theorem arranged_topLevel (ht : ∀ t, cx.tree? e.document = some t → t.Fits e.document)
    (hf : ofScopeType e.document.language s = .ok f) (hl : f.candidates cx e r = .ok l)
    {l' : List Scope} (hsub : List.Sublist l' l) : s.Arranges cx e (Scope.topLevel l') := by
  have htop := Scope.topLevel_sublist l'
  have hall := htop.trans hsub
  -- Finders that read lines may give one empty domain twice, so their scopes need not be `Distinct`.
  by_cases hflat : f.IsFlat
  · exact ((successive_candidates hflat cx e r l hl).sublist hall).arranged
  · have hordered := List.pairwise_map.mp ((ordered_candidates cx e r f l hl).sublist hall)
    have hdistinct : (Scope.topLevel l').Pairwise
        fun a b => (¬∃ kind, s = .syntactic kind) → a.domain ≠ b.domain := by
      by_cases hs : ∃ kind, s = .syntactic kind
      · exact List.pairwise_of_forall fun _ _ hnot => absurd hs hnot
      · exact List.Pairwise.imp (fun h _ => h) ((distinct_candidates hs hf hflat hl).sublist hall)
    refine (hordered.and hdistinct).imp_of_mem fun {a b} ha hb h => ⟨h.1, ?_⟩
    by_cases heq : a.domain = b.domain
    · exact .inr (.inr ⟨by_contra fun hnot => h.2 hnot heq, heq⟩)
    · have houter := Scope.not_contains_of_mem_topLevel hb (htop.subset ha) heq
      have hinner := Scope.not_contains_of_mem_topLevel ha (htop.subset hb) (Ne.symm heq)
      rcases Range.before_or_crosses h.1 houter hinner with hbefore | hcross
      · exact .inl hbefore
      · refine .inr (.inl ⟨fun hakin => hcross.not_uncrossed ?_, hcross⟩)
        exact uncrossed_of_akin ht hf hl (hall.subset ha) (hall.subset hb) hakin

end ScopeFinder

end Referent
