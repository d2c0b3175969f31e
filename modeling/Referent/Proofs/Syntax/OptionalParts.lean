import Mathlib.Data.List.Forall2
import Referent.Proofs.Syntax.Numbering

/-! Optional parts of patterns. The search upwards takes an optional part wherever it fits and never leaves
it out again. What it finds is described by the pattern, and it finds all that is described exactly if no
optional part can take the node that the next required one is for. -/

namespace Referent

namespace PatternPart

variable {p q : PatternPart} {t : SyntaxTree} {id : Nat}

def describes (p : PatternPart) (kind : String) : Bool :=
  match p.kind with
  | .any => true
  | .exactly k => kind == k
  | .other k => kind != k

lemma accepts_iff : p.accepts t id = true ↔ t.isNamed id = true ∧ p.describes (t.kind id) = true :=
  (Bool.and_eq_true _ _).to_iff

lemma exists_describes (p : PatternPart) : ∃ kind, p.describes kind = true := by
  obtain ⟨kind, _, _, _⟩ := p
  cases kind with
  | any => exact ⟨"", rfl⟩
  | exactly k => exact ⟨k, beq_self_eq_true k⟩
  | other k =>
    by_cases hk : k = ""
    · exact ⟨"a", by simp [describes, hk]⟩
    · exact ⟨"", by simp [describes, Ne.symm hk]⟩

def Overlaps (p q : PatternPart) : Prop := ∃ kind, p.describes kind = true ∧ q.describes kind = true

end PatternPart

namespace Pattern

inductive Shortens : List PatternPart → List PatternPart → Prop where
  | nil : Shortens [] []
  | keep {p : PatternPart} {parts chosen : List PatternPart} (h : Shortens parts chosen) :
    Shortens (p :: parts) (p :: chosen)
  | drop {p : PatternPart} {parts chosen : List PatternPart} (hp : p.isOptional = true)
    (h : Shortens parts chosen) : Shortens (p :: parts) chosen

inductive Fits (t : SyntaxTree) : List PatternPart → List Nat → Prop where
  | nil {nodes : List Nat} : Fits t [] nodes
  | cons {p : PatternPart} {parts : List PatternPart} {id : Nat} {nodes : List Nat}
    (hp : p.accepts t id = true) (h : Fits t parts nodes) : Fits t (p :: parts) (id :: nodes)

/-- Whether a pattern without some of its optional parts fits a node and those around it. -/
def Describes (p : Pattern) (t : SyntaxTree) (id : Nat) : Prop :=
  ∃ chosen ≠ [], Shortens p.parts chosen ∧ Fits t chosen.reverse (t.ancestors id)

/-- Whether no optional part is for nodes that the first required part after it is for, too. -/
def Apart : List PatternPart → Prop
  | [] => True
  | p :: rest =>
    (p.isOptional = true → ∀ q ∈ rest.find? (!·.isOptional), ¬p.Overlaps q) ∧ Apart rest

/-- Whether no optional part is for nodes that the next required part outside of it is for, too. -/
def Separated (p : Pattern) : Prop := Apart p.parts.reverse

variable {t : SyntaxTree} {parts chosen parts' chosen' : List PatternPart} {found : Option (Nat × PatternPart)}
  {current : Option Nat} {nodes : List Nat}

lemma Shortens.append (h : Shortens parts chosen) (h' : Shortens parts' chosen') :
    Shortens (parts ++ parts') (chosen ++ chosen') := by
  induction h with
  | nil => exact h'
  | keep _ ih => exact .keep ih
  | drop hp _ ih => exact .drop hp ih

lemma Shortens.reverse (h : Shortens parts chosen) : Shortens parts.reverse chosen.reverse := by
  induction h with
  | nil => exact .nil
  | @keep p _ _ _ ih =>
    rw [List.reverse_cons, List.reverse_cons]
    exact ih.append (.keep .nil)
  | @drop p _ _ hp _ ih =>
    have hboth := ih.append (.drop hp .nil)
    rwa [List.append_nil, ← List.reverse_cons] at hboth

lemma Shortens.tail_or_required {q : PatternPart} (h : Shortens parts (q :: chosen)) :
    Shortens parts chosen ∨ parts.find? (!·.isOptional) = some q := by
  generalize hall : q :: chosen = all at h
  induction h with
  | nil => cases hall
  | keep h =>
    obtain ⟨rfl, rfl⟩ := List.cons.inj hall
    cases hq : q.isOptional with
    | true => exact .inl (.drop hq h)
    | false => exact .inr (List.find?_cons_of_pos (by simp [hq]))
  | drop hp _ ih =>
    rcases ih hall with h | h
    · exact .inl (.drop hp h)
    · exact .inr (by rw [List.find?_cons_of_neg (by simp [hp]), h])

def around (t : SyntaxTree) : Option Nat → List Nat
  | none => []
  | some id => t.ancestors id

lemma around_some (id : Nat) : around t (some id) = id :: around t (t.parent id) := by
  rw [around]
  cases hparent : t.parent id with
  | none =>
    obtain ⟨n, hn⟩ := Nat.exists_eq_succ_of_ne_zero (Nat.ne_zero_of_lt t.root_lt_size)
    rw [SyntaxTree.ancestors, hn, SyntaxTree.ancestorsFrom, hparent]
    rfl
  | some p =>
    exact SyntaxTree.ancestors_child
      (SyntaxTree.mem_children_iff.mpr ⟨SyntaxTree.size_of_parent hparent, hparent⟩)

lemma ascend_of_accepts {p : PatternPart} {id : Nat} (h : p.accepts t id = true) :
    ascend t found (some id) (p :: parts) =
      ascend t (if found.any fun f => f.2.isImportant then found else some (id, p)) (t.parent id) parts := by
  rw [ascend, Option.filter_some_pos h]

lemma ascend_of_skipped {p : PatternPart} (h : current.filter (p.accepts t) = none)
    (hp : p.isOptional = true) : ascend t found current (p :: parts) = ascend t found current parts := by
  rw [ascend, h]
  exact if_pos hp

lemma exists_fits_of_ascend (h : (ascend t found current parts).isSome = true) : ∃ chosen,
    Shortens parts chosen ∧ Fits t chosen (around t current) ∧ (found.isSome = true ∨ chosen ≠ []) := by
  induction parts generalizing found current with
  | nil => exact ⟨[], .nil, .nil, .inl h⟩
  | cons p rest ih =>
    cases hcurrent : current.filter (p.accepts t) with
    | some id =>
      obtain ⟨rfl, haccepts⟩ := Option.filter_eq_some_iff.mp hcurrent
      rw [ascend_of_accepts haccepts] at h
      obtain ⟨chosen, hshort, hfits, -⟩ := ih h
      refine ⟨p :: chosen, .keep hshort, ?_, .inr (List.cons_ne_nil p chosen)⟩
      rw [around_some]
      exact .cons haccepts hfits
    | none =>
      cases hp : p.isOptional with
      | true =>
        rw [ascend_of_skipped hcurrent hp] at h
        obtain ⟨chosen, hshort, hfits, hsome⟩ := ih h
        exact ⟨chosen, .drop hp hshort, hfits, hsome⟩
      | false =>
        rw [ascend, hcurrent] at h
        simp [hp] at h

lemma isSome_taken (found : Option (Nat × PatternPart)) (taken : Nat × PatternPart) :
    (if found.any fun f => f.2.isImportant then found else some taken).isSome = true := by
  split
  · next h => exact Option.isSome_of_any h
  · rfl

lemma exists_fits_behind {p : PatternPart} {id : Nat} (hapart : Apart (p :: parts))
    (hp : p.isOptional = true) (haccepts : p.accepts t id = true) (hshort : Shortens parts chosen)
    (hfits : Fits t chosen (id :: nodes)) : ∃ chosen', Shortens parts chosen' ∧ Fits t chosen' nodes := by
  cases hfits with
  | nil => exact ⟨[], hshort, .nil⟩
  | @cons q rest _ _ hq h =>
    refine ⟨rest, hshort.tail_or_required.resolve_right fun hrequired => ?_, h⟩
    refine hapart.1 hp q hrequired ⟨t.kind id, ?_, ?_⟩
    · exact (PatternPart.accepts_iff.mp haccepts).2
    · exact (PatternPart.accepts_iff.mp hq).2

lemma isSome_ascend (hapart : Apart parts) (hshort : Shortens parts chosen)
    (hfits : Fits t chosen (around t current)) (hsome : found.isSome = true ∨ chosen ≠ []) :
    (ascend t found current parts).isSome = true := by
  induction parts generalizing found current chosen with
  | nil =>
    cases hshort
    exact hsome.resolve_right fun h => h rfl
  | cons p rest ih =>
    cases hcurrent : current.filter (p.accepts t) with
    | some id =>
      obtain ⟨rfl, haccepts⟩ := Option.filter_eq_some_iff.mp hcurrent
      rw [around_some] at hfits
      rw [ascend_of_accepts haccepts]
      have htaken := isSome_taken found (id, p)
      cases hshort with
      | keep h =>
        cases hfits with
        | cons _ hrest => exact ih hapart.2 h hrest (.inl htaken)
      | drop hp h =>
        obtain ⟨chosen', hshort', hfits'⟩ := exists_fits_behind hapart hp haccepts h hfits
        exact ih hapart.2 hshort' hfits' (.inl htaken)
    | none =>
      cases hshort with
      | keep h =>
        -- A chosen part fits where the search stands, so that the search takes it.
        cases current with
        | none => cases hfits
        | some id =>
          rw [around_some] at hfits
          cases hfits with
          | cons hp _ => simp [Option.filter, hp] at hcurrent
      | drop hp h =>
        rw [ascend_of_skipped hcurrent hp]
        exact ih hapart.2 h hfits hsome

def required (parts : List PatternPart) : List PatternPart := parts.filter (!·.isOptional)

lemma shortens_required (parts : List PatternPart) : Shortens parts (required parts) := by
  induction parts with
  | nil => exact .nil
  | cons p rest ih =>
    rw [required]
    cases hp : p.isOptional with
    | true =>
      rw [List.filter_cons_of_neg (by simp [hp])]
      exact .drop hp ih
    | false =>
      rw [List.filter_cons_of_pos (by simp [hp])]
      exact .keep ih

lemma Shortens.length_le (h : Shortens parts chosen) : (required parts).length ≤ chosen.length := by
  induction h with
  | nil => exact Nat.le_refl 0
  | keep _ ih =>
    rw [required, List.filter_cons]
    split
    · exact Nat.succ_le_succ ih
    · exact Nat.le_succ_of_le ih
  | drop hp _ ih =>
    rw [required, List.filter_cons_of_neg (by simp [hp])]
    exact ih

lemma Fits.length_le (h : Fits t chosen nodes) : chosen.length ≤ nodes.length := by
  induction h with
  | nil => exact Nat.zero_le _
  | cons _ _ ih => exact Nat.succ_le_succ ih

lemma ascend_eq_none (h : (around t current).length < (required parts).length) :
    ascend t found current parts = none := by
  by_contra hne
  obtain ⟨chosen, hshort, hfits, -⟩ := exists_fits_of_ascend (Option.isSome_iff_ne_none.mpr hne)
  exact absurd (Nat.le_trans hshort.length_le hfits.length_le) (Nat.not_le.mpr h)

def OfKinds (t : SyntaxTree) : List Nat → List String → Prop :=
  List.Forall₂ fun id kind => t.isNamed id = true ∧ t.kind id = kind

lemma fits_of_ofKinds {kinds : List String} (hnodes : OfKinds t nodes kinds)
    (hparts : List.Forall₂ (fun p kind => p.describes kind = true) parts kinds) : Fits t parts nodes := by
  induction hparts generalizing nodes with
  | nil => exact .nil
  | cons hp _ ih =>
    cases hnodes with
    | cons hid hrest => exact .cons (PatternPart.accepts_iff.mpr ⟨hid.1, hid.2 ▸ hp⟩) (ih hrest)

lemma exists_kinds (parts : List PatternPart) : ∃ kinds,
    List.Forall₂ (fun p kind => PatternPart.describes p kind = true) parts kinds := by
  induction parts with
  | nil => exact ⟨[], .nil⟩
  | cons p rest ih =>
    obtain ⟨kind, hkind⟩ := p.exists_describes
    obtain ⟨kinds, hkinds⟩ := ih
    exact ⟨kind :: kinds, .cons hkind hkinds⟩

lemma OfKinds.length_eq {kinds : List String} (hnodes : OfKinds t nodes kinds)
    (hparts : List.Forall₂ (fun p kind => PatternPart.describes p kind = true) parts kinds) :
    nodes.length = parts.length :=
  (List.Forall₂.length_eq hnodes).trans hparts.length_eq.symm

lemma OfKinds.exists_here {kind : String} {kinds : List String}
    (hnodes : OfKinds t (around t current) (kind :: kinds)) : ∃ id, current = some id ∧
      (t.isNamed id = true ∧ t.kind id = kind) ∧ OfKinds t (around t (t.parent id)) kinds := by
  cases current with
  | none => cases hnodes
  | some id =>
    rw [around_some] at hnodes
    cases hnodes with
    | cons hid hrest => exact ⟨id, rfl, hid, hrest⟩

/-- Whether the search fails among some nodes that are just those for the required parts. -/
def Misses (parts : List PatternPart) : Prop := ∃ kinds,
  List.Forall₂ (fun p kind => PatternPart.describes p kind = true) (required parts) kinds ∧ kinds ≠ [] ∧
    ∀ t found current, OfKinds t (around t current) kinds → ascend t found current parts = none

lemma Misses.cons_required {p : PatternPart} (h : Misses parts) (hp : p.isOptional = false) :
    Misses (p :: parts) := by
  obtain ⟨kinds, hkinds, -, hfails⟩ := h
  obtain ⟨kind, hkind⟩ := p.exists_describes
  refine ⟨kind :: kinds, ?_, List.cons_ne_nil kind kinds, fun t found current hnodes => ?_⟩
  · rw [required, List.filter_cons_of_pos (by simp [hp])]
    exact .cons hkind hkinds
  · obtain ⟨id, rfl, hid, hrest⟩ := hnodes.exists_here
    rw [ascend_of_accepts (PatternPart.accepts_iff.mpr ⟨hid.1, hid.2 ▸ hkind⟩)]
    exact hfails t _ _ hrest

lemma Misses.cons_optional {p : PatternPart} (h : Misses parts) (hp : p.isOptional = true) :
    Misses (p :: parts) := by
  obtain ⟨kinds, hkinds, hne, hfails⟩ := h
  refine ⟨kinds, ?_, hne, fun t found current hnodes => ?_⟩
  · rwa [required, List.filter_cons_of_neg (by simp [hp])]
  · cases hcurrent : current.filter (p.accepts t) with
    | none => rw [ascend_of_skipped hcurrent hp, hfails t found current hnodes]
    | some id =>
      obtain ⟨rfl, haccepts⟩ := Option.filter_eq_some_iff.mp hcurrent
      have hlength := hnodes.length_eq hkinds
      rw [around_some, List.length_cons] at hlength
      rw [ascend_of_accepts haccepts]
      -- The part has taken a node, and what is left is too short for the required ones.
      exact ascend_eq_none (by omega)

lemma required_eq_cons {q : PatternPart} (h : parts.find? (!·.isOptional) = some q) :
    ∃ behind, required parts = q :: behind := by
  obtain ⟨hq, before, behind, rfl, hbefore⟩ := List.find?_eq_some_iff_append.mp h
  refine ⟨required behind, ?_⟩
  rw [required, List.filter_append, List.filter_eq_nil_iff.mpr (by simpa using hbefore), List.nil_append]
  exact List.filter_cons_of_pos (by simpa using hq)

lemma misses_of_overlaps {p q : PatternPart} (hp : p.isOptional = true)
    (hfind : parts.find? (!·.isOptional) = some q) (hoverlaps : p.Overlaps q) : Misses (p :: parts) := by
  obtain ⟨kind, hpkind, hqkind⟩ := hoverlaps
  obtain ⟨behind, hfirst⟩ := required_eq_cons hfind
  obtain ⟨kinds, hkinds⟩ := exists_kinds behind
  refine ⟨kind :: kinds, ?_, List.cons_ne_nil kind kinds, fun t found current hnodes => ?_⟩
  · rw [required, List.filter_cons_of_neg (by simp [hp]), ← required, hfirst]
    exact .cons hqkind hkinds
  · obtain ⟨id, rfl, hid, hrest⟩ := hnodes.exists_here
    rw [ascend_of_accepts (PatternPart.accepts_iff.mpr ⟨hid.1, hid.2 ▸ hpkind⟩)]
    refine ascend_eq_none ?_
    rw [hfirst, List.length_cons, hrest.length_eq hkinds]
    exact Nat.lt_succ_self _

lemma misses_of_not_apart (h : ¬Apart parts) : Misses parts := by
  induction parts with
  | nil => exact absurd trivial h
  | cons p rest ih =>
    cases hp : p.isOptional with
    | false =>
      have hrest : ¬Apart rest := fun hrest => h ⟨fun hoptional => by simp [hp] at hoptional, hrest⟩
      exact (ih hrest).cons_required hp
    | true =>
      by_cases hoverlaps : ∃ q ∈ rest.find? (!·.isOptional), p.Overlaps q
      · obtain ⟨q, hfind, hpq⟩ := hoverlaps
        exact misses_of_overlaps hp hfind hpq
      · have hrest : ¬Apart rest := fun hrest => h ⟨fun _ q hq hpq => hoverlaps ⟨q, hq, hpq⟩, hrest⟩
        exact (ih hrest).cons_optional hp

end Pattern

namespace SyntaxNode

def chain (kind : String) : List String → SyntaxNode
  | [] => .node kind default true none []
  | inner :: rest => .node kind default true none [chain inner rest]

lemma chain_eq (kind : String) (rest : List String) :
    ∃ children, chain kind rest = .node kind default true none children := by
  cases rest with
  | nil => exact ⟨_, rfl⟩
  | cons inner rest => exact ⟨_, rfl⟩

end SyntaxNode

namespace Pattern

variable {t : SyntaxTree}

lemma ofKinds_chain {kind : String} {rest above : List String} {id : Nat} {parent : Option Nat}
    (hlists : t.Lists id ((SyntaxNode.chain kind rest).preorder id parent))
    (hnodes : OfKinds t (t.ancestors id) (kind :: above)) :
    OfKinds t (t.ancestors (id + rest.length)) ((kind :: rest).reverse ++ above) := by
  induction rest generalizing kind above id parent with
  | nil => exact hnodes
  | cons inner rest ih =>
    rw [SyntaxNode.chain, SyntaxNode.preorder] at hlists
    have hchild : id + 1 ∈ t.children id := by
      rw [SyntaxTree.children, hlists.head.1]
      exact List.mem_cons_self
    have hbelow := hlists.tail
    rw [SyntaxNode.preorderAll, SyntaxNode.preorderAll, List.append_nil] at hbelow
    have hinner : t.isNamed (id + 1) = true ∧ t.kind (id + 1) = inner := by
      obtain ⟨children, hchain⟩ := SyntaxNode.chain_eq inner rest
      rw [hchain, SyntaxNode.preorder] at hbelow
      rw [SyntaxTree.isNamed, SyntaxTree.kind, hbelow.head.1]
      exact ⟨rfl, rfl⟩
    have hfirst : OfKinds t (t.ancestors (id + 1)) (inner :: kind :: above) := by
      rw [SyntaxTree.ancestors_child hchild]
      exact .cons hinner hnodes
    have hall := ih hbelow hfirst
    rwa [Nat.add_right_comm, Nat.add_assoc, List.append_cons, ← List.reverse_cons] at hall

lemma exists_ofKinds {kinds : List String} (h : kinds ≠ []) :
    ∃ t id, OfKinds t (SyntaxTree.ancestors t id) kinds := by
  cases hreverse : kinds.reverse with
  | nil => exact absurd (List.reverse_eq_nil_iff.mp hreverse) h
  | cons kind rest =>
    let t : SyntaxTree := .ofNode (.chain kind rest)
    have hlists : t.Lists SyntaxTree.root ((SyntaxNode.chain kind rest).preorder 0 none) := t.lists_top
    have hroot : OfKinds t (t.ancestors SyntaxTree.root) [kind] := by
      obtain ⟨children, hchain⟩ := SyntaxNode.chain_eq kind rest
      rw [hchain, SyntaxNode.preorder] at hlists
      rw [SyntaxTree.ancestors_root]
      refine .cons ?_ .nil
      rw [SyntaxTree.isNamed, SyntaxTree.kind, hlists.head.1]
      exact ⟨rfl, rfl⟩
    refine ⟨t, SyntaxTree.root + rest.length, ?_⟩
    rw [← List.reverse_reverse kinds, hreverse, ← List.append_nil (List.reverse _)]
    exact ofKinds_chain hlists hroot

lemma describes_iff {p : Pattern} {id : Nat} : p.Describes t id ↔
    ∃ chosen ≠ [], Shortens p.parts.reverse chosen ∧ Fits t chosen (t.ancestors id) := by
  constructor
  · rintro ⟨chosen, hne, hshort, hfits⟩
    exact ⟨chosen.reverse, List.reverse_ne_nil_iff.mpr hne, hshort.reverse, hfits⟩
  · rintro ⟨chosen, hne, hshort, hfits⟩
    refine ⟨chosen.reverse, List.reverse_ne_nil_iff.mpr hne, ?_, ?_⟩
    · rw [← List.reverse_reverse p.parts]
      exact hshort.reverse
    · rwa [List.reverse_reverse]

lemma separated_of_tail {p : Pattern} (h : ∀ part ∈ p.parts.tail, part.isOptional = false) :
    p.Separated := by
  obtain ⟨parts⟩ := p
  cases parts with
  | nil => exact trivial
  | cons first rest =>
    rw [Separated, List.reverse_cons]
    have hrest : ∀ part ∈ rest.reverse, part.isOptional = false := fun part hpart =>
      h part (List.mem_reverse.mp hpart)
    generalize rest.reverse = inner at hrest
    induction inner with
    | nil => exact ⟨fun _ q hq => (by cases hq), trivial⟩
    | cons part inner ih =>
      obtain ⟨hpart, hinner⟩ := List.forall_mem_cons.mp hrest
      exact ⟨fun hoptional => by simp [hpart] at hoptional, ih hinner⟩

/-- What the search upwards finds is always described by the pattern. It finds all that is described, in every
tree, exactly if the pattern is separated. -/
theorem ascend_describes (p : Pattern) :
    (∀ t id, (ascend t none (some id) p.parts.reverse).isSome = true → p.Describes t id) ∧
      ((∀ t id, (ascend t none (some id) p.parts.reverse).isSome = true ↔ p.Describes t id) ↔
        p.Separated) := by
  have hsound (t : SyntaxTree) (id : Nat) (h : (ascend t none (some id) p.parts.reverse).isSome = true) :
      p.Describes t id := by
    obtain ⟨chosen, hshort, hfits, hsome⟩ := exists_fits_of_ascend h
    exact describes_iff.mpr ⟨chosen, hsome.resolve_left Bool.false_ne_true, hshort, hfits⟩
  refine ⟨hsound, fun hiff => ?_, fun hseparated t id => ⟨hsound t id, fun h => ?_⟩⟩
  · by_contra hnot
    obtain ⟨kinds, hkinds, hne, hfails⟩ := misses_of_not_apart hnot
    obtain ⟨t, id, hnodes⟩ := exists_ofKinds hne
    have hdescribes : p.Describes t id := by
      refine describes_iff.mpr ⟨required p.parts.reverse, ?_, shortens_required _, ?_⟩
      · rintro hnil
        rw [hnil] at hkinds
        cases hkinds
        exact hne rfl
      · exact fits_of_ofKinds hnodes hkinds
    have hfound := (hiff t id).mpr hdescribes
    rw [hfails t none (some id) hnodes] at hfound
    cases hfound
  · obtain ⟨chosen, hne, hshort, hfits⟩ := describes_iff.mp h
    exact isSome_ascend hseparated hshort hfits (.inr hne)

theorem ascend_describes_exported :
    let p : Pattern := ⟨[⟨.exactly "export_statement", [], false, true⟩,
      ⟨.exactly "class_declaration", [], false, false⟩]⟩
    let t : SyntaxTree := .ofNode (.chain "program" ["export_statement", "class_declaration"])
    let found := ascend t none (some 2) p.parts.reverse
    p.Separated ∧ p.Describes t 2 ∧ found.isSome = true ∧ found.map Prod.fst = some 1 := by
  intro p t found
  have hseparated : p.Separated := separated_of_tail (by decide)
  have hfound : found.isSome = true := by decide +kernel
  exact ⟨hseparated, ((ascend_describes p).2.mpr hseparated t 2).mp hfound, hfound, by decide +kernel⟩

theorem not_ascend_describes :
    let p : Pattern := ⟨[⟨.exactly "b", [], false, false⟩, ⟨.exactly "a", [], false, false⟩,
      ⟨.exactly "a", [], false, true⟩, ⟨.exactly "c", [], false, false⟩]⟩
    let t : SyntaxTree := .ofNode (.chain "b" ["a", "c"])
    p.Describes t 2 ∧ ascend t none (some 2) p.parts.reverse = none ∧ p.find t 2 = none := by
  intro p t
  have hshort : Shortens p.parts _ := .keep (.keep (.drop rfl (.keep .nil)))
  refine ⟨⟨_, List.cons_ne_nil _ _, hshort, ?_⟩, by decide +kernel, by decide +kernel⟩
  have hway : t.ancestors 2 = [2, 1, 0] := by decide +kernel
  rw [hway]
  exact .cons (by decide +kernel) (.cons (by decide +kernel) (.cons (by decide +kernel) .nil))

end Pattern

end Referent
