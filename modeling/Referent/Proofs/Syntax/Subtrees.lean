import Mathlib.Data.List.Chain
import Mathlib.Data.List.Sort
import Referent.Proofs.Syntax.Building

/-! A numbered tree is the tree that it was made from. Its nodes are in pre-order, so that a node and all
below it have the numbers of one interval. -/

namespace Referent

def TreeNode.label (n : TreeNode) : String × Range × Bool × Option String :=
  (n.kind, n.range, n.isNamed, n.field)

namespace SyntaxNode

def children : SyntaxNode → List SyntaxNode
  | node _ _ _ _ children => children

def label : SyntaxNode → String × Range × Bool × Option String
  | node kind range isNamed field _ => (kind, range, isNamed, field)

mutual

def subtrees : SyntaxNode → List SyntaxNode
  | node kind range isNamed field children =>
    node kind range isNamed field children :: subtreesAll children

def subtreesAll : List SyntaxNode → List SyntaxNode
  | [] => []
  | n :: rest => subtrees n ++ subtreesAll rest

end

mutual

theorem length_subtrees : (n : SyntaxNode) → n.subtrees.length = n.size
  | node kind range isNamed field children => by
    rw [subtrees, List.length_cons, length_subtreesAll, size]

theorem length_subtreesAll : (ns : List SyntaxNode) → (subtreesAll ns).length = sizeAll ns
  | [] => rfl
  | n :: rest => by
    rw [subtreesAll, List.length_append, length_subtrees, length_subtreesAll, sizeAll]

end

mutual

theorem map_label_preorder (id : Nat) (parent : Option Nat) :
    (n : SyntaxNode) → (n.preorder id parent).map TreeNode.label = n.subtrees.map label
  | node kind range isNamed field children => by
    rw [preorder, subtrees, List.map_cons, List.map_cons, map_label_preorderAll]
    rfl

theorem map_label_preorderAll (id parent : Nat) :
    (ns : List SyntaxNode) → (preorderAll id parent ns).map TreeNode.label = (subtreesAll ns).map label
  | [] => rfl
  | n :: rest => by
    rw [preorderAll, subtreesAll, List.map_append, List.map_append, map_label_preorder,
      map_label_preorderAll]

end

lemma subtrees_eq (n : SyntaxNode) : n.subtrees = n :: subtreesAll n.children := by
  cases n with
  | node kind range isNamed field children => rw [subtrees, SyntaxNode.children]

lemma size_eq_succ (n : SyntaxNode) : n.size = sizeAll n.children + 1 := by
  cases n with
  | node kind range isNamed field children => rw [size, SyntaxNode.children]

mutual

theorem subtrees_within {k : Nat} {m : SyntaxNode} :
    (n : SyntaxNode) → n.subtrees[k]? = some m → m.subtrees <+: n.subtrees.drop k
  | node kind range isNamed field children, h => by
    cases k with
    | zero =>
      rw [subtrees, List.getElem?_cons_zero, Option.some.injEq] at h
      subst h
      exact List.prefix_rfl
    | succ k =>
      rw [subtrees, List.getElem?_cons_succ] at h
      rw [subtrees, List.drop_succ_cons]
      exact subtreesAll_within children h

theorem subtreesAll_within {k : Nat} {m : SyntaxNode} :
    (ns : List SyntaxNode) → (subtreesAll ns)[k]? = some m → m.subtrees <+: (subtreesAll ns).drop k
  | [], h => by cases h
  | n :: rest, h => by
    rw [subtreesAll] at h ⊢
    by_cases hk : k < n.subtrees.length
    · rw [List.getElem?_append_left hk] at h
      rw [List.drop_append_of_le_length (Nat.le_of_lt hk)]
      exact (subtrees_within n h).trans (List.prefix_append _ _)
    · rw [List.getElem?_append_right (Nat.not_lt.mp hk)] at h
      rw [List.drop_append, List.drop_eq_nil_of_le (Nat.not_lt.mp hk), List.nil_append]
      exact subtreesAll_within rest h

end

lemma map_siblingIds {l : List SyntaxNode} {id : Nat} {ns : List SyntaxNode}
    (h : subtreesAll ns <+: l.drop id) : (siblingIds id ns).map (l[·]?) = ns.map some := by
  induction ns generalizing id with
  | nil => rfl
  | cons n rest ih =>
    obtain ⟨behind, h⟩ := h
    rw [subtreesAll] at h
    have hfirst : l[id]? = some n := by
      rw [← List.head?_drop, ← h, subtrees_eq]
      rfl
    have hrest : subtreesAll rest <+: l.drop (id + n.size) := by
      rw [← List.drop_drop, ← h, ← length_subtrees, List.append_assoc, List.drop_left]
      exact List.prefix_append _ _
    rw [siblingIds, List.map_cons, List.map_cons, hfirst, ih hrest]

lemma siblingIds_bounds {id c : Nat} {ns : List SyntaxNode} (hc : c ∈ siblingIds id ns) :
    id ≤ c ∧ c < id + sizeAll ns := by
  induction ns generalizing id with
  | nil => cases hc
  | cons n rest ih =>
    have hsize := n.size_eq_succ
    rw [sizeAll]
    rcases List.mem_cons.mp hc with rfl | hc
    · omega
    · have hbounds := ih hc
      omega

lemma pairwise_siblingIds (id : Nat) (ns : List SyntaxNode) : (siblingIds id ns).Pairwise (· < ·) := by
  induction ns generalizing id with
  | nil => exact .nil
  | cons n rest ih =>
    refine List.pairwise_cons.mpr ⟨fun c hc => ?_, ih _⟩
    have hle := (siblingIds_bounds hc).1
    have hsize := n.size_eq_succ
    omega

end SyntaxNode

namespace SyntaxTree

open SyntaxNode

variable {t : SyntaxTree} {a c i p : Nat} {n : SyntaxNode}

mutual

theorem lists_subtree {k : Nat} {m : SyntaxNode} {id : Nat} {parent : Option Nat} :
    (n : SyntaxNode) → t.Lists id (n.preorder id parent) → n.subtrees[k]? = some m →
      ∃ parent', t.Lists (id + k) (m.preorder (id + k) parent')
  | .node kind range isNamed field children, h, hk => by
    cases k with
    | zero =>
      rw [subtrees, List.getElem?_cons_zero, Option.some.injEq] at hk
      exact ⟨parent, hk ▸ h⟩
    | succ k =>
      rw [subtrees, List.getElem?_cons_succ] at hk
      rw [preorder] at h
      have hbelow := lists_subtreeAll children h.tail hk
      rwa [Nat.add_right_comm, Nat.add_assoc] at hbelow

theorem lists_subtreeAll {k : Nat} {m : SyntaxNode} {id parent : Nat} :
    (ns : List SyntaxNode) → t.Lists id (preorderAll id parent ns) → (subtreesAll ns)[k]? = some m →
      ∃ parent', t.Lists (id + k) (m.preorder (id + k) parent')
  | [], _, hk => by cases hk
  | n :: rest, h, hk => by
    rw [preorderAll] at h
    rw [subtreesAll] at hk
    have hrest := h.right
    rw [length_preorder] at hrest
    have hlength := length_subtrees n
    by_cases hlt : k < n.subtrees.length
    · rw [List.getElem?_append_left hlt] at hk
      exact lists_subtree n h.left hk
    · rw [List.getElem?_append_right (Nat.not_lt.mp hlt)] at hk
      have hbelow := lists_subtreeAll rest hrest hk
      rwa [show id + n.size + (k - n.subtrees.length) = id + k by omega] at hbelow

end

lemma lists_spot (h : t.top.subtrees[i]? = some n) : ∃ parent, t.Lists i (n.preorder i parent) := by
  have hbelow := lists_subtree t.top t.lists_top h
  rwa [root, Nat.zero_add] at hbelow

lemma children_spot (h : t.top.subtrees[i]? = some n) : t.children i = siblingIds (i + 1) n.children := by
  obtain ⟨parent, hlists⟩ := lists_spot h
  cases n with
  | node kind range isNamed field children =>
    rw [preorder] at hlists
    rw [SyntaxTree.children, hlists.head.1, SyntaxNode.children]

lemma exists_spot (hi : i < t.size) : ∃ n, t.top.subtrees[i]? = some n := by
  rw [size_eq, ← length_subtrees] at hi
  exact ⟨_, List.getElem?_eq_getElem hi⟩

lemma spot_stop_le (h : t.top.subtrees[i]? = some n) : i + n.size ≤ t.size := by
  have hprefix := (subtrees_within t.top h).length_le
  have hi : i < t.top.subtrees.length := (List.getElem?_eq_some_iff.mp h).1
  rw [List.length_drop, length_subtrees, length_subtrees] at hprefix
  rw [length_subtrees] at hi
  rw [size_eq]
  omega

lemma map_children (h : t.top.subtrees[i]? = some n) :
    (t.children i).map (t.top.subtrees[·]?) = n.children.map some := by
  rw [children_spot h]
  obtain ⟨behind, hbehind⟩ := subtrees_within t.top h
  refine map_siblingIds ⟨behind, ?_⟩
  rw [← List.drop_drop, ← hbehind, subtrees_eq n]
  rfl

lemma children_eq_filter (p : Nat) : t.children p = t.ids.filter fun c => t.parent c = some p := by
  have hsorted : (t.children p).Pairwise (· < ·) := by
    by_cases hp : p < t.size
    · obtain ⟨n, hn⟩ := exists_spot hp
      rw [children_spot hn]
      exact pairwise_siblingIds _ _
    · rw [children, get_of_size_le (Nat.not_lt.mp hp)]
      exact .nil
  refine hsorted.eq_of_mem_iff (List.pairwise_lt_range.filter _) fun c => ?_
  rw [mem_children_iff, ids, List.mem_filter, List.mem_range, decide_eq_true_eq]

lemma lt_of_mem_children (h : t.top.subtrees[a]? = some n) (hle : a ≤ p) (hp : p < a + n.size)
    (hc : c ∈ t.children p) : c < a + n.size := by
  obtain ⟨m, hm⟩ := exists_spot (Nat.lt_of_lt_of_le hp (spot_stop_le h))
  have hinside : n.subtrees[p - a]? = some m := by
    obtain ⟨behind, hbehind⟩ := subtrees_within t.top h
    have hlt : p - a < n.subtrees.length := by
      rw [length_subtrees]
      omega
    rw [← List.getElem?_append_left hlt, hbehind, List.getElem?_drop, Nat.add_sub_cancel' hle, hm]
  have hprefix := (subtrees_within n hinside).length_le
  rw [List.length_drop, length_subtrees, length_subtrees] at hprefix
  rw [children_spot hm] at hc
  have hbounds := (siblingIds_bounds hc).2
  have hsize := m.size_eq_succ
  omega

lemma mem_ancestors_of_child (hc : c ∈ t.children p) (hi : i < t.size) :
    c ∈ t.ancestors i → p ∈ t.ancestors i := by
  obtain ⟨hlt, hsize, hparent⟩ := of_mem_children hc
  refine node_induction (P := fun i => c ∈ t.ancestors i → p ∈ t.ancestors i) ?_ (fun q d hd hq => ?_) i hi
  · intro h
    rw [ancestors_root, List.mem_singleton] at h
    subst h
    exact absurd hlt (Nat.not_lt_zero p)
  · rw [ancestors_child hd]
    intro h
    refine List.mem_cons_of_mem d ?_
    rcases List.mem_cons.mp h with rfl | h
    · obtain rfl := Option.some.inj (hparent.symm.trans (of_mem_children hd).2.2)
      exact mem_ancestors_self (Nat.lt_trans hlt hsize)
    · exact hq h

mutual

theorem mem_ancestors_preorder {id : Nat} {parent : Option Nat} (hi : i < t.size) :
    (n : SyntaxNode) → t.Lists id (n.preorder id parent) → id ≤ i → i < id + n.size →
      id ∈ t.ancestors i
  | .node kind range isNamed field children, h, hle, hlt => by
    rw [preorder] at h
    rw [SyntaxNode.size] at hlt
    rcases Nat.eq_or_lt_of_le hle with rfl | hbehind
    · exact mem_ancestors_self hi
    · obtain ⟨c, hc, hmem⟩ := mem_ancestors_preorderAll hi children h.tail hbehind (by omega)
      refine mem_ancestors_of_child ?_ hi hmem
      rwa [SyntaxTree.children, h.head.1]

theorem mem_ancestors_preorderAll {id parent : Nat} (hi : i < t.size) :
    (ns : List SyntaxNode) → t.Lists id (preorderAll id parent ns) → id ≤ i → i < id + sizeAll ns →
      ∃ c ∈ siblingIds id ns, c ∈ t.ancestors i
  | [], _, hle, hlt => absurd hle (Nat.not_le.mpr hlt)
  | n :: rest, h, hle, hlt => by
    rw [preorderAll] at h
    rw [sizeAll] at hlt
    have hrest := h.right
    rw [length_preorder] at hrest
    rw [siblingIds]
    by_cases hfirst : i < id + n.size
    · exact ⟨id, List.mem_cons_self, mem_ancestors_preorder hi n h.left hle hfirst⟩
    · obtain ⟨c, hc, hmem⟩ := mem_ancestors_preorderAll hi rest hrest (Nat.not_lt.mp hfirst) (by omega)
      exact ⟨c, List.mem_cons_of_mem id hc, hmem⟩

end

lemma mem_ancestors_iff (h : t.top.subtrees[a]? = some n) (hi : i < t.size) :
    a ∈ t.ancestors i ↔ a ≤ i ∧ i < a + n.size := by
  constructor
  · refine node_induction (P := fun i => a ∈ t.ancestors i → a ≤ i ∧ i < a + n.size) ?_
      (fun p c hc hp hmem => ?_) i hi
    · have hsize := n.size_eq_succ
      intro hmem
      rw [ancestors_root, List.mem_singleton] at hmem
      omega
    · have hlt := (of_mem_children hc).1
      have hsize := n.size_eq_succ
      rw [ancestors_child hc] at hmem
      rcases List.mem_cons.mp hmem with rfl | hmem
      · omega
      · obtain ⟨hle, hbelow⟩ := hp hmem
        exact ⟨Nat.le_trans hle (Nat.le_of_lt hlt), lt_of_mem_children h hle hbelow hc⟩
  · obtain ⟨parent, hlists⟩ := lists_spot h
    exact fun ⟨hle, hlt⟩ => mem_ancestors_preorder hi n hlists hle hlt

structure LeadsUp (t : SyntaxTree) (id : Nat) (way : List Nat) : Prop where
  head : way.head? = some id
  steps : way.IsChain fun a b => t.parent a = some b
  last : way.getLast? = some root

lemma leadsUp_ancestors (hi : i < t.size) : t.LeadsUp i (t.ancestors i) := by
  refine node_induction (P := fun i => t.LeadsUp i (t.ancestors i)) ?_ (fun p c hc hp => ?_) i hi
  · rw [ancestors_root]
    exact ⟨rfl, .singleton root, rfl⟩
  · rw [ancestors_child hc]
    refine ⟨rfl, List.isChain_cons.mpr ⟨fun b hb => ?_, hp.steps⟩, ?_⟩
    · obtain rfl := Option.some.inj (hp.head.symm.trans hb)
      exact (of_mem_children hc).2.2
    · rw [List.getLast?_cons, hp.last, Option.getD_some]

/-- Whether a numbered tree is the tree of a node. -/
structure Numbers (t : SyntaxTree) (top : SyntaxNode) : Prop where
  /-- The nodes stand in pre-order, with all that they say. -/
  labels : t.nodes.toList.map TreeNode.label = top.subtrees.map SyntaxNode.label
  parent_eq_none : ∀ id < t.size, t.parent id = none ↔ id = root
  parent_lt : ∀ id p, t.parent id = some p → p < id
  children_eq : ∀ id, t.children id = t.ids.filter fun c => t.parent c = some id
  children_inOrder : ∀ id n, top.subtrees[id]? = some n →
    (t.children id).map (top.subtrees[·]?) = n.children.map some
  below_iff : ∀ id n, top.subtrees[id]? = some n → id + n.size ≤ t.size ∧
    ∀ i < t.size, id ∈ t.ancestors i ↔ id ≤ i ∧ i < id + n.size
  leadsUp : ∀ id < t.size, t.LeadsUp id (t.ancestors id)
  /-- Nodes that are added one after the other give the same tree, while there are numbers for them. -/
  pushed : top.size ≤ UInt32.size → (push #[] none top).1 = t.nodes

/-- The numbers of a tree's nodes show the tree as it is. The node with the number 0 is the only one that
has no parent, all others come behind their parents, and each node's children are those whose parent it is,
in order. All that is below a node has the numbers that follow its own, and from each node the parents lead
up to the root. -/
theorem numbers_ofNode (top : SyntaxNode) : (ofNode top).Numbers top := by
  let t := ofNode top
  have htop : t.top = top := rfl
  refine ⟨map_label_preorder 0 none top, fun id hid => ?_, fun id p => lt_of_parent, children_eq_filter,
    fun id n hn => map_children (htop ▸ hn), fun id n hn => ?_, fun id hid => leadsUp_ancestors hid, ?_⟩
  · constructor
    · intro hnone
      by_contra hroot
      obtain ⟨p, hp, -⟩ := exists_parent hid hroot
      cases hnone.symm.trans hp
    · rintro rfl
      exact t.parent_root
  · exact ⟨spot_stop_le (t := t) hn, fun i hi => mem_ancestors_iff (t := t) hn hi⟩
  · intro hsize
    rw [push_eq #[] none top (by rwa [Array.size_empty, Nat.zero_add]), Array.empty_append]
    rfl

theorem numbers_ofNode_call :
    let arguments : SyntaxNode := .node "arguments" (.onLine 0 1 4) true none
      [.node "(" (.onLine 0 1 2) false none [], .node "identifier" (.onLine 0 2 3) true none [],
        .node ")" (.onLine 0 3 4) false none []]
    let top : SyntaxNode := .node "call" (.onLine 0 0 4) true none
      [.node "identifier" (.onLine 0 0 1) true none [], arguments]
    let t := ofNode top
    top.subtrees[2]? = some arguments ∧ top.size ≤ UInt32.size ∧ t.children 2 = [3, 4, 5] ∧
      (t.children 2).map (top.subtrees[·]?) = arguments.children.map some ∧
      (∀ i < t.size, 2 ∈ t.ancestors i ↔ 2 ≤ i ∧ i < 2 + arguments.size) ∧
      t.LeadsUp 4 (t.ancestors 4) ∧ t.ancestors 4 = [4, 2, 0] ∧ (push #[] none top).1 = t.nodes := by
  intro arguments top t
  have hnumbers : t.Numbers top := numbers_ofNode top
  have harguments : top.subtrees[2]? = some arguments := rfl
  have hsize : top.size ≤ UInt32.size := by decide
  have hid : 4 < t.size := by decide +kernel
  exact ⟨harguments, hsize, by decide +kernel, hnumbers.children_inOrder 2 arguments harguments,
    (hnumbers.below_iff 2 arguments harguments).2, hnumbers.leadsUp 4 hid, by decide +kernel,
    hnumbers.pushed hsize⟩

end SyntaxTree

end Referent
