import Referent.Proofs.Syntax.Fits

namespace Referent

namespace SyntaxNode

mutual

theorem length_preorder (id : Nat) (parent : Option Nat) :
    (n : SyntaxNode) → (n.preorder id parent).length = n.size
  | node kind range isNamed field children => by
    rw [preorder, List.length_cons, length_preorderAll, size]

theorem length_preorderAll (id parent : Nat) :
    (ns : List SyntaxNode) → (preorderAll id parent ns).length = sizeAll ns
  | [] => rfl
  | n :: rest => by
    rw [preorderAll, List.length_append, length_preorder, length_preorderAll, sizeAll]

end

end SyntaxNode

namespace SyntaxTree

open SyntaxNode

variable {t : SyntaxTree} {a c i p : Nat}

def Lists (t : SyntaxTree) (id : Nat) (l : List TreeNode) : Prop :=
  ∀ k node, l[k]? = some node → t.nodes[id + k]? = some node

lemma Lists.head {id : Nat} {node : TreeNode} {l : List TreeNode} (h : t.Lists id (node :: l)) :
    t.get id = node ∧ id < t.size := by
  have hnode : t.nodes[id]? = some node := h 0 node rfl
  exact ⟨by rw [get, hnode, Option.getD_some], (Array.getElem?_eq_some_iff.mp hnode).1⟩

lemma Lists.tail {id : Nat} {node : TreeNode} {l : List TreeNode} (h : t.Lists id (node :: l)) :
    t.Lists (id + 1) l := by
  intro k node' hk
  have hnode := h (k + 1) node' hk
  rwa [Nat.add_comm k, ← Nat.add_assoc] at hnode

lemma Lists.left {id : Nat} {l l' : List TreeNode} (h : t.Lists id (l ++ l')) : t.Lists id l := by
  intro k node hk
  apply h k node
  rwa [List.getElem?_append_left (List.getElem?_eq_some_iff.mp hk).1]

lemma Lists.right {id : Nat} {l l' : List TreeNode} (h : t.Lists id (l ++ l')) :
    t.Lists (id + l.length) l' := by
  intro k node hk
  have hnode := h (l.length + k) node
  rw [List.getElem?_append_right (Nat.le_add_right _ _), Nat.add_sub_cancel_left] at hnode
  rw [Nat.add_assoc]
  exact hnode hk

lemma lists_top (t : SyntaxTree) : t.Lists root (t.top.preorder root none) := by
  intro k node hk
  have hnodes : t.nodes = (t.top.preorder root none).toArray := t.nodes_eq
  rw [hnodes, root, Nat.zero_add, List.getElem?_toArray]
  exact hk

lemma size_eq (t : SyntaxTree) : t.size = t.top.size := by
  rw [size, t.nodes_eq, List.size_toArray, length_preorder]

lemma Lists.parent_eq {parent : Option Nat} {n : SyntaxNode} (h : t.Lists i (n.preorder i parent)) :
    t.parent i = parent ∧ i < t.size := by
  cases n with
  | node kind range isNamed field children =>
    rw [preorder] at h
    exact ⟨by rw [SyntaxTree.parent, h.head.1], h.head.2⟩

mutual

theorem exists_parent_preorder {id : Nat} {parent : Option Nat} :
    (n : SyntaxNode) → t.Lists id (n.preorder id parent) → ∀ i, id < i → i < id + n.size →
      ∃ (m : SyntaxNode) (p : Nat), t.Lists i (m.preorder i (some p)) ∧ p < i ∧ i ∈ t.children p
  | .node kind range isNamed field children, h, i, hlt, hi => by
    rw [preorder] at h
    rw [SyntaxNode.size] at hi
    rcases exists_parent_preorderAll children h.tail i (by omega) (by omega) with ⟨m, hm, hmem⟩ | hbelow
    · refine ⟨m, id, hm, hlt, ?_⟩
      rw [SyntaxTree.children, h.head.1]
      exact hmem
    · exact hbelow

theorem exists_parent_preorderAll {id parent : Nat} :
    (ns : List SyntaxNode) → t.Lists id (preorderAll id parent ns) →
      ∀ i, id ≤ i → i < id + sizeAll ns →
      (∃ m : SyntaxNode, t.Lists i (m.preorder i (some parent)) ∧ i ∈ siblingIds id ns) ∨
        ∃ (m : SyntaxNode) (p : Nat), t.Lists i (m.preorder i (some p)) ∧ p < i ∧ i ∈ t.children p
  | [], _, i, hle, hi => absurd hle (Nat.not_le.mpr hi)
  | n :: rest, h, i, hle, hi => by
    rw [preorderAll] at h
    rw [sizeAll] at hi
    rw [siblingIds]
    have hrest := h.right
    rw [length_preorder] at hrest
    rcases Nat.lt_trichotomy i id with hlt | rfl | hlt
    · exact absurd hle (Nat.not_le.mpr hlt)
    · exact .inl ⟨n, h.left, List.mem_cons_self⟩
    · by_cases hfirst : i < id + n.size
      · exact .inr (exists_parent_preorder n h.left i hlt hfirst)
      · rcases exists_parent_preorderAll rest hrest i (by omega) (by omega) with ⟨m, hm, hmem⟩ | hbelow
        · exact .inl ⟨m, hm, List.mem_cons_of_mem _ hmem⟩
        · exact .inr hbelow

end

lemma exists_node (hi : i < t.size) :
    ∃ (n : SyntaxNode) (parent : Option Nat), t.Lists i (n.preorder i parent) := by
  by_cases hroot : i = root
  · exact ⟨t.top, none, hroot ▸ t.lists_top⟩
  · have hbounds : root < i ∧ i < root + t.top.size := by
      rw [← size_eq]
      simp only [root] at hroot ⊢
      omega
    obtain ⟨n, p, hn, -⟩ := exists_parent_preorder t.top t.lists_top i hbounds.1 hbounds.2
    exact ⟨n, some p, hn⟩

lemma root_lt_size (t : SyntaxTree) : root < t.size := t.lists_top.parent_eq.2

@[simp] lemma parent_root (t : SyntaxTree) : t.parent root = none := t.lists_top.parent_eq.1

theorem exists_parent (hi : i < t.size) (hroot : i ≠ root) :
    ∃ p, t.parent i = some p ∧ p < i ∧ i ∈ t.children p := by
  rw [size_eq] at hi
  simp only [root] at hroot
  obtain ⟨n, p, hn, h⟩ := exists_parent_preorder t.top t.lists_top i
    (by simp only [root]; omega) (by simp only [root]; omega)
  exact ⟨p, hn.parent_eq.1, h⟩

lemma parent_of_mem_siblingIds {id parent : Nat} {ns : List SyntaxNode}
    (h : t.Lists id (preorderAll id parent ns)) (hc : c ∈ siblingIds id ns) :
    id ≤ c ∧ c < t.size ∧ t.parent c = some parent := by
  induction ns generalizing id with
  | nil => exact absurd hc List.not_mem_nil
  | cons n rest ih =>
    rw [preorderAll] at h
    rcases List.mem_cons.mp hc with rfl | hc
    · have hfirst := h.left.parent_eq
      exact ⟨Nat.le_refl _, hfirst.2, hfirst.1⟩
    · have hrest := h.right
      rw [length_preorder] at hrest
      obtain ⟨hle, hlater⟩ := ih hrest hc
      exact ⟨by omega, hlater⟩

lemma of_mem_children (hc : c ∈ t.children p) : p < c ∧ c < t.size ∧ t.parent c = some p := by
  by_cases hp : p < t.size
  · obtain ⟨n, parent, hn⟩ := exists_node hp
    cases n with
    | node kind range isNamed field children =>
      rw [preorder] at hn
      rw [SyntaxTree.children, hn.head.1] at hc
      exact parent_of_mem_siblingIds hn.tail hc
  · rw [children, get_of_size_le (Nat.not_lt.mp hp)] at hc
    exact absurd hc List.not_mem_nil

theorem mem_children_iff : c ∈ t.children p ↔ c < t.size ∧ t.parent c = some p := by
  refine ⟨fun hc => (of_mem_children hc).2, fun ⟨hsize, hparent⟩ => ?_⟩
  have hroot : c ≠ root := by
    rintro rfl
    simp at hparent
  obtain ⟨q, hq, -, hmem⟩ := exists_parent hsize hroot
  obtain rfl := Option.some.inj (hparent.symm.trans hq)
  exact hmem

lemma size_of_parent (h : t.parent i = some p) : i < t.size := by
  by_contra hi
  rw [parent, get_of_size_le (Nat.not_lt.mp hi)] at h
  cases h

lemma lt_of_parent (h : t.parent i = some p) : p < i :=
  (of_mem_children (mem_children_iff.mpr ⟨size_of_parent h, h⟩)).1

theorem node_induction {P : Nat → Prop} (top : P root)
    (child : ∀ p, ∀ c ∈ t.children p, P p → P c) : ∀ i < t.size, P i := by
  intro i hi
  induction i using Nat.strongRecOn with
  | ind i ih =>
    by_cases hroot : i = root
    · exact hroot ▸ top
    · obtain ⟨p, -, hlt, hmem⟩ := exists_parent hi hroot
      exact child p i hmem (ih p hlt (Nat.lt_trans hlt hi))

lemma ancestorsFrom_eq {fuel fuel' : Nat} (h : i < fuel) (h' : i < fuel') :
    t.ancestorsFrom fuel i = t.ancestorsFrom fuel' i := by
  induction fuel generalizing fuel' i with
  | zero => exact absurd h (Nat.not_lt_zero i)
  | succ n ih =>
    obtain ⟨m, rfl⟩ := Nat.exists_eq_succ_of_ne_zero (Nat.ne_zero_of_lt h')
    rw [ancestorsFrom, ancestorsFrom]
    cases hparent : t.parent i with
    | none => rfl
    | some p =>
      have hlt := lt_of_parent hparent
      exact congrArg (i :: ·) (ih (by omega) (by omega))

@[simp] lemma ancestors_root (t : SyntaxTree) : t.ancestors root = [root] := by
  rw [ancestors, ancestorsFrom_eq t.root_lt_size Nat.one_pos, ancestorsFrom, parent_root]

lemma ancestors_child (hc : c ∈ t.children p) : t.ancestors c = c :: t.ancestors p := by
  obtain ⟨hlt, hsize, hparent⟩ := of_mem_children hc
  rw [ancestors, ancestorsFrom_eq hsize (Nat.lt_succ_self c), ancestorsFrom, hparent, ancestors]
  exact congrArg (c :: ·) (ancestorsFrom_eq hlt (Nat.lt_trans hlt hsize))

lemma mem_ancestors_self (hi : i < t.size) : i ∈ t.ancestors i := by
  refine node_induction (P := fun i => i ∈ t.ancestors i) (by simp) (fun p c hc _ => ?_) i hi
  rw [ancestors_child hc]
  exact List.mem_cons_self

lemma root_mem_ancestors (hi : i < t.size) : root ∈ t.ancestors i := by
  refine node_induction (P := fun i => root ∈ t.ancestors i) (by simp) (fun p c hc hp => ?_) i hi
  rw [ancestors_child hc]
  exact List.mem_cons_of_mem c hp

lemma lt_size_of_mem_ancestors (hi : i < t.size) : ∀ a ∈ t.ancestors i, a < t.size := by
  refine node_induction (P := fun i => ∀ a ∈ t.ancestors i, a < t.size)
    (by simp [root_lt_size]) (fun p c hc hp => ?_) i hi
  rw [ancestors_child hc]
  exact List.forall_mem_cons.mpr ⟨(of_mem_children hc).2.1, hp⟩

lemma exists_child_of_mem_ancestors (hi : i < t.size) :
    ∀ a ∈ t.ancestors i, a = i ∨ ∃ c ∈ t.children a, c ∈ t.ancestors i := by
  refine node_induction (P := fun i => ∀ a ∈ t.ancestors i, a = i ∨
    ∃ c ∈ t.children a, c ∈ t.ancestors i) (by simp) (fun p c hc hp a ha => ?_) i hi
  rw [ancestors_child hc] at ha ⊢
  rcases List.mem_cons.mp ha with rfl | ha
  · exact .inl rfl
  · rcases hp a ha with rfl | ⟨c', hc', hmem⟩
    · exact .inr ⟨c, hc, List.mem_cons_self⟩
    · exact .inr ⟨c', hc', List.mem_cons_of_mem c hmem⟩

end SyntaxTree

end Referent
