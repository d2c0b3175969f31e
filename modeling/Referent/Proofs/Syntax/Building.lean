import Referent.Proofs.Syntax.Numbering

namespace Referent

namespace TreeNode

def addChild (id : Nat) (n : TreeNode) : TreeNode := { n with children := n.children ++ [id] }

def addChildren (ids : List Nat) (n : TreeNode) : TreeNode := { n with children := n.children ++ ids }

end TreeNode

namespace SyntaxTree

mutual

def push (nodes : Array TreeNode) (parent : Option Nat) : SyntaxNode → Array TreeNode × Nat
  | .node kind range isNamed field children =>
    let id := (UInt32.ofNat nodes.size).toNat
    (pushAll (nodes.push ⟨kind, range, isNamed, field, parent, []⟩) id children, id)

def pushAll (nodes : Array TreeNode) (parent : Nat) : List SyntaxNode → Array TreeNode
  | [] => nodes
  | n :: rest =>
    let pushed := push nodes (some parent) n
    pushAll (pushed.1.modify parent (TreeNode.addChild pushed.2)) parent rest

end

end SyntaxTree

section Modify

variable {α : Type} {xs ys : Array α} {i : Nat} {f g : α → α}

lemma modify_append (h : i < xs.size) : (xs ++ ys).modify i f = xs.modify i f ++ ys := by
  refine Array.ext_getElem? fun j => ?_
  rw [Array.getElem?_modify, Array.getElem?_append, Array.getElem?_append, Array.getElem?_modify,
    Array.size_modify]
  by_cases hij : i = j
  · subst hij
    rw [if_pos rfl, if_pos h, if_pos h, if_pos rfl]
  · rw [if_neg hij, if_neg hij]

lemma modify_id : xs.modify i id = xs := by
  refine Array.ext_getElem? fun j => ?_
  rw [Array.getElem?_modify, Option.map_id, id, ite_self]

lemma modify_push (a : α) : (xs.push a).modify xs.size f = xs.push (f a) := by
  refine Array.ext_getElem? fun j => ?_
  rw [Array.getElem?_modify, Array.getElem?_push, Array.getElem?_push]
  by_cases hj : j = xs.size
  · rw [if_pos hj.symm, if_pos hj, if_pos hj, Option.map_some]
  · rw [if_neg (Ne.symm hj), if_neg hj, if_neg hj]

lemma modify_modify : (xs.modify i f).modify i g = xs.modify i (g ∘ f) := by
  refine Array.ext_getElem? fun j => ?_
  simp only [Array.getElem?_modify]
  split
  · rw [Option.map_map]
  · rfl

end Modify

namespace SyntaxTree

open SyntaxNode

mutual

theorem push_eq (nodes : Array TreeNode) (parent : Option Nat) :
    (n : SyntaxNode) → nodes.size + n.size ≤ UInt32.size →
      push nodes parent n = (nodes ++ (n.preorder nodes.size parent).toArray, nodes.size)
  | .node kind range isNamed field children, h => by
    rw [SyntaxNode.size] at h
    have hid : (UInt32.ofNat nodes.size).toNat = nodes.size := UInt32.toNat_ofNat_of_lt' (by omega)
    rw [push, hid, pushAll_eq _ _ children (by rw [Array.size_push]; omega) (by simp), modify_push, preorder,
      Array.size_push]
    simp [TreeNode.addChildren]

theorem pushAll_eq (nodes : Array TreeNode) (parent : Nat) :
    (ns : List SyntaxNode) → nodes.size + sizeAll ns ≤ UInt32.size → parent < nodes.size →
      pushAll nodes parent ns = nodes.modify parent (TreeNode.addChildren (siblingIds nodes.size ns)) ++
        (preorderAll nodes.size parent ns).toArray
  | [], _, _ => by
    have hnone : TreeNode.addChildren (siblingIds nodes.size []) = id := by
      funext p
      simp [TreeNode.addChildren, siblingIds]
    rw [pushAll, preorderAll, hnone, Array.append_empty, modify_id]
  | n :: rest, h, hparent => by
    rw [sizeAll] at h
    have hadd : TreeNode.addChildren (siblingIds (nodes.size + n.size) rest) ∘
        TreeNode.addChild nodes.size = TreeNode.addChildren (siblingIds nodes.size (n :: rest)) := by
      funext p
      simp [TreeNode.addChildren, TreeNode.addChild, siblingIds]
    let entered := nodes.modify parent (TreeNode.addChild nodes.size)
    have hentered : entered.size = nodes.size := Array.size_modify
    have hsize : (entered ++ (n.preorder nodes.size (some parent)).toArray).size = nodes.size + n.size := by
      simp [hentered, length_preorder]
    have hrest := pushAll_eq (entered ++ (n.preorder nodes.size (some parent)).toArray) parent rest
      (by omega) (by omega)
    rw [hsize, modify_append (by omega), modify_modify, hadd, Array.append_assoc] at hrest
    rw [pushAll, push_eq nodes (some parent) n (by omega), modify_append hparent, preorderAll,
      ← List.append_toArray]
    exact hrest

end

end SyntaxTree

end Referent
