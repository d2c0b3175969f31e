import Referent.Proofs.Document.Offsets
import Referent.Proofs.Syntax.Numbering

namespace Referent

def Range.Follows (s r : Range) : Prop := r.containsRange s = true ∨ r.stop ≤ s.start

namespace Range

lemma Follows.uncrossed {r s : Range} (h : s.Follows r) : r.Uncrossed s := by
  rcases h with h | h
  · exact .inl h
  · exact .inr (.inr (.inl h))

end Range

namespace SyntaxTree

variable {d : Document} {t : SyntaxTree}

structure Nested (l : List TreeNode) (bounds : List Range) : Prop where
  follows : l.Pairwise fun a b => b.range.Follows a.range
  within : ∀ a ∈ l, ∃ r ∈ bounds, r.containsRange a.range = true

mutual

theorem nested_preorder (ht : t.Fits d) (id : Nat) (parent : Option Nat) :
    (n : SyntaxNode) → t.Lists id (n.preorder id parent) →
      Nested (n.preorder id parent) [t.range id]
  | .node kind range isNamed field children, h => by
    rw [SyntaxNode.preorder] at h ⊢
    obtain ⟨hget, hid⟩ := h.head
    have hrange : t.range id = range := by rw [SyntaxTree.range, hget]
    have hchildren : t.children id = SyntaxNode.siblingIds (id + 1) children := by
      rw [SyntaxTree.children, hget]
    have hordered := ht.ordered id hid
    have hinside := ht.nested id hid
    rw [hchildren] at hordered hinside
    have hrest := nested_preorderAll ht (id + 1) id children h.tail hordered
    have hwithin : ∀ a ∈ SyntaxNode.preorderAll (id + 1) id children,
        (t.range id).containsRange a.range = true := by
      intro a ha
      obtain ⟨r, hr, hcontains⟩ := hrest.within a ha
      obtain ⟨c, hc, rfl⟩ := List.mem_map.mp hr
      exact Range.containsRange_trans (hinside c hc) hcontains
    refine ⟨List.pairwise_cons.mpr ⟨fun a ha => .inl (hrange ▸ hwithin a ha), hrest.follows⟩, ?_⟩
    intro a ha
    refine ⟨_, List.mem_singleton_self _, ?_⟩
    rcases List.mem_cons.mp ha with rfl | ha
    · rw [hrange]
      exact Range.containsRange_refl range
    · exact hwithin a ha

theorem nested_preorderAll (ht : t.Fits d) (id parent : Nat) :
    (ns : List SyntaxNode) → t.Lists id (SyntaxNode.preorderAll id parent ns) →
      ((SyntaxNode.siblingIds id ns).Pairwise fun a b => (t.range a).stop ≤ (t.range b).start) →
      Nested (SyntaxNode.preorderAll id parent ns) ((SyntaxNode.siblingIds id ns).map t.range)
  | [], _, _ => ⟨List.Pairwise.nil, fun a ha => absurd ha List.not_mem_nil⟩
  | n :: rest, h, hordered => by
    rw [SyntaxNode.preorderAll] at h ⊢
    rw [SyntaxNode.siblingIds] at hordered ⊢
    obtain ⟨hbehind, hordered⟩ := List.pairwise_cons.mp hordered
    have hfirst := nested_preorder ht id (some parent) n h.left
    have hlater := h.right
    rw [SyntaxNode.length_preorder] at hlater
    have hrest := nested_preorderAll ht (id + n.size) parent rest hlater hordered
    refine ⟨List.pairwise_append.mpr ⟨hfirst.follows, hrest.follows, fun a ha b hb => .inr ?_⟩, ?_⟩
    · obtain ⟨r, hr, ha⟩ := hfirst.within a ha
      obtain ⟨s, hs, hb⟩ := hrest.within b hb
      obtain ⟨c, hc, rfl⟩ := List.mem_map.mp hs
      rw [List.mem_singleton.mp hr] at ha
      have hstop := ((Range.containsRange_iff _ _).mp ha).2
      have hstart := ((Range.containsRange_iff _ _).mp hb).1
      exact Position.le_trans hstop (Position.le_trans (hbehind c hc) hstart)
    · intro a ha
      rcases List.mem_append.mp ha with ha | ha
      · obtain ⟨r, hr, ha⟩ := hfirst.within a ha
        rw [List.mem_singleton.mp hr] at ha
        exact ⟨_, List.mem_cons_self, ha⟩
      · obtain ⟨r, hr, ha⟩ := hrest.within a ha
        exact ⟨r, List.mem_cons_of_mem _ hr, ha⟩

end

lemma Fits.uncrossed_of_lt (ht : t.Fits d) {i j : Nat} (hij : i < j) :
    (t.range i).Uncrossed (t.range j) := by
  have hnodes : t.nodes = (t.top.preorder 0 none).toArray := t.nodes_eq
  have hrange {k : Nat} (hk : k < (t.top.preorder 0 none).length) :
      t.range k = (t.top.preorder 0 none)[k].range := by
    rw [SyntaxTree.range, get, hnodes, List.getElem?_toArray, List.getElem?_eq_getElem hk,
      Option.getD_some]
  have hfollows := (nested_preorder ht 0 none t.top t.lists_top).follows
  by_cases hj : j < (t.top.preorder 0 none).length
  · have hi := Nat.lt_trans hij hj
    rw [hrange hi, hrange hj]
    exact (List.pairwise_iff_getElem.mp hfollows i j hi hj hij).uncrossed
  · have hsize : t.size ≤ j := by
      rw [size, hnodes, List.size_toArray]
      exact Nat.not_lt.mp hj
    have hdefault : t.range j = .point .zero := by
      rw [SyntaxTree.range, get_of_size_le hsize]
      rfl
    rw [hdefault]
    exact .inr (.inr (.inr (Position.zero_le _)))

theorem Fits.uncrossed (ht : t.Fits d) (i j : Nat) : (t.range i).Uncrossed (t.range j) := by
  rcases Nat.lt_trichotomy i j with hlt | rfl | hlt
  · exact ht.uncrossed_of_lt hlt
  · exact .inl (Range.containsRange_refl _)
  · exact (ht.uncrossed_of_lt hlt).symm

end SyntaxTree

end Referent
