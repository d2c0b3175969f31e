import Mathlib.Tactic.Common
import Referent.Proofs.Document.Places
import Referent.Syntax.Matcher

namespace Referent

structure SyntaxTree.Fits (d : Document) (t : SyntaxTree) : Prop where
  holds : ∀ id < t.size, d.Holds (t.range id)
  ordered : ∀ id < t.size,
    (t.children id).Pairwise fun a b => (t.range a).stop ≤ (t.range b).start
  nested : ∀ id < t.size, ∀ c ∈ t.children id, (t.range id).containsRange (t.range c) = true

namespace SyntaxTree

variable {d : Document} {t : SyntaxTree}

lemma get_of_size_le {id : Nat} (h : t.size ≤ id) : t.get id = default := by
  rw [get, Array.getElem?_eq_none h]
  rfl

lemma Fits.range (h : t.Fits d) (id : Nat) : d.Holds (t.range id) := by
  by_cases hid : id < t.size
  · exact h.holds id hid
  · rw [SyntaxTree.range, get_of_size_le (Nat.not_lt.mp hid)]
    exact Document.holds_point d.has_zero

lemma Fits.pairwise (h : t.Fits d) (id : Nat) :
    (t.children id).Pairwise fun a b => (t.range a).stop ≤ (t.range b).start := by
  by_cases hid : id < t.size
  · exact h.ordered id hid
  · rw [children, get_of_size_le (Nat.not_lt.mp hid)]
    exact List.Pairwise.nil

end SyntaxTree

lemma mem_of_mem_eraseRepsBy {α : Type} {r : α → α → Bool} {l : List α} {a : α}
    (h : a ∈ l.eraseRepsBy r) : a ∈ l := by
  have hloop : ∀ (l : List α) (b : α) (acc : List α), a ∈ List.eraseRepsBy.loop r b l acc →
      a ∈ acc ∨ a ∈ b :: l := by
    intro l
    induction l with
    | nil =>
      intro b acc h
      rcases List.mem_cons.mp (List.mem_reverse.mp h) with rfl | h
      · exact Or.inr List.mem_cons_self
      · exact Or.inl h
    | cons c l ih =>
      intro b acc h
      unfold List.eraseRepsBy.loop at h
      split at h
      · rcases ih b acc h with h | h
        · exact Or.inl h
        · exact Or.inr (by grind)
      · rcases ih c (b :: acc) h with h | h
        · grind
        · exact Or.inr (List.mem_cons_of_mem _ h)
  cases l with
  | nil => exact h
  | cons b l =>
    rcases hloop l b [] h with h | h
    · exact absurd h List.not_mem_nil
    · exact h

structure NodeMatch.Fits (d : Document) (m : NodeMatch) : Prop where
  content : d.Holds m.content
  separators : ∀ s ∈ m.separators, (∀ r ∈ s.1, d.Holds r) ∧ ∀ r ∈ s.2, d.Holds r

namespace Matcher

variable {d : Document} {t : SyntaxTree}

lemma holds_separatorsAt (ht : t.Fits d) (elements : List Nat) (index id : Nat) :
    (∀ r ∈ (separatorsAt t elements index id).1, d.Holds r) ∧
      ∀ r ∈ (separatorsAt t elements index id).2, d.Holds r := by
  refine ⟨?_, ?_⟩
  · intro r hr
    obtain ⟨p, _, rfl⟩ := Option.map_eq_some_iff.mp hr
    exact Document.holds_between (ht.range p).2 (ht.range id).1
  · intro r hr
    obtain ⟨n, _, rfl⟩ := Option.map_eq_some_iff.mp hr
    exact Document.holds_between (ht.range id).2 (ht.range n).1

lemma fits_find {m : Matcher} {id : Nat} {found : NodeMatch} (ht : t.Fits d)
    (h : m.find t id = some found) : found.Fits d := by
  unfold find at h
  split at h
  · obtain ⟨f, _, rfl⟩ := Option.map_eq_some_iff.mp h
    exact ⟨ht.range _, by rintro s ⟨⟩⟩
  · obtain ⟨f, _, rfl⟩ := Option.map_eq_some_iff.mp h
    exact ⟨ht.range _, by rintro s ⟨⟩⟩
  · unfold findElement at h
    obtain ⟨parent, _, h⟩ := Option.bind_eq_some_iff.mp h
    split at h
    · obtain ⟨index, _, h⟩ := Option.bind_eq_some_iff.mp h
      cases h
      exact ⟨ht.range _, by rintro s ⟨⟩; exact holds_separatorsAt ht _ _ _⟩
    · cases h

lemma fits_of_mem_findAll {m : Matcher} (ht : t.Fits d) :
    ∀ found ∈ m.findAll t, found.Fits d := by
  intro found h
  have hmem := List.mem_mergeSort.mp (mem_of_mem_eraseRepsBy h)
  obtain ⟨id, _, hfind⟩ := List.mem_filterMap.mp hmem
  exact fits_find ht hfind

end Matcher

end Referent
