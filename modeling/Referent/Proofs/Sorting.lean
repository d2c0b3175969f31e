import Mathlib.Data.List.Chain
import Mathlib.Data.List.Pairwise
import Mathlib.Data.List.Sort
import Mathlib.Tactic.Common
import Referent.Position

namespace Referent

lemma eq_or_rel_of_pairwise {α : Type} {R : α → α → Prop} {l : List α} (h : l.Pairwise R) {a b : α}
    (ha : a ∈ l) (hb : b ∈ l) : a = b ∨ R a b ∨ R b a := by
  let Related (a b : α) : Prop := a = b ∨ R a b ∨ R b a
  have : Std.Symm Related := ⟨fun _ _ hab => hab.imp Eq.symm Or.symm⟩
  have hpairs : l.Pairwise Related := h.imp fun hab => .inr (.inl hab)
  exact hpairs.forall_of_forall (fun _ _ => .inl rfl) ha hb

section MergeSort

variable {α : Type}

lemma parts_eq {p : α → Bool} {l₁ l₂ k₁ k₂ : List α} (h : l₁ ++ l₂ = k₁ ++ k₂)
    (hl₁ : ∀ a ∈ l₁, p a = true) (hl₂ : ∀ a ∈ l₂, ¬p a = true) (hk₁ : ∀ a ∈ k₁, p a = true)
    (hk₂ : ∀ a ∈ k₂, ¬p a = true) : l₁ = k₁ ∧ l₂ = k₂ := by
  have hfirst := congrArg (List.filter p) h
  rw [List.filter_append, List.filter_append, List.filter_eq_self.mpr hl₁,
    List.filter_eq_nil_iff.mpr hl₂, List.filter_eq_self.mpr hk₁, List.filter_eq_nil_iff.mpr hk₂,
    List.append_nil, List.append_nil] at hfirst
  rw [hfirst] at h
  exact ⟨hfirst, List.append_cancel_left h⟩

variable {le : α → α → Bool} (trans : ∀ a b c, le a b = true → le b c = true → le a c = true)
  (total : ∀ a b, (le a b || le b a) = true)

include trans total

lemma mergeSort_cons_cases (a : α) (l : List α) : ∃ l₁ l₂, (a :: l).mergeSort le = l₁ ++ a :: l₂ ∧
    l.mergeSort le = l₁ ++ l₂ ∧ (∀ b ∈ l₁, (!le a b) = true) ∧ ∀ b ∈ l₂, ¬(!le a b) = true := by
  obtain ⟨l₁, l₂, hsort, hrest, hbefore⟩ := List.mergeSort_cons trans total a l
  have hsorted := List.pairwise_mergeSort trans total (a :: l)
  rw [hsort] at hsorted
  have hbehind := (List.pairwise_cons.mp (List.pairwise_append.mp hsorted).2.1).1
  exact ⟨l₁, l₂, hsort, hrest, hbefore, fun b hb => by simp [hbehind b hb]⟩

lemma filter_mergeSort (p : α → Bool) (l : List α) :
    (l.mergeSort le).filter p = (l.filter p).mergeSort le := by
  induction l with
  | nil => simp
  | cons a l ih =>
    obtain ⟨l₁, l₂, hsort, hrest, hbefore, hbehind⟩ := mergeSort_cons_cases trans total a l
    rw [hrest, List.filter_append] at ih
    cases hpa : p a with
    | true =>
      obtain ⟨k₁, k₂, hsort', hrest', hbefore', hbehind'⟩ :=
        mergeSort_cons_cases trans total a (l.filter p)
      obtain ⟨rfl, rfl⟩ := parts_eq (ih.trans hrest')
        (fun b hb => hbefore b (List.mem_filter.mp hb).1)
        (fun b hb => hbehind b (List.mem_filter.mp hb).1) hbefore' hbehind'
      rw [hsort, List.filter_append, List.filter_cons_of_pos hpa, List.filter_cons_of_pos hpa, hsort']
    | false =>
      have hpa : ¬p a = true := by simp [hpa]
      rw [hsort, List.filter_append, List.filter_cons_of_neg hpa, List.filter_cons_of_neg hpa, ih]

lemma mergeSort_eq {l k : List α} (hperm : l.Perm k) (hk : k.Pairwise fun a b => le b a = false) :
    l.mergeSort le = k := by
  have hapart {a b : α} (ha : a ∈ k) (hb : b ∈ k) (hab : le a b = true) (hba : le b a = true) : a = b := by
    rcases eq_or_rel_of_pairwise hk ha hb with heq | hnot | hnot
    · exact heq
    · exact Bool.noConfusion (hba.symm.trans hnot)
    · exact Bool.noConfusion (hab.symm.trans hnot)
  have hsort := (List.mergeSort_perm l le).trans hperm
  refine List.Perm.eq_of_pairwise (fun a b ha hb => hapart (hsort.subset ha) hb)
    (List.pairwise_mergeSort trans total l) (hk.imp fun {a b} hnot => ?_) hsort
  have hle := total a b
  rwa [hnot, Bool.or_false] at hle

end MergeSort

section Compare

variable {α : Type} {cmp : α → α → Ordering} [Std.TransCmp cmp]

lemma isLE_total (a b : α) : ((cmp a b).isLE || (cmp b a).isLE) = true := by
  have hswap : cmp a b = (cmp b a).swap := Std.OrientedCmp.eq_swap
  rw [hswap]
  cases cmp b a with
  | lt => rfl
  | eq => rfl
  | gt => rfl

lemma pairwise_sorted (l : List α) :
    (l.mergeSort fun a b => (cmp a b).isLE).Pairwise fun a b => (cmp a b).isLE = true :=
  List.pairwise_mergeSort (fun _ _ _ => Std.TransCmp.isLE_trans) isLE_total l

lemma filter_sorted (p : α → Bool) (l : List α) :
    (l.mergeSort fun a b => (cmp a b).isLE).filter p =
      (l.filter p).mergeSort fun a b => (cmp a b).isLE :=
  filter_mergeSort (fun _ _ _ => Std.TransCmp.isLE_trans) isLE_total p l

lemma sorted_eq {l k : List α} (hperm : l.Perm k) (hk : k.Pairwise fun a b => cmp a b = .lt) :
    (l.mergeSort fun a b => (cmp a b).isLE) = k := by
  refine mergeSort_eq (fun _ _ _ => Std.TransCmp.isLE_trans) isLE_total hperm (hk.imp fun {a b} hlt => ?_)
  have hswap : cmp b a = (cmp a b).swap := Std.OrientedCmp.eq_swap
  rw [hswap, hlt]
  rfl

lemma beq_of_between [BEq α] [LawfulBEq α] (cmp : α → α → Ordering) [Std.TransCmp cmp]
    (heq : ∀ a b, cmp a b = .eq → a = b) {a b c : α} (hab : (cmp a b).isLE = true)
    (hbc : (cmp b c).isLE = true) (hac : (a == c) = true) : (a == b) = true := by
  rw [beq_iff_eq] at hac ⊢
  rw [← hac] at hbc
  exact heq a b (Std.OrientedCmp.isLE_antisymm hab hbc)

end Compare

section Repetitions

variable {α : Type} {same : α → α → Bool}

lemma eraseRepsBy_loop (a : α) (l acc : List α) :
    List.eraseRepsBy.loop same a l acc = acc.reverse ++ (a :: l).eraseRepsBy same := by
  have hloop (l acc : List α) (a : α) : List.eraseRepsBy.loop same a l acc =
      acc.reverse ++ List.eraseRepsBy.loop same a l [] := by
    induction l generalizing acc a with
    | nil => simp [List.eraseRepsBy.loop]
    | cons b l ih =>
      unfold List.eraseRepsBy.loop
      split
      · exact ih acc a
      · rw [ih (a :: acc), ih [a], List.reverse_cons, List.append_assoc]
        rfl
  exact hloop l acc a

lemma eraseRepsBy_cons_cons (a b : α) (l : List α) :
    (a :: b :: l).eraseRepsBy same =
      if same a b then (a :: l).eraseRepsBy same else a :: (b :: l).eraseRepsBy same := by
  show List.eraseRepsBy.loop same a (b :: l) [] = _
  unfold List.eraseRepsBy.loop
  split
  · rw [if_pos ‹_›, eraseRepsBy_loop]
    rfl
  · rw [if_neg (by simp [*]), eraseRepsBy_loop]
    rfl

lemma eraseRepsBy_sublist (l : List α) : List.Sublist (l.eraseRepsBy same) l := by
  cases l with
  | nil => exact List.Sublist.refl _
  | cons a l =>
    induction l generalizing a with
    | nil => exact List.Sublist.refl _
    | cons b l ih =>
      rw [eraseRepsBy_cons_cons]
      split
      · exact (ih a).trans ((List.sublist_cons_self b l).cons_cons a)
      · exact (ih b).cons_cons a

lemma eraseRepsBy_cons {a : α} {l : List α} (h : ∀ b ∈ l, same a b = false) :
    (a :: l).eraseRepsBy same = a :: l.eraseRepsBy same := by
  cases l with
  | nil => rfl
  | cons b l => rw [eraseRepsBy_cons_cons, h b List.mem_cons_self, if_neg Bool.false_ne_true]

lemma head?_eraseRepsBy (a : α) (l : List α) : ((a :: l).eraseRepsBy same).head? = some a := by
  induction l with
  | nil => rfl
  | cons b l ih =>
    rw [eraseRepsBy_cons_cons]
    split
    · exact ih
    · rfl

lemma isChain_eraseRepsBy (l : List α) :
    (l.eraseRepsBy same).IsChain fun a b => same a b = false := by
  cases l with
  | nil => exact .nil
  | cons a l =>
    induction l generalizing a with
    | nil => exact .singleton a
    | cons b l ih =>
      rw [eraseRepsBy_cons_cons]
      split
      · exact ih a
      · next hab =>
        refine List.isChain_cons.mpr ⟨fun c hc => ?_, ih b⟩
        rw [head?_eraseRepsBy] at hc
        obtain rfl := Option.some.inj hc
        exact Bool.eq_false_iff.mpr hab

lemma getLast?_eraseReps [BEq α] [LawfulBEq α] (l : List α) : l.eraseReps.getLast? = l.getLast? := by
  show (l.eraseRepsBy (· == ·)).getLast? = l.getLast?
  cases l with
  | nil => rfl
  | cons a l =>
    induction l generalizing a with
    | nil => rfl
    | cons b l ih =>
      rw [eraseRepsBy_cons_cons, List.getLast?_cons_cons]
      split
      · next hab =>
        obtain rfl := beq_iff_eq.mp hab
        exact ih a
      · obtain ⟨rest, hrest⟩ := List.head?_eq_some_iff.mp (@head?_eraseRepsBy _ (· == ·) b l)
        rw [← ih b, hrest, List.getLast?_cons_cons]

lemma mem_eraseReps [BEq α] [LawfulBEq α] {l : List α} {c : α} : c ∈ l.eraseReps ↔ c ∈ l := by
  refine ⟨fun h => (eraseRepsBy_sublist l).subset h, fun h => ?_⟩
  show c ∈ l.eraseRepsBy (· == ·)
  cases l with
  | nil => exact h
  | cons a l =>
    induction l generalizing a with
    | nil => exact h
    | cons b l ih =>
      rw [eraseRepsBy_cons_cons]
      split
      · next hab =>
        rw [← beq_iff_eq.mp hab] at h
        exact ih a (by simpa using h)
      · rcases List.mem_cons.mp h with rfl | h
        · exact List.mem_cons_self
        · exact List.mem_cons_of_mem a (ih b h)

variable {R : α → α → Prop} (hbetween : ∀ a b c, R a b → R b c → same a c = true → same a b = true)

include hbetween

lemma same_eq_false {a b : α} {l : List α} (hl : (a :: b :: l).Pairwise R)
    (hab : ¬same a b = true) : ∀ c ∈ b :: l, same a c = false := by
  obtain ⟨hfirst, hrest⟩ := List.pairwise_cons.mp hl
  intro c hc
  rcases List.mem_cons.mp hc with rfl | hc
  · exact Bool.eq_false_iff.mpr hab
  · exact Bool.eq_false_iff.mpr fun hac => hab
      (hbetween a b c (hfirst b List.mem_cons_self) ((List.pairwise_cons.mp hrest).1 c hc) hac)

lemma filter_eraseRepsBy {p : α → Bool} (hp : ∀ a b, same a b = true → p a = p b) {l : List α}
    (hl : l.Pairwise R) : (l.eraseRepsBy same).filter p = (l.filter p).eraseRepsBy same := by
  cases l with
  | nil => rfl
  | cons a l =>
    induction l generalizing a with
    | nil =>
      show List.filter p [a] = (List.filter p [a]).eraseRepsBy same
      rw [List.filter_singleton]
      cases p a with
      | true => rfl
      | false => rfl
    | cons b l ih =>
      rw [eraseRepsBy_cons_cons]
      split
      · next hab =>
        rw [ih a (hl.sublist ((List.sublist_cons_self b l).cons_cons a))]
        have hpab := hp a b hab
        cases hpa : p a with
        | true =>
          rw [List.filter_cons_of_pos hpa, List.filter_cons_of_pos hpa,
            List.filter_cons_of_pos (hpab ▸ hpa), eraseRepsBy_cons_cons, if_pos hab]
        | false =>
          rw [List.filter_cons_of_neg (by simp [hpa]), List.filter_cons_of_neg (by simp [hpa]),
            List.filter_cons_of_neg (by simp [← hpab, hpa])]
      · next hab =>
        have hdiffer := same_eq_false hbetween hl hab
        have hrest := ih b (List.pairwise_cons.mp hl).2
        cases hpa : p a with
        | true =>
          rw [List.filter_cons_of_pos hpa, List.filter_cons_of_pos hpa, hrest,
            eraseRepsBy_cons fun c hc => hdiffer c (List.mem_filter.mp hc).1]
        | false =>
          rw [List.filter_cons_of_neg (by simp [hpa]), List.filter_cons_of_neg (by simp [hpa]), hrest]

lemma pairwise_eraseRepsBy {l : List α} (hl : l.Pairwise R) :
    (l.eraseRepsBy same).Pairwise fun a b => same a b = false := by
  cases l with
  | nil => exact List.Pairwise.nil
  | cons a l =>
    induction l generalizing a with
    | nil => exact List.pairwise_singleton _ a
    | cons b l ih =>
      rw [eraseRepsBy_cons_cons]
      split
      · exact ih a (hl.sublist ((List.sublist_cons_self b l).cons_cons a))
      · next hab =>
        exact List.pairwise_cons.mpr ⟨fun c hc =>
          same_eq_false hbetween hl hab c ((eraseRepsBy_sublist _).subset hc),
          ih b (List.pairwise_cons.mp hl).2⟩

end Repetitions

namespace Position

lemma compare_eq (p q : Position) :
    compare p q = (compare p.line q.line).then (compare p.character q.character) := rfl

lemma isLE_compare {p q : Position} : (compare p q).isLE = true ↔ p ≤ q := by
  rw [compare_eq, Ordering.isLE_then_iff_or, Nat.compare_eq_lt, Nat.compare_eq_eq,
    Nat.isLE_compare, le_def]

lemma compare_eq_eq {p q : Position} : compare p q = .eq ↔ p = q := by
  rw [compare_eq, Ordering.then_eq_eq, Nat.compare_eq_eq, Nat.compare_eq_eq, ext_iff']

lemma compare_eq_lt {p q : Position} : compare p q = .lt ↔ p < q := by
  rw [compare_eq, Ordering.then_eq_lt, Nat.compare_eq_lt, Nat.compare_eq_eq, Nat.compare_eq_lt,
    lt_def]

instance : Std.TransOrd Position :=
  inferInstanceAs (Std.TransCmp (compareLex (compareOn line) (compareOn character)))

end Position

section Keys

variable {α : Type}

instance (f : α → Position) : Std.TransCmp fun a b => compare (f a) (f b) :=
  inferInstanceAs (Std.TransCmp (compareOn f))

instance (f : α → Position) : Std.TransCmp fun a b => compare (f b) (f a) :=
  @Std.TransCmp.opposite _ (compareOn f) _

instance transCmp_then (cmp cmp' : α → α → Ordering) [Std.TransCmp cmp] [Std.TransCmp cmp'] :
    Std.TransCmp fun a b => (cmp a b).then (cmp' a b) :=
  inferInstanceAs (Std.TransCmp (compareLex cmp cmp'))

end Keys

end Referent
