import Referent.Proofs.Item.Order
import Referent.Proofs.Item.Tokens

namespace Referent

namespace Item

variable {i j : Item} {items items' : List Item} {content : Range} {before after l : List Placed}

lemma stop_leadingGap (hb : ∀ p ∈ before, p.2.stop ≤ content.start) :
    ∀ g ∈ leadingGap content before, g.stop = content.start := by
  intro g hg
  unfold leadingGap at hg
  split at hg
  · cases hg
    exact Range.stop_between (hb (.item, _) (by simp))
  · next r _ _ =>
    cases hg
    exact Range.stop_between (Position.le_trans r.start_le_stop (hb (.separator, r) List.mem_cons_self))
  · cases hg

lemma start_trailingGap (ha : ∀ p ∈ after, content.stop ≤ p.2.start) :
    ∀ g ∈ trailingGap content after, g.start = content.stop := by
  intro g hg
  unfold trailingGap at hg
  split at hg
  · cases hg
    exact Range.start_between (ha (.item, _) (by simp))
  · next r _ _ =>
    cases hg
    exact Range.start_between (Position.le_trans (ha (.separator, r) List.mem_cons_self) r.start_le_stop)
  · cases hg

lemma Divided.append {nearer farther : List Placed} (h : Divided before (nearer ++ farther)) :
    Divided (nearer.reverse ++ before) farther := by
  induction nearer generalizing before with
  | nil => exact h
  | cons t nearer ih =>
    rw [List.reverse_cons, List.append_assoc]
    exact ih h.step.1

lemma exists_cons (h : ofPlaced before after = i :: items) : ∃ middle farther,
    after = middle ++ (.item, i.content) :: farther ∧ (∀ t ∈ middle, t.1 ≠ .item) ∧
      i = between (middle.reverse ++ before) i.content farther ∧
      items = ofPlaced ((.item, i.content) :: (middle.reverse ++ before)) farther := by
  induction after generalizing before with
  | nil => cases h
  | cons t after ih =>
    by_cases ht : t.1 = .item
    · obtain ⟨kind, r⟩ := t
      obtain rfl := ht
      obtain ⟨rfl, rfl⟩ := List.cons.inj h
      exact ⟨[], after, rfl, nofun, rfl, rfl⟩
    · rw [ofPlaced_cons ht] at h
      obtain ⟨middle, farther, rfl, hmiddle, hrest⟩ := ih h
      refine ⟨t :: middle, farther, rfl, List.forall_mem_cons.mpr ⟨ht, hmiddle⟩, ?_⟩
      rwa [List.reverse_cons, List.append_assoc]

lemma exists_append (h : ofPlaced before after = items ++ items') : ∃ nearer rest,
    after = nearer ++ rest ∧ ofPlaced (nearer.reverse ++ before) rest = items' := by
  induction items generalizing before after with
  | nil => exact ⟨[], after, rfl, h⟩
  | cons i items ih =>
    obtain ⟨middle, farther, rfl, _, _, hitems⟩ := exists_cons h
    obtain ⟨nearer, rest, rfl, hrest⟩ := ih hitems.symm
    refine ⟨middle ++ (.item, i.content) :: nearer, rest, by simp, ?_⟩
    rwa [List.reverse_append, List.reverse_cons, List.append_assoc, List.append_assoc]

def Divides (t : Placed) : Prop := t.1 = .separator ∧ t.2.start < t.2.stop

def Parted (l : List Placed) : Prop :=
  ∀ nearer r middle s farther, l = nearer ++ (.item, r) :: (middle ++ (.item, s) :: farther) →
    (∀ t ∈ middle, t.1 ≠ .item) → middle ≠ [] ∧ ∀ t ∈ middle, Divides t

lemma Parted.enclosed (h : Parted l) {first last : Placed} (hfirst : first.1 ≠ .item)
    (hlast : last.1 ≠ .item) : Parted (first :: (l ++ [last])) := by
  intro nearer r middle s farther heq hmiddle
  rcases List.cons_eq_append_iff.mp heq with ⟨_, hcons⟩ | ⟨nearer, rfl, hrest⟩
  · obtain rfl := (List.cons.inj hcons).1
    exact absurd rfl hfirst
  · rcases List.eq_nil_or_concat farther with rfl | ⟨farther, t, rfl⟩
    · have hsplit : l ++ [last] = (nearer ++ (.item, r) :: middle) ++ [(.item, s)] := by
        rw [hrest, List.append_assoc, List.cons_append]
      obtain rfl := (List.append_singleton_inj.mp hsplit).2
      exact absurd rfl hlast
    · have hsplit : l ++ [last] = (nearer ++ (.item, r) :: (middle ++ (.item, s) :: farther)) ++ [t] := by
        rw [hrest, List.concat_eq_append, List.append_assoc, List.cons_append, List.append_assoc,
          List.cons_append]
      exact h nearer r middle s farther (List.append_singleton_inj.mp hsplit).1 hmiddle

section Neighbours

variable {nearer middle farther : List Placed} {r s : Range}

lemma domain_lt (h : Divided (nearer.reverse ++ before)
      ((.item, r) :: (middle ++ (.item, s) :: farther)))
    (hne : middle ≠ []) (hdivides : ∀ t ∈ middle, Divides t) :
    (between (nearer.reverse ++ before) r (middle ++ (.item, s) :: farther)).domain.stop <
      (between (middle.reverse ++ (.item, r) :: (nearer.reverse ++ before)) s farther).domain.start := by
  obtain ⟨hrest, hbefore, hafter⟩ := h.step
  obtain ⟨_, hbefore', hafter'⟩ := hrest.append.step
  obtain ⟨t, rest, rfl⟩ := List.exists_cons_of_ne_nil hne
  have hordered : ∀ t' ∈ rest, t.2.stop ≤ t'.2.start := fun t' ht' =>
    (List.pairwise_cons.mp (List.pairwise_map.mp hrest.inOrder)).1 t' (List.mem_append_left _ ht')
  have hstop : (between (nearer.reverse ++ before) r (t :: rest ++ (.item, s) :: farther)).domain.stop ≤
      t.2.start := by
    rw [(ends_domain hbefore hafter).2]
    exact domainStop_le hrest.inOrder hafter t List.mem_cons_self
  have hstart : t.2.stop ≤ (between ((t :: rest).reverse ++ (.item, r) :: (nearer.reverse ++ before)) s
      farther).domain.start := by
    apply le_start_domain hbefore' hafter' (hbefore' t (by simp))
    intro s' hs'
    rw [List.head?_append_of_ne_nil _ (by simp)] at hs'
    have hmem : s' ∈ t :: rest := List.mem_reverse.mp (List.mem_of_head? hs')
    rcases List.mem_cons.mp hmem with rfl | hmem
    · exact .inr (Position.le_refl _)
    · exact .inr (Position.le_trans (hordered s' hmem) s'.2.start_le_stop)
  exact Position.lt_of_le_of_lt hstop
    (Position.lt_of_lt_of_le (hdivides t List.mem_cons_self).2 hstart)

lemma gaps_eq {t : Placed} (ht : t.1 = .separator) :
    (between before r (t :: (.item, s) :: farther)).trailing = some (.between r.stop s.start) ∧
      (between (t :: (.item, r) :: before) s farther).leading = some (.between r.stop s.start) := by
  obtain ⟨kind, r'⟩ := t
  obtain rfl := ht
  exact ⟨rfl, rfl⟩

end Neighbours

structure Framing (i : Item) : Prop where
  domain : i.domain.containsRange i.content = true
  leading : ∀ g ∈ i.leading, g.stop = i.content.start
  trailing : ∀ g ∈ i.trailing, g.start = i.content.stop

lemma framing_of_mem_ofPlaced (h : Divided before after) : ∀ i ∈ ofPlaced before after, i.Framing := by
  induction after generalizing before with
  | nil => exact fun i hi => absurd hi List.not_mem_nil
  | cons t after ih =>
    obtain ⟨hstep, hbefore, hafter⟩ := h.step
    by_cases ht : t.1 = .item
    · obtain ⟨kind, r⟩ := t
      obtain rfl := ht
      refine List.forall_mem_cons.mpr ⟨⟨?_, stop_leadingGap hbefore, start_trailingGap hafter⟩, ih hstep⟩
      obtain ⟨hstart, hstop⟩ := ends_domain hbefore hafter
      rw [Range.containsRange_iff, hstart, hstop]
      exact ⟨domainStart_le hbefore, le_domainStop hafter⟩
    · rw [ofPlaced_cons ht]
      exact ih hstep

lemma exists_neighbours {xs ys : List Item} (h : ofPlaced before after = xs ++ i :: j :: ys) :
    ∃ nearer middle farther,
      after = nearer ++ (.item, i.content) :: (middle ++ (.item, j.content) :: farther) ∧
      (∀ t ∈ middle, t.1 ≠ .item) ∧
      i = between (nearer.reverse ++ before) i.content (middle ++ (.item, j.content) :: farther) ∧
      j = between (middle.reverse ++ (.item, i.content) :: (nearer.reverse ++ before)) j.content
        farther := by
  obtain ⟨nearer, rest, rfl, hrest⟩ := exists_append h
  obtain ⟨first, rest, rfl, _, hi, hrest⟩ := exists_cons hrest
  obtain ⟨middle, farther, rfl, hmiddle, hj, _⟩ := exists_cons hrest.symm
  refine ⟨nearer ++ first, middle, farther, by simp, hmiddle, ?_, ?_⟩
  · rwa [List.reverse_append, List.append_assoc]
  · rwa [List.reverse_append, List.append_assoc]

lemma length_touching (h : items.Pairwise fun i j => i.domain.stop < j.domain.start) (p : Position) :
    (items.filter fun i => i.domain.touches (.point p)).length ≤ 1 := by
  have hdomains := h.filter fun i => i.domain.touches (.point p)
  have hmem (i : Item) (hi : i ∈ items.filter fun i => i.domain.touches (.point p)) :=
    Range.touches_iff.mp (List.mem_filter.mp hi).2
  generalize (items.filter fun i => i.domain.touches (.point p)) = touching at hdomains hmem
  match touching with
  | [] => exact Nat.zero_le 1
  | [_] => exact Nat.le_refl 1
  | i :: j :: _ =>
    have hlt := (List.pairwise_cons.mp hdomains).1 j List.mem_cons_self
    have hle := Position.le_trans (hmem j (by simp)).1 (hmem i (by simp)).2
    exact absurd hle (Position.not_le.mpr hlt)

end Item

namespace Collection

variable {c : Collection} {d : Document}

lemma divides_of_mem_placedAt {r : Range} {t : Item.Placed}
    (ht : t ∈ placedAt d (d.offsetAt r.start) (d.textIn r)) (hitem : t.1 ≠ .item) : Item.Divides t := by
  obtain ⟨token, hmem, rfl⟩ := List.mem_map.mp ht
  have hexhausts := ItemToken.exhausts_ofText (d.textIn r)
  obtain ⟨hkind, htaken⟩ := (hexhausts.kinds token hmem).resolve_right fun h => hitem h.1
  have hlt := hexhausts.nonempty token hmem
  have hstop := (hexhausts.bounds token hmem).2.2
  have hlength : (d.textIn r).length ≤ d.offsetAt r.stop - d.offsetAt r.start ∧
      (d.textIn r).length ≤ d.length - d.offsetAt r.start := by
    rw [Document.textIn, List.length_take, List.length_drop]
    exact ⟨Nat.min_le_left _ _, Nat.min_le_right _ _⟩
  have hcomma : d.text[d.offsetAt r.start + token.start]? = some ',' := by
    have hget : (token.taken (d.textIn r))[0]? = some ',' := by rw [htaken]; rfl
    rw [ItemToken.taken, List.getElem?_take_of_lt (by omega), List.getElem?_drop, Nat.add_zero,
      Document.textIn, List.getElem?_take_of_lt, List.getElem?_drop] at hget
    · exact hget
    · omega
  refine ⟨hkind, ?_⟩
  rw [(ends_token d _ hmem).1, (ends_token d _ hmem).2]
  apply Document.positionAt_lt (Nat.add_lt_add_left hlt _)
  · omega
  · rw [hcomma]
    decide

lemma parted_placedAt (d : Document) (r : Range) :
    Item.Parted (placedAt d (d.offsetAt r.start) (d.textIn r)) := by
  intro nearer p middle s farther heq hmiddle
  have hdivides (t : Item.Placed) (ht : t ∈ middle) : Item.Divides t := by
    have hmem : t ∈ placedAt d (d.offsetAt r.start) (d.textIn r) := by
      rw [heq]
      simp [ht]
    exact divides_of_mem_placedAt hmem (hmiddle t ht)
  refine ⟨?_, hdivides⟩
  rintro rfl
  obtain ⟨first, rest, htokens, _, hrest⟩ := List.map_eq_append_iff.mp heq
  obtain ⟨t, rest, rfl, ht, hrest⟩ := List.map_eq_cons_iff.mp hrest
  obtain ⟨t', rest, rfl, ht', _⟩ := List.map_eq_cons_iff.mp hrest
  have hdivided := (ItemToken.exhausts_ofText (d.textIn r)).divided
  rw [htokens, List.isChain_append_cons_cons] at hdivided
  exact hdivided.2.1.elim (absurd (congrArg Prod.fst ht)) (absurd (congrArg Prod.fst ht'))

lemma parted_placed (c : Collection) (d : Document) : Item.Parted (c.placed d) := by
  obtain ⟨range, boundary⟩ := c
  cases boundary with
  | none => exact parted_placedAt d range
  | some b => exact (parted_placedAt d range).enclosed ItemKind.noConfusion ItemKind.noConfusion

def separatorsBetween (c : Collection) (d : Document) (i j : Item) : List Item.Placed :=
  (c.placed d).filter fun t =>
    t.1 = .separator ∧ i.content.stop ≤ t.2.start ∧ t.2.stop ≤ j.content.start

structure Arranged (c : Collection) (d : Document) : Prop where
  contents : ((c.items d).map Item.content).Pairwise fun r s => r.stop < s.start
  domains : ((c.items d).map Item.domain).Pairwise fun r s => r.stop < s.start
  framing : ∀ i ∈ c.items d, i.Framing
  gaps : ∀ first i j last, c.items d = first ++ i :: j :: last →
    (c.separatorsBetween d i j).length = 1 →
      ∃ gap, i.trailing = some gap ∧ j.leading = some gap ∧
        gap.start = i.content.stop ∧ gap.stop = j.content.start
  apart : ∀ p, ((c.items d).filter fun i => i.domain.touches (.point p)).length ≤ 1

lemma domain_stop_lt_start (hc : c.Fits d) {first last : List Item} {i j : Item}
    (h : c.items d = first ++ i :: j :: last) : i.domain.stop < j.domain.start := by
  obtain ⟨nearer, middle, farther, hplaced, hmiddle, hi, hj⟩ := Item.exists_neighbours h
  obtain ⟨hne, hdivides⟩ := parted_placed c d _ _ _ _ _ hplaced hmiddle
  have hdivided := Item.divided_nil (inOrder_placed hc)
  rw [hplaced] at hdivided
  rw [hi, hj]
  exact Item.domain_lt hdivided.append hne hdivides

lemma exists_gap (hc : c.Fits d) {first last : List Item} {i j : Item}
    (h : c.items d = first ++ i :: j :: last) (hone : (c.separatorsBetween d i j).length = 1) :
    i.trailing = some (.between i.content.stop j.content.start) ∧
      j.leading = some (.between i.content.stop j.content.start) := by
  obtain ⟨nearer, middle, farther, hplaced, hmiddle, hi, hj⟩ := Item.exists_neighbours h
  obtain ⟨hne, hdivides⟩ := parted_placed c d _ _ _ _ _ hplaced hmiddle
  have hdivided := Item.divided_nil (inOrder_placed hc)
  rw [hplaced] at hdivided
  obtain ⟨hrest, _, hafter⟩ := hdivided.append.step
  have hbefore := hrest.append.step.2.1
  have hsublist : middle.Sublist (c.separatorsBetween d i j) := by
    have hall : ∀ t ∈ middle, decide (t.1 = .separator ∧ i.content.stop ≤ t.2.start ∧
        t.2.stop ≤ j.content.start) = true := fun t ht =>
      decide_eq_true ⟨(hdivides t ht).1, hafter t (by simp [ht]), hbefore t (by simp [ht])⟩
    rw [← List.filter_eq_self.mpr hall, separatorsBetween, hplaced]
    apply List.Sublist.filter
    exact ((List.sublist_append_left _ _).cons _).trans (List.sublist_append_right _ _)
  obtain ⟨t, rest, rfl⟩ := List.exists_cons_of_ne_nil hne
  obtain rfl : rest = [] := by
    have hle := hsublist.length_le
    rw [hone, List.length_cons] at hle
    exact List.eq_nil_of_length_eq_zero (by omega)
  have hgaps := fun before farther => @Item.gaps_eq before farther i.content j.content t
    (hdivides t List.mem_cons_self).1
  rw [hi, hj]
  exact ⟨(hgaps _ _).1, (hgaps _ _).2⟩

/-- The items of a collection come in the order of the document, none meets the next one, and neighbours
with one separator between them share the gap. -/
theorem arranged_items (hc : c.Fits d) : c.Arranged d := by
  have hframing : ∀ i ∈ c.items d, i.Framing :=
    Item.framing_of_mem_ofPlaced (Item.divided_nil (inOrder_placed hc))
  -- Only neighbours are compared; that the order is strict between all of them follows.
  have htrans : IsTrans Item fun i j => i.domain.stop < j.domain.start :=
    ⟨fun i j k hij hjk => Position.lt_of_lt_of_le hij
      (Position.le_trans j.domain.start_le_stop (Position.le_of_lt hjk))⟩
  have hdomains : (c.items d).Pairwise fun i j => i.domain.stop < j.domain.start :=
    List.isChain_iff_pairwise.mp (List.isChain_iff_forall_rel_of_append_cons_cons.mpr
      fun _ _ _ _ => domain_stop_lt_start hc)
  have hcontents : (c.items d).Pairwise fun i j => i.content.stop < j.content.start := by
    refine hdomains.imp_of_mem fun {i j} hi hj hlt => ?_
    have hstop := ((Range.containsRange_iff _ _).mp (hframing i hi).domain).2
    have hstart := ((Range.containsRange_iff _ _).mp (hframing j hj).domain).1
    exact Position.lt_of_le_of_lt hstop (Position.lt_of_lt_of_le hlt hstart)
  refine ⟨List.pairwise_map.mpr hcontents, List.pairwise_map.mpr hdomains, hframing, ?_, fun p => ?_⟩
  · intro first i j last h hone
    obtain ⟨htrailing, hleading⟩ := exists_gap hc h hone
    rw [h] at hcontents
    have hrest := (List.pairwise_append.mp hcontents).2.1
    have hlt := (List.pairwise_cons.mp hrest).1 j List.mem_cons_self
    exact ⟨_, htrailing, hleading, Range.start_between (Position.le_of_lt hlt),
      Range.stop_between (Position.le_of_lt hlt)⟩
  · exact Item.length_touching hdomains p

theorem arranged_items_brackets :
    let d : Document := .ofText 1 "plaintext" "f(a, b,, c)".toList
    let c : Collection := ⟨.onLine 0 2 10, some (.onLine 0 1 2, .onLine 0 10 11)⟩
    c.Fits d ∧ c.Arranged d ∧
      (c.items d).map Item.domain = [.onLine 0 2 3, .onLine 0 4 6, .onLine 0 8 10] := by
  intro d c
  have hc : c.Fits d := by
    refine ⟨?_⟩
    rintro _ ⟨⟩
    exact ⟨⟨by decide +kernel, by decide +kernel, by decide⟩, rfl⟩
  exact ⟨hc, arranged_items hc, by decide +kernel⟩

end Collection

end Referent
