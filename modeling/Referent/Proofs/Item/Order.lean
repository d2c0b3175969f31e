import Referent.Proofs.Item.Fits
import Referent.Proofs.Scope.Order

namespace Referent

namespace ItemToken

lemma flatten_flush (plain : List Char) : (flush plain).flatten = plain.reverse := by
  rw [flush]
  split
  · next h => rw [List.isEmpty_iff.mp h, List.reverse_nil, List.flatten_nil]
  · rw [List.flatten_singleton]

lemma flatten_piecesFrom (plain text : List Char) :
    (piecesFrom plain text).flatten = plain.reverse ++ text := by
  fun_induction piecesFrom plain text with
  | case1 plain => rw [flatten_flush, List.append_nil]
  | case2 plain c rest hquote ih =>
    rw [List.flatten_append, flatten_flush, List.flatten_cons, ih]
    rfl
  | case3 plain c rest hquote ih =>
    rw [ih, List.reverse_cons, List.append_assoc]
    rfl
  | case4 plain c rest hescape hdelimiter ih =>
    rw [List.flatten_append, flatten_flush, List.flatten_cons, ih]
    rfl
  | case5 plain c rest hescape hdelimiter ih =>
    rw [ih, List.reverse_cons, List.append_assoc]
    rfl

lemma flatten_current (current : List (List Char)) : ((if current.isEmpty then []
    else [(ItemKind.item, current.reverse.flatten)]).map Prod.snd).flatten =
      current.reverse.flatten := by
  split
  · next h => rw [List.isEmpty_iff.mp h]; rfl
  · rw [List.map_singleton, List.flatten_singleton]

lemma flatten_joinFrom (n : Nesting) (current pieces : List (List Char)) :
    ((joinFrom n current pieces).map Prod.snd).flatten = current.reverse.flatten ++ pieces.flatten := by
  induction pieces generalizing n current with
  | nil => rw [joinFrom, flatten_current, List.flatten_nil, List.append_nil]
  | cons piece rest ih =>
    rw [joinFrom]
    split
    · rw [List.map_append, List.flatten_append, flatten_current, List.map_cons, List.flatten_cons, ih]
      rfl
    · rw [ih, List.reverse_cons, List.flatten_append, List.flatten_singleton, List.flatten_cons,
        List.append_assoc]

lemma length_join (text : List Char) :
    ((join (pieces text)).map Prod.snd).flatten.length = text.length := by
  rw [join, flatten_joinFrom, pieces, flatten_piecesFrom]
  rfl

lemma length_trim_le (text : List Char) : (trim text).length ≤ (trimStart text).length := by
  rw [trim, trimEnd, List.length_reverse, trimStart]
  have hle := (List.dropWhile_sublist (l := (trimStart text).reverse) Unicode.isWhiteSpace).length_le
  rwa [List.length_reverse] at hle

structure Between (start stop : Nat) (l : List ItemToken) : Prop where
  bounds : ∀ t ∈ l, start ≤ t.start ∧ t.start ≤ t.stop ∧ t.stop ≤ stop
  successive : l.Pairwise fun s t => s.stop ≤ t.start

lemma Between.cons {start middle stop : Nat} {t : ItemToken} {l : List ItemToken}
    (h : Between middle stop l) (hle : middle ≤ stop)
    (ht : start ≤ t.start ∧ t.start ≤ t.stop ∧ t.stop ≤ middle) : Between start stop (t :: l) where
  bounds s hs := by
    rcases List.mem_cons.mp hs with rfl | hs
    · omega
    · have hbounds := h.bounds s hs
      omega
  successive := List.pairwise_cons.mpr
    ⟨fun s hs => Nat.le_trans ht.2.2 (h.bounds s hs).1, h.successive⟩

lemma between_trimmed (start : Nat) (l : List (ItemKind × List Char)) :
    Between start (start + (l.map Prod.snd).flatten.length) (trimmed start l) := by
  induction l generalizing start with
  | nil => exact ⟨fun t ht => absurd ht List.not_mem_nil, List.Pairwise.nil⟩
  | cons part rest ih =>
    obtain ⟨kind, text⟩ := part
    have hrest := ih (start + text.length)
    rw [List.map_cons, List.flatten_cons, List.length_append, ← Nat.add_assoc]
    have hitem : Between start (start + text.length + (rest.map Prod.snd).flatten.length)
        (⟨.item, start + (text.length - (trimStart text).length),
          start + (text.length - (trimStart text).length) + (trim text).length⟩ ::
            trimmed (start + text.length) rest) := by
      have htrim := length_trim_le text
      have hstart := (List.dropWhile_sublist (l := text) Unicode.isWhiteSpace).length_le
      have hlength : (trimStart text).length ≤ text.length := hstart
      apply hrest.cons (Nat.le_add_right _ _)
      dsimp only
      omega
    have hfurther : Between start (start + text.length + (rest.map Prod.snd).flatten.length)
        (trimmed (start + text.length) rest) :=
      ⟨fun t ht => ⟨Nat.le_trans (Nat.le_add_right _ _) (hrest.bounds t ht).1,
        (hrest.bounds t ht).2⟩, hrest.successive⟩
    cases kind with
    | separator =>
      rw [trimmed]
      split
      · exact hfurther
      · apply hrest.cons (Nat.le_add_right _ _)
        exact ⟨Nat.le_refl _, Nat.le_add_right _ _, Nat.le_refl _⟩
    | item =>
      rw [trimmed]
      · split
        · exact hfurther
        · exact hitem
      · exact ItemKind.noConfusion
    | boundary =>
      rw [trimmed]
      · split
        · exact hfurther
        · exact hitem
      · exact ItemKind.noConfusion

lemma between_ofText (text : List Char) : Between 0 text.length (ofText text) := by
  have h := between_trimmed 0 (join (pieces text))
  rwa [length_join, Nat.zero_add] at h

end ItemToken

namespace Item

def InOrder (l : List Placed) : Prop := Range.Successive (l.map Prod.snd)

lemma domainStart_le {content : Range} {before : List Placed}
    (h : ∀ p ∈ before, p.2.stop ≤ content.start) : domainStart content before ≤ content.start := by
  unfold domainStart
  split
  · exact h _ List.mem_cons_self
  · exact h _ List.mem_cons_self
  · exact Position.le_refl _

lemma le_domainStop {content : Range} {after : List Placed}
    (h : ∀ p ∈ after, content.stop ≤ p.2.start) : content.stop ≤ domainStop content after := by
  unfold domainStop
  split
  · exact h _ List.mem_cons_self
  · exact h _ List.mem_cons_self
  · exact Position.le_refl _

lemma domainStop_le {content : Range} {after : List Placed} (hafter : InOrder after)
    (h : ∀ p ∈ after, content.stop ≤ p.2.start) : ∀ p ∈ after, domainStop content after ≤ p.2.start := by
  intro p hp
  have hfirst {first : Placed} {rest : List Placed} (heq : after = first :: rest) :
      first.2.start ≤ p.2.start := by
    subst heq
    rcases List.mem_cons.mp hp with rfl | hp
    · exact Position.le_refl _
    · have hle := (List.pairwise_cons.mp (List.pairwise_map.mp hafter)).1 p hp
      exact Position.le_trans first.2.start_le_stop hle
  unfold domainStop
  split
  · exact hfirst rfl
  · exact hfirst rfl
  · exact h p hp

section Between

variable {content : Range} {before after : List Placed}
  (hb : ∀ p ∈ before, p.2.stop ≤ content.start) (ha : ∀ p ∈ after, content.stop ≤ p.2.start)

include hb ha

lemma ends_domain : (between before content after).domain.start = domainStart content before ∧
    (between before content after).domain.stop = domainStop content after := by
  have hle := Position.le_trans (domainStart_le hb)
    (Position.le_trans content.start_le_stop (le_domainStop ha))
  exact ⟨Range.start_between hle, Range.stop_between hle⟩

lemma le_start_domain {p : Position} (hp : p ≤ content.start)
    (hhead : ∀ s ∈ before.head?, s.1 = .item ∨ p ≤ s.2.stop) :
    p ≤ (between before content after).domain.start := by
  rw [(ends_domain hb ha).1]
  unfold domainStart
  split
  · exact (hhead _ rfl).resolve_left ItemKind.noConfusion
  · exact (hhead _ rfl).resolve_left ItemKind.noConfusion
  · exact hp

end Between

structure Divided (before after : List Placed) : Prop where
  apart : ∀ s ∈ before, ∀ t ∈ after, s.2.stop ≤ t.2.start
  inOrder : InOrder after

lemma divided_nil {l : List Placed} (h : InOrder l) : Divided [] l :=
  ⟨fun _ hs => absurd hs List.not_mem_nil, h⟩

lemma Divided.step {before after : List Placed} {t : Placed} (h : Divided before (t :: after)) :
    Divided (t :: before) after ∧ (∀ s ∈ before, s.2.stop ≤ t.2.start) ∧
      ∀ s ∈ after, t.2.stop ≤ s.2.start := by
  obtain ⟨hfirst, hrest⟩ := List.pairwise_cons.mp (List.pairwise_map.mp h.inOrder)
  refine ⟨⟨fun s hs s' hs' => ?_, List.pairwise_map.mpr hrest⟩,
    fun s hs => h.apart s hs t List.mem_cons_self, hfirst⟩
  rcases List.mem_cons.mp hs with rfl | hs
  · exact hfirst s' hs'
  · exact h.apart s hs s' (List.mem_cons_of_mem t hs')

lemma ofPlaced_cons {before after : List Placed} {t : Placed} (ht : t.1 ≠ .item) :
    ofPlaced before (t :: after) = ofPlaced (t :: before) after := by
  obtain ⟨kind, r⟩ := t
  cases kind with
  | item => exact absurd rfl ht
  | separator => rfl
  | boundary => rfl

lemma le_start_of_mem_ofPlaced {before after : List Placed} {p : Position}
    (h : Divided before after) (hp : ∀ t ∈ after, p ≤ t.2.start)
    (hhead : ∀ s ∈ before.head?, s.1 = .item ∨ p ≤ s.2.stop) :
    ∀ i ∈ ofPlaced before after, p ≤ i.domain.start := by
  induction after generalizing before with
  | nil => exact fun i hi => absurd hi List.not_mem_nil
  | cons t after ih =>
    obtain ⟨hstep, hbefore, hafter⟩ := h.step
    have hlater : ∀ i ∈ ofPlaced (t :: before) after, p ≤ i.domain.start := by
      apply ih hstep fun s hs => hp s (List.mem_cons_of_mem t hs)
      intro s hs
      rw [← Option.some.inj hs]
      exact .inr (Position.le_trans (hp t List.mem_cons_self) t.2.start_le_stop)
    intro i hi
    by_cases ht : t.1 = .item
    · obtain ⟨kind, r⟩ := t
      obtain rfl := ht
      rcases List.mem_cons.mp hi with rfl | hi
      · exact le_start_domain hbefore hafter (hp _ List.mem_cons_self) hhead
      · exact hlater i hi
    · rw [ofPlaced_cons ht] at hi
      exact hlater i hi

lemma successive_ofPlaced {before after : List Placed} (h : Divided before after) :
    Range.Successive ((ofPlaced before after).map Item.domain) := by
  induction after generalizing before with
  | nil => exact List.Pairwise.nil
  | cons t after ih =>
    obtain ⟨hstep, hbefore, hafter⟩ := h.step
    by_cases ht : t.1 = .item
    · obtain ⟨kind, r⟩ := t
      obtain rfl := ht
      refine List.pairwise_cons.mpr ⟨fun s hs => ?_, ih hstep⟩
      obtain ⟨i, hi, rfl⟩ := List.mem_map.mp hs
      rw [(ends_domain hbefore hafter).2]
      apply le_start_of_mem_ofPlaced hstep (domainStop_le hstep.inOrder hafter) _ i hi
      intro s hs
      rw [← Option.some.inj hs]
      exact .inl rfl
    · rw [ofPlaced_cons ht]
      exact ih hstep

end Item

namespace Collection

variable {cx : Context} {c : Collection} {d : Document}

def placedAt (d : Document) (base : Nat) (text : List Char) : List Item.Placed :=
  (ItemToken.ofText text).map fun t =>
    (t.kind, .between (d.positionAt (base + t.start)) (d.positionAt (base + t.stop)))

lemma ends_token (d : Document) (base : Nat) {text : List Char} {t : ItemToken}
    (ht : t ∈ ItemToken.ofText text) :
    (Range.between (d.positionAt (base + t.start)) (d.positionAt (base + t.stop))).start =
        d.positionAt (base + t.start) ∧
      (Range.between (d.positionAt (base + t.start)) (d.positionAt (base + t.stop))).stop =
        d.positionAt (base + t.stop) := by
  have hordered := ((ItemToken.between_ofText text).bounds t ht).2.1
  have hle := d.positionAt_mono (Nat.add_le_add_left hordered base)
  exact ⟨Range.start_between hle, Range.stop_between hle⟩

lemma inOrder_placedAt (d : Document) (base : Nat) (text : List Char) :
    Item.InOrder (placedAt d base text) := by
  rw [Item.InOrder, placedAt, List.map_map]
  have hsuccessive := (ItemToken.between_ofText text).successive
  refine List.pairwise_map.mpr (hsuccessive.imp_of_mem fun {s t} hs ht hle => ?_)
  show (Range.between _ _).stop ≤ (Range.between _ _).start
  rw [(ends_token d base hs).2, (ends_token d base ht).1]
  exact d.positionAt_mono (Nat.add_le_add_left hle base)

lemma bounds_placedAt (d : Document) (base : Nat) (text : List Char) :
    ∀ p ∈ placedAt d base text,
      d.positionAt base ≤ p.2.start ∧ p.2.stop ≤ d.positionAt (base + text.length) := by
  intro p hp
  obtain ⟨t, ht, rfl⟩ := List.mem_map.mp hp
  have hstop := ((ItemToken.between_ofText text).bounds t ht).2.2
  dsimp only
  rw [(ends_token d base ht).1, (ends_token d base ht).2]
  exact ⟨d.positionAt_mono (Nat.le_add_right _ _), d.positionAt_mono (Nat.add_le_add_left hstop base)⟩

lemma inOrder_placed_pair {p : PairMatch} (hp : p.Fits d) :
    Item.InOrder ((⟨p.interior, some (p.opening, p.closing)⟩ : Collection).placed d) := by
  have hinterior := PairMatch.interior_eq hp.ordered
  have hholds := hp.interior
  set base := d.offsetAt p.interior.start
  have hbase : d.positionAt base = p.opening.stop := by
    rw [Document.positionAt_offsetAt hholds.1, hinterior.1]
  have hle := (Document.offsetAt_le_iff hholds.1 hholds.2).mpr p.interior.start_le_stop
  have hlength : base + (d.textIn p.interior).length ≤ d.offsetAt p.interior.stop := by
    have htake : (d.textIn p.interior).length ≤ d.offsetAt p.interior.stop - base :=
      List.length_take_le _ _
    omega
  have hlast : d.positionAt (base + (d.textIn p.interior).length) ≤ p.closing.start := by
    have hmono := d.positionAt_mono hlength
    rwa [Document.positionAt_offsetAt hholds.2, hinterior.2] at hmono
  have hbounds := bounds_placedAt d base (d.textIn p.interior)
  show (((.boundary, p.opening) :: (placedAt d base (d.textIn p.interior) ++
    [(.boundary, p.closing)] : List Item.Placed)).map Prod.snd).Pairwise _
  refine List.pairwise_map.mpr (List.pairwise_cons.mpr ⟨fun q hq => ?_, List.pairwise_append.mpr
    ⟨List.pairwise_map.mp (inOrder_placedAt d base _), List.pairwise_singleton _ _,
      fun q hq q' hq' => ?_⟩⟩)
  · rcases List.mem_append.mp hq with hq | hq
    · exact hbase ▸ (hbounds q hq).1
    · rw [List.mem_singleton.mp hq]
      exact hp.ordered
  · rw [List.mem_singleton.mp hq']
    exact Position.le_trans (hbounds q hq).2 hlast

lemma inOrder_placed (hc : c.Fits d) : Item.InOrder (c.placed d) := by
  obtain ⟨range, boundary⟩ := c
  cases boundary with
  | none => exact inOrder_placedAt d _ _
  | some b =>
    obtain ⟨hfits, hrange⟩ := hc.boundary b rfl
    obtain rfl : range = _ := hrange
    exact inOrder_placed_pair hfits

theorem successive_items (hc : c.Fits d) : Range.Successive ((c.items d).map Item.domain) :=
  Item.successive_ofPlaced (Item.divided_nil (inOrder_placed hc))

end Collection

end Referent
