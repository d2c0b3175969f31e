import Referent.Proofs.Pair.Fits

namespace Referent

structure Item.Fits (d : Document) (i : Item) : Prop where
  content : d.Holds i.content
  leading : ∀ r ∈ i.leading, d.Holds r
  trailing : ∀ r ∈ i.trailing, d.Holds r

namespace Item

variable {d : Document}

lemma holds_leadingGap {content : Range} {before : List Placed} (h : d.Holds content)
    (hb : ∀ p ∈ before, d.Holds p.2) : ∀ r ∈ leadingGap content before, d.Holds r := by
  intro r hr
  unfold leadingGap at hr
  split at hr
  · next separator r' rest =>
    cases hr
    exact Document.holds_between (hb (.item, r') (by simp)).2 h.1
  · next r' rest _ =>
    cases hr
    exact Document.holds_between (hb (.separator, r') List.mem_cons_self).1 h.1
  · cases hr

lemma holds_trailingGap {content : Range} {after : List Placed} (h : d.Holds content)
    (ha : ∀ p ∈ after, d.Holds p.2) : ∀ r ∈ trailingGap content after, d.Holds r := by
  intro r hr
  unfold trailingGap at hr
  split at hr
  · next separator r' rest =>
    cases hr
    exact Document.holds_between h.2 (ha (.item, r') (by simp)).1
  · next r' rest _ =>
    cases hr
    exact Document.holds_between h.2 (ha (.separator, r') List.mem_cons_self).2
  · cases hr

lemma fits_of_mem_ofPlaced (before after : List Placed) (hb : ∀ p ∈ before, d.Holds p.2)
    (ha : ∀ p ∈ after, d.Holds p.2) (i : Item) (hi : i ∈ ofPlaced before after) : i.Fits d := by
  induction after generalizing before with
  | nil => exact absurd hi List.not_mem_nil
  | cons t after ih =>
    have ht : d.Holds t.2 := ha t List.mem_cons_self
    have hrest : ∀ p ∈ after, d.Holds p.2 := fun p hp => ha p (List.mem_cons_of_mem _ hp)
    have hbefore : ∀ p ∈ t :: before, d.Holds p.2 := by
      intro p hp
      rcases List.mem_cons.mp hp with rfl | hp
      · exact ht
      · exact hb p hp
    unfold ofPlaced at hi
    split at hi
    · cases ‹_›
    · next r after' heq =>
      cases heq
      rcases List.mem_cons.mp hi with rfl | hi
      · exact ⟨ht, holds_leadingGap ht hb, holds_trailingGap ht hrest⟩
      · exact ih _ hbefore hrest hi
    · next t' after' _ heq =>
      cases heq
      exact ih _ hbefore hrest hi

end Item

namespace Collection

variable {cx : Context} {c : Collection} {d : Document}

structure Fits (d : Document) (c : Collection) : Prop where
  boundary : ∀ b ∈ c.boundary,
    (⟨b.1, b.2⟩ : PairMatch).Fits d ∧ c.range = (⟨b.1, b.2⟩ : PairMatch).interior

lemma fits_ofPair {p : PairMatch} (hp : p.Fits d) : (ofPair p).Fits d := by
  refine ⟨?_⟩
  rintro _ ⟨⟩
  exact ⟨hp, rfl⟩

lemma fits_ofLines (r : Range) : (ofLines d r).Fits d := by
  refine ⟨?_⟩
  rintro _ ⟨⟩

lemma fits_items (hc : c.Fits d) : ∀ i ∈ c.items d, i.Fits d := by
  refine Item.fits_of_mem_ofPlaced [] _ (fun _ h => absurd h List.not_mem_nil) fun p hp => ?_
  have hinside : ∀ (base : Nat) (l : List ItemToken) (p : Item.Placed),
      p ∈ l.map (fun t => (t.kind, Range.between (d.positionAt (base + t.start))
        (d.positionAt (base + t.stop)))) → d.Holds p.2 := by
    intro base l p hp
    obtain ⟨t, _, rfl⟩ := List.mem_map.mp hp
    exact d.holds_positions _ _
  unfold placed at hp
  dsimp only at hp
  split at hp
  · exact hinside _ _ p hp
  · next opening closing hb =>
    have hends := (hc.boundary (opening, closing) hb).1
    rcases List.mem_cons.mp hp with rfl | hp
    · exact hends.opening
    · rcases List.mem_append.mp hp with hp | hp
      · exact hinside _ _ p hp
      · obtain rfl := List.mem_singleton.mp hp
        exact hends.closing

lemma around_eq_ok {r : Range} : around cx d r = .ok c ↔
    (∃ p, pair? cx d r = .ok (some p) ∧ ofPair p = c) ∨
      pair? cx d r = .ok none ∧ ofLines d r = c := by
  rw [around, map_eq_ok]
  constructor
  · rintro ⟨found, hfound, rfl⟩
    cases found with
    | none => exact .inr ⟨hfound, rfl⟩
    | some p => exact .inl ⟨p, hfound, rfl⟩
  · rintro (⟨p, hp, rfl⟩ | ⟨hnone, rfl⟩)
    · exact ⟨some p, hp, rfl⟩
    · exact ⟨none, hnone, rfl⟩

section Fits

variable (ht : ∀ t, cx.tree? d = some t → t.Fits d)

include ht

lemma fits_outer? {p q : PairMatch} (h : outer? cx d p = .ok (some q)) : q.Fits d := by
  unfold outer? at h
  split at h
  · cases h
  · exact PairSearch.fits_find ht h

lemma fits_pairFrom {r : Range} {fuel : Nat} {p q : PairMatch} (hp : p.Fits d)
    (h : pairFrom cx d r fuel p = .ok (some q)) : q.Fits d := by
  induction fuel generalizing p with
  | zero => cases h
  | succ fuel ih =>
    obtain ⟨isUsable, _, h⟩ := bind_eq_ok.mp h
    split at h
    · exact Option.some.inj (Except.ok.inj h) ▸ hp
    · obtain ⟨outer, houter, h⟩ := bind_eq_ok.mp h
      cases outer with
      | none => cases h
      | some outer => exact ih (fits_outer? ht houter) h

lemma fits_pair? {r : Range} {p : PairMatch} (h : pair? cx d r = .ok (some p)) : p.Fits d := by
  obtain ⟨found, hfind, h⟩ := bind_eq_ok.mp h
  cases found with
  | none => cases h
  | some q => exact fits_pairFrom ht (PairSearch.fits_find ht hfind) h

lemma fits_around (r : Range) : Gives (around cx d r) (Fits d) := by
  intro c h
  rcases around_eq_ok.mp h with ⟨p, hp, rfl⟩ | ⟨_, rfl⟩
  · exact fits_ofPair (fits_pair? ht hp)
  · exact fits_ofLines r

end Fits

end Collection

end Referent
