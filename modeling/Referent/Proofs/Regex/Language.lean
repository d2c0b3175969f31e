import Referent.Proofs.Regex.Ends

namespace Referent.Regex

def ReadsOnly (P : Char → Prop) : Regex → Prop
  | empty => True
  | chars set => ∀ c, set.contains c = true → P c
  | concat r s => r.ReadsOnly P ∧ s.ReadsOnly P
  | alt r s => r.ReadsOnly P ∧ s.ReadsOnly P
  | plus r _ => r.ReadsOnly P
  | anchor _ => False
  | times _ _ => False
  | upTo _ _ _ => False

inductive Spells : Regex → List Char → Prop
  | empty : Spells empty []
  | chars {set : Unicode.CharSet} {c : Char} (hc : set.contains c = true) : Spells (chars set) [c]
  | concat {r s : Regex} {u v : List Char} (hr : Spells r u) (hs : Spells s v) : Spells (concat r s) (u ++ v)
  | first {r s : Regex} {w : List Char} (hr : Spells r w) : Spells (alt r s) w
  | second {r s : Regex} {w : List Char} (hs : Spells s w) : Spells (alt r s) w
  | once {r : Regex} {greedy : Bool} {w : List Char} (hr : Spells r w) : Spells (plus r greedy) w
  | again {r : Regex} {greedy : Bool} {u v : List Char} (hr : Spells r u) (hmore : Spells (plus r greedy) v) :
      Spells (plus r greedy) (u ++ v)

variable {P : Char → Prop} {r s : Regex} {p q : Place} {w : List Char} {greedy : Bool}

lemma Spells.forall_mem (h : r.Spells w) (hr : r.ReadsOnly P) : ∀ c ∈ w, P c := by
  induction h with
  | empty => simp
  | chars hc => exact fun c hmem => List.mem_singleton.mp hmem ▸ hr _ hc
  | concat _ _ ihr ihs => exact List.forall_mem_append.mpr ⟨ihr hr.1, ihs hr.2⟩
  | first _ ih => exact ih hr.1
  | second _ ih => exact ih hr.2
  | once _ ih => exact ih hr
  | again _ _ ihr ihmore => exact List.forall_mem_append.mpr ⟨ihr hr, ihmore hr⟩

lemma mem_ends_of_spells (h : r.Spells w) (hw : p.Reads w q) : q ∈ r.ends p := by
  induction h generalizing p q with
  | empty =>
    rw [Place.reads_nil.mp hw]
    exact List.mem_singleton_self p
  | chars hc =>
    obtain ⟨hrest, hq⟩ := Place.reads_singleton.mp hw
    obtain ⟨index, prev, rest⟩ := p
    obtain rfl : rest = _ := hrest
    simp [ends_chars_cons, hc, ← hq]
  | concat _ _ ihr ihs =>
    obtain ⟨m, hu, hv⟩ := Place.reads_append.mp hw
    exact mem_ends_concat.mpr ⟨m, ihr hu, ihs hv⟩
  | first _ ih => exact mem_ends_alt.mpr (.inl (ih hw))
  | second _ ih => exact mem_ends_alt.mpr (.inr (ih hw))
  | once _ ih => exact mem_ends_plus.mpr (.single (ih hw))
  | again _ _ ihr ihmore =>
    obtain ⟨m, hu, hv⟩ := Place.reads_append.mp hw
    exact mem_ends_plus.mpr (.head (ihr hu) (mem_ends_plus.mp (ihmore hv)))

lemma exists_spells (hr : r.ReadsOnly P) (h : q ∈ r.ends p) : ∃ w, r.Spells w ∧ p.Reads w q := by
  induction r generalizing p q with
  | empty => exact ⟨[], .empty, Place.reads_nil.mpr (List.mem_singleton.mp h)⟩
  | chars set =>
    obtain ⟨index, prev, rest⟩ := p
    cases rest with
    | nil => exact absurd h List.not_mem_nil
    | cons c rest =>
      rw [ends_chars_cons] at h
      split at h
      · next hc =>
        obtain rfl := List.mem_singleton.mp h
        exact ⟨[c], .chars hc, Place.reads_singleton.mpr ⟨rfl, rfl⟩⟩
      · exact absurd h List.not_mem_nil
  | concat r s ihr ihs =>
    obtain ⟨m, hm, hq⟩ := mem_ends_concat.mp h
    obtain ⟨u, hu, hreads⟩ := ihr hr.1 hm
    obtain ⟨v, hv, hreads'⟩ := ihs hr.2 hq
    exact ⟨u ++ v, .concat hu hv, hreads.append hreads'⟩
  | alt r s ihr ihs =>
    rcases mem_ends_alt.mp h with h | h
    · obtain ⟨w, hw, hreads⟩ := ihr hr.1 h
      exact ⟨w, .first hw, hreads⟩
    · obtain ⟨w, hw, hreads⟩ := ihs hr.2 h
      exact ⟨w, .second hw, hreads⟩
  | plus r greedy ih =>
    induction mem_ends_plus.mp h using Relation.TransGen.head_induction_on with
    | single hm =>
      obtain ⟨w, hw, hreads⟩ := ih hr hm
      exact ⟨w, .once hw, hreads⟩
    | head hm hq ihmore =>
      obtain ⟨u, hu, hreads⟩ := ih hr hm
      obtain ⟨v, hv, hreads'⟩ := ihmore (mem_ends_plus.mpr hq)
      exact ⟨u ++ v, .again hu hv, hreads.append hreads'⟩
  | anchor a => exact hr.elim
  | times r count => exact hr.elim
  | upTo r count greedy => exact hr.elim

theorem mem_ends_iff_spells (hr : r.ReadsOnly P) : q ∈ r.ends p ↔ ∃ w, r.Spells w ∧ p.Reads w q :=
  ⟨exists_spells hr, fun ⟨_, hw, hreads⟩ => mem_ends_of_spells hw hreads⟩

lemma matchesAll_iff_spells (hr : r.ReadsOnly P) : r.matchesAll w = true ↔ r.Spells w := by
  rw [matchesAll, List.any_eq_true]
  constructor
  · rintro ⟨q, hq, hempty⟩
    obtain ⟨w', hw', hreads⟩ := (mem_ends_iff_spells hr).mp hq
    have hrest : w = w' ++ q.rest := hreads.rest
    rwa [hrest, List.isEmpty_iff.mp hempty, List.append_nil]
  · intro hw
    exact ⟨⟨0 + w.length, w.getLast?.or none, []⟩,
      (mem_ends_iff_spells hr).mpr ⟨w, hw, (List.append_nil w).symm, rfl, rfl⟩, rfl⟩

lemma not_spells_of_ends_nil (h : r.ends p = []) (hw : w <+: p.rest) : ¬r.Spells w := by
  intro hspells
  obtain ⟨rest, hrest⟩ := hw
  have hmem : ⟨p.index + w.length, w.getLast?.or p.prev, rest⟩ ∈ r.ends p :=
    mem_ends_of_spells hspells ⟨hrest.symm, rfl, rfl⟩
  rw [h] at hmem
  exact List.not_mem_nil hmem

lemma readsOnly_optional (h : r.ReadsOnly P) : (r.optional greedy).ReadsOnly P := by
  cases greedy with
  | false => exact ⟨trivial, h⟩
  | true => exact ⟨h, trivial⟩

lemma readsOnly_star (h : r.ReadsOnly P) : (r.star greedy).ReadsOnly P :=
  readsOnly_optional (r := r.plus greedy) h

lemma readsOnly_oneOf {rs : List Regex} (h : ∀ r ∈ rs, r.ReadsOnly P) : (oneOf rs).ReadsOnly P := by
  induction rs with
  | nil =>
    intro c hc
    cases hc
  | cons r rest ih =>
    obtain ⟨hr, hrest⟩ := List.forall_mem_cons.mp h
    cases rest with
    | nil => exact hr
    | cons r' rest => exact ⟨hr, ih hrest⟩

end Referent.Regex
