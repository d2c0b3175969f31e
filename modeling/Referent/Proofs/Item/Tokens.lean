import Mathlib.Data.List.Chain
import Referent.Proofs.Item.Contents

namespace Referent.ItemToken

def taken (t : ItemToken) (text : List Char) : List Char :=
  (text.drop t.start).take (t.stop - t.start)

structure Exhausts (text : List Char) (start stop : Nat) (tokens : List ItemToken) : Prop
    extends Between start stop tokens where
  nonempty : ∀ t ∈ tokens, t.start < t.stop
  blank : ∀ i c, start ≤ i → i < stop → text[i]? = some c →
    (∀ t ∈ tokens, i < t.start ∨ t.stop ≤ i) → Unicode.isWhiteSpace c = true
  kinds : ∀ t ∈ tokens, t.kind = .separator ∧ t.taken text = [','] ∨
    t.kind = .item ∧ Framed [] (t.taken text) []
  divided : tokens.IsChain fun s t => s.kind ≠ .item ∨ t.kind ≠ .item

lemma taken_append (kind : ItemKind) (before content after : List Char) :
    (⟨kind, before.length, before.length + content.length⟩ : ItemToken).taken
      (before ++ content ++ after) = content := by
  rw [taken, Nat.add_sub_cancel_left, List.append_assoc, List.drop_left, List.take_left]

section Pieces

variable {text before content after : List Char}

lemma isWhiteSpace_of_getElem? (htext : text = before ++ content ++ after)
    (h : isBlank content = true) {i : Nat} {c : Char} (hle : before.length ≤ i)
    (hlt : i < before.length + content.length) (hc : text[i]? = some c) :
    Unicode.isWhiteSpace c = true := by
  have hcontent : content[i - before.length]? = some c := by
    rw [htext, List.getElem?_append_left (by rw [List.length_append]; exact hlt),
      List.getElem?_append_right hle] at hc
    exact hc
  exact List.all_eq_true.mp h c (List.mem_of_getElem? hcontent)

lemma exhausts_blank (htext : text = before ++ content ++ after) (h : isBlank content = true) :
    Exhausts text before.length (before.length + content.length) [] where
  bounds _ ht := absurd ht List.not_mem_nil
  successive := .nil
  nonempty _ ht := absurd ht List.not_mem_nil
  blank _ _ hle hlt hc _ := isWhiteSpace_of_getElem? htext h hle hlt hc
  kinds _ ht := absurd ht List.not_mem_nil
  divided := .nil

lemma exhausts_token {kind : ItemKind} (htext : text = before ++ content ++ after)
    (hne : content ≠ [])
    (h : kind = .separator ∧ content = [','] ∨ kind = .item ∧ Framed [] content []) :
    Exhausts text before.length (before.length + content.length)
      [⟨kind, before.length, before.length + content.length⟩] where
  bounds t ht := by
    rw [List.mem_singleton.mp ht]
    exact ⟨Nat.le_refl _, Nat.le_add_right _ _, Nat.le_refl _⟩
  successive := List.pairwise_singleton _ _
  nonempty t ht := by
    rw [List.mem_singleton.mp ht]
    exact Nat.lt_add_of_pos_right (List.length_pos_of_ne_nil hne)
  blank i c hle hlt _ hout := by
    have hi := hout _ List.mem_cons_self
    dsimp only at hi
    omega
  kinds t ht := by
    rw [List.mem_singleton.mp ht, htext, taken_append]
    exact h
  divided := .singleton _

lemma exhausts_comma (htext : text = before ++ [','] ++ after) :
    Exhausts text before.length (before.length + 1) [⟨.separator, before.length, before.length + 1⟩] :=
  exhausts_token htext (List.cons_ne_nil _ _) (.inl ⟨rfl, rfl⟩)

end Pieces

variable {text : List Char} {start middle stop : Nat} {tokens tokens' : List ItemToken}

lemma Exhausts.append (h : Exhausts text start middle tokens) (h' : Exhausts text middle stop tokens')
    (hle : start ≤ middle) (hle' : middle ≤ stop)
    (hdivided : ∀ s ∈ tokens.getLast?, ∀ t ∈ tokens'.head?, s.kind ≠ .item ∨ t.kind ≠ .item) :
    Exhausts text start stop (tokens ++ tokens') where
  bounds t ht := by
    rcases List.mem_append.mp ht with ht | ht
    · have hbounds := h.bounds t ht
      omega
    · have hbounds := h'.bounds t ht
      omega
  successive := List.pairwise_append.mpr ⟨h.successive, h'.successive, fun s hs t ht =>
    Nat.le_trans (h.bounds s hs).2.2 (h'.bounds t ht).1⟩
  nonempty := List.forall_mem_append.mpr ⟨h.nonempty, h'.nonempty⟩
  blank i c hi hstop hc hout := by
    obtain ⟨hout, hout'⟩ := List.forall_mem_append.mp hout
    rcases Nat.lt_or_ge i middle with hlt | hge
    · exact h.blank i c hi hlt hc hout
    · exact h'.blank i c hge hstop hc hout'
  kinds := List.forall_mem_append.mpr ⟨h.kinds, h'.kinds⟩
  divided := List.isChain_append.mpr ⟨h.divided, h'.divided, hdivided⟩

lemma Exhausts.nil_append (h : Exhausts text start middle []) (h' : Exhausts text middle stop tokens)
    (hle : start ≤ middle) (hle' : middle ≤ stop) : Exhausts text start stop tokens :=
  h.append h' hle hle' fun s hs => by cases hs

lemma Exhausts.append_nil (h : Exhausts text start middle tokens) (h' : Exhausts text middle stop [])
    (hle : start ≤ middle) (hle' : middle ≤ stop) : Exhausts text start stop tokens := by
  have happend := h.append h' hle hle' fun _ _ t ht => by cases ht
  rwa [List.append_nil] at happend

lemma exhausts_part {before s after : List Char} (htext : text = before ++ s ++ after) :
    Exhausts text before.length (before.length + s.length) (trimmed before.length (part s)) := by
  by_cases hblank : isBlank s = true
  · rw [trimmed_part_blank hblank]
    exact exhausts_blank htext hblank
  · obtain ⟨leading, trailing, hs, hframed⟩ := exists_framed (Bool.eq_false_iff.mpr hblank)
    generalize trim s = content at hs hframed
    subst hs
    have hleading : text = before ++ leading ++ (content ++ trailing ++ after) := by
      simp only [htext, List.append_assoc]
    have hcontent : text = (before ++ leading) ++ content ++ (trailing ++ after) := by
      simp only [htext, List.append_assoc]
    have htrailing : text = (before ++ leading ++ content) ++ trailing ++ after := by
      simp only [htext, List.append_assoc]
    have hfirst := exhausts_blank hleading hframed.leading
    have hitem := exhausts_token hcontent hframed.ne_nil (.inr ⟨rfl, hframed.bare⟩)
    have hlast := exhausts_blank htrailing hframed.trailing
    simp only [List.length_append, ← Nat.add_assoc] at hitem hlast ⊢
    rw [trimmed_part hframed]
    apply hfirst.nil_append
    · exact hitem.append_nil hlast (Nat.le_add_right _ _) (Nat.le_add_right _ _)
    all_goals omega

lemma exhausts_partsBehind {before : List Char} {segments : List (List Char)}
    (htext : text = before ++ charsBehind segments) :
    Exhausts text before.length text.length (trimmed before.length (partsBehind segments)) ∧
      ∀ t ∈ (trimmed before.length (partsBehind segments)).head?, t.kind ≠ .item := by
  induction segments generalizing before with
  | nil =>
    have hnone : text = before ++ [] ++ [] := by simpa [charsBehind] using htext
    have hblank : Exhausts text before.length before.length [] := exhausts_blank hnone rfl
    have hlength : text.length = before.length := by simp [htext, charsBehind]
    rw [hlength]
    exact ⟨hblank, fun t ht => by cases ht⟩
  | cons s segments ih =>
    have hcomma : text = before ++ [','] ++ (s ++ charsBehind segments) := by
      rw [htext, List.append_assoc]
      rfl
    have hsegment : text = (before ++ [',']) ++ s ++ charsBehind segments := by
      rw [hcomma]
      simp only [List.append_assoc]
    have hlength := congrArg List.length hsegment
    have hfirst := exhausts_comma hcomma
    have hpart := exhausts_part hsegment
    obtain ⟨hrest, hhead⟩ := ih hsegment
    have hparts : partsBehind (s :: segments) =
        [separatorPart] ++ (part s ++ partsBehind segments) := rfl
    rw [hparts, trimmed_append, trimmed_append, trimmed_separator, flatten_part]
    simp only [List.length_append, List.length_singleton] at hrest hhead hpart hlength
    refine ⟨hfirst.append (hpart.append hrest ?_ ?_ fun _ _ t ht => .inr (hhead t ht)) ?_ ?_ ?_, ?_⟩
    · omega
    · omega
    · omega
    · omega
    · intro t ht _ _
      exact .inl (by cases ht; exact ItemKind.noConfusion)
    · intro t ht
      cases ht
      exact ItemKind.noConfusion

/-- The items and separators of a text are all that it has besides white space. They come one after
the other, and no two items without a separator between them. -/
theorem exhausts_ofText (text : List Char) : Exhausts text 0 text.length (ofText text) := by
  obtain ⟨segments, hne, htext, hsettled⟩ := exists_segments text
  obtain ⟨s, rest, rfl⟩ := List.exists_cons_of_ne_nil hne
  have hsplit : text = [] ++ s ++ charsBehind rest := by
    rw [← htext, ← List.nil_append (s :: rest), text_append_cons]
    rfl
  have hjoin : join (pieces text) = part s ++ partsBehind rest := by
    rw [← htext, join_intercalate hne hsettled, ← List.nil_append (s :: rest), joined_append_cons]
    rfl
  have hpart := exhausts_part hsplit
  obtain ⟨hrest, hhead⟩ := exhausts_partsBehind hsplit
  have hlength : text.length = s.length + (charsBehind rest).length := by
    rw [hsplit, List.nil_append, List.length_append]
  rw [ofText, hjoin, trimmed_append, flatten_part]
  simp only [List.nil_append, List.length_nil, Nat.zero_add] at hpart hrest hhead ⊢
  exact hpart.append hrest (by omega) (by omega) fun _ _ t ht => .inr (hhead t ht)

end Referent.ItemToken
