import Mathlib.Data.List.Forall2
import Referent.Proofs.Item.Segments
import Referent.Proofs.Text.Trim

namespace Referent

namespace ItemToken

def itemTexts (text : List Char) : List (List Char) :=
  ((ofText text).filter (·.kind = .item)).map fun t => (text.drop t.start).take (t.stop - t.start)

def contents (segments : List (List Char)) : List (List Char) :=
  (segments.filter (!isBlank ·)).map trim

lemma contents_append (segments segments' : List (List Char)) :
    contents (segments ++ segments') = contents segments ++ contents segments' := by
  simp [contents]

lemma contents_cons (s : List Char) (segments : List (List Char)) :
    contents (s :: segments) = contents [s] ++ contents segments :=
  contents_append [s] segments

lemma contents_singleton (s : List Char) :
    contents [s] = if isBlank s = true then [] else [trim s] := by
  by_cases h : isBlank s = true
  · simp [contents, h]
  · simp [contents, h]

lemma contents_framed {leading text trailing : List Char} (h : Framed leading text trailing) :
    contents [leading ++ text ++ trailing] = [text] := by
  rw [contents_singleton, h.not_blank, if_neg Bool.false_ne_true, h.trim_eq]

lemma contents_blank_append {blank : List Char} (h : isBlank blank = true) (s : List Char) :
    contents [blank ++ s] = contents [s] := by
  have hblank : isBlank (blank ++ s) = isBlank s := by
    rw [isBlank, List.all_append, ← isBlank, h, Bool.true_and, isBlank]
  rw [contents_singleton, contents_singleton, hblank, trim_blank_append h]

lemma contents_append_blank {blank : List Char} (h : isBlank blank = true) (s : List Char) :
    contents [s ++ blank] = contents [s] := by
  have hblank : isBlank (s ++ blank) = isBlank s := by
    rw [isBlank, List.all_append, ← isBlank, ← isBlank, h, Bool.and_true]
  rw [contents_singleton, contents_singleton, hblank, trim_append_blank h]

def contentsOf (parts : List (ItemKind × List Char)) : List (List Char) :=
  (parts.filter fun part => part.1 ≠ .separator ∧ isBlank part.2 = false).map (trim ·.2)

lemma contentsOf_append (parts parts' : List (ItemKind × List Char)) :
    contentsOf (parts ++ parts') = contentsOf parts ++ contentsOf parts' := by
  simp [contentsOf]

lemma contentsOf_part (s : List Char) : contentsOf (part s) = contents [s] := by
  rw [part]
  split
  · next h =>
    rw [List.isEmpty_iff.mp h]
    rfl
  · by_cases hblank : isBlank s = true
    · simp [contentsOf, contents, hblank]
    · simp [contentsOf, contents, hblank]

def separatorPart : ItemKind × List Char := (.separator, [','])

def partsBefore (segments : List (List Char)) : List (ItemKind × List Char) :=
  segments.flatMap fun s => part s ++ [separatorPart]

def partsBehind (segments : List (List Char)) : List (ItemKind × List Char) :=
  segments.flatMap fun s => separatorPart :: part s

def charsBefore (segments : List (List Char)) : List Char := segments.flatMap (· ++ [','])

def charsBehind (segments : List (List Char)) : List Char := segments.flatMap (',' :: ·)

lemma intercalate_append_cons {α : Type} (x : List α) (before : List (List α)) (s : List α)
    (after : List (List α)) :
    x.intercalate (before ++ s :: after) =
      before.flatMap (· ++ x) ++ (s ++ after.flatMap (x ++ ·)) := by
  induction before generalizing s with
  | nil =>
    induction after generalizing s with
    | nil => simp
    | cons s' after ih =>
      rw [List.nil_append, List.intercalate_cons_cons, ← List.nil_append (s' :: after), ih]
      simp
  | cons s' before ih =>
    obtain ⟨s'', rest, hrest⟩ := List.exists_cons_of_ne_nil
      (List.append_ne_nil_of_right_ne_nil before (List.cons_ne_nil s after))
    rw [List.cons_append, hrest, List.intercalate_cons_cons, ← hrest, ih]
    simp

lemma joined_append_cons (before : List (List Char)) (s : List Char) (after : List (List Char)) :
    joined (before ++ s :: after) = partsBefore before ++ (part s ++ partsBehind after) := by
  rw [joined, List.map_append, List.map_cons, intercalate_append_cons, List.flatMap_map,
    List.flatMap_map]
  rfl

lemma text_append_cons (before : List (List Char)) (s : List Char) (after : List (List Char)) :
    [','].intercalate (before ++ s :: after) = charsBefore before ++ (s ++ charsBehind after) :=
  intercalate_append_cons _ _ _ _

lemma flatten_part (s : List Char) : ((part s).map Prod.snd).flatten = s := by
  rw [part]
  split
  · next h =>
    rw [List.isEmpty_iff.mp h]
    rfl
  · simp

lemma flatten_partsBefore (segments : List (List Char)) :
    ((partsBefore segments).map Prod.snd).flatten = charsBefore segments := by
  induction segments with
  | nil => rfl
  | cons s segments ih =>
    simp only [partsBefore, charsBefore, List.flatMap_cons, List.map_append, List.flatten_append,
      flatten_part] at ih ⊢
    rw [ih]
    rfl

lemma contentsOf_partsBefore (segments : List (List Char)) :
    contentsOf (partsBefore segments) = contents segments := by
  induction segments with
  | nil => rfl
  | cons s segments ih =>
    have hseparator : contentsOf [separatorPart] = [] := rfl
    rw [partsBefore, List.flatMap_cons, ← partsBefore, contentsOf_append, contentsOf_append,
      contentsOf_part, hseparator, List.append_nil, ih, ← contents_cons]

lemma contentsOf_joined {segments : List (List Char)} (h : segments ≠ []) :
    contentsOf (joined segments) = contents segments := by
  have hbehind (segments : List (List Char)) :
      contentsOf (partsBehind segments) = contents segments := by
    induction segments with
    | nil => rfl
    | cons s segments ih =>
      rw [partsBehind, List.flatMap_cons, ← partsBehind, List.cons_append,
        ← List.singleton_append, contentsOf_append, contentsOf_append, contentsOf_part, ih,
        ← contents_cons]
      rfl
  obtain ⟨s, rest, rfl⟩ := List.exists_cons_of_ne_nil h
  rw [← List.nil_append (s :: rest), joined_append_cons, contentsOf_append, contentsOf_append,
    contentsOf_part, hbehind, ← contents_cons]
  rfl

lemma trimmed_cons (start : Nat) (p : ItemKind × List Char) (parts : List (ItemKind × List Char)) :
    trimmed start (p :: parts) = trimmed start [p] ++ trimmed (start + p.2.length) parts := by
  obtain ⟨kind, text⟩ := p
  by_cases hblank : isBlank text = true
  · simp [trimmed, hblank]
  · cases kind with
    | separator => simp [trimmed, hblank]
    | _ => simp [trimmed, hblank]

lemma trimmed_append (start : Nat) (parts parts' : List (ItemKind × List Char)) :
    trimmed start (parts ++ parts') =
      trimmed start parts ++ trimmed (start + (parts.map Prod.snd).flatten.length) parts' := by
  induction parts generalizing start with
  | nil => rfl
  | cons p parts ih =>
    rw [List.cons_append, trimmed_cons, ih, trimmed_cons start p parts, List.append_assoc,
      List.map_cons, List.flatten_cons, List.length_append, Nat.add_assoc]

lemma trimmed_separator (start : Nat) :
    trimmed start [separatorPart] = [⟨.separator, start, start + 1⟩] := rfl

lemma trimmed_part_blank {s : List Char} (h : isBlank s = true) (start : Nat) :
    trimmed start (part s) = [] := by
  rw [part]
  split
  · rfl
  · simp [trimmed, h]

lemma trimmed_framed {kind : ItemKind} {leading text trailing : List Char} (hkind : kind ≠ .separator)
    (h : Framed leading text trailing) (start : Nat) :
    trimmed start [(kind, leading ++ text ++ trailing)] =
      [⟨.item, start + leading.length, start + leading.length + text.length⟩] := by
  have hlength : (leading ++ text ++ trailing).length - (text ++ trailing).length =
      leading.length := by simp
  cases kind with
  | separator => exact absurd rfl hkind
  | _ =>
    simp only [trimmed, h.not_blank, h.trimStart_eq, h.trim_eq, hlength]
    rfl

lemma trimmed_part {leading text trailing : List Char} (h : Framed leading text trailing)
    (start : Nat) : trimmed start (part (leading ++ text ++ trailing)) =
      [⟨.item, start + leading.length, start + leading.length + text.length⟩] := by
  have hne : (leading ++ text ++ trailing).isEmpty = false := by simp [h.ne_nil]
  rw [part, hne, if_neg Bool.false_ne_true]
  exact trimmed_framed ItemKind.noConfusion h start

lemma trimmed_cases (p : ItemKind × List Char) (start : Nat) :
    ((trimmed start [p]).filter (·.kind = .item) = [] ∧ contentsOf [p] = []) ∨
      ∃ leading text trailing, p.2 = leading ++ text ++ trailing ∧ Framed leading text trailing ∧
        trimmed start [p] = [⟨.item, start + leading.length, start + leading.length + text.length⟩] ∧
        contentsOf [p] = [text] := by
  obtain ⟨kind, s⟩ := p
  by_cases hblank : isBlank s = true
  · exact .inl ⟨by simp [trimmed, hblank], by simp [contentsOf, hblank]⟩
  · by_cases hkind : kind = .separator
    · exact .inl ⟨by simp [trimmed, hblank, hkind], by simp [contentsOf, hkind]⟩
    · have hnot := Bool.eq_false_iff.mpr hblank
      obtain ⟨leading, trailing, hs, hframed⟩ := exists_framed hnot
      have htrimmed := trimmed_framed hkind hframed start
      rw [← hs] at htrimmed
      exact .inr ⟨leading, trim s, trailing, hs, hframed, htrimmed, by simp [contentsOf, hnot, hkind]⟩

def Reads (text : List Char) (t : ItemToken) (content : List Char) : Prop :=
  ∃ first last, text = first ++ content ++ last ∧ Framed [] content [] ∧
    t = ⟨.item, first.length, first.length + content.length⟩

lemma reads_trimmed {text before after : List Char} {parts : List (ItemKind × List Char)}
    (htext : text = before ++ (parts.map Prod.snd).flatten ++ after) :
    List.Forall₂ (Reads text) ((trimmed before.length parts).filter (·.kind = .item))
      (contentsOf parts) := by
  induction parts generalizing before with
  | nil => exact .nil
  | cons p parts ih =>
    have hrest : text = (before ++ p.2) ++ (parts.map Prod.snd).flatten ++ after := by simp [htext]
    have hreads := ih hrest
    rw [List.length_append] at hreads
    rw [trimmed_cons, List.filter_append, ← List.singleton_append (l := parts), contentsOf_append]
    refine List.rel_append ?_ hreads
    rcases trimmed_cases p before.length with
      ⟨hnone, hcontents⟩ | ⟨leading, content, trailing, hp, hframed, htoken, hcontents⟩
    · rw [hnone, hcontents]
      exact .nil
    · rw [htoken, hcontents]
      refine .cons ⟨before ++ leading, trailing ++ (parts.map Prod.snd).flatten ++ after, ?_,
        hframed.bare, ?_⟩ .nil
      · rw [hrest, hp]
        simp only [List.append_assoc]
      · rw [List.length_append]

lemma map_of_forall₂ {α β : Type} {R : α → β → Prop} {f : α → β} {l : List α} {l' : List β}
    (hf : ∀ a b, R a b → f a = b) (h : List.Forall₂ R l l') : l.map f = l' := by
  rw [← List.forall₂_eq_eq_eq, List.forall₂_map_left_iff]
  exact h.imp hf

lemma reads_ofText {segments : List (List Char)} (hne : segments ≠ [])
    (h : Settled (segments.map pieces)) :
    List.Forall₂ (Reads ([','].intercalate segments))
      ((ofText ([','].intercalate segments)).filter (·.kind = .item)) (contents segments) := by
  have hjoin := join_intercalate hne h
  have hflatten : ((joined segments).map Prod.snd).flatten = [','].intercalate segments := by
    rw [← hjoin, join, flatten_joinFrom, flatten_pieces]
    rfl
  have htext : [','].intercalate segments = [] ++ ((joined segments).map Prod.snd).flatten ++ [] := by
    rw [hflatten, List.append_nil, List.nil_append]
  rw [ofText, hjoin, ← contentsOf_joined hne]
  exact reads_trimmed htext

lemma itemTexts_intercalate {segments : List (List Char)} (hne : segments ≠ [])
    (h : Settled (segments.map pieces)) :
    itemTexts ([','].intercalate segments) = contents segments := by
  apply map_of_forall₂ _ (reads_ofText hne h)
  rintro t content ⟨first, last, htext, _, rfl⟩
  rw [htext, Nat.add_sub_cancel_left, List.append_assoc, List.drop_left, List.take_left]

lemma length_items_partsBefore (segments : List (List Char)) :
    ((trimmed 0 (partsBefore segments)).filter (·.kind = .item)).length = (contents segments).length := by
  have htext : charsBefore segments =
      [] ++ ((partsBefore segments).map Prod.snd).flatten ++ [] := by
    rw [flatten_partsBefore, List.append_nil, List.nil_append]
  rw [← contentsOf_partsBefore]
  exact (reads_trimmed htext).length_eq

lemma exists_segment {segments : List (List Char)} {k : Nat} (hk : k < (contents segments).length) :
    ∃ before s after, segments = before ++ s :: after ∧ isBlank s = false ∧
      (contents before).length = k := by
  rw [contents, List.length_map] at hk
  obtain ⟨first, second, hsegments, hfirst, hsecond⟩ :=
    List.filter_eq_append_iff.mp (List.take_append_drop k (segments.filter (!isBlank ·))).symm
  rw [List.drop_eq_getElem_cons hk] at hsecond
  obtain ⟨blank, after, hblank, hnone, hs, _⟩ := List.filter_eq_cons_iff.mp hsecond
  refine ⟨first ++ blank, _, after, by rw [List.append_assoc, ← hblank, hsegments], by simpa using hs,
    ?_⟩
  rw [contents, List.length_map, List.filter_append, hfirst, List.filter_eq_nil_iff.mpr hnone,
    List.append_nil, List.length_take_of_le (Nat.le_of_lt hk)]

end ItemToken

end Referent
