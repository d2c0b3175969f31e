import Referent.Proofs.Item.Nesting
import Referent.Proofs.Item.Order

/-! The commas outside of all pairs divide a text into segments. White space around a segment does not
matter for this. -/

namespace Referent.ItemToken

def part (text : List Char) : List (ItemKind × List Char) :=
  if text.isEmpty then [] else [(.item, text)]

lemma part_flatten {pieces : List (List Char)} (h : [] ∉ pieces) :
    (if pieces.reverse.isEmpty then [] else [(ItemKind.item, pieces.reverse.reverse.flatten)]) =
      part pieces.flatten := by
  rw [List.reverse_reverse, part]
  cases pieces with
  | nil => rfl
  | cons piece rest =>
    have hne : piece ≠ [] := fun hnil => h (hnil ▸ List.mem_cons_self)
    simp [hne]

lemma joinFrom_covers {n : Nesting} (hn : n.Proper) {pieces after : List (List Char)}
    (h : n.Covers pieces after) (current : List (List Char)) :
    joinFrom n current (pieces ++ after) =
      joinFrom (n.read pieces after) (pieces.reverse ++ current) after := by
  induction pieces generalizing n current with
  | nil => rfl
  | cons piece rest ih =>
    have hinside : ¬(piece = [','] ∧ (n.step piece (rest ++ after)).depth = 0) := by
      rintro ⟨rfl, hdepth⟩
      rw [Nesting.step_comma hn] at hdepth
      have hpos := h.1 rfl
      omega
    rw [List.cons_append, joinFrom, if_neg hinside, ih (hn.step _ _) h.2, List.reverse_cons,
      List.append_assoc]
    rfl

def joined (segments : List (List Char)) : List (ItemKind × List Char) :=
  [(ItemKind.separator, [','])].intercalate (segments.map part)

lemma joinFrom_settled {n : Nesting} (hdepth : n.depth = 0) {first : List (List Char)}
    {rest : List (List (List Char))} (h : Settled (first :: rest))
    (hne : ∀ pieces ∈ first :: rest, [] ∉ pieces) :
    joinFrom n [] (first ++ behind rest) = joined ((first :: rest).map List.flatten) := by
  have hproper : n.Proper := .inl hdepth
  have halike : Nesting.outside.Alike n := .inr ⟨rfl, hdepth⟩
  have hpart := part_flatten (hne first List.mem_cons_self)
  induction rest generalizing n first with
  | nil =>
    rw [joinFrom_covers hproper (halike.covers h.1), List.append_nil]
    simpa [behind, joinFrom, joined] using hpart
  | cons second rest ih =>
    obtain ⟨hcovers, hclosed, hrest⟩ := h
    set n' := n.read first (behind (second :: rest))
    have hdepth' : n'.depth = 0 := by
      rw [← (halike.read first _).depth_eq]
      exact hclosed (List.cons_ne_nil _ _)
    have hproper' : n'.Proper := .inl hdepth'
    have hne' : ∀ pieces ∈ second :: rest, [] ∉ pieces :=
      fun pieces hmem => hne pieces (List.mem_cons_of_mem _ hmem)
    have hsecond := ih hdepth' hrest hne' hproper' (.inr ⟨rfl, hdepth'⟩)
      (part_flatten (hne' second List.mem_cons_self))
    rw [joinFrom_covers hproper (halike.covers hcovers), List.append_nil]
    show joinFrom n' first.reverse ([','] :: (second ++ behind rest)) = _
    rw [joinFrom, Nesting.step_comma hproper', if_pos ⟨rfl, hdepth'⟩, hpart, hsecond]
    simp [joined, List.intercalate_cons_cons]

lemma nil_notMem_piecesFrom (plain text : List Char) : [] ∉ piecesFrom plain text := by
  have hflush (plain : List Char) : [] ∉ flush plain := by
    rw [flush]
    split
    · exact List.not_mem_nil
    · next hne => simpa using hne
  fun_induction piecesFrom plain text with
  | case1 plain => exact hflush plain
  | case2 plain c rest hquote ih => simp [hflush, ih]
  | case3 plain c rest hquote ih => exact ih
  | case4 plain c rest hescape hdelimiter ih => simp [hflush, ih]
  | case5 plain c rest hescape hdelimiter ih => exact ih

lemma piecesFrom_escape {c : Char} (h : isQuote c = true) (plain rest : List Char) :
    piecesFrom plain ('\\' :: c :: rest) = flush plain ++ ['\\', c] :: pieces rest := by
  rw [piecesFrom, if_pos h, pieces]

lemma piecesFrom_delimiter {c : Char} (h : isDelimiter c = true) (plain rest : List Char) :
    piecesFrom plain (c :: rest) = flush plain ++ [c] :: pieces rest := by
  rw [piecesFrom, if_pos h, pieces]
  rintro c' rest' rfl
  exact absurd h (by decide)

lemma piecesFrom_plain {c : Char} {rest : List Char} (h : isDelimiter c = false)
    (hescape : c = '\\' → ∀ q ∈ rest.head?, isQuote q = false) (plain : List Char) :
    piecesFrom plain (c :: rest) = piecesFrom (c :: plain) rest := by
  by_cases hc : c = '\\'
  · obtain rfl := hc
    cases rest with
    | nil => rfl
    | cons q rest =>
      rw [piecesFrom, if_neg (Bool.eq_false_iff.mp (hescape rfl q rfl))]
  · rw [piecesFrom, if_neg (Bool.eq_false_iff.mp h)]
    exact fun _ _ heq => absurd heq hc

lemma piecesFrom_append_comma (plain s t : List Char) :
    piecesFrom plain (s ++ ',' :: t) = piecesFrom plain s ++ [','] :: pieces t := by
  fun_induction piecesFrom plain s with
  | case1 plain => exact piecesFrom_delimiter rfl plain t
  | case2 plain c rest hquote ih =>
    show piecesFrom plain ('\\' :: c :: (rest ++ ',' :: t)) = _
    rw [piecesFrom_escape hquote, pieces, ih, List.append_assoc]
    rfl
  | case3 plain c rest hquote ih =>
    rw [← ih]
    exact piecesFrom_plain rfl (fun _ q hq => by simp at hq; simpa [← hq] using hquote) plain
  | case4 plain c rest hescape hdelimiter ih =>
    rw [List.cons_append, piecesFrom_delimiter hdelimiter, pieces, ih, List.append_assoc]
    rfl
  | case5 plain c rest hescape hdelimiter ih =>
    rw [← ih]
    apply piecesFrom_plain (Bool.eq_false_iff.mpr hdelimiter)
    intro hc q hq
    cases rest with
    | nil =>
      cases hq
      decide
    | cons q' rest => exact absurd rfl (hescape q' rest hc)

lemma flatten_pieces (text : List Char) : (pieces text).flatten = text := by
  rw [pieces, flatten_piecesFrom]
  rfl

lemma eq_nil_of_flatten {pieces : List (List Char)} (hne : [] ∉ pieces) (h : pieces.flatten = []) :
    pieces = [] := by
  cases pieces with
  | nil => rfl
  | cons piece rest =>
    obtain ⟨rfl, _⟩ := List.append_eq_nil_iff.mp h
    exact absurd List.mem_cons_self hne

lemma eq_of_flatten_eq {first second after after' : List (List Char)}
    (h : first ++ after = second ++ after') (hne : [] ∉ first) (hne' : [] ∉ second)
    (hflatten : first.flatten = second.flatten) : first = second := by
  rcases List.append_eq_append_iff.mp h with ⟨more, rfl, _⟩ | ⟨more, rfl, _⟩
  · have hmore : more = [] := by
      apply eq_nil_of_flatten fun hmem => hne' (List.mem_append_right _ hmem)
      simpa using hflatten.symm
    rw [hmore, List.append_nil]
  · have hmore : more = [] := by
      apply eq_nil_of_flatten fun hmem => hne (List.mem_append_right _ hmem)
      simpa using hflatten
    rw [hmore, List.append_nil]

lemma exists_append_comma {text : List Char} {before after : List (List Char)}
    (h : pieces text = before ++ [','] :: after) :
    ∃ s t, text = s ++ ',' :: t ∧ pieces s = before ∧ pieces t = after := by
  have htext : text = before.flatten ++ ',' :: after.flatten := by
    rw [← flatten_pieces text, h, List.flatten_append, List.flatten_cons]
    rfl
  have hpieces := nil_notMem_piecesFrom [] text
  have hcut := piecesFrom_append_comma [] before.flatten after.flatten
  rw [← htext, ← pieces, ← pieces, h] at hcut
  have hne : [] ∉ before := fun hmem => by
    rw [← pieces, h] at hpieces
    exact hpieces (List.mem_append_left _ hmem)
  have hbefore : before = pieces before.flatten :=
    eq_of_flatten_eq hcut hne (nil_notMem_piecesFrom [] _) (flatten_pieces _).symm
  rw [← hbefore] at hcut
  have hafter := (List.cons.inj (List.append_cancel_left hcut)).2
  exact ⟨_, _, htext, hbefore.symm, hafter.symm⟩

lemma exists_texts {text : List Char} {first : List (List Char)} {rest : List (List (List Char))}
    (h : pieces text = first ++ behind rest) :
    ∃ s texts, [','].intercalate (s :: texts) = text ∧ (s :: texts).map pieces = first :: rest := by
  induction rest generalizing text first with
  | nil =>
    rw [behind, List.flatMap_nil, List.append_nil] at h
    exact ⟨text, [], by simp, by simp [h]⟩
  | cons second rest ih =>
    have hcut : pieces text = first ++ [','] :: (second ++ behind rest) := h
    obtain ⟨s, t, rfl, hfirst, hrest⟩ := exists_append_comma hcut
    obtain ⟨s', texts, rfl, hmap⟩ := ih hrest
    refine ⟨s, s' :: texts, ?_, ?_⟩
    · rw [List.intercalate_cons_cons, List.append_assoc]
      rfl
    · rw [List.map_cons, hfirst, hmap]

theorem exists_segments (text : List Char) :
    ∃ segments, segments ≠ [] ∧ [','].intercalate segments = text ∧ Settled (segments.map pieces) := by
  obtain ⟨first, rest, hpieces, hcovers, hclosed, hrest⟩ :=
    exists_settled Nesting.proper_outside (pieces text)
  obtain ⟨s, texts, htext, hmap⟩ := exists_texts hpieces
  exact ⟨s :: texts, List.cons_ne_nil _ _, htext, hmap ▸ ⟨hcovers, hclosed, hrest⟩⟩

lemma pieces_intercalate (s : List Char) (texts : List (List Char)) :
    pieces ([','].intercalate (s :: texts)) = pieces s ++ behind (texts.map pieces) := by
  induction texts generalizing s with
  | nil => simp [behind]
  | cons s' texts ih =>
    have hcut := piecesFrom_append_comma [] s ([','].intercalate (s' :: texts))
    rw [List.intercalate_cons_cons, List.append_assoc]
    exact hcut.trans (by rw [ih]; rfl)

theorem join_intercalate {segments : List (List Char)} (hne : segments ≠ [])
    (h : Settled (segments.map pieces)) :
    join (pieces ([','].intercalate segments)) = joined segments := by
  obtain ⟨s, texts, rfl⟩ := List.exists_cons_of_ne_nil hne
  have hpieces : ∀ group ∈ (s :: texts).map pieces, [] ∉ group := by
    intro group hgroup
    obtain ⟨text, _, rfl⟩ := List.mem_map.mp hgroup
    exact nil_notMem_piecesFrom [] text
  have hflatten : ((s :: texts).map pieces).map List.flatten = s :: texts := by
    rw [List.map_map]
    exact List.map_id'' flatten_pieces _
  rw [join, pieces_intercalate, joinFrom_settled rfl h hpieces, ← List.map_cons, hflatten]

section Blank

lemma isDelimiter_of_isQuote {c : Char} (h : isQuote c = true) : isDelimiter c = true := by
  rw [isDelimiter, h, Bool.or_true]

lemma isWhiteSpace_eq_false {c : Char} (h : isDelimiter c = true ∨ c = '\\') :
    Unicode.isWhiteSpace c = false := by
  simp only [isDelimiter, isQuote, Bool.or_eq_true, List.contains_iff_mem, List.mem_cons,
    List.not_mem_nil, or_false, beq_iff_eq] at h
  rcases h with ((rfl | rfl | rfl | rfl | rfl | rfl | rfl | rfl | rfl) | (rfl | rfl) | rfl) | rfl
  all_goals decide

lemma plain_of_isWhiteSpace {c : Char} (h : Unicode.isWhiteSpace c = true) :
    isDelimiter c = false ∧ isQuote c = false ∧ c ≠ '\\' := by
  have hplain : ¬(isDelimiter c = true ∨ c = '\\') := fun hc => by
    rw [isWhiteSpace_eq_false hc] at h
    cases h
  obtain ⟨hdelimiter, hescape⟩ := not_or.mp hplain
  refine ⟨Bool.eq_false_iff.mpr hdelimiter, Bool.eq_false_iff.mpr fun hquote => ?_, hescape⟩
  exact hdelimiter (isDelimiter_of_isQuote hquote)

lemma marks_append (pieces pieces' : List (List Char)) :
    marks (pieces ++ pieces') = marks pieces ++ marks pieces' := List.filter_append _ _

lemma marks_append_cons {before after after' : List (List Char)} (piece : List Char)
    (h : marks after = marks after') :
    marks (before ++ piece :: after) = marks (before ++ piece :: after') := by
  simp only [marks, List.filter_append, List.filter_cons] at h ⊢
  rw [h]

lemma marks_flush {plain : List Char} (h : ∀ c ∈ plain, isDelimiter c = false) :
    marks (flush plain) = [] := by
  have hmark : ∀ piece ∈ flush plain, ¬isMark piece = true := by
    intro piece hpiece hmark
    rw [flush] at hpiece
    split at hpiece
    · cases hpiece
    · obtain rfl := List.mem_singleton.mp hpiece
      obtain ⟨c, hc, hdelimiter⟩ := exists_of_isMark hmark
      have hmem : c ∈ plain := List.mem_reverse.mp (hc ▸ List.mem_cons_self)
      rw [h c hmem] at hdelimiter
      cases hdelimiter
  exact List.filter_eq_nil_iff.mpr hmark

lemma marks_piecesFrom {plain plain' : List Char} (h : ∀ c ∈ plain, isDelimiter c = false)
    (h' : ∀ c ∈ plain', isDelimiter c = false) (text : List Char) :
    marks (piecesFrom plain text) = marks (piecesFrom plain' text) := by
  have hcons {c : Char} {plain : List Char} (hc : isDelimiter c = false)
      (h : ∀ c ∈ plain, isDelimiter c = false) : ∀ c' ∈ c :: plain, isDelimiter c' = false :=
    List.forall_mem_cons.mpr ⟨hc, h⟩
  fun_induction piecesFrom plain text generalizing plain' with
  | case1 plain => exact (marks_flush h).trans (marks_flush h').symm
  | case2 plain c rest hquote ih =>
    rw [piecesFrom_escape hquote, marks_append, marks_append, marks_flush h, marks_flush h']
    rfl
  | case3 plain c rest hquote ih =>
    rw [piecesFrom, if_neg hquote]
    exact ih (hcons rfl h) (hcons rfl h')
  | case4 plain c rest hescape hdelimiter ih =>
    rw [piecesFrom_delimiter hdelimiter, marks_append, marks_append, marks_flush h, marks_flush h']
    rfl
  | case5 plain c rest hescape hdelimiter ih =>
    have hc := Bool.eq_false_iff.mpr hdelimiter
    rw [piecesFrom, if_neg hdelimiter]
    · exact ih (hcons hc h) (hcons hc h')
    · exact hescape

lemma piecesFrom_blank_append {blank : List Char} (h : isBlank blank = true) (plain text : List Char) :
    piecesFrom plain (blank ++ text) = piecesFrom (blank.reverse ++ plain) text := by
  induction blank generalizing plain with
  | nil => rfl
  | cons c blank ih =>
    rw [isBlank, List.all_cons, Bool.and_eq_true] at h
    obtain ⟨hdelimiter, _, hescape⟩ := plain_of_isWhiteSpace h.1
    rw [List.cons_append, piecesFrom_plain hdelimiter (absurd · hescape), ih h.2,
      List.reverse_cons, List.append_assoc]
    rfl

lemma isDelimiter_of_blank {blank : List Char} (h : isBlank blank = true) :
    ∀ c ∈ blank, isDelimiter c = false :=
  fun c hc => (plain_of_isWhiteSpace (List.all_eq_true.mp h c hc)).1

lemma marks_blank_append {blank : List Char} (h : isBlank blank = true) (text : List Char) :
    marks (pieces (blank ++ text)) = marks (pieces text) := by
  rw [pieces, piecesFrom_blank_append h, List.append_nil]
  apply marks_piecesFrom
  · exact fun c hc => isDelimiter_of_blank h c (List.mem_reverse.mp hc)
  · exact fun _ hc => absurd hc List.not_mem_nil

lemma marks_piecesFrom_append_blank {blank plain : List Char} (h : isBlank blank = true)
    (hplain : ∀ c ∈ plain, isDelimiter c = false) (text : List Char) :
    marks (piecesFrom plain (text ++ blank)) = marks (piecesFrom plain text) := by
  fun_induction piecesFrom plain text with
  | case1 plain =>
    have hpieces := piecesFrom_blank_append h plain []
    rw [List.append_nil] at hpieces
    rw [List.nil_append, hpieces, piecesFrom, marks_flush hplain, marks_flush]
    intro c hc
    rcases List.mem_append.mp hc with hc | hc
    · exact isDelimiter_of_blank h c (List.mem_reverse.mp hc)
    · exact hplain c hc
  | case2 plain c rest hquote ih =>
    show marks (piecesFrom plain ('\\' :: c :: (rest ++ blank))) = _
    rw [piecesFrom_escape hquote]
    exact marks_append_cons _ (ih fun _ hc => absurd hc List.not_mem_nil)
  | case3 plain c rest hquote ih =>
    show marks (piecesFrom plain ('\\' :: c :: (rest ++ blank))) = _
    rw [piecesFrom, if_neg hquote]
    exact ih (List.forall_mem_cons.mpr ⟨rfl, hplain⟩)
  | case4 plain c rest hescape hdelimiter ih =>
    rw [List.cons_append, piecesFrom_delimiter hdelimiter]
    exact marks_append_cons _ (ih fun _ hc => absurd hc List.not_mem_nil)
  | case5 plain c rest hescape hdelimiter ih =>
    have hc := Bool.eq_false_iff.mpr hdelimiter
    rw [← ih (List.forall_mem_cons.mpr ⟨hc, hplain⟩), List.cons_append, piecesFrom_plain hc]
    intro hbackslash q hq
    cases rest with
    | nil =>
      have hmem : q ∈ blank := List.mem_of_mem_head? hq
      exact (plain_of_isWhiteSpace (List.all_eq_true.mp h q hmem)).2.1
    | cons q' rest => exact absurd rfl (hescape q' rest hbackslash)

lemma marks_append_blank {blank : List Char} (h : isBlank blank = true) (text : List Char) :
    marks (pieces (text ++ blank)) = marks (pieces text) :=
  marks_piecesFrom_append_blank h (fun _ hc => absurd hc List.not_mem_nil) text

end Blank

lemma settled_of_marks {segments segments' : List (List Char)} (h : Settled (segments.map pieces))
    (hsub : (segments'.map fun s => marks (pieces s)).Sublist
      (segments.map fun s => marks (pieces s))) : Settled (segments'.map pieces) := by
  have hmarks := (settled_map_marks _).mpr h
  rw [List.map_map] at hmarks
  rw [← settled_map_marks, List.map_map]
  exact hmarks.sublist hsub

end Referent.ItemToken
