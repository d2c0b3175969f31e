import Referent.Proofs.Document.Coordinates
import Referent.Proofs.Item.Contents
import Referent.Scope.Finder

namespace Referent

namespace Document

variable {d : Document} {a b c : Nat}

def span (d : Document) (a b : Nat) : Range := .between (d.positionAt a) (d.positionAt b)

lemma start_span (h : a ≤ b) : (d.span a b).start = d.positionAt a :=
  Range.start_between (d.positionAt_mono h)

lemma stop_span (h : a ≤ b) : (d.span a b).stop = d.positionAt b :=
  Range.stop_between (d.positionAt_mono h)

lemma union_span (hab : a ≤ b) (hbc : b ≤ c) : (d.span a b).union (d.span b c) = d.span a c := by
  have hac := Nat.le_trans hab hbc
  refine Range.ext_iff'.mpr ⟨?_, ?_⟩
  · rw [start_span hac, ← start_span hab]
    apply Position.min_eq_left
    rw [start_span hab, start_span hbc]
    exact d.positionAt_mono hab
  · rw [stop_span hac, ← stop_span hbc]
    apply Position.max_eq_right
    rw [stop_span hab, stop_span hbc]
    exact d.positionAt_mono hbc

def Apart (s t : List Char) : Prop := s.getLast? ≠ some '\r' ∨ t.head? ≠ some '\n'

lemma offsetAt_positionAt_length {s t : List Char} (htext : d.text = s ++ t) (h : Apart s t) :
    d.offsetAt (d.positionAt s.length) = s.length := by
  refine offsetAt_positionAt (by simp [length, htext]) fun hin => ?_
  obtain ⟨hpos, hcr, hlf⟩ := hin
  rw [htext, List.getElem?_append_left (by omega), ← List.getLast?_eq_getElem?] at hcr
  rw [htext, List.getElem?_append_right (Nat.le_refl _), Nat.sub_self, ← List.head?_eq_getElem?] at hlf
  exact h.elim (absurd hcr) (absurd hlf)

section Span

variable {first middle last : List Char} (htext : d.text = first ++ (middle ++ last))
  (hstart : Apart first (middle ++ last)) (hstop : Apart (first ++ middle) last)

include htext hstart hstop

lemma offsetAt_span : d.offsetAt (d.span first.length (first.length + middle.length)).start =
      first.length ∧
    d.offsetAt (d.span first.length (first.length + middle.length)).stop =
      first.length + middle.length := by
  have hle := Nat.le_add_right first.length middle.length
  rw [start_span hle, stop_span hle]
  refine ⟨offsetAt_positionAt_length htext hstart, ?_⟩
  rw [← List.append_assoc] at htext
  rw [← List.length_append]
  exact offsetAt_positionAt_length htext hstop

lemma textIn_span : d.textIn (d.span first.length (first.length + middle.length)) = middle := by
  obtain ⟨hfirst, hlast⟩ := offsetAt_span htext hstart hstop
  rw [textIn, hfirst, hlast, Nat.add_sub_cancel_left, htext, List.drop_left, List.take_left]

lemma without_span : d.without (d.span first.length (first.length + middle.length)) =
    first ++ last := by
  obtain ⟨hfirst, hlast⟩ := offsetAt_span htext hstart hstop
  rw [without, hfirst, hlast, htext, List.take_left, ← List.append_assoc, ← List.length_append,
    List.drop_left]

end Span

lemma apart_of_head {s t : List Char} (hne : t ≠ [])
    (h : ∀ c ∈ t.head?, Unicode.isWhiteSpace c = false) (rest : List Char) : Apart s (t ++ rest) := by
  refine .inr fun hlf => ?_
  rw [head?_append hne] at hlf
  exact absurd (h _ hlf) (by decide)

lemma apart_of_last {s t : List Char} (hne : s ≠ [])
    (h : ∀ c ∈ s.getLast?, Unicode.isWhiteSpace c = false) (rest : List Char) :
    Apart (rest ++ s) t := by
  refine .inl fun hcr => ?_
  rw [List.getLast?_append_of_ne_nil _ hne] at hcr
  exact absurd (h _ hcr) (by decide)

end Document

open ItemToken Document

namespace Item

variable {d : Document} {content : Range}

def place (d : Document) (t : ItemToken) : Placed := (t.kind, d.span t.start t.stop)

lemma trailingGap_separator {r : Range} {after : List Placed}
    (h : ∀ p ∈ after.head?, p.1 = .separator) :
    trailingGap content ((.separator, r) :: after) = some (.between content.stop r.stop) := by
  match after with
  | [] => rfl
  | (.separator, _) :: _ => rfl
  | (.item, _) :: _ => cases h _ rfl
  | (.boundary, _) :: _ => cases h _ rfl

lemma leadingGap_separator {r : Range} {before : List Placed}
    (h : ∀ p ∈ before.head?, p.1 = .separator) :
    leadingGap content ((.separator, r) :: before) = some (.between r.start content.start) := by
  match before with
  | [] => rfl
  | (.separator, _) :: _ => rfl
  | (.item, _) :: _ => cases h _ rfl
  | (.boundary, _) :: _ => cases h _ rfl

lemma trimmed_partsBehind (s : List Char) (after : List (List Char)) (start : Nat) :
    trimmed start (partsBehind (s :: after)) =
      ⟨.separator, start, start + 1⟩ :: (trimmed (start + 1) (part s) ++
        trimmed (start + 1 + s.length) (partsBehind after)) := by
  rw [partsBehind, List.flatMap_cons, ← partsBehind, List.cons_append, trimmed_cons,
    trimmed_separator, trimmed_append, flatten_part]
  rfl

lemma trimmed_partsBefore (before : List (List Char)) (s : List Char) :
    trimmed 0 (partsBefore (before ++ [s])) =
      trimmed 0 (partsBefore before) ++ (trimmed (charsBefore before).length (part s) ++
        [⟨.separator, (charsBefore before).length + s.length,
          (charsBefore before).length + s.length + 1⟩]) := by
  have hparts : partsBefore (before ++ [s]) = partsBefore before ++ (part s ++ [separatorPart]) := by
    rw [partsBefore, List.flatMap_append, List.flatMap_singleton]
    rfl
  rw [hparts, trimmed_append, flatten_partsBefore, Nat.zero_add, trimmed_append, flatten_part,
    trimmed_separator]

lemma exists_trailingGap (d : Document) (s : List Char) (after : List (List Char)) (start : Nat) :
    ∃ blank rest, s = blank ++ rest ∧ isBlank blank = true ∧
      (∀ before behind, Apart (before ++ ',' :: blank) (rest ++ behind)) ∧
      ∀ content, trailingGap content ((trimmed start (partsBehind (s :: after))).map (place d)) =
        some (.between content.stop (d.positionAt (start + 1 + blank.length))) := by
  by_cases hblank : isBlank s = true
  · have hhead : ∀ p ∈ ((trimmed (start + 1 + s.length) (partsBehind after)).map (place d)).head?,
        p.1 = .separator := by
      cases after with
      | nil => exact nofun
      | cons s' after =>
        rintro p hp
        rw [trimmed_partsBehind] at hp
        cases hp
        rfl
    refine ⟨[], s, rfl, rfl, fun before behind => .inl (by simp), fun content => ?_⟩
    rw [trimmed_partsBehind, trimmed_part_blank hblank, List.nil_append, List.map_cons, place,
      trailingGap_separator hhead, stop_span (Nat.le_succ start)]
    rfl
  · obtain ⟨leading, trailing, hs, hframed⟩ := exists_framed (Bool.eq_false_iff.mpr hblank)
    refine ⟨leading, trim s ++ trailing, by rw [← List.append_assoc, ← hs], hframed.leading,
      fun before behind => ?_, fun content => ?_⟩
    · rw [List.append_assoc]
      exact apart_of_head hframed.ne_nil hframed.head _
    · have htoken := trimmed_part hframed (start + 1)
      have hle := Nat.le_add_right (start + 1 + leading.length) (trim s).length
      rw [← hs] at htoken
      rw [trimmed_partsBehind, htoken, ← start_span hle]
      rfl

lemma exists_leadingGap (d : Document) (before : List (List Char)) (s : List Char) :
    ∃ rest blank, s = rest ++ blank ∧ isBlank blank = true ∧
      (∀ before behind, Apart (before ++ rest) (blank ++ ',' :: behind)) ∧
      ∀ content, leadingGap content
          ((trimmed 0 (partsBefore (before ++ [s]))).map (place d)).reverse =
        some (.between (d.positionAt ((charsBefore before).length + rest.length)) content.start) := by
  by_cases hblank : isBlank s = true
  · have hhead : ∀ p ∈ ((trimmed 0 (partsBefore before)).map (place d)).reverse.head?,
        p.1 = .separator := by
      rcases List.eq_nil_or_concat before with rfl | ⟨before, s', rfl⟩
      · exact nofun
      · rintro p hp
        rw [List.concat_eq_append, trimmed_partsBefore, ← List.append_assoc, List.map_append,
          List.reverse_append] at hp
        cases hp
        rfl
    refine ⟨s, [], by simp, rfl, fun before behind => .inr (by simp), fun content => ?_⟩
    rw [trimmed_partsBefore, trimmed_part_blank hblank, List.nil_append, List.map_append,
      List.reverse_append, List.map_singleton, List.reverse_singleton, List.singleton_append, place,
      leadingGap_separator hhead, start_span (Nat.le_succ _)]
  · obtain ⟨leading, trailing, hs, hframed⟩ := exists_framed (Bool.eq_false_iff.mpr hblank)
    refine ⟨leading ++ trim s, trailing, hs, hframed.trailing, fun before behind => ?_,
      fun content => ?_⟩
    · rw [← List.append_assoc]
      exact apart_of_last hframed.ne_nil hframed.last _
    · have htoken := trimmed_part hframed (charsBefore before).length
      have hle := Nat.le_add_right ((charsBefore before).length + leading.length) (trim s).length
      rw [← hs] at htoken
      rw [trimmed_partsBefore, htoken, List.length_append, ← Nat.add_assoc, ← stop_span hle,
        List.map_append, List.reverse_append]
      rfl

section Without

variable {leading text trailing : List Char} (hframed : Framed leading text trailing)

/-- What goes with the item between some segments and others. -/
def removalBetween (d : Document) (before : List (List Char)) (leading text trailing : List Char)
    (after : List (List Char)) : Range :=
  let start := (charsBefore before).length + leading.length
  let stop := start + text.length
  let content := d.span start stop
  elementRemoval content
    (leadingGap content ((trimmed 0 (partsBefore before)).map (place d)).reverse)
    (trailingGap content ((trimmed (stop + trailing.length) (partsBehind after)).map (place d)))

include hframed

lemma exists_without_next {before after : List (List Char)} {s : List Char}
    (htext : d.text = [','].intercalate (before ++ (leading ++ text ++ trailing) :: s :: after)) :
    ∃ blank rest, s = blank ++ rest ∧ isBlank blank = true ∧
      d.without (removalBetween d before leading text trailing (s :: after)) =
        [','].intercalate (before ++ (leading ++ rest) :: after) := by
  obtain ⟨blank, rest, rfl, hblank, hapart, hgap⟩ := exists_trailingGap d s after
    ((charsBefore before).length + leading.length + text.length + trailing.length)
  refine ⟨blank, rest, rfl, hblank, ?_⟩
  set first := charsBefore before ++ leading with hfirst
  set middle := text ++ trailing ++ ',' :: blank with hmiddle
  have hparts : d.text = first ++ (middle ++ (rest ++ charsBehind after)) := by
    rw [htext, text_append_cons, charsBehind, List.flatMap_cons, ← charsBehind]
    simp [hfirst, hmiddle]
  have hremoval : removalBetween d before leading text trailing ((blank ++ rest) :: after) =
      d.span first.length (first.length + middle.length) := by
    have hle := Nat.le_add_right first.length text.length
    have hle' : first.length + text.length ≤ first.length + middle.length := by simp [hmiddle]
    have hlength : (charsBefore before).length + leading.length = first.length :=
      List.length_append.symm
    have hend : first.length + text.length + trailing.length + 1 + blank.length =
        first.length + middle.length := by
      simp only [hmiddle, List.length_append, List.length_cons]
      omega
    simp only [removalBetween, hlength] at hgap ⊢
    rw [hgap, hend, ← union_span hle hle', stop_span hle]
    rfl
  have hstart : Apart first (middle ++ (rest ++ charsBehind after)) := by
    rw [hmiddle, List.append_assoc, List.append_assoc]
    exact apart_of_head hframed.ne_nil hframed.head _
  have hstop : Apart (first ++ middle) (rest ++ charsBehind after) := by
    rw [hmiddle, ← List.append_assoc]
    exact hapart _ _
  rw [hremoval, without_span hparts hstart hstop, text_append_cons]
  simp [hfirst]

lemma exists_without_last {before : List (List Char)} {s : List Char}
    (htext : d.text = [','].intercalate (before ++ [s] ++ [leading ++ text ++ trailing])) :
    ∃ rest blank, s = rest ++ blank ∧ isBlank blank = true ∧
      d.without (removalBetween d (before ++ [s]) leading text trailing []) =
        [','].intercalate (before ++ [rest ++ trailing]) := by
  obtain ⟨rest, blank, rfl, hblank, hapart, hgap⟩ := exists_leadingGap d before s
  refine ⟨rest, blank, rfl, hblank, ?_⟩
  set first := charsBefore before ++ rest with hfirst
  set middle := blank ++ ',' :: (leading ++ text) with hmiddle
  have hbefore : charsBefore (before ++ [rest ++ blank]) = first ++ (blank ++ [',']) := by
    simp [charsBefore, hfirst]
  have hparts : d.text = first ++ (middle ++ trailing) := by
    rw [htext, text_append_cons, hbefore]
    simp [hmiddle, charsBehind]
  have hremoval : removalBetween d (before ++ [rest ++ blank]) leading text trailing [] =
      d.span first.length (first.length + middle.length) := by
    set start := (charsBefore (before ++ [rest ++ blank])).length + leading.length with hstart
    have hle : first.length ≤ start := by
      rw [hstart, hbefore]
      simp only [List.length_append]
      omega
    have hle' := Nat.le_add_right start text.length
    have hend : start + text.length = first.length + middle.length := by
      rw [hstart, hbefore, hmiddle]
      simp only [List.length_append, List.length_cons, List.length_nil]
      omega
    have hlength : (charsBefore before).length + rest.length = first.length :=
      List.length_append.symm
    have hleading : d.span first.length start = .between (d.positionAt first.length)
        (d.span start (start + text.length)).start := by
      rw [start_span hle']
      rfl
    rw [← hend, ← union_span hle hle', Range.union_comm, hleading, ← hlength]
    simp only [removalBetween]
    rw [← hstart, hgap]
    rfl
  have hstart : Apart first (middle ++ trailing) := by
    rw [hmiddle, List.append_assoc]
    exact hapart _ _
  have hstop : Apart (first ++ middle) trailing := by
    rw [hmiddle, List.append_cons, ← List.append_assoc, ← List.append_assoc, ← List.append_assoc]
    exact apart_of_last hframed.ne_nil hframed.last _
  rw [hremoval, without_span hparts hstart hstop, text_append_cons]
  simp [hfirst, charsBehind]

lemma without_only (htext : d.text = leading ++ text ++ trailing) :
    d.without (removalBetween d [] leading text trailing []) = leading ++ trailing := by
  have hparts : d.text = leading ++ (text ++ trailing) := by rw [htext, List.append_assoc]
  have hremoval : removalBetween d [] leading text trailing [] =
      d.span leading.length (leading.length + text.length) := by
    show d.span (0 + leading.length) (0 + leading.length + text.length) = _
    rw [Nat.zero_add]
  have hstart := apart_of_head (s := leading) hframed.ne_nil hframed.head trailing
  have hstop := apart_of_last (t := trailing) hframed.ne_nil hframed.last leading
  rw [hremoval, without_span hparts hstart hstop]

lemma exists_segments_without {before after : List (List Char)}
    (htext : d.text = [','].intercalate (before ++ (leading ++ text ++ trailing) :: after))
    (h : Settled ((before ++ (leading ++ text ++ trailing) :: after).map pieces)) :
    ∃ segments, segments ≠ [] ∧ Settled (segments.map pieces) ∧
      contents segments = contents before ++ contents after ∧
      d.without (removalBetween d before leading text trailing after) =
        [','].intercalate segments := by
  cases after with
  | cons s after =>
    obtain ⟨blank, rest, rfl, hblank, hwithout⟩ := exists_without_next hframed htext
    refine ⟨_, by simp, settled_of_marks h ?_, ?_, hwithout⟩
    · rw [List.map_append, List.map_append, List.map_cons, List.map_cons, List.map_cons,
        marks_blank_append hframed.leading, marks_blank_append hblank]
      exact (List.sublist_cons_self _ _).append_left _
    · rw [contents_append, contents_cons, contents_blank_append hframed.leading,
        contents_cons (blank ++ rest), contents_blank_append hblank]
  | nil =>
    rcases List.eq_nil_or_concat before with rfl | ⟨before, s, rfl⟩
    · have hwithout := without_only hframed (by simpa using htext)
      have hnone : Settled ([[]].map pieces) := ⟨trivial, (absurd rfl ·), trivial⟩
      have hmarks : marks (pieces (leading ++ trailing)) = marks (pieces []) := by
        rw [marks_blank_append hframed.leading, ← List.append_nil trailing,
          marks_blank_append hframed.trailing]
      have hblank : contents [leading ++ trailing] = [] := by
        rw [contents_blank_append hframed.leading, contents_singleton, if_pos hframed.trailing]
      refine ⟨[leading ++ trailing], by simp, settled_of_marks hnone ?_, hblank, by simpa using hwithout⟩
      rw [List.map_singleton, hmarks]
      exact List.Sublist.refl _
    · rw [List.concat_eq_append] at htext h ⊢
      obtain ⟨rest, blank, rfl, hblank, hwithout⟩ := exists_without_last hframed htext
      refine ⟨_, by simp, settled_of_marks h ?_, ?_, hwithout⟩
      · rw [List.map_append, List.map_append, List.map_append, List.map_singleton, List.map_singleton,
          marks_append_blank hframed.trailing, marks_append_blank hblank]
        exact List.sublist_append_left _ _
      · rw [contents_append, contents_append_blank hframed.trailing, contents_append,
          contents_append_blank hblank]
        exact (List.append_nil _).symm

end Without

lemma content_ofPlaced (before after : List Placed) :
    (ofPlaced before after).map Item.content = (after.filter (·.1 = .item)).map Prod.snd := by
  induction after generalizing before with
  | nil => rfl
  | cons t after ih =>
    by_cases ht : t.1 = .item
    · obtain ⟨kind, r⟩ := t
      obtain rfl := ht
      rw [ofPlaced, List.map_cons, ih]
      rfl
    · rw [ofPlaced_cons ht, ih, List.filter_cons_of_neg (by simpa using ht)]

lemma getElem?_ofPlaced (before nearer after : List Placed) (r : Range) :
    (ofPlaced before (nearer ++ (.item, r) :: after))[(nearer.filter (·.1 = .item)).length]? =
      some (between (nearer.reverse ++ before) r after) := by
  induction nearer generalizing before with
  | nil => rfl
  | cons t nearer ih =>
    rw [List.cons_append, List.reverse_cons, List.append_assoc]
    by_cases ht : t.1 = .item
    · obtain ⟨kind, r'⟩ := t
      obtain rfl := ht
      exact ih _
    · rw [ofPlaced_cons ht, List.filter_cons_of_neg (by simpa using ht)]
      exact ih _

end Item

namespace Collection

variable {d : Document}

def whole (d : Document) : Collection := ⟨d.range, none⟩

lemma placed_whole (d : Document) : (whole d).placed d = (ofText d.text).map (Item.place d) := by
  show placedAt d (d.offsetAt d.range.start) (d.textIn d.range) = _
  rw [offsetAt_start_range, textIn_range, placedAt]
  simp only [Nat.zero_add]
  rfl

lemma textIn_items {segments : List (List Char)} (hne : segments ≠ [])
    (htext : [','].intercalate segments = d.text) (h : Settled (segments.map pieces)) :
    ((whole d).items d).map (fun i => d.textIn i.content) = contents segments := by
  have hreads := reads_ofText hne h
  rw [htext] at hreads
  have hcontents : ((whole d).items d).map Item.content =
      ((ofText d.text).filter (·.kind = .item)).map fun t => d.span t.start t.stop := by
    rw [items, placed_whole, Item.content_ofPlaced, List.filter_map, List.map_map]
    rfl
  rw [← Function.comp_def, ← List.map_map, hcontents, List.map_map]
  apply map_of_forall₂ _ hreads
  rintro t content ⟨first, last, hparts, hframed, rfl⟩
  rw [List.append_assoc] at hparts
  exact textIn_span hparts (apart_of_head hframed.ne_nil hframed.head _)
    (apart_of_last hframed.ne_nil hframed.last _)

lemma getElem?_items {before after : List (List Char)} {leading text trailing : List Char}
    (hframed : Framed leading text trailing)
    (htext : [','].intercalate (before ++ (leading ++ text ++ trailing) :: after) = d.text)
    (h : Settled ((before ++ (leading ++ text ++ trailing) :: after).map pieces)) :
    let start := (charsBefore before).length + leading.length
    let stop := start + text.length
    ((whole d).items d)[(contents before).length]? =
      some (Item.between ((trimmed 0 (partsBefore before)).map (Item.place d)).reverse
        (d.span start stop)
        ((trimmed (stop + trailing.length) (partsBehind after)).map (Item.place d))) := by
  intro start stop
  have hjoin := join_intercalate (by simp) h
  have htokens : ItemToken.ofText d.text = trimmed 0 (partsBefore before) ++
      ⟨.item, start, stop⟩ :: trimmed (stop + trailing.length) (partsBehind after) := by
    have hlength : (charsBefore before).length + (leading ++ text ++ trailing).length =
        stop + trailing.length := by
      simp only [start, stop, List.length_append]
      omega
    rw [← htext, ItemToken.ofText, hjoin, joined_append_cons, trimmed_append, flatten_partsBefore, Nat.zero_add,
      trimmed_append, flatten_part, trimmed_part hframed, hlength]
    rfl
  have hcount : ((((trimmed 0 (partsBefore before)).map (Item.place d)).filter (·.1 = .item))).length =
      (contents before).length := by
    rw [List.filter_map, List.length_map]
    exact length_items_partsBefore before
  rw [items, placed_whole, htokens, List.map_append, List.map_cons, ← hcount, Item.place,
    Item.getElem?_ofPlaced, List.append_nil]

/-- Without an item, and the gap that goes with it, a text has exactly the other items. -/
theorem itemTexts_without_item {e : Editor} {k : Nat} {i : Item}
    (hi : ((whole e.document).items e.document)[k]? = some i) (isReversed : Bool) :
    itemTexts (e.document.without (Scope.itemTarget e i isReversed).removal) =
      (((whole e.document).items e.document).map
        fun i => e.document.textIn i.content).eraseIdx k := by
  obtain ⟨segments, hne, htext, hsettled⟩ := exists_segments e.document.text
  have hcontents := textIn_items hne htext hsettled
  have hk : k < (contents segments).length := by
    rw [← hcontents, List.length_map]
    exact (List.getElem?_eq_some_iff.mp hi).1
  obtain ⟨before, s, after, rfl, hs, rfl⟩ := exists_segment hk
  obtain ⟨leading, trailing, heq, hframed⟩ := exists_framed hs
  generalize trim s = text at heq hframed
  obtain rfl := heq
  have hitem := getElem?_items hframed htext hsettled
  obtain rfl := Option.some.inj (hi.symm.trans hitem)
  obtain ⟨segments, hne', hsettled', hcontents', hwithout⟩ :=
    Item.exists_segments_without hframed htext.symm hsettled
  have hremoval (b : Bool) : (Scope.itemTarget e (Item.between _ _ _) b).removal =
      Item.removalBetween e.document before leading text trailing after := rfl
  rw [hremoval, hwithout, itemTexts_intercalate hne' hsettled', hcontents', hcontents,
    contents_append, contents_cons, contents_framed hframed,
    List.eraseIdx_append_of_length_le (Nat.le_refl _), Nat.sub_self]
  rfl

theorem itemTexts_without_pair :
    let e : Editor := .ofDocument 1 (.ofText 1 "plaintext" "a, (b,c), d".toList)
    let i : Item := ⟨.onLine 0 3 8, .onLine 0 2 8, some (.onLine 0 1 3), some (.onLine 0 8 10)⟩
    ((whole e.document).items e.document)[1]? = some i ∧
      e.document.without (Scope.itemTarget e i false).removal = "a, d".toList ∧
      itemTexts "a, d".toList = [['a'], ['d']] := by
  intro e i
  have hi : ((whole e.document).items e.document)[1]? = some i := by decide
  have hrest : e.document.without (Scope.itemTarget e i false).removal = "a, d".toList := by decide
  have hothers := itemTexts_without_item hi false
  rw [hrest] at hothers
  exact ⟨hi, hrest, hothers.trans (by decide)⟩

end Collection

end Referent
