import Referent.Proofs.Document.LineTexts
import Referent.Proofs.Pair.Quotes
import Referent.Proofs.Pair.Soundness

namespace Referent

lemma Delimiter.isSymmetric_of_isSingleLine {d : Delimiter} (hd : d ∈ table)
    (h : d.isSingleLine = true) : d.isSymmetric = true := by
  have hall : ∀ d ∈ table, d.isSingleLine = true → d.isSymmetric = true := by decide
  exact hall d hd h

namespace Occurrence

variable {delimiters : List Delimiter} {δ : Delimiter} {text : List Char}

lemma not_hasBreak_trans {a b c : Nat} (h : ¬HasBreak text a b) (h' : ¬HasBreak text b c) :
    ¬HasBreak text a c := by
  rintro ⟨k, hk, hk', heq⟩
  rcases Nat.lt_or_ge k b with hlt | hge
  · exact h ⟨k, hk, hlt, heq⟩
  · exact h' ⟨k, hge, hk', heq⟩

lemma Covers.not_hasBreak {o : Occurrence} (h : o.Covers text)
    (hbreak : '\r' ∉ textOf o.delimiter o.side ∧ '\n' ∉ textOf o.delimiter o.side) :
    ¬HasBreak text o.start o.stop := by
  rintro ⟨k, hk, hk', heq⟩
  exact (h.no_break hbreak hk hk').2 heq

inductive Advances (δ : Delimiter) (text : List Char) (opened : List Delimiter) (index : Nat)
    (opened' : List Delimiter) (index' : Nat) : Option Occurrence → Prop
  | lineFeed (hforgotten : δ ∉ opened') : Advances δ text opened index opened' index' none
  | other {found : Option Occurrence} (hfree : ¬HasBreak text index index')
    (hsame : δ ∈ opened' → δ ∈ opened) (hfound : ∀ o ∈ found, o.delimiter ≠ δ) :
    Advances δ text opened index opened' index' found
  | opens (hfree : ¬HasBreak text index index') :
    Advances δ text opened index opened' index' (some ⟨index, index', δ, .left⟩)
  | closes (hfree : ¬HasBreak text index index') (hopened : δ ∈ opened) (hclosed : δ ∉ opened') :
    Advances δ text opened index opened' index' (some ⟨index, index', δ, .right⟩)

lemma advances_of_scan (htable : ∀ d ∈ delimiters, d ∈ Delimiter.table) (hδ : δ ∈ Delimiter.table)
    (hline : δ.isSingleLine = true) (opened : List Delimiter) {index : Nat}
    (hlt : index < text.length) (prev : Option Char) :
    ∃ opened' index' last found, index < index' ∧ Advances δ text opened index opened' index' found ∧
      scan delimiters opened index prev (text.drop index) =
        found.toList ++ scan delimiters opened' index' last (text.drop index') := by
  have hchar : text[index]? = some text[index] := List.getElem?_eq_getElem hlt
  rw [List.drop_eq_getElem_cons hlt, scan]
  split
  · refine ⟨_, index + 1, _, none, Nat.lt_succ_self index, .lineFeed ?_, rfl⟩
    simp [hline]
  · next hbreak =>
    have hfree : ¬HasBreak text index (index + 1) := by
      rintro ⟨k, hk, hk', heq⟩
      obtain rfl : k = index := by omega
      exact hbreak (Option.some.inj (hchar.symm.trans heq))
    have hskip : Advances δ text opened index opened (index + 1) none :=
      .other hfree id fun _ ho => absurd ho (Option.not_mem_none _)
    split
    · exact ⟨_, index + 1, _, none, Nat.lt_succ_self index, hskip, rfl⟩
    · split
      · exact ⟨_, index + 1, _, none, Nat.lt_succ_self index, hskip, rfl⟩
      · next d side hd =>
        obtain ⟨hmem, hcovers⟩ := starts_of_delimiterAt? hd
        have htext := Delimiter.textOf_of_mem_table (htable d hmem) side
        have hpos := List.length_pos_iff.mpr htext.1
        rw [← List.drop_eq_getElem_cons hlt] at hcovers ⊢
        have hwidth : max 1 (textOf d side).length = (textOf d side).length := by omega
        simp only [hwidth, List.drop_drop]
        have hcovered : Covers ⟨index, index + (textOf d side).length, d, side⟩ text := ⟨rfl, hcovers⟩
        have hfree := hcovered.not_hasBreak htext.2
        have hnext : index < index + (textOf d side).length := by omega
        split
        · split
          · next hopened =>
            refine ⟨_, _, _, some _, hnext, ?_, rfl⟩
            by_cases heq : d = δ
            · subst heq
              exact .closes hfree (List.contains_iff_mem.mp hopened) (by simp)
            · exact .other hfree (fun h => (List.mem_filter.mp h).1) (by rintro o ⟨⟩; exact heq)
          · refine ⟨_, _, _, some _, hnext, ?_, rfl⟩
            by_cases heq : d = δ
            · subst heq
              exact .opens hfree
            · refine .other hfree (fun h => ?_) (by rintro o ⟨⟩; exact heq)
              exact (List.mem_cons.mp h).resolve_left (Ne.symm heq)
        · next hsides =>
          refine ⟨_, _, _, some _, hnext, ?_, rfl⟩
          refine .other hfree id ?_
          rintro o ⟨⟩
          rintro rfl
          exact hsides (Delimiter.isSymmetric_of_isSingleLine hδ hline)

lemma matchFrom_other {o : Occurrence} (ho : o.delimiter ≠ δ) (stack l : List Occurrence) :
    ∃ stack', (stack'.find? fun p => p.delimiter = δ) = stack.find? (fun p => p.delimiter = δ) ∧
      ∀ q ∈ matchFrom stack (o :: l), q.2.delimiter = δ → q ∈ matchFrom stack' l := by
  rcases matchFrom_cons stack o l with h | ⟨p, before, after, rfl, hp, _, h⟩ | h
  · exact ⟨o :: stack, List.find?_cons_of_neg (by simpa using ho), fun q hq _ => h ▸ hq⟩
  · refine ⟨before ++ after, ?_, fun q hq hdelimiter => ?_⟩
    · rw [List.find?_append, List.find?_append, List.find?_cons_of_neg (by simpa [hp] using ho)]
    · rw [h] at hq
      rcases List.mem_cons.mp hq with rfl | hq
      · exact absurd hdelimiter ho
      · exact hq
  · exact ⟨stack, rfl, fun q hq _ => h ▸ hq⟩

lemma not_hasBreak_of_mem_matchFrom (htable : ∀ d ∈ delimiters, d ∈ Delimiter.table)
    (hδ : δ ∈ Delimiter.table) (hline : δ.isSingleLine = true) {opened : List Delimiter}
    {stack : List Occurrence} {index : Nat} {prev : Option Char}
    (hopen : δ ∈ opened →
      ∃ p, (stack.find? fun p => p.delimiter = δ) = some p ∧ ¬HasBreak text p.start index)
    {q : Occurrence × Occurrence}
    (hq : q ∈ matchFrom stack (scan delimiters opened index prev (text.drop index)))
    (hdelimiter : q.2.delimiter = δ) : ¬HasBreak text q.1.start q.2.stop := by
  induction hn : text.length - index using Nat.strongRecOn generalizing opened stack index prev with
  | ind n ih =>
    rcases Nat.lt_or_ge index text.length with hlt | hge
    · obtain ⟨opened', index', last, found, hindex, hstep, hscan⟩ :=
        advances_of_scan htable hδ hline opened hlt prev
      have hless : text.length - index' < n := by omega
      rw [hscan] at hq
      cases hstep with
      | lineFeed hforgotten => exact ih _ hless (fun h => absurd h hforgotten) hq rfl
      | other hfree hsame hfound =>
        have hstays (h : δ ∈ opened') :
            ∃ p, (stack.find? fun p => p.delimiter = δ) = some p ∧ ¬HasBreak text p.start index' := by
          obtain ⟨p, hfind, hp⟩ := hopen (hsame h)
          exact ⟨p, hfind, not_hasBreak_trans hp hfree⟩
        cases found with
        | none => exact ih _ hless hstays hq rfl
        | some o =>
          obtain ⟨stack', hfind, hmem⟩ := matchFrom_other (hfound o rfl) stack _
          exact ih _ hless (hfind ▸ hstays) (hmem q hq hdelimiter) rfl
      | opens hfree =>
        refine ih _ hless (fun _ => ⟨_, List.find?_cons_of_pos (by simp), hfree⟩) hq rfl
      | closes hfree hopened hclosed =>
        obtain ⟨p, hfind, hp⟩ := hopen hopened
        simp only [Option.toList_some, List.singleton_append, matchFrom, hfind] at hq
        rcases List.mem_cons.mp hq with rfl | hq
        · exact not_hasBreak_trans hp hfree
        · exact ih _ hless (fun h => absurd h hclosed) hq rfl
    · rw [List.drop_eq_nil_of_le hge, scan] at hq
      exact absurd hq List.not_mem_nil

end Occurrence

namespace PairSearch

open Occurrence

variable {d : Document} {q : Occurrence × Occurrence}

lemma mem_part {text : List Char} {a b : Nat} {c : Char} :
    c ∈ part text a b ↔ ∃ k, a ≤ k ∧ k < b ∧ text[k]? = some c := by
  rw [part, List.mem_iff_getElem?]
  constructor
  · rintro ⟨j, hj⟩
    rw [List.getElem?_take, List.getElem?_drop] at hj
    obtain ⟨hlt, hj⟩ := Option.ite_none_right_eq_some.mp hj
    exact ⟨a + j, by omega, by omega, hj⟩
  · rintro ⟨k, hk, hk', hc⟩
    refine ⟨k - a, ?_⟩
    rw [List.getElem?_take_of_lt (by omega), List.getElem?_drop, Nat.add_sub_cancel' hk, hc]

section Written

variable (htable : q.1.delimiter ∈ Delimiter.table ∧ q.2.delimiter ∈ Delimiter.table)
  (hopening : q.1.Covers d.text) (hclosing : q.2.Covers d.text) (h : q.1.Precedes q.2)

include htable hopening hclosing h

lemma offsets_of_covers :
    d.offsetAt (matchAt d 0 q).opening.start = q.1.start ∧
      d.offsetAt (matchAt d 0 q).closing.start = q.2.start ∧
      d.offsetAt (matchAt d 0 q).closing.stop = q.2.stop ∧
      d.textIn (matchAt d 0 q).content = part d.text q.1.start q.2.stop := by
  have hin := hopening.not_insideBreak (Delimiter.textOf_of_mem_table htable.1 _).2 h.1
  have hin' := hclosing.not_insideBreak (Delimiter.textOf_of_mem_table htable.2 _).2 h.2.2
  obtain ⟨hstart, _, hstart', hstop⟩ :=
    offsets_matchAt h (hclosing.stop_le h.2.2) hin.1 hin.2 hin'.1 hin'.2
  obtain ⟨hcontent, hcontent'⟩ := PairMatch.content_eq (fits_matchAt d 0 h).ordered
  refine ⟨hstart, hstart', hstop, ?_⟩
  rw [Document.textIn, hcontent, hcontent', hstart, hstop, part]

lemma sameLine_iff :
    (matchAt d 0 q).opening.start.line = (matchAt d 0 q).closing.start.line ↔
      ∀ c ∈ part d.text q.1.start q.2.stop, LineEnding.ofChar? c = none := by
  obtain ⟨hstart, hstart', hstop, htext⟩ := offsets_of_covers htable hopening hclosing h
  have hfits := fits_matchAt d 0 h
  obtain ⟨hcontent, hcontent'⟩ := PairMatch.content_eq hfits.ordered
  obtain ⟨hfirst, hbetween, hsecond⟩ := h
  have hlength := hclosing.stop_le hsecond
  have hchar {k : Nat} (hk : k < q.2.stop) : ∃ c, d.text[k]? = some c :=
    ⟨_, List.getElem?_eq_getElem (Nat.lt_of_lt_of_le hk hlength)⟩
  constructor
  · intro hline
    have hplain : ∀ k < q.2.stop - q.2.start, ∃ c,
        d.text[d.offsetAt (matchAt d 0 q).closing.start + k]? = some c ∧
          LineEnding.ofChar? c = none := by
      intro k hk
      have hwidth := hclosing.stop
      obtain ⟨c, hc⟩ := hchar (k := q.2.start + k) (by omega)
      refine ⟨c, hstart' ▸ hc, ?_⟩
      apply Delimiter.ofChar?_of_mem_textOf htable.2 q.2.side c
      exact List.mem_of_getElem? ((hclosing.getElem? (by omega)).symm.trans hc)
    obtain ⟨hhas, hoffset⟩ := Document.has_beyond hfits.closing.1 hplain
    have hplace := Document.offsetAt_inj hhas hfits.closing.2 (by omega)
    have hholds : d.HoldsLine (matchAt d 0 q).content := by
      refine ⟨hfits.content, beq_iff_eq.mpr ?_⟩
      rw [hcontent, hcontent', ← hplace, hline]
    exact htext ▸ fun c hc => Document.ofChar?_of_mem_textIn hholds hc
  · intro hplain
    obtain ⟨hhas, hoffset⟩ := Document.has_beyond (n := q.2.start - q.1.start) hfits.opening.1
      fun k hk => by
        obtain ⟨c, hc⟩ := hchar (k := q.1.start + k) (by omega)
        exact ⟨c, hstart ▸ hc, hplain c (mem_part.mpr ⟨_, by omega, by omega, hc⟩)⟩
    have hplace := Document.offsetAt_inj hhas hfits.closing.1 (by omega)
    rw [← hplace]

end Written

lemma isLineEnding_eq_false {c : Char} : isLineEnding c = false ↔ LineEnding.ofChar? c = none := by
  rw [isLineEnding, Option.isSome_eq_false_iff, Option.isNone_iff_eq_none]

/-- A pair of quotes that do not span lines has no line feed in it. So it stands on one line exactly if no
other line ending is in it, as where line endings are line feeds, or stand before line feeds. -/
theorem singleLine_findAll (name : PairName) (language : String) (direction : Option PairDirection)
    (isStrong : Bool) {d : Document} {p : PairMatch} {δ : Delimiter} :
    let s : PairSearch := ⟨Delimiter.ofName name language, direction, isStrong⟩
    p ∈ s.findAll d → δ ∈ s.delimiters → δ.isSingleLine = true → d.textIn p.opening = δ.opening →
      '\n' ∉ d.textIn p.content ∧
      (p.opening.start.line = p.closing.start.line ↔
        ∀ c ∈ d.textIn p.content, isLineEnding c = false) ∧
      ((∀ k c, d.text[k]? = some c → isLineEnding c = true →
        c = '\n' ∨ d.text[k + 1]? = some '\n') → p.opening.start.line = p.closing.start.line) := by
  intro s hp hδ hline htext
  have htable : ∀ d ∈ s.delimiters, d ∈ Delimiter.table := fun _ => Delimiter.mem_table_of_mem_ofName
  rw [mem_findAll, pairsIn_undirected (.inr rfl), Document.textIn_range] at hp
  obtain ⟨q, hq, rfl⟩ := List.mem_map.mp hp
  obtain ⟨hfirst, hsecond, hsame⟩ := mem_of_mem_matched hq
  obtain ⟨hmem, hopening⟩ := covers_of_mem_ofText htable hfirst
  obtain ⟨hmem', hclosing⟩ := covers_of_mem_ofText htable hsecond
  have hprecedes := precedes_of_mem_matched (ofText_pairwise s.delimiters d.text) q hq
  have hquote : q.1.delimiter = δ := by
    have hopens : textOf q.1.delimiter q.1.side = textOf δ .left :=
      (hopening.textIn hmem hprecedes.1).symm.trans htext
    exact Delimiter.eq_of_textOf_eq hmem (htable δ hδ) hopens
  have hbreak : ¬HasBreak d.text q.1.start q.2.stop :=
    not_hasBreak_of_mem_matchFrom htable (htable δ hδ) hline (fun h => absurd h List.not_mem_nil)
      hq (hsame ▸ hquote)
  obtain ⟨_, _, _, hcontent⟩ := offsets_of_covers ⟨hmem, hmem'⟩ hopening hclosing hprecedes
  have hfeed : '\n' ∉ part d.text q.1.start q.2.stop := by
    rw [mem_part]
    exact hbreak
  have hiff := sameLine_iff ⟨hmem, hmem'⟩ hopening hclosing hprecedes
  simp only [hcontent, isLineEnding_eq_false]
  refine ⟨hfeed, hiff, fun hends => hiff.mpr fun c hc => ?_⟩
  by_contra hbreaks
  obtain ⟨k, hk, hk', hchar⟩ := mem_part.mp hc
  have hending : isLineEnding c = true := by
    rw [isLineEnding, Option.isSome_iff_ne_none]
    exact hbreaks
  rcases hends k c hchar hending with rfl | hnext
  · exact hfeed hc
  · rcases Nat.lt_or_ge (k + 1) q.2.stop with hlt | hge
    · exact hfeed (mem_part.mpr ⟨k + 1, by omega, hlt, hnext⟩)
    · -- The last character of a pair is one of a delimiter.
      have hlt := hprecedes.2.2
      obtain ⟨j, rfl⟩ : ∃ j, k = q.2.start + j := ⟨k - q.2.start, by omega⟩
      have hwidth := hclosing.stop
      rw [hclosing.getElem? (by omega)] at hchar
      exact hbreaks (Delimiter.ofChar?_of_mem_textOf hmem' _ c (List.mem_of_getElem? hchar))

theorem singleLine_findAll_crlf :
    let d : Document := .ofText 1 "plaintext" "\"a\r\n\"b\"".toList
    let p : PairMatch := ⟨.onLine 1 0 1, .onLine 1 2 3⟩
    p ∈ doubleQuotes.findAll d ∧ '\n' ∉ d.textIn p.content := by
  intro d p
  have hp : p ∈ doubleQuotes.findAll d := mem_findAll.mpr (by decide +kernel)
  have hquote : (⟨.doubleQuotes, ['"'], ['"']⟩ : Delimiter) ∈ doubleQuotes.delimiters := by
    decide +kernel
  have hsingle := singleLine_findAll .doubleQuotes "plaintext" none false hp hquote rfl
    (by decide +kernel)
  exact ⟨hp, hsingle.1⟩

theorem not_singleLine_findAll :
    ∃ d, ∃ p ∈ doubleQuotes.findAll d, (∀ δ ∈ doubleQuotes.delimiters, δ.isSingleLine = true) ∧
      p.opening.start.line ≠ p.closing.start.line := by
  let d : Document := .ofText 1 "plaintext" "\"a\rb\"".toList
  exact ⟨d, ⟨.onLine 0 0 1, .onLine 1 1 2⟩, mem_findAll.mpr (by decide +kernel), by decide +kernel,
    by decide⟩

end PairSearch

end Referent
