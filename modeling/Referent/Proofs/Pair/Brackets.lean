import Referent.Proofs.Pair.Growth

namespace Referent

namespace PairSearch

open Occurrence

def Surrounds (s : PairSearch) (p : PairMatch) (r : Range) : Prop :=
  (if s.isStrong then p.interior else p.content).containsRange r = true

instance (s : PairSearch) (p : PairMatch) (r : Range) : Decidable (s.Surrounds p r) :=
  inferInstanceAs (Decidable (_ = true))

/-- The pair of a document around a range that all the others around it contain, or at whose beginning
they end. -/
structure Innermost (s : PairSearch) (d : Document) (r : Range) (p : PairMatch) : Prop where
  mem : p ∈ s.findAll d
  surrounds : s.Surrounds p r
  inside : ∀ q ∈ s.findAll d, s.Surrounds q r →
    q.content.containsRange p.content = true ∨ q.content.stop = p.content.start

/-- A pair that ends at an empty selection, where the innermost pair begins. -/
structure Beside (s : PairSearch) (d : Document) (r : Range) (p inner : PairMatch) : Prop where
  mem : p ∈ s.findAll d
  weak : s.isStrong = false
  stop : p.content.stop = r.start
  start : inner.content.start = r.start
  isEmpty : r.isEmpty = true
  inside : ∀ q ∈ s.findAll d, s.Surrounds q r →
    q = inner ∨ q.content.containsRange p.content = true

/-- Whether a pair lies in the window of some length around a range without reaching its edges, or the
whole document is in the window. -/
def Within (d : Document) (r : Range) (length : Nat) (p : PairMatch) : Prop :=
  (d.offsetAt r.start < d.offsetAt p.content.start + length ∧
    d.offsetAt p.content.stop < d.offsetAt r.stop + length) ∨
  (d.offsetAt r.start ≤ length ∧ d.length ≤ d.offsetAt r.stop + length)

instance (d : Document) (r : Range) (length : Nat) (p : PairMatch) :
    Decidable (Within d r length p) := inferInstanceAs (Decidable (_ ∨ _))

def Around (s : PairSearch) (d : Document) (r : Range) (q : Occurrence × Occurrence) : Prop :=
  s.encloses (d.offsetAt r.start, d.offsetAt r.stop) q = true

structure OpensLast (s : PairSearch) (δ : Delimiter) (d : Document) (r : Range)
    (q : Occurrence × Occurrence) : Prop where
  mem : q ∈ matched (ofText [δ] d.text)
  around : s.Around d r q
  last : ∀ q' ∈ matched (ofText [δ] d.text), s.Around d r q' → q'.1.start ≤ q.1.start

structure Paired (δ : Delimiter) (text : List Char) (q : Occurrence × Occurrence) : Prop where
  opening : Reads δ text q.1
  closing : Reads δ text q.2
  precedes : q.1.Precedes q.2

section Bracket

variable {δ : Delimiter} (hδ : δ.IsBracket) {s : PairSearch} {d : Document} {r : Range}

include hδ

lemma pairsIn_bracket (hs : s.delimiters = [δ]) (text : List Char) (selection : Option Span) :
    s.pairsIn text selection = matched (ofText [δ] text) := by
  have hsides : δ.isSymmetric = false := by simpa [Delimiter.isSymmetric] using hδ.asymmetric
  have hsame : (ofText [δ] text).filter (fun o => o.delimiter = δ) = ofText [δ] text :=
    List.filter_eq_self.mpr fun o ho => by simpa using ((mem_ofText hδ).mp ho).delimiter
  simp only [pairsIn, hs]
  split
  · simp [matchedToward, hsides, hsame]
  · rfl

lemma mem_findAll_bracket (hs : s.delimiters = [δ]) {p : PairMatch} :
    p ∈ s.findAll d ↔ ∃ q ∈ matched (ofText [δ] d.text), matchAt d 0 q = p := by
  rw [mem_findAll, pairsIn_bracket hδ hs, Document.textIn_range, List.mem_map]

lemma paired_of_mem {text : List Char} {q : Occurrence × Occurrence}
    (hq : q ∈ matched (ofText [δ] text)) : Paired δ text q := by
  obtain ⟨hopen, hclose, _⟩ := mem_of_mem_matched hq
  exact ⟨((mem_ofText hδ).mp hopen).toReads, ((mem_ofText hδ).mp hclose).toReads,
    precedes_of_mem_matched (ofText_pairwise [δ] text) q hq⟩

section Paired

variable {q q' : Occurrence × Occurrence} (hq : Paired δ d.text q) (hq' : Paired δ d.text q')

include hq

lemma Paired.offsets :
    d.offsetAt (matchAt d 0 q).opening.start = q.1.start ∧
      d.offsetAt (matchAt d 0 q).opening.stop = q.1.stop ∧
      d.offsetAt (matchAt d 0 q).closing.start = q.2.start ∧
      d.offsetAt (matchAt d 0 q).closing.stop = q.2.stop := by
  have hin := hq.opening.not_insideBreak hδ
  have hin' := hq.closing.not_insideBreak hδ
  exact offsets_matchAt hq.precedes (hq.closing.stop_le hδ) hin.1 hin.2 hin'.1 hin'.2

omit hδ in
lemma Paired.content :
    (matchAt d 0 q).content.start = (matchAt d 0 q).opening.start ∧
      (matchAt d 0 q).content.stop = (matchAt d 0 q).closing.stop :=
  PairMatch.content_eq (fits_matchAt d 0 hq.precedes).ordered

lemma Paired.surrounds_iff (hr : d.Holds r) :
    s.Surrounds (matchAt d 0 q) r ↔ s.Around d r q := by
  have hfits := fits_matchAt d 0 hq.precedes
  obtain ⟨hopen, hopen', hclose, hclose'⟩ := hq.offsets hδ
  obtain ⟨hcontent, hcontent'⟩ := hq.content
  obtain ⟨hinterior, hinterior'⟩ := PairMatch.interior_eq hfits.ordered
  cases hs : s.isStrong with
  | true =>
    simp only [Surrounds, Around, encloses, hs, if_true, Range.containsRange_iff, hinterior, hinterior',
      Bool.and_eq_true, decide_eq_true_eq]
    rw [← Document.offsetAt_le_iff hfits.opening.2 hr.1,
      ← Document.offsetAt_le_iff hr.2 hfits.closing.1, hopen', hclose]
  | false =>
    simp only [Surrounds, Around, encloses, hs, Bool.false_eq_true, if_false, Range.containsRange_iff,
      hcontent, hcontent', Bool.and_eq_true, decide_eq_true_eq]
    rw [← Document.offsetAt_le_iff hfits.opening.1 hr.1,
      ← Document.offsetAt_le_iff hr.2 hfits.closing.2, hopen, hclose']

include hq'

lemma Paired.contains_iff :
    (matchAt d 0 q).content.containsRange (matchAt d 0 q').content = true ↔
      q.1.start ≤ q'.1.start ∧ q'.2.stop ≤ q.2.stop := by
  have hfits := fits_matchAt d 0 hq.precedes
  have hfits' := fits_matchAt d 0 hq'.precedes
  rw [Range.containsRange_iff, hq.content.1, hq.content.2, hq'.content.1, hq'.content.2,
    ← Document.offsetAt_le_iff hfits.opening.1 hfits'.opening.1,
    ← Document.offsetAt_le_iff hfits'.closing.2 hfits.closing.2, (hq.offsets hδ).1,
    (hq'.offsets hδ).1, (hq.offsets hδ).2.2.2, (hq'.offsets hδ).2.2.2]

lemma Paired.stop_eq_start_iff :
    (matchAt d 0 q).content.stop = (matchAt d 0 q').content.start ↔ q.2.stop = q'.1.start := by
  have hfits := fits_matchAt d 0 hq.precedes
  have hfits' := fits_matchAt d 0 hq'.precedes
  rw [hq.content.2, hq'.content.1, ← (hq.offsets hδ).2.2.2, ← (hq'.offsets hδ).1]
  exact ⟨congrArg d.offsetAt, Document.offsetAt_inj hfits.closing.2 hfits'.opening.1⟩

end Paired

lemma paired_of_mem_part {a b : Nat} (ha : a ≤ b) (hb : b ≤ d.text.length)
    {q : Occurrence × Occurrence}
    (hq : q ∈ matched ((ofText [δ] (part d.text a b)).map (shift a))) : Paired δ d.text q := by
  obtain ⟨hopen, hclose, _⟩ := mem_of_mem_matched hq
  refine ⟨((mem_ofText_part hδ ha hb).mp hopen).1, ((mem_ofText_part hδ ha hb).mp hclose).1, ?_⟩
  rw [matched_shift] at hq
  obtain ⟨q', hq', rfl⟩ := List.mem_map.mp hq
  exact precedes_shift (precedes_of_mem_matched (ofText_pairwise [δ] _) q' hq')

lemma eq_of_start {q q' : Occurrence × Occurrence} (hq : q ∈ matched (ofText [δ] d.text))
    (hq' : q' ∈ matched (ofText [δ] d.text)) (h : q.1.start = q'.1.start) : q = q' := by
  have hsame := (paired_of_mem hδ hq).opening.eq_of_start hδ (paired_of_mem hδ hq').opening h
  by_contra hne
  rcases settled_or (ofText_pairwise [δ] d.text) hq hq' hne with hs | hs
  · exact hs.1 hsame
  · exact hs.1 hsame.symm

lemma apart_or_around {q q' : Occurrence × Occurrence} (hq : q ∈ matched (ofText [δ] d.text))
    (hq' : q' ∈ matched (ofText [δ] d.text)) (hle : q.1.start ≤ q'.1.start) :
    q = q' ∨ q.2.stop ≤ q'.1.start ∨ (q.1.start < q'.1.start ∧ q'.2.stop ≤ q.2.stop) :=
  Occurrence.apart_or_around (ofText_pairwise [δ] d.text) hq hq'
    ((paired_of_mem hδ hq).opening.delimiter.trans (paired_of_mem hδ hq').opening.delimiter.symm) hle

section Search

variable (hs : s.delimiters = [δ])

include hs

lemma findInWindow_cases {window : Range} (hw : d.offsetAt window.start ≤ d.offsetAt r.start)
    (hr : d.offsetAt r.start ≤ d.offsetAt r.stop) :
    let pairs := matched ((ofText [δ] (part d.text (d.offsetAt window.start)
      (d.offsetAt window.stop))).map (shift (d.offsetAt window.start)))
    (s.findInWindow d window r = none ∧ ∀ q ∈ pairs, ¬s.Around d r q) ∨
    ∃ q ∈ pairs, s.Around d r q ∧ (∀ q' ∈ pairs, s.Around d r q' → q'.1.start ≤ q.1.start) ∧
      s.findInWindow d window r = some (matchAt d 0 q) := by
  intro pairs
  let a := d.offsetAt window.start
  let found := (matched (ofText [δ] (part d.text a (d.offsetAt window.stop)))).filter
    (s.encloses (d.offsetAt r.start - a, d.offsetAt r.stop - a))
  have haround (q : Occurrence × Occurrence) :
      s.encloses (d.offsetAt r.start - a, d.offsetAt r.stop - a) q = true ↔
        s.Around d r (Prod.map (shift a) (shift a) q) := by rw [s.encloses_shift hw hr, Around]
  have hmem {q : Occurrence × Occurrence} : q ∈ pairs ↔
      ∃ q' ∈ matched (ofText [δ] (part d.text a (d.offsetAt window.stop))),
        Prod.map (shift a) (shift a) q' = q := by
    rw [← List.mem_map, ← matched_shift]
  have hfind : s.findInWindow d window r = (lastMax? isInner found).map (matchAt d a) := by
    rw [findInWindow, pairsIn_bracket hδ hs]
    rfl
  cases hbest : lastMax? isInner found with
  | none =>
    refine .inl ⟨by rw [hfind, hbest]; rfl, fun q hq hq' => ?_⟩
    obtain ⟨q, hin, rfl⟩ := hmem.mp hq
    obtain ⟨best, h⟩ := exists_lastMax? isInner (List.mem_filter.mpr ⟨hin, (haround q).mpr hq'⟩)
    rw [hbest] at h
    cases h
  | some q =>
    obtain ⟨hq, henclosed⟩ := List.mem_filter.mp (mem_of_lastMax? hbest)
    refine .inr ⟨_, hmem.mpr ⟨q, hq, rfl⟩, (haround q).mp henclosed, fun p hp hp' => ?_, ?_⟩
    · obtain ⟨q', hq', rfl⟩ := hmem.mp hp
      have hfound : q' ∈ found := List.mem_filter.mpr ⟨hq', (haround q').mpr hp'⟩
      exact Nat.add_le_add_left (start_le_of_lastMax? hbest hfound) a
    · rw [hfind, hbest, ← matchAt_shift]
      rfl

lemma pair_of_found {start stop : Nat} (hr : d.Holds r) (hstart : start ≤ d.offsetAt r.start)
    (hstop : d.offsetAt r.stop ≤ stop) (hlast : stop ≤ d.length) {p : PairMatch}
    (h : (s.findInWindow d (.between (d.positionAt start) (d.positionAt stop)) r).filter
      (isWhole d start stop) = some p) :
    ∃ q ∈ matched (ofText [δ] d.text), s.Around d r q ∧ matchAt d 0 q = p ∧
      ∀ q' ∈ matched (ofText [δ] d.text), s.Around d r q' → q.1.start < q'.1.start →
        q.2.stop < q'.2.stop := by
  obtain ⟨hfind, hwhole⟩ := Option.filter_eq_some_iff.mp h
  have hselection := (Document.offsetAt_le_iff hr.1 hr.2).mpr r.start_le_stop
  have hle : start ≤ stop := by omega
  obtain ⟨hab, hastart, hbstop⟩ := ends_of_window hle hlast
  set window := Range.between (d.positionAt start) (d.positionAt stop)
  have hb : d.offsetAt window.stop ≤ d.text.length := by
    have hlength : d.length = d.text.length := rfl
    omega
  have hbefore : d.offsetAt window.start ≤ d.offsetAt r.start := by omega
  rcases findInWindow_cases hδ hs hbefore hselection with
    ⟨hnone, _⟩ | ⟨q, hq, haround, hlater, hsome⟩
  · rw [hnone] at hfind
    cases hfind
  · obtain rfl := Option.some.inj (hsome.symm.trans hfind)
    have hpaired := paired_of_mem_part hδ hab hb hq
    have hfree : q.1.start = d.offsetAt window.start →
        charBefore d.text (d.offsetAt window.start) ≠ some '\\' := by
      intro hedge hescape
      have hpos : 0 < d.offsetAt window.start := by
        cases h : d.offsetAt window.start with
        | zero => simp [h, charBefore] at hescape
        | succ k => exact Nat.succ_pos k
      rcases hastart with hsame | ⟨_, hcr⟩
      · simp only [isWhole, (hpaired.offsets hδ).1, Bool.and_eq_true, Bool.not_eq_true',
          Bool.and_eq_false_iff, decide_eq_false_iff_not, beq_eq_false_iff_ne] at hwhole
        omega
      · exact (hpaired.opening.no_break hδ (Nat.le_refl _) (hpaired.opening.start_lt hδ)).1
          (hedge ▸ hcr)
    obtain ⟨hmem, hqstart, hqstop⟩ := (mem_matched_window hδ hab hb hfree).mp hq
    refine ⟨q, hmem, haround, rfl, fun q' hq' haround' hlt => ?_⟩
    by_contra hstop
    have hfree' : q'.1.start = d.offsetAt window.start →
        charBefore d.text (d.offsetAt window.start) ≠ some '\\' := by omega
    have hmem' := (mem_matched_window hδ hab hb hfree').mpr ⟨hq', by omega, by omega⟩
    have hle' := hlater q' hmem' haround'
    omega

lemma found_of_opensLast {start stop : Nat} (hr : d.Holds r) (hstart : start ≤ d.offsetAt r.start)
    (hstop : d.offsetAt r.stop ≤ stop) (hlast : stop ≤ d.length) {q : Occurrence × Occurrence}
    (hq : s.OpensLast δ d r q) (hleft : 0 < start → start < q.1.start)
    (hright : stop < d.length → q.2.stop < stop) :
    (s.findInWindow d (.between (d.positionAt start) (d.positionAt stop)) r).filter
      (isWhole d start stop) = some (matchAt d 0 q) := by
  obtain ⟨hq, haround, hopens⟩ := hq
  have hselection := (Document.offsetAt_le_iff hr.1 hr.2).mpr r.start_le_stop
  have hle : start ≤ stop := by omega
  have hpaired := paired_of_mem hδ hq
  have hqstop : q.2.stop ≤ d.length := hpaired.closing.stop_le hδ
  have hescape := ((mem_ofText hδ).mp (mem_of_mem_matched hq).1).free
  obtain ⟨hab, hastart, hbstop⟩ := ends_of_window hle hlast
  set window := Range.between (d.positionAt start) (d.positionAt stop)
  have hb : d.offsetAt window.stop ≤ d.text.length := by
    have hlength : d.length = d.text.length := rfl
    omega
  have hmem := (mem_matched_window hδ hab hb fun h => h ▸ hescape).mpr ⟨hq, by omega, by omega⟩
  have hbefore : d.offsetAt window.start ≤ d.offsetAt r.start := by omega
  rcases findInWindow_cases hδ hs hbefore hselection with
    ⟨_, hnone⟩ | ⟨q', hq', haround', hlater, hsome⟩
  · exact absurd haround (hnone q hmem)
  · have hle' := hlater q hmem haround
    have hfree : q'.1.start = d.offsetAt window.start →
        charBefore d.text (d.offsetAt window.start) ≠ some '\\' := by
      intro hedge
      have hsame : d.offsetAt window.start = q.1.start := by omega
      rwa [hsame]
    have hmem' := ((mem_matched_window hδ hab hb hfree).mp hq').1
    obtain rfl : q = q' := eq_of_start hδ hq hmem' (Nat.le_antisymm hle' (hopens q' hmem' haround'))
    refine Option.filter_eq_some_iff.mpr ⟨hsome, ?_⟩
    simp only [isWhole, (hpaired.offsets hδ).1, (hpaired.offsets hδ).2.2.2, Bool.and_eq_true,
      Bool.not_eq_true', Bool.and_eq_false_iff, decide_eq_false_iff_not, beq_eq_false_iff_ne]
    omega

lemma pair_of_findInText {scan : ScanConfig} {p : PairMatch} (hr : d.Holds r)
    (h : s.findInText scan d r = .ok (some p)) :
    ∃ q ∈ matched (ofText [δ] d.text), s.Around d r q ∧ matchAt d 0 q = p ∧
      ∀ q' ∈ matched (ofText [δ] d.text), s.Around d r q' → q.1.start < q'.1.start →
        q.2.stop < q'.2.stop := by
  have hlast := Document.offsetAt_le_length hr.2
  obtain ⟨length, hfound⟩ := found_of_findInText h
  exact pair_of_found hδ hs hr (by omega) (by omega) (by omega) hfound

lemma findWithin_of_within {length : Nat} {q : Occurrence × Occurrence} (hr : d.Holds r)
    (hq : s.OpensLast δ d r q) (h : Within d r length (matchAt d 0 q)) :
    s.findWithin d r length = some (matchAt d 0 q) := by
  have hpaired := paired_of_mem hδ hq.mem
  have hlast := Document.offsetAt_le_length hr.2
  have hstop : q.2.stop ≤ d.length := hpaired.closing.stop_le hδ
  rw [Within, hpaired.content.1, hpaired.content.2, (hpaired.offsets hδ).1,
    (hpaired.offsets hδ).2.2.2] at h
  rw [findWithin, window, findBetween]
  dsimp only
  apply found_of_opensLast hδ hs hr (by omega) (by omega) (by omega) hq
  · omega
  · omega

omit hδ hs in
lemma Within.mono {length length' : Nat} {p : PairMatch} (h : Within d r length p)
    (hle : length ≤ length') : Within d r length' p := by
  unfold Within at *
  omega

lemma exists_findInText {scan : ScanConfig} {q : Occurrence × Occurrence} (hr : d.Holds r)
    (hscan : s.NoOverflow scan d r) (hq : s.OpensLast δ d r q)
    (h : Within d r (max scan.initialLength scan.maxLength) (matchAt d 0 q)) :
    ∃ p, s.findInText scan d r = .ok (some p) := by
  obtain ⟨n, -, hends⟩ := exists_endsIn s scan d r
  rw [findInText_eq_ok hscan hends]
  rcases isLast_iff.mp hends.isLast with hfound | hwhole | hlargest
  · obtain ⟨p, hp⟩ := Option.isSome_iff_exists.mp hfound
    exact ⟨p, congrArg Except.ok hp⟩
  · have hwithin : Within d r (scan.lengthAt n) (matchAt d 0 q) := by
      obtain ⟨hstart, hstop⟩ := Prod.ext_iff.mp hwhole
      dsimp only [window] at hstart hstop
      exact .inr ⟨by omega, by omega⟩
    exact ⟨_, congrArg Except.ok (findWithin_of_within hδ hs hr hq hwithin)⟩
  · have hfirst : scan.initialLength ≤ scan.lengthAt n := initialLength_le_lengthAt hends.reaches
    exact ⟨_, congrArg Except.ok (findWithin_of_within hδ hs hr hq (h.mono (by omega)))⟩

lemma findInText_of_within {scan : ScanConfig} {q : Occurrence × Occurrence} (hr : d.Holds r)
    (hscan : s.NoOverflow scan d r) (hq : s.OpensLast δ d r q)
    (h : Within d r (max scan.initialLength 1) (matchAt d 0 q)) :
    s.findInText scan d r = .ok (some (matchAt d 0 q)) := by
  have hreaches : s.Reaches scan d r 0 := fun k hk => absurd hk (Nat.not_lt_zero k)
  have hfound : s.findWithin d r (scan.lengthAt 0) = some (matchAt d 0 q) :=
    findWithin_of_within hδ hs hr hq h
  have hlast : s.IsLast scan d r 0 := isLast_iff.mpr (.inl (Option.isSome_of_eq_some hfound))
  rw [findInText_eq_ok hscan ⟨hreaches, hlast⟩, hfound]

omit hs in
lemma meets_of_apart {q q' : Occurrence × Occurrence} (hq : q ∈ matched (ofText [δ] d.text))
    (hq' : q' ∈ matched (ofText [δ] d.text)) (haround : s.Around d r q) (haround' : s.Around d r q')
    (h : q.2.stop ≤ q'.1.start) (hr : d.offsetAt r.start ≤ d.offsetAt r.stop) :
    s.isStrong = false ∧ q.2.stop = d.offsetAt r.start ∧ d.offsetAt r.start = d.offsetAt r.stop ∧
      q'.1.start = d.offsetAt r.start := by
  have hlt := (paired_of_mem hδ hq).closing.start_lt hδ
  have hlt' := (paired_of_mem hδ hq').opening.start_lt hδ
  unfold Around encloses at haround haround'
  cases hstrong : s.isStrong with
  | false =>
    simp only [hstrong, Bool.and_eq_true, decide_eq_true_eq, Bool.false_eq_true, if_false]
      at haround haround'
    refine ⟨rfl, ?_, ?_, ?_⟩ <;> omega
  | true =>
    simp only [hstrong, Bool.and_eq_true, decide_eq_true_eq, if_true] at haround haround'
    omega

lemma OpensLast.innermost {q : Occurrence × Occurrence} (hq : s.OpensLast δ d r q)
    (hr : d.Holds r) : s.Innermost d r (matchAt d 0 q) := by
  have hpaired := paired_of_mem hδ hq.mem
  refine ⟨(mem_findAll_bracket hδ hs).mpr ⟨q, hq.mem, rfl⟩, (hpaired.surrounds_iff hδ hr).mpr hq.around,
    fun p hp hp' => ?_⟩
  obtain ⟨q', hq', rfl⟩ := (mem_findAll_bracket hδ hs).mp hp
  have hpaired' := paired_of_mem hδ hq'
  have haround := (hpaired'.surrounds_iff hδ hr).mp hp'
  have hselection := (Document.offsetAt_le_iff hr.1 hr.2).mpr r.start_le_stop
  rcases apart_or_around hδ hq' hq.mem (hq.last q' hq' haround) with rfl | hapart | ⟨hlt, hle⟩
  · exact .inl (Range.containsRange_refl _)
  · have hmeet := meets_of_apart hδ hq' hq.mem haround hq.around hapart hselection
    exact .inr ((hpaired'.stop_eq_start_iff hδ hpaired).mpr (by omega))
  · exact .inl ((hpaired'.contains_iff hδ hpaired).mpr ⟨Nat.le_of_lt hlt, hle⟩)

omit hδ hs in
lemma exists_opensLast {q : Occurrence × Occurrence} (hq : q ∈ matched (ofText [δ] d.text))
    (haround : s.Around d r q) : ∃ q', s.OpensLast δ d r q' := by
  let l := (matched (ofText [δ] d.text)).filter (s.encloses (d.offsetAt r.start, d.offsetAt r.stop))
  obtain ⟨q', hbest⟩ := exists_lastMax? isInner (List.mem_filter.mpr ⟨hq, haround⟩ : q ∈ l)
  obtain ⟨hmem, haround'⟩ := List.mem_filter.mp (mem_of_lastMax? hbest)
  exact ⟨q', hmem, haround', fun p hp hp' =>
    start_le_of_lastMax? hbest (List.mem_filter.mpr ⟨hp, hp'⟩)⟩

lemma Innermost.exists_opensLast {p : PairMatch} (hp : s.Innermost d r p) (hr : d.Holds r) :
    ∃ q, s.OpensLast δ d r q ∧ matchAt d 0 q = p := by
  obtain ⟨q, hq, rfl⟩ := (mem_findAll_bracket hδ hs).mp hp.mem
  have hpaired := paired_of_mem hδ hq
  refine ⟨q, ⟨hq, (hpaired.surrounds_iff hδ hr).mp hp.surrounds, fun q' hq' haround => ?_⟩, rfl⟩
  have hpaired' := paired_of_mem hδ hq'
  rcases hp.inside _ ((mem_findAll_bracket hδ hs).mpr ⟨q', hq', rfl⟩)
    ((hpaired'.surrounds_iff hδ hr).mpr haround) with hcontains | hmeets
  · exact ((hpaired'.contains_iff hδ hpaired).mp hcontains).1
  · have hstop := (hpaired'.stop_eq_start_iff hδ hpaired).mp hmeets
    have hlt := hpaired'.precedes.start_lt
    have hlt' := hpaired'.closing.start_lt hδ
    omega

lemma eq_or_beside {q inner : Occurrence × Occurrence} (hr : d.Holds r)
    (hq : q ∈ matched (ofText [δ] d.text)) (haround : s.Around d r q)
    (halone : ∀ q' ∈ matched (ofText [δ] d.text), s.Around d r q' → q.1.start < q'.1.start →
      q.2.stop < q'.2.stop) (hinner : s.OpensLast δ d r inner) :
    matchAt d 0 q = matchAt d 0 inner ∨ s.Beside d r (matchAt d 0 q) (matchAt d 0 inner) := by
  have hselection := (Document.offsetAt_le_iff hr.1 hr.2).mpr r.start_le_stop
  have hpaired := paired_of_mem hδ hq
  have hpaired' := paired_of_mem hδ hinner.mem
  have hfits := fits_matchAt d 0 hpaired.precedes
  have hfits' := fits_matchAt d 0 hpaired'.precedes
  rcases apart_or_around hδ hq hinner.mem (hinner.last q hq haround) with rfl | hapart | ⟨hlt, hle⟩
  · exact .inl rfl
  · obtain ⟨hweak, hstop, hempty, hstart⟩ :=
      meets_of_apart hδ hq hinner.mem haround hinner.around hapart hselection
    have hpoint : r.start = r.stop := Document.offsetAt_inj hr.1 hr.2 hempty
    refine .inr ⟨(mem_findAll_bracket hδ hs).mpr ⟨q, hq, rfl⟩, hweak, ?_, ?_, by simp [Range.isEmpty, hpoint],
      fun p hp hp' => ?_⟩
    · rw [hpaired.content.2]
      exact Document.offsetAt_inj hfits.closing.2 hr.1 ((hpaired.offsets hδ).2.2.2.trans hstop)
    · rw [hpaired'.content.1]
      exact Document.offsetAt_inj hfits'.opening.1 hr.1 ((hpaired'.offsets hδ).1.trans hstart)
    · obtain ⟨q', hq', rfl⟩ := (mem_findAll_bracket hδ hs).mp hp
      have haround' := ((paired_of_mem hδ hq').surrounds_iff hδ hr).mp hp'
      have hlt' := hpaired.closing.start_lt hδ
      rcases Nat.le_total q'.1.start q.1.start with hle | hle
      · rcases apart_or_around hδ hq' hq hle with rfl | hapart' | ⟨_, hin⟩
        · exact .inr (Range.containsRange_refl _)
        · have hmeet := meets_of_apart hδ hq' hq haround' haround hapart' hselection
          have hlt := hpaired.precedes.start_lt
          omega
        · exact .inr (((paired_of_mem hδ hq').contains_iff hδ hpaired).mpr ⟨hle, hin⟩)
      · rcases apart_or_around hδ hq hq' hle with rfl | hapart' | ⟨hlt, hin⟩
        · exact .inr (Range.containsRange_refl _)
        · have hmeet := meets_of_apart hδ hq hq' haround haround' hapart' hselection
          rw [eq_of_start hδ hq' hinner.mem (by omega)]
          exact .inl rfl
        · exact absurd (halone q' hq' haround' hlt) (Nat.not_lt.mpr hin)
  · exact absurd (halone inner hinner.mem hinner.around hlt) (Nat.not_lt.mpr hle)

end Search

end Bracket

/-- The search for a bracket in a document without a tree, compared with all pairs of the document. It
yields the innermost pair, unless that one begins at an empty selection where another pair ends: then it
may yield the other one. Unless a length overflows, it yields one of the two if the innermost pair lies in
the largest window, and that one if it lies in the first window. -/
theorem find_bracket {name : PairName} (hname : name ∈ PairName.brackets) (language : String)
    (direction : Option PairDirection) (isStrong : Bool) {cx : Context} {d : Document} {r : Range}
    (htree : cx.tree? d = none) (hr : d.Holds r) :
    let s : PairSearch := ⟨Delimiter.ofName name language, direction, isStrong⟩
    (∀ p, s.find cx d r = .ok (some p) → ∃ inner, s.Innermost d r inner ∧
      (p = inner ∨ s.Beside d r p inner)) ∧
    (s.NoOverflow cx.config.scan d r →
      (∀ inner, s.Innermost d r inner →
        Within d r (max cx.config.scan.initialLength cx.config.scan.maxLength) inner →
          ∃ p, s.find cx d r = .ok (some p) ∧ (p = inner ∨ s.Beside d r p inner)) ∧
      ∀ inner, s.Innermost d r inner → Within d r (max cx.config.scan.initialLength 1) inner →
        s.find cx d r = .ok (some inner)) := by
  obtain ⟨δ, hdelimiters, hδ⟩ := Delimiter.ofName_bracket hname language
  intro s
  have hs : s.delimiters = [δ] := hdelimiters
  rw [find_of_treeless htree]
  have hyields {p : PairMatch} {q : Occurrence × Occurrence} (hq : s.OpensLast δ d r q)
      (h : s.findInText cx.config.scan d r = .ok (some p)) :
      p = matchAt d 0 q ∨ s.Beside d r p (matchAt d 0 q) := by
    obtain ⟨q', hq', haround, rfl, halone⟩ := pair_of_findInText hδ hs hr h
    exact eq_or_beside hδ hs hr hq' haround halone hq
  refine ⟨fun p hp => ?_, fun hscan =>
    ⟨fun inner hinner hwithin => ?_, fun inner hinner hwithin => ?_⟩⟩
  · obtain ⟨q', hq', haround, _, _⟩ := pair_of_findInText hδ hs hr hp
    obtain ⟨q, hq⟩ := exists_opensLast hq' haround
    exact ⟨_, hq.innermost hδ hs hr, hyields hq hp⟩
  · obtain ⟨q, hq, rfl⟩ := hinner.exists_opensLast hδ hs hr
    obtain ⟨p, hp⟩ := exists_findInText hδ hs hr hscan hq hwithin
    exact ⟨p, hp, hyields hq hp⟩
  · obtain ⟨q, hq, rfl⟩ := hinner.exists_opensLast hδ hs hr
    exact findInText_of_within hδ hs hr hscan hq hwithin

lemma Innermost.of_pairs {s : PairSearch} {d : Document} {r : Range} {p : PairMatch}
    (h : let pairs := (s.pairsIn (d.textIn d.range) none).map (matchAt d 0)
      p ∈ pairs ∧ s.Surrounds p r ∧ ∀ q ∈ pairs, s.Surrounds q r →
        q.content.containsRange p.content = true ∨ q.content.stop = p.content.start) :
    s.Innermost d r p :=
  ⟨mem_findAll.mpr h.1, h.2.1, fun q hq => h.2.2 q (mem_findAll.mp hq)⟩

def parentheses : PairSearch := .ofName .parentheses "plaintext"

theorem find_bracket_nested :
    let d : Document := .ofText 1 "plaintext" "(a(b)c)".toList
    let inner : PairMatch := ⟨.onLine 0 2 3, .onLine 0 4 5⟩
    parentheses.Innermost d (.point ⟨0, 4⟩) inner ∧
      parentheses.find {} d (.point ⟨0, 4⟩) = .ok (some inner) := by
  intro d inner
  have hinner : parentheses.Innermost d (.point ⟨0, 4⟩) inner := .of_pairs (by decide +kernel)
  have hsearch := @find_bracket .parentheses (by decide) "plaintext" none false {} d
    (.point ⟨0, 4⟩) rfl (by decide +kernel)
  have hscan : parentheses.NoOverflow {} d (.point ⟨0, 4⟩) :=
    noOverflow_of_lt (by decide) (by decide)
  exact ⟨hinner, (hsearch.2 hscan).2 inner hinner (by decide +kernel)⟩

theorem find_bracket_between_two :
    let d : Document := .ofText 1 "plaintext" "()(aaaaaaaa)".toList
    let r : Range := .point ⟨0, 2⟩
    let first : PairMatch := ⟨.onLine 0 0 1, .onLine 0 1 2⟩
    let inner : PairMatch := ⟨.onLine 0 2 3, .onLine 0 11 12⟩
    let scan : ScanConfig := { initialLength := 2 }
    parentheses.Innermost d r inner ∧ Within d r (max scan.initialLength scan.maxLength) inner ∧
      parentheses.find { config := { scan } } d r = .ok (some first) ∧ first ≠ inner ∧
      parentheses.find {} d r = .ok (some inner) := by
  intro d r first inner scan
  exact ⟨.of_pairs (by decide +kernel), by decide +kernel, by decide +kernel, by decide +kernel,
    by decide +kernel⟩

end PairSearch

end Referent
