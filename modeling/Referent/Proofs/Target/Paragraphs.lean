import Referent.Proofs.Scope.Paragraphs

/-! Without one of its paragraphs a document has exactly the other ones, with the same texts: what is left of
the lines of a paragraph, and the blanks that are glued to a neighbour, belong to no paragraph. -/

namespace Referent

open TextLine (blockText blockTexts isFiller_of_isHorizontalSpace)

namespace Target

open Document

variable {d : Document} {front behind blanks : List TextLine} {l : TextLine} {line : Nat}

lemma textAfter_eq_some (hlines : d.lines = front ++ (blanks ++ l :: behind)) (hfront : front.length = line + 1)
    (hblanks : ∀ l ∈ blanks, l.isBlank = true) (hl : l.isBlank = false) :
    textAfter d line = some ⟨front.length + blanks.length, 0⟩ := by
  have hget : d.lines[front.length + blanks.length]? = some l := by simp [hlines]
  have hcount : d.lineCount = front.length + blanks.length + 1 + behind.length := by
    rw [lineCount, hlines]
    simp only [List.length_append, List.length_cons]
    omega
  have hfind : (List.range' (line + 1) (d.lineCount - (line + 1))).find? (fun l => !(d.lineAt l).isBlank) =
      some (front.length + blanks.length) := by
    rw [List.find?_range'_eq_some, isBlank_lineAt hget, hl, List.mem_range'_1]
    refine ⟨rfl, by omega, fun k hfirst hlast => ?_⟩
    rw [isBlank_between hlines hblanks (hfront ▸ hfirst) hlast]
    rfl
  rw [textAfter, hfind]
  rfl

lemma textAfter_eq_none (hlines : d.lines = front ++ blanks) (hfront : front.length = line + 1)
    (hblanks : ∀ l ∈ blanks, l.isBlank = true) : textAfter d line = none := by
  have hlines : d.lines = front ++ (blanks ++ []) := by rw [hlines, List.append_nil]
  have hcount : d.lineCount = front.length + blanks.length := by simp [lineCount, hlines]
  have hfind : (List.range' (line + 1) (d.lineCount - (line + 1))).find? (fun l => !(d.lineAt l).isBlank) =
      none := by
    rw [List.find?_range'_eq_none]
    intro k hfirst hlast
    rw [isBlank_between hlines hblanks (hfront ▸ hfirst) (by omega)]
    rfl
  rw [textAfter, hfind]
  rfl

lemma find?_reverse_range {p : Nat → Bool} {n m : Nat} (h : ∀ k, n ≤ k → k < n + m → p k = false) :
    (List.range (n + m)).reverse.find? p = (List.range n).reverse.find? p := by
  induction m with
  | zero => rfl
  | succ m ih =>
    rw [← Nat.add_assoc, List.range_succ, List.reverse_append, List.reverse_singleton, List.singleton_append,
      List.find?_cons, h (n + m) (by omega) (by omega)]
    exact ih fun k hfirst hlast => h k hfirst (by omega)

lemma textBefore_eq (hlines : d.lines = front ++ (blanks ++ behind))
    (hblanks : ∀ l ∈ blanks, l.isBlank = true) :
    textBefore d (front.length + blanks.length) = textBefore d front.length := by
  rw [textBefore, textBefore, find?_reverse_range fun k hfirst hlast => ?_]
  rw [isBlank_between hlines hblanks hfirst hlast]
  rfl

lemma textBefore_eq_some (hlines : d.lines = front ++ l :: (blanks ++ behind))
    (hblanks : ∀ l ∈ blanks, l.isBlank = true) (hl : l.isBlank = false) :
    textBefore d (front.length + 1 + blanks.length) = some ⟨front.length, l.length⟩ := by
  have hget : d.lines[front.length]? = some l := by simp [hlines]
  have hlines : d.lines = (front ++ [l]) ++ (blanks ++ behind) := by simp [hlines]
  have hskip := textBefore_eq hlines hblanks
  rw [List.length_append, List.length_singleton] at hskip
  rw [hskip, textBefore, List.range_succ, List.reverse_append, List.reverse_singleton, List.singleton_append,
    List.find?_cons, isBlank_lineAt hget, hl]
  simp [lineLength, textLine_eq hget]

section Removal

variable {e : Editor} {content : Range} {p : Position}

lemma ends_removal_next (hafter : textAfter e.document content.stop.line = some p)
    (hgap : content.stop.line + 1 < p.line) (b : Bool) :
    (paragraph e content b).removal.start = content.start ∧ (paragraph e content b).removal.stop = p := by
  have hle : content.stop ≤ p := .inl (by omega)
  have hremoval : (paragraph e content b).removal = content.union ⟨content.stop, p, hle⟩ := by
    unfold paragraph
    simp [hafter, Range.between_of_le hle, hgap, elementRemoval, Option.filter_some]
  rw [hremoval]
  exact ⟨Position.min_eq_left content.start_le_stop, Position.max_eq_right hle⟩

lemma ends_removal_previous (hafter : textAfter e.document content.stop.line = none)
    (hbefore : textBefore e.document content.start.line = some p) (hgap : p.line + 1 < content.start.line)
    (b : Bool) :
    (paragraph e content b).removal.start = p ∧ (paragraph e content b).removal.stop = content.stop := by
  have hle : p ≤ content.start := .inl (by omega)
  have hremoval : (paragraph e content b).removal = content.union ⟨p, content.start, hle⟩ := by
    unfold paragraph
    simp [hafter, hbefore, Range.between_of_le hle, hgap, elementRemoval, Option.filter_some]
  rw [hremoval, Range.union_comm]
  exact ⟨Position.min_eq_left hle, Position.max_eq_right content.start_le_stop⟩

end Removal

structure Stands (d : Document) (front run behind : List TextLine) (content : Range) (last : TextLine)
    (leading trailing : List Char) : Prop where
  isBlank_leading : ∀ c ∈ leading, isHorizontalSpace c = true
  isBlank_trailing : ∀ c ∈ trailing, isHorizontalSpace c = true
  start : ∃ first more rest, d.Splits content.start front first more leading rest
  stop : ∃ init rest, d.Splits content.stop init last behind rest trailing
  stop_line : content.stop.line + 1 = front.length + run.length
  text : d.textIn content = blockText run

section Run

variable {run tail init more before : List TextLine} {first last : TextLine}
  {leading text rest rest' text' trailing : List Char}

lemma blockText_eq {content : List Char} (hfirst : run = first :: tail) (hlast : run = init ++ [last])
    (htext : d.HasText front first more leading text rest)
    (htext' : d.HasText before last behind rest' text' trailing)
    (hchars : run.flatMap TextLine.chars =
      leading ++ (content ++ (⟨trailing, last.ending⟩ : TextLine).chars)) : blockText run = content := by
  set ending := (⟨trailing, last.ending⟩ : TextLine).chars with hending
  have hleading : ∀ c ∈ leading, isFiller c = true :=
    fun c hc => isFiller_of_isHorizontalSpace (htext.isBlank_leading c hc)
  have htrailing : ∀ c ∈ ending, isFiller c = true :=
    TextLine.isFiller_of_isBlank (List.all_eq_true.mpr htext'.isBlank_trailing)
  obtain ⟨more, hhead⟩ : ∃ more, content ++ ending = text ++ more := by
    have hfirstChars : first.chars = leading ++ (text ++ (⟨rest, first.ending⟩ : TextLine).chars) := by
      rw [← TextLine.chars_append, ← TextLine.chars_append, ← htext.start.body]
    rw [hfirst, List.flatMap_cons, hfirstChars, List.append_assoc, List.append_assoc,
      List.append_cancel_left_eq] at hchars
    exact ⟨_, hchars.symm⟩
  obtain ⟨more', hend⟩ : ∃ more, leading ++ content = more ++ text' := by
    have hlastChars : last.chars = rest' ++ text' ++ ending := by
      rw [hending, ← TextLine.chars_append, ← htext'.stop.body]
    rw [hlast, List.flatMap_append, List.flatMap_singleton, hlastChars, ← List.append_assoc,
      ← List.append_assoc, ← List.append_assoc, List.append_cancel_right_eq] at hchars
    exact ⟨_, hchars.symm⟩
  rw [blockText, hchars, strip_append_left hleading, strip_append_right htrailing]
  refine strip_eq_self (fun c hc => htext.head c ?_) fun c hc => htext'.last c ?_
  · have hne : content ≠ [] := List.ne_nil_of_mem (List.mem_of_mem_head? hc)
    have heads := congrArg List.head? hhead
    rw [List.head?_append_of_ne_nil _ hne, List.head?_append_of_ne_nil _ htext.ne_nil] at heads
    rwa [← heads]
  · have hne : content ≠ [] := List.ne_nil_of_mem (List.mem_of_getLast? hc)
    have lasts := congrArg List.getLast? hend
    rw [List.getLast?_append_of_ne_nil _ hne, List.getLast?_append_of_ne_nil _ htext'.ne_nil] at lasts
    rwa [← lasts]

end Run

lemma exists_stands {e : Editor} {front run behind : List TextLine}
    (hlines : e.document.lines = front ++ (run ++ behind)) (h : MaximalRun front run behind) :
    ∃ last leading trailing, Stands e.document front run behind
      (Scope.paragraphOf e (numbersOf front run).1 (numbersOf front run).2).target.content
      last leading trailing := by
  have hrun := Scope.isTextRun_of_maximalRun hlines h
  obtain ⟨first, tail, hfirst⟩ := List.exists_cons_of_ne_nil h.ne_nil
  obtain ⟨init, last, hlast⟩ := List.eq_nil_or_concat run |>.resolve_left h.ne_nil
  rw [List.concat_eq_append] at hlast
  have hfirstLines : e.document.lines = front ++ first :: (tail ++ behind) := by simp [hlines, hfirst]
  have hlastLines : e.document.lines = (front ++ init) ++ last :: behind := by simp [hlines, hlast]
  obtain ⟨leading, text, rest, htext⟩ := exists_hasText hfirstLines (h.text _ (by simp [hfirst]))
  obtain ⟨rest', text', trailing, htext'⟩ := exists_hasText hlastLines (h.text _ (by simp [hlast]))
  have hnumber : (numbersOf front run).2 = (front ++ init).length := by
    rw [numbersOf, hlast, List.length_append, List.length_append]
    rfl
  have hstart := htext.start
  have hstop := htext'.stop
  rw [← hnumber, ← hrun.ends.2] at hstop
  have hfirstNumber : front.length = (numbersOf front run).1 := rfl
  rw [hfirstNumber, ← hrun.ends.1] at hstart
  refine ⟨last, leading, trailing, htext.isBlank_leading, htext'.isBlank_trailing, ⟨_, _, _, hstart⟩,
    ⟨_, _, hstop⟩, ?_, (blockText_eq hfirst hlast htext htext' ?_).symm⟩
  · rw [hstop.place]
    simp [hlast, Nat.add_assoc]
  · have hall := e.document.before_textIn_after
      (Scope.paragraphOf e (numbersOf front run).1 (numbersOf front run).2).target.content
    rw [hstart.text.1, hstop.text.2, ← e.document.flatMap_lines, hlines, List.flatMap_append,
      List.flatMap_append, List.append_assoc, List.append_cancel_left_eq, ← List.append_assoc,
      ← List.append_assoc, List.append_cancel_right_eq] at hall
    rw [← hall, List.append_assoc]

section Without

variable {e e' : Editor} {run rest : List TextLine} {content : Range} {b : Bool} {last : TextLine}
  {leading trailing : List Char}

lemma blockTexts_next (hlines : e.document.lines = front ++ (run ++ (blanks ++ l :: rest)))
    (h : MaximalRun front run (blanks ++ l :: rest))
    (hstands : Stands e.document front run (blanks ++ l :: rest) content last leading trailing)
    (hblanks : ∀ l ∈ blanks, l.isBlank = true) (hl : l.isBlank = false)
    (hwithout : e'.document.text = e.document.without (paragraph e content b).removal) :
    blockTexts e'.document.lines = blockTexts front ++ blockTexts (blanks ++ l :: rest) := by
  have hrun : e.document.lines = (front ++ run) ++ (blanks ++ l :: rest) := by simp [hlines]
  have hpos : 0 < blanks.length := by
    rw [List.length_pos_iff]
    rintro rfl
    exact Bool.noConfusion (hl.symm.trans (h.behind l rfl))
  have hafter := textAfter_eq_some hrun (by rw [List.length_append, hstands.stop_line]) hblanks hl
  obtain ⟨hstart, hstop⟩ := ends_removal_next hafter (by simp [hstands.stop_line, hpos]) b
  obtain ⟨first, more, text, hfirst⟩ := hstands.start
  rw [← hstart] at hfirst
  have hnext :
      e.document.Splits (paragraph e content b).removal.stop (front ++ run ++ blanks) l rest [] l.body :=
    ⟨by simp [hlines], rfl, by simp [hstop, Nat.add_assoc]⟩
  have hne : leading ++ l.body ≠ [] := by simp [TextLine.body_ne_nil hl]
  have hfront : ∀ l ∈ blanks.getLast?, l.isBlank = true := fun l hl => hblanks l (List.mem_of_getLast? hl)
  rw [hfirst.lines_without hnext hne hwithout, TextLine.blockTexts_append_of_front h.front,
    TextLine.blockTexts_append_of_front hfront, TextLine.blockTexts_of_isBlank hblanks,
    TextLine.blockTexts_cons hl fun c hc => isFiller_of_isHorizontalSpace (hstands.isBlank_leading c hc)]
  rfl

lemma blockTexts_previous (hlines : e.document.lines = front ++ l :: (blanks ++ (run ++ behind)))
    (h : MaximalRun (front ++ l :: blanks) run behind)
    (hstands : Stands e.document (front ++ l :: blanks) run behind content last leading trailing)
    (hblanks : ∀ l ∈ blanks, l.isBlank = true) (hl : l.isBlank = false)
    (hbehind : ∀ l ∈ behind, l.isBlank = true)
    (hwithout : e'.document.text = e.document.without (paragraph e content b).removal) :
    blockTexts e'.document.lines = blockTexts (front ++ l :: blanks) ++ blockTexts behind := by
  have hrun : e.document.lines = (front ++ l :: blanks ++ run) ++ behind := by simp [hlines]
  have hpos : 0 < blanks.length := by
    rw [List.length_pos_iff]
    rintro rfl
    exact Bool.noConfusion (hl.symm.trans (h.front l (by simp)))
  have hline : content.start.line = front.length + 1 + blanks.length := by
    obtain ⟨first, more, text, hfirst⟩ := hstands.start
    simp [hfirst.place, Nat.add_assoc, Nat.add_comm 1]
  have hafter := textAfter_eq_none hrun (by rw [List.length_append, hstands.stop_line]) hbehind
  have hbefore := textBefore_eq_some hlines hblanks hl
  rw [← hline] at hbefore
  obtain ⟨hstart, hstop⟩ := ends_removal_previous hafter hbefore (by simp [hline, hpos]) b
  obtain ⟨init, text, hlast⟩ := hstands.stop
  rw [← hstop] at hlast
  have hprevious : e.document.Splits (paragraph e content b).removal.start front l (blanks ++ (run ++ behind))
      l.body [] := ⟨hlines, (List.append_nil _).symm, hstart⟩
  have hne : l.body ++ trailing ≠ [] := by simp [TextLine.body_ne_nil hl]
  have hlastBlank : ∀ l ∈ blanks.head?, l.isBlank = true := fun l hl => hblanks l (List.mem_of_mem_head? hl)
  have hfirst : ∀ l ∈ behind.head?, l.isBlank = true := fun l hl => hbehind l (List.mem_of_mem_head? hl)
  rw [hprevious.lines_without hlast hne hwithout, List.append_cons front _ behind,
    List.append_cons front l blanks, TextLine.blockTexts_append_of_behind hfirst,
    TextLine.blockTexts_append_of_behind hlastBlank,
    TextLine.blockTexts_of_isBlank hblanks, List.append_nil,
    TextLine.blockTexts_concat hl fun c hc => isFiller_of_isHorizontalSpace (hstands.isBlank_trailing c hc)]

lemma blockTexts_only (hstands : Stands e.document front run behind content last leading trailing)
    (hfront : ∀ l ∈ front, l.isBlank = true) (hbehind : ∀ l ∈ behind, l.isBlank = true)
    (hcontent : (paragraph e content b).removal.containsRange content = true)
    (hwithout : e'.document.text = e.document.without (paragraph e content b).removal) :
    blockTexts e'.document.lines = [] := by
  obtain ⟨hstart, hstop⟩ := (Range.containsRange_iff _ _).mp hcontent
  obtain ⟨_, _, _, hfirst⟩ := hstands.start
  obtain ⟨_, _, hlast⟩ := hstands.stop
  have hbefore : e.document.before (paragraph e content b).removal.start <+: e.document.before content.start :=
    List.take_prefix_take_left (offsetAt_mono hstart)
  have hafter : e.document.after (paragraph e content b).removal.stop <:+ e.document.after content.stop :=
    List.drop_suffix_drop_left _ (offsetAt_mono hstop)
  rw [hfirst.text.1] at hbefore
  rw [hlast.text.2] at hafter
  refine TextLine.blockTexts_of_isBlank (isBlank_of_isFiller fun c hc => ?_)
  rw [hwithout, without_eq] at hc
  rcases List.mem_append.mp hc with hc | hc
  · rcases List.mem_append.mp (hbefore.subset hc) with hc | hc
    · obtain ⟨l, hl, hc⟩ := List.mem_flatMap.mp hc
      exact TextLine.isFiller_of_isBlank (hfront l hl) c hc
    · exact isFiller_of_isHorizontalSpace (hstands.isBlank_leading c hc)
  · rcases List.mem_append.mp (hafter.subset hc) with hc | hc
    · exact TextLine.isFiller_of_isBlank (List.all_eq_true.mpr hstands.isBlank_trailing) c hc
    · obtain ⟨l, hl, hc⟩ := List.mem_flatMap.mp hc
      exact TextLine.isFiller_of_isBlank (hbehind l hl) c hc

lemma blockTexts_without (hlines : e.document.lines = front ++ (run ++ behind))
    (h : MaximalRun front run behind)
    (hwithout : e'.document.text = e.document.without
      (Scope.paragraphOf e (numbersOf front run).1 (numbersOf front run).2).target.removal) :
    blockTexts e'.document.lines = blockTexts front ++ blockTexts behind := by
  obtain ⟨last, leading, trailing, hstands⟩ := exists_stands hlines h
  -- What is in front of a paragraph matters only if there is no text behind it.
  rcases TextLine.isBlank_or_exists_text behind with hbehind | ⟨blanks, l, rest, rfl, hblanks, hl⟩
  · rcases TextLine.isBlank_or_exists_text front.reverse with hfront | ⟨blanks, l, rest, hfront, hblanks, hl⟩
    · have hfront : ∀ l ∈ front, l.isBlank = true := by simpa using hfront
      have hholds := holds_between (e.document.holds_trimmedRange (numbersOf front run).1).1
        (e.document.holds_trimmedRange (numbersOf front run).2).2
      rw [TextLine.blockTexts_of_isBlank hfront, TextLine.blockTexts_of_isBlank hbehind]
      exact blockTexts_only hstands hfront hbehind (wellFormed_paragraph false hholds).removes hwithout
    · obtain rfl : front = rest.reverse ++ l :: blanks.reverse := by
        rw [← List.reverse_reverse front, hfront]
        simp
      refine blockTexts_previous ?_ h hstands ?_ hl hbehind hwithout
      · simp [hlines]
      · simpa using hblanks
  · exact blockTexts_next hlines h hstands hblanks hl hwithout

end Without

end Target

namespace Scope

open Document

lemma paragraphs_range (e : Editor) : paragraphs e e.document.range =
    (textRunsOf e.document).map fun run => paragraphOf e run.1 run.2 := by
  refine List.filter_eq_self.mpr fun s hs => ?_
  obtain ⟨run, hrun, rfl⟩ := List.mem_map.mp hs
  have hrun := isTextRun_of_mem run hrun
  have hholds := holds_fullLines (Nat.lt_of_le_of_lt hrun.le hrun.lt) hrun.lt
  rw [Range.touches_iff, start_range]
  exact ⟨le_stop_range hholds.1, Position.zero_le _⟩

lemma text_paragraphs (e : Editor) :
    (paragraphs e e.document.range).map (·.target.text) = blockTexts e.document.lines := by
  have htexts : List.Forall₂ (· = ·) ((paragraphs e e.document.range).map (·.target.text))
      (blockTexts e.document.lines) := by
    rw [paragraphs_range, List.map_map, blockTexts, List.forall₂_map_left_iff, List.forall₂_map_right_iff]
    refine (forall₂_textRunsOf e.document).imp fun numbers run h => ?_
    obtain ⟨front, behind, hlines, hrun, rfl⟩ := h
    obtain ⟨last, leading, trailing, hstands⟩ := Target.exists_stands hlines hrun
    exact hstands.text
  rwa [List.forall₂_eq_eq_eq] at htexts

lemma text_paragraphs_without {e e' : Editor} {earlier later : List Scope} {s : Scope}
    (hscopes : paragraphs e e.document.range = earlier ++ s :: later)
    (hwithout : e'.document.text = e.document.without s.target.removal) :
    (paragraphs e' e'.document.range).map (·.target.text) = (earlier ++ later).map (·.target.text) := by
  have htexts := text_paragraphs e
  rw [hscopes, List.map_append, List.map_cons] at htexts
  rw [paragraphs_range] at hscopes
  obtain ⟨runs, others, hruns, rfl, hothers⟩ := List.map_eq_append_iff.mp hscopes
  obtain ⟨numbers, others, rfl, rfl, rfl⟩ := List.map_eq_cons_iff.mp hothers
  have hmem : numbers ∈ textRunsOf e.document := by simp [hruns]
  obtain ⟨run, front, behind, hlines, hrun, rfl⟩ := mem_textRunsOf.mp hmem
  have hlength := length_earlier hlines hrun hruns
  rw [hlines, blockTexts, hrun.blocks_eq, List.map_append, List.map_cons] at htexts
  obtain ⟨hearlier, hlater⟩ := List.append_inj htexts (by simp [hlength])
  rw [text_paragraphs, Target.blockTexts_without hlines hrun hwithout, List.map_append, hearlier,
    (List.cons.inj hlater).2]
  rfl

/-- The paragraphs of a document are the longest runs of lines that are not blank, in their order.
Without one of them, the document has exactly the other ones, with the same texts. -/
theorem paragraphs_maximal_removable (cx : Context) (e : Editor) :
    ∃ scopes, ScopeFinder.paragraphs.candidates cx e e.document.range = .ok scopes ∧
      (∀ r, r ∈ scopes.map Scope.domain ↔ ∃ front run behind, e.document.lines = front ++ (run ++ behind) ∧
        MaximalRun front run behind ∧
        r = e.document.fullLines front.length (front.length + run.length - 1)) ∧
      scopes.Pairwise (fun s t => s.domain.stop.line < t.domain.start.line) ∧
      ∀ earlier s later, scopes = earlier ++ s :: later →
        ∀ e' : Editor, e'.document.text = e.document.without s.target.removal →
          ∃ scopes', ScopeFinder.paragraphs.candidates cx e' e'.document.range = .ok scopes' ∧
            scopes'.map (·.target.text) = (earlier ++ later).map (·.target.text) := by
  refine ⟨_, rfl, fun r => ?_, ?_, fun earlier s later hscopes e' hwithout => ⟨_, rfl, ?_⟩⟩
  · rw [paragraphs_range, List.map_map, List.mem_map]
    constructor
    · rintro ⟨numbers, hmem, rfl⟩
      obtain ⟨run, front, behind, hlines, hrun, rfl⟩ := mem_textRunsOf.mp hmem
      exact ⟨front, run, behind, hlines, hrun, rfl⟩
    · rintro ⟨front, run, behind, hlines, hrun, rfl⟩
      exact ⟨numbersOf front run, mem_textRunsOf.mpr ⟨run, front, behind, hlines, hrun, rfl⟩, rfl⟩
  · rw [paragraphs_range, List.pairwise_map]
    refine (pairwise_textRunsOf e.document).imp_of_mem fun {a b} ha hb hlt => ?_
    rw [(isTextRun_of_mem a ha).domain.2, (isTextRun_of_mem b hb).domain.1]
    exact hlt
  · exact text_paragraphs_without hscopes hwithout

def indentedParagraphs : Editor :=
  .ofDocument 1 (.ofText 1 "plaintext" "  ab \n\n\tc\nd  \n \n e".toList)

theorem paragraphs_maximal_removable_indented :
    let e' : Editor := .ofDocument 2 (.ofText 2 "plaintext"
      (indentedParagraphs.document.without (paragraphOf indentedParagraphs 2 3).target.removal))
    e'.document.text = "  ab \n\n\t e".toList ∧
      ∃ scopes', ScopeFinder.paragraphs.candidates {} e' e'.document.range = .ok scopes' ∧
        scopes'.map (·.target.text) = [['a', 'b'], ['e']] := by
  refine ⟨by decide, ?_⟩
  obtain ⟨scopes, hscopes, _, _, hwithout⟩ := paragraphs_maximal_removable {} indentedParagraphs
  obtain rfl := Except.ok.inj hscopes
  exact hwithout [paragraphOf indentedParagraphs 0 0] (paragraphOf indentedParagraphs 2 3)
    [paragraphOf indentedParagraphs 5 5] rfl _ rfl

end Scope

end Referent
