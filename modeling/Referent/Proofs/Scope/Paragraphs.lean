import Mathlib.Data.List.Forall2
import Referent.Proofs.Document.Blocks
import Referent.Proofs.Scope.Series

namespace Referent

open TextLine (blocks blocks_append_of_front blocks_append_of_behind blocks_of_text)

structure MaximalRun (front run behind : List TextLine) : Prop where
  ne_nil : run ≠ []
  text : ∀ l ∈ run, l.isBlank = false
  front : ∀ l ∈ front.getLast?, l.isBlank = true
  behind : ∀ l ∈ behind.head?, l.isBlank = true

def numbersOf (front run : List TextLine) : Nat × Nat := (front.length, front.length + run.length - 1)

namespace MaximalRun

variable {front run behind : List TextLine}

lemma blocks_eq (h : MaximalRun front run behind) :
    blocks (front ++ (run ++ behind)) = blocks front ++ run :: blocks behind := by
  rw [blocks_append_of_front h.front, blocks_append_of_behind h.behind, blocks_of_text h.ne_nil h.text]
  rfl

end MaximalRun

namespace Scope

variable {opened : Option Nat} {line first : Nat} {front run behind lines : List TextLine}

lemma textRuns_append_true (opened : Option Nat) (line : Nat) (front behind : List Bool) :
    textRuns opened line (front ++ true :: behind) =
      textRuns opened line front ++ textRuns none (line + front.length + 1) behind := by
  induction front generalizing opened line with
  | nil => cases opened <;> rfl
  | cons b front ih =>
    have hline : line + 1 + front.length + 1 = line + (front.length + 1) + 1 := by omega
    cases opened <;> cases b <;> simp [textRuns, ih, hline]

lemma textRuns_front (h : ∀ l ∈ front.getLast?, l.isBlank = true) (line : Nat) (behind : List Bool) :
    textRuns none line (front.map TextLine.isBlank ++ behind) =
      textRuns none line (front.map TextLine.isBlank) ++ textRuns none (line + front.length) behind := by
  rcases List.eq_nil_or_concat front with rfl | ⟨front, l, rfl⟩
  · rfl
  · have hl : l.isBlank = true := h l (by simp)
    have hsplit (behind : List Bool) := textRuns_append_true none line (front.map TextLine.isBlank) behind
    simp [hl, hsplit, textRuns, Nat.add_assoc]

lemma textRuns_run (h : ∀ l ∈ run, l.isBlank = false) (first line : Nat) (behind : List Bool) :
    textRuns (some first) line (run.map TextLine.isBlank ++ behind) =
      textRuns (some first) (line + run.length) behind := by
  induction run generalizing line with
  | nil => rfl
  | cons l run ih =>
    obtain ⟨hl, hrun⟩ := List.forall_mem_cons.mp h
    have hstep : textRuns (some first) line ((l :: run).map TextLine.isBlank ++ behind) =
        textRuns (some first) (line + 1) (run.map TextLine.isBlank ++ behind) := by
      rw [List.map_cons, hl]
      rfl
    rw [hstep, ih hrun, List.length_cons, Nat.add_assoc, Nat.add_comm 1]

lemma textRuns_behind (h : ∀ l ∈ behind.head?, l.isBlank = true) (first line : Nat) :
    textRuns (some first) line (behind.map TextLine.isBlank) =
      (first, line - 1) :: textRuns none line (behind.map TextLine.isBlank) := by
  cases behind with
  | nil => rfl
  | cons l behind =>
    have hl : l.isBlank = true := h l rfl
    rw [List.map_cons, hl]
    rfl

lemma textRuns_of_maximalRun (h : MaximalRun front run behind) :
    textRuns none 0 ((front ++ (run ++ behind)).map TextLine.isBlank) =
      textRuns none 0 (front.map TextLine.isBlank) ++ numbersOf front run ::
        textRuns none (front.length + run.length) (behind.map TextLine.isBlank) := by
  obtain ⟨l, run, rfl⟩ := List.exists_cons_of_ne_nil h.ne_nil
  obtain ⟨hl, hrun⟩ := List.forall_mem_cons.mp h.text
  have hopen : textRuns none front.length (((l :: run) ++ behind).map TextLine.isBlank) =
      textRuns (some front.length) (front.length + 1)
        (run.map TextLine.isBlank ++ behind.map TextLine.isBlank) := by
    rw [List.cons_append, List.map_cons, hl, List.map_append]
    rfl
  rw [List.map_append, textRuns_front h.front, Nat.zero_add, hopen, textRuns_run hrun,
    textRuns_behind h.behind]
  simp [numbersOf, Nat.add_assoc, Nat.add_comm 1]

def IsRun (lines : List TextLine) (numbers : Nat × Nat) (run : List TextLine) : Prop :=
  ∃ front behind, lines = front ++ (run ++ behind) ∧ MaximalRun front run behind ∧
    numbers = numbersOf front run

lemma forall₂_textRuns {rest : List TextLine} (hlines : lines = front ++ (run ++ rest))
    (hfront : ∀ l ∈ front.getLast?, l.isBlank = true) (hrun : ∀ l ∈ run, l.isBlank = false) :
    List.Forall₂ (IsRun lines)
      (textRuns (if run = [] then none else some front.length) (front.length + run.length)
        (rest.map TextLine.isBlank)) (blocks (run ++ rest)) := by
  induction rest generalizing front run with
  | nil =>
    by_cases hne : run = []
    · subst hne
      rw [if_pos rfl]
      exact .nil
    · rw [if_neg hne, List.append_nil, blocks_of_text hne hrun]
      exact .cons ⟨front, [], hlines, ⟨hne, hrun, hfront, by simp⟩, rfl⟩ .nil
  | cons l rest ih =>
    rw [List.map_cons]
    cases hl : l.isBlank with
    | false =>
      have hlines : lines = front ++ ((run ++ [l]) ++ rest) := by simp [hlines]
      have hnext := ih hlines hfront (by simpa [or_imp, forall_and, hl] using hrun)
      rw [if_neg (by simp), List.length_append, List.length_singleton, ← Nat.add_assoc, List.append_assoc,
        List.singleton_append] at hnext
      by_cases hne : run = []
      · subst hne
        exact hnext
      · rw [if_neg hne]
        exact hnext
    | true =>
      have hnextLines : lines = (front ++ run ++ [l]) ++ ([] ++ rest) := by simp [hlines]
      have hnext := ih hnextLines (by simpa using hl) (by simp)
      rw [if_pos rfl, List.length_append, List.length_append, List.length_singleton] at hnext
      by_cases hne : run = []
      · subst hne
        rw [if_pos rfl, List.nil_append, TextLine.blocks_cons hl]
        exact hnext
      · rw [if_neg hne, TextLine.blocks_append_cons hl, blocks_of_text hne hrun]
        exact .cons ⟨front, l :: rest, hlines, ⟨hne, hrun, hfront, by simpa using hl⟩, rfl⟩ hnext

lemma textRunsOf_eq (d : Document) : textRunsOf d = textRuns none 0 (d.lines.map TextLine.isBlank) := by
  rw [textRunsOf, ← d.map_textLine, List.map_map]
  rfl

lemma forall₂_textRuns_lines (lines : List TextLine) :
    List.Forall₂ (IsRun lines) (textRuns none 0 (lines.map TextLine.isBlank)) (blocks lines) := by
  have hlines : lines = [] ++ ([] ++ lines) := rfl
  exact forall₂_textRuns hlines (by simp) (by simp)

lemma forall₂_textRunsOf (d : Document) : List.Forall₂ (IsRun d.lines) (textRunsOf d) (blocks d.lines) := by
  rw [textRunsOf_eq]
  exact forall₂_textRuns_lines d.lines

lemma mem_textRunsOf {d : Document} {numbers : Nat × Nat} :
    numbers ∈ textRunsOf d ↔ ∃ run, IsRun d.lines numbers run := by
  constructor
  · have hboth := (forall₂_textRunsOf d).imp fun numbers run h =>
      And.intro (⟨run, h⟩ : ∃ run, IsRun d.lines numbers run) h
    exact ((List.forall₂_and_left _ _).mp hboth).1 numbers
  · rintro ⟨run, front, behind, hlines, h, rfl⟩
    rw [textRunsOf_eq, hlines, textRuns_of_maximalRun h]
    exact List.mem_append_right _ List.mem_cons_self

lemma isTextRun_of_maximalRun {d : Document} (hlines : d.lines = front ++ (run ++ behind))
    (h : MaximalRun front run behind) : IsTextRun d (numbersOf front run) :=
  isTextRun_of_mem _ (mem_textRunsOf.mpr ⟨run, front, behind, hlines, h, rfl⟩)

lemma nodup_textRunsOf (d : Document) : (textRunsOf d).Nodup := by
  refine (pairwise_textRunsOf d).imp_of_mem fun {a b} ha _ hlt heq => ?_
  have hle := (isTextRun_of_mem a ha).le
  rw [← heq] at hlt
  omega

lemma length_earlier {d : Document} {earlier later : List (Nat × Nat)}
    (hlines : d.lines = front ++ (run ++ behind)) (h : MaximalRun front run behind)
    (hruns : textRunsOf d = earlier ++ numbersOf front run :: later) :
    earlier.length = (blocks front).length := by
  have hnodup := nodup_textRunsOf d
  have hfound := hruns
  rw [hruns, List.nodup_middle, List.nodup_cons, List.mem_append, not_or] at hnodup
  rw [textRunsOf_eq, hlines, textRuns_of_maximalRun h, eq_comm,
    List.append_cons_inj_of_notMem hnodup.1.1 hnodup.1.2] at hfound
  rw [hfound.1]
  exact (forall₂_textRuns_lines front).length_eq

end Scope

end Referent
