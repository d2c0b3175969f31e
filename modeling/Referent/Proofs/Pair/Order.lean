import Referent.Proofs.Pair.Windows
import Referent.Proofs.Scope.Order

namespace Referent

open Occurrence (textOf)

namespace Delimiter

lemma textOf_of_mem_table {d : Delimiter} (hd : d ∈ table) (side : Side) :
    textOf d side ≠ [] ∧ '\r' ∉ textOf d side ∧ '\n' ∉ textOf d side := by
  have hall : ∀ d ∈ table, ∀ text ∈ [d.opening, d.closing],
      text ≠ [] ∧ '\r' ∉ text ∧ '\n' ∉ text := by decide
  exact hall d hd _ (d.textOf_mem side)

lemma eq_of_textOf_eq {d d' : Delimiter} (hd : d ∈ table) (hd' : d' ∈ table) {side side' : Side}
    (h : textOf d side = textOf d' side') : d = d' := by
  have hall : ∀ d ∈ table, ∀ d' ∈ table, ∀ text ∈ [d.opening, d.closing],
      text ∈ [d'.opening, d'.closing] → d = d' := by decide
  exact hall d hd d' hd' _ (d.textOf_mem side) (h ▸ d'.textOf_mem side')

lemma mem_table_of_mem_ofName {name : PairName} {language : String} {d : Delimiter}
    (hd : d ∈ ofName name language) : d ∈ table :=
  (List.mem_filter.mp (List.mem_mergeSort.mp hd)).1

end Delimiter

namespace Occurrence

section Table

variable {delimiters : List Delimiter} (htable : ∀ d ∈ delimiters, d ∈ Delimiter.table)

include htable

lemma covers_of_mem_scan (opened : List Delimiter) (index : Nat) (prev : Option Char)
    (text : List Char) (o : Occurrence) (h : o ∈ scan delimiters opened index prev text) :
    o.delimiter ∈ delimiters ∧ o.stop = o.start + (textOf o.delimiter o.side).length ∧
      ∃ k, o.start = index + k ∧ textOf o.delimiter o.side <+: text.drop k := by
  induction hn : text.length using Nat.strongRecOn generalizing opened index prev text with
  | ind n ih =>
    cases text with
    | nil =>
      rw [scan] at h
      exact absurd h List.not_mem_nil
    | cons c rest =>
      have hrest : rest.length < n := by simp [← hn]
      rcases scan_cons delimiters opened index prev c rest with
        ⟨opened', hs⟩ | ⟨width, d, side, opened', last, hw, ⟨side', hd, htext⟩, hs⟩
      · obtain ⟨hdelimiter, hstop, k, hstart, hcovers⟩ := ih _ hrest _ _ _ _ (hs ▸ h) rfl
        exact ⟨hdelimiter, hstop, k + 1, by omega, hcovers⟩
      · obtain ⟨hdelimiter, hcovers⟩ := starts_of_delimiterAt? hd
        rw [hs] at h
        rcases List.mem_cons.mp h with rfl | h
        · have hne := (Delimiter.textOf_of_mem_table (htable d hdelimiter) side).1
          have hpos := List.length_pos_iff.mpr hne
          refine ⟨hdelimiter, ?_, 0, rfl, htext ▸ hcovers⟩
          dsimp only
          omega
        · have hdrop : ((c :: rest).drop width).length < n := by
            rw [List.length_drop, List.length_cons]
            omega
          obtain ⟨hdelimiter', hstop, k, hstart, hcovers'⟩ := ih _ hdrop _ _ _ _ h rfl
          rw [List.drop_drop] at hcovers'
          exact ⟨hdelimiter', hstop, width + k, by omega, hcovers'⟩

lemma covers_of_mem_ofText {text : List Char} {o : Occurrence} (h : o ∈ ofText delimiters text) :
    o.delimiter ∈ Delimiter.table ∧ o.Covers text := by
  obtain ⟨hdelimiter, hstop, k, hstart, hcovers⟩ := covers_of_mem_scan htable [] 0 none text o h
  rw [Nat.zero_add] at hstart
  exact ⟨htable _ hdelimiter, hstop, hstart ▸ hcovers⟩

end Table

lemma Covers.textIn {o : Occurrence} {d : Document} (h : o.Covers d.text)
    (hd : o.delimiter ∈ Delimiter.table) (hlt : o.start < o.stop) :
    d.textIn (PairSearch.occurrenceRange d 0 o) = textOf o.delimiter o.side := by
  have hle := h.stop_le hlt
  obtain ⟨hopen, hclose⟩ := h.not_insideBreak (Delimiter.textOf_of_mem_table hd o.side).2 hlt
  have hstart : d.offsetAt (d.positionAt o.start) = o.start :=
    Document.offsetAt_positionAt (Nat.le_trans (Nat.le_of_lt hlt) hle) hopen
  have hstop : d.offsetAt (d.positionAt o.stop) = o.stop := Document.offsetAt_positionAt hle hclose
  have hordered := d.positionAt_mono (Nat.le_of_lt hlt)
  rw [PairSearch.occurrenceRange, Nat.zero_add, Nat.zero_add, Document.textIn,
    Range.start_between hordered, Range.stop_between hordered, hstart, hstop, h.stop,
    Nat.add_sub_cancel_left]
  exact (List.prefix_iff_eq_take.mp h.isPrefix).symm

lemma start_ne {l : List Occurrence} (hl : l.Pairwise Precedes) {o o' : Occurrence} (ho : o ∈ l)
    (ho' : o' ∈ l) (hne : o ≠ o') : o.start ≠ o'.start := by
  rcases eq_or_rel_of_pairwise hl ho ho' with heq | hbefore | hbehind
  · exact absurd heq hne
  · exact Nat.ne_of_lt hbefore.start_lt
  · exact Nat.ne_of_gt hbehind.start_lt

lemma pairwise_sorted_matched {l : List Occurrence} (hl : l.Pairwise Precedes) :
    ((matched l).mergeSort fun p q => decide (p.1.start ≤ q.1.start)).Pairwise fun p q =>
      p.1.start < q.1.start ∧ (p.1.delimiter = q.1.delimiter →
        p.2.stop ≤ q.1.start ∨ q.2.stop ≤ p.2.stop) := by
  have hdistinct : ((matched l).mergeSort fun p q => decide (p.1.start ≤ q.1.start)).Pairwise
      fun p q => p.1 ≠ q.1 :=
    (List.mergeSort_perm _ _).symm.pairwise ((settled_matched hl).imp fun h => h.1) Ne.symm
  refine ((Scope.pairwise_sortedPairs _).and hdistinct).imp_of_mem fun {p q} hp hq h => ?_
  have hp := List.mem_mergeSort.mp hp
  have hq := List.mem_mergeSort.mp hq
  have hne := start_ne hl (mem_of_mem_matched hp).1 (mem_of_mem_matched hq).1 h.2
  refine ⟨Nat.lt_of_le_of_ne h.1 hne, fun hsame => ?_⟩
  rcases apart_or_around hl hp hq hsame h.1 with rfl | hapart | ⟨_, haround⟩
  · exact absurd rfl h.2
  · exact .inl hapart
  · exact .inr haround

end Occurrence

namespace PairSearch

open Occurrence

theorem pairwise_findAll {s : PairSearch} (htable : ∀ d ∈ s.delimiters, d ∈ Delimiter.table)
    (d : Document) : (s.findAll d).Pairwise fun p q =>
      p.content.start < q.content.start ∧ (d.textIn p.opening = d.textIn q.opening →
        p.content.stop ≤ q.content.start ∨ q.content.stop ≤ p.content.stop) := by
  have hl := ofText_pairwise s.delimiters d.text
  rw [findAll, pairsIn_undirected (.inr rfl), Document.textIn_range]
  refine List.pairwise_map.mpr ((pairwise_sorted_matched hl).imp_of_mem fun {p q} hp hq h => ?_)
  have hp := List.mem_mergeSort.mp hp
  have hq := List.mem_mergeSort.mp hq
  have hprecedes := precedes_of_mem_matched hl p hp
  have hprecedes' := precedes_of_mem_matched hl q hq
  obtain ⟨hd, hcovers⟩ := covers_of_mem_ofText htable (mem_of_mem_matched hp).1
  obtain ⟨hd', hcovers'⟩ := covers_of_mem_ofText htable (mem_of_mem_matched hq).1
  have hlength := Nat.le_trans (Nat.le_of_lt hprecedes'.1) (hcovers'.stop_le hprecedes'.1)
  have hbreak := hcovers.no_break (Delimiter.textOf_of_mem_table hd p.1.side).2 (Nat.le_refl _) hprecedes.1
  rw [Scope.start_matchAt d 0 hprecedes, Scope.start_matchAt d 0 hprecedes',
    Scope.stop_matchAt d 0 hprecedes, Scope.stop_matchAt d 0 hprecedes']
  simp only [Nat.zero_add]
  refine ⟨Document.positionAt_lt h.1 hlength hbreak.1, fun hsame => ?_⟩
  have htext : textOf p.1.delimiter p.1.side = textOf q.1.delimiter q.1.side := by
    rw [← hcovers.textIn hd hprecedes.1, ← hcovers'.textIn hd' hprecedes'.1]
    exact hsame
  have hsame := Delimiter.eq_of_textOf_eq hd hd' htext
  exact (h.2 hsame).imp (fun hle => d.positionAt_mono hle) fun hle => d.positionAt_mono hle

lemma uncrossed_findAll {s : PairSearch} (htable : ∀ d ∈ s.delimiters, d ∈ Delimiter.table)
    {d : Document} {p q : PairMatch} (hp : p ∈ s.findAll d) (hq : q ∈ s.findAll d)
    (h : d.textIn p.opening = d.textIn q.opening) : p.content.Uncrossed q.content := by
  have hfirst {p q : PairMatch} (hlt : p.content.start < q.content.start)
      (hends : p.content.stop ≤ q.content.start ∨ q.content.stop ≤ p.content.stop) :
      p.content.Uncrossed q.content := by
    rcases hends with hbefore | haround
    · exact .inr (.inr (.inl hbefore))
    · exact .inl ((Range.containsRange_iff _ _).mpr ⟨Position.le_of_lt hlt, haround⟩)
  rcases eq_or_rel_of_pairwise (pairwise_findAll htable d) hp hq with rfl | hpq | hqp
  · exact p.content.uncrossed_refl
  · exact hfirst hpq.1 (hpq.2 h)
  · exact (hfirst hqp.1 (hqp.2 h.symm)).symm

end PairSearch

end Referent
