import Mathlib.Tactic.Common
import Referent.Proofs.Text.Spans
import Referent.Token

namespace Referent

def Successive (spans : List (Nat × Nat)) : Prop := spans.Pairwise fun s t => s.2 ≤ t.1

namespace Regex

lemma le_of_mem_spansFrom {r : Regex} {resume index : Nat} {prev : Option Char} {text : List Char}
    {s : Nat × Nat} (h : s ∈ r.spansFrom resume index prev text) : resume ≤ s.1 ∧ index ≤ s.1 := by
  induction text generalizing resume index prev with
  | nil => exact absurd h List.not_mem_nil
  | cons c rest ih =>
    unfold spansFrom at h
    split at h
    · have hlater := ih h
      omega
    · next hresume =>
      have hlater (h : s ∈ r.spansFrom resume (index + 1) (some c) rest) :
          resume ≤ s.1 ∧ index ≤ s.1 := by
        have hlater := ih h
        omega
      split at h
      · exact hlater h
      · next stop hstop =>
        split at h
        · rcases List.mem_cons.mp h with rfl | h
          · exact ⟨Nat.not_lt.mp hresume, Nat.le_refl _⟩
          · have hlater := ih h
            omega
        · exact hlater h

lemma successive_spansFrom (r : Regex) (resume index : Nat) (prev : Option Char)
    (text : List Char) : Successive (r.spansFrom resume index prev text) := by
  induction text generalizing resume index prev with
  | nil => exact List.Pairwise.nil
  | cons c rest ih =>
    unfold spansFrom
    split
    · exact ih resume (index + 1) (some c)
    · split
      · exact ih resume (index + 1) (some c)
      · next stop _ =>
        split
        · exact List.pairwise_cons.mpr
            ⟨fun t ht => (le_of_mem_spansFrom ht).1, ih stop (index + 1) (some c)⟩
        · exact ih resume (index + 1) (some c)

lemma successive_spans (r : Regex) (text : List Char) : Successive (r.spans text) :=
  successive_spansFrom r 0 0 none text

end Regex

namespace Unicode

lemma le_of_mem_spansFrom {start : Nat} {gs : List (List Char)} {s : Nat × Nat}
    (h : s ∈ spansFrom start gs) : start ≤ s.1 := by
  induction gs generalizing start with
  | nil => exact absurd h List.not_mem_nil
  | cons g rest ih =>
    rcases List.mem_cons.mp h with rfl | h
    · exact Nat.le_refl _
    · exact Nat.le_trans (Nat.le_add_right _ _) (ih h)

lemma successive_spansFrom (start : Nat) (gs : List (List Char)) :
    Successive (spansFrom start gs) := by
  induction gs generalizing start with
  | nil => exact List.Pairwise.nil
  | cons g rest ih =>
    exact List.pairwise_cons.mpr ⟨fun t ht => le_of_mem_spansFrom ht, ih (start + g.length)⟩

lemma clusterSpans_ordered {text : List Char} {s : Nat × Nat} (h : s ∈ clusterSpans text) :
    s.1 ≤ s.2 := (spansFrom_bounds 0 (clusters text) s h).1

lemma successive_clusterSpans (text : List Char) : Successive (clusterSpans text) :=
  successive_spansFrom 0 (clusters text)

lemma ne_nil_of_mem_clustersFrom {s : ClusterState} {cluster text : List Char} (h : cluster ≠ []) :
    ∀ g ∈ clustersFrom s cluster text, g ≠ [] := by
  induction text generalizing s cluster with
  | nil => simpa [clustersFrom] using h
  | cons c rest ih =>
    unfold clustersFrom
    split
    · exact ih (List.cons_ne_nil c cluster)
    · simpa using ⟨h, ih (List.cons_ne_nil c [])⟩

lemma ne_nil_of_mem_clusters (text : List Char) : ∀ g ∈ clusters text, g ≠ [] := by
  cases text with
  | nil => simp [clusters]
  | cons c rest => exact ne_nil_of_mem_clustersFrom (List.cons_ne_nil c [])

lemma lt_of_mem_spansFrom {start : Nat} {gs : List (List Char)} {s : Nat × Nat}
    (hgs : ∀ g ∈ gs, g ≠ []) (h : s ∈ spansFrom start gs) : s.1 < s.2 := by
  induction gs generalizing start with
  | nil => exact absurd h List.not_mem_nil
  | cons g rest ih =>
    rcases List.mem_cons.mp h with rfl | h
    · exact Nat.lt_add_of_pos_right (List.length_pos_iff.mpr (hgs g List.mem_cons_self))
    · exact ih (fun g' hg' => hgs g' (List.mem_cons_of_mem g hg')) h

lemma lt_of_mem_clusterSpans {text : List Char} {s : Nat × Nat} (h : s ∈ clusterSpans text) :
    s.1 < s.2 := lt_of_mem_spansFrom (ne_nil_of_mem_clusters text) h

end Unicode

lemma le_of_mem_splitCapitals {start : Nat} {word : List Char} {s : Nat × Nat}
    (h : s ∈ splitCapitals start word) : start ≤ s.1 := by
  unfold splitCapitals at h
  dsimp only at h
  split at h
  · rcases List.mem_cons.mp h with rfl | h
    · exact Nat.le_refl _
    · obtain rfl := List.mem_singleton.mp h
      dsimp only
      omega
  · obtain rfl := List.mem_singleton.mp h
    exact Nat.le_refl _

lemma successive_splitCapitals (start : Nat) (word : List Char) :
    Successive (splitCapitals start word) := by
  unfold splitCapitals Successive
  dsimp only
  split
  · exact List.pairwise_pair.mpr (Nat.le_refl _)
  · exact List.pairwise_singleton _ _

lemma le_of_mem_wordSpansFrom {start : Nat} {text : List Char} {s : Nat × Nat}
    (h : s ∈ wordSpansFrom start text) : start ≤ s.1 := by
  fun_induction wordSpansFrom start text with
  | case1 start => exact absurd h List.not_mem_nil
  | case2 start c rest length hpos ih =>
    rcases List.mem_append.mp h with h | h
    · exact le_of_mem_splitCapitals h
    · exact Nat.le_trans (Nat.le_add_right _ _) (ih h)
  | case3 start c rest length hpos ih => exact Nat.le_trans (Nat.le_succ _) (ih h)

lemma successive_wordSpansFrom (start : Nat) (text : List Char) :
    Successive (wordSpansFrom start text) := by
  fun_induction wordSpansFrom start text with
  | case1 start => exact List.Pairwise.nil
  | case2 start c rest length hpos ih =>
    refine List.pairwise_append.mpr ⟨successive_splitCapitals _ _, ih, fun s hs t ht => ?_⟩
    have hs := (splitCapitals_bounds _ _ s hs).2
    have ht := le_of_mem_wordSpansFrom ht
    rw [List.length_take] at hs
    omega
  | case3 start c rest length hpos ih => exact ih

lemma successive_wordSpans (text : List Char) : Successive (wordSpans text) :=
  successive_wordSpansFrom 0 text

lemma lt_of_mem_splitCapitals {start : Nat} {word : List Char} {s : Nat × Nat} (hword : word ≠ [])
    (h : s ∈ splitCapitals start word) : s.1 < s.2 := by
  have hpos := List.length_pos_iff.mpr hword
  unfold splitCapitals at h
  dsimp only at h
  split at h
  · rcases List.mem_cons.mp h with rfl | h
    · dsimp only
      omega
    · obtain rfl := List.mem_singleton.mp h
      dsimp only
      omega
  · obtain rfl := List.mem_singleton.mp h
    dsimp only
    omega

lemma lt_of_mem_wordSpansFrom {start : Nat} {text : List Char} {s : Nat × Nat}
    (h : s ∈ wordSpansFrom start text) : s.1 < s.2 := by
  fun_induction wordSpansFrom start text with
  | case1 start => exact absurd h List.not_mem_nil
  | case2 start c rest length hpos ih =>
    rcases List.mem_append.mp h with h | h
    · have hword : 0 < ((c :: rest).take length).length := by
        rw [List.length_take, List.length_cons]
        omega
      exact lt_of_mem_splitCapitals (List.length_pos_iff.mp hword) h
    · exact ih h
  | case3 start c rest length hpos ih => exact ih h

lemma lt_of_mem_wordSpans {text : List Char} {s : Nat × Nat} (h : s ∈ wordSpans text) :
    s.1 < s.2 := lt_of_mem_wordSpansFrom h

lemma wordSpans_ordered {text : List Char} {s : Nat × Nat} (h : s ∈ wordSpans text) : s.1 ≤ s.2 :=
  (wordSpansFrom_bounds 0 text s h).1

namespace Token

lemma le_of_mem_ofTextFrom {identifier : Regex} {start : Nat} {prev : Option Char}
    {text : List Char} {t : Token} (h : t ∈ ofTextFrom identifier start prev text) :
    start ≤ t.start := by
  fun_induction ofTextFrom identifier start prev text with
  | case1 start prev => exact absurd h List.not_mem_nil
  | case2 start prev c rest hspace ih => exact Nat.le_trans (Nat.le_succ _) (ih h)
  | case3 start prev c rest hspace length token ih =>
    rcases List.mem_cons.mp h with rfl | h
    · exact Nat.le_refl _
    · exact Nat.le_trans (Nat.le_add_right _ _) (ih h)

lemma pairwise_ofTextFrom (identifier : Regex) (start : Nat) (prev : Option Char)
    (text : List Char) :
    (ofTextFrom identifier start prev text).Pairwise fun s t => s.stop ≤ t.start := by
  fun_induction ofTextFrom identifier start prev text with
  | case1 start prev => exact List.Pairwise.nil
  | case2 start prev c rest hspace ih => exact ih
  | case3 start prev c rest hspace length token ih =>
    exact List.pairwise_cons.mpr ⟨fun t ht => le_of_mem_ofTextFrom ht, ih⟩

lemma pairwise_ofText (separators : List (List Char)) (text : List Char) :
    (ofText separators text).Pairwise fun s t => s.stop ≤ t.start :=
  pairwise_ofTextFrom _ 0 none text

lemma lt_of_mem_ofTextFrom {identifier : Regex} {start : Nat} {prev : Option Char}
    {text : List Char} {t : Token} (h : t ∈ ofTextFrom identifier start prev text) :
    t.start < t.stop := by
  fun_induction ofTextFrom identifier start prev text with
  | case1 start prev => exact absurd h List.not_mem_nil
  | case2 start prev c rest hspace ih => exact ih h
  | case3 start prev c rest hspace length token ih =>
    rcases List.mem_cons.mp h with rfl | h
    · have hpos : 1 ≤ length := Nat.le_max_left 1 _
      have htoken : 0 < token.length := by
        rw [List.length_take, List.length_cons]
        omega
      exact Nat.lt_add_of_pos_right htoken
    · exact ih h

lemma lt_of_mem_ofText {separators : List (List Char)} {text : List Char} {t : Token}
    (h : t ∈ ofText separators text) : t.start < t.stop := lt_of_mem_ofTextFrom h

lemma exists_around {identifier : Regex} {start : Nat} {prev : Option Char} {text : List Char}
    {t : Token} (h : t ∈ ofTextFrom identifier start prev text) : ∃ before after,
    text = before ++ (t.text ++ after) ∧ t.start = start + before.length ∧
      t.stop = t.start + t.text.length := by
  fun_induction ofTextFrom identifier start prev text with
  | case1 start prev => exact absurd h List.not_mem_nil
  | case2 start prev c rest hspace ih =>
    obtain ⟨before, after, rfl, hstart, hstop⟩ := ih h
    exact ⟨c :: before, after, rfl, by rw [hstart, List.length_cons]; omega, hstop⟩
  | case3 start prev c rest hspace length token ih =>
    rcases List.mem_cons.mp h with rfl | h
    · exact ⟨[], (c :: rest).drop length, (List.take_append_drop length _).symm, rfl, rfl⟩
    · obtain ⟨before, after, hdrop, hstart, hstop⟩ := ih h
      refine ⟨token ++ before, after, ?_, by rw [hstart, List.length_append, Nat.add_assoc], hstop⟩
      rw [List.append_assoc, ← hdrop, List.take_append_drop]

lemma along_ofText (separators : List (List Char)) (text : List Char) :
    Along text (ofText separators text) where
  nonempty _ ht := lt_of_mem_ofText ht
  successive := pairwise_ofText separators text
  within t ht := by
    obtain ⟨before, after, htext, hstart, hstop⟩ := exists_around ht
    rw [Nat.zero_add] at hstart
    have hlength : (before ++ t.text).length = t.stop := by rw [List.length_append, hstop, hstart]
    rw [← List.append_assoc] at htext
    refine ⟨?_, ?_⟩
    · rw [htext, List.length_append, hlength]
      exact Nat.le_add_right _ _
    · rw [htext, List.take_left' hlength, List.drop_left' hstart.symm]

end Token

end Referent
