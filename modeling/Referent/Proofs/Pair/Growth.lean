import Referent.Proofs.Config
import Referent.Proofs.Pair.Windows

/-! The windows in which the text around a selection is searched get longer from round to round, until a
sum or a product of their lengths overflows. -/

namespace Referent

/-- How far the window of each round reaches beyond the selection, in exact numbers. -/
def ScanConfig.lengthAt (scan : ScanConfig) : Nat → Nat
  | 0 => scan.first
  | n + 1 => min (scan.lengthAt n * max scan.factor 2) scan.maxLength

namespace PairSearch

variable {s : PairSearch} {scan : ScanConfig} {d : Document} {r : Range}

/-- Whether the search does not go on after a round. -/
def IsLast (s : PairSearch) (scan : ScanConfig) (d : Document) (r : Range) (n : Nat) : Prop :=
  s.isLastWindow scan d r (scan.lengthAt n) (window d r (scan.lengthAt n)) = true

/-- Whether the search does not end before a round. -/
def Reaches (s : PairSearch) (scan : ScanConfig) (d : Document) (r : Range) (n : Nat) : Prop :=
  ∀ k < n, ¬s.IsLast scan d r k

structure EndsIn (s : PairSearch) (scan : ScanConfig) (d : Document) (r : Range) (n : Nat) :
    Prop where
  reaches : s.Reaches scan d r n
  isLast : s.IsLast scan d r n

/-- Whether each sum and each product that the search forms is a word. -/
structure NoOverflow (s : PairSearch) (scan : ScanConfig) (d : Document) (r : Range) : Prop where
  sum : ∀ n, s.Reaches scan d r n → d.offsetAt r.stop + scan.lengthAt n < UInt64.size
  product : ∀ n, s.Reaches scan d r (n + 1) → scan.lengthAt n * max scan.factor 2 < UInt64.size

lemma isLast_iff {n : Nat} : s.IsLast scan d r n ↔
    (s.findWithin d r (scan.lengthAt n)).isSome ∨ window d r (scan.lengthAt n) = (0, d.length) ∨
      scan.maxLength ≤ scan.lengthAt n := by
  rw [IsLast, isLastWindow, Bool.or_eq_true, Bool.or_eq_true, beq_iff_eq, decide_eq_true_eq, or_assoc]
  rfl

lemma reaches_succ {n : Nat} :
    s.Reaches scan d r (n + 1) ↔ s.Reaches scan d r n ∧ ¬s.IsLast scan d r n := by
  simp only [Reaches, Nat.lt_succ_iff_lt_or_eq]
  constructor
  · exact fun h => ⟨fun k hk => h k (.inl hk), h n (.inr rfl)⟩
  · rintro ⟨h, hn⟩ k (hk | rfl)
    · exact h k hk
    · exact hn

lemma EndsIn.le_of_reaches {n k : Nat} (h : s.EndsIn scan d r n) (hk : s.Reaches scan d r k) :
    k ≤ n := by
  by_contra hlt
  exact hk n (Nat.lt_of_not_le hlt) h.isLast

lemma EndsIn.reaches_of_le {n k : Nat} (h : s.EndsIn scan d r n) (hk : k ≤ n) :
    s.Reaches scan d r k := fun j hj => h.reaches j (Nat.lt_of_lt_of_le hj hk)

lemma lengthAt_lt_succ {n : Nat} (h : ¬s.IsLast scan d r n) (hpos : 0 < scan.lengthAt n) :
    scan.lengthAt n < scan.lengthAt (n + 1) := by
  have hlarger : scan.lengthAt n < scan.lengthAt n * max scan.factor 2 :=
    (Nat.lt_mul_iff_one_lt_right hpos).mpr (by omega)
  have hshort : scan.lengthAt n < scan.maxLength :=
    Nat.lt_of_not_le fun hlarge => h (isLast_iff.mpr (.inr (.inr hlarge)))
  exact lt_min hlarger hshort

lemma lt_lengthAt {n : Nat} (h : s.Reaches scan d r n) : n < scan.lengthAt n := by
  induction n with
  | zero => exact Nat.le_max_right _ _
  | succ n ih =>
    obtain ⟨hreaches, hgo⟩ := reaches_succ.mp h
    have hn := ih hreaches
    have hlt := lengthAt_lt_succ hgo (Nat.zero_lt_of_lt hn)
    omega

lemma initialLength_le_lengthAt {n : Nat} (h : s.Reaches scan d r n) :
    scan.initialLength ≤ scan.lengthAt n := by
  induction n with
  | zero => exact Nat.le_max_left _ _
  | succ n ih =>
    obtain ⟨hreaches, hgo⟩ := reaches_succ.mp h
    have hlt := lengthAt_lt_succ hgo (Nat.zero_lt_of_lt (lt_lengthAt hreaches))
    exact Nat.le_trans (ih hreaches) (Nat.le_of_lt hlt)

lemma window_whole {length : Nat} (h : d.length ≤ length) : window d r length = (0, d.length) := by
  have hstart := d.offsetAt_le r.start
  exact Prod.ext (by simp only [window]; omega) (by simp only [window]; omega)

lemma not_reaches : ¬s.Reaches scan d r (d.length + 1) := by
  intro h
  obtain ⟨hreaches, hgo⟩ := reaches_succ.mp h
  exact hgo (isLast_iff.mpr (.inr (.inl (window_whole (Nat.le_of_lt (lt_lengthAt hreaches))))))

variable (s scan d r) in
lemma exists_endsIn : ∃ n ≤ d.length, s.EndsIn scan d r n := by
  have hfirst (n : Nat) (h : ¬s.Reaches scan d r n) : ∃ k < n, s.EndsIn scan d r k := by
    induction n with
    | zero => exact absurd (fun k hk => absurd hk (Nat.not_lt_zero k)) h
    | succ n ih =>
      by_cases hn : s.Reaches scan d r n
      · have hlast : s.IsLast scan d r n := by_contra fun hgo => h (reaches_succ.mpr ⟨hn, hgo⟩)
        exact ⟨n, Nat.lt_succ_self n, hn, hlast⟩
      · obtain ⟨k, hk, hends⟩ := ih hn
        exact ⟨k, Nat.lt_succ_of_lt hk, hends⟩
  obtain ⟨n, hn, hends⟩ := hfirst _ not_reaches
  exact ⟨n, Nat.lt_succ_iff.mp hn, hends⟩

section Rounds

variable {n rounds : Nat}

lemma scanFrom_last (h : s.IsLast scan d r n)
    (hsum : d.offsetAt r.stop + scan.lengthAt n < UInt64.size) :
    s.scanFrom scan d r (rounds + 1) (scan.lengthAt n) =
      .ok (s.findWithin d r (scan.lengthAt n)) := by
  rw [scanFrom, windowAround_eq_ok.mpr ⟨hsum, rfl⟩]
  exact if_pos h

lemma scanFrom_next (h : ¬s.IsLast scan d r n)
    (hsum : d.offsetAt r.stop + scan.lengthAt n < UInt64.size)
    (hproduct : scan.lengthAt n * max scan.factor 2 < UInt64.size) :
    s.scanFrom scan d r (rounds + 1) (scan.lengthAt n) =
      s.scanFrom scan d r rounds (scan.lengthAt (n + 1)) := by
  have hnext : scan.next (scan.lengthAt n) = .ok (scan.lengthAt (n + 1)) := by
    rw [ScanConfig.next, word_eq_ok.mpr ⟨hproduct, rfl⟩]
    rfl
  rw [scanFrom, windowAround_eq_ok.mpr ⟨hsum, rfl⟩]
  refine (if_neg h).trans ?_
  rw [hnext]
  rfl

lemma scanFrom_overflow_sum (hsum : UInt64.size ≤ d.offsetAt r.stop + scan.lengthAt n) :
    s.scanFrom scan d r (rounds + 1) (scan.lengthAt n) = .error .overflow := by
  rw [scanFrom, windowAround, word_eq_error.mpr ⟨hsum, rfl⟩]
  rfl

lemma scanFrom_overflow_product (h : ¬s.IsLast scan d r n)
    (hproduct : UInt64.size ≤ scan.lengthAt n * max scan.factor 2) :
    s.scanFrom scan d r (rounds + 1) (scan.lengthAt n) = .error .overflow := by
  rcases Nat.lt_or_ge (d.offsetAt r.stop + scan.lengthAt n) UInt64.size with hsum | hsum
  · rw [scanFrom, windowAround_eq_ok.mpr ⟨hsum, rfl⟩]
    refine (if_neg h).trans ?_
    rw [ScanConfig.next, word_eq_error.mpr ⟨hproduct, rfl⟩]
    rfl
  · exact scanFrom_overflow_sum hsum

lemma scanFrom_eq_ok {k : Nat} (hscan : s.NoOverflow scan d r) (h : s.EndsIn scan d r n)
    (hk : k ≤ n) (hrounds : n - k < rounds) :
    s.scanFrom scan d r rounds (scan.lengthAt k) = .ok (s.findWithin d r (scan.lengthAt n)) := by
  induction rounds generalizing k with
  | zero => omega
  | succ rounds ih =>
    have hsum := hscan.sum k (h.reaches_of_le hk)
    rcases Nat.eq_or_lt_of_le hk with rfl | hlt
    · exact scanFrom_last h.isLast hsum
    · rw [scanFrom_next (h.reaches k hlt) hsum (hscan.product k (h.reaches_of_le hlt))]
      exact ih hlt (by omega)

lemma scanFrom_eq_error {k m : Nat} (hm : s.Reaches scan d r m)
    (h : UInt64.size ≤ d.offsetAt r.stop + scan.lengthAt m ∨
      ¬s.IsLast scan d r m ∧ UInt64.size ≤ scan.lengthAt m * max scan.factor 2)
    (hk : k ≤ m) (hrounds : m - k < rounds) :
    s.scanFrom scan d r rounds (scan.lengthAt k) = .error .overflow := by
  induction rounds generalizing k with
  | zero => omega
  | succ rounds ih =>
    rcases Nat.eq_or_lt_of_le hk with rfl | hlt
    · rcases h with hsum | ⟨hgo, hproduct⟩
      · exact scanFrom_overflow_sum hsum
      · exact scanFrom_overflow_product hgo hproduct
    · rcases Nat.lt_or_ge (d.offsetAt r.stop + scan.lengthAt k) UInt64.size with hsum | hsum
      · rcases Nat.lt_or_ge (scan.lengthAt k * max scan.factor 2) UInt64.size with hproduct | hproduct
        · rw [scanFrom_next (hm k hlt) hsum hproduct]
          exact ih hlt (by omega)
        · exact scanFrom_overflow_product (hm k hlt) hproduct
      · exact scanFrom_overflow_sum hsum

end Rounds

lemma findInText_eq_ok {n : Nat} (hscan : s.NoOverflow scan d r) (h : s.EndsIn scan d r n) :
    s.findInText scan d r = .ok (s.findWithin d r (scan.lengthAt n)) := by
  obtain ⟨m, hm, hends⟩ := exists_endsIn s scan d r
  have hle := hends.le_of_reaches h.reaches
  exact scanFrom_eq_ok hscan h (Nat.zero_le n) (by omega)

lemma exists_findInText_eq_ok (hscan : s.NoOverflow scan d r) :
    ∃ found, s.findInText scan d r = .ok found := by
  obtain ⟨n, -, hends⟩ := exists_endsIn s scan d r
  exact ⟨_, findInText_eq_ok hscan hends⟩

lemma findInText_eq_error (h : ¬s.NoOverflow scan d r) :
    s.findInText scan d r = .error .overflow := by
  obtain ⟨n, hn, hends⟩ := exists_endsIn s scan d r
  obtain ⟨m, hm, hover⟩ : ∃ m, s.Reaches scan d r m ∧
      (UInt64.size ≤ d.offsetAt r.stop + scan.lengthAt m ∨
        ¬s.IsLast scan d r m ∧ UInt64.size ≤ scan.lengthAt m * max scan.factor 2) := by
    by_contra hnone
    push Not at hnone
    refine h ⟨fun m hm => (hnone m hm).1, fun m hm => ?_⟩
    obtain ⟨hreaches, hgo⟩ := reaches_succ.mp hm
    exact (hnone m hreaches).2 hgo
  have hle := hends.le_of_reaches hm
  exact scanFrom_eq_error hm hover (Nat.zero_le m) (by omega)

lemma noOverflow_of_lt (hsum : d.length + max scan.first scan.maxLength < UInt64.size)
    (hproduct : min d.length scan.maxLength * max scan.factor 2 < UInt64.size) :
    s.NoOverflow scan d r where
  sum n _ := by
    have hstop := d.offsetAt_le r.stop
    have hle : scan.lengthAt n ≤ max scan.first scan.maxLength := by
      cases n with
      | zero => exact Nat.le_max_left _ _
      | succ n => exact Nat.le_trans (Nat.min_le_right _ _) (Nat.le_max_right _ _)
    omega
  product n hn := by
    obtain ⟨-, hgo⟩ := reaches_succ.mp hn
    rw [isLast_iff, not_or, not_or] at hgo
    obtain ⟨-, hpart, hlarge⟩ := hgo
    have hshort : scan.lengthAt n < d.length :=
      Nat.lt_of_not_le fun hlong => hpart (window_whole hlong)
    exact Nat.lt_of_le_of_lt (Nat.mul_le_mul_right _ (by omega)) hproduct

/-- The search with the settings of a text. Its windows end, and each of them reaches farther than the one
before. With a sum or product that overflows the search has no other outcome. None overflows if the
document leaves room for the windows. -/
theorem scan_ends {text : List Char} {c : Config} (hc : Config.ofText text = .ok c) (s : PairSearch)
    (d : Document) (r : Range) :
    let scan := c.scan
    scan.lengthAt 0 = scan.initialLength ∧
    (∃ n, s.EndsIn scan d r n ∧
      (s.NoOverflow scan d r →
        s.findInText scan d r = .ok (s.findWithin d r (scan.lengthAt n))) ∧
      ∀ k < n, scan.lengthAt k < scan.lengthAt (k + 1) ∧
        scan.lengthAt (k + 1) = min (scan.lengthAt k * scan.factor) scan.maxLength ∧
        scan.lengthAt k < scan.maxLength ∧ window d r (scan.lengthAt k) ≠ (0, d.length)) ∧
    (¬s.NoOverflow scan d r → s.findInText scan d r = .error .overflow) ∧
    (d.length + max scan.initialLength scan.maxLength < UInt64.size →
      min d.length scan.maxLength * scan.factor < UInt64.size → s.NoOverflow scan d r) := by
  intro scan
  have hvalid := Config.valid_of_ofText hc
  have hinitial : scan.first = scan.initialLength := Nat.max_eq_left hvalid.initialLength_pos
  have hfactor : max scan.factor 2 = scan.factor := Nat.max_eq_left hvalid.two_le_factor
  refine ⟨hinitial, ?_, findInText_eq_error, fun hsum hproduct => ?_⟩
  · obtain ⟨n, -, hends⟩ := exists_endsIn s scan d r
    refine ⟨n, hends, fun hscan => findInText_eq_ok hscan hends, fun k hk => ?_⟩
    have hgo := hends.reaches k hk
    have hpos := lt_lengthAt (hends.reaches_of_le (Nat.le_of_lt hk))
    have hlt := lengthAt_lt_succ hgo (Nat.zero_lt_of_lt hpos)
    have hnext : scan.lengthAt (k + 1) = min (scan.lengthAt k * scan.factor) scan.maxLength := by
      rw [← hfactor]
      rfl
    rw [isLast_iff, not_or, not_or] at hgo
    exact ⟨hlt, hnext, Nat.lt_of_not_le hgo.2.2, hgo.2.1⟩
  · apply noOverflow_of_lt
    · rwa [hinitial]
    · rwa [hfactor]

theorem scan_ends_default :
    let s : PairSearch := .ofName .parentheses "plaintext"
    let d : Document := .ofText 1 "plaintext" "(a(b)c)".toList
    Config.ofText [] = .ok {} ∧ ∃ n, s.EndsIn {} d (.point ⟨0, 4⟩) n ∧
      s.findInText {} d (.point ⟨0, 4⟩) = .ok (s.findWithin d (.point ⟨0, 4⟩) (ScanConfig.lengthAt {} n)) := by
  intro s d
  have hc : Config.ofText [] = .ok {} := by decide +kernel
  obtain ⟨_, ⟨n, hends, hfound, _⟩, _, hfits⟩ := scan_ends hc s d (.point ⟨0, 4⟩)
  exact ⟨hc, n, hends, hfound (hfits (by decide) (by decide))⟩

theorem scan_overflows :
    let s : PairSearch := .ofName .parentheses "plaintext"
    (∃ text c d r, Config.ofText text = .ok c ∧ d.Holds r ∧
      UInt64.size ≤ d.offsetAt r.stop + c.scan.lengthAt 0 ∧
      s.findInText c.scan d r = .error .overflow ∧
      ∃ p ∈ s.findAll d, p.content.containsRange r = true) ∧
    ∃ text c d r, Config.ofText text = .ok c ∧ d.Holds r ∧
      UInt64.size ≤ c.scan.lengthAt 0 * c.scan.factor ∧
      s.findInText c.scan d r = .error .overflow ∧
      ∃ p ∈ s.findAll d, p.content.containsRange r = true := by
  intro s
  constructor
  · exact ⟨"surrounding-pair.initial-scan-length = 18446744073709551615".toList,
      { scan := { initialLength := 18446744073709551615 } }, .ofText 1 "plaintext" "(a)".toList,
      .onLine 0 1 1, by decide +kernel, by decide +kernel, by decide +kernel, by decide +kernel,
      ⟨.onLine 0 0 1, .onLine 0 2 3⟩, mem_findAll.mpr (by decide +kernel), by decide +kernel⟩
  · exact ⟨"[surrounding-pair]
        initial-scan-length = 3
        scan-expansion-factor = 6148914691236517207".toList,
      { scan := { initialLength := 3, factor := 6148914691236517207 } },
      .ofText 1 "plaintext" "(aa)(bbbbbbbbbb)".toList, .onLine 0 4 4, by decide +kernel,
      by decide +kernel, by decide +kernel, by decide +kernel,
      ⟨.onLine 0 0 1, .onLine 0 3 4⟩, mem_findAll.mpr (by decide +kernel), by decide +kernel⟩

end PairSearch

end Referent
