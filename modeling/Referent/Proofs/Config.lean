import Mathlib.Tactic.Common
import Referent.Config

namespace Referent

structure ScanConfig.AreWords (scan : ScanConfig) : Prop where
  initialLength : scan.initialLength < UInt64.size
  maxLength : scan.maxLength < UInt64.size
  factor : scan.factor < UInt64.size

structure ScanConfig.Valid (scan : ScanConfig) : Prop extends scan.AreWords where
  initialLength_pos : 0 < scan.initialLength
  two_le_factor : 2 ≤ scan.factor

namespace Config

lemma lt_of_natOfToml? {v : Toml} {n : Nat} (h : natOfToml? v = some n) : n < UInt64.size := by
  cases v with
  | integer i =>
    obtain ⟨⟨hnonneg, hlt⟩, heq⟩ := Option.ite_none_right_eq_some.mp h
    obtain rfl := Option.some.inj heq
    exact (Int.toNat_lt hnonneg).mpr hlt
  | text s => cases h
  | scalar => cases h
  | array items => cases h
  | table kind entries => cases h

lemma of_setting {α : Type} {P : α → Prop} {entries : List (String × Toml)} {name : String}
    {read : Toml → Option α} {default a : α} (h : setting entries name read default = some a)
    (hdefault : P default) (hread : ∀ v a, read v = some a → P a) : P a := by
  rw [setting] at h
  split at h
  · exact Option.some.inj h ▸ hdefault
  · exact hread _ _ h

lemma areWords_of_scanOfToml? {t : Toml} {scan : ScanConfig} (h : scanOfToml? t = some scan) :
    scan.AreWords := by
  simp only [scanOfToml?, Option.bind_eq_bind, Option.bind_eq_some_iff, Option.pure_def,
    Option.some.injEq] at h
  obtain ⟨entries, _, initial, hinitial, maxLength, hmax, factor, hfactor, rfl⟩ := h
  have hword {name : String} {default n : Nat} (h : setting entries name natOfToml? default = some n)
      (hdefault : default < UInt64.size) : n < UInt64.size :=
    of_setting (P := fun n => n < UInt64.size) h hdefault fun _ _ => lt_of_natOfToml?
  exact ⟨hword hinitial (by decide), hword hmax (by decide), hword hfactor (by decide)⟩

lemma areWords_of_ofEntries? {entries : Toml.Entries} {c : Config} (h : ofEntries? entries = some c) :
    c.scan.AreWords := by
  simp only [ofEntries?, Option.bind_eq_bind, Option.bind_eq_some_iff, Option.pure_def,
    Option.some.injEq] at h
  obtain ⟨entries, _, separators, _, scan, hscan, modulo, _, languages, _, rfl⟩ := h
  exact of_setting hscan ⟨by decide, by decide, by decide⟩ fun _ _ => areWords_of_scanOfToml?

lemma valid_of_ofText {text : List Char} {c : Config} (h : ofText text = .ok c) : c.scan.Valid := by
  rw [ofText] at h
  split at h
  · next c' hread =>
    obtain ⟨entries, _, hentries⟩ := Option.bind_eq_some_iff.mp hread
    have hwords := areWords_of_ofEntries? hentries
    rw [validate] at h
    split at h
    · cases h
    · split at h
      · cases h
      · next hgrows =>
        obtain rfl := Except.ok.inj h
        exact ⟨hwords, by omega, by omega⟩
  · cases h

end Config

end Referent
