import Mathlib.Data.Option.Basic
import Mathlib.Tactic.Common
import Referent.Descriptor.Schema

namespace Referent

namespace Json

def IsInteger (n : Int) : Prop := Int64.minValue.toInt ≤ n ∧ n ≤ Int64.maxValue.toInt

def IsNatural (n : Nat) : Prop := n < UInt64.size

lemma integer?_int {n : Int} (h : IsInteger n) : integer? (int n) = some n := if_pos h

lemma natural?_int {n : Nat} (h : IsNatural n) : natural? (int n) = some n := by
  have hn : (0 : Int) ≤ n ∧ (n : Int) < UInt64.size := ⟨Int.natCast_nonneg n, Int.ofNat_lt.mpr h⟩
  simp only [natural?]
  rw [if_pos hn, Int.toNat_natCast]

lemma isInteger_of_integer? {j : Json} {n : Int} (h : integer? j = some n) : IsInteger n := by
  cases j with
  | int k =>
    simp only [integer?] at h
    split at h
    · cases h
      assumption
    · cases h
  | _ => cases h

lemma isNatural_of_natural? {j : Json} {n : Nat} (h : natural? j = some n) : IsNatural n := by
  cases j with
  | int k =>
    simp only [natural?] at h
    split at h
    · next hk =>
      cases h
      exact (Int.toNat_lt hk.1).mpr hk.2
    · cases h
  | _ => cases h

lemma choice?_str {α : Type} {ofTag? : String → Option α} {tag : String} {a : α}
    (h : ofTag? tag = some a) : choice? ofTag? (str tag) = some a := h

lemma depth_pos (j : Json) : 0 < j.depth := by
  cases j <;> simp [depth]

lemma depth_le_of_mem_fields {fields : List (String × Json)} {f : String × Json} (h : f ∈ fields) :
    f.2.depth ≤ depthFields fields := by
  induction fields with
  | nil => cases h
  | cons g rest ih =>
    rw [depthFields]
    rcases List.mem_cons.mp h with rfl | h
    · exact Nat.le_max_left _ _
    · exact Nat.le_trans (ih h) (Nat.le_max_right _ _)

lemma depth_le_of_mem_items {items : List Json} {j : Json} (h : j ∈ items) :
    j.depth ≤ depthItems items := by
  induction items with
  | nil => cases h
  | cons i rest ih =>
    rw [depthItems]
    rcases List.mem_cons.mp h with rfl | h
    · exact Nat.le_max_left _ _
    · exact Nat.le_trans (ih h) (Nat.le_max_right _ _)

lemma depth_lt_ofTag {tag : String} {fields : List (String × Json)} {f : String × Json}
    (h : f ∈ fields) : f.2.depth < (ofTag tag fields).depth := by
  have hfield := depth_le_of_mem_fields (List.mem_cons_of_mem ("type", str tag) h)
  rw [ofTag, depth]
  omega

lemma depth_lt_ofTag_items {tag name : String} {fields : List (String × Json)} {items : List Json}
    {j : Json} (h : (name, arr items) ∈ fields) (hj : j ∈ items) :
    j.depth < (ofTag tag fields).depth := by
  have hitems : (arr items).depth < (ofTag tag fields).depth := depth_lt_ofTag h
  have hitem := depth_le_of_mem_items hj
  rw [depth] at hitems
  omega

lemma forall_mem_of_mapM {α : Type} {P : α → Prop} {read : Json → Option α} {items : List Json}
    {l : List α} (h : items.mapM read = some l) (hread : ∀ j a, read j = some a → P a) :
    ∀ a ∈ l, P a := by
  induction items generalizing l with
  | nil =>
    cases h
    simp
  | cons j rest ih =>
    simp only [List.mapM_cons, Option.bind_eq_bind, Option.bind_eq_some_iff, Option.pure_def] at h
    obtain ⟨a, ha, l', hl', h⟩ := h
    cases h
    exact List.forall_mem_cons.mpr ⟨hread j a ha, ih hl'⟩

lemma mapM_map {α : Type} {write : α → Json} {read : Json → Option α} {l : List α}
    (h : ∀ a ∈ l, read (write a) = some a) : (l.map write).mapM read = some l := by
  induction l with
  | nil => rfl
  | cons a rest ih =>
    rw [List.map_cons, List.mapM_cons, h a List.mem_cons_self,
      ih fun b hb => h b (List.mem_cons_of_mem a hb)]
    rfl

lemma field?_eq_none {name : String} {fields : List (String × Json)}
    (h : name ∉ fields.map Prod.fst) : field? name fields = none := by
  induction fields with
  | nil => rfl
  | cons f rest ih =>
    rw [List.map_cons, List.mem_cons, not_or] at h
    rw [field?, ih h.2, if_neg (Ne.symm h.1)]
    rfl

end Json

open Json

namespace Content

variable {tag name : String} {fields : List (String × Json)}

lemma ofTagged?_ofTag (h : "type" ∉ fields.map Prod.fst) :
    ofTagged? (ofTag tag fields) = some (tag, .named fields) := by
  have hrest : fields.filter (fun f => f.1 != "type") = fields := by
    refine List.filter_eq_self.mpr fun f hf => bne_iff_ne.mpr ?_
    rintro htype
    exact h (htype ▸ List.mem_map_of_mem hf)
  simp [ofTagged?, ofTag, field?, field?_eq_none h, hrest]

lemma bind_ofTagged?_ofTag {β : Type} {k : String × Content → Option β}
    (h : "type" ∉ fields.map Prod.fst) :
    (ofTagged? (ofTag tag fields) >>= k) = k (tag, .named fields) := by
  rw [ofTagged?_ofTag h]
  rfl

@[simp] lemma fits_named (count : Nat) : (named fields).fits count = true := rfl

@[simp] lemma find_named (index : Nat) : (named fields).find index [name] = some (field? name fields) := by
  simp only [find, List.filterMap_cons, List.filterMap_nil]
  cases field? name fields <;> rfl

@[simp] lemma required_named (index : Nat) : (named fields).required index name = field? name fields := by
  simp [required]

section

variable {α β : Type} {index : Nat} {j : Json} {read : Json → Option α} {a : α}

lemma read_required {k : α → Option β} (h : field? name fields = some j) (hread : read j = some a) :
    (((named fields).required index name).bind fun j => (read j).bind k) = k a := by
  rw [required_named, h, Option.bind_some, hread, Option.bind_some]

lemma flag_named {b : Bool} (h : field? name fields = some (.bool b)) :
    (named fields).flag index name = some b := by
  simp [flag, h]

lemma optional_named {write : α → String} (a : Option α)
    (h : field? name fields = a.map fun a => .str (write a))
    (hread : ∀ a, read (.str (write a)) = some a) :
    (named fields).optional index name read = some a := by
  cases a with
  | none => simp [optional, h]
  | some a => simp [optional, h, hread]

end

end Content

lemma PairName.ofTag?_tag (n : PairName) : ofTag? n.tag = some n := by cases n <;> rfl

lemma PairDirection.ofTag?_tag (d : PairDirection) : ofTag? d.tag = some d := by cases d <;> rfl

lemma LineNumberKind.ofTag?_tag (k : LineNumberKind) : ofTag? k.tag = some k := by cases k <;> rfl

lemma DelimiterInclusion.ofTag?_tag (i : DelimiterInclusion) : ofTag? i.tag = some i := by
  cases i <;> rfl

lemma Direction.ofTag?_tag (d : Direction) : ofTag? d.tag = some d := by cases d <;> rfl

lemma PositionKind.ofTag?_tag (k : PositionKind) : ofTag? k.tag = some k := by cases k <;> rfl

lemma PieceType.ofTag?_tag (t : PieceType) : ofTag? t.tag = some t := by cases t <;> rfl

lemma RangeType.ofTag?_tag (t : RangeType) : ofTag? t.tag = some t := by cases t <;> rfl

end Referent
