import Referent.Proofs.Descriptor.Fields

namespace Referent

open Json

variable {fields : List (String × Json)}

structure RoundTrip {α : Type} (InRange : α → Prop) (write : α → Json) (read : Json → Option α) :
    Prop where
  read_write : ∀ a, InRange a → read (write a) = some a
  /-- Every form that is accepted gives a value that is read back from what is written for it. -/
  reread : ∀ j a, read j = some a → read (write a) = some a
  /-- What is written after reading stays the same from then on. -/
  rewrite : ∀ j k, (read j).map write = some k → (read k).map write = some k

lemma RoundTrip.of_inRange {α : Type} {InRange : α → Prop} {write : α → Json}
    {read : Json → Option α} (read_write : ∀ a, InRange a → read (write a) = some a)
    (inRange : ∀ j a, read j = some a → InRange a) : RoundTrip InRange write read := by
  have reread (j : Json) (a : α) (h : read j = some a) : read (write a) = some a :=
    read_write a (inRange j a h)
  refine ⟨read_write, reread, fun j k h => ?_⟩
  obtain ⟨a, ha, rfl⟩ := Option.map_eq_some_iff.mp h
  rw [reread j a ha, Option.map_some]

namespace ScopeType

lemma toJsonList_eq_map (l : List ScopeType) : toJsonList l = l.map toJson := by
  induction l with
  | nil => rfl
  | cons s rest ih => rw [toJsonList, ih, List.map_cons]

@[simp] lemma mem_optionalField {α : Type} {name : String} {tag : α → String} {a : Option α}
    {f : String × Json} :
    f ∈ optionalField name tag a ↔ f.1 = name ∧ some f.2 = a.map fun b => str (tag b) := by
  cases a <;> simp [optionalField, Prod.ext_iff]

lemma readNested_toJson {fuel : Nat} {s : ScopeType} (h : s.toJson.depth ≤ fuel) :
    readNested fuel s.toJson = some s := by
  induction fuel generalizing s with
  | zero => exact absurd h (Nat.not_le.mpr (depth_pos _))
  | succ fuel ih =>
    rw [readNested]
    cases s with
    | syntactic kind =>
      rw [toJson, Content.bind_ofTagged?_ofTag (by simp)]
      cases kind <;> rfl
    | textual kind =>
      rw [toJson, Content.bind_ofTagged?_ofTag (by simp)]
      cases kind <;> rfl
    | surroundingPair delimiter direction isStrong =>
      rw [toJson, Content.bind_ofTagged?_ofTag (by simp)]
      simp only [Option.bind_eq_bind, Option.bind_some, Content.fits_named, guard_true,
        Option.pure_def]
      rw [Content.read_required (by cases direction <;> rfl)
          (choice?_str (PairName.ofTag?_tag delimiter)),
        Content.optional_named direction (by cases direction <;> rfl) PairDirection.ofTag?_tag,
        Option.bind_some, Content.flag_named (by cases direction <;> rfl)]
      rfl
    | customRegex pattern =>
      rw [toJson, Content.bind_ofTagged?_ofTag (by simp)]
      rfl
    | oneOf scopeTypes =>
      have hall : (toJsonList scopeTypes).mapM (readNested fuel) = some scopeTypes := by
        rw [toJsonList_eq_map]
        refine mapM_map fun s hs => ih ?_
        have hlt : s.toJson.depth < (toJson (oneOf scopeTypes)).depth := by
          rw [toJson]
          apply depth_lt_ofTag_items List.mem_cons_self
          rw [toJsonList_eq_map]
          exact List.mem_map_of_mem hs
        omega
      rw [toJson, Content.bind_ofTagged?_ofTag (by simp)]
      simp [field?, hall]

lemma ofJson?_toJson (s : ScopeType) : ofJson? s.toJson = some s :=
  readNested_toJson (Nat.le_refl _)

end ScopeType

def LineNumber.InRange (n : LineNumber) : Prop := IsInteger n.number

lemma LineNumber.ofJson?_toJson {n : LineNumber} (h : n.InRange) : ofJson? n.toJson = some n := by
  rw [ofJson?, toJson, ofTag, Content.ofStructure?]
  simp only [Option.bind_eq_bind, Option.bind_some, Content.fits_named, guard_true, Option.pure_def]
  rw [Content.read_required rfl (choice?_str (LineNumberKind.ofTag?_tag n.kind)),
    Content.read_required rfl (integer?_int h)]

lemma LineNumber.inRange_of_ofJson? {j : Json} {n : LineNumber} (h : ofJson? j = some n) :
    n.InRange := by
  simp only [ofJson?, Option.bind_eq_bind, Option.bind_eq_some_iff, Option.pure_def,
    Option.some.injEq] at h
  obtain ⟨_, -, _, -, _, -, _, -, _, -, _, hnumber, rfl⟩ := h
  exact isInteger_of_integer? hnumber

namespace Mark

def InRange : Mark → Prop
  | lineNumber anchor active => anchor.InRange ∧ active.InRange
  | _ => True

lemma ofJson?_toJson {m : Mark} (h : m.InRange) : ofJson? m.toJson = some m := by
  rw [ofJson?]
  cases m with
  | lineNumber anchor active =>
    rw [toJson, Content.bind_ofTagged?_ofTag (by simp)]
    simp only [Option.bind_eq_bind, Option.bind_some, Content.fits_named, guard_true,
      Option.pure_def]
    rw [Content.read_required rfl (LineNumber.ofJson?_toJson h.1),
      Content.read_required rfl (LineNumber.ofJson?_toJson h.2)]
  | _ => rfl

lemma inRange_of_ofJson? {j : Json} {m : Mark} (h : ofJson? j = some m) : m.InRange := by
  rw [ofJson?] at h
  obtain ⟨⟨tag, c⟩, -, h⟩ := Option.bind_eq_some_iff.mp h
  dsimp only at h
  split at h
  · simp only [Option.bind_eq_bind, Option.bind_eq_some_iff, Option.pure_def,
      Option.some.injEq] at h
    obtain ⟨_, -, _, -, _, -, _, -, _, -, _, -, rfl⟩ := h
    trivial
  · simp only [Option.bind_eq_bind, Option.bind_eq_some_iff, Option.pure_def,
      Option.some.injEq] at h
    obtain ⟨_, -, _, -, anchor, hanchor, _, -, active, hactive, rfl⟩ := h
    exact ⟨LineNumber.inRange_of_ofJson? hanchor, LineNumber.inRange_of_ofJson? hactive⟩
  · obtain ⟨-, -, h⟩ := Option.bind_eq_some_iff.mp h
    split at h <;> cases h <;> trivial

end Mark

namespace Modifier

mutual

def InRange : Modifier → Prop
  | ordinalScope _ start length _ => IsInteger start ∧ IsNatural length
  | relativeScope _ offset length _ _ => IsNatural offset ∧ IsNatural length
  | head modifiers => AllInRange modifiers
  | tail modifiers => AllInRange modifiers
  | subpiece _ anchor active _ _ => IsInteger anchor ∧ IsInteger active
  | modifyIfUntyped modifier => InRange modifier
  | modifyIfWeak modifier => InRange modifier
  | cascading modifiers => AllInRange modifiers
  | range anchor active _ _ => InRange anchor ∧ InRange active
  | _ => True

def AllInRange : List Modifier → Prop
  | [] => True
  | m :: rest => InRange m ∧ AllInRange rest

end

lemma allInRange_iff {l : List Modifier} : AllInRange l ↔ ∀ m ∈ l, m.InRange := by
  induction l with
  | nil => simp [AllInRange]
  | cons m rest ih => simp [AllInRange, ih]

lemma toJsonList_eq_map (l : List Modifier) : toJsonList l = l.map toJson := by
  induction l with
  | nil => rfl
  | cons m rest ih => rw [toJsonList, ih, List.map_cons]

lemma scopeField_named {s : ScopeType} (h : field? "scopeType" fields = some s.toJson) :
    scopeField (.named fields) = some s := by
  simp [scopeField, h, ScopeType.ofJson?_toJson]

lemma listField_named {name : String} {read : Json → Option Modifier} {l : List Modifier}
    {index : Nat} (h : field? name fields = some (.arr (toJsonList l)))
    (hread : ∀ m ∈ l, read m.toJson = some m) :
    listField read (.named fields) index name = some l := by
  simp [listField, h, toJsonList_eq_map, mapM_map hread]

lemma forall_mem_of_listField {P : Modifier → Prop} {read : Json → Option Modifier} {c : Content}
    {index : Nat} {name : String} {l : List Modifier} (h : listField read c index name = some l)
    (hread : ∀ j m, read j = some m → P m) : ∀ m ∈ l, P m := by
  rw [listField] at h
  split at h
  · cases h
    simp
  · exact forall_mem_of_mapM h hread
  · cases h

lemma readNested_toJson {fuel : Nat} {m : Modifier} (hm : m.InRange) (h : m.toJson.depth ≤ fuel) :
    readNested fuel m.toJson = some m := by
  induction fuel generalizing m with
  | zero => exact absurd h (Nat.not_le.mpr (depth_pos _))
  | succ fuel ih =>
    have hlist {l : List Modifier} {name tag : String} {fields : List (String × Json)}
        (hl : AllInRange l) (hfield : (name, arr (toJsonList l)) ∈ fields)
        (hdepth : (ofTag tag fields).depth ≤ fuel + 1) :
        ∀ n ∈ l, readNested fuel n.toJson = some n := by
      intro n hn
      have hmem : n.toJson ∈ toJsonList l := by
        rw [toJsonList_eq_map]
        exact List.mem_map_of_mem hn
      have hlt : n.toJson.depth < (ofTag tag fields).depth := depth_lt_ofTag_items hfield hmem
      exact ih (allInRange_iff.mp hl n hn) (by omega)
    have hone {n : Modifier} {name tag : String} {fields : List (String × Json)}
        (hn : n.InRange) (hfield : (name, n.toJson) ∈ fields)
        (hdepth : (ofTag tag fields).depth ≤ fuel + 1) : readNested fuel n.toJson = some n := by
      have hlt : n.toJson.depth < (ofTag tag fields).depth := depth_lt_ofTag hfield
      exact ih hn (by omega)
    rw [readNested]
    cases m <;> rw [toJson, Content.bind_ofTagged?_ofTag (by simp)] <;>
      simp only [Option.bind_eq_bind, Option.bind_some, Content.fits_named, guard_true,
        Option.pure_def]
    case position kind =>
      rw [Content.read_required rfl (choice?_str (PositionKind.ofTag?_tag kind))]
    case containingScope | everyScope | preferredScope | contiguousScope =>
      rw [scopeField_named rfl, Option.bind_some]
    case ordinalScope =>
      rw [scopeField_named rfl, Option.bind_some, Content.read_required rfl (integer?_int hm.1),
        Content.read_required rfl (natural?_int hm.2), Content.flag_named rfl, Option.bind_some]
    case relativeScope direction _ =>
      rw [scopeField_named rfl, Option.bind_some, Content.read_required rfl (natural?_int hm.1),
        Content.read_required rfl (natural?_int hm.2),
        Content.read_required rfl (choice?_str (Direction.ofTag?_tag direction)),
        Content.flag_named rfl, Option.bind_some]
    case surroundingPair delimiter inclusion forceDirection =>
      rw [Content.read_required (by cases inclusion <;> cases forceDirection <;> rfl)
          (choice?_str (PairName.ofTag?_tag delimiter)),
        Content.optional_named inclusion (by cases inclusion <;> cases forceDirection <;> rfl)
          DelimiterInclusion.ofTag?_tag,
        Option.bind_some,
        Content.optional_named forceDirection
          (by cases inclusion <;> cases forceDirection <;> rfl) PairDirection.ofTag?_tag,
        Option.bind_some]
    case head | tail =>
      rw [listField_named rfl (hlist hm List.mem_cons_self h), Option.bind_some]
    case subpiece pieceType _ _ _ _ =>
      rw [Content.read_required rfl (choice?_str (PieceType.ofTag?_tag pieceType)),
        Content.read_required rfl (integer?_int hm.1), Content.read_required rfl (integer?_int hm.2),
        Content.flag_named rfl, Option.bind_some, Content.flag_named rfl, Option.bind_some]
    case modifyIfUntyped modifier | modifyIfWeak modifier =>
      have hmodifier : modifier.InRange := hm
      rw [Content.read_required rfl (hone hmodifier List.mem_cons_self h)]
    case cascading modifiers =>
      have hmodifiers := hlist hm List.mem_cons_self h
      simp [field?, toJsonList_eq_map, mapM_map hmodifiers]
    case range =>
      rw [Content.read_required rfl (hone hm.1 List.mem_cons_self h),
        Content.read_required rfl (hone hm.2 (List.mem_cons_of_mem _ List.mem_cons_self) h),
        Content.flag_named rfl, Option.bind_some, Content.flag_named rfl, Option.bind_some]
    all_goals rfl

lemma inRange_of_readNested {fuel : Nat} {j : Json} {m : Modifier}
    (h : readNested fuel j = some m) : m.InRange := by
  induction fuel generalizing j m with
  | zero => cases h
  | succ fuel ih =>
    rw [readNested] at h
    obtain ⟨⟨tag, c⟩, -, h⟩ := Option.bind_eq_some_iff.mp h
    dsimp only at h
    -- One case for each tag, in the order of the reader.
    split at h <;>
      simp only [Option.bind_eq_bind, Option.bind_eq_some_iff, Option.pure_def,
        Option.some.injEq] at h
    case h_1 =>
      obtain ⟨_, -, _, -, _, -, rfl⟩ := h
      trivial
    case h_2 | h_3 | h_4 | h_5 =>
      obtain ⟨_, -, _, -, rfl⟩ := h
      trivial
    case h_6 =>
      obtain ⟨_, -, _, -, _, -, _, hstart, _, -, _, hlength, _, -, rfl⟩ := h
      exact ⟨isInteger_of_integer? hstart, isNatural_of_natural? hlength⟩
    case h_7 =>
      obtain ⟨_, -, _, -, _, -, _, hoffset, _, -, _, hlength, _, -, _, -, _, -, rfl⟩ := h
      exact ⟨isNatural_of_natural? hoffset, isNatural_of_natural? hlength⟩
    case h_8 =>
      obtain ⟨_, -, _, -, _, -, _, -, _, -, rfl⟩ := h
      trivial
    case h_9 | h_10 | h_11 | h_12 =>
      obtain ⟨_, -, _, hmodifiers, rfl⟩ := h
      exact allInRange_iff.mpr (forall_mem_of_listField hmodifiers @ih)
    case h_13 =>
      obtain ⟨_, -, _, -, _, -, _, -, _, hanchor, _, -, _, hactive, _, -, _, -, rfl⟩ := h
      exact ⟨isInteger_of_integer? hanchor, isInteger_of_integer? hactive⟩
    case h_14 | h_15 =>
      obtain ⟨_, -, _, -, _, hmodifier, rfl⟩ := h
      rw [InRange]
      exact ih hmodifier
    case h_16 =>
      obtain ⟨_, -, _, -, h⟩ := h
      split at h
      · obtain ⟨_, hmodifiers, h⟩ := Option.bind_eq_some_iff.mp h
        cases h
        exact allInRange_iff.mpr (forall_mem_of_mapM hmodifiers @ih)
      · cases h
    case h_17 =>
      obtain ⟨_, -, _, -, _, hanchor, _, -, _, hactive, _, -, _, -, rfl⟩ := h
      exact ⟨ih hanchor, ih hactive⟩
    case h_18 =>
      obtain ⟨_, -, h⟩ := h
      split at h <;> cases h <;> trivial

lemma ofJson?_toJson {m : Modifier} (hm : m.InRange) : ofJson? m.toJson = some m :=
  readNested_toJson hm (Nat.le_refl _)

end Modifier

namespace PrimitiveDescriptor

def InRange (d : PrimitiveDescriptor) : Prop := d.mark.InRange ∧ ∀ m ∈ d.modifiers, m.InRange

lemma ofContent?_fields {d : PrimitiveDescriptor} (h : d.InRange) :
    ofContent? (.named d.fields) = some d := by
  simp only [ofContent?, Option.bind_eq_bind, Content.fits_named, guard_true, Option.pure_def,
    Option.bind_some, Content.find_named]
  rw [Modifier.listField_named rfl fun m hm => Modifier.ofJson?_toJson (h.2 m hm)]
  simp [fields, field?, Mark.ofJson?_toJson h.1]

lemma inRange_of_ofContent? {c : Content} {d : PrimitiveDescriptor} (h : ofContent? c = some d) :
    d.InRange := by
  have hmodifiers {l : List Modifier}
      (hl : Modifier.listField Modifier.ofJson? c 1 "modifiers" = some l) : ∀ m ∈ l, m.InRange :=
    Modifier.forall_mem_of_listField hl fun _ _ => Modifier.inRange_of_readNested
  simp only [ofContent?, Option.bind_eq_bind, Option.bind_eq_some_iff] at h
  obtain ⟨_, -, j, -, h⟩ := h
  cases j with
  | none =>
    obtain ⟨mark, hmark, h⟩ := Option.bind_eq_some_iff.mp h
    obtain ⟨l, hl, h⟩ := Option.bind_eq_some_iff.mp h
    cases hmark
    cases h
    exact ⟨trivial, hmodifiers hl⟩
  | some j =>
    obtain ⟨mark, hmark, h⟩ := Option.bind_eq_some_iff.mp h
    obtain ⟨l, hl, h⟩ := Option.bind_eq_some_iff.mp h
    cases h
    exact ⟨Mark.inRange_of_ofJson? hmark, hmodifiers hl⟩

lemma ofJson?_fields {d : PrimitiveDescriptor} (h : d.InRange) :
    ofJson? (.obj d.fields) = some d :=
  ofContent?_fields h

lemma inRange_of_ofJson? {j : Json} {d : PrimitiveDescriptor} (h : ofJson? j = some d) :
    d.InRange := by
  obtain ⟨c, -, hc⟩ := Option.bind_eq_some_iff.mp h
  exact inRange_of_ofContent? hc

end PrimitiveDescriptor

namespace RangeDescriptor

def InRange (d : RangeDescriptor) : Prop := d.anchor.InRange ∧ d.active.InRange

lemma inRange_of_ofContent? {c : Content} {d : RangeDescriptor} (h : ofContent? c = some d) :
    d.InRange := by
  simp only [ofContent?, Option.bind_eq_bind, Option.bind_eq_some_iff] at h
  obtain ⟨_, -, _, -, anchor, hanchor, _, -, active, hactive, _, -, _, -, rangeType, -, h⟩ := h
  have hends : d.anchor = anchor ∧ d.active = active := by
    cases rangeType with
    | none =>
      cases h
      exact ⟨rfl, rfl⟩
    | some j =>
      obtain ⟨_, -, h⟩ := Option.bind_eq_some_iff.mp h
      cases h
      exact ⟨rfl, rfl⟩
  rw [InRange, hends.1, hends.2]
  exact ⟨PrimitiveDescriptor.inRange_of_ofJson? hanchor,
    PrimitiveDescriptor.inRange_of_ofJson? hactive⟩

end RangeDescriptor

namespace TargetDescriptor

mutual

def InRange : TargetDescriptor → Prop
  | primitive d => d.InRange
  | range d => d.InRange
  | list elements => AllInRange elements

def AllInRange : List TargetDescriptor → Prop
  | [] => True
  | d :: rest => InRange d ∧ AllInRange rest

end

lemma allInRange_iff {l : List TargetDescriptor} : AllInRange l ↔ ∀ d ∈ l, d.InRange := by
  induction l with
  | nil => simp [AllInRange]
  | cons d rest ih => simp [AllInRange, ih]

lemma toJsonList_eq_map (l : List TargetDescriptor) : toJsonList l = l.map toJson := by
  induction l with
  | nil => rfl
  | cons d rest ih => rw [toJsonList, ih, List.map_cons]

lemma readNested_toJson {fuel : Nat} {d : TargetDescriptor} (hd : d.InRange)
    (h : d.toJson.depth ≤ fuel) : readNested fuel d.toJson = some d := by
  induction fuel generalizing d with
  | zero => exact absurd h (Nat.not_le.mpr (depth_pos _))
  | succ fuel ih =>
    rw [readNested]
    cases d with
    | primitive d =>
      have hread := PrimitiveDescriptor.ofContent?_fields (d := d) hd
      rw [toJson, Content.bind_ofTagged?_ofTag (by simp [PrimitiveDescriptor.fields])]
      simp only [Option.bind_eq_bind, Option.bind_some, Option.pure_def, hread]
    | range d =>
      rw [toJson, Content.bind_ofTagged?_ofTag (by simp)]
      simp only [Option.bind_eq_bind, Option.bind_some, RangeDescriptor.ofContent?,
        Content.fits_named, guard_true, Option.pure_def]
      rw [Content.read_required rfl (PrimitiveDescriptor.ofJson?_fields hd.1),
        Content.read_required rfl (PrimitiveDescriptor.ofJson?_fields hd.2),
        Content.flag_named rfl, Option.bind_some, Content.flag_named rfl, Option.bind_some,
        Content.find_named]
      simp [field?, choice?_str (RangeType.ofTag?_tag d.rangeType)]
    | list elements =>
      have hall : (toJsonList elements).mapM (readNested fuel) = some elements := by
        rw [toJsonList_eq_map]
        refine mapM_map fun d hmem => ih (allInRange_iff.mp hd d hmem) ?_
        have hlt : d.toJson.depth < (toJson (list elements)).depth := by
          rw [toJson]
          apply depth_lt_ofTag_items List.mem_cons_self
          rw [toJsonList_eq_map]
          exact List.mem_map_of_mem hmem
        omega
      rw [toJson, Content.bind_ofTagged?_ofTag (by simp)]
      simp [field?, hall]

lemma inRange_of_readNested {fuel : Nat} {j : Json} {d : TargetDescriptor}
    (h : readNested fuel j = some d) : d.InRange := by
  induction fuel generalizing j d with
  | zero => cases h
  | succ fuel ih =>
    rw [readNested] at h
    obtain ⟨⟨tag, c⟩, -, h⟩ := Option.bind_eq_some_iff.mp h
    dsimp only at h
    split at h
    · obtain ⟨_, hprimitive, h⟩ := Option.bind_eq_some_iff.mp h
      cases h
      exact PrimitiveDescriptor.inRange_of_ofContent? hprimitive
    · obtain ⟨_, hrange, h⟩ := Option.bind_eq_some_iff.mp h
      cases h
      exact RangeDescriptor.inRange_of_ofContent? hrange
    · simp only [Option.bind_eq_bind, Option.bind_eq_some_iff] at h
      obtain ⟨_, -, _, -, h⟩ := h
      split at h
      · obtain ⟨_, helements, h⟩ := Option.bind_eq_some_iff.mp h
        cases h
        exact allInRange_iff.mpr (forall_mem_of_mapM helements @ih)
      · cases h
    · cases h

/-- Descriptions and their parts are read back from what is written for them, however deep they are
nested. So are those that were read from a form with other names, or with fields left out or added. -/
theorem read_written :
    RoundTrip (fun _ => True) ScopeType.toJson ScopeType.ofJson? ∧
      RoundTrip Mark.InRange Mark.toJson Mark.ofJson? ∧
      RoundTrip Modifier.InRange Modifier.toJson Modifier.ofJson? ∧
      RoundTrip InRange toJson ofJson? :=
  ⟨.of_inRange (fun s _ => ScopeType.ofJson?_toJson s) fun _ _ _ => trivial,
    .of_inRange (fun _ => Mark.ofJson?_toJson) fun _ _ => Mark.inRange_of_ofJson?,
    .of_inRange (fun _ => Modifier.ofJson?_toJson) fun _ _ => Modifier.inRange_of_readNested,
    .of_inRange (fun _ hd => readNested_toJson hd (Nat.le_refl _)) fun _ _ => inRange_of_readNested⟩

example : (Modifier.ofJson? (ofTag "head" [("by", null)])).map Modifier.toJson =
    some (ofTag "extendThroughStartOf" [("modifiers", arr [])]) := by
  rfl

end TargetDescriptor

end Referent
