import Referent.Proofs.Resolve.Every
import Referent.Proofs.Scope.Kinds
import Referent.Proofs.Scope.Series
import Referent.Proofs.Target.Core
import Referent.Proofs.Target.Exclusion

namespace Referent

namespace Target

section Slice

variable {α : Type} {l : List α}

def firstIndex (count : Nat) (start : Int) : Int := if 0 ≤ start then start else count + start

def InRange (count : Nat) (start : Int) (length : Nat) : Prop :=
  1 ≤ length ∧ 0 ≤ firstIndex count start ∧ firstIndex count start + length ≤ count

instance (count : Nat) (start : Int) (length : Nat) : Decidable (InRange count start length) :=
  inferInstanceAs (Decidable (_ ∧ _ ∧ _))

lemma sliceFrom?_eq (l : List α) (start : Int) (length : Nat) : sliceFrom? l start length =
    if InRange l.length start length then
      some ((l.drop (firstIndex l.length start).toNat).take length)
    else none := by
  have hfirst : (if start < 0 then (l.length : Int) + start else start) =
      firstIndex l.length start := by
    rw [firstIndex]
    split
    · rw [if_neg (by omega)]
    · rw [if_pos (by omega)]
  rw [sliceFrom?, hfirst]
  exact if_congr (by rw [InRange]; omega) rfl rfl

def sliceWords? (l : List α) (start : Int64) (length : UInt64) : Option (List α) :=
  let first := if start < 0 then Int64.ofNat l.length + start else start
  if first < 0 then none
  else
    let stop := first.toUInt64 + length
    if stop < first.toUInt64 then none
    else if stop.toNat ≤ l.length ∧ first.toUInt64 < stop then
      some ((l.drop first.toUInt64.toNat).take length.toNat)
    else none

lemma toInt_firstWord (h : l.length < 2 ^ 63) (start : Int64) :
    (if start < 0 then Int64.ofNat l.length + start else start).toInt =
      firstIndex l.length start.toInt := by
  have hneg : start < 0 ↔ start.toInt < 0 := Int64.lt_iff_toInt_lt
  have hstart := start.le_toInt
  rw [firstIndex]
  by_cases hlt : start.toInt < 0
  · rw [if_pos (hneg.mpr hlt), if_neg (by omega), Int64.toInt_add, Int64.toInt_ofNat_of_lt h,
      Int.bmod_eq_of_le (by omega) (by omega)]
  · rw [if_neg (fun h => hlt (hneg.mp h)), if_pos (by omega)]

lemma sliceWords?_eq (h : l.length < 2 ^ 63) (start : Int64) (length : UInt64) :
    sliceWords? l start length = sliceFrom? l start.toInt length.toNat := by
  have hfirst := toInt_firstWord h start
  rw [sliceFrom?_eq, sliceWords?]
  dsimp only
  generalize (if start < 0 then Int64.ofNat l.length + start else start) = first at hfirst ⊢
  have hrange : InRange l.length start.toInt length.toNat ↔
      1 ≤ length.toNat ∧ 0 ≤ first.toInt ∧ first.toInt + length.toNat ≤ l.length := by
    rw [InRange, hfirst]
  rw [← hfirst]
  by_cases hneg : first < 0
  · have hlt : first.toInt < 0 := Int64.lt_iff_toInt_lt.mp hneg
    rw [if_pos hneg, if_neg (hrange.not.mpr (by omega))]
  · have hle : 0 ≤ first.toInt := Int.not_lt.mp fun hlt => hneg (Int64.lt_iff_toInt_lt.mpr hlt)
    have hword : first.toUInt64.toNat = first.toInt.toNat :=
      Int64.toNat_toUInt64_of_le (Int64.le_iff_toInt_le.mpr hle)
    have hstop := UInt64.toNat_add first.toUInt64 length
    have hlength := length.toNat_lt
    simp only [if_neg hneg, UInt64.lt_iff_toNat_lt, hstop, hword]
    by_cases hover : 2 ^ 64 ≤ first.toInt.toNat + length.toNat
    · rw [if_pos (by omega), if_neg (hrange.not.mpr (by omega))]
    · rw [Nat.mod_eq_of_lt (by omega), if_neg (by omega)]
      exact if_congr (by rw [hrange]; omega) rfl rfl

lemma getElem?_slice {first length : Nat} (hpos : 1 ≤ length) (h : first + length ≤ l.length) :
    ((l.drop first).take length).head? = l[first]? ∧
      ((l.drop first).take length).getLast? = l[first + length - 1]? := by
  have hlast : first + (length - 1) = first + length - 1 := by omega
  have hlt : first + length - 1 < l.length := by omega
  rw [List.head?_take, if_neg (by omega), List.head?_drop, List.getLast?_take, if_neg (by omega),
    List.getElem?_drop, hlast, List.getElem?_eq_getElem hlt]
  exact ⟨rfl, rfl⟩

end Slice

end Target

namespace Scope

structure Aligned (d : Document) (a b : Scope) : Prop where
  document : a.document = d
  lines : a.target.kind = .line → b.target.kind = .line →
    d.fullLines a.target.content.start.line b.target.content.stop.line =
      .between a.target.content.start b.target.content.stop ∧
    a.target.content.start ≤ b.target.content.stop
  all : a.target.kind = .document → b.target.kind = .document →
    .between a.target.content.start b.target.content.stop = d.range
  paragraphs : a.target.kind = .paragraph → b.target.kind = .paragraph → a.domain ≠ b.domain

end Scope

namespace Target

variable {cx : Context} {s : ScopeType} {t : Target} {d : Document} {a b : Scope}

def reach (first last : Target) : Range :=
  let r := Range.between first.content.start last.content.stop
  if first.kind = .paragraph ∧ last.kind = .paragraph then
    first.document.fullLines r.start.line r.stop.line
  else r

lemma eq_of_scope_beq (h : (a == b) = true) :
    a.domain = b.domain ∧ a.target.kind = b.target.kind ∧ a.target.content = b.target.content := by
  have hboth : (a.domain == b.domain && a.target == b.target) = true := h
  simp only [Bool.and_eq_true, beq_def, beq_iff_eq] at hboth
  tauto

lemma extent_true (s t : Target) : s.extent t true =
    if s.kind = .line ∧ t.kind = .line ∨ s.kind = .paragraph ∧ t.kind = .paragraph then .lines
    else if s.kind = .document ∧ t.kind = .document then .all
    else .text := by
  by_cases hkind : s.kind = t.kind
  · simp only [extent, hkind, and_self]
    cases t.kind with
    | _ => rfl
  · have hne (k : TargetKind) : ¬(s.kind = k ∧ t.kind = k) := fun h => hkind (h.1.trans h.2.symm)
    simp only [extent, hkind, hne, and_false, or_self, if_false]

lemma content_ofScopes (h : a.Aligned d b) (isReversed : Bool) :
    (ofScopes a b isReversed).content = reach a.target b.target := by
  rw [ofScopes]
  split
  · next heq =>
    obtain ⟨hdomain, hkind, hcontent⟩ := eq_of_scope_beq heq
    -- Nothing is joined if the two are the same, and two of the paragraphs never are.
    rw [reach, if_neg fun hboth => h.paragraphs hboth.1 hboth.2 hdomain, ← hcontent,
      Range.between_of_le a.target.content.start_le_stop]
    rfl
  · rw [content_continuous, Bool.and_true, extent_true]
    show Extent.widen a.document (.between a.target.content.start b.target.content.stop)
      (if a.target.kind = .line ∧ b.target.kind = .line ∨
          a.target.kind = .paragraph ∧ b.target.kind = .paragraph then .lines
        else if a.target.kind = .document ∧ b.target.kind = .document then .all
        else .text) = if a.target.kind = .paragraph ∧ b.target.kind = .paragraph then
          a.document.fullLines _ _ else _
    rw [h.document]
    by_cases hparagraphs : a.target.kind = .paragraph ∧ b.target.kind = .paragraph
    · rw [if_pos (.inr hparagraphs), if_pos hparagraphs]
      rfl
    · rw [if_neg hparagraphs]
      by_cases hlines : a.target.kind = .line ∧ b.target.kind = .line
      · obtain ⟨hfull, hle⟩ := h.lines hlines.1 hlines.2
        rw [if_pos (.inl hlines), Extent.widen, Range.start_between hle, Range.stop_between hle, hfull]
      · rw [if_neg fun hboth => hboth.elim hlines hparagraphs]
        split
        · next hall => exact (h.all hall.1 hall.2).symm
        · rfl

lemma pick_ends {scopes : List Scope} {first last : Scope} (hfirst : scopes.head? = some first)
    (hlast : scopes.getLast? = some last) (isReversed : Bool) :
    pick scopes false isReversed =
      [if scopes.length = 1 then first.oriented isReversed else ofScopes first last isReversed] := by
  match scopes with
  | [s] =>
    cases hfirst
    rfl
  | s :: second :: rest =>
    cases hfirst
    rw [List.getLast?_cons_cons, List.getLast?_cons] at hlast
    rw [if_neg (by simp), pick, if_neg Bool.false_ne_true, List.getLastD_cons,
      List.getLastD_eq_getLast?, Option.some.inj hlast]

lemma pick_false {scopes : List Scope} (h : scopes.Pairwise (Scope.Aligned d)) (hne : scopes ≠ [])
    (isReversed : Bool) : ∃ first last u, scopes.head? = some first ∧ scopes.getLast? = some last ∧
      pick scopes false isReversed = [u] ∧
      (scopes.length = 1 → u = first.oriented isReversed) ∧
      (1 < scopes.length → u.content = reach first.target last.target) := by
  obtain ⟨first, rest, rfl⟩ := List.exists_cons_of_ne_nil hne
  have hlast := List.getLast?_eq_some_getLast hne
  refine ⟨first, _, _, rfl, hlast, pick_ends rfl hlast isReversed, fun hone => if_pos hone, fun hmore => ?_⟩
  have hrest : rest ≠ [] := List.length_pos_iff.mp (Nat.lt_of_succ_lt_succ hmore)
  rw [if_neg (Nat.ne_of_gt hmore)]
  refine content_ofScopes ((List.pairwise_cons.mp h).1 _ ?_) isReversed
  rw [List.getLast_cons hrest]
  exact List.getLast_mem hrest

end Target

section Aligned

variable {cx : Context} {e : Editor} {f : ScopeFinder} {r : Range} {l found : List Scope}

lemma Scope.aligned_lines {i j : Nat} (hi : i < e.document.lineCount) (hj : j < e.document.lineCount)
    (hle : (lineScope e i).domain.start ≤ (lineScope e j).domain.start) :
    e.document.fullLines (lineScope e i).target.content.start.line
        (lineScope e j).target.content.stop.line =
      .between (lineScope e i).target.content.start (lineScope e j).target.content.stop ∧
    (lineScope e i).target.content.start ≤ (lineScope e j).target.content.stop := by
  have hcontent {line : Nat} (h : line < e.document.lineCount) :
      (lineScope e line).target.content = .onLine line 0 (e.document.lineLength line) :=
    (content_lineScope h).trans (domain_lineScope h)
  have hle : (lineScope e i).target.content.start ≤ (lineScope e j).target.content.stop := by
    rw [content_lineScope hi, content_lineScope hj]
    exact Position.le_trans hle (lineScope e j).domain.start_le_stop
  refine ⟨?_, hle⟩
  rw [hcontent hi, hcontent hj, Range.start_onLine (Nat.zero_le _), Range.stop_onLine (Nat.zero_le _)]
  rfl

lemma ScopeFinder.aligned_candidates (hfound : f.candidates cx e r = .ok found) :
    found.Pairwise (Scope.Aligned e.document) := by
  have hmade : ∀ s ∈ found, s.target.Made False e :=
    made_candidates (fun h => h.elim) r f found hfound
  have hordered := List.pairwise_map.mp (ordered_candidates cx e r f found hfound)
  have hdistinct : found.Pairwise fun a b => a.target.kind = .paragraph → a.domain ≠ b.domain := by
    by_cases hparagraph : ∃ s ∈ found, s.target.kind = .paragraph
    · obtain ⟨s, hs, hkind⟩ := hparagraph
      have hdomains := distinct_of_kind_paragraph hfound hs hkind
      refine hdomains.imp ?_
      exact fun {a b} hne _ => hne
    · exact List.pairwise_of_forall_mem_list fun a ha _ _ hkind => absurd ⟨a, ha, hkind⟩ hparagraph
  refine (hordered.and hdistinct).imp_of_mem fun {a b} ha hb h => ?_
  refine ⟨congrArg Editor.document (hmade a ha).editor_eq, fun hka hkb => ?_, fun hka hkb => ?_,
    fun hka _ => h.2 hka⟩
  · obtain ⟨i, hi, rfl⟩ := eq_lineScope_of_kind hfound ha hka
    obtain ⟨j, hj, rfl⟩ := eq_lineScope_of_kind hfound hb hkb
    exact Scope.aligned_lines hi hj h.1
  · rw [content_of_kind_document hfound ha hka, content_of_kind_document hfound hb hkb,
      Range.between_of_le e.document.range.start_le_stop]

lemma Scope.aligned_itemsOf (e : Editor) (c : Collection) :
    (itemsOf e c).Pairwise (Aligned e.document) := by
  refine List.pairwise_of_forall_mem_list fun a ha b hb => ?_
  have hkind {k : TargetKind} (hk : k ≠ .collectionItem) (h : a.target.kind = k) : False :=
    hk (h.symm.trans (ScopeFinder.kind_itemsOf ha))
  refine ⟨?_, fun h => (hkind (by decide) h).elim, fun h => (hkind (by decide) h).elim,
    fun h => (hkind (by decide) h).elim⟩
  obtain ⟨i, _, rfl⟩ := List.mem_map.mp ha
  rfl

end Aligned

def ScopeFinder.Yields (f : ScopeFinder) (cx : Context) (e : Editor) (l : List Scope) : Prop :=
  (∃ r found, f.candidates cx e r = .ok found ∧ l.Sublist found) ∨ ∃ c, l.Sublist (Scope.itemsOf e c)

namespace ScopeFinder

variable {cx : Context} {e : Editor} {f : ScopeFinder} {l l' : List Scope}

lemma Yields.sublist (h : f.Yields cx e l) (hl : l'.Sublist l) : f.Yields cx e l' :=
  h.imp (fun ⟨r, found, hfound, hsub⟩ => ⟨r, found, hfound, hl.trans hsub⟩)
    fun ⟨c, hsub⟩ => ⟨c, hl.trans hsub⟩

lemma Yields.aligned (h : f.Yields cx e l) : l.Pairwise (Scope.Aligned e.document) := by
  rcases h with ⟨r, found, hfound, hsub⟩ | ⟨c, hsub⟩
  · exact (aligned_candidates hfound).sublist hsub
  · exact (Scope.aligned_itemsOf e c).sublist hsub

lemma yields_scopesOverlapping (f : ScopeFinder) (r : Range) :
    Gives (f.scopesOverlapping cx e r) (f.Yields cx e) := by
  intro l hl
  obtain ⟨found, hfound, rfl⟩ := map_eq_ok.mp hl
  exact .inl ⟨r, found, hfound, List.filter_sublist⟩

lemma yields_siblings (f : ScopeFinder) (r domain : Range) :
    Gives (f.siblings cx e r domain) (f.Yields cx e) := by
  rw [siblings.eq_def]
  split
  · have hany : Gives (Collection.around cx e.document r) fun _ => True := fun _ _ => trivial
    exact hany.map fun c _ => .inr ⟨c, .refl _⟩
  · exact .ok (.inl ⟨r, _, rfl, .refl _⟩)
  · refine (yields_scopesOverlapping _ domain).map fun l hl => ?_
    dsimp only
    split
    · exact hl.sublist ((Scope.topLevel_sublist _).trans
        (List.filter_sublist.trans List.filter_sublist))
    · exact hl.sublist List.filter_sublist

end ScopeFinder

namespace Target

variable {cx : Context} {s : ScopeType} {t : Target}

lemma yields_siblingScopes (f : ScopeFinder) :
    Gives (t.siblingScopes cx f) (f.Yields cx t.editor) := by
  have hiterations : Gives (f.iterations cx t.editor t.content) fun l =>
      ∀ i ∈ l, f.Yields cx t.editor i.scopes := by
    have hany : Gives (f.domains cx t.editor t.content) fun _ => True := fun _ _ => trivial
    refine hany.bind fun domains _ => Gives.mapM fun domain _ => ?_
    exact (f.yields_siblings t.content domain).map fun l hl => hl
  refine hiterations.bind fun iterations hiterations => ?_
  dsimp only
  split
  · next scopes hscopes =>
    obtain ⟨i, hi, rfl⟩ := List.mem_map.mp (List.mem_of_find?_eq_some hscopes)
    exact .ok ((hiterations i hi).sublist List.filter_sublist)
  · exact .error

lemma yields_everyScopeOf : Gives (t.everyScopeOf cx s) fun l => ∃ f : ScopeFinder, f.Yields cx t.editor l := by
  have hany : Gives (ScopeFinder.ofTarget s t) fun _ => True := fun _ _ => trivial
  refine hany.bind fun f _ => ?_
  split
  · refine (f.yields_scopesOverlapping t.content).bind fun overlapping hoverlapping => ?_
    dsimp only
    split
    · exact (yields_siblingScopes f).mono fun l hl => ⟨f, hl⟩
    · exact .ok ⟨f, hoverlapping.sublist (List.filter_sublist.trans
        ((Scope.topLevel_sublist _).trans List.filter_sublist))⟩
  · exact (yields_siblingScopes f).mono fun l hl => ⟨f, hl⟩

lemma ordinalScope_eq {scopes : List Scope} (hscopes : t.everyScopeOf cx s = .ok scopes) (start : Int)
    (length : Nat) (isEvery : Bool) : t.ordinalScope cx s start length isEvery =
      if InRange scopes.length start length then
        .ok (pick ((scopes.drop (firstIndex scopes.length start).toNat).take length) isEvery t.isReversed)
      else .error (.outOfRange s.display) := by
  rw [ordinalScope, hscopes]
  dsimp only [bind, Except.bind]
  rw [sliceFrom?_eq]
  by_cases h : InRange scopes.length start length
  · rw [if_pos h, if_pos h]
    rfl
  · rw [if_neg h, if_neg h]
    rfl

lemma run_ordinalScope (hs : s ≠ .occurrence) {scopes : List Scope}
    (hscopes : t.everyScopeOf cx s = .ok scopes) (start : Int) (length : Nat) (isEvery : Bool)
    (a : Arena) : ((Modifier.ordinalScope s start length isEvery).run cx t).outcome a =
      (if InRange scopes.length start length then
        .ok (pick ((scopes.drop (firstIndex scopes.length start).toNat).take length) isEvery t.isReversed)
      else .error (.outOfRange s.display), a) := by
  rw [Modifier.run, if_neg hs, Resolving.outcome_lift, ordinalScope_eq hscopes]

end Target

/-- Scopes that are picked by number are a slice of all scopes at the target if they are in range, and are
missing otherwise. One by one they are those of the slice, and as one target they go from the start of the
first to the end of the last. In machine words the slice is the same. -/
theorem Modifier.ordinalScope_slices {cx : Context} {t : Target} {s : ScopeType} {a a' : Arena}
    {targets : List Target} (hs : s ≠ .occurrence)
    (h : ((everyScope s).run cx t).outcome a = (.ok targets, a')) (start : Int) (length : Nat) :
    let first := (Target.firstIndex targets.length start).toNat
    a' = a ∧
    (¬Target.InRange targets.length start length → ∀ isEvery,
      ((ordinalScope s start length isEvery).run cx t).outcome a = (.error (.outOfRange s.display), a)) ∧
    (Target.InRange targets.length start length →
      ((ordinalScope s start length true).run cx t).outcome a =
        (.ok ((targets.drop first).take length), a) ∧
      ∃ u u₁ u₂, ((ordinalScope s start length false).run cx t).outcome a = (.ok [u], a) ∧
        targets[first]? = some u₁ ∧ targets[first + length - 1]? = some u₂ ∧
        (length = 1 → u = u₁) ∧ (1 < length → u.content = Target.reach u₁ u₂)) ∧
    (targets.length < 2 ^ 63 → ∀ (start : Int64) (length : UInt64),
      Target.sliceWords? targets start length =
        if Target.InRange targets.length start.toInt length.toNat then
          some ((targets.drop (Target.firstIndex targets.length start.toInt).toNat).take length.toNat)
        else none) := by
  have hrun : ((everyScope s).run cx t).outcome a = (t.everyScope cx s, a) := by
    rw [run, if_neg hs, Resolving.outcome_lift]
  obtain ⟨hevery, rfl⟩ := Prod.mk.inj (hrun.symm.trans h)
  obtain ⟨scopes, hscopes, rfl⟩ := map_eq_ok.mp hevery
  obtain ⟨f, hyields⟩ := Target.yields_everyScopeOf scopes hscopes
  have hordinal := Target.run_ordinalScope hs hscopes start length
  rw [List.length_map]
  intro first
  refine ⟨rfl, fun hnot isEvery => ?_, fun hrange => ⟨?_, ?_⟩, fun hlt start length => ?_⟩
  · rw [hordinal, if_neg hnot]
  · rw [hordinal, if_pos hrange, ← List.map_drop, ← List.map_take]
    rfl
  · obtain ⟨hpos, hle⟩ : 1 ≤ length ∧ first + length ≤ scopes.length := by
      unfold Target.InRange at hrange
      omega
    obtain ⟨hhead, hlast⟩ := Target.getElem?_slice hpos hle
    have hlength : ((scopes.drop first).take length).length = length := by
      rw [List.length_take, List.length_drop]
      omega
    have hne : (scopes.drop first).take length ≠ [] := fun hnil => by
      rw [hnil] at hlength
      exact absurd hlength.symm (Nat.ne_of_gt hpos)
    have haligned := hyields.aligned.sublist ((List.take_sublist length _).trans (List.drop_sublist first _))
    obtain ⟨s₁, s₂, u, h₁, h₂, hpick, hone, hmore⟩ := Target.pick_false haligned hne t.isReversed
    rw [hlength] at hone hmore
    refine ⟨u, s₁.oriented t.isReversed, s₂.oriented t.isReversed, ?_, ?_, ?_, hone, hmore⟩
    · rw [hordinal, if_pos hrange, hpick]
    · rw [List.getElem?_map, ← hhead, h₁]
      rfl
    · rw [List.getElem?_map, ← hlast, h₂]
      rfl
  · rw [Target.sliceWords?_eq (by rwa [List.length_map]), Target.sliceFrom?_eq, List.length_map]

theorem Modifier.ordinalScope_slices_paragraphs :
    let e : Editor := .ofDocument 1 (.ofText 1 "plaintext" " ab\n\ncd".toList)
    let t : Target := .untyped e e.document.range false true
    let s : ScopeType := .textual .paragraph
    ∃ targets u, ((everyScope s).run {} t).outcome .empty = (.ok targets, .empty) ∧
      targets.map Target.content = [.onLine 0 1 3, .onLine 2 0 2] ∧
      ((ordinalScope s (-2) 2 false).run {} t).outcome .empty = (.ok [u], .empty) ∧
      u.content = .between ⟨0, 0⟩ ⟨2, 2⟩ ∧
      ((ordinalScope s 1 2 false).run {} t).outcome .empty =
        (.error (.outOfRange s.display), .empty) := by
  intro e t s
  have hreach : (t.everyScope {} s).toOption.map (fun l => (l.map Target.content,
      l[0]?.bind fun u => l[1]?.map fun v => Target.reach u v)) =
        some ([.onLine 0 1 3, .onLine 2 0 2], some (.between ⟨0, 0⟩ ⟨2, 2⟩)) := by decide +kernel
  cases htargets : t.everyScope {} s with
  | error error =>
    rw [htargets] at hreach
    cases hreach
  | ok targets =>
    rw [htargets] at hreach
    obtain ⟨hcontents, hreach⟩ := Prod.mk.inj (Option.some.inj hreach)
    have hlength : targets.length = 2 := by
      rw [← List.length_map (f := Target.content), hcontents]
      rfl
    have hrun : ((everyScope s).run {} t).outcome .empty = (.ok targets, .empty) := by
      rw [run, if_neg (by decide), Resolving.outcome_lift, htargets]
    obtain ⟨_, _, hslice, _⟩ := Modifier.ordinalScope_slices (by decide) hrun (-2) 2
    obtain ⟨_, hmissing, _⟩ := Modifier.ordinalScope_slices (by decide) hrun 1 2
    rw [hlength] at hslice hmissing
    obtain ⟨_, u, u₁, u₂, hu, h₁, h₂, _, hcontent⟩ := hslice (by decide)
    have h₁ : targets[0]? = some u₁ := h₁
    have h₂ : targets[1]? = some u₂ := h₂
    rw [h₁, h₂] at hreach
    refine ⟨targets, u, hrun, hcontents, hu, ?_, hmissing (by decide) false⟩
    exact (hcontent (by decide)).trans (Option.some.inj hreach)

end Referent
