import Referent.Proofs.Scope.Families

namespace Referent

namespace Scope

variable {e : Editor}

lemma distinct_paragraphs (e : Editor) (r : Range) : Distinct (paragraphs e r) := by
  obtain ⟨hbounds, hpairwise⟩ := textRuns_bounds none 0
    ((List.range e.document.lineCount).map fun l => (e.document.lineAt l).isBlank) (by simp)
  refine List.Pairwise.sublist (touching_sublist r _) (List.pairwise_map.mpr ?_)
  refine hpairwise.imp_of_mem fun {a b} ha hb hlt heq => ?_
  have hstart : (e.document.fullLines a.1 a.2).start = (e.document.fullLines b.1 b.2).start :=
    congrArg Range.start heq
  rw [Document.start_fullLines _ (hbounds a ha).2, Document.start_fullLines _ (hbounds b hb).2] at hstart
  have hline : a.1 = b.1 := congrArg Position.line hstart
  have hle := (hbounds a ha).2
  omega

end Scope

namespace ScopeFinder

def kind? : ScopeFinder → Option TargetKind
  | tokens _ => some .token
  | characters => some .plain
  | words => some .subTokenWord
  | lines => some .line
  | paragraphs => some .paragraph
  | wholeDocument => some .document
  | regex s _ => some (.scope s)
  | pairs _ _ => some .surroundingPair
  | items => some .collectionItem
  | nodes kind _ _ => some (.scope (.syntactic kind))
  | oneOf _ _ => none

variable {cx : Context} {e : Editor} {r : Range} {f : ScopeFinder} {l : List Scope} {s : Scope}

lemma kind_scope (e : Editor) (s : ScopeType) (r : Range) (b : Bool) :
    (Target.scope e s r b).kind = .scope s := by
  rw [Target.scope]
  split
  · rfl
  · rfl

lemma kind_itemsOf {c : Collection} (hs : s ∈ Scope.itemsOf e c) : s.target.kind = .collectionItem := by
  obtain ⟨i, _, rfl⟩ := List.mem_map.mp hs
  rfl

lemma kind_candidates {kind : TargetKind} (hkind : f.kind? = some kind)
    (hl : f.candidates cx e r = .ok l) (hs : s ∈ l) : s.target.kind = kind := by
  cases f with
  | tokens b =>
    obtain rfl := Option.some.inj hkind
    obtain rfl := Except.ok.inj hl
    obtain ⟨t, _, rfl⟩ := List.mem_map.mp (List.mem_filter.mp hs).1
    rfl
  | characters =>
    obtain rfl := Option.some.inj hkind
    obtain rfl := Except.ok.inj hl
    obtain ⟨line, _, hs⟩ := List.mem_flatMap.mp (List.mem_filter.mp hs).1
    obtain ⟨span, _, rfl⟩ := List.mem_map.mp hs
    rfl
  | words =>
    obtain rfl := Option.some.inj hkind
    obtain rfl := Except.ok.inj hl
    obtain ⟨token, _, hs⟩ := List.mem_flatMap.mp (List.mem_filter.mp hs).1
    obtain ⟨i, _, rfl⟩ := List.mem_map.mp hs
    rfl
  | lines =>
    obtain rfl := Option.some.inj hkind
    obtain rfl := Except.ok.inj hl
    obtain ⟨line, _, rfl⟩ := List.mem_map.mp hs
    rfl
  | paragraphs =>
    obtain rfl := Option.some.inj hkind
    obtain rfl := Except.ok.inj hl
    obtain ⟨run, _, rfl⟩ := List.mem_map.mp (List.mem_filter.mp hs).1
    rfl
  | wholeDocument =>
    obtain rfl := Option.some.inj hkind
    obtain rfl := Except.ok.inj hl
    obtain rfl := List.mem_singleton.mp hs
    rfl
  | regex scopeType expression =>
    obtain rfl := Option.some.inj hkind
    obtain rfl := Except.ok.inj hl
    obtain ⟨line, _, hs⟩ := List.mem_flatMap.mp (List.mem_filter.mp hs).1
    obtain ⟨span, _, rfl⟩ := List.mem_map.mp hs
    exact kind_scope e scopeType _ false
  | pairs scopeType search =>
    obtain rfl := Option.some.inj hkind
    obtain rfl := Except.ok.inj hl
    obtain ⟨p, _, rfl⟩ := List.mem_map.mp (List.mem_filter.mp hs).1
    rfl
  | items =>
    obtain rfl := Option.some.inj hkind
    obtain ⟨first, -, hl⟩ := bind_eq_ok.mp hl
    obtain ⟨last, -, hl⟩ := bind_eq_ok.mp hl
    obtain rfl := Except.ok.inj hl
    have hmem := (List.mem_filter.mp (List.mem_mergeSort.mp (mem_of_mem_eraseRepsBy hs))).1
    rcases List.mem_append.mp hmem with hfirst | hlast
    · exact kind_itemsOf hfirst
    · split at hlast
      · exact absurd hlast List.not_mem_nil
      · exact kind_itemsOf hlast
  | nodes kind language matcher =>
    obtain rfl := Option.some.inj hkind
    obtain ⟨t, _, rfl⟩ := map_eq_ok.mp hl
    obtain ⟨m, _, rfl⟩ := List.mem_map.mp (List.mem_filter.mp hs).1
    rw [Scope.ofMatch]
    split
    · exact kind_scope e _ _ false
    · rfl
  | oneOf scopeTypes finders => cases hkind

lemma exists_single_of_mem_candidates (hl : f.candidates cx e r = .ok l) (hs : s ∈ l) :
    ∃ g kind l', kind? g = some kind ∧ g.candidates cx e r = .ok l' ∧ s ∈ l' := by
  induction f using ScopeFinder.induction generalizing l with
  | oneOf scopeTypes finders ih =>
    rw [candidates] at hl
    obtain ⟨all, hall, rfl⟩ := map_eq_ok.mp hl
    have hs := List.mem_mergeSort.mp (mem_of_mem_eraseRepsBy hs)
    obtain ⟨g, hg, l', hl', hs'⟩ := exists_of_mem_candidatesOfAny hall hs
    exact ih g hg hl' hs'
  | _ => exact ⟨_, _, l, rfl, hl, hs⟩

lemma eq_lineScope_of_kind (hl : f.candidates cx e r = .ok l) (hs : s ∈ l)
    (hkind : s.target.kind = .line) : ∃ line < e.document.lineCount, s = Scope.lineScope e line := by
  obtain ⟨g, kind, l', hg, hl', hs⟩ := exists_single_of_mem_candidates hl hs
  obtain rfl := (kind_candidates hg hl' hs).symm.trans hkind
  cases g with
  | lines =>
    obtain rfl := Except.ok.inj hl'
    obtain ⟨line, hline, rfl⟩ := List.mem_map.mp hs
    exact ⟨line, Document.mem_linesOf hline, rfl⟩
  | _ => cases hg

lemma content_of_kind_document (hl : f.candidates cx e r = .ok l) (hs : s ∈ l)
    (hkind : s.target.kind = .document) : s.target.content = e.document.range := by
  obtain ⟨g, kind, l', hg, hl', hs⟩ := exists_single_of_mem_candidates hl hs
  obtain rfl := (kind_candidates hg hl' hs).symm.trans hkind
  cases g with
  | wholeDocument =>
    obtain rfl := Except.ok.inj hl'
    obtain rfl := List.mem_singleton.mp hs
    rfl
  | _ => cases hg

lemma distinct_of_kind_paragraph (hl : f.candidates cx e r = .ok l) (hs : s ∈ l)
    (hkind : s.target.kind = .paragraph) : Scope.Distinct l := by
  cases hf : f.kind? with
  | some kind =>
    obtain rfl := (kind_candidates hf hl hs).symm.trans hkind
    cases f with
    | paragraphs =>
      obtain rfl := Except.ok.inj hl
      exact Scope.distinct_paragraphs e r
    | _ => cases hf
  | none =>
    cases f with
    | oneOf scopeTypes finders =>
      rw [candidates] at hl
      obtain ⟨all, _, rfl⟩ := map_eq_ok.mp hl
      exact Scope.distinct_nested all
    | _ => cases hf

end ScopeFinder

end Referent
