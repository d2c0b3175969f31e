import Mathlib.Tactic.Common
import Referent.Proofs.Resolve.Agreement
import Referent.Resolve.Descriptor

namespace Referent

open Resolving

/-- Editors that show the same document whenever their numbers and those of their documents are the
same. -/
def Editor.Coherent (E : Editor → Prop) : Prop :=
  ∀ e₁ e₂, E e₁ → E e₂ → e₁.id = e₂.id → e₁.document.id = e₂.document.id →
    e₁.document = e₂.document

namespace PrimitiveDescriptor

def place (cx : Context) (options : ResolveOptions) (modifiers : List Modifier)
    (refined : List Target) : Resolving (List Target) := do
  let placed ← runInOrder cx
    (options.prePosition ++ (splitPosition modifiers).1 ++ options.final) refined
  if options.infersToken then forEach (fun t => return [← t.expandCursor cx]) placed
  else return placed

def refine (cx : Context) (options : ResolveOptions) (modifiers : List Modifier)
    (marked : List Target) : Resolving (List Target) := do
  let refined ← Modifier.runAll cx (splitPosition modifiers).2 marked
  place cx options modifiers refined

lemma resolve_eq (cx : Context) (options : ResolveOptions) (p : PrimitiveDescriptor) :
    p.resolve cx options = liftM (p.mark.targets cx) >>= refine cx options p.modifiers := rfl

end PrimitiveDescriptor

namespace Linking

variable {L : Linking} {sound : Prop} {E : Editor → Prop} {a a' : Arena} {s s' t t' : Target}
  {l l' : List Target} {cx cx' : Context}

lemma agrees_runInOrder (hcx : cx.Alike sound E cx') (ms : List Modifier) (h : L.arenas a a')
    (hl : L.MatchAll sound E a a' l l') :
    L.Agrees a a' (PrimitiveDescriptor.runInOrder cx ms l)
      (PrimitiveDescriptor.runInOrder cx' ms l') (L.MatchAll sound E) := by
  induction ms generalizing a a' l l' with
  | nil => exact .pure h hl
  | cons m rest ih =>
    exact (agrees_forEach (agrees_run hcx m) h hl).bind fun hr hinner => ih hr.arenas hinner

lemma agrees_inferEach (hcx : cx.Alike sound E cx') (h : L.arenas a a')
    (hl : L.MatchAll sound E a a' l l') :
    L.Agrees a a' (forEach (fun t => return [← t.expandCursor cx]) l)
      (forEach (fun t => return [← t.expandCursor cx']) l') (L.MatchAll sound E) := by
  refine agrees_forEach (fun c c' t t' h ht => ?_) h hl
  exact (agrees_expandCursor hcx h ht).bind fun hr hu => .pure hr.arenas (.singleton hu)

lemma agrees_place (hcx : cx.Alike sound E cx') (options : ResolveOptions)
    (modifiers : List Modifier) (h : L.arenas a a') (hl : L.MatchAll sound E a a' l l') :
    L.Agrees a a' (PrimitiveDescriptor.place cx options modifiers l)
      (PrimitiveDescriptor.place cx' options modifiers l') (L.MatchAll sound E) := by
  refine (agrees_runInOrder hcx _ h hl).bind fun hr hplaced => ?_
  split
  · exact agrees_inferEach hcx hr.arenas hplaced
  · exact .pure hr.arenas hplaced

lemma agrees_refine (hcx : cx.Alike sound E cx') (options : ResolveOptions)
    (modifiers : List Modifier) (h : L.arenas a a') (hl : L.MatchAll sound E a a' l l') :
    L.Agrees a a' (PrimitiveDescriptor.refine cx options modifiers l)
      (PrimitiveDescriptor.refine cx' options modifiers l') (L.MatchAll sound E) :=
  (agrees_runAll (fun m _ => agrees_run hcx m) h hl).bind fun hr hrefined =>
    agrees_place hcx options modifiers hr.arenas hrefined

def MarksAlike (L : Linking) (sound : Prop) (E : Editor → Prop) (cx cx' : Context) : Prop :=
  ∀ (m : Mark) ⦃a a' : Arena⦄, L.arenas a a' →
    L.Agrees a a' (liftM (m.targets cx)) (liftM (m.targets cx')) (L.MatchAll sound E)

lemma MarksAlike.weaken {E' : Editor → Prop} (h : L.MarksAlike sound E cx cx')
    (hE : ∀ e, E e → E' e) : L.MarksAlike sound E' cx cx' := fun m _ _ harenas =>
  (h m harenas).mono fun _ hl => List.Forall₂.imp (fun _ _ ht => ht.weaken (hE _)) hl

lemma agrees_primitive (hcx : cx.Alike sound E cx') (hm : L.MarksAlike sound E cx cx')
    (options : ResolveOptions) (p : PrimitiveDescriptor) (h : L.arenas a a') :
    L.Agrees a a' (p.resolve cx options) (p.resolve cx' options) (L.MatchAll sound E) := by
  rw [PrimitiveDescriptor.resolve_eq, PrimitiveDescriptor.resolve_eq]
  exact (hm p.mark h).bind fun hr hmarked => agrees_refine hcx options _ hr.arenas hmarked

lemma Matches.document (h : L.Matches sound E a a' t t') : t'.document = t.document := by
  simpa only [Target.core_document] using congrArg Target.document h.core

lemma Matches.editorId (h : L.Matches sound E a a' t t') : t'.editor.id = t.editor.id :=
  congrArg (fun u => u.editor.id) h.core

lemma Matches.rangeOf (hE : sound → Editor.Coherent E) (excludeAnchor excludeActive : Bool)
    (hs : L.Matches sound E a a' s s') (ht : L.Matches sound E a a' t t')
    (hid : s.editor.id = t.editor.id) (hdocument : s.document.id = t.document.id) :
    L.Matches sound E a a' (s.rangeBetween t excludeAnchor excludeActive)
      (s'.rangeBetween t' excludeAnchor excludeActive) where
  editor := by
    rcases Target.editor_rangeBetween (s := s) (t := t) excludeAnchor excludeActive with h | h
    · exact h ▸ hs.editor
    · exact h ▸ ht.editor
  core := by
    rw [← Target.core_rangeBetween, ← Target.core_rangeBetween, hs.core, ht.core]
  wellFormed := fun hsound =>
    Target.wellFormed_rangeBetween excludeAnchor excludeActive
      (hE hsound _ _ ht.editor hs.editor hid.symm hdocument.symm)
      (hs.wellFormed hsound) (ht.wellFormed hsound)
  linked := L.unlinked (Target.that_rangeBetween ..) (Target.that_rangeBetween ..)

lemma Matches.verticalFrom (hs : L.Matches sound E a a' s s') (last : Nat)
    (excludeAnchor excludeActive : Bool) (lines : List Nat) :
    L.MatchAll sound E a a' (s.verticalFrom last excludeAnchor excludeActive lines)
      (s'.verticalFrom last excludeAnchor excludeActive lines) := by
  induction lines with
  | nil => exact .nil
  | cons line rest ih =>
    rw [Target.verticalFrom, Target.verticalFrom, hs.content]
    split
    · exact ih
    · split
      · exact .nil
      · split
        · exact .cons hs ih
        · have hmade : (s.onLine line).Made sound s.editor :=
            Target.made_plain _ fun _ => Document.holds_between (Document.has_clamp _ _)
              (Document.has_clamp _ _)
          have honLine (u : Target) : u.core.onLine line = (u.onLine line).core := rfl
          refine .cons (.ofMade hmade hs.editor rfl ?_) ih
          rw [← honLine, ← honLine, hs.core]

lemma Matches.vertical (hs : L.Matches sound E a a' s s') (ht : L.Matches sound E a a' t t')
    (excludeAnchor excludeActive : Bool) :
    L.MatchAll sound E a a' (s.vertical t excludeAnchor excludeActive)
      (s'.vertical t' excludeAnchor excludeActive) := by
  unfold Target.vertical
  dsimp only
  rw [hs.content, ht.content]
  exact hs.verticalFrom _ _ _ _

lemma agrees_between (hE : sound → Editor.Coherent E) (r : RangeDescriptor) (h : L.arenas a a')
    (hs : L.Matches sound E a a' s s') (ht : L.Matches sound E a a' t t') :
    L.Agrees a a' (liftM (r.between s t)) (liftM (r.between s' t')) (L.MatchAll sound E) := by
  have hsame : s'.sameEditor t' = s.sameEditor t := by
    simp only [Target.sameEditor, hs.editorId, ht.editorId]
  unfold RangeDescriptor.between
  rw [hsame, hs.document, ht.document]
  split
  · exact .error rfl rfl (.refl h)
  · next hnear =>
    simp only [Target.sameEditor, Bool.or_eq_true, Bool.not_eq_true', beq_eq_false_iff_ne,
      bne_iff_ne, not_or, not_not] at hnear
    split
    · exact .ok rfl rfl (.refl h) (.singleton (hs.rangeOf hE _ _ ht hnear.1 hnear.2))
    · exact .ok rfl rfl (.refl h) (hs.vertical ht _ _)

def MatchLists (L : Linking) (sound : Prop) (E : Editor → Prop) (a a' : Arena)
    (ls ls' : List (List Target)) : Prop := List.Forall₂ (L.MatchAll sound E a a') ls ls'

lemma MatchLists.flatten {ls ls' : List (List Target)} (h : L.MatchLists sound E a a' ls ls') :
    L.MatchAll sound E a a' ls.flatten ls'.flatten := by
  induction h with
  | nil => exact .nil
  | cons hl _ ih =>
    rw [List.flatten_cons, List.flatten_cons]
    exact hl.append ih

lemma agrees_mapM {α : Type} {f f' : α → Resolving (List Target)}
    (hf : ∀ (b : α) ⦃c c' : Arena⦄, L.arenas c c' →
      L.Agrees c c' (f b) (f' b) (L.MatchAll sound E))
    (h : L.arenas a a') (bs : List α) :
    L.Agrees a a' (bs.mapM f) (bs.mapM f') (L.MatchLists sound E) := by
  induction bs generalizing a a' with
  | nil => exact .pure h .nil
  | cons b rest ih =>
    rw [List.mapM_cons, List.mapM_cons]
    refine (hf b h).bind fun hr hfirst => ?_
    exact (ih hr.arenas).bind fun hr' hothers => .pure hr'.arenas (.cons (hfirst.keep hr') hothers)

lemma agrees_ranges (hE : sound → Editor.Coherent E) (r : RangeDescriptor) {k k' : List Target}
    (h : L.arenas a a') (hl : L.MatchAll sound E a a' l l') (hk : L.MatchAll sound E a a' k k') :
    L.Agrees a a' ((l.zip k).mapM fun p => (liftM (r.between p.1 p.2) : Resolving (List Target)))
      ((l'.zip k').mapM fun p => liftM (r.between p.1 p.2)) (L.MatchLists sound E) := by
  induction l generalizing l' k k' a a' with
  | nil =>
    cases hl
    rw [List.zip_nil_left, List.zip_nil_left]
    exact .pure h .nil
  | cons s rest ih =>
    cases hl with
    | cons hs hrest =>
      cases hk with
      | nil =>
        rw [List.zip_nil_right, List.zip_nil_right]
        exact .pure h .nil
      | cons ht hk =>
        rw [List.zip_cons_cons, List.zip_cons_cons, List.mapM_cons, List.mapM_cons]
        refine (agrees_between hE r h hs ht).bind fun hr hfirst => ?_
        refine (ih hr.arenas (MatchAll.keep hrest hr) (MatchAll.keep hk hr)).bind
          fun hr' hothers => ?_
        exact .pure hr'.arenas (.cons (hfirst.keep hr') hothers)

lemma agrees_range (hcx : cx.Alike sound E cx') (hm : L.MarksAlike sound E cx cx')
    (hE : sound → Editor.Coherent E) (options : ResolveOptions) (r : RangeDescriptor)
    (h : L.arenas a a') :
    L.Agrees a a' (r.resolve cx options) (r.resolve cx' options) (L.MatchAll sound E) := by
  refine (agrees_primitive hcx hm options r.anchor h).bind fun hr hanchors => ?_
  refine (agrees_primitive hcx hm options r.active hr.arenas).bind fun hr' hactives => ?_
  have hanchors := hanchors.keep hr'
  rw [hanchors.length_eq, hactives.length_eq]
  dsimp only
  split_ifs
  · exact .throw _ hr'.arenas
  · refine (agrees_ranges hE r hr'.arenas hanchors hactives).bind fun hr'' hfound => ?_
    exact .pure hr''.arenas hfound.flatten

lemma MatchAll.contains {found found' : List Target}
    (hfound : L.MatchAll sound E a a' found found') (ht : t'.core = t.core) :
    found'.contains t' = found.contains t := by
  induction hfound with
  | nil => rfl
  | cons hs _ ih =>
    rw [List.contains_cons, List.contains_cons, ih, ← Target.core_beq, ht, hs.core,
      Target.core_beq]

lemma MatchAll.addNew {found found' : List Target} (hfound : L.MatchAll sound E a a' found found')
    (ht : L.Matches sound E a a' t t') :
    L.MatchAll sound E a a' (TargetDescriptor.addNew found t)
      (TargetDescriptor.addNew found' t') := by
  unfold TargetDescriptor.addNew
  rw [hfound.contains ht.core]
  split
  · exact hfound
  · exact hfound.append (.singleton ht)

lemma MatchAll.foldl_addNew {found found' : List Target}
    (hfound : L.MatchAll sound E a a' found found') (hl : L.MatchAll sound E a a' l l') :
    L.MatchAll sound E a a' (l.foldl TargetDescriptor.addNew found)
      (l'.foldl TargetDescriptor.addNew found') := by
  induction hl generalizing found found' with
  | nil => exact hfound
  | cons ht _ ih => exact ih (hfound.addNew ht)

end Linking

theorem TargetDescriptor.induction {P : TargetDescriptor → Prop} (primitive : ∀ p, P (.primitive p))
    (range : ∀ r, P (.range r)) (list : ∀ elements, (∀ d ∈ elements, P d) → P (.list elements)) :
    ∀ d, P d := by
  intro d
  refine TargetDescriptor.rec (motive_1 := P) (motive_2 := fun ds => ∀ d ∈ ds, P d) primitive range
    list ?_ ?_ d
  · exact fun d hd => absurd hd List.not_mem_nil
  · intro d rest hd hrest c hc
    rcases List.mem_cons.mp hc with rfl | hc
    · exact hd
    · exact hrest c hc

namespace Linking

variable {L : Linking} {sound : Prop} {E : Editor → Prop} {a a' : Arena} {cx cx' : Context}
  {options : ResolveOptions}

lemma agrees_resolveElements {ds : List TargetDescriptor}
    (hds : ∀ d ∈ ds, ∀ ⦃c c' : Arena⦄, L.arenas c c' →
      L.Agrees c c' (d.resolve cx options) (d.resolve cx' options) (L.MatchAll sound E))
    (h : L.arenas a a') {found found' : List Target}
    (hfound : L.MatchAll sound E a a' found found') :
    L.Agrees a a' (TargetDescriptor.resolveElements cx options found ds)
      (TargetDescriptor.resolveElements cx' options found' ds) (L.MatchAll sound E) := by
  induction ds generalizing a a' found found' with
  | nil =>
    rw [TargetDescriptor.resolveElements, TargetDescriptor.resolveElements]
    exact .pure h hfound
  | cons d rest ih =>
    rw [TargetDescriptor.resolveElements, TargetDescriptor.resolveElements]
    refine (hds d List.mem_cons_self h).bind fun hr htargets => ?_
    exact ih (fun c hc => hds c (List.mem_cons_of_mem d hc)) hr.arenas
      ((hfound.keep hr).foldl_addNew htargets)

theorem agrees_resolve (hcx : cx.Alike sound E cx') (hm : L.MarksAlike sound E cx cx')
    (hE : sound → Editor.Coherent E) (options : ResolveOptions) (d : TargetDescriptor)
    ⦃a a' : Arena⦄ (h : L.arenas a a') :
    L.Agrees a a' (d.resolve cx options) (d.resolve cx' options) (L.MatchAll sound E) := by
  induction d using TargetDescriptor.induction generalizing a a' with
  | primitive p =>
    rw [TargetDescriptor.resolve, TargetDescriptor.resolve]
    exact agrees_primitive hcx hm options p h
  | range r =>
    rw [TargetDescriptor.resolve, TargetDescriptor.resolve]
    exact agrees_range hcx hm hE options r h
  | list elements ih =>
    rw [TargetDescriptor.resolve, TargetDescriptor.resolve]
    exact agrees_resolveElements (fun d hd _ _ h => ih d hd h) h .nil

theorem agrees_resolveAll (hcx : cx.Alike sound E cx') (hm : L.MarksAlike sound E cx cx')
    (hE : sound → Editor.Coherent E) (options : ResolveOptions) (ds : List TargetDescriptor)
    (h : L.arenas a a') :
    L.Agrees a a' (TargetDescriptor.resolveAll cx options ds)
      (TargetDescriptor.resolveAll cx' options ds) (L.MatchLists sound E) :=
  agrees_mapM (agrees_resolve hcx hm hE options) h ds

end Linking

end Referent
