import Mathlib.Tactic.Common
import Referent.Context
import Referent.Target.Merge

namespace Referent

def Editor.core (e : Editor) : Editor := { e with selections := [] }

def Target.core (t : Target) : Target := { t with editor := t.editor.core, that := none }

def Context.core (cx : Context) : Context where
  config := cx.config
  tokenizer := cx.tokenizer
  trees := cx.trees
  stored := cx.stored.map fun e => (e.1, e.2.map Target.core)

namespace Editor

variable (e : Editor)

@[simp] lemma core_id : e.core.id = e.id := rfl
@[simp] lemma core_document : e.core.document = e.document := rfl
@[simp] lemma core_visible : e.core.visible = e.visible := rfl
@[simp] lemma core_core : e.core.core = e.core := rfl

end Editor

namespace Target

variable (s t : Target) (e : Editor) (r : Range) (b : Bool)

@[simp] lemma core_editor : t.core.editor = t.editor.core := rfl
@[simp] lemma core_kind : t.core.kind = t.kind := rfl
@[simp] lemma core_content : t.core.content = t.content := rfl
@[simp] lemma core_isReversed : t.core.isReversed = t.isReversed := rfl
@[simp] lemma core_flags : t.core.flags = t.flags := rfl
@[simp] lemma core_delimiter : t.core.delimiter = t.delimiter := rfl
@[simp] lemma core_removal : t.core.removal = t.removal := rfl
@[simp] lemma core_leading : t.core.leading = t.leading := rfl
@[simp] lemma core_trailing : t.core.trailing = t.trailing := rfl
@[simp] lemma core_interior : t.core.interior = t.interior := rfl
@[simp] lemma core_boundary : t.core.boundary = t.boundary := rfl
@[simp] lemma core_document : t.core.document = t.document := rfl
@[simp] lemma core_text : t.core.text = t.text := rfl
@[simp] lemma core_core : t.core.core = t.core := rfl
@[simp] lemma core_withThat (id : Nat) : (t.withThat id).core = t.core := rfl

@[simp] lemma core_withReversed : t.core.withReversed b = (t.withReversed b).core := rfl

@[simp] lemma core_withFlags (flags : TargetFlags) :
    t.core.withFlags flags = (t.withFlags flags).core := rfl

@[simp] lemma core_withRemoval : t.core.withRemoval r = (t.withRemoval r).core := rfl

@[simp] lemma core_untyped (explicit : Bool) :
    untyped e.core r b explicit = (untyped e r b explicit).core := rfl

@[simp] lemma core_ofSelection (s : Selection) :
    ofSelection e.core s = (ofSelection e s).core := rfl

@[simp] lemma core_plain : plain e.core r b = (plain e r b).core := rfl

@[simp] lemma core_raw : raw e.core r b = (raw e r b).core := rfl

@[simp] lemma core_token : token e.core r b = (token e r b).core := rfl

@[simp] lemma core_line : line e.core r b = (line e r b).core := rfl

@[simp] lemma core_paragraph : paragraph e.core r b = (paragraph e r b).core := rfl

@[simp] lemma core_wholeDocument : wholeDocument e.core = (wholeDocument e).core := rfl

@[simp] lemma core_scope (s : ScopeType) : scope e.core s r b = (scope e s r b).core := by
  unfold scope
  rw [Editor.core_document]
  split
  · rfl
  · rfl

@[simp] lemma core_interiorOf : interiorOf e.core r b = (interiorOf e r b).core := rfl

@[simp] lemma core_delimited (kind : TargetKind) (leading trailing : Option Range)
    (delimiter : String) : delimited e.core kind r leading trailing delimiter b =
      (delimited e kind r leading trailing delimiter b).core := rfl

@[simp] lemma core_insertionPoint (side : InsertionSide) :
    t.core.insertionPoint side = (t.insertionPoint side).core := rfl

@[simp] lemma core_joinElements :
    joinElements s.core t.core r b = (joinElements s t r b).core := rfl

@[simp] lemma core_joinKind : joinKind s.core t.core r b = (joinKind s t r b).core := by
  unfold joinKind
  rw [core_kind]
  dsimp only
  split
  case h_8 => exact core_scope _ _ _ _
  all_goals rfl

@[simp] lemma core_continuous (includeStart includeStop : Bool) :
    s.core.continuous t.core includeStart includeStop b =
      (s.continuous t includeStart includeStop b).core := by
  have hrange : s.core.continuousRange t.core includeStart includeStop =
      s.continuousRange t includeStart includeStop := rfl
  unfold continuous
  simp only [hrange, core_kind]
  by_cases hline : s.kind = .line ∧ t.kind = .line
  · rw [if_pos hline, if_pos hline]
    rfl
  · rw [if_neg hline, if_neg hline, core_joinKind, core_withFlags, core_editor, core_untyped]
    split
    · rfl
    · rfl

@[simp] lemma core_rangeBetween (excludeAnchor excludeActive : Bool) :
    s.core.rangeBetween t.core excludeAnchor excludeActive =
      (s.rangeBetween t excludeAnchor excludeActive).core := by
  unfold rangeBetween
  rw [core_content, core_content]
  split
  · exact core_continuous ..
  · exact core_continuous ..

@[simp] lemma core_beq : (s.core == t.core) = (s == t) := rfl

lemma beq_def : (s == t) = (s.sameEditor t && s.kind == t.kind && s.content == t.content &&
    s.isReversed == t.isReversed && s.flags == t.flags && s.delimiter == t.delimiter &&
    s.removal == t.removal && s.leading == t.leading && s.trailing == t.trailing &&
    s.interior == t.interior && s.boundary == t.boundary) := rfl

lemma beq_of_core_eq {s t : Target} (h : s.core = t.core) : (s == t) = true := by
  rw [← core_beq, h, beq_def]
  simp [sameEditor]

end Target

end Referent
