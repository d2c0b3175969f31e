import Mathlib.Data.List.Forall2
import Mathlib.Tactic.Common
import Referent.Scope.Finder

namespace Referent

lemma bind_eq_ok {ε α β : Type} {x : Except ε α} {f : α → Except ε β} {b : β} :
    (x >>= f) = .ok b ↔ ∃ a, x = .ok a ∧ f a = .ok b := by
  cases x with
  | error e => simp [bind, Except.bind]
  | ok a => simp [bind, Except.bind]

lemma ite_bind_eq_ok {ε α β : Type} {c : Prop} [Decidable c] {x y : Except ε α} {f : α → Except ε β}
    {b : β} : (if c then x >>= f else y >>= f) = .ok b ↔
      ∃ a, (if c then x else y) = .ok a ∧ f a = .ok b := by
  split
  · exact bind_eq_ok
  · exact bind_eq_ok

lemma map_eq_ok {ε α β : Type} {x : Except ε α} {f : α → β} {b : β} :
    x.map f = .ok b ↔ ∃ a, x = .ok a ∧ f a = b := by
  cases x with
  | error e => simp [Except.map]
  | ok a => simp [Except.map]

lemma map_eq_error {ε α β : Type} {x : Except ε α} {f : α → β} {e : ε} :
    x.map f = .error e ↔ x = .error e := by
  cases x with
  | error e => simp [Except.map]
  | ok a => simp [Except.map]

lemma exists_map_eq_ok {ε α β : Type} {x : Except ε α} {f : α → β} :
    (∃ b, x.map f = .ok b) ↔ ∃ a, x = .ok a := by
  constructor
  · rintro ⟨b, hb⟩
    obtain ⟨a, ha, _⟩ := map_eq_ok.mp hb
    exact ⟨a, ha⟩
  · rintro ⟨a, ha⟩
    exact ⟨f a, map_eq_ok.mpr ⟨a, ha, rfl⟩⟩

section

variable {ε α α' β β' : Type} {x : Except ε α} {x' : Except ε α'} {g : α → α'} {k : β → β'}

lemma map_id (x : Except ε α) : x.map id = x := by
  cases x with
  | error e => rfl
  | ok a => rfl

lemma bind_eq_map {f : α → Except ε β} {f' : α' → Except ε β'} (hx : x' = x.map g)
    (hf : ∀ a, f' (g a) = (f a).map k) : (x' >>= f') = (x >>= f).map k := by
  subst hx
  cases x with
  | error e => rfl
  | ok a => exact hf a

lemma map_bind (x : Except ε α) (g : α → α') (f : α' → Except ε β) :
    (x.map g >>= f) = x >>= fun a => f (g a) := by
  cases x with
  | error e => rfl
  | ok a => rfl

lemma map_eq_map {f : α → β} {f' : α' → β'} (hx : x' = x.map g)
    (hf : ∀ a, f' (g a) = k (f a)) : x'.map f' = (x.map f).map k := by
  subst hx
  cases x with
  | error e => rfl
  | ok a => exact congrArg Except.ok (hf a)

lemma ite_bind_eq_map {c : Prop} [Decidable c] {y : Except ε α} {y' : Except ε α'}
    {f : α → Except ε β} {f' : α' → Except ε β'} (hx : x' = x.map g) (hy : y' = y.map g)
    (hf : ∀ a, f' (g a) = (f a).map k) :
    (if c then x' >>= f' else y' >>= f') = (if c then x >>= f else y >>= f).map k := by
  split
  · exact bind_eq_map hx hf
  · exact bind_eq_map hy hf

lemma mapM_eq_map {f : α → Except ε β} {f' : α → Except ε β'} (hf : ∀ a, f' a = (f a).map k)
    (l : List α) : l.mapM f' = (l.mapM f).map (List.map k) := by
  induction l with
  | nil => rfl
  | cons a rest ih =>
    rw [List.mapM_cons, List.mapM_cons]
    exact bind_eq_map (hf a) fun b => bind_eq_map ih fun bs => rfl

lemma unlessMissing_map {x : Except TargetError α} (default : α) (g : α → α') :
    unlessMissing (g default) (x.map g) = (unlessMissing default x).map g := by
  cases x with
  | error e =>
    simp only [Except.map, unlessMissing]
    split
    · rfl
    · rfl
  | ok a => rfl

end

section

variable {ε α β : Type} {f : α → Except ε β} {l : List α}

lemma exists_mapM_eq_ok (h : ∀ a ∈ l, ∃ b, f a = .ok b) : ∃ bs, l.mapM f = .ok bs := by
  induction l with
  | nil => exact ⟨[], rfl⟩
  | cons a l ih =>
    obtain ⟨b, hb⟩ := h a List.mem_cons_self
    obtain ⟨bs, hbs⟩ := ih fun c hc => h c (List.mem_cons_of_mem a hc)
    exact ⟨b :: bs, by rw [List.mapM_cons, hb, hbs]; rfl⟩

lemma mapM_eq_ok {bs : List β} : l.mapM f = .ok bs ↔ List.Forall₂ (fun a b => f a = .ok b) l bs := by
  induction l generalizing bs with
  | nil => simp [pure, Except.pure, eq_comm]
  | cons a rest ih =>
    rw [List.mapM_cons, bind_eq_ok, List.forall₂_cons_left_iff]
    simp only [bind_eq_ok, ih]
    constructor
    · rintro ⟨b, hb, bs, hbs, h⟩
      exact ⟨b, bs, hb, hbs, (Except.ok.inj h).symm⟩
    · rintro ⟨b, bs, hb, hbs, rfl⟩
      exact ⟨b, hb, bs, hbs, rfl⟩

lemma exists_of_mapM_eq_ok {bs : List β} (h : l.mapM f = .ok bs) : ∀ a ∈ l, ∃ b ∈ bs, f a = .ok b := by
  rw [mapM_eq_ok] at h
  induction h with
  | nil => simp
  | cons hb _ ih =>
    refine List.forall_mem_cons.mpr ⟨⟨_, List.mem_cons_self, hb⟩, fun a ha => ?_⟩
    obtain ⟨b, hmem, hb⟩ := ih a ha
    exact ⟨b, List.mem_cons_of_mem _ hmem, hb⟩

lemma mem_iff_of_mapM_eq_ok {bs : List β} (h : l.mapM f = .ok bs) (b : β) :
    b ∈ bs ↔ ∃ a ∈ l, f a = .ok b := by
  rw [mapM_eq_ok] at h
  induction h with
  | nil => simp
  | cons hb _ ih => simp [ih, hb, eq_comm]

lemma map_of_mapM_eq_ok {k : β → α} (hk : ∀ a b, f a = .ok b → k b = a) {bs : List β}
    (h : l.mapM f = .ok bs) : bs.map k = l := by
  rw [mapM_eq_ok] at h
  induction h with
  | nil => rfl
  | cons hb _ ih => rw [List.map_cons, hk _ _ hb, ih]

lemma mapM_bind_mapM_eq_ok {γ : Type} {k : β → Except ε γ} {l : List α} {cs : List γ} :
    (l.mapM f >>= fun bs => bs.mapM k) = .ok cs ↔ (l.mapM fun a => f a >>= k) = .ok cs := by
  induction l generalizing cs with
  | nil => rfl
  | cons a rest ih =>
    simp only [List.mapM_cons, bind_eq_ok] at ih ⊢
    constructor
    · rintro ⟨_, ⟨b, hb, bs, hbs, ⟨⟩⟩, hcs⟩
      rw [List.mapM_cons, bind_eq_ok] at hcs
      obtain ⟨c, hc, hcs⟩ := hcs
      obtain ⟨cs', hcs', rfl⟩ := map_eq_ok.mp hcs
      exact ⟨c, ⟨b, hb, hc⟩, cs', ih.mp ⟨bs, hbs, hcs'⟩, rfl⟩
    · rintro ⟨c, ⟨b, hb, hc⟩, cs', hcs', ⟨⟩⟩
      obtain ⟨bs, hbs, hcs'⟩ := ih.mpr hcs'
      refine ⟨_, ⟨b, hb, bs, hbs, rfl⟩, ?_⟩
      rw [List.mapM_cons, hc, hcs']
      rfl

lemma mapM_eq_error {e : ε} : l.mapM f = .error e ↔ ∃ before a after, l = before ++ a :: after ∧
    f a = .error e ∧ ∀ b ∈ before, ∃ c, f b = .ok c := by
  induction l with
  | nil =>
    refine ⟨fun h => (by cases h), ?_⟩
    rintro ⟨before, a, after, h, -⟩
    simp at h
  | cons a rest ih =>
    rw [List.mapM_cons]
    cases ha : f a with
    | error e' =>
      constructor
      · rintro ⟨⟩
        exact ⟨[], a, rest, rfl, ha, by simp⟩
      · rintro ⟨before, c, after, h, hc, hbefore⟩
        cases before with
        | nil =>
          obtain ⟨rfl, -⟩ := List.cons.inj h
          cases ha.symm.trans hc
          rfl
        | cons b before =>
          obtain ⟨rfl, -⟩ := List.cons.inj h
          obtain ⟨d, hd⟩ := hbefore a List.mem_cons_self
          cases ha.symm.trans hd
    | ok b =>
      have htail : (Except.ok b >>= fun b => rest.mapM f >>= fun bs => pure (b :: bs)) = .error e ↔
          rest.mapM f = .error e := map_eq_error (f := fun bs => b :: bs)
      rw [htail, ih]
      constructor
      · rintro ⟨before, c, after, rfl, hc, hbefore⟩
        refine ⟨a :: before, c, after, rfl, hc, List.forall_mem_cons.mpr ⟨⟨b, ha⟩, hbefore⟩⟩
      · rintro ⟨before, c, after, h, hc, hbefore⟩
        cases before with
        | nil =>
          obtain ⟨rfl, -⟩ := List.cons.inj h
          cases ha.symm.trans hc
        | cons d before =>
          obtain ⟨rfl, rfl⟩ := List.cons.inj h
          exact ⟨before, c, after, rfl, hc, fun x hx => hbefore x (List.mem_cons_of_mem a hx)⟩

lemma unlessMissing_eq_error {α : Type} {x : Except TargetError α} {default : α} {err : TargetError} :
    unlessMissing default x = .error err ↔ x = .error err ∧ err.isRecoverable = false := by
  cases x with
  | ok a => simp [unlessMissing]
  | error err' =>
    rw [unlessMissing]
    split
    · next h =>
      refine ⟨fun h' => (by cases h'), ?_⟩
      rintro ⟨⟨⟩, hnot⟩
      exact absurd h (Bool.eq_false_iff.mp hnot)
    · next h =>
      refine ⟨fun h' => ⟨h', ?_⟩, And.left⟩
      cases h'
      exact Bool.eq_false_iff.mpr h

end

def Gives {ε α : Type} (x : Except ε α) (P : α → Prop) : Prop := ∀ a, x = .ok a → P a

namespace Gives

variable {ε α β : Type} {x : Except ε α} {P : α → Prop} {Q : β → Prop}

lemma ok {a : α} (h : P a) : Gives (.ok a : Except ε α) P := by
  rintro _ ⟨⟩
  exact h

lemma error {e : ε} : Gives (.error e) P := by rintro _ ⟨⟩

lemma mono {R : α → Prop} (h : Gives x P) (hR : ∀ a, P a → R a) : Gives x R :=
  fun a ha => hR a (h a ha)

lemma bind {f : α → Except ε β} (h : Gives x P) (hf : ∀ a, P a → Gives (f a) Q) :
    Gives (x >>= f) Q := by
  intro b hb
  obtain ⟨a, ha, hfa⟩ := bind_eq_ok.mp hb
  exact hf a (h a ha) b hfa

lemma map {f : α → β} (h : Gives x P) (hf : ∀ a, P a → Q (f a)) : Gives (x.map f) Q := by
  intro b hb
  obtain ⟨a, ha, rfl⟩ := map_eq_ok.mp hb
  exact hf a (h a ha)

lemma ite_bind {c : Prop} [Decidable c] {y : Except ε α} {f : α → Except ε β} (hx : Gives x P)
    (hy : Gives y P) (hf : ∀ a, P a → Gives (f a) Q) :
    Gives (if c then x >>= f else y >>= f) Q := by
  split
  · exact hx.bind hf
  · exact hy.bind hf

lemma unlessMissing {x : Except TargetError α} (default : α) (h : Gives x P) (hd : P default) :
    Gives (unlessMissing default x) P := by
  intro a ha
  unfold Referent.unlessMissing at ha
  split at ha
  · split at ha
    · cases ha
      exact hd
    · cases ha
  · exact h a ha

lemma mapM {f : α → Except ε β} {l : List α} (h : ∀ a ∈ l, Gives (f a) Q) :
    Gives (l.mapM f) fun bs => ∀ b ∈ bs, Q b := by
  intro bs hbs b hb
  obtain ⟨a, ha, heq⟩ := (mem_iff_of_mapM_eq_ok hbs b).mp hb
  exact h a ha b heq

end Gives

def Fails {ε α : Type} (x : Except ε α) (P : ε → Prop) : Prop := ∀ e, x = .error e → P e

namespace Fails

variable {ε α β : Type} {x : Except ε α} {P : ε → Prop}

lemma ok {a : α} : Fails (.ok a : Except ε α) P := by rintro _ ⟨⟩

lemma error {e : ε} (h : P e) : Fails (.error e : Except ε α) P := by
  rintro _ ⟨⟩
  exact h

lemma mono {Q : ε → Prop} (h : Fails x P) (hQ : ∀ e, P e → Q e) : Fails x Q :=
  fun e he => hQ e (h e he)

lemma bind {f : α → Except ε β} (h : Fails x P) (hf : ∀ a, Fails (f a) P) : Fails (x >>= f) P := by
  cases x with
  | error e => exact fun e' he' => h e' (by cases he'; rfl)
  | ok a => exact hf a

lemma map {f : α → β} (h : Fails x P) : Fails (x.map f) P :=
  fun e he => h e (map_eq_error.mp he)

lemma mapM {f : α → Except ε β} {l : List α} (h : ∀ a ∈ l, Fails (f a) P) : Fails (l.mapM f) P := by
  intro e he
  obtain ⟨before, a, after, rfl, ha, -⟩ := mapM_eq_error.mp he
  exact h a (by simp) e ha

end Fails

end Referent
