import Mathlib.Data.List.Forall2

/-!
# Traversals that can fail

`mapM` over a list gives a result for each item or the error of the first item that fails. A
traversal that succeeds is read off item by item (`mapM_cons_eq_ok`), and one whose items all
succeed succeeds (`exists_mapM_ok`). Two runs are compared step by step: they correspond if they
fail alike or have related results (`Corresponds`). Lists are also put together from items that may
be missing; what holds for all items of such a list is asked of those that are there.
-/

namespace SchemaModels

variable {ε α β : Type}

/-- A sequence of two steps succeeds if both do. -/
theorem bind_eq_ok {x : Except ε α} {f : α → Except ε β} {b : β} :
    x >>= f = .ok b ↔ ∃ a, x = .ok a ∧ f a = .ok b := by
  cases x with
  | error e =>
    constructor
    · intro h; cases h
    · rintro ⟨_, h, _⟩; cases h
  | ok a =>
    constructor
    · intro h; exact ⟨a, rfl, h⟩
    · rintro ⟨_, ha, h⟩; cases ha; exact h

/-- A result that passes a test is a success. -/
theorem exists_ok_of_any {x : Except ε α} {p : α → Bool} (h : x.toOption.any p = true) :
    ∃ a, x = .ok a ∧ p a = true := by
  cases x with
  | error e => cases h
  | ok a => exact ⟨a, rfl, h⟩

variable {f : α → Except ε β}

theorem mapM_cons_eq_ok {a : α} {l : List α} {bs : List β} :
    (a :: l).mapM f = .ok bs ↔ ∃ b rest, f a = .ok b ∧ l.mapM f = .ok rest ∧ bs = b :: rest := by
  rw [List.mapM_cons, bind_eq_ok]
  constructor
  · rintro ⟨b, hb, h⟩
    obtain ⟨rest, hrest, h⟩ := bind_eq_ok.mp h
    cases h
    exact ⟨b, rest, hb, hrest, rfl⟩
  · rintro ⟨b, rest, hb, hrest, rfl⟩
    exact ⟨b, hb, bind_eq_ok.mpr ⟨rest, hrest, rfl⟩⟩

/-- The results of a traversal are those of the items, in order. -/
theorem mapM_eq_ok_iff : ∀ {l : List α} {bs : List β},
    l.mapM f = .ok bs ↔ List.Forall₂ (fun a b => f a = .ok b) l bs := by
  intro l
  induction l with
  | nil =>
    intro bs
    rw [List.mapM_nil, List.forall₂_nil_left_iff]
    constructor
    · intro h; cases h; rfl
    · intro h; cases h; rfl
  | cons a l ih =>
    intro bs
    rw [mapM_cons_eq_ok]
    constructor
    · rintro ⟨b, rest, hb, hrest, rfl⟩
      exact .cons hb (ih.mp hrest)
    · intro h
      cases h with
      | cons hb hrest => exact ⟨_, _, hb, ih.mpr hrest, rfl⟩

/-- Items in another order give the results in another order. -/
theorem exists_mapM_perm {l l' : List α} (hperm : l.Perm l') : ∀ {bs : List β},
    l.mapM f = .ok bs → ∃ bs', l'.mapM f = .ok bs' ∧ bs.Perm bs' := by
  induction hperm with
  | nil => intro bs h; exact ⟨bs, h, .refl bs⟩
  | cons a _ ih =>
    intro bs h
    obtain ⟨b, rest, hb, hrest, rfl⟩ := mapM_cons_eq_ok.mp h
    obtain ⟨rest', hrest', hsame⟩ := ih hrest
    exact ⟨b :: rest', mapM_cons_eq_ok.mpr ⟨b, rest', hb, hrest', rfl⟩, hsame.cons b⟩
  | swap a₁ a₂ l =>
    intro bs h
    obtain ⟨b₂, rest₂, hb₂, hrest₂, rfl⟩ := mapM_cons_eq_ok.mp h
    obtain ⟨b₁, rest, hb₁, hrest, rfl⟩ := mapM_cons_eq_ok.mp hrest₂
    have hswapped : (a₁ :: a₂ :: l).mapM f = .ok (b₁ :: b₂ :: rest) :=
      mapM_cons_eq_ok.mpr ⟨b₁, _, hb₁, mapM_cons_eq_ok.mpr ⟨b₂, rest, hb₂, hrest, rfl⟩, rfl⟩
    exact ⟨_, hswapped, .swap b₁ b₂ rest⟩
  | trans _ _ ih ih' =>
    intro bs h
    obtain ⟨bs', h', hsame⟩ := ih h
    obtain ⟨bs'', h'', hsame'⟩ := ih' h'
    exact ⟨bs'', h'', hsame.trans hsame'⟩

/-- A traversal succeeds if every item does. -/
theorem exists_mapM_ok {P : β → Prop} : ∀ {l : List α}, (∀ a ∈ l, ∃ b, f a = .ok b ∧ P b) →
    ∃ bs, l.mapM f = .ok bs ∧ ∀ b ∈ bs, P b := by
  intro l
  induction l with
  | nil => intro _; exact ⟨[], rfl, by simp⟩
  | cons a l ih =>
    intro h
    obtain ⟨b, hb, hPb⟩ := h a (by simp)
    obtain ⟨bs, hbs, hPbs⟩ := ih fun c hc => h c (List.mem_cons_of_mem a hc)
    exact ⟨b :: bs, mapM_cons_eq_ok.mpr ⟨b, bs, hb, hbs, rfl⟩,
      List.forall_mem_cons.mpr ⟨hPb, hPbs⟩⟩

/-- Each result comes from an item. -/
theorem exists_of_mem_mapM : ∀ {l : List α} {bs : List β}, l.mapM f = .ok bs →
    ∀ b ∈ bs, ∃ a ∈ l, f a = .ok b := by
  intro l
  induction l with
  | nil => intro bs h; cases h; simp
  | cons a l ih =>
    intro bs h
    obtain ⟨b, rest, hb, hrest, rfl⟩ := mapM_cons_eq_ok.mp h
    intro c hc
    rcases List.mem_cons.mp hc with rfl | hc
    · exact ⟨a, by simp, hb⟩
    · obtain ⟨d, hd, hdc⟩ := ih hrest c hc
      exact ⟨d, List.mem_cons_of_mem a hd, hdc⟩

/-- Each item gives a result. -/
theorem exists_mem_of_mapM : ∀ {l : List α} {bs : List β}, l.mapM f = .ok bs →
    ∀ a ∈ l, ∃ b ∈ bs, f a = .ok b := by
  intro l
  induction l with
  | nil => intro bs _ a ha; cases ha
  | cons a l ih =>
    intro bs h
    obtain ⟨b, rest, hb, hrest, rfl⟩ := mapM_cons_eq_ok.mp h
    intro c hc
    rcases List.mem_cons.mp hc with rfl | hc
    · exact ⟨b, by simp, hb⟩
    · obtain ⟨e, he, hce⟩ := ih hrest c hc
      exact ⟨e, List.mem_cons_of_mem b he, hce⟩

/-! ## Runs that succeed -/

/-- The run gives a result. -/
def Succeeds (x : Except ε α) : Prop := ∃ a, x = .ok a

theorem succeeds_ok (a : α) : Succeeds (.ok a : Except ε α) := ⟨a, rfl⟩

theorem not_succeeds_error (e : ε) : ¬ Succeeds (.error e : Except ε α) := by
  rintro ⟨a, h⟩
  cases h

theorem succeeds_map_iff {x : Except ε α} {g : α → β} : Succeeds (x.map g) ↔ Succeeds x := by
  cases x with
  | error e => exact iff_of_false (not_succeeds_error e) (not_succeeds_error e)
  | ok a => exact iff_of_true (succeeds_ok _) (succeeds_ok a)

/-- A step that always succeeds makes no difference. -/
theorem succeeds_bind_pure_iff {x : Except ε α} {g : α → β} :
    Succeeds (x >>= fun a => pure (g a)) ↔ Succeeds x := by
  cases x with
  | error e => exact iff_of_false (not_succeeds_error e) (not_succeeds_error e)
  | ok a => exact iff_of_true (succeeds_ok _) (succeeds_ok a)

/-- If a second step does not depend on the result of the first, both have to succeed. -/
theorem succeeds_bind_iff {x : Except ε α} {g : α → Except ε β} {P : Prop}
    (h : ∀ a, x = .ok a → (Succeeds (g a) ↔ P)) : Succeeds (x >>= g) ↔ Succeeds x ∧ P := by
  cases x with
  | error e => exact iff_of_false (not_succeeds_error e) fun h => not_succeeds_error e h.1
  | ok a => exact (h a rfl).trans (and_iff_right (succeeds_ok a)).symm

/-- A traversal succeeds just if every item does. -/
theorem succeeds_mapM_iff : ∀ {l : List α}, Succeeds (l.mapM f) ↔ ∀ a ∈ l, Succeeds (f a) := by
  intro l
  induction l with
  | nil => exact iff_of_true (succeeds_ok []) (by simp)
  | cons a l ih =>
    rw [List.mapM_cons, List.forall_mem_cons, ← ih]
    exact succeeds_bind_iff fun b _ => succeeds_bind_pure_iff

/-! ## Two runs -/

/-- The two runs fail with the same error, or both succeed with related results. -/
inductive Corresponds (R : α → β → Prop) : Except ε α → Except ε β → Prop where
  | ok {a : α} {b : β} (h : R a b) : Corresponds R (.ok a) (.ok b)
  | error (e : ε) : Corresponds R (.error e) (.error e)

namespace Corresponds

variable {γ δ : Type} {R : α → β → Prop} {S : γ → δ → Prop}

theorem of_same (x : Except ε α) : Corresponds (· = ·) x x := by
  cases x with
  | error e => exact .error e
  | ok a => exact .ok rfl

theorem bind {x : Except ε α} {y : Except ε β} {f : α → Except ε γ} {g : β → Except ε δ}
    (h : Corresponds R x y) (hstep : ∀ a b, R a b → Corresponds S (f a) (g b)) :
    Corresponds S (x >>= f) (y >>= g) := by
  cases h with
  | ok h => exact hstep _ _ h
  | error e => exact .error e

/-- Results that look the same after a further step make the runs the same. -/
theorem map_eq {x : Except ε α} {y : Except ε β} {f : α → γ} {g : β → γ} (h : Corresponds R x y)
    (hstep : ∀ a b, R a b → f a = g b) : x.map f = y.map g := by
  cases h with
  | ok h => exact congrArg Except.ok (hstep _ _ h)
  | error e => rfl

/-- Traversals correspond if they do so at every item. -/
theorem mapM {f : α → Except ε γ} {g : α → Except ε δ} :
    ∀ {l : List α}, (∀ a ∈ l, Corresponds S (f a) (g a)) →
      Corresponds (List.Forall₂ S) (l.mapM f) (l.mapM g) := by
  intro l
  induction l with
  | nil => intro _; exact .ok .nil
  | cons a l ih =>
    intro h
    rw [List.mapM_cons, List.mapM_cons]
    refine (h a List.mem_cons_self).bind fun c d hcd => ?_
    refine (ih fun b hb => h b (List.mem_cons_of_mem a hb)).bind fun cs ds hrest => ?_
    exact .ok (.cons hcd hrest)

end Corresponds

/-! ## Items that may be missing -/

theorem forall_mem_ite_nil {P : α → Prop} {p : Prop} [Decidable p] {l : List α}
    (h : ∀ a ∈ l, P a) : ∀ a ∈ (if p then l else []), P a := by
  split
  · exact h
  · simp

theorem forall_mem_toList {P : α → Prop} {x : Option α} (h : ∀ a, x = some a → P a) :
    ∀ a ∈ x.toList, P a :=
  fun a ha => h a (Option.mem_toList.mp ha)

theorem forall_mem_toList_map {P : β → Prop} {f : α → β} {x : Option α}
    (h : ∀ a, x = some a → P (f a)) : ∀ b ∈ (x.map f).toList, P b := by
  refine forall_mem_toList fun b hb => ?_
  obtain ⟨a, ha, rfl⟩ := Option.map_eq_some_iff.mp hb
  exact h a ha

end SchemaModels
