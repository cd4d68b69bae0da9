import Mathlib.Data.List.Forall2
import SchemaModels.Proofs.Text.CaseStable

/-!
# Texts that can be read off

A way of writing values can be read off if what is written tells where it ends and what it stands
for, whatever follows (`ReadsOff`): of two texts that are the same, the first values are related and
the rests are the same. Some values end only where a character comes that cannot be theirs, so
what may follow is a part of the notion.

A run of characters of one kind ends at the first other one (`append_inj_of_stops`), a text at a
mark that is not in it (`append_inj_of_mark`). From there on ways of writing are put together:
between fixed texts, one after the other in a list that is closed by a text no item begins with
(`ReadsOff.flatMap`), and in a list with separators (`ReadsOff.separated`).
-/

namespace SchemaModels.Text

/-- The text does not begin with a character of the kind. -/
def Stops (p : Char → Bool) (cs : List Char) : Prop := ∀ c ∈ cs.head?, p c = false

/-- A run of characters of one kind can be read off. -/
theorem append_inj_of_stops {p : Char → Bool} {as bs s t : List Char} (has : Only p as)
    (hbs : Only p bs) (hs : Stops p s) (ht : Stops p t) (h : as ++ s = bs ++ t) :
    as = bs ∧ s = t := by
  have htake : ∀ {cs r : List Char}, Only p cs → Stops p r → (cs ++ r).takeWhile p = cs := by
    intro cs r hcs hr
    have hrest : r.takeWhile p = [] := by
      cases r with
      | nil => rfl
      | cons c r => exact List.takeWhile_cons_of_neg (by simp [hr c rfl])
    rw [List.takeWhile_append_of_pos hcs, hrest, List.append_nil]
  have hsame : as = bs := by rw [← htake has hs, h, htake hbs ht]
  exact ⟨hsame, List.append_cancel_left (hsame ▸ h)⟩

/-- A text can be read off up to a mark that is not in it. -/
theorem append_inj_of_mark {m : Char} {as bs s t : List Char} (has : m ∉ as) (hbs : m ∉ bs)
    (h : as ++ m :: s = bs ++ m :: t) : as = bs ∧ s = t := by
  have honly : ∀ {cs : List Char}, m ∉ cs → Only (· != m) cs :=
    fun hcs c hc => bne_iff_ne.mpr fun heq => hcs (heq ▸ hc)
  have hstops : ∀ r, Stops (· != m) (m :: r) := by
    rintro r c ⟨⟩
    exact bne_self_eq_false m
  obtain ⟨hsame, hrest⟩ := append_inj_of_stops (honly has) (honly hbs) (hstops s) (hstops t) h
  exact ⟨hsame, (List.cons.inj hrest).2⟩

variable {α : Type} {After : List Char → Prop} {P : α → Prop} {f : α → List Char}
  {R : α → α → Prop}

/-- What is written for two values tells them apart, unless they are related. -/
def ReadsOff (After : List Char → Prop) (P : α → Prop) (f : α → List Char) (R : α → α → Prop) :
    Prop :=
  ∀ ⦃a b s t⦄, P a → P b → After s → After t → f a ++ s = f b ++ t → R a b ∧ s = t

namespace ReadsOff

/-- Fixed texts may stand around. -/
theorem between (hf : ReadsOff After P f R) (start close : List Char)
    (hclose : ∀ s, After (close ++ s)) (Other : List Char → Prop) :
    ReadsOff Other P (fun a => start ++ (f a ++ close)) R := by
  intro a b s t ha hb _ _ h
  simp only [List.append_assoc] at h
  obtain ⟨hab, hrest⟩ := hf ha hb (hclose s) (hclose t) (List.append_cancel_left h)
  exact ⟨hab, List.append_cancel_left hrest⟩

/-- Items may follow each other up to a text that no item begins with. -/
theorem flatMap (hf : ReadsOff After P f R) (close : List Char)
    (hafter : ∀ a s, After (f a ++ s)) (hclose : ∀ s, After (close ++ s))
    (hend : ∀ a, P a → ∀ s t, f a ++ s ≠ close ++ t) (Other : List Char → Prop) :
    ReadsOff Other (fun l => ∀ a ∈ l, P a) (fun l => l.flatMap f ++ close) (List.Forall₂ R) := by
  have hrest : ∀ (l : List α) s, After (l.flatMap f ++ (close ++ s)) := by
    intro l s
    cases l with
    | nil => exact hclose s
    | cons a l =>
      rw [List.flatMap_cons, List.append_assoc]
      exact hafter a _
  intro as bs s t has hbs _ _ h
  simp only [List.append_assoc] at h
  induction as generalizing bs with
  | nil =>
    cases bs with
    | nil => exact ⟨.nil, List.append_cancel_left h⟩
    | cons b bs =>
      rw [List.flatMap_cons, List.append_assoc] at h
      exact absurd h.symm (hend b (hbs b List.mem_cons_self) _ _)
  | cons a as ih =>
    obtain ⟨ha, has⟩ := List.forall_mem_cons.mp has
    cases bs with
    | nil =>
      rw [List.flatMap_cons, List.append_assoc] at h
      exact absurd h (hend a ha _ _)
    | cons b bs =>
      obtain ⟨hb, hbs⟩ := List.forall_mem_cons.mp hbs
      rw [List.flatMap_cons, List.flatMap_cons, List.append_assoc, List.append_assoc] at h
      obtain ⟨hab, hrests⟩ := hf ha hb (hrest as s) (hrest bs t) h
      obtain ⟨hlists, hst⟩ := ih has hbs hrests
      exact ⟨.cons hab hlists, hst⟩

/-- A separator in front of a list is one in front of each item. -/
theorem append_intercalate (sep : List Char) : ∀ {l : List (List Char)}, l ≠ [] →
    sep ++ sep.intercalate l = l.flatMap (sep ++ ·) := by
  intro l
  induction l with
  | nil => intro h; exact absurd rfl h
  | cons x l ih =>
    intro _
    cases l with
    | nil => simp
    | cons y l =>
      rw [List.intercalate_cons_cons, List.append_assoc x, ih (List.cons_ne_nil _ _)]
      exact (List.append_assoc _ _ _).symm

/-- Items may be separated, where the list is closed by another text than a separator. -/
theorem separated (hf : ReadsOff After P f R) (sep close : List Char)
    (hafter : ∀ s, After (sep ++ s)) (hclose : ∀ s, After (close ++ s))
    (hend : ∀ s t, sep ++ s ≠ close ++ t) (Other : List Char → Prop) :
    ReadsOff Other (fun l => l ≠ [] ∧ ∀ a ∈ l, P a)
      (fun l => sep.intercalate (l.map f) ++ close) (List.Forall₂ R) := by
  have hitems : ReadsOff After P (fun a => sep ++ f a) R := by
    intro a b s t ha hb hs ht h
    rw [List.append_assoc, List.append_assoc] at h
    exact hf ha hb hs ht (List.append_cancel_left h)
  have hlist := hitems.flatMap close
    (fun a s => by rw [List.append_assoc]; exact hafter _) hclose
    (fun a _ s t => by rw [List.append_assoc]; exact hend _ t) Other
  have hflat : ∀ {l : List α}, l ≠ [] →
      sep ++ sep.intercalate (l.map f) = l.flatMap fun a => sep ++ f a := by
    intro l hl
    rw [append_intercalate sep (by simpa using hl), List.flatMap_map]
  rintro as bs s t ⟨hasne, has⟩ ⟨hbsne, hbs⟩ hs ht h
  refine hlist has hbs hs ht ?_
  simpa only [← hflat hasne, ← hflat hbsne, List.append_assoc, List.append_cancel_left_eq] using h

end ReadsOff
end SchemaModels.Text
