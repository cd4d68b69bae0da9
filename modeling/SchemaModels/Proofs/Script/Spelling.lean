import SchemaModels.Model.Context
import SchemaModels.Proofs.Script.Literal
import SchemaModels.Proofs.Text.Unmarked

/-!
# Names in script text

Generated code has the names of a database in literals, each behind a text that says what the name
is for. `Spells text names` says that the text has the given names in this way, one behind the
other. A text is put together from pieces, and what the pieces spell is put together with it
(`Spells.append`); lists of lines are followed line by line (`SpellsEach`).

The name of the model takes the place of its token late. Nothing that is spelled without a mark is
changed by that (`Spells.replace`).
-/

namespace SchemaModels.Script

open Text

/-- A name in generated code: between quotes, behind a text that says what the name is for. -/
structure WrittenName where
  before : String
  quoting : Quoting
  name : String
  deriving DecidableEq

namespace WrittenName

/-- The literal of the name. -/
def literal (n : WrittenName) : String :=
  n.quoting.write n.name

/-- The literal behind the text that says what it is for. -/
def spelled (n : WrittenName) : String :=
  n.before ++ n.literal

end WrittenName

/-- The text has the names in this order, none overlapping another. -/
inductive Spells : String → List WrittenName → Prop
  | nil (s) : Spells s []
  | cons (front) {n back ns} (h : Spells back ns) : Spells (front ++ n.spelled ++ back) (n :: ns)

variable {s t : String} {ns ms : List WrittenName}

theorem Spells.behind (front : String) (h : Spells s ns) : Spells (front ++ s) ns := by
  cases h with
  | nil => exact nil _
  | cons between h => simpa only [String.append_assoc] using cons (front ++ between) h

theorem Spells.append (hs : Spells s ns) (ht : Spells t ms) : Spells (s ++ t) (ns ++ ms) := by
  induction hs with
  | nil s => exact ht.behind s
  | cons front _ ih =>
    rw [String.append_assoc]
    exact cons front ih

theorem Spells.before (h : Spells s ns) (back : String) : Spells (s ++ back) ns := by
  have hboth := h.append (.nil back)
  rwa [List.append_nil] at hboth

section Quoted

variable {before opened name closed : String}

/-- A name that stands in its literal as it is. The text in front of it ends with the quote, the one
behind it begins with it. -/
theorem spells_bare (q : Quote) (back : String) (hopened : opened = before ++ q.mark)
    (hclosed : closed = q.mark ++ back) :
    Spells (opened ++ name ++ closed) [⟨before, ⟨q, false⟩, name⟩] := by
  have hspelled : WrittenName.spelled ⟨before, ⟨q, false⟩, name⟩
      = before ++ (q.mark ++ name ++ q.mark) := rfl
  have h : Spells ("" ++ WrittenName.spelled _ ++ back) [⟨before, ⟨q, false⟩, name⟩] :=
    .cons "" (.nil back)
  simpa only [hspelled, hopened, hclosed, String.append_assoc, String.empty_append] using h

/-- A name whose quotes are escaped in its literal. -/
theorem spells_escaped (q : Quote) (back : String) (hopened : opened = before ++ q.mark)
    (hclosed : closed = q.mark ++ back) :
    Spells (opened ++ backslashBefore q.char name ++ closed) [⟨before, ⟨q, true⟩, name⟩] := by
  have hspelled : WrittenName.spelled ⟨before, ⟨q, true⟩, name⟩
      = before ++ (q.mark ++ backslashBefore q.char name ++ q.mark) := rfl
  have h : Spells ("" ++ WrittenName.spelled _ ++ back) [⟨before, ⟨q, true⟩, name⟩] :=
    .cons "" (.nil back)
  simpa only [hspelled, hopened, hclosed, String.append_assoc, String.empty_append] using h

end Quoted

/-! ## Lists of texts -/

/-- Each text of a list spells its part of the names. -/
inductive SpellsEach : List String → List WrittenName → Prop
  | nil : SpellsEach [] []
  | cons {s l ns ms} (h : Spells s ns) (hl : SpellsEach l ms) : SpellsEach (s :: l) (ns ++ ms)

namespace SpellsEach

variable {α : Type} {l m : List String}

/-- Texts in which no name is looked for. -/
theorem silent : ∀ (l : List String), SpellsEach l [] := by
  intro l
  induction l with
  | nil => exact nil
  | cons s l ih => exact cons (.nil s) ih

theorem head (h : Spells s ns) (l : List String) : SpellsEach (s :: l) ns := by
  have hall := cons h (silent l)
  rwa [List.append_nil] at hall

theorem append (hl : SpellsEach l ns) (hm : SpellsEach m ms) : SpellsEach (l ++ m) (ns ++ ms) := by
  induction hl with
  | nil => exact hm
  | cons h _ ih =>
    rw [List.cons_append, List.append_assoc]
    exact cons h ih

theorem behind (l : List String) (h : SpellsEach m ns) : SpellsEach (l ++ m) ns :=
  (silent l).append h

theorem before (h : SpellsEach l ns) (m : List String) : SpellsEach (l ++ m) ns := by
  have hall := h.append (silent m)
  rwa [List.append_nil] at hall

theorem flatMap {f : α → List String} {g : α → List WrittenName} : ∀ {xs : List α},
    (∀ x ∈ xs, SpellsEach (f x) (g x)) → SpellsEach (xs.flatMap f) (xs.flatMap g) := by
  intro xs
  induction xs with
  | nil => intro _; exact nil
  | cons x xs ih =>
    intro h
    obtain ⟨hx, hxs⟩ := List.forall_mem_cons.mp h
    rw [List.flatMap_cons, List.flatMap_cons]
    exact hx.append (ih hxs)

theorem map {f : α → String} {g : α → List WrittenName} {xs : List α}
    (h : ∀ x ∈ xs, Spells (f x) (g x)) : SpellsEach (xs.map f) (xs.flatMap g) := by
  rw [List.map_eq_flatMap]
  exact flatMap fun x hx => head (h x hx) []

/-- Texts with one name each. -/
theorem map_one {f : α → String} {g : α → WrittenName} (h : ∀ x, Spells (f x) [g x])
    (xs : List α) : SpellsEach (xs.map f) (xs.map g) := by
  rw [List.map_eq_flatMap (f := g)]
  exact map fun x _ => h x

/-- A text that may be missing, with a name of its own. -/
theorem toList_map {f : α → String} {g : α → WrittenName} (h : ∀ x, Spells (f x) [g x]) :
    ∀ (x : Option α), SpellsEach (x.map f).toList (x.map g).toList
  | none => nil
  | some x => head (h x) []

theorem intercalate (sep : String) (h : SpellsEach l ns) :
    Spells (String.intercalate sep l) ns := by
  induction h with
  | nil => exact .nil _
  | @cons s l ns ms h hl ih =>
    cases l with
    | nil =>
      cases hl
      rw [List.append_nil, String.intercalate_singleton]
      exact h
    | cons t l =>
      rw [String.intercalate_cons_cons]
      exact (h.before sep).append ih

theorem unlines (h : SpellsEach l ns) : Spells (unlines l) ns := by
  induction h with
  | nil => exact .nil _
  | cons h _ ih =>
    rw [unlines_cons]
    exact (h.before "\n").append ih

end SpellsEach

/-! ## Putting in the name of the model -/

/-- What an unmarked text spells is unmarked. -/
theorem Spells.unmarked (h : Spells s ns) (hs : Unmarked s) : ∀ n ∈ ns, Unmarked n.spelled := by
  induction h with
  | nil => exact List.forall_mem_nil _
  | cons front _ ih =>
    rw [unmarked_append, unmarked_append] at hs
    exact List.forall_mem_cons.mpr ⟨hs.1.2, ih hs.2⟩

/-- An unmarked name stays where it is. -/
theorem replaceFrom_spelled {n : WrittenName} (hn : Unmarked n.spelled)
    (model front back : List Char) :
    replaceFrom modelToken.toList model 0 (front ++ n.spelled.toList ++ back)
      = replaceFrom modelToken.toList model 0 front ++ n.spelled.toList
        ++ replaceFrom modelToken.toList model 0 back := by
  -- the quote at the end cuts off what comes behind, the rest has no end of a token
  obtain ⟨init, hinit⟩ : ∃ init, n.spelled.toList = init ++ [n.quoting.quote.char] := by
    refine ⟨n.before.toList ++ n.quoting.quote.char :: n.quoting.body n.name.toList, ?_⟩
    rw [WrittenName.spelled, String.toList_append, WrittenName.literal, Quoting.toList_write]
    simp
  have hquote : n.quoting.quote.char ∉ modelToken.toList := by
    cases n.quoting.quote <;> decide
  have hlast : modelToken.toList.getLast? = some '#' := by decide
  have hmark : '#' ∉ init := by
    have hall := unmarked_iff.mp hn
    rw [hinit] at hall
    exact fun hmem => hall (List.mem_append_left _ hmem)
  rw [hinit, List.append_assoc, List.append_assoc, List.singleton_append, ← List.append_assoc,
    replaceFrom_append_cons (by decide) hquote,
    replaceFrom_append_of_notMem hlast hmark]
  simp

/-- **What is spelled stays when the name of the model is put in.** -/
theorem Spells.replace (model : String) (h : Spells s ns) (hns : ∀ n ∈ ns, Unmarked n.spelled) :
    Spells (replace modelToken model s) ns := by
  induction h with
  | nil => exact nil _
  | @cons front n back ns _ ih =>
    obtain ⟨hn, hns⟩ := List.forall_mem_cons.mp hns
    have hreplace : Text.replace modelToken model (front ++ n.spelled ++ back)
        = Text.replace modelToken model front ++ n.spelled
          ++ Text.replace modelToken model back := by
      refine String.toList_inj.mp ?_
      simp only [Text.replace, String.toList_append, String.toList_ofList]
      exact replaceFrom_spelled hn model.toList front.toList back.toList
    rw [hreplace]
    exact cons _ (ih hns)

end SchemaModels.Script
