import SchemaModels.Proofs.Model.Failures
import SchemaModels.Proofs.Naming.StyledIdentifiers

/-!
# Names of models as names of classes

In all languages but the oldest a model is a class, and its name is written where an identifier must
stand. `Settings.namesClass_iff` says for which tables the name is one that a class can have. It is
never a reserved word, since these are escaped. But whether the styled name is an identifier at all
is not looked at, and nothing is done to make it one: a digit in front spoils it, and so does a
letter without a form in ASCII, whatever else stands in a name that is kept as it is, a hyphen that
the style puts in, or that nothing is left of the name (`Settings.misnames_models`).
-/

namespace SchemaModels

open Naming Text

/-! ## Names that a class can have -/

/-- The name is not taken in code of the language. -/
structure IsFree (language : Language) (name : String) : Prop where
  unreserved : name ∉ reservedWords
  /-- Typed code must not hide the global types. -/
  unhiding : language = .ts → name ∉ globalTypes

/-- The name can stand for a class in code of the language. -/
structure IsClassName (language : Language) (name : String) : Prop
    extends IsFree language name where
  identifier : isIdentifier name = true

theorem isFree_iff {language : Language} {name : String} :
    IsFree language name ↔ isReserved language.isTyped name = false := by
  have hsplit : isReserved language.isTyped name = false ↔
      name ∉ reservedWords ∧ (language = .ts → name ∉ globalTypes) := by
    simp [isReserved, Language.isTyped]
  rw [hsplit]
  exact ⟨fun h => ⟨h.unreserved, h.unhiding⟩, fun h => ⟨h.1, h.2⟩⟩

/-- A name that is kept clear of reserved words can stand for a class if it is an identifier. -/
theorem isClassName_avoidReserved_iff {language : Language} {name : String} :
    IsClassName language (avoidReserved language.isTyped name) ↔ isIdentifier name = true := by
  have hfree : IsFree language (avoidReserved language.isTyped name) :=
    isFree_iff.mpr (isReserved_avoidReserved _ _)
  constructor
  · intro h
    rw [← isIdentifier_avoidReserved language.isTyped]
    exact h.identifier
  · intro h
    exact ⟨hfree, by rwa [isIdentifier_avoidReserved]⟩

/-! ## Models -/

namespace Settings

/-- The name that the style for models is applied to. -/
def baseName (s : Settings) (t : Table) : Except InflectionFailure String :=
  if s.singularize then Naming.singularize t.name.name else .ok t.name.name

theorem modelName_eq (s : Settings) (t : Table) : s.modelName t =
    (s.baseName t).map fun base =>
      avoidReserved s.language.isTyped (s.modelStyle.restyle base) := by
  unfold modelName NameStyle.apply baseName
  split
  · cases Naming.singularize t.name.name <;> rfl
  · rfl

/-- The name of the model is the base name in the style for models, up to a reserved word. -/
theorem modelName_eq_ok_iff {s : Settings} {t : Table} {model : String} :
    s.modelName t = .ok model ↔ ∃ base, s.baseName t = .ok base ∧
      avoidReserved s.language.isTyped (s.modelStyle.restyle base) = model := by
  rw [modelName_eq]
  cases s.baseName t <;> simp [Except.map]

theorem succeeds_baseName_iff {s : Settings} {t : Table} : Succeeds (s.baseName t) ↔
    (s.singularize = true → ¬ Stumbles singularEndings t.name.name) := by
  rw [← succeeds_singularize_iff, ← succeeds_modelName_iff, modelName_eq, succeeds_map_iff]

/-- The model of the table gets a name that its class can have. -/
def NamesClass (s : Settings) (t : Table) : Prop :=
  ∃ model, s.modelName t = .ok model ∧ IsClassName s.language model

theorem namesClass_iff_baseName {s : Settings} {t : Table} : s.NamesClass t ↔
    ∃ base, s.baseName t = .ok base ∧ s.modelStyle.MakesIdentifier base := by
  have hname : ∀ base, IsClassName s.language
      (avoidReserved s.language.isTyped (s.modelStyle.restyle base)) ↔
        s.modelStyle.MakesIdentifier base :=
    fun _ => isClassName_avoidReserved_iff.trans NameStyle.isIdentifier_restyle_iff
  constructor
  · rintro ⟨model, hmodel, h⟩
    obtain ⟨base, hbase, rfl⟩ := modelName_eq_ok_iff.mp hmodel
    exact ⟨base, hbase, (hname base).mp h⟩
  · rintro ⟨base, hbase, h⟩
    exact ⟨_, modelName_eq_ok_iff.mpr ⟨base, hbase, rfl⟩, (hname base).mpr h⟩

/-- **Which models get a name that a class can have**, for every language, style and table. No name
is ever taken; but the name of the table must have a singular, if that is asked for, and what the
style makes of it must be an identifier. -/
theorem namesClass_iff (s : Settings) (t : Table) :
    (∀ model, s.modelName t = .ok model → IsFree s.language model) ∧
      (s.NamesClass t ↔
        (s.singularize = true → ¬ Stumbles singularEndings t.name.name) ∧
          ∀ base, s.baseName t = .ok base → s.modelStyle.MakesIdentifier base) := by
  refine ⟨fun model h => ?_, ?_⟩
  · obtain ⟨base, -, rfl⟩ := modelName_eq_ok_iff.mp h
    exact isFree_iff.mpr (isReserved_avoidReserved _ _)
  · rw [namesClass_iff_baseName, ← succeeds_baseName_iff]
    constructor
    · rintro ⟨base, hbase, h⟩
      refine ⟨⟨base, hbase⟩, fun other hother => ?_⟩
      cases hbase.symm.trans hother
      exact h
    · rintro ⟨⟨base, hbase⟩, h⟩
      exact ⟨base, hbase, h base hbase⟩

/-- The model of a table of this name is a class, and the name that it gets is no identifier. -/
def Misnames (s : Settings) (table model : String) : Prop :=
  s.language.isClassBased = true ∧ s.modelName { name := .parse table } = .ok model ∧
    isIdentifier model = false

instance (s : Settings) (table model : String) : Decidable (s.Misnames table model) :=
  inferInstanceAs (Decidable (_ ∧ _ ∧ _))

/-- Names of tables from which no name for a class is made, one for each way to spoil it. -/
theorem misnames_models :
    Misnames { language := .es6 } "9lives" "9lives" ∧
    Misnames { language := .ts, modelStyle := .pascal } "café" "Café" ∧
    Misnames { language := .esm } "order items" "order items" ∧
    Misnames { language := .ts, modelStyle := .kebab } "order_items" "order-items" ∧
    Misnames { language := .ts, modelStyle := .camel } "__" "" ∧
    Misnames { language := .es6, singularize := true } "s" "" := by
  decide +kernel

end Settings
end SchemaModels
