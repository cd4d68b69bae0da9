import SchemaModels.Proofs.Model.AssociationBlocks
import SchemaModels.Proofs.Model.Composition
import SchemaModels.Proofs.Naming.InflectionFailures

/-!
# Where a run fails

A run fails only where inflection does. It asks for the singulars of the tables that it names models
and files after, and for both forms of the properties that hold collections, and for nothing else
(`Database.AsksSingular`, `Database.AsksPlural`). `Database.generates_iff` says that a run gives
every table its text just if it stumbles over none of these names. Some tables and properties do
make it stumble, so a run can fail on what is in a schema (`Database.cafes_fail`).
-/

namespace SchemaModels

open Naming Text

/-! ## Names in a style -/

theorem Naming.NameStyle.succeeds_apply_iff {style : NameStyle} {singular : Bool} {name : String} :
    Succeeds (style.apply singular name) ↔
      (singular = true → Succeeds (singularize name)) := by
  unfold apply
  split
  · next h => rw [succeeds_map_iff, h]; simp
  · next h => exact iff_of_true (succeeds_ok _) fun hsingular => absurd hsingular h

/-! ## Modules -/

/-- The file of another table needs its singular if files are named in the singular. -/
theorem Settings.succeeds_fileName_iff {s : Settings} {table : String} :
    Succeeds (s.fileName table) ↔ (s.singularize = true → Succeeds (Naming.singularize table)) :=
  NameStyle.succeeds_apply_iff

theorem Settings.succeeds_modelName_iff {s : Settings} {t : Table} :
    Succeeds (s.modelName t) ↔
      (s.singularize = true → Succeeds (Naming.singularize t.name.name)) :=
  succeeds_bind_pure_iff.trans NameStyle.succeeds_apply_iff

theorem TypedSection.succeeds_of_iff {s : Settings} {t : Table} {m : Mixins} :
    Succeeds (TypedSection.of s t m) ↔ ∀ table ∈ m.needed.map (·.1), s.singularize = true →
      Succeeds (singularize (TableName.split table).2) := by
  refine (succeeds_bind_pure_iff.trans succeeds_mapM_iff).trans ?_
  rw [List.forall_mem_map]
  exact forall₂_congr fun e _ => succeeds_bind_pure_iff.trans Settings.succeeds_fileName_iff

/-- The names that the typed section of a table needs forms of have them. -/
theorem Table.succeeds_typedSection_iff {ctx : Context} {relations : List Relation} {t : Table} :
    Succeeds (t.typedSection ctx relations) ↔
      (∀ a ∈ associationsOf relations t.name.qualified, a.IsMany →
        Succeeds (singularize a.other.property) ∧ Succeeds (pluralize a.other.property)) ∧
      ∀ a ∈ associationsOf relations t.name.qualified,
        a.other.table ≠ qualifyFor relations t.name.qualified → ctx.settings.singularize = true →
          Succeeds (singularize (TableName.split a.other.table).2) := by
  unfold typedSection
  rw [← Mixins.succeeds_of_iff]
  refine succeeds_bind_iff fun mixins hmixins => ?_
  rw [TypedSection.succeeds_of_iff]
  constructor
  · intro h a ha hother
    exact h a.other.table ((Mixins.mem_tables_needed hmixins).mpr ⟨⟨a, ha, rfl⟩, hother⟩)
  · intro h table htable
    obtain ⟨⟨a, ha, rfl⟩, hother⟩ := (Mixins.mem_tables_needed hmixins).mp htable
    exact h a ha hother

/-- The module of a table needs a singular for the name of its model and, if it is typed, the forms
of the names in its typed section. -/
theorem Table.succeeds_generate_iff {ctx : Context} {relations : List Relation} {t : Table} :
    Succeeds (t.generate ctx relations) ↔
      (ctx.settings.language.isTyped = true → Succeeds (t.typedSection ctx relations)) ∧
      (ctx.settings.singularize = true → Succeeds (singularize t.name.name)) := by
  have hcontent : Succeeds (ModuleContent.of ctx relations t) ↔
      (ctx.settings.language.isTyped = true → Succeeds (t.typedSection ctx relations)) := by
    unfold ModuleContent.of
    dsimp only
    split
    · next htyped =>
      rw [succeeds_bind_pure_iff, succeeds_map_iff, htyped]
      simp
    · next huntyped => exact iff_of_true (succeeds_ok _) fun htyped => absurd htyped huntyped
  rw [← hcontent, ← Settings.succeeds_modelName_iff]
  exact succeeds_bind_iff fun content _ => succeeds_bind_pure_iff

/-! ## Runs -/

namespace Database

/-- The run asks for the singular of the name: of the tables that it names models after, of the
other tables whose files it imports from, and of the properties that hold collections. -/
inductive AsksSingular (s : Settings) (d : Database) : String → Prop where
  | model {t : Table} (ht : t ∈ d.tables) (hasked : s.singularize = true) :
      AsksSingular s d t.name.name
  | file {t : Table} {a : Association} (ht : t ∈ d.tables) (htyped : s.language.isTyped = true)
      (ha : a ∈ associationsOf d.relations t.name.qualified)
      (hother : a.other.table ≠ qualifyFor d.relations t.name.qualified)
      (hasked : s.singularize = true) : AsksSingular s d (TableName.split a.other.table).2
  | property {t : Table} {a : Association} (ht : t ∈ d.tables) (htyped : s.language.isTyped = true)
      (ha : a ∈ associationsOf d.relations t.name.qualified) (hmany : a.IsMany) :
      AsksSingular s d a.other.property

/-- The run asks for the plural of the name: of the properties that hold collections. -/
inductive AsksPlural (s : Settings) (d : Database) : String → Prop where
  | property {t : Table} {a : Association} (ht : t ∈ d.tables) (htyped : s.language.isTyped = true)
      (ha : a ∈ associationsOf d.relations t.name.qualified) (hmany : a.IsMany) :
      AsksPlural s d a.other.property

variable {ctx : Context} {d : Database}

theorem succeeds_generate_iff :
    Succeeds (d.generate ctx) ↔ ∀ t ∈ d.tables, Succeeds (t.generate ctx d.relations) :=
  succeeds_bind_pure_iff.trans succeeds_mapM_iff

/-- Nothing but the names that a run asks for makes it fail. -/
theorem succeeds_generate_iff_of_asked :
    Succeeds (d.generate ctx) ↔
      (∀ name, d.AsksSingular ctx.settings name → ¬ Stumbles singularEndings name) ∧
        ∀ name, d.AsksPlural ctx.settings name → ¬ Stumbles pluralEndings name := by
  simp only [succeeds_generate_iff, ← succeeds_singularize_iff, ← succeeds_pluralize_iff]
  constructor
  · intro htables
    have hsections : ∀ t ∈ d.tables, ctx.settings.language.isTyped = true →
        Succeeds (t.typedSection ctx d.relations) :=
      fun t ht => (Table.succeeds_generate_iff.mp (htables t ht)).1
    refine ⟨fun name h => ?_, fun name h => ?_⟩
    · cases h with
      | model ht hasked => exact (Table.succeeds_generate_iff.mp (htables _ ht)).2 hasked
      | file ht htyped ha hother hasked =>
        exact (Table.succeeds_typedSection_iff.mp (hsections _ ht htyped)).2 _ ha hother hasked
      | property ht htyped ha hmany =>
        exact ((Table.succeeds_typedSection_iff.mp (hsections _ ht htyped)).1 _ ha hmany).1
    · cases h with
      | property ht htyped ha hmany =>
        exact ((Table.succeeds_typedSection_iff.mp (hsections _ ht htyped)).1 _ ha hmany).2
  · rintro ⟨hsingular, hplural⟩ t ht
    refine Table.succeeds_generate_iff.mpr ⟨fun htyped => ?_, fun hasked => ?_⟩
    · refine Table.succeeds_typedSection_iff.mpr
        ⟨fun a ha hmany => ?_, fun a ha hother hasked => ?_⟩
      · exact ⟨hsingular _ (.property ht htyped ha hmany), hplural _ (.property ht htyped ha hmany)⟩
      · exact hsingular _ (.file ht htyped ha hother hasked)
    · exact hsingular _ (.model ht hasked)

/-- A run does not fail on names in ASCII. -/
theorem succeeds_generate_of_ascii
    (htables : ∀ t ∈ d.tables, ∀ c ∈ t.name.name.toList, isAscii c = true)
    (hrelations : ∀ r ∈ d.relations, ∀ e ∈ [r.parent, r.child],
      ∀ c ∈ e.table.toList ++ e.property.toList, isAscii c = true) :
    Succeeds (d.generate ctx) := by
  have hother : ∀ {table : String} {a : Association}, a ∈ associationsOf d.relations table →
      ∀ c ∈ a.other.table.toList ++ a.other.property.toList, isAscii c = true := by
    intro table a ha
    refine hrelations a.relation (relation_mem_of_mem_associationsOf ha) a.other ?_
    unfold Association.other
    split <;> simp
  refine succeeds_generate_iff_of_asked.mpr ⟨fun name h => ?_, fun name h => ?_⟩
  · refine not_stumbles_of_ascii _ ?_
    cases h with
    | model ht _ => exact htables _ ht
    | file _ _ ha _ _ =>
      exact fun c hc => hother ha c (List.mem_append_left _ (TableName.mem_of_mem_split hc))
    | property _ _ ha _ => exact fun c hc => hother ha c (List.mem_append_right _ hc)
  · refine not_stumbles_of_ascii _ ?_
    cases h with
    | property _ _ ha _ => exact fun c hc => hother ha c (List.mem_append_right _ hc)

/-- **A run gives every table its text just if it stumbles over none of the names it asks for.** -/
theorem generates_iff :
    (∃ texts, d.generate ctx = .ok texts ∧
      ∀ t ∈ d.tables, ∃ text, texts.get? t.name.qualified = some text) ↔
    (∀ name, d.AsksSingular ctx.settings name → ¬ Stumbles singularEndings name) ∧
      ∀ name, d.AsksPlural ctx.settings name → ¬ Stumbles pluralEndings name := by
  rw [← succeeds_generate_iff_of_asked]
  constructor
  · rintro ⟨texts, htexts, -⟩
    exact ⟨texts, htexts⟩
  · rintro ⟨texts, htexts⟩
    exact ⟨texts, htexts, fun t ht => exists_text_of_generate htexts ht⟩

/-- Cities and their cafés. -/
def cafes : Database := {
  tables := [
    { name := ⟨none, "cities"⟩
      fields := [{ name := "id", sqlType := "int", primaryKey := true }] },
    { name := ⟨none, "cafes"⟩, fields := [{ name := "city_id", sqlType := "int" }] }]
  relations := [{
    parent := { table := "cities", model := "cities", property := "city", key := "city_id" }
    child := { table := "cafes", model := "cafes", property := "Café", key := "id" } }] }

/-- Species, in a table of their own for each author. -/
def species : Database := {
  tables := [
    { name := ⟨none, "Linnæus"⟩, fields := [{ name := "name", sqlType := "text" }] }] }

/-- A run can fail on what is in a schema: on a property that holds a collection and on the name of
a table. -/
theorem cafes_fail :
    cafes.generate ⟨{ language := .ts }, .postgres⟩ = .error ⟨"Café", "é"⟩ ∧
      species.generate ⟨{ singularize := true }, .postgres⟩ = .error ⟨"Linnæus", "æus"⟩ := by
  decide +kernel

end Database
end SchemaModels
