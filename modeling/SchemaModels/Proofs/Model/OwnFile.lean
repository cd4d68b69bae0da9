import SchemaModels.Proofs.Model.Failures
import SchemaModels.Proofs.Model.ModuleExports
import SchemaModels.Proofs.Naming.StyledNames

/-!
# Imports from the own file

A typed module imports types from the modules of the tables that its table is associated with, but
not from those of the table itself. Which table is the table itself is decided by its qualified name
as the relations know it. The file to import from, on the other hand, is named after the table
alone, without its schema, in the style for files and perhaps in the singular. So there is an import
from the own file just if a relation leads to a table of another qualified name whose file has the
same name (`Table.importsOwnFile_iff`). That happens with tables of one name in two schemas, and
with a relation of a table to itself that has the schema at one end only.
-/

namespace SchemaModels

open Naming Text

/-! ## Files -/

/-- What the file of a table is named after: its name, or the singular of it. -/
def Settings.fileStem (s : Settings) (table : String) : Except InflectionFailure String :=
  if s.singularize then Naming.singularize table else .ok table

/-- Two tables have one file: the style for files sees no difference between the names of them. -/
def Settings.SharesFile (s : Settings) (a b : String) : Prop :=
  ∃ x y, s.fileStem a = .ok x ∧ s.fileStem b = .ok y ∧ s.fileStyle.Alike x y

theorem Settings.fileName_eq (s : Settings) (table : String) :
    s.fileName table = (s.fileStem table).map s.fileStyle.restyle := by
  unfold fileName NameStyle.apply fileStem
  split <;> rfl

theorem Settings.fileName_eq_ok_iff {s : Settings} {table file : String} :
    s.fileName table = .ok file ↔ ∃ x, s.fileStem table = .ok x ∧ s.fileStyle.restyle x = file := by
  rw [fileName_eq]
  cases s.fileStem table <;> simp [Except.map]

/-- A table has the same file as another one whose file is known. -/
theorem Settings.sharesFile_iff {s : Settings} {a b file : String} (hb : s.fileName b = .ok file) :
    s.SharesFile a b ↔ s.fileName a = .ok file := by
  obtain ⟨y, hy, rfl⟩ := fileName_eq_ok_iff.mp hb
  rw [fileName_eq_ok_iff]
  constructor
  · rintro ⟨x, z, hx, hz, halike⟩
    obtain rfl : y = z := Except.ok.inj (hy.symm.trans hz)
    exact ⟨x, hx, (NameStyle.restyle_eq_restyle_iff _ _ _).mpr halike⟩
  · rintro ⟨x, hx, heq⟩
    exact ⟨x, y, hx, hy, (NameStyle.restyle_eq_restyle_iff _ _ _).mp heq⟩

/-- The file of a table has a name if its model has one: both are named after the same form. -/
theorem Settings.exists_fileName {s : Settings} {t : Table} {model : String}
    (h : s.modelName t = .ok model) : ∃ file, s.fileName t.name.name = .ok file :=
  succeeds_fileName_iff.mpr (succeeds_modelName_iff.mp ⟨model, h⟩)

/-! ## Imports -/

/-- The table sees a relation as the association just if that is one of the sides of a relation. -/
theorem mem_associationsOf_iff {relations : List Relation} {table : String} {a : Association} :
    a ∈ associationsOf relations table ↔
      ∃ r ∈ relations, (qualifyFor relations table, a) ∈ r.sides := by
  rw [associationsOf, List.mem_filterMap]
  exact exists_congr fun r => and_congr_right fun _ => Association.of?_eq_some_iff

/-- The imports of a typed section are for the tables that something is needed from. -/
theorem TypedSection.exists_import_iff {s : Settings} {t : Table} {mixins : Mixins}
    {x : TypedSection} (h : TypedSection.of s t mixins = .ok x) {file : String} :
    (∃ i ∈ x.imports, i.file = file) ↔
      ∃ table ∈ mixins.needed.map (·.1), s.fileName (TableName.split table).2 = .ok file := by
  obtain ⟨imports, himports, hx⟩ := bind_eq_ok.mp h
  cases hx
  have himport : ∀ {needed i}, importOf s needed = .ok i →
      s.fileName (TableName.split needed.1).2 = .ok i.file := by
    intro needed i hi
    obtain ⟨f, hf, hi⟩ := bind_eq_ok.mp hi
    cases hi
    exact hf
  constructor
  · rintro ⟨i, hi, rfl⟩
    obtain ⟨needed, hneeded, heq⟩ := exists_of_mem_mapM himports i hi
    exact ⟨needed.1, List.mem_map_of_mem hneeded, himport heq⟩
  · rintro ⟨table, htable, hfile⟩
    obtain ⟨needed, hneeded, rfl⟩ := List.mem_map.mp htable
    obtain ⟨i, hi, heq⟩ := exists_mem_of_mapM himports needed hneeded
    exact ⟨i, hi, Except.ok.inj ((himport heq).symm.trans hfile)⟩

/-- The module has a line that imports from the file, written under the name of its model. -/
def ModuleContent.ImportsFrom (ctx : Context) (c : ModuleContent) (model file : String) : Prop :=
  ∃ s, c.typed = some s ∧ ∃ i ∈ s.imports, i.file = file ∧
    HasLine (c.write ctx model).text (replace modelToken model i.render)

/-- The lines for the imports of a typed section are lines of the module. -/
theorem ModuleContent.importsFrom_iff {ctx : Context} (hts : ctx.settings.language = .ts)
    {c : ModuleContent} {s : TypedSection} (hs : c.typed = some s) {model file : String} :
    c.ImportsFrom ctx model file ↔ ∃ i ∈ s.imports, i.file = file := by
  constructor
  · rintro ⟨s', hs', i, hi, hfile, -⟩
    obtain rfl : s = s' := Option.some.inj (hs.symm.trans hs')
    exact ⟨i, hi, hfile⟩
  · rintro ⟨i, hi, hfile⟩
    have hline : i.render ∈ s.lines ctx := by
      simp only [TypedSection.lines, List.append_assoc, List.mem_append]
      exact .inl (List.mem_map_of_mem hi)
    exact ⟨s, hs, i, hi, hfile, hasLine_text hts hs hline model⟩

/-! ## The own file -/

/-- A relation leads from the table to one that has the same file but goes by another name. -/
def Table.LeadsToOwnFile (s : Settings) (relations : List Relation) (t : Table) : Prop :=
  ∃ r ∈ relations, ∃ a, (qualifyFor relations t.name.qualified, a) ∈ r.sides ∧
    a.other.table ≠ qualifyFor relations t.name.qualified ∧
    s.SharesFile (TableName.split a.other.table).2 t.name.name

/-- What the content of a typed module imports from the file of its table. -/
theorem ModuleContent.importsFrom_own_iff {ctx : Context} (hts : ctx.settings.language = .ts)
    {relations : List Relation} {t : Table} {c : ModuleContent} {model file : String}
    (hc : ModuleContent.of ctx relations t = .ok c)
    (hfile : ctx.settings.fileName t.name.name = .ok file) :
    c.ImportsFrom ctx model file ↔ t.LeadsToOwnFile ctx.settings relations := by
  obtain ⟨mixins, s, hmixins, hsection, hs⟩ := exists_typed hts hc
  rw [importsFrom_iff hts hs, TypedSection.exists_import_iff hsection]
  constructor
  · rintro ⟨table, htable, hother⟩
    obtain ⟨⟨a, ha, rfl⟩, hne⟩ := (Mixins.mem_tables_needed hmixins).mp htable
    obtain ⟨r, hr, hside⟩ := mem_associationsOf_iff.mp ha
    exact ⟨r, hr, a, hside, hne, (Settings.sharesFile_iff hfile).mpr hother⟩
  · rintro ⟨r, hr, a, hside, hne, hshares⟩
    have ha := mem_associationsOf_iff.mpr ⟨r, hr, hside⟩
    exact ⟨a.other.table, (Mixins.mem_tables_needed hmixins).mpr ⟨⟨a, ha, rfl⟩, hne⟩,
      (Settings.sharesFile_iff hfile).mp hshares⟩

/-- **A typed module imports from its own file** just if a relation leads from its table to one that
has the same file but goes by another name. -/
theorem Table.importsOwnFile_iff {ctx : Context} (hts : ctx.settings.language = .ts)
    {relations : List Relation} {t : Table} {m : ModelModule}
    (h : t.generate ctx relations = .ok m) :
    ∃ (c : ModuleContent) (model file : String), ModuleContent.of ctx relations t = .ok c ∧
      m = c.write ctx model ∧ ctx.settings.fileName t.name.name = .ok file ∧
      (c.ImportsFrom ctx model file ↔ t.LeadsToOwnFile ctx.settings relations) := by
  obtain ⟨-, c, model, hc, hmodel, hm⟩ := of_generate_eq_ok h
  obtain ⟨file, hfile⟩ := Settings.exists_fileName hmodel
  exact ⟨c, model, file, hc, hm, hfile, ModuleContent.importsFrom_own_iff hts hc hfile⟩

/-- Employees, some of whom report to others. -/
def employees : Table := {
  name := { schema := none, name := "employees" }
  fields := [
    { name := "id", sqlType := "int", primaryKey := true },
    { name := "manager_id", sqlType := "int", nullable := true }] }

/-- Employees report to employees; the child goes by the given name. -/
def reports (child : String) : Relation := {
  parent := { table := "employees", model := "employees", property := "manager", key := "manager_id" }
  child := { table := child, model := "employees", property := "employees", key := "id" } }

/-- Typed modules without any other choices. -/
def staffContext : Context := ⟨{ language := .ts }, .postgres⟩

theorem Table.importsOwnFile_iff_employees : ∃ m,
    employees.generate staffContext [reports "employees"] = .ok m ∧
    ∃ (c : ModuleContent) (model file : String),
      ModuleContent.of staffContext [reports "employees"] employees = .ok c ∧
      m = c.write staffContext model ∧ staffContext.settings.fileName "employees" = .ok file ∧
      (c.ImportsFrom staffContext model file ↔
        employees.LeadsToOwnFile staffContext.settings [reports "employees"]) := by
  obtain ⟨m, hm, -⟩ := exists_ok_of_any
    (x := employees.generate staffContext [reports "employees"]) (p := fun _ => true)
    (by decide +kernel)
  exact ⟨m, hm, importsOwnFile_iff rfl hm⟩

/-- With the schema at one end of the relation only, the employees import from themselves. -/
theorem Table.employees_import_themselves : ∃ m,
    employees.generate staffContext [reports "hr.employees"] = .ok m ∧
    ∃ (c : ModuleContent) (model : String),
      ModuleContent.of staffContext [reports "hr.employees"] employees = .ok c ∧
      m = c.write staffContext model ∧
      staffContext.settings.fileName employees.name.name = .ok "employees" ∧
      c.ImportsFrom staffContext model "employees" := by
  obtain ⟨m, hm, -⟩ := exists_ok_of_any
    (x := employees.generate staffContext [reports "hr.employees"]) (p := fun _ => true)
    (by decide +kernel)
  obtain ⟨-, c, model, hc, -, hwrite⟩ := of_generate_eq_ok hm
  refine ⟨m, hm, c, model, hc, hwrite, rfl, ?_⟩
  refine (ModuleContent.importsFrom_own_iff rfl hc rfl).mpr ?_
  -- the table goes by the name of the child, and sees the parent under the name it has itself
  have hknown : qualifyFor [reports "hr.employees"] employees.name.qualified = "hr.employees" := by
    decide
  refine ⟨reports "hr.employees", List.mem_singleton_self _, ⟨.belongsTo, reports "hr.employees"⟩,
    ?_, ?_, "employees", "employees", rfl, rfl, rfl⟩
  · rw [hknown]
    exact List.mem_cons_self
  · rw [hknown]
    decide

end SchemaModels
