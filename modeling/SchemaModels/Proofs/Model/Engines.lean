import SchemaModels.Model.Generation
import SchemaModels.Proofs.Traversal

/-!
# Engines

A run asks little about the engine that the schema comes from: whether tables live in schemas,
whether a column shows by itself that its value is generated, and which defaults mean none. Apart
from that it looks for the engine with identity columns and for the one without comments. Engines
that do not differ in what is asked about a table agree on it (`Dialect.AgreeOn`).

Where engines agree on all tables, their runs are the same (`Database.sameRun_of_agreeOn`). The
content of each module is, function by function, and what writes the content looks at the settings
only. `Database.sameRun` has the two cases in which engines agree: those without rules of their own
on every table, and all of them on the tables to which no such rule applies (`Table.IsPortable`).
-/

namespace SchemaModels

open Text

/-! ## What is asked -/

namespace Dialect

/-- Two engines do not differ in what is asked about a column of the table. -/
structure AgreeOnColumn (t : Table) (c : Column) (e₁ e₂ : Dialect) : Prop where
  serial : e₁.isSerial c = e₂.isSerial c
  default : ∀ v ∈ c.defaultValue, DefaultValue.meansNone e₁ v = DefaultValue.meansNone e₂ v
  comment : ∀ text ∈ c.comment, text ≠ "" → (e₁ = .mssql ↔ e₂ = .mssql)
  identity : ∀ k ∈ t.keyRole? c.name, k.isIdentity = true → (e₁ = .postgres ↔ e₂ = .postgres)

/-- Two engines do not differ in what is asked about a table. -/
structure AgreeOn (t : Table) (e₁ e₂ : Dialect) : Prop where
  schema : t.name.schema.isSome = true → e₁.hasSchemas = e₂.hasSchemas
  columns : ∀ c ∈ t.columns, AgreeOnColumn t c e₁ e₂

end Dialect

/-! ## What depends on it -/

section
variable {s : Settings} {t : Table} {c : Column} {e₁ e₂ : Dialect}

theorem DefaultValue.ofReported_congr {reported : Option Value} {sqlType : String}
    {elementType : Option String} {isSerial : Bool}
    (h : ∀ v ∈ reported, meansNone e₁ v = meansNone e₂ v) :
    ofReported reported sqlType elementType e₁ isSerial =
      ofReported reported sqlType elementType e₂ isSerial := by
  cases reported with
  | none => rfl
  | some v =>
    have hnone := h v rfl
    unfold ofReported
    dsimp only
    rw [hnone]

namespace Attribute

theorem ofCounting_congr {role : Option KeyRole} {counts : Bool}
    (h : ∀ k ∈ role, k.isIdentity = true → (e₁ = .postgres ↔ e₂ = .postgres)) :
    ofCounting ⟨s, e₁⟩ role counts = ofCounting ⟨s, e₂⟩ role counts := by
  have hidentity : (e₁ = .postgres ∧ role.any (·.isIdentity) = true) ↔
      (e₂ = .postgres ∧ role.any (·.isIdentity) = true) := by
    refine and_congr_left fun hrole => ?_
    obtain ⟨k, hk, hidentity⟩ := (Option.any_eq_true _ _).mp hrole
    exact h k hk hidentity
  unfold ofCounting
  simp only [Bool.and_eq_true, decide_eq_true_eq, hidentity]

theorem ofComment_congr {text : Option String}
    (h : ∀ s ∈ text, s ≠ "" → (e₁ = .mssql ↔ e₂ = .mssql)) :
    ofComment ⟨s, e₁⟩ text = ofComment ⟨s, e₂⟩ text := by
  cases text with
  | none => rfl
  | some comment =>
    have hcomment : (e₁ = .mssql ∨ comment = "") ↔ (e₂ = .mssql ∨ comment = "") := by
      by_cases hempty : comment = ""
      · simp [hempty]
      · simp [hempty, h comment rfl hempty]
    unfold ofComment
    simp only [Bool.or_eq_true, decide_eq_true_eq, hcomment]

/-- Engines that agree on a column declare the same about it. -/
theorem ofColumn_congr (h : Dialect.AgreeOnColumn t c e₁ e₂) :
    ofColumn ⟨s, e₁⟩ t c = ofColumn ⟨s, e₂⟩ t c := by
  unfold ofColumn
  dsimp only
  rw [h.serial, DefaultValue.ofReported_congr h.default, ofCounting_congr h.identity,
    ofComment_congr h.comment]

end Attribute

theorem Table.attributeBlocks_congr (h : Dialect.AgreeOn t e₁ e₂) :
    t.attributeBlocks ⟨s, e₁⟩ = t.attributeBlocks ⟨s, e₂⟩ := by
  have hblocks : ∀ c ∈ t.columns,
      AttributeBlock.ofColumn? ⟨s, e₁⟩ t c = AttributeBlock.ofColumn? ⟨s, e₂⟩ t c := by
    intro c hc
    unfold AttributeBlock.ofColumn?
    rw [Attribute.ofColumn_congr (h.columns c hc)]
  have hmap : ∀ e, t.attributeBlocks ⟨s, e⟩ =
      (t.columns.map (AttributeBlock.ofColumn? ⟨s, e⟩ t)).filterMap id := by
    intro e
    rw [List.filterMap_map]
    rfl
  rw [hmap, hmap, List.map_congr_left hblocks]

theorem TableOption.ofTable_congr (h : Dialect.AgreeOn t e₁ e₂) :
    ofTable ⟨s, e₁⟩ t = ofTable ⟨s, e₂⟩ t := by
  have hschema :
      (if e₁.hasSchemas then (t.name.schema.map TableOption.schema).toList else []) =
        if e₂.hasSchemas then (t.name.schema.map TableOption.schema).toList else [] := by
    cases hname : t.name.schema with
    | none => simp
    | some schema => rw [h.schema (by rw [hname]; rfl)]
  unfold ofTable
  dsimp only
  rw [hschema]

/-- Engines that agree on a table give its module the same content. -/
theorem ModuleContent.of_congr {relations : List Relation} (h : Dialect.AgreeOn t e₁ e₂) :
    ModuleContent.of ⟨s, e₁⟩ relations t = ModuleContent.of ⟨s, e₂⟩ relations t := by
  have htyped : t.typedSection ⟨s, e₁⟩ relations = t.typedSection ⟨s, e₂⟩ relations := rfl
  have hdefinition : t.definition ⟨s, e₁⟩ = t.definition ⟨s, e₂⟩ := by
    unfold Table.definition
    rw [Table.attributeBlocks_congr h, TableOption.ofTable_congr h]
  unfold ModuleContent.of
  rw [htyped, hdefinition]

/-- The engine plays no part in writing. -/
theorem ModuleContent.write_congr (s : Settings) (e₁ e₂ : Dialect) :
    ModuleContent.write ⟨s, e₁⟩ = ModuleContent.write ⟨s, e₂⟩ := rfl

theorem Table.generate_congr {relations : List Relation} (h : Dialect.AgreeOn t e₁ e₂) :
    t.generate ⟨s, e₁⟩ relations = t.generate ⟨s, e₂⟩ relations := by
  unfold Table.generate
  rw [ModuleContent.of_congr h, ModuleContent.write_congr s e₁ e₂]

/-- Engines that agree on a table generate one module for it. -/
theorem Database.modules_congr {d : Database} (h : ∀ t ∈ d.tables, Dialect.AgreeOn t e₁ e₂) :
    d.modules ⟨s, e₁⟩ = d.modules ⟨s, e₂⟩ := by
  have hmap : ∀ e, d.modules ⟨s, e⟩ =
      (d.tables.map (·.generate ⟨s, e⟩ d.relations)).mapM id := by
    intro e
    rw [List.mapM_map]
    rfl
  rw [hmap, hmap, List.map_congr_left fun t ht => Table.generate_congr (h t ht)]

end

/-- The runs for two engines give the same texts under the same keys and report the same events. -/
def Database.SameRun (s : Settings) (d : Database) (e₁ e₂ : Dialect) : Prop :=
  d.generate ⟨s, e₁⟩ = d.generate ⟨s, e₂⟩ ∧
    d.generationEvents ⟨s, e₁⟩ = d.generationEvents ⟨s, e₂⟩

/-- **Runs for engines that agree on all tables are the same.** -/
theorem Database.sameRun_of_agreeOn {s : Settings} {d : Database} {e₁ e₂ : Dialect}
    (h : ∀ t ∈ d.tables, Dialect.AgreeOn t e₁ e₂) : d.SameRun s e₁ e₂ := by
  have hmodules : d.modules ⟨s, e₁⟩ = d.modules ⟨s, e₂⟩ := Database.modules_congr h
  constructor
  · unfold Database.generate
    rw [hmodules]
  · unfold Database.generationEvents
    rw [hmodules]

/-! ## Engines that agree -/

/-- The engines without rules of their own. -/
def Dialect.plain : List Dialect := [.mysql, .mariadb, .sqlite]

/-- A default that some engine does not take as it is: one of the texts for none, or the next value
of a sequence. -/
def Value.isEngineDefault : Value → Bool
  | .text s => eqIgnoringAsciiCase s "(newid())" || s == "(NULL)" || s == "NULL" ||
      (beginsWith "nextval(" s && contains "::regclass" s)
  | _ => false

/-- The table has nothing that some engine has a rule of its own for. -/
structure Table.IsPortable (t : Table) : Prop where
  schema : t.name.schema = none
  comment : ∀ c ∈ t.columns, ∀ text ∈ c.comment, text = ""
  default : ∀ c ∈ t.columns, ∀ v ∈ c.defaultValue, v.isEngineDefault = false
  identity : ∀ c ∈ t.columns, ∀ k ∈ t.keyRole? c.name, k.isIdentity = false

namespace Dialect

theorem ne_of_mem_plain : ∀ {e : Dialect}, e ∈ plain → e ≠ .mssql ∧ e ≠ .postgres := by
  simp [plain]

/-- Only one engine shows by a default that it generates a value. -/
theorem isSerial_of_ne_postgres {e : Dialect} (h : e ≠ .postgres) (c : Column) :
    e.isSerial c = false := by
  unfold isSerial
  split
  · exact absurd rfl h
  · rfl

/-- Only one engine has texts for no default. -/
theorem meansNone_of_ne_mssql {e : Dialect} (h : e ≠ .mssql) (v : Value) :
    DefaultValue.meansNone e v = false := by
  cases v with
  | text s => simp [DefaultValue.meansNone, h]
  | _ => rfl

/-- The engines without rules of their own agree on every table. -/
theorem agreeOn_of_plain {e₁ e₂ : Dialect} (h₁ : e₁ ∈ plain) (h₂ : e₂ ∈ plain) (t : Table) :
    AgreeOn t e₁ e₂ := by
  obtain ⟨hmssql₁, hpostgres₁⟩ := ne_of_mem_plain h₁
  obtain ⟨hmssql₂, hpostgres₂⟩ := ne_of_mem_plain h₂
  have hmssql : e₁ = .mssql ↔ e₂ = .mssql := iff_of_false hmssql₁ hmssql₂
  have hpostgres : e₁ = .postgres ↔ e₂ = .postgres := iff_of_false hpostgres₁ hpostgres₂
  exact {
    schema := fun _ => by simp [hasSchemas, hmssql, hpostgres]
    columns := fun c _ => {
      serial := by rw [isSerial_of_ne_postgres hpostgres₁, isSerial_of_ne_postgres hpostgres₂]
      default := fun v _ => by rw [meansNone_of_ne_mssql hmssql₁, meansNone_of_ne_mssql hmssql₂]
      comment := fun _ _ _ => hmssql
      identity := fun _ _ _ => hpostgres } }

theorem isSerial_of_isEngineDefault {c : Column}
    (h : ∀ v ∈ c.defaultValue, v.isEngineDefault = false) (e : Dialect) : e.isSerial c = false := by
  unfold isSerial
  split
  · next s hs =>
    have hs := h _ hs
    simp only [Value.isEngineDefault, Bool.or_eq_false_iff] at hs
    exact hs.2
  · rfl

theorem meansNone_of_isEngineDefault {v : Value} (h : v.isEngineDefault = false) (e : Dialect) :
    DefaultValue.meansNone e v = false := by
  cases v with
  | text s =>
    simp only [Value.isEngineDefault, Bool.or_eq_false_iff] at h
    simp [DefaultValue.meansNone, h.1]
  | _ => rfl

/-- All engines agree on a portable table. -/
theorem agreeOn_of_isPortable {t : Table} (h : t.IsPortable) (e₁ e₂ : Dialect) :
    AgreeOn t e₁ e₂ where
  schema := by
    intro hschema
    rw [h.schema] at hschema
    cases hschema
  columns := fun c hc => {
    serial := by
      rw [isSerial_of_isEngineDefault (h.default c hc),
        isSerial_of_isEngineDefault (h.default c hc)]
    default := fun v hv => by
      rw [meansNone_of_isEngineDefault (h.default c hc v hv),
        meansNone_of_isEngineDefault (h.default c hc v hv)]
    comment := fun text htext hne => absurd (h.comment c hc text htext) hne
    identity := fun k hk hidentity => by
      rw [h.identity c hc k hk] at hidentity
      cases hidentity }

end Dialect

/-- **Only the rules of the engines tell their runs apart**: the runs for engines without such rules
are the same, and so are all runs for tables to which no such rule applies. -/
theorem Database.sameRun (s : Settings) (d : Database) :
    (∀ e₁ ∈ Dialect.plain, ∀ e₂ ∈ Dialect.plain, d.SameRun s e₁ e₂) ∧
      ((∀ t ∈ d.tables, t.IsPortable) → ∀ e₁ e₂, d.SameRun s e₁ e₂) :=
  ⟨fun _ h₁ _ h₂ => sameRun_of_agreeOn fun t _ => Dialect.agreeOn_of_plain h₁ h₂ t,
    fun h e₁ e₂ => sameRun_of_agreeOn fun t ht => Dialect.agreeOn_of_isPortable (h t ht) e₁ e₂⟩

/-- Readings of a meter, whose default time is one that every engine knows. -/
def readings : Table := {
  name := { schema := none, name := "readings" }
  fields := [
    { name := "id", sqlType := "int", primaryKey := true, autoIncrement := true },
    { name := "taken_at", sqlType := "timestamp",
      defaultValue := some (.text "current_timestamp"), comment := some "" }]
  keys := .ofList [("id", { isPrimary := true })] }

theorem Database.sameRun_readings :
    readings.IsPortable ∧
      Database.SameRun { language := .ts } { tables := [readings] } .postgres .mssql ∧
      Database.SameRun { language := .ts } { tables := [readings] } .mysql .sqlite := by
  have hportable : readings.IsPortable := {
    schema := rfl
    comment := by decide
    default := by decide
    identity := by decide }
  have hall : ∀ t ∈ ({ tables := [readings] } : Database).tables, t.IsPortable :=
    List.forall_mem_singleton.mpr hportable
  exact ⟨hportable, (sameRun _ _).2 hall _ _,
    (sameRun _ _).1 .mysql (by decide) .sqlite (by decide)⟩

end SchemaModels
