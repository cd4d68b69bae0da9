import SchemaModels.Proofs.ColumnType.MemberFamilies
import SchemaModels.Proofs.Model.ColumnViews
import SchemaModels.Proofs.Model.Composition

/-!
# The log of a run

A run reports what it could not translate: members that got the type `any`, and columns that are
declared with the type of the database. The events belong to the parts of the modules, to members
and to blocks. `Database.log_generate` says what the log of a whole run is in terms of the tables,
down to levels, messages and values: which columns are warned about, how often, and in which order.

A member is warned about by the type inside its array, if it has one (`ColumnType.innermost`). A
block is warned about by its one declared type (`Attribute.filter_isType_ofColumn`).
-/

namespace SchemaModels

open Text TypeFamily

/-- A line of the log. -/
structure LogLine where
  level : Level
  message : String
  fields : List (String × String)
  deriving DecidableEq

/-- The line that an event is logged as. -/
def Event.line (e : Event) : LogLine := ⟨e.level, e.message, e.fields⟩

/-! ## Members -/

namespace ColumnType

/-- The type of what an array holds, or the type itself if it is no array. The elements of elements
have the empty type. -/
def innermost (t : ColumnType) : ColumnType :=
  if isArray t.lowered then
    if isArray t.elementOrEmpty.lowered then t.elementOrEmpty.elementOrEmpty else t.elementOrEmpty
  else t

/-- The warning about a type that members have no type for: it is of no family, or it is an enum
without labels. -/
def fallbackLine? (t : ColumnType) : Option LogLine :=
  let type := t.innermost.lowered
  if isNumber type || isBoolean type || isDate type || isString type || isJson type then none
  else if isEnum type then
    if t.innermost.enumLiterals.isEmpty then
      some ⟨.warn, "enum without values, using any", [("field_type", type)]⟩
    else none
  else some ⟨.warn, "missing TypeScript type, using any", [("field_type", type)]⟩

theorem unknown?_memberType (t : ColumnType) :
    t.memberType.unknown? = t.innermost.plainMemberType.unknown? := by
  unfold memberType innermost memberTypeWith
  split
  · rw [MemberType.unknown?]
    split
    · rw [MemberType.unknown?]
    · rfl
  · rfl

/-- A member is warned about if the type inside its array has no member type. -/
theorem map_line_unknown? (t : ColumnType) :
    (t.memberType.unknown?.map fun u => (Event.anyMember u.1 u.2).line) = t.fallbackLine? := by
  rw [unknown?_memberType, fallbackLine?]
  generalize t.innermost = u
  -- no type begins with words for enums and for JSON, so it does not matter which is asked first
  have hjson : isEnum u.lowered = true → isJson u.lowered = false := by
    intro henum
    have hword : beginsWithAny ["enum"] u.lowered = true := Bool.or_eq_true_iff.mpr (.inl henum)
    exact beginsWith_eq_false (by decide) hword
  unfold plainMemberType
  dsimp only
  split
  · next hnumber => simp [hnumber, MemberType.unknown?]
  split
  · next hboolean => simp [hboolean, MemberType.unknown?]
  split
  · next hdate => simp [hdate, MemberType.unknown?]
  split
  · next hstring => simp [hstring, MemberType.unknown?]
  next hnumber hboolean hdate hstring =>
  split
  · next henum =>
    simp only [hnumber, hboolean, hdate, hstring, hjson henum, Bool.or_false]
    split <;> rfl
  · next henum =>
    simp only [hnumber, hboolean, hdate, hstring, Bool.false_or]
    split <;> rfl

end ColumnType

/-! ## Blocks -/

/-- The attribute declares a type. -/
def Attribute.isType : Attribute → Bool
  | type _ => true
  | _ => false

/-- A column declares its type, and no other attribute of it declares one. -/
theorem Attribute.filter_isType_ofColumn (ctx : Context) (t : Table) (c : Column) :
    (ofColumn ctx t c).filter isType = [type c.declaredType] := by
  have hcounting : ∀ role counts, (ofCounting ctx role counts).filter isType = [] := by
    intro role counts
    unfold ofCounting
    repeat' split
    all_goals rfl
  have hreference : ∀ role, (ofReference role).filter isType = [] := by
    intro role
    unfold ofReference
    split <;> rfl
  have hcomment : ∀ text, (ofComment ctx text).filter isType = [] := by
    intro text
    unfold ofComment
    repeat' split
    all_goals rfl
  have hextras : ∀ extras, (ofExtras extras).filter isType = [] := by
    intro extras
    rw [ofExtras, List.filter_map, List.map_eq_nil_iff, List.filter_eq_nil_iff]
    exact fun _ _ => Bool.false_ne_true
  have huniqueness : ∀ stated role, (ofUniqueness stated role).filter isType = [] := by
    intro stated role
    unfold ofUniqueness
    repeat' split
    all_goals rfl
  have hdefault : ∀ d : Option DefaultValue, (d.map defaultValue).toList.filter isType = [] := by
    intro d
    cases d <;> rfl
  have hmark : ∀ (p : Prop) [Decidable p] (a : Attribute), a.isType = false →
      (if p then [a] else []).filter isType = [] := by
    intro p _ a ha
    split
    · rw [List.filter_singleton, ha]; rfl
    · rfl
  unfold ofColumn
  simp only [List.filter_append, hcounting, hdefault, hreference, hcomment, hextras, huniqueness,
    hmark _ primaryKey rfl, hmark _ (field c.name) rfl, List.nil_append, List.append_nil]
  rfl

/-- The warning that a column is declared with the type of the database. -/
def Column.verbatimLine? (table : String) (c : Column) : Option LogLine :=
  if c.type.dataType?.isNone then
    some ⟨.warn, "unmapped column type, emitting raw type string",
      [("table", table), ("field", c.name), ("field_type", c.sqlType)]⟩
  else none

/-- A block is warned about once if its column has no data type. -/
theorem AttributeBlock.map_line_events (ctx : Context) (t : Table) (c : Column)
    (table property : String) :
    ((⟨c.name, property, Attribute.ofColumn ctx t c⟩ : AttributeBlock).events table).map Event.line
      = (c.verbatimLine? table).toList := by
  -- only the declared type is asked
  have hasked : ∀ attributes : List Attribute,
      (⟨c.name, property, attributes⟩ : AttributeBlock).events table
        = (⟨c.name, property, attributes.filter (·.isType)⟩ : AttributeBlock).events table := by
    intro attributes
    unfold events
    dsimp only
    rw [List.filterMap_filter]
    refine List.filterMap_congr fun a _ => ?_
    cases a <;> rfl
  rw [hasked, Attribute.filter_isType_ofColumn, Column.declaredType, Column.verbatimLine?]
  cases c.type.dataType? <;> rfl

/-! ## Modules and runs -/

/-- The lines that are logged for a table under the name of its model: for a typed module the
warnings about the members, for the interface and for the class, then the warnings about the blocks,
and at last the finished module. -/
def Table.logLines (s : Settings) (t : Table) (model : String) : List LogLine :=
  let fallbacks := (t.declaredColumns s).filterMap (·.type.fallbackLine?)
  (if s.language.isTyped then fallbacks ++ fallbacks else [])
  ++ (t.shownColumns s).filterMap (·.verbatimLine? t.name.qualified)
  ++ [⟨.debug, "rendered model", [("table", t.name.qualified), ("model", model)]⟩]

/-- The members of a table are warned about in the order of its columns, and each of them twice. -/
theorem TypedSection.map_line_events {s : Settings} {t : Table} {mixins : Mixins}
    {x : TypedSection} (h : TypedSection.of s t mixins = .ok x) :
    x.events.map Event.line = (t.declaredColumns s).filterMap (·.type.fallbackLine?)
      ++ (t.declaredColumns s).filterMap (·.type.fallbackLine?) := by
  have honce : (x.members.filterMap (·.event?)).map Event.line
      = (t.declaredColumns s).filterMap (·.type.fallbackLine?) := by
    rw [members_of h, List.filterMap_map, List.map_filterMap]
    refine List.filterMap_congr fun c _ => ?_
    rw [← ColumnType.map_line_unknown?, Function.comp_apply, Member.event?, Option.map_map]
    rfl
  rw [events, List.map_append, honce]

/-- The blocks of a table are warned about in the order of its columns. -/
theorem Table.map_line_definition (ctx : Context) (t : Table) (table : String) :
    ((t.definition ctx).events table).map Event.line
      = (t.shownColumns ctx.settings).filterMap (·.verbatimLine? table) := by
  rw [Definition.events, definition, attributeBlocks_eq, List.flatMap_map, List.map_flatMap,
    List.filterMap_eq_flatMap_toList]
  exact List.flatMap_congr fun c _ => AttributeBlock.map_line_events ctx t c table _

/-- A table is logged on its own. -/
theorem Table.map_line_generate {ctx : Context} {relations : List Relation} {t : Table}
    {m : ModelModule} (h : t.generate ctx relations = .ok m) :
    ctx.settings.modelName t = .ok m.model ∧
      m.events.map Event.line = t.logLines ctx.settings m.model := by
  obtain ⟨-, c, model, hc, hmodel, rfl⟩ := Table.of_generate_eq_ok h
  obtain ⟨htable, hdefinition, htyped⟩ := ModuleContent.of_eq_ok hc
  refine ⟨hmodel, ?_⟩
  have hevents : (c.write ctx model).events = c.events model := rfl
  rw [hevents, ModuleContent.events, logLines, List.map_append, List.map_append, hdefinition,
    htable, map_line_definition]
  split at htyped
  · next hts =>
    obtain ⟨mixins, s, -, hsection, hsome⟩ := htyped
    rw [hsome, if_pos hts, ← TypedSection.map_line_events hsection]
    rfl
  · next huntyped =>
    rw [htyped, if_neg huntyped]
    rfl

/-- **The log of a run is complete and says nothing twice.** Table by table, a typed module warns
about the members without a type, in the interface and in the class; then every column shown that
has no data type is warned about; and the module is reported as finished. Nothing else is logged. -/
theorem Database.log_generate {ctx : Context} {d : Database} {texts : OrderedMap String}
    (h : d.generate ctx = .ok texts) : ∃ events models,
      d.generationEvents ctx = .ok events ∧ d.modelNames ctx.settings = .ok models ∧
      events.map Event.line
        = (d.tables.zip models).flatMap fun (t, model) => t.logLines ctx.settings model := by
  obtain ⟨modules, hmodules, -⟩ := generate_eq_ok_iff.mp h
  refine ⟨modules.flatMap (·.events), modules.map (·.model), ?_, ?_, ?_⟩
  · exact bind_eq_ok.mpr ⟨modules, mapM_eq_ok_iff.mpr hmodules, rfl⟩
  · refine mapM_eq_ok_iff.mpr ?_
    rw [List.forall₂_map_right_iff]
    exact hmodules.imp fun _ _ hm => (Table.map_line_generate hm).1
  · generalize d.tables = tables at hmodules ⊢
    induction hmodules with
    | nil => rfl
    | cons hm _ ih =>
      rw [List.flatMap_cons, List.map_append, List.map_cons, List.zip_cons_cons, List.flatMap_cons,
        ih, (Table.map_line_generate hm).2]

/-- A table that is reported twice. Members have no type for its place, and neither has the ORM; the
labels of its kind are not known. -/
def stations : Database :=
  let kind : Column := { name := "kind", sqlType := "Enum" }
  let place : Column := { name := "place", sqlType := "Hierarchy" }
  { tables := [
      { name := ⟨some "net", "stations"⟩, fields := [place, kind] },
      { name := ⟨some "net", "stations"⟩, fields := [kind] }] }

theorem Database.log_generate_stations :
    let place : LogLine :=
      ⟨.warn, "missing TypeScript type, using any", [("field_type", "hierarchy")]⟩
    let kind : LogLine := ⟨.warn, "enum without values, using any", [("field_type", "enum")]⟩
    let verbatim : LogLine := ⟨.warn, "unmapped column type, emitting raw type string",
      [("table", "net.stations"), ("field", "place"), ("field_type", "Hierarchy")]⟩
    let finished : LogLine :=
      ⟨.debug, "rendered model", [("table", "net.stations"), ("model", "stations")]⟩
    ∃ events, stations.generationEvents ⟨{ language := .ts }, .mssql⟩ = .ok events ∧
      events.map Event.line
        = [place, kind, place, kind, verbatim, finished] ++ [kind, kind, finished] := by
  obtain ⟨texts, htexts, -⟩ := exists_ok_of_any
    (x := stations.generate ⟨{ language := .ts }, .mssql⟩) (p := fun _ => true) (by decide +kernel)
  obtain ⟨models, hmodels, hnames⟩ := exists_ok_of_any
    (x := stations.modelNames { language := .ts }) (p := (· == ["stations", "stations"]))
    (by decide +kernel)
  obtain ⟨events, models', hevents, hmodels', hlines⟩ := log_generate htexts
  rw [hmodels] at hmodels'
  cases hmodels'
  rw [beq_iff_eq.mp hnames] at hlines
  exact ⟨events, hevents, hlines.trans (by decide +kernel)⟩

end SchemaModels
