import SchemaModels.Proofs.Model.ColumnViews
import SchemaModels.Proofs.Model.Drafts
import SchemaModels.Proofs.Script.Spelling

/-!
# Written names

Where the names and labels of a database stand in a generated module, and how each of them is quoted
there. Property keys and the names of tables, schemas, columns and referenced keys stand between
single quotes, the names in indexes and in unions of literal types between double quotes, all as
they are. The names of constraints, the labels of enums and the options that are texts have the
quotes in them escaped, and nothing else.

`Table.writtenNames` lists them in the order of the module, and `Table.readsAs_literal_iff` says
which of them script code reads back: a quote in a name that is written as it is ends the literal
early or leaves it open, and no way of quoting keeps a backslash or a line end. The list has no
names that are put together or inflected, such as those of models and files, and no comments,
defaults or types, which are no names.
-/

namespace SchemaModels

open Naming Script Text

/-- Between single quotes, as it is. -/
def bareSingle : Quoting := ⟨.single, false⟩

/-- Between double quotes, as it is. -/
def bareDouble : Quoting := ⟨.double, false⟩

/-- Between single quotes, which are escaped. -/
def escapedSingle : Quoting := ⟨.single, true⟩

/-- Between double quotes, which are escaped. -/
def escapedDouble : Quoting := ⟨.double, true⟩

/-! ## Property keys -/

/-- The name of a property, where it is a key that has to be quoted. -/
def writtenKey (blanks property : String) : List WrittenName :=
  if isIdentifier property then [] else [⟨blanks, bareSingle, property⟩]

theorem spells_propertyKey (blanks property : String) :
    Spells (blanks ++ propertyKey property) (writtenKey blanks property) := by
  unfold propertyKey writtenKey
  split
  · exact .nil _
  · have h : Spells (blanks ++ "'" ++ property ++ "'") [⟨blanks, bareSingle, property⟩] :=
      spells_bare .single "" rfl rfl
    simpa only [String.append_assoc] using h

/-! ## Labels -/

/-- The labels of an enum, where it is written as a list of literals. -/
def writtenLabels (labels : List String) : List WrittenName :=
  labels.map fun l => ⟨"", escapedDouble, l⟩

/-- The labels in a data type, for a column with the given ones. -/
def DataType.writtenNames (labels : List String) : DataType → List WrittenName
  | array e => e.writtenNames labels
  | enum _ => writtenLabels labels
  | _ => []

/-- The labels in the declared type of a column with the given ones. -/
def DeclaredType.writtenNames (labels : List String) : DeclaredType → List WrittenName
  | mapped d => d.writtenNames labels
  | verbatim _ => []

/-- The labels in the type of a member, for a column with the given ones. -/
def MemberType.writtenNames (labels : List String) : MemberType → List WrittenName
  | union _ => writtenLabels labels
  | array e => e.writtenNames labels
  | _ => []

theorem spells_quotedLabel (label : String) :
    Spells (quotedLabel label) [⟨"", escapedDouble, label⟩] :=
  spells_escaped .double "" rfl rfl

namespace ColumnType

theorem spells_enumLiterals (t : ColumnType) :
    SpellsEach t.enumLiterals (writtenLabels t.labels) := by
  unfold enumLiterals
  split
  · next hnone =>
    rw [List.isEmpty_iff.mp hnone]
    exact .silent _
  · exact .map_one spells_quotedLabel t.labels

/-- A data type has the labels of its column. -/
theorem spells_dataType {t : ColumnType} {d : DataType} (hd : t.dataType? = some d) :
    Spells d.render (d.writtenNames t.labels) := by
  refine dataType_induction (K := fun u => u.labels = t.labels)
    (P := fun d => Spells d.render (d.writtenNames t.labels)) (fun {u d} _ hscalar _ => ?_)
    (fun he => ?_) (fun hlabels _ => ?_) rfl (fun _ _ => rfl) hd
  · -- a scalar type has no labels, and no array or enum is scalar
    cases d <;> first | exact .nil _ | cases hscalar
  · exact (he.behind "DataTypes.ARRAY(").before ")"
  · rw [DataType.writtenNames, ← hlabels]
    exact (((spells_enumLiterals _).intercalate ",").behind "DataTypes.ENUM(").before ")"

theorem spells_plainMemberType (t : ColumnType) :
    Spells t.plainMemberType.render (t.plainMemberType.writtenNames t.labels) := by
  unfold plainMemberType
  dsimp only
  repeat' split
  any_goals exact .nil _
  exact (spells_enumLiterals t).intercalate " | "

theorem spells_memberTypeWith {t : ColumnType} {element : MemberType}
    (h : Spells element.render (element.writtenNames t.labels)) :
    Spells (t.memberTypeWith element).render
      ((t.memberTypeWith element).writtenNames t.labels) := by
  unfold memberTypeWith
  split
  · exact h.before "[]"
  · exact t.spells_plainMemberType

theorem labels_elementOrEmpty (t : ColumnType) : t.elementOrEmpty.labels = t.labels := rfl

/-- The type of a member has the labels of its column, and so have those of elements. -/
theorem spells_memberType (t : ColumnType) :
    Spells t.memberType.render (t.memberType.writtenNames t.labels) := by
  have hinner := t.elementOrEmpty.elementOrEmpty.spells_plainMemberType
  rw [labels_elementOrEmpty] at hinner
  have helement := spells_memberTypeWith hinner
  rw [labels_elementOrEmpty] at helement
  exact spells_memberTypeWith helement

end ColumnType

theorem Column.spells_declaredType (c : Column) :
    Spells c.declaredType.render (c.declaredType.writtenNames c.labels) := by
  unfold declaredType
  split
  · next d hd => exact ColumnType.spells_dataType hd
  · exact .nil _

/-! ## Attributes -/

namespace Attribute

/-- The names in an attribute, for a column with the given labels. -/
def writtenNames (labels : List String) : Attribute → List WrittenName
  | type declared => declared.writtenNames labels
  | references table column => [⟨"model: ", bareSingle, table⟩, ⟨"key: ", bareSingle, column⟩]
  | unique (some constraint) => [⟨"unique: ", escapedDouble, constraint⟩]
  | field column => [⟨"field: ", bareSingle, column⟩]
  | _ => []

theorem spells_render (ctx : Context) {labels : List String} {a : Attribute}
    (htype : ∀ declared, a = type declared →
      Spells declared.render (declared.writtenNames labels)) :
    Spells (a.render ctx) (a.writtenNames labels) := by
  cases a with
  | autoIncrement | autoIncrementIdentity | allowNull b | defaultValue d | primaryKey | comment s
  | extra k v => exact .nil _
  | type declared => exact (htype declared rfl).behind _
  | references table column =>
    have htable : Spells ("model: '" ++ table ++ "',\n") [⟨"model: ", bareSingle, table⟩] :=
      spells_bare .single ",\n" rfl rfl
    have hcolumn : Spells ("key: '" ++ column ++ "'\n") [⟨"key: ", bareSingle, column⟩] :=
      spells_bare .single "\n" rfl rfl
    have hboth := (htable.before (ctx.indent 4)).append (hcolumn.before (ctx.indent 3 ++ "\x7d"))
    have h := hboth.behind (ctx.indent 3 ++ "references" ++ ": " ++ "\x7b\n" ++ ctx.indent 4)
    simpa only [render, key, value, writtenNames, String.append_assoc, List.singleton_append]
      using h
  | unique constraint =>
    cases constraint with
    | none => exact .nil _
    | some name =>
      have h : Spells ("unique: \"" ++ backslashBefore '"' name ++ "\"")
          [⟨"unique: ", escapedDouble, name⟩] :=
        spells_escaped .double "" rfl rfl
      have hkey : "unique: \"" = "unique" ++ (": " ++ "\"") := rfl
      rw [hkey] at h
      simpa only [render, key, value, writtenNames, String.append_assoc] using
        h.behind (ctx.indent 3)
  | field column =>
    have h : Spells ("field: '" ++ column ++ "'") [⟨"field: ", bareSingle, column⟩] :=
      spells_bare .single "" rfl rfl
    have hkey : "field: '" = "field" ++ (": " ++ "'") := rfl
    rw [hkey] at h
    simpa only [render, key, value, writtenNames, String.append_assoc] using h.behind (ctx.indent 3)

/-- An attribute of a column has the labels of the column. -/
theorem spells_of_mem_ofColumn {ctx : Context} {t : Table} {c : Column} {a : Attribute}
    (ha : a ∈ ofColumn ctx t c) : Spells (a.render ctx) (a.writtenNames c.labels) := by
  refine spells_render ctx fun declared hdeclared => ?_
  have harises := arises_of_mem_ofColumn a ha
  rw [hdeclared] at harises
  cases harises
  exact c.spells_declaredType

end Attribute

/-! ## Columns -/

namespace Column

/-- The names in the block of a column. -/
def namesInBlock (ctx : Context) (t : Table) (c : Column) : List WrittenName :=
  writtenKey (ctx.indent 2) (ctx.settings.propertyName c.name)
    ++ (Attribute.ofColumn ctx t c).flatMap (·.writtenNames c.labels)

/-- The names in the line of a member. -/
def namesInMember (ctx : Context) (c : Column) : List WrittenName :=
  writtenKey (ctx.indent 1) (ctx.settings.propertyName c.name)
    ++ c.type.memberType.writtenNames c.labels

theorem spells_block (ctx : Context) (t : Table) (c : Column) :
    Spells (c.block ctx t) (c.namesInBlock ctx t) := by
  have hattributes : SpellsEach ((Attribute.ofColumn ctx t c).map (·.render ctx))
      ((Attribute.ofColumn ctx t c).flatMap (·.writtenNames c.labels)) :=
    .map fun a ha => Attribute.spells_of_mem_ofColumn ha
  have hkey := spells_propertyKey (ctx.indent 2) (ctx.settings.propertyName c.name)
  have hcontent := (hkey.before ": \x7b\n").append (hattributes.intercalate ",\n")
  exact ((hcontent.before "\n").before _).before _

theorem unmarked_memberLine (ctx : Context) {c : Column} (h : AllUnmarked c.texts) :
    Unmarked (c.memberLine ctx "") := by
  have hproperty : Unmarked (Member.ofColumn ctx.settings c).property :=
    ctx.settings.unmarked_propertyName (h _ (by simp [texts]))
  have htype : Unmarked (Member.ofColumn ctx.settings c).type.render := by
    simpa only [Member.ofColumn] using (isUnmarked_type h).memberType
  rw [← Member.render_ofColumn]
  exact TypedSection.unmarked_member ctx hproperty htype unmarked_empty

theorem spells_memberLine (ctx : Context) (mark : String) (c : Column) :
    Spells (c.memberLine ctx mark) (c.namesInMember ctx) := by
  have hkey := spells_propertyKey (ctx.indent 1) (ctx.settings.propertyName c.name)
  exact (((hkey.before _).before ": ").append c.type.spells_memberType).before ";"

end Column

/-! ## Indexes -/

/-- The names in a part of an index. -/
def IndexPart.writtenNames (p : IndexPart) : List WrittenName :=
  [⟨"name: ", bareDouble, p.column⟩]
  ++ (p.collate.map fun c => ⟨"collate: ", bareDouble, c⟩).toList
  ++ ((p.order.filter (· ≠ "ASC")).map fun o => ⟨"order: ", bareDouble, o⟩).toList

/-- The names in an index. -/
def Index.writtenNames (i : Index) : List WrittenName :=
  (i.name.map fun n => ⟨"name: ", bareDouble, n⟩).toList
  ++ (i.kind.map fun k => ⟨kindKey k ++ ": ", bareDouble, k⟩).toList
  ++ i.parts.flatMap (·.writtenNames)

theorem IndexPart.spells_render (ctx : Context) (p : IndexPart) :
    Spells (p.render ctx) p.writtenNames := by
  have hname : Spells ("name: \"" ++ p.column ++ "\"") [⟨"name: ", bareDouble, p.column⟩] :=
    spells_bare .double "" rfl rfl
  have hcollate : ∀ c, Spells ("collate: \"" ++ c ++ "\"") [⟨"collate: ", bareDouble, c⟩] :=
    fun _ => spells_bare .double "" rfl rfl
  have horder : ∀ o, Spells ("order: \"" ++ o ++ "\"") [⟨"order: ", bareDouble, o⟩] :=
    fun _ => spells_bare .double "" rfl rfl
  have hentries : SpellsEach p.entries p.writtenNames :=
    (((SpellsEach.head hname []).append (.toList_map hcollate p.collate)).before _).append
      (.toList_map horder _)
  exact ((hentries.intercalate ", ").behind _).before _

theorem Index.spellsEach_lines (ctx : Context) (i : Index) :
    SpellsEach (i.lines ctx) i.writtenNames := by
  have hname : ∀ n, Spells (ctx.indent 4 ++ "name: \"" ++ n ++ "\",")
      [⟨"name: ", bareDouble, n⟩] := by
    intro n
    have h : Spells ("name: \"" ++ n ++ "\",") [⟨"name: ", bareDouble, n⟩] :=
      spells_bare .double "," rfl rfl
    simpa only [String.append_assoc] using h.behind (ctx.indent 4)
  have hkind : ∀ k, Spells (ctx.indent 4 ++ kindKey k ++ ": \"" ++ k ++ "\",")
      [⟨kindKey k ++ ": ", bareDouble, k⟩] := by
    intro k
    have h : Spells (kindKey k ++ ": \"" ++ k ++ "\",") [⟨kindKey k ++ ": ", bareDouble, k⟩] :=
      spells_bare .double "," (by rw [String.append_assoc]; rfl) rfl
    simpa only [String.append_assoc] using h.behind (ctx.indent 4)
  have hparts : SpellsEach (i.parts.map (·.render ctx)) (i.parts.flatMap (·.writtenNames)) :=
    .map fun p _ => p.spells_render ctx
  exact (((((SpellsEach.toList_map hname i.name).behind _).before _).append
    (.toList_map hkind i.kind)).before _ |>.append hparts).before _

/-- The names in a list of indexes. -/
theorem Index.spells_renderList (ctx : Context) (indexes : List Index) :
    Spells ((renderList? ctx indexes).getD "") (indexes.flatMap (·.writtenNames)) := by
  unfold renderList?
  split
  · next hnone =>
    rw [List.isEmpty_iff.mp hnone]
    exact .nil _
  · have hlines : SpellsEach (indexes.flatMap (·.lines ctx)) (indexes.flatMap (·.writtenNames)) :=
      .flatMap fun i _ => i.spellsEach_lines ctx
    rw [Option.getD_some]
    exact ((hlines.behind _).before _).intercalate "\n"

/-! ## Options -/

namespace TableOption

/-- The names in an option. -/
def writtenNames : TableOption → List WrittenName
  | tableName name => [⟨"tableName: ", bareSingle, name⟩]
  | schema name => [⟨"schema: ", bareSingle, name⟩]
  | fixedNames qualified =>
    [⟨"singular: ", bareSingle, qualified⟩, ⟨"plural: ", bareSingle, qualified⟩]
  | shared key (.text s) => [⟨key ++ ": ", escapedSingle, s⟩]
  | indexes list => list.flatMap (·.writtenNames)
  | _ => []

theorem spells_render (ctx : Context) (x : TableOption) : Spells (x.render ctx) x.writtenNames := by
  cases x with
  | connection | modelName | hasTrigger | timestamps on | paranoid => exact .nil _
  | tableName name =>
    have h : Spells ("tableName: '" ++ name ++ "'") [⟨"tableName: ", bareSingle, name⟩] :=
      spells_bare .single "" rfl rfl
    simpa only [render, writtenNames, String.append_assoc] using h.behind (ctx.indent 2)
  | schema name =>
    have h : Spells ("schema: '" ++ name ++ "'") [⟨"schema: ", bareSingle, name⟩] :=
      spells_bare .single "" rfl rfl
    simpa only [render, writtenNames, String.append_assoc] using h.behind (ctx.indent 2)
  | fixedNames name =>
    have hsingular : Spells ("singular: '" ++ name ++ "',\n") [⟨"singular: ", bareSingle, name⟩] :=
      spells_bare .single ",\n" rfl rfl
    have hplural : Spells ("plural: '" ++ name ++ "'\n") [⟨"plural: ", bareSingle, name⟩] :=
      spells_bare .single "\n" rfl rfl
    have hboth := (hsingular.before (ctx.indent 3)).append
      (hplural.before (ctx.indent 2 ++ "\x7d"))
    have h := hboth.behind (ctx.indent 2 ++ "name: \x7b\n" ++ ctx.indent 3)
    simpa only [render, writtenNames, String.append_assoc, List.singleton_append] using h
  | shared key value =>
    cases value with
    | bool b => exact .nil _
    | int n => exact .nil _
    | text s =>
      have h : Spells (key ++ ": '" ++ backslashBefore '\'' s ++ "'")
          [⟨key ++ ": ", escapedSingle, s⟩] :=
        spells_escaped .single "" (by rw [String.append_assoc]; rfl) rfl
      have hopened : ": '" = ": " ++ "'" := rfl
      rw [hopened] at h
      simpa only [render, OptionValue.render, writtenNames, String.append_assoc] using
        h.behind (ctx.indent 2)
  | indexes list => exact Index.spells_renderList ctx list

end TableOption

/-! ## Modules -/

namespace Table

/-- The names in the definition of the model of a table. -/
def namesInDefinition (ctx : Context) (t : Table) : List WrittenName :=
  (t.shownColumns ctx.settings).flatMap (·.namesInBlock ctx t)
  ++ (TableOption.ofTable ctx t).flatMap (·.writtenNames)

/-- The names in a union of literal types. -/
def namesInUnion (properties : List String) : List WrittenName :=
  properties.map fun p => ⟨"", bareDouble, p⟩

/-- The names in the members of a table. -/
def namesInMembers (ctx : Context) (t : Table) : List WrittenName :=
  (t.declaredColumns ctx.settings).flatMap (·.namesInMember ctx)

/-- The names in the typed section of a table: in the interface, in the types of the primary key and
of new rows, and in the class. -/
def namesInTypedSection (ctx : Context) (t : Table) : List WrittenName :=
  t.namesInMembers ctx
  ++ namesInUnion (t.primaryKeys.map fun c => ctx.settings.propertyName c.name)
  ++ namesInUnion ((t.columns.filter (TypedSection.isOptional ctx.settings)).map
    fun c => ctx.settings.propertyName c.name)
  ++ t.namesInMembers ctx

/-- The names of the database in the module of a table, in order. -/
def writtenNames (ctx : Context) (t : Table) : List WrittenName :=
  (if ctx.settings.language.isTyped then t.namesInTypedSection ctx else [])
  ++ t.namesInDefinition ctx

theorem spells_definition (ctx : Context) (t : Table) :
    Spells ((t.definition ctx).render ctx) (t.namesInDefinition ctx) := by
  have hblocks : Spells ((t.definition ctx).renderBlocks ctx)
      ((t.shownColumns ctx.settings).flatMap (·.namesInBlock ctx t)) := by
    unfold Definition.renderBlocks
    split
    · next hnone =>
      rw [(isEmpty_attributeBlocks ctx t).mp hnone]
      exact .nil _
    · have hmap : (t.definition ctx).blocks.map (·.render ctx)
          = (t.shownColumns ctx.settings).map (·.block ctx t) :=
        map_render_attributeBlocks ctx t
      rw [hmap]
      have heach : SpellsEach ((t.shownColumns ctx.settings).map (·.block ctx t))
          ((t.shownColumns ctx.settings).flatMap (·.namesInBlock ctx t)) :=
        .map fun c _ => c.spells_block ctx t
      exact (heach.intercalate ",\n").before "\n"
  have hoptions : Spells ((t.definition ctx).renderOptions ctx)
      ((TableOption.ofTable ctx t).flatMap (·.writtenNames)) := by
    have heach : SpellsEach ((TableOption.ofTable ctx t).map (·.render ctx))
        ((TableOption.ofTable ctx t).flatMap (·.writtenNames)) :=
      .map fun x _ => x.spells_render ctx
    exact heach.intercalate ",\n"
  exact ((((hblocks.before _).before _).append hoptions).before _ |>.before _).before _

end Table

namespace TypedSection

theorem spells_literalUnion (properties : List String) :
    Spells (literalUnion properties) (Table.namesInUnion properties) := by
  have hone : ∀ p, Spells ("\"" ++ p ++ "\"") [⟨"", bareDouble, p⟩] :=
    fun _ => spells_bare .double "" rfl rfl
  exact (SpellsEach.map_one hone properties).intercalate " | "

theorem spellsEach_keyLines (s : TypedSection) :
    SpellsEach s.keyLines (Table.namesInUnion s.primaryKey) := by
  unfold keyLines
  split
  · next hnone =>
    rw [List.isEmpty_iff.mp hnone]
    exact .nil
  · have hunion := ((spells_literalUnion s.primaryKey).behind
      ("export type " ++ modelToken ++ "Pk = ")).before ";"
    exact .head hunion _

theorem spellsEach_creationLines (s : TypedSection) :
    SpellsEach s.creationLines (Table.namesInUnion s.optional) := by
  unfold creationLines
  dsimp only
  split
  · next hnone =>
    rw [List.isEmpty_iff.mp hnone]
    exact .silent _
  · have hunion := ((spells_literalUnion s.optional).behind
      ("export type " ++ modelToken ++ "OptionalAttributes = ")).before ";"
    exact .head hunion _

theorem spells_render {ctx : Context} {t : Table} {mixins : Mixins} {s : TypedSection}
    (h : TypedSection.of ctx.settings t mixins = .ok s) :
    Spells (s.render ctx) (t.namesInTypedSection ctx) := by
  obtain ⟨hmembers, hprimaryKey, hoptional⟩ : s.members = membersOf ctx.settings t ∧
      s.primaryKey = (t.primaryKeys.map fun c => ctx.settings.propertyName c.name) ∧
      s.optional = ((t.columns.filter (isOptional ctx.settings)).map
        fun c => ctx.settings.propertyName c.name) := by
    obtain ⟨imports, -, hs⟩ := bind_eq_ok.mp h
    cases hs
    exact ⟨rfl, rfl, rfl⟩
  have hlines : ∀ mark, SpellsEach (s.members.map (·.render ctx mark)) (t.namesInMembers ctx) := by
    intro mark
    rw [hmembers, Table.map_render_membersOf]
    exact .map fun c _ => c.spells_memberLine ctx mark
  have hinterface : SpellsEach (s.interfaceLines ctx) (t.namesInMembers ctx) :=
    ((hlines "").behind _).before _
  have hkeys := s.spellsEach_keyLines
  have hcreation := s.spellsEach_creationLines
  rw [hprimaryKey] at hkeys
  rw [hoptional] at hcreation
  have hcolumns := ((hinterface.behind (s.imports.map (·.render))).append hkeys).append hcreation
  have hall := ((hcolumns.before [classLine]).append (hlines "!")).before [""]
  exact (hall.unlines.before _).before _

end TypedSection

/-- The draft of a module has the names of its table. -/
theorem ModuleContent.spells_draft {ctx : Context} {relations : List Relation} {t : Table}
    {c : ModuleContent} (h : ModuleContent.of ctx relations t = .ok c) :
    Spells (c.draft ctx) (t.writtenNames ctx) := by
  obtain ⟨-, hdefinition, htyped⟩ := of_eq_ok h
  have hsection : Spells (c.renderTyped ctx)
      (if ctx.settings.language.isTyped then t.namesInTypedSection ctx else []) := by
    unfold renderTyped
    split at htyped
    · next hlanguage =>
      obtain ⟨mixins, s, -, hof, hsome⟩ := htyped
      rw [hsome, if_pos hlanguage]
      exact TypedSection.spells_render hof
    · next hlanguage =>
      rw [if_neg hlanguage]
      exact .nil _
  unfold draft
  rw [hdefinition]
  exact ((hsection.behind _).append (t.spells_definition ctx)).before _

namespace Table

variable {ctx : Context} {t : Table}

/-- No name is written with a mark if the table and the settings have none. -/
theorem unmarked_of_mem_writtenNames (hs : AllUnmarked ctx.settings.texts)
    (ht : AllUnmarked t.texts) : ∀ n ∈ t.writtenNames ctx, Unmarked n.spelled := by
  have hcolumn : ∀ c ∈ t.columns, AllUnmarked c.texts :=
    fun c hc => allUnmarked_of_mem_columns ht hc
  have hproperty : ∀ c ∈ t.columns, Unmarked (ctx.settings.propertyName c.name) :=
    fun c hc => ctx.settings.unmarked_propertyName (hcolumn c hc _ (by simp [Column.texts]))
  -- what spells the names is known to be unmarked, and so the names are
  have hproperties : ∀ p : Column → Bool,
      ∀ s ∈ (t.columns.filter p).map fun c => ctx.settings.propertyName c.name, Unmarked s := by
    intro p s hs
    obtain ⟨c, hc, rfl⟩ := List.mem_map.mp hs
    exact hproperty c (List.mem_filter.mp hc).1
  have hunion : ∀ properties : List String, (∀ s ∈ properties, Unmarked s) →
      ∀ n ∈ namesInUnion properties, Unmarked n.spelled := by
    intro properties h
    have hspells := TypedSection.spells_literalUnion properties
    exact hspells.unmarked (TypedSection.unmarked_literalUnion h)
  have hmembers : ∀ n ∈ t.namesInMembers ctx, Unmarked n.spelled := by
    intro n hn
    obtain ⟨c, hc, hn⟩ := List.mem_flatMap.mp hn
    have hc := (mem_declaredColumns.mp hc).1
    exact (c.spells_memberLine ctx "").unmarked (Column.unmarked_memberLine ctx (hcolumn c hc)) n hn
  have htyped : ∀ n ∈ t.namesInTypedSection ctx, Unmarked n.spelled := by
    unfold namesInTypedSection
    simp only [List.forall_mem_append]
    exact ⟨⟨⟨hmembers, hunion _ (hproperties _)⟩, hunion _ (hproperties _)⟩, hmembers⟩
  have hblocks : ∀ n ∈ (t.shownColumns ctx.settings).flatMap (·.namesInBlock ctx t),
      Unmarked n.spelled := by
    intro n hn
    obtain ⟨c, hc, hn⟩ := List.mem_flatMap.mp hn
    have hblock : c.block ctx t ∈ (t.attributeBlocks ctx).map (·.render ctx) := by
      rw [map_render_attributeBlocks]
      exact List.mem_map_of_mem hc
    obtain ⟨b, hb, hrender⟩ := List.mem_map.mp hblock
    exact (c.spells_block ctx t).unmarked (hrender ▸ AttributeBlock.unmarked_render ht hb) n hn
  have hoptions : ∀ n ∈ (TableOption.ofTable ctx t).flatMap (·.writtenNames),
      Unmarked n.spelled := by
    intro n hn
    obtain ⟨x, hx, hn⟩ := List.mem_flatMap.mp hn
    -- the one option with a token has no name of the database
    have hne : x ≠ .modelName := by rintro rfl; cases hn
    exact (x.spells_render ctx).unmarked (TableOption.unmarked_render ctx hne
      (TableOption.hasUnmarkedParts_ofTable hs ht x hx)) n hn
  unfold writtenNames namesInDefinition
  simp only [List.forall_mem_append]
  exact ⟨forall_mem_ite_nil htyped, hblocks, hoptions⟩

/-- A generated module has the names of its table. -/
theorem spells_generate (h : ∀ s ∈ t.texts ++ ctx.settings.texts, '#' ∉ s.toList)
    {relations : List Relation} {m : ModelModule} (hm : t.generate ctx relations = .ok m) :
    Spells m.text (t.writtenNames ctx) := by
  have hall : AllUnmarked (t.texts ++ ctx.settings.texts) := fun s hs => unmarked_iff.mpr (h s hs)
  obtain ⟨ht, hs⟩ := allUnmarked_append.mp hall
  obtain ⟨-, c, model, hc, -, rfl⟩ := of_generate_eq_ok hm
  exact (ModuleContent.spells_draft hc).replace model (unmarked_of_mem_writtenNames hs ht)

/-- **A name is read back just if its quoting keeps it.** In a generated module, of a table and
settings without marks, all names of the database stand in literals, and such a literal is closed
and stands for the name if the name has no backslash and no line end, nor the quote of the literal
unless that is escaped; it does not otherwise. -/
theorem readsAs_literal_iff (h : ∀ s ∈ t.texts ++ ctx.settings.texts, '#' ∉ s.toList)
    {relations : List Relation} {m : ModelModule} (hm : t.generate ctx relations = .ok m) :
    Spells m.text (t.writtenNames ctx) ∧
      ∀ n ∈ t.writtenNames ctx, ReadsAs n.literal n.name ↔ n.quoting.Keeps n.name :=
  ⟨spells_generate h hm, fun n _ => n.quoting.readsAs_write_iff n.name⟩

/-- A table with a name, a column and a constraint that are no identifiers. -/
def dishes : Table := {
  name := ⟨none, "chef's dishes"⟩
  fields := [
    { name := "id", sqlType := "int", primaryKey := true },
    { name := "dish-name", sqlType := "text", unique := some (.named "one \"name\"") },
    { name := "kind", sqlType := "enum('main','side')", labels := ["main", "side"] }]
  indexes := [{
    name := some "by_name", kind := some "BTREE"
    parts := [{ column := "dish-name", order := some "DESC" }] }] }

theorem unmarked_dishes : ∀ s ∈ dishes.texts ++ ({} : Settings).texts, '#' ∉ s.toList := by
  decide +kernel

theorem readsAs_literal_iff_dishes : ∃ m, dishes.generate ⟨{}, .postgres⟩ [] = .ok m ∧
    Spells m.text (dishes.writtenNames ⟨{}, .postgres⟩) ∧
    ∀ n ∈ dishes.writtenNames ⟨{}, .postgres⟩,
      ReadsAs n.literal n.name ↔ n.quoting.Keeps n.name := by
  obtain ⟨m, hm, -⟩ := exists_ok_of_any (x := dishes.generate ⟨{}, .postgres⟩ [])
    (p := fun _ => true) (by decide +kernel)
  exact ⟨m, hm, readsAs_literal_iff unmarked_dishes hm⟩

/-- The apostrophe in the name of the table ends its literal. -/
theorem dishes_misquoted : (∀ s ∈ dishes.texts ++ ({} : Settings).texts, '#' ∉ s.toList) ∧
    ∃ m, dishes.generate ⟨{}, .postgres⟩ [] = .ok m ∧
      Spells m.text (dishes.writtenNames ⟨{}, .postgres⟩) ∧
      ∃ n ∈ dishes.writtenNames ⟨{}, .postgres⟩,
        n.spelled = "tableName: 'chef's dishes'" ∧ n.name = "chef's dishes" ∧
          ¬ ReadsAs n.literal n.name := by
  obtain ⟨m, hm, -⟩ := exists_ok_of_any (x := dishes.generate ⟨{}, .postgres⟩ [])
    (p := fun _ => true) (by decide +kernel)
  exact ⟨unmarked_dishes, m, hm, spells_generate unmarked_dishes hm,
    ⟨"tableName: ", bareSingle, "chef's dishes"⟩, by decide +kernel, by decide, rfl, by decide⟩

end Table
end SchemaModels
