import SchemaModels.Model.Definition
import SchemaModels.Proofs.Traversal

/-!
# What definitions are made of

The attributes of a column and the options of a model come in lists put together from alternatives,
most of which may be missing. What can be in such a list, and where its texts come from, is said
once here (`Attribute.arises_of_mem_ofColumn`, `TableOption.arises_of_mem_ofTable`). Whatever holds
for all attributes or for all options is shown by cases from there.
-/

namespace SchemaModels

variable {ctx : Context} {t : Table}

namespace Attribute

/-- The attribute is one that the column of the table can call for. -/
inductive Arises (ctx : Context) (t : Table) (c : Column) : Attribute → Prop where
  | autoIncrement : Arises ctx t c autoIncrement
  | autoIncrementIdentity : Arises ctx t c autoIncrementIdentity
  | type : Arises ctx t c (type c.declaredType)
  | allowNull : Arises ctx t c (allowNull c.nullable)
  | defaultValue {isSerial : Bool} {d : DefaultValue}
      (h : DefaultValue.ofReported c.defaultValue c.sqlType c.elementType ctx.dialect isSerial
        = some d) : Arises ctx t c (defaultValue d)
  | primaryKey : Arises ctx t c primaryKey
  | references {k : KeyRole} {table column : String} (hk : t.keyRole? c.name = some k)
      (htable : k.targetTable = some table) (hcolumn : k.targetColumn = some column) :
      Arises ctx t c (references table column)
  | comment {s : String} (h : c.comment = some s) : Arises ctx t c (comment s)
  | extra {e : String × Value} (he : e ∈ c.extras.entries) : Arises ctx t c (extra e.1 e.2)
  | flag : Arises ctx t c (unique none)
  | unique {name : String} (h : c.unique = some (.named name)) : Arises ctx t c (unique (some name))
  | field : Arises ctx t c (field c.name)

variable {c : Column}

theorem arises_of_mem_ofCounting {role : Option KeyRole} {counts : Bool} :
    ∀ a ∈ ofCounting ctx role counts, a.Arises ctx t c := by
  unfold ofCounting
  refine forall_mem_ite_nil ?_
  split
  · exact List.forall_mem_cons.mpr
      ⟨.autoIncrement, List.forall_mem_singleton.mpr .autoIncrementIdentity⟩
  · exact List.forall_mem_singleton.mpr .autoIncrement

theorem arises_of_mem_ofReference : ∀ a ∈ ofReference (t.keyRole? c.name), a.Arises ctx t c := by
  unfold ofReference
  split
  · next hk => exact List.forall_mem_singleton.mpr (.references hk rfl rfl)
  · exact List.forall_mem_nil _

theorem arises_of_mem_ofComment : ∀ a ∈ ofComment ctx c.comment, a.Arises ctx t c := by
  unfold ofComment
  split
  · next s hs =>
    split
    · exact List.forall_mem_nil _
    · exact List.forall_mem_singleton.mpr (.comment hs)
  · exact List.forall_mem_nil _

theorem arises_of_mem_ofExtras : ∀ a ∈ ofExtras c.extras, a.Arises ctx t c := by
  intro a ha
  obtain ⟨e, he, rfl⟩ := List.mem_map.mp ha
  exact .extra (List.mem_filter.mp he).1

theorem arises_of_mem_ofUniqueness {role : Option KeyRole} :
    ∀ a ∈ ofUniqueness c.unique role, a.Arises ctx t c := by
  have hflag : ∀ a ∈ [unique none], a.Arises ctx t c := List.forall_mem_singleton.mpr .flag
  unfold ofUniqueness
  split
  · exact hflag
  · next name hname =>
    split
    · exact List.forall_mem_singleton.mpr (.unique hname)
    · exact forall_mem_ite_nil hflag
  · exact forall_mem_ite_nil hflag

/-- **Every attribute of a column is one that it can call for.** -/
theorem arises_of_mem_ofColumn : ∀ a ∈ ofColumn ctx t c, a.Arises ctx t c := by
  unfold ofColumn
  simp only [List.forall_mem_append]
  refine ⟨⟨⟨⟨⟨⟨⟨⟨?_, ?_⟩, ?_⟩, ?_⟩, ?_⟩, ?_⟩, ?_⟩, ?_⟩, ?_⟩
  · exact arises_of_mem_ofCounting
  · exact List.forall_mem_cons.mpr ⟨.type, List.forall_mem_singleton.mpr .allowNull⟩
  · exact forall_mem_toList_map fun _ hd => .defaultValue hd
  · exact forall_mem_ite_nil (List.forall_mem_singleton.mpr .primaryKey)
  · exact arises_of_mem_ofReference
  · exact arises_of_mem_ofComment
  · exact arises_of_mem_ofExtras
  · exact arises_of_mem_ofUniqueness
  · exact forall_mem_ite_nil (List.forall_mem_singleton.mpr .field)

end Attribute

/-- The block of a column that is not omitted. -/
theorem AttributeBlock.ofColumn?_eq_some_iff {c : Column} {b : AttributeBlock} :
    ofColumn? ctx t c = some b ↔ ctx.settings.isOmitted c.name = false ∧
      b = ⟨c.name, ctx.settings.propertyName c.name, Attribute.ofColumn ctx t c⟩ := by
  unfold ofColumn?
  cases ctx.settings.isOmitted c.name with
  | true => simp
  | false => simp [eq_comm]

namespace TableOption

/-- The option is one that the model of the table can have. -/
inductive Arises (ctx : Context) (t : Table) : TableOption → Prop where
  | connection : Arises ctx t connection
  | tableName : Arises ctx t (tableName t.name.name)
  | schema {s : String} (h : t.name.schema = some s) : Arises ctx t (schema s)
  | modelName : Arises ctx t modelName
  | hasTrigger : Arises ctx t hasTrigger
  | timestamps : Arises ctx t (timestamps (keepsTimestamps ctx.settings t))
  | paranoid : Arises ctx t paranoid
  | fixedNames : Arises ctx t (fixedNames t.name.qualified)
  | shared {key : String} {value : OptionValue} (h : (key, value) ∈ ctx.settings.options.entries) :
      Arises ctx t (shared key value)
  | indexes : Arises ctx t (indexes t.indexes)

theorem arises_of_mem_ofShared {key : String} {value : OptionValue}
    (h : (key, value) ∈ ctx.settings.options.entries) :
    ∀ x ∈ ofShared ctx.settings.options t key value, x.Arises ctx t := by
  unfold ofShared
  split
  · exact List.forall_mem_nil _
  split
  · exact forall_mem_ite_nil (List.forall_mem_singleton.mpr .fixedNames)
  · exact List.forall_mem_singleton.mpr (.shared h)

/-- **Every option of a model is one that it can have.** -/
theorem arises_of_mem_ofTable : ∀ x ∈ ofTable ctx t, x.Arises ctx t := by
  unfold ofTable
  simp only [List.forall_mem_append]
  refine ⟨⟨⟨⟨⟨⟨⟨⟨?_, ?_⟩, ?_⟩, ?_⟩, ?_⟩, ?_⟩, ?_⟩, ?_⟩, ?_⟩
  · split
    · exact List.forall_mem_nil _
    · exact List.forall_mem_singleton.mpr .connection
  · exact List.forall_mem_singleton.mpr .tableName
  · exact forall_mem_ite_nil (forall_mem_toList_map fun _ hs => .schema hs)
  · exact List.forall_mem_singleton.mpr .modelName
  · exact forall_mem_ite_nil (List.forall_mem_singleton.mpr .hasTrigger)
  · exact List.forall_mem_singleton.mpr .timestamps
  · exact forall_mem_ite_nil (List.forall_mem_singleton.mpr .paranoid)
  · intro x hx
    obtain ⟨e, he, hx⟩ := List.mem_flatMap.mp hx
    exact arises_of_mem_ofShared he x hx
  · split
    · exact List.forall_mem_nil _
    · exact List.forall_mem_singleton.mpr .indexes

end TableOption
end SchemaModels
