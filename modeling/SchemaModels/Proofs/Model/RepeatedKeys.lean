import Mathlib.Data.List.Nodup
import Mathlib.Data.List.Perm.Basic
import SchemaModels.Proofs.Model.ObjectKeys
import SchemaModels.Proofs.Schema.ReadBack

/-!
# Keys that come twice

The options of a model and the attributes of a column are objects of which some entries are fixed,
some depend on the settings and on the database, and some are passed through under any key. No two
entries that the generator makes itself have the same key, and no key is passed through twice. So a
key comes twice just if one that is passed through is one of the others (`Table.distinctKeys_iff`):

* of the options that all models share only those for timestamps, soft deletion and names are kept
  back, so that a shared option may repeat any other one that a model has of its own;
* of the properties of a column only those are passed through that the column does not have of its
  own, and among these there are two that an attribute may be named like.
-/

namespace SchemaModels

open Naming

/-! ## Keys that are passed through -/

/-- A list of keys with some that are passed through in it. -/
theorem nodup_passed_iff {front passed back : List String} (hown : (front ++ back).Nodup)
    (hpassed : passed.Nodup) :
    (front ++ passed ++ back).Nodup ↔ ∀ key ∈ passed, key ∉ front ++ back := by
  have hperm : (front ++ passed ++ back).Perm (passed ++ (front ++ back)) := by
    rw [← List.append_assoc]
    exact List.perm_append_comm.append_right back
  rw [hperm.nodup_iff, List.nodup_append']
  exact ⟨fun h => List.disjoint_left.mp h.2.2, fun h => ⟨hpassed, hown, List.disjoint_left.mpr h⟩⟩

/-- An entry that may be missing has its own key or none. -/
theorem sublist_map_ite {α : Type} (key : α → String) (p : Prop) [Decidable p] (a : α) :
    ((if p then [a] else []).map key).Sublist [key a] := by
  split <;> simp

theorem sublist_map_ite_not {α : Type} (key : α → String) (p : Prop) [Decidable p] (a : α) :
    ((if p then [] else [a]).map key).Sublist [key a] := by
  split <;> simp

/-! ## Options -/

namespace TableOption

variable {ctx : Context} {t : Table}

/-- The options before those that all models share. -/
def ownFront (ctx : Context) (t : Table) : List TableOption :=
  (if ctx.settings.useDefine then [] else [connection])
  ++ [tableName t.name.name]
  ++ (if ctx.dialect.hasSchemas then (t.name.schema.map schema).toList else [])
  ++ [modelName]
  ++ (if t.hasTrigger then [hasTrigger] else [])
  ++ [timestamps (keepsTimestamps ctx.settings t)]
  ++ (if deletesSoftly ctx.settings t then [paranoid] else [])

/-- The options after those that all models share. -/
def ownBack (ctx : Context) (t : Table) : List TableOption :=
  if ctx.settings.noIndexes || t.indexes.isEmpty then [] else [indexes t.indexes]

/-- The shared options as the model of the table has them. -/
def passed (ctx : Context) (t : Table) : List TableOption :=
  ctx.settings.options.entries.flatMap fun e => ofShared ctx.settings.options t e.1 e.2

theorem ofTable_eq (ctx : Context) (t : Table) :
    ofTable ctx t = ownFront ctx t ++ passed ctx t ++ ownBack ctx t := rfl

/-- The keys of the options that a model has of its own. -/
def ownKeys : List String :=
  ["sequelize", "tableName", "schema", "modelName", "hasTrigger", "timestamps", "paranoid",
    "indexes"]

theorem sublist_ownKeys (ctx : Context) (t : Table) :
    ((ownFront ctx t).map key ++ (ownBack ctx t).map key).Sublist ownKeys := by
  have hschema : (((if ctx.dialect.hasSchemas then (t.name.schema.map schema).toList else []) :
      List TableOption).map key).Sublist ["schema"] := by
    split
    · cases t.name.schema <;> simp [key]
    · simp
  unfold ownFront ownBack
  simp only [List.map_append, List.append_assoc]
  exact (sublist_map_ite_not key _ connection).append (.append (.refl ["tableName"])
    (hschema.append (.append (.refl ["modelName"]) ((sublist_map_ite key _ hasTrigger).append
      (.append (.refl ["timestamps"]) ((sublist_map_ite key _ paranoid).append
        (sublist_map_ite_not key _ (indexes t.indexes))))))))

/-- Whether a shared option is passed on to the model. -/
def isPassed (options : ModelOptions) (key : String) : Bool :=
  key ≠ "timestamps" && key ≠ "paranoid" && (key ≠ "name" || options.fixesNames)

theorem map_key_ofShared (options : ModelOptions) (t : Table) (k : String) (v : OptionValue) :
    (ofShared options t k v).map key = if isPassed options k then [k] else [] := by
  unfold ofShared isPassed
  by_cases htimes : k = "timestamps"
  · simp [htimes]
  by_cases hparanoid : k = "paranoid"
  · simp [hparanoid]
  by_cases hname : k = "name"
  · subst hname
    cases options.fixesNames <;> simp [key]
  · simp [htimes, hparanoid, hname, key]

/-- The keys of the shared options are passed on in their order. -/
theorem map_key_passed (ctx : Context) (t : Table) : (passed ctx t).map key
    = ctx.settings.options.keys.filter (isPassed ctx.settings.options) := by
  unfold passed OrderedMap.keys
  induction ctx.settings.options.entries with
  | nil => rfl
  | cons e es ih =>
    rw [List.flatMap_cons, List.map_append, ih, map_key_ofShared, List.map_cons, List.filter_cons]
    split <;> simp

/-- The keys of the options of a model, in order. -/
def keys (ctx : Context) (t : Table) : List String :=
  (ofTable ctx t).map key

theorem nodup_keys_iff_passed (ctx : Context) (t : Table) : (keys ctx t).Nodup ↔
    ∀ k ∈ (passed ctx t).map key, k ∉ (ownFront ctx t).map key ++ (ownBack ctx t).map key := by
  have hown : ownKeys.Nodup := by decide
  have hpassed : ((passed ctx t).map key).Nodup := by
    rw [map_key_passed]
    exact ctx.settings.options.nodup.filter _
  rw [keys, ofTable_eq, List.map_append, List.map_append]
  exact nodup_passed_iff (hown.sublist (sublist_ownKeys ctx t)) hpassed

/-- The keys of options that a model has of its own although shared options are passed on under
them. -/
inductive OwnKey (ctx : Context) (t : Table) : String → Prop where
  | connection (h : ctx.settings.useDefine = false) : OwnKey ctx t "sequelize"
  | tableName : OwnKey ctx t "tableName"
  | schema {s : String} (hdialect : ctx.dialect.hasSchemas = true) (h : t.name.schema = some s) :
      OwnKey ctx t "schema"
  | modelName : OwnKey ctx t "modelName"
  | hasTrigger (h : t.hasTrigger = true) : OwnKey ctx t "hasTrigger"
  | indexes (hasked : ctx.settings.noIndexes = false) (h : t.indexes ≠ []) : OwnKey ctx t "indexes"

theorem mem_keys_of_ownKey {k : String} (h : OwnKey ctx t k) :
    k ∈ (ownFront ctx t).map key ++ (ownBack ctx t).map key := by
  cases h with
  | connection h => simp [ownFront, h, key]
  | tableName => simp [ownFront, key]
  | schema hdialect h => simp [ownFront, hdialect, h, key]
  | modelName => simp [ownFront, key]
  | hasTrigger h => simp [ownFront, h, key]
  | indexes hasked h => simp [ownBack, hasked, h, key]

theorem OwnKey.isPassed {k : String} (h : OwnKey ctx t k) (options : ModelOptions) :
    isPassed options k = true := by
  cases h <;> simp [TableOption.isPassed]

/-- The model's own options have such keys, apart from those for timestamps and soft deletion. -/
theorem ownKey_of_mem : ∀ x ∈ ownFront ctx t ++ ownBack ctx t,
    isPassed ctx.settings.options x.key = true → OwnKey ctx t x.key := by
  have hback : ∀ {x : TableOption}, isPassed ctx.settings.options x.key = false →
      isPassed ctx.settings.options x.key = true → OwnKey ctx t x.key :=
    fun hback hpass => absurd (hback.symm.trans hpass) Bool.false_ne_true
  unfold ownFront ownBack
  simp only [List.forall_mem_append]
  refine ⟨⟨⟨⟨⟨⟨⟨?_, ?_⟩, ?_⟩, ?_⟩, ?_⟩, ?_⟩, ?_⟩, ?_⟩
  · split
    · exact List.forall_mem_nil _
    · next h => exact List.forall_mem_singleton.mpr fun _ => .connection (Bool.eq_false_iff.mpr h)
  · exact List.forall_mem_singleton.mpr fun _ => .tableName
  · split
    · next hdialect => exact forall_mem_toList_map fun _ h _ => .schema hdialect h
    · exact List.forall_mem_nil _
  · exact List.forall_mem_singleton.mpr fun _ => .modelName
  · split
    · next h => exact List.forall_mem_singleton.mpr fun _ => .hasTrigger h
    · exact List.forall_mem_nil _
  · exact List.forall_mem_singleton.mpr (hback rfl)
  · exact forall_mem_ite_nil (List.forall_mem_singleton.mpr (hback rfl))
  · split
    · exact List.forall_mem_nil _
    · next h =>
      rw [Bool.or_eq_true, not_or, Bool.not_eq_true, List.isEmpty_iff] at h
      exact List.forall_mem_singleton.mpr fun _ => .indexes h.1 h.2

end TableOption

/-- The model of the table has an option twice: of its own, and passed on. -/
def Table.RepeatsOption (ctx : Context) (t : Table) (key : String) : Prop :=
  TableOption.OwnKey ctx t key ∧ ∃ value, ctx.settings.options.get? key = some value

namespace TableOption

variable {ctx : Context} {t : Table}

theorem mem_keys_passed {k : String} : k ∈ (passed ctx t).map key ↔
    (∃ value, ctx.settings.options.get? k = some value) ∧
      isPassed ctx.settings.options k = true := by
  rw [map_key_passed, List.mem_filter, OrderedMap.keys]
  simp [OrderedMap.get?_eq_some_iff]

/-- **No option comes twice** just if none is both passed on and one of the model's own. -/
theorem nodup_keys_iff (ctx : Context) (t : Table) :
    (keys ctx t).Nodup ↔ ∀ key, ¬ t.RepeatsOption ctx key := by
  rw [nodup_keys_iff_passed]
  constructor
  · rintro h k ⟨hown, hgiven⟩
    exact h k (mem_keys_passed.mpr ⟨hgiven, hown.isPassed _⟩) (mem_keys_of_ownKey hown)
  · intro h k hpassed hown
    obtain ⟨hgiven, hpass⟩ := mem_keys_passed.mp hpassed
    rw [← List.map_append] at hown
    obtain ⟨x, hx, rfl⟩ := List.mem_map.mp hown
    exact h _ ⟨ownKey_of_mem x hx hpass, hgiven⟩

end TableOption

/-! ## Attributes -/

/-- A property of the column is passed through under the key. -/
def Column.Passes (c : Column) (key : String) : Prop :=
  ∃ v, c.extras.get? key = some v ∧ v.isNull = false

namespace Attribute

variable {ctx : Context} {t : Table} {c : Column}

/-- Whether the column counts up by itself. -/
def counts (ctx : Context) (t : Table) (c : Column) : Bool :=
  (t.keyRole? c.name).any (·.isSerial) || ctx.dialect.isSerial c || c.autoIncrement

/-- The attributes between those for counting and the properties that are passed through. -/
def ownMiddle (ctx : Context) (t : Table) (c : Column) : List Attribute :=
  let role := t.keyRole? c.name
  let isSerial := role.any (·.isSerial) || ctx.dialect.isSerial c
  [type c.declaredType, allowNull c.nullable]
  ++ ((DefaultValue.ofReported c.defaultValue c.sqlType c.elementType ctx.dialect isSerial).map
    defaultValue).toList
  ++ (if c.primaryKey && role.all (·.isPrimary) then [primaryKey] else [])
  ++ ofReference role
  ++ ofComment ctx c.comment

/-- The attributes before the properties that are passed through. -/
def ownFront (ctx : Context) (t : Table) (c : Column) : List Attribute :=
  ofCounting ctx (t.keyRole? c.name) (counts ctx t c) ++ ownMiddle ctx t c

/-- The attributes after the properties that are passed through. -/
def ownBack (ctx : Context) (t : Table) (c : Column) : List Attribute :=
  ofUniqueness c.unique (t.keyRole? c.name)
  ++ (if ctx.settings.propertyName c.name ≠ c.name then [field c.name] else [])

theorem ofColumn_eq (ctx : Context) (t : Table) (c : Column) :
    ofColumn ctx t c = ownFront ctx t c ++ ofExtras c.extras ++ ownBack ctx t c := by
  unfold ofColumn ownFront ownMiddle ownBack counts
  simp only [List.append_assoc]

theorem sublist_ofCounting (ctx : Context) (role : Option KeyRole) (counts : Bool) :
    ((ofCounting ctx role counts).map key).Sublist ["autoIncrement", "autoIncrementIdentity"] := by
  unfold ofCounting
  split
  · split <;> simp [key]
  · simp

theorem sublist_ownMiddle (ctx : Context) (t : Table) (c : Column) :
    ((ownMiddle ctx t c).map key).Sublist
      ["type", "allowNull", "defaultValue", "primaryKey", "references", "comment"] := by
  have hdefault : ∀ {d : Option DefaultValue},
      ((d.map defaultValue).toList.map key).Sublist ["defaultValue"] := by
    intro d
    cases d <;> simp [key]
  have hreference : ∀ {role : Option KeyRole},
      ((ofReference role).map key).Sublist ["references"] := by
    intro role
    unfold ofReference
    split <;> simp [key]
  have hcomment : ((ofComment ctx c.comment).map key).Sublist ["comment"] := by
    unfold ofComment
    split
    · split <;> simp [key]
    · simp
  unfold ownMiddle
  simp only [List.map_append, List.append_assoc]
  exact .append (.refl ["type", "allowNull"]) (hdefault.append
    ((sublist_map_ite key _ primaryKey).append (hreference.append hcomment)))

theorem sublist_ofUniqueness (stated : Option Uniqueness) (role : Option KeyRole) :
    ((ofUniqueness stated role).map key).Sublist ["unique"] := by
  unfold ofUniqueness
  repeat' split
  all_goals simp [key]

/-- The keys of the attributes that do not come from extras. -/
def ownKeys : List String :=
  ["autoIncrement", "autoIncrementIdentity", "type", "allowNull", "defaultValue", "primaryKey",
    "references", "comment", "unique", "field"]

theorem sublist_ownKeys (ctx : Context) (t : Table) (c : Column) :
    ((ownFront ctx t c).map key ++ (ownBack ctx t c).map key).Sublist ownKeys := by
  unfold ownFront ownBack
  simp only [List.map_append, List.append_assoc]
  exact (sublist_ofCounting _ _ _).append ((sublist_ownMiddle _ _ _).append
    ((sublist_ofUniqueness _ _).append (sublist_map_ite key _ (field c.name))))

/-- The keys of the attributes of a column, in order. -/
def keys (ctx : Context) (t : Table) (c : Column) : List String :=
  (ofColumn ctx t c).map key

/-- The extras that are passed through, by key. -/
theorem map_key_ofExtras (extras : OrderedMap Value) : (ofExtras extras).map key
    = (extras.entries.filter fun e => !expressedByKeyRole.contains e.1 && !e.2.isNull).map
      (·.1) := by
  rw [ofExtras, List.map_map]
  rfl

theorem nodup_keys_ofExtras (extras : OrderedMap Value) : ((ofExtras extras).map key).Nodup := by
  rw [map_key_ofExtras]
  exact extras.nodup.sublist (List.filter_sublist.map _)

theorem mem_keys_ofExtras {k : String} : k ∈ (ofExtras c.extras).map key ↔
    k ∉ expressedByKeyRole ∧ c.Passes k := by
  rw [map_key_ofExtras]
  simp only [Column.Passes, OrderedMap.get?_eq_some_iff, List.mem_map, List.mem_filter,
    Bool.and_eq_true, Bool.not_eq_true', List.contains_eq_mem, decide_eq_false_iff_not, Prod.exists]
  constructor
  · rintro ⟨_, v, ⟨he, hkept, hnull⟩, rfl⟩
    exact ⟨hkept, v, he, hnull⟩
  · rintro ⟨hkept, v, he, hnull⟩
    exact ⟨k, v, ⟨he, hkept, hnull⟩, rfl⟩

end Attribute

/-- The block of the column has an attribute twice: of its own, and passed through. -/
inductive Column.RepeatsAttribute (ctx : Context) (t : Table) (c : Column) : String → Prop where
  /-- The column counts up as an identity. -/
  | identity {k : KeyRole} (hdialect : ctx.dialect = .postgres) (hk : t.keyRole? c.name = some k)
      (hidentity : k.isIdentity = true) (hcounts : Attribute.counts ctx t c = true)
      (hpassed : c.Passes "autoIncrementIdentity") : RepeatsAttribute ctx t c "autoIncrementIdentity"
  /-- The property is not named like the column. -/
  | field (hname : ctx.settings.propertyName c.name ≠ c.name) (hpassed : c.Passes "field") :
      RepeatsAttribute ctx t c "field"

namespace Attribute

variable {ctx : Context} {t : Table} {c : Column}

theorem identity_mem_ofCounting {role : Option KeyRole} {counts : Bool} :
    "autoIncrementIdentity" ∈ (ofCounting ctx role counts).map key ↔
      counts = true ∧ ctx.dialect = .postgres ∧ role.any (·.isIdentity) = true := by
  unfold ofCounting
  by_cases hcounts : counts = true
  · rw [if_pos hcounts]
    split <;> simp_all [key]
  · rw [if_neg hcounts]
    simp [hcounts]

/-- A column that counts up as an identity says so of its own. -/
theorem identity_mem_keys_iff : "autoIncrementIdentity" ∈ (ownFront ctx t c).map key ++
      (ownBack ctx t c).map key ↔
    ∃ k, ctx.dialect = .postgres ∧ t.keyRole? c.name = some k ∧ k.isIdentity = true ∧
      counts ctx t c = true := by
  have hmiddle : "autoIncrementIdentity" ∉ (ownMiddle ctx t c).map key :=
    fun h => absurd ((sublist_ownMiddle _ _ _).subset h) (by decide)
  have hunique : ∀ {role : Option KeyRole},
      "autoIncrementIdentity" ∉ (ofUniqueness c.unique role).map key :=
    fun h => absurd ((sublist_ofUniqueness _ _).subset h) (by decide)
  have hfield : ∀ {p : Prop} [Decidable p],
      "autoIncrementIdentity" ∉ (if p then [field c.name] else []).map key :=
    fun h => absurd ((sublist_map_ite key _ (field c.name)).subset h) (by simp [key])
  simp only [ownFront, ownBack, List.map_append, List.mem_append, hmiddle, hunique, hfield,
    or_false, identity_mem_ofCounting]
  cases t.keyRole? c.name <;> simp [and_comm, and_left_comm]

/-- A property that is not named like its column says so of its own. -/
theorem field_mem_keys_iff : "field" ∈ (ownFront ctx t c).map key ++ (ownBack ctx t c).map key ↔
    ctx.settings.propertyName c.name ≠ c.name := by
  have hcounting : ∀ {role : Option KeyRole} {b : Bool}, "field" ∉ (ofCounting ctx role b).map key :=
    fun h => absurd ((sublist_ofCounting _ _ _).subset h) (by decide)
  have hmiddle : "field" ∉ (ownMiddle ctx t c).map key :=
    fun h => absurd ((sublist_ownMiddle _ _ _).subset h) (by decide)
  have hunique : ∀ {role : Option KeyRole}, "field" ∉ (ofUniqueness c.unique role).map key :=
    fun h => absurd ((sublist_ofUniqueness _ _).subset h) (by decide)
  simp only [ownFront, ownBack, List.map_append, List.mem_append, hcounting, hmiddle, hunique,
    false_or]
  split <;> simp_all [key]

/-- **No attribute comes twice** just if none is both passed through and one of the block's own. -/
theorem nodup_keys_iff (hextras : ∀ e ∈ c.extras.entries, e.1 ∉ Column.ownKeys) (ctx : Context)
    (t : Table) : (keys ctx t c).Nodup ↔ ∀ key, ¬ c.RepeatsAttribute ctx t key := by
  have hown : ownKeys.Nodup := by decide
  -- the only keys of attributes that are neither properties of a column nor kept back
  have hkeys : ∀ k ∈ ownKeys, k ∉ Column.ownKeys → k ∉ expressedByKeyRole →
      k = "autoIncrementIdentity" ∨ k = "field" := by decide
  rw [keys, ofColumn_eq, List.map_append, List.map_append,
    nodup_passed_iff (hown.sublist (sublist_ownKeys ctx t c)) (nodup_keys_ofExtras c.extras)]
  constructor
  · intro h k hrepeats
    cases hrepeats with
    | identity hdialect hk hidentity hcounts hpassed =>
      exact h _ (mem_keys_ofExtras.mpr ⟨by decide, hpassed⟩)
        (identity_mem_keys_iff.mpr ⟨_, hdialect, hk, hidentity, hcounts⟩)
    | field hname hpassed =>
      exact h _ (mem_keys_ofExtras.mpr ⟨by decide, hpassed⟩) (field_mem_keys_iff.mpr hname)
  · intro h k hk hmem
    obtain ⟨hkept, hpassed⟩ := mem_keys_ofExtras.mp hk
    have hextra : k ∉ Column.ownKeys := by
      obtain ⟨v, hv, -⟩ := hpassed
      exact hextras (k, v) (OrderedMap.get?_eq_some_iff.mp hv)
    rcases hkeys k ((sublist_ownKeys ctx t c).subset hmem) hextra hkept with rfl | rfl
    · obtain ⟨role, hdialect, hrole, hidentity, hcounts⟩ := identity_mem_keys_iff.mp hmem
      exact h _ (.identity hdialect hrole hidentity hcounts hpassed)
    · exact h _ (.field (field_mem_keys_iff.mp hmem) hpassed)

end Attribute

/-! ## Both objects -/

/-- The objects in the definition of a table, with the keys that come twice in them. -/
structure Table.RepeatsAsListed (ctx : Context) (t : Table) : Prop where
  /-- The options are written with these keys. -/
  optionsText : WritesKeys (ctx.indent 2) ((t.definition ctx).renderOptions ctx)
    (TableOption.keys ctx t)
  options : (TableOption.keys ctx t).Nodup ↔ ∀ key, ¬ t.RepeatsOption ctx key
  /-- A block is written with the keys of its attributes. -/
  blockText : ∀ c ∈ t.columns, ∀ b, AttributeBlock.ofColumn? ctx t c = some b →
    WritesKeys (ctx.indent 3) (String.intercalate ",\n" (b.attributes.map (·.render ctx)))
      b.attributeKeys
  block : ∀ c ∈ t.columns, ∀ b, AttributeBlock.ofColumn? ctx t c = some b →
    (b.attributeKeys.Nodup ↔ ∀ key, ¬ c.RepeatsAttribute ctx t key)

theorem TableOption.writesKeys (ctx : Context) (t : Table) :
    WritesKeys (ctx.indent 2) ((t.definition ctx).renderOptions ctx) (keys ctx t) := by
  refine writesKeys_map fun x hx => x.writesKey ctx ?_
  rintro rfl
  simp [Table.definition, ofTable, mem_ofShared, and_assoc] at hx

/-- The extras of a decoded database are none of the properties of columns. -/
theorem Database.extraKeys_of_decode {v : Json} {d : Database} (h : Database.decode v = .ok d)
    {t : Table} (ht : t ∈ d.tables) {c : Column} (hc : c ∈ t.columns) :
    ∀ e ∈ c.extras.entries, e.1 ∉ Column.ownKeys := by
  have htable : t.IsNormal := Table.isNormal_of_decode (isNormal_of_decode h t ht)
  have hcolumn := htable.fields c (Table.mem_fields_of_mem_columns hc)
  exact (Column.isNormal_of_decode hcolumn).extraKeys

/-- **A key comes twice in an object of a definition** just in the ways listed. -/
theorem Database.repeatsAsListed {v : Json} {d : Database} (h : Database.decode v = .ok d)
    {t : Table} (ht : t ∈ d.tables) (ctx : Context) : t.RepeatsAsListed ctx where
  optionsText := TableOption.writesKeys ctx t
  options := TableOption.nodup_keys_iff ctx t
  blockText := fun _ _ b _ => b.writesKeys ctx
  block := by
    intro c hc b hb
    have hattributes : b.attributes = Attribute.ofColumn ctx t c := by
      unfold AttributeBlock.ofColumn? at hb
      split at hb
      · cases hb
      · cases hb
        rfl
    rw [AttributeBlock.attributeKeys, hattributes]
    exact Attribute.nodup_keys_iff (Database.extraKeys_of_decode h ht hc) ctx t

/-- Parcels, with what a tool has noted about their columns. -/
def parcels : Json :=
  .obj [("tables", .arr [.obj [
    ("name", .str "parcels"),
    ("fields", .arr [
      .obj [("name", .str "id"), ("type", .str "int"), ("primaryKey", .bool true),
        ("autoIncrement", .bool true), ("autoIncrementIdentity", .bool true)],
      .obj [("name", .str "weight_kg"), ("type", .str "int"), ("field", .str "weight_kg")]]),
    ("foreignKeys", .obj [("id", .obj [("isPrimaryKey", .bool true),
      ("generation", .str "ALWAYS")])])]])]

/-- Camel case for properties, and a table name for all models. -/
def parcelSettings : Json :=
  .obj [("caseProp", .str "c"), ("additional", .obj [("tableName", .str "parcel")])]

/-- The settings as they are read. -/
def parcelContext : Context :=
  ⟨{ propertyStyle := .camel, options := .ofList [("tableName", .text "parcel")] }, .postgres⟩

theorem Database.repeatsAsListed_parcels : ∃ d, Database.decode parcels = .ok d ∧
    d.tables.length = 1 ∧ ∀ t ∈ d.tables, t.RepeatsAsListed parcelContext := by
  obtain ⟨d, hd, hone⟩ := exists_ok_of_any (x := Database.decode parcels)
    (p := fun d => decide (d.tables.length = 1)) (by decide +kernel)
  exact ⟨d, hd, of_decide_eq_true hone, fun t ht => repeatsAsListed hd ht parcelContext⟩

/-- The options have a key twice, and so have the blocks of both columns. -/
theorem Database.parcels_repeat_keys : Settings.decode parcelSettings = .ok parcelContext.settings ∧
    ∃ d, Database.decode parcels = .ok d ∧ ∃ t ∈ d.tables,
      ¬ (TableOption.keys parcelContext t).Nodup ∧
      (t.attributeBlocks parcelContext).map (·.column) = ["id", "weight_kg"] ∧
      ∀ b ∈ t.attributeBlocks parcelContext, ¬ b.attributeKeys.Nodup := by
  obtain ⟨d, hd, hany⟩ := exists_ok_of_any (x := Database.decode parcels)
    (p := fun d => d.tables.any fun t => decide (¬ (TableOption.keys parcelContext t).Nodup ∧
      (t.attributeBlocks parcelContext).map (·.column) = ["id", "weight_kg"] ∧
      ∀ b ∈ t.attributeBlocks parcelContext, ¬ b.attributeKeys.Nodup))
    (by decide +kernel)
  obtain ⟨t, ht, hrepeat⟩ := List.any_eq_true.mp hany
  exact ⟨rfl, d, hd, t, ht, of_decide_eq_true hrepeat⟩

end SchemaModels
