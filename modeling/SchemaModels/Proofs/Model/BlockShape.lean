import SchemaModels.Proofs.Model.CountingColumns
import SchemaModels.Proofs.Script.EscapedText

/-!
# The shape of a block

The block of a column has its attributes in one fixed order, with the properties that are passed
through between the others, and which of them it has depends on the column, its key role and the
engine (`AttributeBlock.HasShape`). That order is the one in which the parts of a block are put
together; what is said about single attributes comes from when they are due
(`AttributeBlock.mem_attributes_iff`).
-/

namespace SchemaModels

open Naming Text Script

/-- The properties of a column that its block passes through. -/
def Column.passed (c : Column) : List (String × Value) :=
  c.extras.entries.filter fun e => e.1 ≠ "references" && e.1 ≠ "foreignKey" && !e.2.isNull

/-- The property that an attribute passes through, if it does. -/
def Attribute.passed? : Attribute → Option (String × Value)
  | extra key v => some (key, v)
  | _ => none

/-- The keys of the attributes before those that are passed through. -/
def Attribute.keysBefore : List String :=
  ["autoIncrement", "autoIncrementIdentity", "type", "allowNull", "defaultValue", "primaryKey",
    "references", "comment"]

/-- The keys of the attributes after those that are passed through. -/
def Attribute.keysAfter : List String := ["unique", "field"]

/-- What the block of a column looks like. -/
structure AttributeBlock.HasShape (ctx : Context) (t : Table) (c : Column) (b : AttributeBlock) :
    Prop where
  /-- The attributes are written one after the other, each with its key and its value. -/
  text : b.render ctx = ctx.indent 2 ++ propertyKey (ctx.settings.propertyName c.name) ++ ": \x7b\n"
    ++ String.intercalate ",\n" (b.attributes.map fun a =>
      ctx.indent 3 ++ a.key ++ ": " ++ a.value ctx)
    ++ "\n" ++ ctx.indent 2 ++ "\x7d"
  /-- The attributes are a selection of the fixed ones in their order, and what is passed through
  stands in between, in the order of the column. -/
  order : ∃ front back, b.attributes = front ++ c.passed.map (fun e => .extra e.1 e.2) ++ back ∧
    (∀ a ∈ front ++ back, a.passed? = none) ∧
    (front.map (·.key)).Sublist Attribute.keysBefore ∧
    (back.map (·.key)).Sublist Attribute.keysAfter
  /-- Every property that is passed through comes once. -/
  once : ∀ e ∈ c.passed, ((b.attributes.filterMap (·.passed?)).map (·.1)).count e.1 = 1
  type : ∃ declared, .type declared ∈ b.attributes
  /-- The type is an expression of the ORM or the type of the database as a literal. -/
  typeText : ∀ declared, .type declared ∈ b.attributes →
    beginsWith "DataTypes." ((Attribute.type declared).value ctx) = true ∨
      ReadsAsIn .double ((Attribute.type declared).value ctx) c.sqlType
  allowNull : ∃ allowed, .allowNull allowed ∈ b.attributes
  identity : .autoIncrementIdentity ∈ b.attributes → .autoIncrement ∈ b.attributes ∧
    ctx.dialect = .postgres ∧ ∃ k, t.keyRole? c.name = some k ∧ k.isIdentity = true
  /-- A key role that disowns the primary key wins. -/
  primaryKey : ∀ k, t.keyRole? c.name = some k → k.isPrimary = false →
    .primaryKey ∉ b.attributes
  references : (∃ table column, .references table column ∈ b.attributes) ↔
    ∃ k, t.keyRole? c.name = some k ∧ k.isForeign = true ∧ k.targetTable.isSome = true ∧
      k.targetColumn.isSome = true
  comment : ctx.dialect = .mssql → ∀ s, .comment s ∉ b.attributes
  field : (∃ name, .field name ∈ b.attributes) ↔ ctx.settings.propertyName c.name ≠ c.name

/-! ## The order -/

namespace Attribute

variable {ctx : Context} {t : Table} {c : Column}

theorem ofExtras_eq_map_passed :
    ofExtras c.extras = c.passed.map fun e => extra e.1 e.2 := by
  have hkept : ∀ e : String × Value, (!expressedByKeyRole.contains e.1 && !e.2.isNull) =
      (e.1 ≠ "references" && e.1 ≠ "foreignKey" && !e.2.isNull) := by
    intro e
    simp [expressedByKeyRole]
  simp only [ofExtras, Column.passed, hkept]

theorem filterMap_passed?_map (es : List (String × Value)) :
    (es.map fun e => extra e.1 e.2).filterMap passed? = es := by
  induction es with
  | nil => rfl
  | cons e es ih => simp [passed?, ih]

/-- Apart from the extras, no attribute is passed through. -/
theorem passed?_of_mem_own : ∀ a ∈ ownFront ctx t c ++ ownBack ctx t c, a.passed? = none := by
  intro a ha
  -- an extra would have to come from one of the parts that make no extras
  cases a with
  | extra key v =>
    simp [ownFront, ownMiddle, ownBack, mem_ofCounting_iff, mem_ofReference_iff,
      mem_ofComment_iff, mem_ofUniqueness_iff] at ha
  | _ => rfl

theorem sublist_keysBefore : ((ownFront ctx t c).map key).Sublist keysBefore := by
  rw [ownFront, List.map_append]
  exact (sublist_ofCounting _ _ _).append (sublist_ownMiddle _ _ _)

theorem sublist_keysAfter : ((ownBack ctx t c).map key).Sublist keysAfter := by
  rw [ownBack, List.map_append]
  exact (sublist_ofUniqueness _ _).append (sublist_map_ite key _ (field c.name))

/-- The attributes that are passed through are those of the column. -/
theorem filterMap_passed?_ofColumn : (ofColumn ctx t c).filterMap passed? = c.passed := by
  have hfront : (ownFront ctx t c).filterMap passed? = [] :=
    List.filterMap_eq_nil_iff.mpr fun a ha => passed?_of_mem_own a (List.mem_append_left _ ha)
  have hback : (ownBack ctx t c).filterMap passed? = [] :=
    List.filterMap_eq_nil_iff.mpr fun a ha => passed?_of_mem_own a (List.mem_append_right _ ha)
  rw [ofColumn_eq, ofExtras_eq_map_passed, List.filterMap_append, List.filterMap_append, hfront,
    hback, filterMap_passed?_map, List.append_nil, List.nil_append]

end Attribute

theorem Column.nodup_keys_passed (c : Column) : (c.passed.map (·.1)).Nodup :=
  c.extras.nodup.sublist (List.filter_sublist.map _)

/-! ## The type -/

/-- Every data type is one of the ORM. -/
theorem DataType.beginsWith_render (d : DataType) : beginsWith "DataTypes." d.render = true := by
  have hfront : ∀ {name : String} (rest : String), beginsWith "DataTypes." name = true →
      beginsWith "DataTypes." (name ++ rest) = true := by
    intro name rest h
    simp only [beginsWith, List.isPrefixOf_iff_prefix, String.toList_append] at h ⊢
    exact h.trans (List.prefix_append _ _)
  cases d with
  | text n | string n | char n | date n | float n | decimal n | double n | geometry n
  | geography n => exact hfront n rfl
  | range _ | array _ | enum _ => exact hfront _ (hfront _ rfl)
  | integer _ _ _ => exact hfront _ (hfront _ (hfront _ rfl))
  | _ => rfl

/-- A declared type is an expression of the ORM or stands for the type of the database. -/
theorem Column.declaredType_render (c : Column) :
    beginsWith "DataTypes." c.declaredType.render = true ∨
      ReadsAsIn .double c.declaredType.render c.sqlType := by
  unfold declaredType
  split
  · next d _ => exact .inl d.beginsWith_render
  · exact .inr (readsAsIn_escapedIn .double c.sqlType)

/-! ## The whole block -/

namespace AttributeBlock

variable {ctx : Context} {t : Table} {c : Column}

/-- **The block of a column has its shape.** -/
theorem exists_hasShape (t : Table) (h : ctx.settings.isOmitted c.name = false) :
    ∃ b, ofColumn? ctx t c = some b ∧ b.HasShape ctx t c := by
  refine ⟨_, ofColumn?_eq_some_iff.mpr ⟨h, rfl⟩, ?_⟩
  have hmem : ∀ {a : Attribute}, a ∈ Attribute.ofColumn ctx t c ↔ a.IsDue ctx t c :=
    Attribute.mem_ofColumn_iff
  constructor
  case text => rfl
  case order =>
    refine ⟨Attribute.ownFront ctx t c, Attribute.ownBack ctx t c, ?_,
      Attribute.passed?_of_mem_own, Attribute.sublist_keysBefore, Attribute.sublist_keysAfter⟩
    rw [Attribute.ofColumn_eq, Attribute.ofExtras_eq_map_passed]
  case once =>
    intro e he
    rw [Attribute.filterMap_passed?_ofColumn]
    exact List.count_eq_one_of_mem c.nodup_keys_passed (List.mem_map_of_mem he)
  case type => exact ⟨c.declaredType, hmem.mpr rfl⟩
  case typeText =>
    intro declared hdeclared
    obtain rfl : declared = c.declaredType := hmem.mp hdeclared
    exact c.declaredType_render
  case allowNull => exact ⟨c.nullable, hmem.mpr rfl⟩
  case identity =>
    intro hidentity
    obtain ⟨hcounts, hrest⟩ := hmem.mp hidentity
    exact ⟨hmem.mpr hcounts, hrest⟩
  case primaryKey =>
    intro k hk hprimary hmark
    obtain ⟨-, howns⟩ := hmem.mp hmark
    cases hprimary.symm.trans (howns k hk)
  case references =>
    constructor
    · rintro ⟨table, column, href⟩
      obtain ⟨k, hk, hforeign, htable, hcolumn⟩ := hmem.mp href
      exact ⟨k, hk, hforeign, by rw [htable]; rfl, by rw [hcolumn]; rfl⟩
    · rintro ⟨k, hk, hforeign, htable, hcolumn⟩
      obtain ⟨table, htable⟩ := Option.isSome_iff_exists.mp htable
      obtain ⟨column, hcolumn⟩ := Option.isSome_iff_exists.mp hcolumn
      exact ⟨table, column, hmem.mpr ⟨k, hk, hforeign, htable, hcolumn⟩⟩
  case comment =>
    intro hdialect s hcomment
    exact (hmem.mp hcomment).2.1 hdialect
  case field =>
    constructor
    · rintro ⟨name, hname⟩
      exact (hmem.mp hname).2
    · intro hname
      exact ⟨c.name, hmem.mpr ⟨rfl, hname⟩⟩

/-- The words of an invoice, with a type that the ORM does not know. -/
def invoiceWords : Column :=
  { name := "words", sqlType := "tsvector", comment := some "for the search"
    extras := .ofList
      [("references", .text "texts"), ("generated", .bool true), ("old", .json .null)] }

theorem exists_hasShape_invoiceWords :
    typedPostgres.settings.isOmitted invoiceWords.name = false ∧
      ∃ b, ofColumn? typedPostgres invoices invoiceWords = some b ∧
        b.HasShape typedPostgres invoices invoiceWords :=
  ⟨by decide, exists_hasShape invoices (by decide)⟩

end AttributeBlock
end SchemaModels
