import SchemaModels.Proofs.Model.KeyUnions
import SchemaModels.Proofs.Model.RepeatedKeys

/-!
# When attributes are due

The attributes of a column come in a list put together from many parts, each of which looks at the
column, at its key role and at the settings in its own way. Here it is said for every attribute just
when it is in the list (`Attribute.IsDue`), part by part first (`mem_ofCounting_iff` and so on) and
then for the whole (`Attribute.mem_ofColumn_iff`). What is asked about the presence of attributes
is read off from there.
-/

namespace SchemaModels

namespace Attribute

variable {ctx : Context} {t : Table} {c : Column} {a : Attribute}

/-- Whether the database generates the values of the column, by its key role or by its default. -/
def isSerial (ctx : Context) (t : Table) (c : Column) : Bool :=
  (t.keyRole? c.name).any (·.isSerial) || ctx.dialect.isSerial c

/-- Just when the block of a column has the attribute. -/
def IsDue (ctx : Context) (t : Table) (c : Column) : Attribute → Prop
  | autoIncrement => counts ctx t c = true
  | autoIncrementIdentity => counts ctx t c = true ∧ ctx.dialect = .postgres ∧
      ∃ k, t.keyRole? c.name = some k ∧ k.isIdentity = true
  | type declared => declared = c.declaredType
  | allowNull allowed => allowed = c.nullable
  | defaultValue d => DefaultValue.ofReported c.defaultValue c.sqlType c.elementType ctx.dialect
      (isSerial ctx t c) = some d
  | primaryKey => c.primaryKey = true ∧ t.OwnsKey c
  | references table column => ∃ k, t.keyRole? c.name = some k ∧ k.isForeign = true ∧
      k.targetTable = some table ∧ k.targetColumn = some column
  | comment s => c.comment = some s ∧ ctx.dialect ≠ .mssql ∧ s ≠ ""
  | extra key v => (key, v) ∈ c.extras.entries ∧ key ∉ expressedByKeyRole ∧ v.isNull = false
  | unique (some name) => c.unique = some (.named name) ∧ name ≠ ""
  | unique none => c.unique = some (.flag true) ∨
      (∀ name, c.unique = some (.named name) → name = "") ∧
        ∃ k, t.keyRole? c.name = some k ∧ k.isUnique = true
  | field name => name = c.name ∧ ctx.settings.propertyName c.name ≠ c.name

/-! ## The parts -/

theorem mem_ofCounting_iff {role : Option KeyRole} {counts : Bool} :
    a ∈ ofCounting ctx role counts ↔ counts = true ∧ (a = autoIncrement ∨
      a = autoIncrementIdentity ∧ ctx.dialect = .postgres ∧
        ∃ k, role = some k ∧ k.isIdentity = true) := by
  rw [← Option.any_eq_true, ofCounting, List.mem_ite_nil_right]
  refine and_congr_right fun _ => ?_
  by_cases h : ctx.dialect = .postgres ∧ role.any (·.isIdentity) = true
  · simp [h]
  · have hrole : ¬ (decide (ctx.dialect = .postgres) && role.any (·.isIdentity)) = true := by
      simpa using h
    rw [if_neg hrole, List.mem_singleton]
    exact (or_iff_left fun hboth => h hboth.2).symm

theorem mem_ofReference_iff {role : Option KeyRole} :
    a ∈ ofReference role ↔ ∃ k table column, a = references table column ∧ role = some k ∧
      k.isForeign = true ∧ k.targetTable = some table ∧ k.targetColumn = some column := by
  unfold ofReference
  split
  · next table column _ _ _ _ =>
    rw [List.mem_singleton]
    constructor
    · rintro rfl
      exact ⟨_, table, column, rfl, rfl, rfl, rfl, rfl⟩
    · rintro ⟨k, table', column', rfl, hk, -, htable, hcolumn⟩
      cases hk
      cases htable
      cases hcolumn
      rfl
  · next hrole =>
    refine iff_of_false (List.not_mem_nil) ?_
    rintro ⟨k, table, column, -, rfl, hforeign, htable, hcolumn⟩
    obtain ⟨_, _, _, _, _, _, _, _, _, _⟩ := k
    cases hforeign
    cases htable
    cases hcolumn
    exact hrole _ _ _ _ _ _ _ _ _ rfl

theorem mem_ofComment_iff {text : Option String} :
    a ∈ ofComment ctx text ↔
      ∃ s, a = comment s ∧ text = some s ∧ ctx.dialect ≠ .mssql ∧ s ≠ "" := by
  cases text with
  | none => simp [ofComment]
  | some s => simp [ofComment, List.mem_ite_nil_left, and_comm]

theorem mem_ofExtras_iff : a ∈ ofExtras c.extras ↔ ∃ key v, a = extra key v ∧
    (key, v) ∈ c.extras.entries ∧ key ∉ expressedByKeyRole ∧ v.isNull = false := by
  simp only [ofExtras, List.mem_map, List.mem_filter, Bool.and_eq_true, Bool.not_eq_true',
    List.contains_eq_mem, decide_eq_false_iff_not, Prod.exists]
  constructor
  · rintro ⟨key, v, h, rfl⟩
    exact ⟨key, v, rfl, h⟩
  · rintro ⟨key, v, rfl, h⟩
    exact ⟨key, v, h, rfl⟩

theorem mem_ofUniqueness_iff {role : Option KeyRole} {stated : Option Uniqueness} :
    a ∈ ofUniqueness stated role ↔
      (∃ name, a = unique (some name) ∧ stated = some (.named name) ∧ name ≠ "") ∨
      a = unique none ∧ (stated = some (.flag true) ∨
        (∀ name, stated = some (.named name) → name = "") ∧
          ∃ k, role = some k ∧ k.isUnique = true) := by
  rw [← Option.any_eq_true]
  match stated with
  | none => simp [ofUniqueness, List.mem_ite_nil_right, and_comm]
  | some (.flag true) => simp [ofUniqueness]
  | some (.flag false) => simp [ofUniqueness, List.mem_ite_nil_right, and_comm]
  | some (.named name) =>
    by_cases hname : name = ""
    · simp [ofUniqueness, hname, List.mem_ite_nil_right, and_comm]
    · simp [ofUniqueness, hname]

/-! ## The whole block -/

/-- **An attribute is in the block of a column just if it is due.** -/
theorem mem_ofColumn_iff : a ∈ ofColumn ctx t c ↔ a.IsDue ctx t c := by
  have hdefault : ∀ {d : Option DefaultValue},
      a ∈ (d.map defaultValue).toList ↔ ∃ x, a = defaultValue x ∧ d = some x := by
    intro d
    cases d <;> simp
  unfold ofColumn
  simp only [List.mem_append, mem_ofCounting_iff, mem_ofReference_iff, mem_ofComment_iff,
    mem_ofExtras_iff, mem_ofUniqueness_iff, hdefault, List.mem_ite_nil_right, Bool.and_eq_true,
    Table.all_isPrimary_iff, List.mem_cons, List.not_mem_nil, or_false]
  cases a with
  | unique constraint => cases constraint <;> simp [IsDue]
  | _ => simp [IsDue, counts, isSerial, and_comm, and_assoc]

end Attribute

namespace AttributeBlock

variable {ctx : Context} {t : Table} {c : Column} {b : AttributeBlock}

/-- The attributes in a block are those that are due. -/
theorem mem_attributes_iff (h : ofColumn? ctx t c = some b) {a : Attribute} :
    a ∈ b.attributes ↔ a.IsDue ctx t c := by
  obtain ⟨-, rfl⟩ := ofColumn?_eq_some_iff.mp h
  exact Attribute.mem_ofColumn_iff

end AttributeBlock
end SchemaModels
