import SchemaModels.Proofs.Json.ReadBack
import SchemaModels.Proofs.Schema.ReadBack
import SchemaModels.Settings.Basic

/-!
# Reading back settings

Whatever is decoded as settings is read back, and so is every other format of the library
(`isStable_formats`). Languages and styles are read back whatever they are: they are written by a
name that is one of the accepted ones. What is normal about decoded settings is that their numbers
fit: the indentation is one that a machine word can hold, and so are the integers among the model
options.
-/

namespace SchemaModels

open Decoder Naming

theorem Language.readsBack (l : Language) : ReadsBack Language.decode Language.toJson l := by
  cases l <;> rfl

theorem Naming.NameStyle.readsBack (s : NameStyle) :
    ReadsBack NameStyle.decode NameStyle.toJson s := by
  cases s <;> rfl

theorem OptionValue.isStable : IsStable OptionValue.decode OptionValue.toJson := by
  intro v a h
  unfold OptionValue.decode at h
  split at h
  · cases h; rfl
  · next n =>
    split at h
    · next hn =>
      cases h
      show (if isInt64 n then Except.ok (int n) else _) = Except.ok (int n)
      rw [if_pos hn]
    · cases h
  · cases h; rfl
  · cases h

/-- Options with values that are read back. -/
def ModelOptions.IsNormal (o : ModelOptions) : Prop :=
  ∀ e ∈ o.entries, ReadsBack OptionValue.decode OptionValue.toJson e.2

theorem ModelOptions.isNormal_of_decode {v : Json} {o : ModelOptions}
    (h : ModelOptions.decode v = .ok o) : o.IsNormal := by
  unfold ModelOptions.decode at h
  cases hes : members OptionValue.decode v with
  | error e => rw [hes] at h; cases h
  | ok es =>
    rw [hes] at h
    cases h
    exact fun e he => OptionValue.isStable.forall_of_members hes e (OrderedMap.mem_of_mem_ofList he)

theorem ModelOptions.IsNormal.readsBack {o : ModelOptions} (h : o.IsNormal) :
    ReadsBack ModelOptions.decode ModelOptions.toJson o := by
  show (members OptionValue.decode (.obj (o.entries.map fun e => (e.1, e.2.toJson)))).map
    OrderedMap.ofList = .ok o
  rw [members_map h]
  exact congrArg Except.ok (OrderedMap.ofList_entries o)

theorem ModelOptions.isStable : IsStable ModelOptions.decode ModelOptions.toJson :=
  fun _ _ h => (isNormal_of_decode h).readsBack

namespace Settings

/-- What all decoded settings have in common. -/
structure IsNormal (s : Settings) : Prop where
  indentation : s.indentation ≤ maxUInt64
  options : s.options.IsNormal

theorem isNormal_setMember (key : String) (v : Json) (a b : Settings) (ha : a.IsNormal)
    (h : setMember key v a = .ok b) : b.IsNormal := by
  unfold setMember at h
  split at h
  case h_4 =>
    obtain ⟨n, hn, hb⟩ := bind_eq_ok.mp h
    cases hb
    exact { ha with indentation := le_of_natUpTo hn }
  case h_10 =>
    obtain ⟨o, ho, hb⟩ := bind_eq_ok.mp h
    cases hb
    exact { ha with options := ModelOptions.isNormal_of_decode ho }
  case h_12 =>
    cases h
    exact ha
  all_goals
    obtain ⟨x, _, hb⟩ := bind_eq_ok.mp h
    cases hb
    exact { ha with }

theorem IsNormal.readsBack {s : Settings} (h : s.IsNormal) :
    ReadsBack Settings.decode Settings.toJson s := by
  have hall : Takes setMember {} [
      ("lang", s.language.toJson),
      ("useDefine", .bool s.useDefine),
      ("spaces", .bool s.spaces),
      ("indentation", .int s.indentation),
      ("caseModel", s.modelStyle.toJson),
      ("caseProp", s.propertyStyle.toJson),
      ("caseFile", s.fileStyle.toJson),
      ("singularize", .bool s.singularize),
      ("skipFields", .arr (s.skipFields.map .str)),
      ("additional", s.options.toJson),
      ("noIndexes", .bool s.noIndexes)] s :=
    .cons (bind_eq_ok.mpr ⟨s.language, s.language.readsBack, rfl⟩) <|
    .cons rfl <|
    .cons rfl <|
    .cons (bind_eq_ok.mpr ⟨s.indentation, natUpTo_of_le "usize" h.indentation, rfl⟩) <|
    .cons (bind_eq_ok.mpr ⟨s.modelStyle, s.modelStyle.readsBack, rfl⟩) <|
    .cons (bind_eq_ok.mpr ⟨s.propertyStyle, s.propertyStyle.readsBack, rfl⟩) <|
    .cons (bind_eq_ok.mpr ⟨s.fileStyle, s.fileStyle.readsBack, rfl⟩) <|
    .cons rfl <|
    .cons (bind_eq_ok.mpr ⟨s.skipFields, list_map fun _ _ => rfl, rfl⟩) <|
    .cons (bind_eq_ok.mpr ⟨s.options, h.options.readsBack, rfl⟩) <|
    .cons rfl .nil
  exact record_of_takes (by simp) hall

theorem isStable : IsStable Settings.decode Settings.toJson := by
  intro v s hs
  have hstart : ({} : Settings).IsNormal :=
    ⟨by decide, fun _ he => by cases he⟩
  exact (invariant_of_record hstart isNormal_setMember hs).readsBack

end Settings

/-- **Every format is stable.** Whatever decodes as a part of a schema or of settings is written as
a JSON value that decodes to the same again. -/
theorem isStable_formats :
    IsStable Database.decode Database.toJson ∧
    IsStable Table.decode Table.toJson ∧
    IsStable Column.decode Column.toJson ∧
    IsStable KeyRole.decode KeyRole.toJson ∧
    IsStable Index.decode Index.toJson ∧
    IsStable Relation.decode Relation.toJson ∧
    IsStable TableName.decode TableName.toJson ∧
    IsStable Value.decode Value.toJson ∧
    IsStable Uniqueness.decode Uniqueness.toJson ∧
    IsStable Settings.decode Settings.toJson ∧
    IsStable ModelOptions.decode ModelOptions.toJson ∧
    IsStable Language.decode Language.toJson ∧
    IsStable NameStyle.decode NameStyle.toJson :=
  ⟨Database.isStable, Table.isStable, Column.isStable, .of_forall KeyRole.readsBack, Index.isStable,
    .of_forall Relation.readsBack, TableName.isStable, Value.isStable,
    .of_forall Uniqueness.readsBack, Settings.isStable, ModelOptions.isStable,
    .of_forall Language.readsBack, .of_forall NameStyle.readsBack⟩

/-- A database with a column that is given twice, a null default, and extras that stay. -/
def accounts : Json :=
  .obj [("tables", .arr [.obj [
    ("name", .str "app.accounts.old"),
    ("fields", .arr [
      .obj [("name", .str "id"), ("type", .str "int"), ("defaultValue", .null), ("hint", .null),
        ("size", .int 8)],
      .obj [("name", .str "id"), ("type", .str "text")]]),
    ("foreignKeys", .obj [("id", .obj [("isPrimaryKey", .bool true)])])]])]

theorem isStable_formats_accounts :
    ∃ d, Database.decode accounts = .ok d ∧ Database.decode d.toJson = .ok d :=
  ⟨_, rfl, isStable_formats.1 accounts _ rfl⟩

end SchemaModels
