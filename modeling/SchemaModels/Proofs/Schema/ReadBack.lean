import SchemaModels.Proofs.Json.ReadBack
import SchemaModels.Proofs.Naming.QualifiedNames
import SchemaModels.Proofs.Schema.Columns
import SchemaModels.Schema.Table

/-!
# Reading back a schema

Whatever is decoded as a part of a schema is read back. Keys, relations and flags are read back
whatever they are. The others have a normal form that decoding brings about:

* a value is one that some JSON value stands for, and a default is never null;
* the extras of a column have none of the keys of its own properties, so that they never take the
  place of one when the column is read again;
* the length of a part of an index fits its range;
* a qualified name is cut at its first dot and has at most one more part;
* the columns of a table have different names, and the key roles different columns.
-/

namespace SchemaModels

open Decoder

/-! ## Values -/

/-- A value is read back if it is the one that its JSON stands for. -/
theorem Value.ofJson_toJson_ofJson (v : Json) :
    Value.ofJson (Value.ofJson v).toJson = Value.ofJson v := by
  cases v with
  | int n =>
    by_cases h : isInt64 n = true
    · have hint : ofJson (.int n) = .int n := by rw [ofJson, if_pos h]
      rw [hint]
      exact hint
    · cases hx : Binary64.ofInt n with
      | some x =>
        have hfloat : ofJson (.int n) = .float x := by rw [ofJson, if_neg h, hx]
        rw [hfloat]
        rfl
      | none =>
        have hjson : ofJson (.int n) = .json (.int n) := by rw [ofJson, if_neg h, hx]
        rw [hjson]
        exact hjson
  | _ => rfl

/-- Only null stands for null. -/
theorem Value.toJson_ofJson_ne_null {v : Json} (h : v ≠ .null) :
    (Value.ofJson v).toJson ≠ .null := by
  cases v with
  | null => exact absurd rfl h
  | int n =>
    rw [ofJson]
    split
    · exact Json.noConfusion
    · split <;> exact Json.noConfusion
  | _ => exact Json.noConfusion

/-- The decoder of values, which never fails. -/
def Value.decode : Decoder Value := fun v => .ok (Value.ofJson v)

theorem Value.isStable : IsStable Value.decode Value.toJson := by
  intro v a h
  cases h
  exact congrArg Except.ok (Value.ofJson_toJson_ofJson v)

theorem Uniqueness.readsBack (u : Uniqueness) :
    ReadsBack Uniqueness.decode Uniqueness.toJson u := by
  cases u <;> rfl

/-! ## Columns -/

namespace Column

/-- The keys of the properties that a column has of its own. -/
def ownKeys : List String :=
  ["name", "type", "allowNull", "defaultValue", "primaryKey", "autoIncrement", "unique", "comment",
    "elementType", "special"]

/-- What all decoded columns have in common. -/
structure IsNormal (c : Column) : Prop where
  defaultValue : ∀ v, c.defaultValue = some v →
    v.toJson ≠ .null ∧ ReadsBack Value.decode Value.toJson v
  extraKeys : ∀ e ∈ c.extras.entries, e.1 ∉ ownKeys
  extraValues : ∀ e ∈ c.extras.entries, ReadsBack Value.decode Value.toJson e.2

/-- A key that is not one of the column's own is an extra. -/
theorem setMember_of_not_mem {key : String} (h : key ∉ ownKeys) (v : Json) (c : Column) :
    setMember key v c = .ok { c with extras := c.extras.insert key (Value.ofJson v) } := by
  unfold setMember
  split
  all_goals first
    | exact absurd (by decide) h
    | rfl

theorem isNormal_setMember (key : String) (v : Json) (a b : Column) (ha : a.IsNormal)
    (h : setMember key v a = .ok b) : b.IsNormal := by
  by_cases hkey : key ∈ ownKeys
  · unfold setMember at h
    split at h
    case h_4 =>
      obtain ⟨x, hx, hb⟩ := bind_eq_ok.mp h
      cases hb
      refine ⟨fun w hw => ?_, ha.extraKeys, ha.extraValues⟩
      obtain ⟨hne, hdecode⟩ := exists_of_optional hx hw
      cases hdecode
      exact ⟨Value.toJson_ofJson_ne_null hne, congrArg Except.ok (Value.ofJson_toJson_ofJson v)⟩
    case h_11 =>
      simp only [ownKeys, List.mem_cons, List.not_mem_nil, or_false] at hkey
      simp_all
    all_goals
      obtain ⟨x, _, hb⟩ := bind_eq_ok.mp h
      cases hb
      exact ⟨ha.defaultValue, ha.extraKeys, ha.extraValues⟩
  · rw [setMember_of_not_mem hkey] at h
    cases h
    refine ⟨ha.defaultValue, fun e he => ?_, fun e he => ?_⟩
    · rcases mem_putEntry he with rfl | he
      · exact hkey
      · exact ha.extraKeys e he
    · rcases mem_putEntry he with rfl | he
      · exact congrArg Except.ok (Value.ofJson_toJson_ofJson v)
      · exact ha.extraValues e he

/-- The extras are taken in one after the other. -/
theorem takes_extras : ∀ (es : List (String × Value)) (c : Column),
    (∀ e ∈ es, e.1 ∉ ownKeys) → (∀ e ∈ es, ReadsBack Value.decode Value.toJson e.2) →
    Takes setMember c (es.map fun e => (e.1, e.2.toJson))
      { c with extras := es.foldl (fun m e => m.insert e.1 e.2) c.extras } := by
  intro es
  induction es with
  | nil => intro c _ _; exact .nil
  | cons e es ih =>
    intro c hkeys hvalues
    have hvalue : Value.ofJson e.2.toJson = e.2 :=
      Except.ok.inj (hvalues e List.mem_cons_self)
    refine Takes.cons (setMember_of_not_mem (hkeys e List.mem_cons_self) e.2.toJson c) ?_
    rw [hvalue]
    exact ih _ (fun x hx => hkeys x (List.mem_cons_of_mem e hx))
      fun x hx => hvalues x (List.mem_cons_of_mem e hx)

/-- A normal column is read back. -/
theorem IsNormal.readsBack {c : Column} (h : c.IsNormal) :
    ReadsBack Column.decode Column.toJson c := by
  -- the column as it is before each group of members, from the last to the first
  let beforeExtras : Column := { c with extras := .empty }
  let beforeLabels : Column := { beforeExtras with labels := [] }
  let beforeElementType : Column := { beforeLabels with elementType := none }
  let beforeComment : Column := { beforeElementType with comment := none }
  let beforeUnique : Column := { beforeComment with unique := none }
  let beforeFlags : Column := { beforeUnique with primaryKey := false, autoIncrement := false }
  have hnamed : Takes setMember { name := "", sqlType := "" }
      [("name", .str c.name), ("type", .str c.sqlType), ("allowNull", .bool c.nullable)]
      { beforeFlags with defaultValue := none } :=
    .cons rfl (.cons rfl (.cons rfl .nil))
  have hdefault : Takes setMember { beforeFlags with defaultValue := none }
      (Json.optionalMember "defaultValue" (c.defaultValue.map Value.toJson)) beforeFlags := by
    refine Takes.optional (fun x => { beforeFlags with defaultValue := x }) fun v hv => ?_
    obtain ⟨hne, hback⟩ := h.defaultValue v hv
    exact bind_eq_ok.mpr ⟨some v, optional_of_readsBack hne hback, rfl⟩
  have hflags : Takes setMember beforeFlags
      [("primaryKey", .bool c.primaryKey), ("autoIncrement", .bool c.autoIncrement)] beforeUnique :=
    .cons rfl (.cons rfl .nil)
  have hunique : Takes setMember beforeUnique
      (Json.optionalMember "unique" (c.unique.map Uniqueness.toJson)) beforeComment :=
    Takes.optional (fun x => { beforeComment with unique := x }) fun u _ => by cases u <;> rfl
  have hcomment : Takes setMember beforeComment
      (Json.optionalMember "comment" (c.comment.map .str)) beforeElementType :=
    Takes.optional (fun x => { beforeElementType with comment := x }) fun _ _ => rfl
  have helementType : Takes setMember beforeElementType
      (Json.optionalMember "elementType" (c.elementType.map .str)) beforeLabels :=
    Takes.optional (fun x => { beforeLabels with elementType := x }) fun _ _ => rfl
  have hlabels : Takes setMember beforeLabels (Json.optionalMember "special"
      (if c.labels.isEmpty then none else some (.arr (c.labels.map .str)))) beforeExtras := by
    refine Takes.skippable (fun hempty => ?_) fun _ => ?_
    · show ({ beforeExtras with labels := [] } : Column) = { beforeExtras with labels := c.labels }
      rw [List.isEmpty_iff.mp hempty]
    · exact bind_eq_ok.mpr ⟨c.labels, list_map fun _ _ => rfl, rfl⟩
  have hextras : Takes setMember beforeExtras
      (c.extras.entries.map fun e => (e.1, e.2.toJson)) c := by
    have hall := takes_extras c.extras.entries beforeExtras h.extraKeys h.extraValues
    rwa [← OrderedMap.ofList, OrderedMap.ofList_entries] at hall
  have htexts := (((hnamed.append hdefault).append hflags).append hunique).append hcomment
  exact record_of_takes (by simp) (((htexts.append helementType).append hlabels).append hextras)

theorem isNormal_of_decode {v : Json} {c : Column} (h : Column.decode v = .ok c) : c.IsNormal := by
  have hstart : ({ name := "", sqlType := "" } : Column).IsNormal := {
    defaultValue := fun _ hw => by cases hw
    extraKeys := fun _ he => by cases he
    extraValues := fun _ he => by cases he }
  exact invariant_of_record hstart isNormal_setMember h

theorem isStable : IsStable Column.decode Column.toJson :=
  fun _ _ hc => (isNormal_of_decode hc).readsBack

end Column

/-! ## Keys and relations -/

theorem Generation.readsBack (g : Generation) :
    ReadsBack Generation.decode Generation.toJson g := by
  cases g <;> rfl

/-- Every key role is read back. -/
theorem KeyRole.readsBack (k : KeyRole) : ReadsBack KeyRole.decode KeyRole.toJson k := by
  -- the role as it is before each group of members, from the last to the first
  let beforeGeneration : KeyRole := { k with generation := none }
  let beforeFlags : KeyRole :=
    { beforeGeneration with
      isForeign := false, isPrimary := false, isUnique := false, isSerial := false }
  let beforeColumn : KeyRole := { beforeFlags with targetColumn := none }
  let beforeTable : KeyRole := { beforeColumn with targetTable := none }
  have hsource : Takes setMember {}
      [("sourceTable", .str k.sourceTable), ("sourceColumn", .str k.sourceColumn)]
      { beforeTable with targetSchema := none } :=
    .cons rfl (.cons rfl .nil)
  have hschema : Takes setMember { beforeTable with targetSchema := none }
      (Json.optionalMember "targetSchema" (k.targetSchema.map .str)) beforeTable :=
    Takes.optional (fun x => { beforeTable with targetSchema := x }) fun _ _ => rfl
  have htable : Takes setMember beforeTable
      (Json.optionalMember "targetTable" (k.targetTable.map .str)) beforeColumn :=
    Takes.optional (fun x => { beforeColumn with targetTable := x }) fun _ _ => rfl
  have hcolumn : Takes setMember beforeColumn
      (Json.optionalMember "targetColumn" (k.targetColumn.map .str)) beforeFlags :=
    Takes.optional (fun x => { beforeFlags with targetColumn := x }) fun _ _ => rfl
  have hflags : Takes setMember beforeFlags
      [("isForeignKey", .bool k.isForeign), ("isPrimaryKey", .bool k.isPrimary),
        ("isUnique", .bool k.isUnique), ("isSerialKey", .bool k.isSerial)] beforeGeneration :=
    .cons rfl (.cons rfl (.cons rfl (.cons rfl .nil)))
  have hgeneration : Takes setMember beforeGeneration
      (Json.optionalMember "generation" (k.generation.map Generation.toJson)) k :=
    Takes.optional (fun x => { k with generation := x }) fun g _ => by cases g <;> rfl
  exact record_of_takes (by simp) (((((hsource.append hschema).append htable).append hcolumn).append
    hflags).append hgeneration)

/-- Every relation is read back. -/
theorem Relation.readsBack (r : Relation) : ReadsBack Relation.decode Relation.toJson r := by
  have hall : Takes setMember {} [
      ("parentTable", .str r.parent.table), ("parentModel", .str r.parent.model),
      ("parentProp", .str r.parent.property), ("parentId", .str r.parent.key),
      ("childTable", .str r.child.table), ("childModel", .str r.child.model),
      ("childProp", .str r.child.property), ("childId", .str r.child.key),
      ("isOne", .bool r.isOne), ("isM2M", .bool r.isManyToMany)] r :=
    .cons rfl (.cons rfl (.cons rfl (.cons rfl (.cons rfl (.cons rfl (.cons rfl (.cons rfl
      (.cons rfl (.cons rfl .nil)))))))))
  exact record_of_takes (by simp [requiredMembers]) hall

/-! ## Indexes -/

/-- A part of an index whose length fits its range. -/
def IndexPart.IsNormal (p : IndexPart) : Prop := ∀ n, p.length = some n → n ≤ maxUInt32

theorem IndexPart.isNormal_setMember (key : String) (v : Json) (a b : IndexPart) (ha : a.IsNormal)
    (h : setMember key v a = .ok b) : b.IsNormal := by
  unfold setMember at h
  split at h
  case h_3 =>
    obtain ⟨x, hx, hb⟩ := bind_eq_ok.mp h
    cases hb
    intro n hn
    exact le_of_natUpTo (exists_of_optional hx hn).2
  case h_5 =>
    cases h
    exact ha
  all_goals
    obtain ⟨x, _, hb⟩ := bind_eq_ok.mp h
    cases hb
    exact ha

theorem IndexPart.IsNormal.readsBack {p : IndexPart} (h : p.IsNormal) :
    ReadsBack IndexPart.decode IndexPart.toJson p := by
  -- the part as it is before each of its members, from the last to the first
  let beforeOrder : IndexPart := { p with order := none }
  let beforeLength : IndexPart := { beforeOrder with length := none }
  have hcolumn : Takes setMember { column := "" } [("attribute", .str p.column)]
      { beforeLength with collate := none } :=
    .cons rfl .nil
  have hcollate : Takes setMember { beforeLength with collate := none }
      (Json.optionalMember "collate" (p.collate.map .str)) beforeLength :=
    Takes.optional (fun x => { beforeLength with collate := x }) fun _ _ => rfl
  have hlength : Takes setMember beforeLength (Json.optionalMember "length"
      (Option.map Json.int (do let n ← p.length; pure (n : Int)))) beforeOrder := by
    have hlift : Option.map Json.int (do let n ← p.length; pure (n : Int))
        = p.length.map fun n : Nat => Json.int n := by
      cases p.length <;> rfl
    rw [hlift]
    refine Takes.optional (fun x => { beforeOrder with length := x }) fun n hn => ?_
    refine bind_eq_ok.mpr ⟨some n, ?_, rfl⟩
    show (natUpTo maxUInt32 "u32" (.int n)).map some = .ok (some n)
    rw [natUpTo_of_le "u32" (h n hn)]
    rfl
  have horder : Takes setMember beforeOrder
      (Json.optionalMember "order" (p.order.map .str)) p :=
    Takes.optional (fun x => { p with order := x }) fun _ _ => rfl
  exact record_of_takes (by simp) (((hcolumn.append hcollate).append hlength).append horder)

theorem IndexPart.isStable : IsStable IndexPart.decode IndexPart.toJson := by
  intro v p hp
  have hstart : ({ column := "" } : IndexPart).IsNormal := fun _ hn => by cases hn
  exact (invariant_of_record hstart isNormal_setMember hp).readsBack

/-- An index whose parts are read back. -/
def Index.IsNormal (i : Index) : Prop :=
  ∀ p ∈ i.parts, ReadsBack IndexPart.decode IndexPart.toJson p

theorem Index.isNormal_setMember (key : String) (v : Json) (a b : Index) (ha : a.IsNormal)
    (h : setMember key v a = .ok b) : b.IsNormal := by
  unfold setMember at h
  split at h
  case h_4 =>
    obtain ⟨parts, hparts, hb⟩ := bind_eq_ok.mp h
    cases hb
    exact IndexPart.isStable.forall_of_list hparts
  case h_5 =>
    cases h
    exact ha
  all_goals
    obtain ⟨x, _, hb⟩ := bind_eq_ok.mp h
    cases hb
    exact ha

theorem Index.IsNormal.readsBack {i : Index} (h : i.IsNormal) :
    ReadsBack Index.decode Index.toJson i := by
  -- the index as it is before each group of members, from the last to the first
  let beforeParts : Index := { i with parts := [] }
  let beforeKind : Index := { beforeParts with kind := none }
  let beforeFlag : Index := { beforeKind with unique := false }
  have hname : Takes setMember {} (Json.optionalMember "name" (i.name.map .str)) beforeFlag :=
    Takes.optional (fun x => { beforeFlag with name := x }) fun _ _ => rfl
  have hunique : Takes setMember beforeFlag [("unique", .bool i.unique)] beforeKind :=
    .cons rfl .nil
  have hkind : Takes setMember beforeKind
      (Json.optionalMember "type" (i.kind.map .str)) beforeParts :=
    Takes.optional (fun x => { beforeParts with kind := x }) fun _ _ => rfl
  have hparts : Takes setMember beforeParts
      [("fields", .arr (i.parts.map IndexPart.toJson))] i :=
    .cons (bind_eq_ok.mpr ⟨i.parts, list_map h, rfl⟩) .nil
  exact record_of_takes (by simp) (((hname.append hunique).append hkind).append hparts)

theorem Index.isStable : IsStable Index.decode Index.toJson := by
  intro v i hi
  have hstart : ({} : Index).IsNormal := fun _ hp => by cases hp
  exact (invariant_of_record hstart isNormal_setMember hi).readsBack

/-! ## Tables -/

theorem TableName.isStable : IsStable TableName.decode TableName.toJson := by
  intro v t ht
  obtain ⟨q, hq, rfl⟩ : ∃ q, Decoder.text v = .ok q ∧ t = parse q := by
    unfold TableName.decode at ht
    cases hv : Decoder.text v with
    | error e => rw [hv] at ht; cases ht
    | ok q => rw [hv] at ht; cases ht; exact ⟨q, rfl, rfl⟩
  exact congrArg Except.ok (parse_qualified_parse q)

namespace Table

/-- What all decoded tables have in common. -/
structure IsNormal (t : Table) : Prop where
  name : ReadsBack TableName.decode TableName.toJson t.name
  fields : ∀ c ∈ t.fields, ReadsBack Column.decode Column.toJson c
  fieldNames : t.fields.Pairwise (·.name ≠ ·.name)
  indexes : ∀ i ∈ t.indexes, ReadsBack Index.decode Index.toJson i

theorem isNormal_setMember (key : String) (v : Json) (a b : Table) (ha : a.IsNormal)
    (h : setMember key v a = .ok b) : b.IsNormal := by
  unfold setMember at h
  split at h
  case h_1 =>
    obtain ⟨name, hname, hb⟩ := bind_eq_ok.mp h
    cases hb
    exact { ha with name := TableName.isStable v name hname }
  case h_2 =>
    obtain ⟨fields, hfields, hb⟩ := bind_eq_ok.mp h
    cases hb
    have hback := Column.isStable.forall_of_list hfields
    rw [foldl_keepUnseen]
    exact { ha with
      fields := fun c hc => hback c (mem_of_mem_firstOfEachName hc)
      fieldNames := pairwise_firstOfEachName fields }
  case h_4 =>
    obtain ⟨indexes, hindexes, hb⟩ := bind_eq_ok.mp h
    cases hb
    exact { ha with indexes := Index.isStable.forall_of_list hindexes }
  case h_6 =>
    cases h
    exact ha
  all_goals
    obtain ⟨x, _, hb⟩ := bind_eq_ok.mp h
    cases hb
    exact { ha with }

theorem IsNormal.readsBack {t : Table} (h : t.IsNormal) :
    ReadsBack Table.decode Table.toJson t := by
  -- the table as it is before each group of members, from the last to the first
  let beforeTrigger : Table := { t with hasTrigger := false }
  let beforeIndexes : Table := { beforeTrigger with indexes := [] }
  let beforeKeys : Table := { beforeIndexes with keys := .empty }
  have hnamed : Takes setMember { name := default }
      [("name", t.name.toJson), ("fields", .arr (t.fields.map Column.toJson))] beforeKeys := by
    refine .cons (bind_eq_ok.mpr ⟨t.name, h.name, rfl⟩)
      (.cons (bind_eq_ok.mpr ⟨t.fields, list_map h.fields, ?_⟩) .nil)
    rw [foldl_keepUnseen, firstOfEachName_of_pairwise h.fieldNames]
    rfl
  have hkeys : Takes setMember beforeKeys (Json.optionalMember "foreignKeys"
      (if t.keys.isEmpty then none
        else some (.obj (t.keys.entries.map fun e => (e.1, e.2.toJson))))) beforeIndexes := by
    refine Takes.skippable (fun hempty => ?_) fun _ => ?_
    · have hkeys : t.keys = .empty := OrderedMap.eq_of_entries_eq (List.isEmpty_iff.mp hempty)
      show ({ beforeIndexes with keys := .empty } : Table) = { beforeIndexes with keys := t.keys }
      rw [hkeys]
    · refine bind_eq_ok.mpr ⟨t.keys.entries, members_map fun e _ => e.2.readsBack, ?_⟩
      rw [OrderedMap.ofList_entries]
      rfl
  have hindexes : Takes setMember beforeIndexes (Json.optionalMember "indexes"
      (if t.indexes.isEmpty then none else some (.arr (t.indexes.map Index.toJson))))
      beforeTrigger := by
    refine Takes.skippable (fun hempty => ?_) fun _ => ?_
    · show ({ beforeTrigger with indexes := [] } : Table)
        = { beforeTrigger with indexes := t.indexes }
      rw [List.isEmpty_iff.mp hempty]
    · exact bind_eq_ok.mpr ⟨t.indexes, list_map h.indexes, rfl⟩
  have htrigger : Takes setMember beforeTrigger [("hasTrigger", .bool t.hasTrigger)] t :=
    .cons rfl .nil
  exact record_of_takes (by simp) (((hnamed.append hkeys).append hindexes).append htrigger)

theorem isNormal_of_decode {v : Json} {t : Table} (h : Table.decode v = .ok t) : t.IsNormal := by
  have hstart : ({ name := default } : Table).IsNormal := {
    name := rfl
    fields := fun _ hc => by cases hc
    fieldNames := .nil
    indexes := fun _ hi => by cases hi }
  exact invariant_of_record hstart isNormal_setMember h

theorem isStable : IsStable Table.decode Table.toJson :=
  fun _ _ ht => (isNormal_of_decode ht).readsBack

end Table

namespace Database

/-- What all decoded databases have in common. -/
def IsNormal (d : Database) : Prop :=
  ∀ t ∈ d.tables, ReadsBack Table.decode Table.toJson t

theorem isNormal_setMember (key : String) (v : Json) (a b : Database) (ha : a.IsNormal)
    (h : setMember key v a = .ok b) : b.IsNormal := by
  unfold setMember at h
  split at h
  case h_1 =>
    obtain ⟨tables, htables, hb⟩ := bind_eq_ok.mp h
    cases hb
    exact Table.isStable.forall_of_list htables
  case h_2 =>
    obtain ⟨relations, _, hb⟩ := bind_eq_ok.mp h
    cases hb
    exact ha
  case h_3 =>
    cases h
    exact ha

theorem IsNormal.readsBack {d : Database} (h : d.IsNormal) :
    ReadsBack Database.decode Database.toJson d := by
  have hall : Takes setMember {} [("tables", .arr (d.tables.map Table.toJson)),
      ("relations", .arr (d.relations.map Relation.toJson))] d :=
    .cons (bind_eq_ok.mpr ⟨d.tables, list_map h, rfl⟩)
      (.cons (bind_eq_ok.mpr ⟨d.relations, list_map fun r _ => r.readsBack, rfl⟩) .nil)
  exact record_of_takes (by simp) hall

theorem isNormal_of_decode {v : Json} {d : Database} (h : Database.decode v = .ok d) :
    d.IsNormal :=
  have hstart : ({} : Database).IsNormal := fun _ ht => by cases ht
  invariant_of_record hstart isNormal_setMember h

theorem isStable : IsStable Database.decode Database.toJson :=
  fun _ _ hd => (isNormal_of_decode hd).readsBack

end Database
end SchemaModels
