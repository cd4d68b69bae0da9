import SchemaModels.Proofs.Model.ColumnViews
import SchemaModels.Proofs.Model.DefinitionParts

/-!
# The unions of a typed section

A typed section names properties a second time, in the union of the primary key and in the union of
what a new row may leave out. Both are made of all columns of the table, while other parts of the
module look at more than the flags of a column, and so they part in two ways:

* The interface leaves out the columns that the user asked to skip. A union still names them, and
  such a name dangles unless another column has the property, too
  (`TypedSection.names_undeclared_iff`).
* The block of a column is no part of the primary key if the key role of the column says otherwise.
  The union goes by the flag alone (`Table.keysAgree_iff`).
-/

namespace SchemaModels

open Naming

/-! ## The unions -/

/-- The two unions of a typed section. -/
inductive UnionKind where
  /-- The properties of the primary key. -/
  | key
  /-- The properties that a new row may leave out. -/
  | optional
  deriving DecidableEq

namespace UnionKind

/-- What stands between the name of the model and the literals of the union. -/
def opening : UnionKind → String
  | key => "Pk = "
  | optional => "OptionalAttributes = "

/-- The properties that the union names. -/
def properties (s : TypedSection) : UnionKind → List String
  | key => s.primaryKey
  | optional => s.optional

/-- Whether the union is to name the column. -/
def covers (s : Settings) (c : Column) : UnionKind → Bool
  | key => c.primaryKey
  | optional => TypedSection.isOptional s c

/-- The line of the union. -/
def line (s : TypedSection) (kind : UnionKind) : String :=
  "export type " ++ modelToken ++ kind.opening ++ TypedSection.literalUnion (kind.properties s)
    ++ ";"

end UnionKind

namespace TypedSection

/-- The section has the union among its lines, and the union names the property. -/
def Names (ctx : Context) (s : TypedSection) (kind : UnionKind) (property : String) : Prop :=
  kind.line s ∈ s.lines ctx ∧ property ∈ kind.properties s

/-- The interface has a line for a member with the property. -/
def Declares (ctx : Context) (s : TypedSection) (property : String) : Prop :=
  ∃ m ∈ s.members, m.property = property ∧ m.render ctx "" ∈ s.interfaceLines ctx

variable {ctx : Context} {t : Table} {mixins : Mixins} {s : TypedSection} {kind : UnionKind}
  {property : String}

/-- A union that has something to name is there. -/
theorem line_mem_lines (h : property ∈ kind.properties s) : kind.line s ∈ s.lines ctx := by
  have hline : kind.line s ∈ s.keyLines ∨ kind.line s ∈ s.creationLines := by
    have hne : ∀ {l : List String}, property ∈ l → ¬ l.isEmpty = true :=
      fun hmem hempty => List.ne_nil_of_mem hmem (List.isEmpty_iff.mp hempty)
    cases kind with
    | key =>
      have hkeys : ¬ s.primaryKey.isEmpty = true := hne h
      left
      rw [keyLines, if_neg hkeys]
      exact List.mem_cons_self
    | optional =>
      have hoptional : ¬ s.optional.isEmpty = true := hne h
      right
      simp only [creationLines, if_neg hoptional]
      exact List.mem_cons_self
  rcases hline with hkey | hcreation
  · simp [lines, hkey]
  · simp [lines, hcreation]

/-- The unions have the properties of the columns that they cover. -/
theorem properties_of (h : TypedSection.of ctx.settings t mixins = .ok s) :
    kind.properties s = (t.columns.filter (kind.covers ctx.settings)).map
      fun c => ctx.settings.propertyName c.name := by
  obtain ⟨imports, -, hs⟩ := bind_eq_ok.mp h
  cases hs
  cases kind <;> rfl

/-- The unions name the properties of the columns that they cover. -/
theorem names_iff (h : TypedSection.of ctx.settings t mixins = .ok s) :
    s.Names ctx kind property ↔ ∃ c ∈ t.columns, kind.covers ctx.settings c = true ∧
      ctx.settings.propertyName c.name = property := by
  have hproperties : property ∈ kind.properties s ↔ ∃ c ∈ t.columns,
      kind.covers ctx.settings c = true ∧ ctx.settings.propertyName c.name = property := by
    simp [properties_of h, and_assoc]
  rw [← hproperties]
  exact ⟨fun hnames => hnames.2, fun hmem => ⟨line_mem_lines hmem, hmem⟩⟩

/-- The interface declares the properties of the columns that are not skipped. -/
theorem declares_iff (h : TypedSection.of ctx.settings t mixins = .ok s) :
    s.Declares ctx property ↔ ∃ c ∈ t.declaredColumns ctx.settings,
      ctx.settings.propertyName c.name = property := by
  constructor
  · rintro ⟨m, hm, hproperty, -⟩
    rw [members_of h] at hm
    obtain ⟨c, hc, rfl⟩ := List.mem_map.mp hm
    exact ⟨c, hc, hproperty⟩
  · rintro ⟨c, hc, hproperty⟩
    have hm : Member.ofColumn ctx.settings c ∈ s.members := by
      rw [members_of h]
      exact List.mem_map_of_mem hc
    refine ⟨_, hm, hproperty, ?_⟩
    have hline := List.mem_map_of_mem (f := (·.render ctx "")) hm
    simp [interfaceLines, hline]

end TypedSection

/-- A property of a column that the union covers, while the user asked to skip every column with
this property. -/
structure Table.Dangles (s : Settings) (t : Table) (kind : UnionKind) (property : String) :
    Prop where
  covered : ∃ c ∈ t.columns, kind.covers s c = true ∧ s.propertyName c.name = property
  skipped : ∀ c ∈ t.columns, s.propertyName c.name = property → s.isSkipped c.name = true

namespace TypedSection

variable {ctx : Context} {t : Table} {mixins : Mixins} {s : TypedSection} {kind : UnionKind}
  {property : String}

/-- **The unions name what the interface declares**, except for the properties that dangle. -/
theorem names_undeclared_iff (h : TypedSection.of ctx.settings t mixins = .ok s) :
    s.Names ctx kind property ∧ ¬ s.Declares ctx property ↔
      t.Dangles ctx.settings kind property := by
  rw [names_iff h, declares_iff h]
  constructor
  · rintro ⟨hcovered, hundeclared⟩
    refine ⟨hcovered, fun c hc hproperty => ?_⟩
    apply Classical.byContradiction
    intro hskipped
    refine hundeclared ⟨c, Table.mem_declaredColumns.mpr ⟨hc, ?_⟩, hproperty⟩
    exact Bool.eq_false_iff.mpr hskipped
  · rintro ⟨hcovered, hskipped⟩
    refine ⟨hcovered, ?_⟩
    rintro ⟨c, hc, hproperty⟩
    obtain ⟨hc, hkept⟩ := Table.mem_declaredColumns.mp hc
    exact Bool.false_ne_true (hkept.symm.trans (hskipped c hc hproperty))

end TypedSection

/-- Typed modules without the columns of some names. -/
def typedWithout (skipped : List String) : Context :=
  ⟨{ language := .ts, skipFields := skipped }, .mysql⟩

/-- The lines of an order, which are numbered within the order. -/
def orderLines : Table := {
  name := { schema := none, name := "order_lines" }
  fields := [
    { name := "order_id", sqlType := "int", primaryKey := true },
    { name := "line_no", sqlType := "int", primaryKey := true },
    { name := "note", sqlType := "text", nullable := true },
    { name := "remark", sqlType := "text", nullable := true }] }

/-- Typed modules in which the lines of an order have neither their order nor a remark. -/
def withoutOrders : Context := typedWithout ["order_id", "remark"]

namespace TypedSection

theorem names_undeclared_iff_orderLines :
    ∃ s, TypedSection.of withoutOrders.settings orderLines default = .ok s ∧
      orderLines.Dangles withoutOrders.settings .optional "remark" ∧
      s.Names withoutOrders .optional "remark" ∧ ¬ s.Declares withoutOrders "remark" := by
  have hdangles : orderLines.Dangles withoutOrders.settings .optional "remark" := {
    covered := ⟨{ name := "remark", sqlType := "text", nullable := true },
      .tail _ (.tail _ (.tail _ (.head _))), by decide, by decide⟩
    skipped := by decide }
  obtain ⟨s, hs⟩ : ∃ s, TypedSection.of withoutOrders.settings orderLines default = .ok s :=
    ⟨_, rfl⟩
  exact ⟨s, hs, hdangles, (names_undeclared_iff hs).mpr hdangles⟩

/-- The key of an order is skipped, and the key of its lines names it nevertheless. -/
theorem orderLines_dangle :
    ¬ ∀ s, TypedSection.of withoutOrders.settings orderLines default = .ok s →
      ∀ kind property, s.Names withoutOrders kind property → s.Declares withoutOrders property := by
  intro h
  obtain ⟨s, hs⟩ : ∃ s, TypedSection.of withoutOrders.settings orderLines default = .ok s :=
    ⟨_, rfl⟩
  have hnames : s.Names withoutOrders .key "order_id" :=
    (names_iff hs).mpr ⟨{ name := "order_id", sqlType := "int", primaryKey := true },
      .head _, by decide, by decide⟩
  obtain ⟨c, hc, hproperty⟩ := (declares_iff hs).mp (h s hs .key "order_id" hnames)
  revert c
  decide

end TypedSection

/-! ## The primary key in the blocks -/

/-- The block declares the value under the key. -/
def AttributeBlock.Has (ctx : Context) (b : AttributeBlock) (key value : String) : Prop :=
  ∃ a ∈ b.attributes, a.key = key ∧ a.value ctx = value

/-- The key role of the column, if it has one, agrees that the column is a part of the primary
key. -/
def Table.OwnsKey (t : Table) (c : Column) : Prop :=
  ∀ k, t.keyRole? c.name = some k → k.isPrimary = true

theorem Table.all_isPrimary_iff {t : Table} {c : Column} :
    (t.keyRole? c.name).all (·.isPrimary) = true ↔ t.OwnsKey c := by
  unfold OwnsKey
  cases t.keyRole? c.name <;> simp

/-- A property of the column that is passed through makes it a part of the primary key. -/
def Column.PassesKey (c : Column) : Prop :=
  ∃ v, ("primaryKey", v) ∈ c.extras.entries ∧ Attribute.extraValue v = "true"

namespace Attribute

variable {ctx : Context} {t : Table} {c : Column}

theorem key_ne_of_mem_ofCounting {role : Option KeyRole} {counts : Bool} :
    ∀ a ∈ ofCounting ctx role counts, a.key ≠ "primaryKey" := by
  unfold ofCounting
  refine forall_mem_ite_nil ?_
  split <;> simp [key]

theorem key_ne_of_mem_ofReference {role : Option KeyRole} :
    ∀ a ∈ ofReference role, a.key ≠ "primaryKey" := by
  unfold ofReference
  split <;> simp [key]

theorem key_ne_of_mem_ofComment {text : Option String} :
    ∀ a ∈ ofComment ctx text, a.key ≠ "primaryKey" := by
  unfold ofComment
  repeat' split
  all_goals simp [key]

theorem key_ne_of_mem_ofUniqueness {stated : Option Uniqueness} {role : Option KeyRole} :
    ∀ a ∈ ofUniqueness stated role, a.key ≠ "primaryKey" := by
  unfold ofUniqueness
  repeat' split
  all_goals simp [key]

/-- The mark of the primary key is there if the column has the flag and its key role agrees. -/
theorem mem_ofFlag_iff {a : Attribute} :
    a ∈ (if c.primaryKey && (t.keyRole? c.name).all (·.isPrimary) then [primaryKey] else []) ↔
      a = primaryKey ∧ c.primaryKey = true ∧ t.OwnsKey c := by
  rw [← Table.all_isPrimary_iff, ← Bool.and_eq_true, List.mem_ite_nil_right, List.mem_singleton]
  exact and_comm

/-- Apart from the extras, one attribute has the key of the primary key. -/
theorem mem_ofColumn_and_key_iff {a : Attribute} :
    a ∈ ofColumn ctx t c ∧ a.key = "primaryKey" ↔
      (a = primaryKey ∧ c.primaryKey = true ∧ t.OwnsKey c) ∨
        a ∈ ofExtras c.extras ∧ a.key = "primaryKey" := by
  have hothers : ∀ {l : List Attribute}, (∀ x ∈ l, x.key ≠ "primaryKey") →
      (a ∈ l ∧ a.key = "primaryKey" ↔ False) :=
    fun h => iff_of_false (fun hboth => h a hboth.1 hboth.2) id
  have htype : ∀ x ∈ [type c.declaredType, allowNull c.nullable], x.key ≠ "primaryKey" := by
    simp [key]
  have hdefault : ∀ {d : Option DefaultValue}, ∀ x ∈ (d.map defaultValue).toList,
      x.key ≠ "primaryKey" :=
    forall_mem_toList_map fun _ _ => by simp [key]
  have hfield : ∀ {p : Prop} [Decidable p], ∀ x ∈ (if p then [field c.name] else []),
      x.key ≠ "primaryKey" :=
    forall_mem_ite_nil (by simp [key])
  have hkey : (a = primaryKey ∧ c.primaryKey = true ∧ t.OwnsKey c) ∧ a.key = "primaryKey" ↔
      a = primaryKey ∧ c.primaryKey = true ∧ t.OwnsKey c :=
    and_iff_left_of_imp fun h => h.1 ▸ rfl
  unfold ofColumn
  simp only [List.mem_append, or_and_right, hothers key_ne_of_mem_ofCounting,
    hothers key_ne_of_mem_ofReference, hothers key_ne_of_mem_ofComment,
    hothers key_ne_of_mem_ofUniqueness, hothers htype, hothers hdefault, hothers hfield,
    mem_ofFlag_iff, hkey, false_or, or_false]

/-- A null is not written as a truth value. -/
theorem isNull_eq_false_of_extraValue {v : Value} (h : extraValue v = "true") :
    v.isNull = false := by
  rw [Bool.eq_false_iff]
  intro hnull
  obtain rfl : v = .json .null := by
    unfold Value.isNull at hnull
    split at hnull
    · rfl
    · cases hnull
  exact absurd h (by decide)

/-- The extras mark the primary key just if a property that is passed through does. -/
theorem exists_mem_ofExtras_iff (ctx : Context) :
    (∃ a ∈ ofExtras c.extras, a.key = "primaryKey" ∧ a.value ctx = "true") ↔ c.PassesKey := by
  constructor
  · rintro ⟨a, ha, hkey, hvalue⟩
    obtain ⟨⟨k, v⟩, he, rfl⟩ := List.mem_map.mp ha
    cases hkey
    exact ⟨v, (List.mem_filter.mp he).1, hvalue⟩
  · rintro ⟨v, he, hvalue⟩
    refine ⟨extra "primaryKey" v, List.mem_map.mpr ⟨_, List.mem_filter.mpr ⟨he, ?_⟩, rfl⟩, rfl,
      hvalue⟩
    rw [isNull_eq_false_of_extraValue hvalue]
    rfl

end Attribute

/-- The columns for which the typed section and the block differ on the primary key. -/
inductive Table.DisputesKey (s : Settings) (t : Table) (c : Column) : Prop where
  /-- The key role disowns the column, which has the flag. -/
  | disowned (hflag : c.primaryKey = true) (hrole : ¬ t.OwnsKey c) (hpassed : ¬ c.PassesKey)
  /-- Another column with the same property has the flag. -/
  | namesake {other : Column} (hflag : c.primaryKey = false) (hpassed : ¬ c.PassesKey)
      (hother : other ∈ t.columns) (hproperty : s.propertyName other.name = s.propertyName c.name)
      (hkey : other.primaryKey = true)
  /-- No column with this property has the flag, but a property that is passed through marks it. -/
  | passed (hpassed : c.PassesKey) (hflags : ∀ other ∈ t.columns,
      s.propertyName other.name = s.propertyName c.name → other.primaryKey = false)

namespace Table

variable {ctx : Context} {t : Table} {mixins : Mixins} {s : TypedSection} {c : Column}
  {b : AttributeBlock}

/-- The block of a column marks the primary key by the flag and the role, or by an extra. -/
theorem has_primaryKey_iff (hb : AttributeBlock.ofColumn? ctx t c = some b) :
    b.Has ctx "primaryKey" "true" ↔ (c.primaryKey = true ∧ t.OwnsKey c) ∨ c.PassesKey := by
  obtain ⟨-, rfl⟩ := AttributeBlock.ofColumn?_eq_some_iff.mp hb
  rw [AttributeBlock.Has]
  constructor
  · rintro ⟨a, ha, hkey, hvalue⟩
    rcases Attribute.mem_ofColumn_and_key_iff.mp ⟨ha, hkey⟩ with ⟨-, hflag⟩ | ⟨hextra, -⟩
    · exact .inl hflag
    · exact .inr ((Attribute.exists_mem_ofExtras_iff ctx).mp ⟨a, hextra, hkey, hvalue⟩)
  · rintro (hflag | hpassed)
    · obtain ⟨ha, hkey⟩ := Attribute.mem_ofColumn_and_key_iff.mpr (.inl ⟨rfl, hflag⟩)
      exact ⟨_, ha, hkey, rfl⟩
    · obtain ⟨a, hextra, hkey, hvalue⟩ := (Attribute.exists_mem_ofExtras_iff ctx).mpr hpassed
      exact ⟨a, (Attribute.mem_ofColumn_and_key_iff.mpr (.inr ⟨hextra, hkey⟩)).1, hkey, hvalue⟩

/-- **The typed section and the block of a column agree on the primary key**, unless they dispute
it. -/
theorem keysAgree_iff (hs : TypedSection.of ctx.settings t mixins = .ok s) (hc : c ∈ t.columns)
    (hb : AttributeBlock.ofColumn? ctx t c = some b) :
    (s.Names ctx .key (ctx.settings.propertyName c.name) ↔ b.Has ctx "primaryKey" "true") ↔
      ¬ t.DisputesKey ctx.settings c := by
  rw [TypedSection.names_iff hs, has_primaryKey_iff hb]
  constructor
  · -- each cause gives one side without the other
    rintro hagree (⟨hflag, hrole, hpassed⟩ | ⟨hflag, hpassed, hother, hproperty, hkey⟩ |
      ⟨hpassed, hflags⟩)
    · rcases hagree.mp ⟨c, hc, hflag, rfl⟩ with ⟨-, h⟩ | h
      · exact hrole h
      · exact hpassed h
    · rcases hagree.mp ⟨_, hother, hkey, hproperty⟩ with ⟨h, -⟩ | h
      · cases hflag.symm.trans h
      · exact hpassed h
    · obtain ⟨other, hother, hkey, hproperty⟩ := hagree.mpr (.inr hpassed)
      cases hkey.symm.trans (hflags other hother hproperty)
  · intro hnone
    constructor
    · rintro ⟨other, hother, hkey, hproperty⟩
      apply Classical.byContradiction
      intro h
      obtain ⟨hblock, hpassed⟩ := not_or.mp h
      cases hflag : c.primaryKey with
      | true => exact hnone (.disowned hflag (fun hrole => hblock ⟨hflag, hrole⟩) hpassed)
      | false => exact hnone (.namesake hflag hpassed hother hproperty hkey)
    · rintro (⟨hflag, -⟩ | hpassed)
      · exact ⟨c, hc, hflag, rfl⟩
      · apply Classical.byContradiction
        intro h
        refine hnone (.passed hpassed fun other hother hproperty => ?_)
        exact Bool.eq_false_iff.mpr fun hkey => h ⟨other, hother, hkey, hproperty⟩

end Table

/-- A city, which is numbered within its country. -/
def cityNumber : Column := { name := "number", sqlType := "int", primaryKey := true }

/-- The country of a city. -/
def cityCountry : Column := { name := "country", sqlType := "char(2)", primaryKey := true }

/-- Cities, with their countries in another table. -/
def cities : Table := {
  name := { schema := none, name := "cities" }
  fields := [cityCountry, cityNumber]
  keys := .ofList [("country", .referringTo "countries" "code")] }

namespace Table

theorem keysAgree_iff_cities :
    ∃ s b, TypedSection.of (typedWithout []).settings cities default = .ok s ∧
      cityNumber ∈ cities.columns ∧
      AttributeBlock.ofColumn? (typedWithout []) cities cityNumber = some b ∧
      (s.Names (typedWithout []) .key "number" ↔
        b.Has (typedWithout []) "primaryKey" "true") := by
  obtain ⟨s, hs⟩ : ∃ s, TypedSection.of (typedWithout []).settings cities default = .ok s :=
    ⟨_, rfl⟩
  obtain ⟨b, hb⟩ : ∃ b, AttributeBlock.ofColumn? (typedWithout []) cities cityNumber = some b :=
    ⟨_, rfl⟩
  have hc : cityNumber ∈ cities.columns := .tail _ (.head _)
  refine ⟨s, b, hs, hc, hb, (keysAgree_iff hs hc hb).mpr ?_⟩
  rintro (⟨-, hrole, -⟩ | ⟨hflag, -⟩ | ⟨⟨v, hv, -⟩, -⟩)
  · refine hrole fun k hk => ?_
    cases hk
  · cases hflag
  · cases hv

/-- The typed section has the country in the primary key, its block has not. -/
theorem cities_dispute :
    ¬ ∀ s, TypedSection.of (typedWithout []).settings cities default = .ok s →
      ∀ c ∈ cities.columns, ∀ b, AttributeBlock.ofColumn? (typedWithout []) cities c = some b →
        (s.Names (typedWithout []) .key ((typedWithout []).settings.propertyName c.name) ↔
          b.Has (typedWithout []) "primaryKey" "true") := by
  intro h
  obtain ⟨s, hs⟩ : ∃ s, TypedSection.of (typedWithout []).settings cities default = .ok s :=
    ⟨_, rfl⟩
  obtain ⟨b, hb⟩ : ∃ b, AttributeBlock.ofColumn? (typedWithout []) cities cityCountry = some b :=
    ⟨_, rfl⟩
  have hc : cityCountry ∈ cities.columns := .head _
  have hnames : s.Names (typedWithout []) .key
      ((typedWithout []).settings.propertyName cityCountry.name) :=
    (TypedSection.names_iff hs).mpr ⟨cityCountry, hc, rfl, rfl⟩
  rcases (has_primaryKey_iff hb).mp ((h s hs cityCountry hc b hb).mp hnames) with
    ⟨-, howns⟩ | ⟨v, hv, -⟩
  · cases howns (.referringTo "countries" "code") rfl
  · cases hv

end Table
end SchemaModels
