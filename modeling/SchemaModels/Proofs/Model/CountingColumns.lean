import SchemaModels.Proofs.Model.DueAttributes

/-!
# Columns that count up

A block says `autoIncrement: true` for a column whose values the database supplies. The model should
then keep out of it: declare no default, and let a new row leave the column out. Three parts of the
generator decide about this, and each asks in its own way whether the column counts up:

* The mark goes by the flag, by the key role or by a default that takes the next value of a
  sequence.
* The default is dropped for the latter two only, so that with the flag alone it stays.
* A new row may leave the column out by the flag, or because there is a default. A key role alone
  does not count.

`Table.leavesToDatabase_iff` has just the columns for which the parts fit together.
-/

namespace SchemaModels

open Naming

/-- A property of the column that is passed through says true under the key. -/
def Column.PassesTrue (c : Column) (key : String) : Prop :=
  ∃ v, c.extras.get? key = some v ∧ Attribute.extraValue v = "true"

/-- A default is declared if there is one, unless it means none or the database takes it as the next
value of a sequence. -/
theorem DefaultValue.exists_ofReported_iff (reported : Option Value) (sqlType : String)
    (elementType : Option String) (d : Dialect) (isSerial : Bool) :
    (∃ x, ofReported reported sqlType elementType d isSerial = some x) ↔
      isSerial = false ∧ ∃ v, reported = some v ∧ meansNone d v = false := by
  cases reported with
  | none => simp [ofReported]
  | some v =>
    by_cases hnone : (meansNone d v || isSerial) = true
    · refine iff_of_false (by simp [ofReported, hnone]) ?_
      rintro ⟨hserial, w, hv, hmeans⟩
      cases hv
      rw [hserial, hmeans] at hnone
      cases hnone
    · obtain ⟨hmeans, hserial⟩ := Bool.or_eq_false_iff.mp (Bool.eq_false_iff.mpr hnone)
      refine iff_of_true ?_ ⟨hserial, v, rfl, hmeans⟩
      simp only [ofReported, if_neg hnone]
      cases v <;> exact ⟨_, rfl⟩

namespace AttributeBlock

variable {ctx : Context} {t : Table} {c : Column} {b : AttributeBlock}

/-- The block says that the column counts up if it does, or if an extra says so. -/
theorem has_autoIncrement_iff (hb : ofColumn? ctx t c = some b) :
    b.Has ctx "autoIncrement" "true" ↔
      Attribute.counts ctx t c = true ∨ c.PassesTrue "autoIncrement" := by
  constructor
  · rintro ⟨a, ha, hkey, hvalue⟩
    have hdue := (mem_attributes_iff hb).mp ha
    cases a with
    | autoIncrement => exact .inl hdue
    | extra key v =>
      cases hkey
      exact .inr ⟨v, OrderedMap.get?_eq_some_iff.mpr hdue.1, hvalue⟩
    | _ => exact absurd hkey (by simp [Attribute.key])
  · rintro (hcounts | ⟨v, hv, hvalue⟩)
    · exact ⟨.autoIncrement, (mem_attributes_iff hb).mpr hcounts, rfl, rfl⟩
    · have hextra : (Attribute.extra "autoIncrement" v).IsDue ctx t c :=
        ⟨OrderedMap.get?_eq_some_iff.mp hv, by decide,
          Attribute.isNull_eq_false_of_extraValue hvalue⟩
      exact ⟨_, (mem_attributes_iff hb).mpr hextra, rfl, hvalue⟩

/-- The block has a default if the column has one to declare, or if one is passed through. -/
theorem defaultValue_mem_attributeKeys_iff (hb : ofColumn? ctx t c = some b) :
    "defaultValue" ∈ b.attributeKeys ↔
      (Attribute.isSerial ctx t c = false ∧
        ∃ v, c.defaultValue = some v ∧ DefaultValue.meansNone ctx.dialect v = false) ∨
      c.Passes "defaultValue" := by
  rw [← DefaultValue.exists_ofReported_iff _ c.sqlType c.elementType]
  constructor
  · intro h
    obtain ⟨a, ha, hkey⟩ := List.mem_map.mp h
    have hdue := (mem_attributes_iff hb).mp ha
    cases a with
    | defaultValue d => exact .inl ⟨d, hdue⟩
    | extra key v =>
      cases hkey
      exact .inr ⟨v, OrderedMap.get?_eq_some_iff.mpr hdue.1, hdue.2.2⟩
    | _ => exact absurd hkey (by simp [Attribute.key])
  · rintro (⟨d, hd⟩ | ⟨v, hv, hnull⟩)
    · have hdefault : (Attribute.defaultValue d).IsDue ctx t c := hd
      exact List.mem_map.mpr ⟨_, (mem_attributes_iff hb).mpr hdefault, rfl⟩
    · have hextra : (Attribute.extra "defaultValue" v).IsDue ctx t c :=
        ⟨OrderedMap.get?_eq_some_iff.mp hv, by decide, hnull⟩
      exact List.mem_map.mpr ⟨_, (mem_attributes_iff hb).mpr hextra, rfl⟩

/-- The model leaves the value of the column to the database. -/
structure LeavesToDatabase (ctx : Context) (s : TypedSection) (b : AttributeBlock) : Prop where
  noDefault : "defaultValue" ∉ b.attributeKeys
  /-- A new row may leave the property out. -/
  optional : s.Names ctx .optional b.property

end AttributeBlock

/-- Why a model has a say in the value of a column although it counts up. -/
inductive Table.Interferes (ctx : Context) (t : Table) (c : Column) : Prop where
  /-- The mark comes without the database taking the values from a sequence, so that the default
  stays. -/
  | default {v : Value} (hmark : c.autoIncrement = true ∨ c.PassesTrue "autoIncrement")
      (hserial : Attribute.isSerial ctx t c = false) (hv : c.defaultValue = some v)
      (hmeans : DefaultValue.meansNone ctx.dialect v = false)
  /-- A default is passed through. -/
  | passed (hpassed : c.Passes "defaultValue")
  /-- The mark comes from the key role or from an extra alone, and a new row may not leave out any
  column with the property. -/
  | required (hmark : (∃ k, t.keyRole? c.name = some k ∧ k.isSerial = true) ∨
        c.PassesTrue "autoIncrement")
      (hrequired : ∀ other ∈ t.columns,
        ctx.settings.propertyName other.name = ctx.settings.propertyName c.name →
          TypedSection.isOptional ctx.settings other = false)

namespace Table

variable {ctx : Context} {t : Table} {mixins : Mixins} {s : TypedSection} {c : Column}
  {b : AttributeBlock}

/-- A column that counts up has the flag, or the database takes its values from a sequence. -/
theorem counts_eq_true_iff : Attribute.counts ctx t c = true ↔
    Attribute.isSerial ctx t c = true ∨ c.autoIncrement = true := by
  rw [Attribute.counts, Bool.or_eq_true, Attribute.isSerial]

/-- A column that a new row may not leave out is no sequence by its default. -/
theorem exists_keyRole_of_not_isOptional (hserial : Attribute.isSerial ctx t c = true)
    (hrequired : TypedSection.isOptional ctx.settings c = false) :
    ∃ k, t.keyRole? c.name = some k ∧ k.isSerial = true := by
  have hdefault : c.defaultValue = none := by
    simp only [TypedSection.isOptional, Bool.or_eq_false_iff] at hrequired
    simpa using hrequired.1.1.2
  have hdialect : ctx.dialect.isSerial c = false := by
    unfold Dialect.isSerial
    rw [hdefault]
    cases ctx.dialect <;> rfl
  rwa [Attribute.isSerial, hdialect, Bool.or_false, Option.any_eq_true] at hserial

/-- **The model leaves a column that counts up to the database**, unless it interferes. -/
theorem leavesToDatabase_iff (hs : TypedSection.of ctx.settings t mixins = .ok s)
    (hc : c ∈ t.columns) (hb : AttributeBlock.ofColumn? ctx t c = some b)
    (hcounts : b.Has ctx "autoIncrement" "true") :
    b.LeavesToDatabase ctx s ↔ ¬ t.Interferes ctx c := by
  have hmark := (AttributeBlock.has_autoIncrement_iff hb).mp hcounts
  have hproperty : b.property = ctx.settings.propertyName c.name := by
    rw [(AttributeBlock.ofColumn?_eq_some_iff.mp hb).2]
  constructor
  · rintro ⟨hnone, hoptional⟩ hinterferes
    rw [AttributeBlock.defaultValue_mem_attributeKeys_iff hb] at hnone
    cases hinterferes with
    | default _ hserial hv hmeans => exact hnone (.inl ⟨hserial, _, hv, hmeans⟩)
    | passed hpassed => exact hnone (.inr hpassed)
    | required _ hrequired =>
      rw [hproperty] at hoptional
      obtain ⟨other, hother, hcovers, hsame⟩ := (TypedSection.names_iff hs).mp hoptional
      cases (show true = false from hcovers.symm.trans (hrequired other hother hsame))
  · intro hnot
    constructor
    · rw [AttributeBlock.defaultValue_mem_attributeKeys_iff hb]
      rintro (⟨hserial, v, hv, hmeans⟩ | hpassed)
      · refine hnot (.default ?_ hserial hv hmeans)
        exact hmark.imp_left fun h => (counts_eq_true_iff.mp h).resolve_left (by simp [hserial])
      · exact hnot (.passed hpassed)
    · rw [hproperty, TypedSection.names_iff hs]
      apply Classical.byContradiction
      intro hnames
      have hrequired : ∀ other ∈ t.columns,
          ctx.settings.propertyName other.name = ctx.settings.propertyName c.name →
            TypedSection.isOptional ctx.settings other = false :=
        fun other hother hsame =>
          Bool.eq_false_iff.mpr fun hcovers => hnames ⟨other, hother, hcovers, hsame⟩
      have hself := hrequired c hc rfl
      refine hnot (.required (hmark.imp_left fun h => ?_) hrequired)
      rcases counts_eq_true_iff.mp h with hserial | hflag
      · exact exists_keyRole_of_not_isOptional hserial hself
      · simp [TypedSection.isOptional, hflag] at hself

end Table

/-- Typed modules for a database of postgres. -/
def typedPostgres : Context := ⟨{ language := .ts }, .postgres⟩

/-- The identity of an invoice, which only the key role shows to be generated. -/
def invoiceId : Column := { name := "id", sqlType := "integer", primaryKey := true }

/-- The number of an invoice, which counts up from a default. -/
def invoiceNumber : Column :=
  { name := "number", sqlType := "integer", defaultValue := some (.text "1000")
    autoIncrement := true }

/-- The place of an invoice in the books, which is taken from a sequence. -/
def invoiceEntry : Column :=
  { name := "entry", sqlType := "integer"
    defaultValue := some (.text "nextval('entry_seq'::regclass)") }

/-- Invoices, with three columns that count up. -/
def invoices : Table := {
  name := { schema := none, name := "invoices" }
  fields := [invoiceId, invoiceNumber, invoiceEntry]
  keys := .ofList [("id", { isPrimary := true, isSerial := true, generation := some .always })] }

namespace Table

theorem leavesToDatabase_iff_invoices :
    ∃ s b, TypedSection.of typedPostgres.settings invoices default = .ok s ∧
      invoiceEntry ∈ invoices.columns ∧
      AttributeBlock.ofColumn? typedPostgres invoices invoiceEntry = some b ∧
      b.Has typedPostgres "autoIncrement" "true" ∧ b.LeavesToDatabase typedPostgres s := by
  obtain ⟨s, hs⟩ : ∃ s, TypedSection.of typedPostgres.settings invoices default = .ok s :=
    ⟨_, rfl⟩
  obtain ⟨b, hb⟩ : ∃ b, AttributeBlock.ofColumn? typedPostgres invoices invoiceEntry = some b :=
    ⟨_, rfl⟩
  have hc : invoiceEntry ∈ invoices.columns := .tail _ (.tail _ (.head _))
  have hserial : Attribute.isSerial typedPostgres invoices invoiceEntry = true := by decide
  have hcounts : b.Has typedPostgres "autoIncrement" "true" :=
    (AttributeBlock.has_autoIncrement_iff hb).mpr (.inl (counts_eq_true_iff.mpr (.inl hserial)))
  refine ⟨s, b, hs, hc, hb, hcounts, (leavesToDatabase_iff hs hc hb hcounts).mpr ?_⟩
  rintro (⟨-, hnot, -, -⟩ | ⟨⟨v, hv, -⟩⟩ | ⟨-, hrequired⟩)
  · cases hserial.symm.trans hnot
  · cases hv
  · cases hrequired invoiceEntry hc rfl

/-- A new invoice has to come with its identity, and its number has a default. -/
theorem invoices_interfere :
    ∃ s, TypedSection.of typedPostgres.settings invoices default = .ok s ∧
      (∃ c ∈ invoices.columns, ∃ b, AttributeBlock.ofColumn? typedPostgres invoices c = some b ∧
        b.Has typedPostgres "autoIncrement" "true" ∧
          ¬ s.Names typedPostgres .optional b.property) ∧
      (∃ c ∈ invoices.columns, ∃ b, AttributeBlock.ofColumn? typedPostgres invoices c = some b ∧
        b.Has typedPostgres "autoIncrement" "true" ∧ "defaultValue" ∈ b.attributeKeys) := by
  obtain ⟨s, hs⟩ : ∃ s, TypedSection.of typedPostgres.settings invoices default = .ok s :=
    ⟨_, rfl⟩
  obtain ⟨b, hb⟩ : ∃ b, AttributeBlock.ofColumn? typedPostgres invoices invoiceId = some b :=
    ⟨_, rfl⟩
  obtain ⟨d, hd⟩ : ∃ d, AttributeBlock.ofColumn? typedPostgres invoices invoiceNumber = some d :=
    ⟨_, rfl⟩
  refine ⟨s, hs, ⟨invoiceId, .head _, b, hb, ?_, ?_⟩, ⟨invoiceNumber, .tail _ (.head _), d, hd,
    ?_, ?_⟩⟩
  · exact (AttributeBlock.has_autoIncrement_iff hb).mpr (.inl (by decide))
  · intro hnames
    rw [(AttributeBlock.ofColumn?_eq_some_iff.mp hb).2, TypedSection.names_iff hs] at hnames
    obtain ⟨c, hc, hcovers, hproperty⟩ := hnames
    revert c
    decide
  · exact (AttributeBlock.has_autoIncrement_iff hd).mpr (.inl (by decide))
  · exact (AttributeBlock.defaultValue_mem_attributeKeys_iff hd).mpr
      (.inl ⟨by decide, _, rfl, by decide⟩)

end Table
end SchemaModels
