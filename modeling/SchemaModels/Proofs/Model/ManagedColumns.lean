import SchemaModels.Model.Definition
import SchemaModels.Proofs.Entries
import SchemaModels.Proofs.Model.DefinitionParts
import SchemaModels.Proofs.Text.Search

/-!
# Columns that the ORM looks after

A column without a block of its own must be looked after by the ORM, or it is lost to the model.
Two places decide about it from the same settings: which columns are left out, and which options
tell the ORM to look after them. They do not quite agree, and `Table.keepsColumn_iff` says exactly
where a column that the user did not ask to leave out is lost:

* the column for soft deletion is left out of a table without any timestamp column, although the
  ORM deletes softly only where it keeps timestamps;
* the column that has the standard name for a time is left out although an option of this name is
  false, which tells the ORM not to look after it.
-/

namespace SchemaModels

open Naming Text

/-! ## The roles of a column -/

namespace Settings

/-- Whether the column counts as the time of creation. -/
def isCreationTime (s : Settings) (column : String) : Bool :=
  s.options.timestamps? ≠ some false && isColumnFor s.options.createdAt? "createdAt" column

/-- Whether the column counts as the time of the last update. -/
def isUpdateTime (s : Settings) (column : String) : Bool :=
  s.options.timestamps? ≠ some false && isColumnFor s.options.updatedAt? "updatedAt" column

theorem isTimestamp_eq (s : Settings) (column : String) :
    s.isTimestamp column = (s.isCreationTime column || s.isUpdateTime column) := by
  rw [isTimestamp, isCreationTime, isUpdateTime, Bool.and_or_distrib_left]

theorem isManaged_eq_true {s : Settings} {column : String} :
    s.isManaged column = true ↔ s.isTimestamp column = true ∨ s.isSoftDelete column = true := by
  rw [isManaged, isTimestamp, isSoftDelete]
  cases s.options.timestamps? with
  | none => simp
  | some on => cases on <;> simp

theorem timestamps?_of_isManaged {s : Settings} {column : String} (h : s.isManaged column = true) :
    s.options.timestamps? ≠ some false :=
  of_decide_eq_true (Bool.and_eq_true_iff.mp h).1

theorem isSoftDelete_eq_true {s : Settings} {column : String} : s.isSoftDelete column = true ↔
    s.options.timestamps? ≠ some false ∧ s.options.paranoid? ≠ some false ∧
      isColumnFor s.options.deletedAt? "deletedAt" column = true := by
  rw [isSoftDelete, Bool.and_eq_true, Bool.and_eq_true, decide_eq_true_iff, decide_eq_true_iff,
    and_assoc]

/-- A role that is turned off by its option still goes by the standard name: an option that is
false chooses no column. -/
theorem isColumnFor_of_off {o : ModelOptions} {key standard column : String}
    (h : o.get? key = some (.bool false)) :
    isColumnFor ((o.get? key).bind OptionValue.asText?) standard column = true ↔
      camelCase column = standard := by
  rw [h]
  exact decide_eq_true_iff

/-- The time of creation or of the last update keeps its role although its option is false. -/
theorem isTime_of_off {s : Settings} {key standard column : String}
    (hon : s.options.timestamps? ≠ some false) (hoff : s.options.get? key = some (.bool false))
    (hname : camelCase column = standard) : (s.options.timestamps? ≠ some false &&
      isColumnFor ((s.options.get? key).bind OptionValue.asText?) standard column) = true := by
  rw [Bool.and_eq_true]
  exact ⟨decide_eq_true hon, (isColumnFor_of_off hoff).mpr hname⟩

end Settings

/-! ## What the options say -/

namespace TableOption

variable {ctx : Context} {t : Table}

theorem mem_ofShared {x : TableOption} {options : ModelOptions} {key : String}
    {value : OptionValue} : x ∈ ofShared options t key value ↔
      (key = "name" ∧ options.fixesNames = true ∧ x = fixedNames t.name.qualified) ∨
      (key ∉ ["timestamps", "paranoid", "name"] ∧ x = shared key value) := by
  unfold ofShared
  by_cases hdecided : key = "timestamps" ∨ key = "paranoid"
  · rcases hdecided with rfl | rfl <;> simp
  · rw [not_or] at hdecided
    by_cases hname : key = "name"
    · subst hname
      cases options.fixesNames <;> simp
    · simp [hdecided, hname]

theorem keepsTimestamps_eq_true {s : Settings} : keepsTimestamps s t = true ↔
    s.options.timestamps? = some true ∨ ∃ c ∈ t.columns, s.isTimestamp c.name = true := by
  rw [keepsTimestamps, Bool.or_eq_true, List.any_eq_true, decide_eq_true_iff]

/-- The options say one thing about timestamps: whether the ORM keeps them. -/
theorem timestamps_mem_ofTable {on : Bool} :
    timestamps on ∈ ofTable ctx t ↔ keepsTimestamps ctx.settings t = on := by
  have hmem : timestamps on ∈ ofTable ctx t ↔ on = keepsTimestamps ctx.settings t := by
    simp [ofTable, mem_ofShared]
  rw [hmem, eq_comm]

theorem paranoid_mem_ofTable : paranoid ∈ ofTable ctx t ↔ deletesSoftly ctx.settings t = true := by
  simp [ofTable, mem_ofShared]

/-- An option that all models share is passed on unless it has a meaning of its own. -/
theorem shared_mem_ofTable {key : String} {value : OptionValue} :
    shared key value ∈ ofTable ctx t ↔
      key ∉ ["timestamps", "paranoid", "name"] ∧ ctx.settings.options.get? key = some value := by
  rw [OrderedMap.get?_eq_some_iff]
  constructor
  · intro h
    obtain ⟨k, v, hentry, hkey, rfl, rfl⟩ : ∃ k v, (k, v) ∈ ctx.settings.options.entries ∧
        k ∉ ["timestamps", "paranoid", "name"] ∧ key = k ∧ value = v := by
      simpa [ofTable, mem_ofShared] using h
    exact ⟨hkey, hentry⟩
  · rintro ⟨hkey, hentry⟩
    have hshared : shared key value ∈ ofShared ctx.settings.options t key value :=
      mem_ofShared.mpr (.inr ⟨hkey, rfl⟩)
    unfold ofTable
    exact List.mem_append_left _ (List.mem_append_right _
      (List.mem_flatMap.mpr ⟨(key, value), hentry, hshared⟩))

end TableOption

/-! ## Columns that are kept and columns that are lost -/

namespace Definition

/-- The definition has a block for the column, and the block stands in its text. -/
def Shows (ctx : Context) (d : Definition) (column : String) : Prop :=
  ∃ b ∈ d.blocks, b.column = column ∧
    ∃ front back, d.render ctx = front ++ b.render ctx ++ back

/-- The blocks of a definition stand in its text. -/
theorem exists_render_eq_of_mem_blocks (ctx : Context) {d : Definition} {b : AttributeBlock}
    (h : b ∈ d.blocks) : ∃ front back, d.render ctx = front ++ b.render ctx ++ back := by
  obtain ⟨front, back, hjoined⟩ := exists_intercalate_eq ",\n" (List.mem_map_of_mem h)
  have hblocks : d.renderBlocks ctx
      = String.intercalate ",\n" (d.blocks.map (·.render ctx)) ++ "\n" := by
    rw [renderBlocks, if_neg]
    rw [List.isEmpty_iff]
    exact List.ne_nil_of_mem h
  rw [render, hblocks, hjoined]
  simp only [String.append_assoc]
  exact ⟨front, _, rfl⟩

/-- The options of a definition stand in its text. -/
theorem exists_render_eq_of_mem_options (ctx : Context) {d : Definition} {option : TableOption}
    (h : option ∈ d.options) : ∃ front back, d.render ctx = front ++ option.render ctx ++ back := by
  obtain ⟨front, back, hjoined⟩ := exists_intercalate_eq ",\n" (List.mem_map_of_mem h)
  rw [render, renderOptions, hjoined]
  refine ⟨d.renderBlocks ctx ++ ctx.indent 1 ++ "\x7d, \x7b\n" ++ front, back ++ "\n"
    ++ ctx.indent 1 ++ "\x7d", ?_⟩
  simp only [String.append_assoc]

/-- The definition has the option, and the option stands in its text. -/
def Emits (ctx : Context) (d : Definition) (option : TableOption) : Prop :=
  option ∈ d.options ∧ ∃ front back, d.render ctx = front ++ option.render ctx ++ back

/-- Whatever option a definition has is in its text. -/
theorem emits_iff {ctx : Context} {d : Definition} {option : TableOption} :
    d.Emits ctx option ↔ option ∈ d.options :=
  ⟨And.left, fun h => ⟨h, exists_render_eq_of_mem_options ctx h⟩⟩

/-- The options have the ORM look after the column, in every role for which it was left out. -/
structure Manages (ctx : Context) (d : Definition) (column : String) : Prop where
  managed : ctx.settings.isManaged column = true
  timestamps : d.Emits ctx (.timestamps true)
  creation : ctx.settings.isCreationTime column = true →
    .shared "createdAt" (.bool false) ∉ d.options
  update : ctx.settings.isUpdateTime column = true → .shared "updatedAt" (.bool false) ∉ d.options
  paranoid : ctx.settings.isSoftDelete column = true → d.Emits ctx .paranoid
  deletion : ctx.settings.isSoftDelete column = true →
    .shared "deletedAt" (.bool false) ∉ d.options

end Definition

/-- The ways in which a column gets lost, by the settings and the names of the columns alone. -/
inductive LosesColumn (s : Settings) (t : Table) (column : String) : Prop where
  /-- It is the time of a soft deletion, but nothing turns timestamps on. -/
  | untimed (hrole : s.isSoftDelete column = true) (hset : s.options.timestamps? ≠ some true)
      (hnone : ∀ c ∈ t.columns, s.isTimestamp c.name = false)
  /-- It has the standard name of a creation time, but the ORM is told not to keep one. -/
  | creation (hon : s.options.timestamps? ≠ some false)
      (hoff : s.options.get? "createdAt" = some (.bool false))
      (hname : camelCase column = "createdAt")
  | update (hon : s.options.timestamps? ≠ some false)
      (hoff : s.options.get? "updatedAt" = some (.bool false))
      (hname : camelCase column = "updatedAt")
  | deletion (hon : s.options.timestamps? ≠ some false) (hsoft : s.options.paranoid? ≠ some false)
      (hoff : s.options.get? "deletedAt" = some (.bool false))
      (hname : camelCase column = "deletedAt")

theorem LosesColumn.isManaged {s : Settings} {t : Table} {column : String}
    (h : LosesColumn s t column) : s.isManaged column = true := by
  apply Settings.isManaged_eq_true.mpr
  rcases h with ⟨hrole, -, -⟩ | ⟨hon, hoff, hname⟩ | ⟨hon, hoff, hname⟩ | ⟨hon, hsoft, hoff, hname⟩
  · exact .inr hrole
  · left
    rw [Settings.isTimestamp_eq, Bool.or_eq_true]
    exact .inl (Settings.isTime_of_off hon hoff hname)
  · left
    rw [Settings.isTimestamp_eq, Bool.or_eq_true]
    exact .inr (Settings.isTime_of_off hon hoff hname)
  · refine .inr (Settings.isSoftDelete_eq_true.mpr ⟨hon, hsoft, ?_⟩)
    exact (Settings.isColumnFor_of_off hoff).mpr hname

namespace Table

variable {ctx : Context} {t : Table} {c : Column}

/-- Whether a column gets a block depends on its name only. -/
theorem shows_definition (hc : c ∈ t.columns) :
    (t.definition ctx).Shows ctx c.name ↔ ctx.settings.isOmitted c.name = false := by
  constructor
  · rintro ⟨b, hb, hname, -⟩
    obtain ⟨d, -, hd⟩ := List.mem_filterMap.mp hb
    obtain ⟨hkept, rfl⟩ := AttributeBlock.ofColumn?_eq_some_iff.mp hd
    rwa [← hname]
  · intro hkept
    have hblock : ⟨c.name, ctx.settings.propertyName c.name, Attribute.ofColumn ctx t c⟩
        ∈ (t.definition ctx).blocks :=
      List.mem_filterMap.mpr ⟨c, hc, AttributeBlock.ofColumn?_eq_some_iff.mpr ⟨hkept, rfl⟩⟩
    exact ⟨_, hblock, rfl, Definition.exists_render_eq_of_mem_blocks ctx hblock⟩

/-- A lost column is not looked after: each way to lose it contradicts what the options say. -/
theorem not_losesColumn_of_manages (h : (t.definition ctx).Manages ctx c.name) :
    ¬ LosesColumn ctx.settings t c.name := by
  have hshared : ∀ {key}, key ∉ ["timestamps", "paranoid", "name"] →
      ctx.settings.options.get? key = some (.bool false) →
      .shared key (.bool false) ∈ (t.definition ctx).options :=
    fun hkey hoff => TableOption.shared_mem_ofTable.mpr ⟨hkey, hoff⟩
  rintro (⟨hrole, hset, hnone⟩ | ⟨hon, hoff, hname⟩ | ⟨hon, hoff, hname⟩ | ⟨hon, hsoft, hoff, hname⟩)
  · have hkeeps := TableOption.timestamps_mem_ofTable.mp (Definition.emits_iff.mp h.timestamps)
    rcases TableOption.keepsTimestamps_eq_true.mp hkeeps with hset' | ⟨d, hd, htime⟩
    · exact hset hset'
    · exact Bool.false_ne_true ((hnone d hd).symm.trans htime)
  · exact h.creation (Settings.isTime_of_off hon hoff hname) (hshared (by decide) hoff)
  · exact h.update (Settings.isTime_of_off hon hoff hname) (hshared (by decide) hoff)
  · refine h.deletion ?_ (hshared (by decide) hoff)
    exact Settings.isSoftDelete_eq_true.mpr
      ⟨hon, hsoft, (Settings.isColumnFor_of_off hoff).mpr hname⟩

/-- A managed column turns timestamps on unless it is lost for want of a timestamp. -/
theorem keepsTimestamps_of_not_losesColumn {s : Settings} (hc : c ∈ t.columns)
    (hmanaged : s.isManaged c.name = true) (h : ¬ LosesColumn s t c.name) :
    TableOption.keepsTimestamps s t = true := by
  apply TableOption.keepsTimestamps_eq_true.mpr
  -- only a column whose one role is that of a soft deletion leaves doubts
  rcases Settings.isManaged_eq_true.mp hmanaged with htime | hsoft
  · exact .inr ⟨c, hc, htime⟩
  · by_cases hset : s.options.timestamps? = some true
    · exact .inl hset
    · apply Classical.byContradiction
      intro hnone
      rw [not_or] at hnone
      refine h (.untimed hsoft hset fun d hd => ?_)
      exact Bool.eq_false_iff.mpr fun htime => hnone.2 ⟨d, hd, htime⟩

/-- A managed column that is not lost is looked after in each of its roles. -/
theorem manages_of_not_losesColumn (hc : c ∈ t.columns)
    (hmanaged : ctx.settings.isManaged c.name = true) (h : ¬ LosesColumn ctx.settings t c.name) :
    (t.definition ctx).Manages ctx c.name := by
  have hon := Settings.timestamps?_of_isManaged hmanaged
  have hoff : ∀ {key}, .shared key (.bool false) ∈ (t.definition ctx).options →
      ctx.settings.options.get? key = some (.bool false) :=
    fun hmem => (TableOption.shared_mem_ofTable.mp hmem).2
  refine ⟨hmanaged, ?_, ?_, ?_, ?_, ?_⟩
  · exact Definition.emits_iff.mpr (TableOption.timestamps_mem_ofTable.mpr
      (keepsTimestamps_of_not_losesColumn hc hmanaged h))
  · intro hrole hmem
    have hname := (Bool.and_eq_true_iff.mp hrole).2
    exact h (.creation hon (hoff hmem) ((Settings.isColumnFor_of_off (hoff hmem)).mp hname))
  · intro hrole hmem
    have hname := (Bool.and_eq_true_iff.mp hrole).2
    exact h (.update hon (hoff hmem) ((Settings.isColumnFor_of_off (hoff hmem)).mp hname))
  · intro hrole
    refine Definition.emits_iff.mpr (TableOption.paranoid_mem_ofTable.mpr ?_)
    rw [TableOption.deletesSoftly, Bool.or_eq_true, List.any_eq_true]
    exact .inr ⟨c, hc, hrole⟩
  · intro hrole hmem
    obtain ⟨-, hsoft, hname⟩ := Settings.isSoftDelete_eq_true.mp hrole
    exact h (.deletion hon hsoft (hoff hmem)
      ((Settings.isColumnFor_of_off (hoff hmem)).mp hname))

/-- **A column that the user did not ask to leave out** has a block or is looked after by the ORM,
except in the ways listed, and in those it has neither. -/
theorem keepsColumn_iff (hc : c ∈ t.columns) (hskip : ctx.settings.isSkipped c.name = false) :
    (t.definition ctx).Shows ctx c.name ∨ (t.definition ctx).Manages ctx c.name ↔
      ¬ LosesColumn ctx.settings t c.name := by
  have hshows : (t.definition ctx).Shows ctx c.name ↔ _ := shows_definition hc
  rw [Settings.isOmitted, hskip, Bool.or_false] at hshows
  -- without being asked for, only a managed column is left out
  by_cases hmanaged : ctx.settings.isManaged c.name = true
  · rw [hshows, or_iff_right (by rw [hmanaged]; exact nofun)]
    exact ⟨not_losesColumn_of_manages, manages_of_not_losesColumn hc hmanaged⟩
  · constructor
    · intro _ hlost
      exact hmanaged hlost.isManaged
    · intro _
      exact .inl (hshows.mpr (Bool.eq_false_iff.mpr hmanaged))

/-- A table whose rows are marked as deleted, with and without the time of creation. -/
def drafts (creation : Bool) : Table := {
  name := { schema := none, name := "drafts" }
  fields := [
    { name := "id", sqlType := "int" }, { name := "deleted_at", sqlType := "timestamp" }]
    ++ if creation then [{ name := "created_at", sqlType := "timestamp" }] else [] }

theorem keepsColumn_iff_drafts :
    ((drafts true).definition ⟨{}, .mysql⟩).Shows ⟨{}, .mysql⟩ "deleted_at" ∨
      ((drafts true).definition ⟨{}, .mysql⟩).Manages ⟨{}, .mysql⟩ "deleted_at" := by
  have hmem : ({ name := "deleted_at", sqlType := "timestamp" } : Column)
      ∈ (drafts true).columns := .tail _ (.head _)
  refine Iff.mpr (keepsColumn_iff hmem (by decide)) ?_
  rintro (⟨-, -, hnone⟩ | ⟨-, hoff, -⟩ | ⟨-, hoff, -⟩ | ⟨-, -, hoff, -⟩)
  · have htime := hnone { name := "created_at", sqlType := "timestamp" }
      (.tail _ (.tail _ (.head _)))
    revert htime
    decide
  · cases hoff
  · cases hoff
  · cases hoff

/-- Without the time of creation nothing keeps timestamps, and the mark of deletion is lost. -/
theorem drafts_lose_column : ∃ c ∈ (drafts false).columns,
    Settings.isSkipped {} c.name = false ∧
      ¬ (((drafts false).definition ⟨{}, .mysql⟩).Shows ⟨{}, .mysql⟩ c.name ∨
        ((drafts false).definition ⟨{}, .mysql⟩).Manages ⟨{}, .mysql⟩ c.name) := by
  have hmem : ({ name := "deleted_at", sqlType := "timestamp" } : Column)
      ∈ (drafts false).columns := .tail _ (.head _)
  refine ⟨_, hmem, by decide, ?_⟩
  rintro (hshows | hmanages)
  · have hkept := (shows_definition hmem).mp hshows
    revert hkept
    decide
  · have hkeeps := TableOption.timestamps_mem_ofTable.mp
      (Definition.emits_iff.mp hmanages.timestamps)
    revert hkeeps
    decide

end Table
end SchemaModels
