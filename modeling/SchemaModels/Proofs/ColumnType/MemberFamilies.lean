import SchemaModels.ColumnType.DataType
import SchemaModels.ColumnType.MemberType

/-!
# Families of types

A column type is read twice. An ordered list of rules gives the data type of the model, and a chain
of families, each with its own words, gives the type of the member. A data type of a family that
members have, too, should go with a member of this family. `ColumnType.names_memberType_iff` says
exactly when it does; the types on which the readings part are those of `ColumnType.Misread`.

The order of the rules plays no part in this. Whichever rule gives a data type, its test leaves a
mark on the type (`MemberFamily.Marks`): a type for a number, say, begins with a word for numbers.
The chain finds the family by the mark, since words of two families never begin one text
(`beginsWithAny_eq_false`), save those for times and texts. Only the rules for texts look inside a
type and leave no mark.
-/

namespace SchemaModels

open Text TypeFamily

/-! ## Words at the front -/

/-- A text begins with none of some words if it begins with one that is apart from them. -/
theorem beginsWith_eq_false {ws : List String} {v : String}
    (hapart : ∀ w ∈ ws, beginsWith w v = false ∧ beginsWith v w = false) {s : String}
    (h : beginsWithAny ws s = true) : beginsWith v s = false := by
  obtain ⟨w, hw, hws⟩ := List.any_eq_true.mp h
  obtain ⟨hwv, hvw⟩ := hapart w hw
  rw [Bool.eq_false_iff]
  intro hvs
  rcases List.prefix_or_prefix_of_prefix (List.isPrefixOf_iff_prefix.mp hws)
    (List.isPrefixOf_iff_prefix.mp hvs) with hpre | hpre
  · exact Bool.false_ne_true (hwv.symm.trans (List.isPrefixOf_iff_prefix.mpr hpre))
  · exact Bool.false_ne_true (hvw.symm.trans (List.isPrefixOf_iff_prefix.mpr hpre))

/-- A text does not begin with words of two lists if none of them begins another. -/
theorem beginsWithAny_eq_false {ws vs : List String}
    (hapart : ∀ v ∈ vs, ∀ w ∈ ws, beginsWith w v = false ∧ beginsWith v w = false) {s : String}
    (h : beginsWithAny ws s = true) : beginsWithAny vs s = false := by
  rw [beginsWithAny, List.any_eq_false]
  intro v hv
  rw [beginsWith_eq_false (hapart v hv) h]
  exact Bool.false_ne_true

/-- A text that begins with a word begins with whatever the word begins with. -/
theorem beginsWith_trans {v w s : String} (hv : beginsWith v w = true)
    (h : beginsWith w s = true) : beginsWith v s = true :=
  List.isPrefixOf_iff_prefix.mpr
    ((List.isPrefixOf_iff_prefix.mp hv).trans (List.isPrefixOf_iff_prefix.mp h))

theorem beginsWithAny_of_beginsWith {vs : List String} {w s : String}
    (hw : beginsWithAny vs w = true) (h : beginsWith w s = true) : beginsWithAny vs s = true := by
  obtain ⟨v, hv, hvw⟩ := List.any_eq_true.mp hw
  exact List.any_eq_true.mpr ⟨v, hv, beginsWith_trans hvw h⟩

theorem beginsWithAny_trans {vs ws : List String} {s : String}
    (hws : ∀ w ∈ ws, beginsWithAny vs w = true) (h : beginsWithAny ws s = true) :
    beginsWithAny vs s = true := by
  obtain ⟨w, hw, hs⟩ := List.any_eq_true.mp h
  exact beginsWithAny_of_beginsWith (hws w hw) hs

/-! ## Families -/

/-- The families that data types and member types have in common. -/
inductive MemberFamily where
  | truth
  | number
  | text
  | time
  | object
  | list
  deriving DecidableEq

/-- The family of a data type, none if members have no type for it. -/
def DataType.family? : DataType → Option MemberFamily
  | boolean => some .truth
  | integer _ _ _ | float _ | double _ | real | decimal _ => some .number
  | string _ | char _ | text _ | dateOnly | time | uuid | inet | cidr | macaddr => some .text
  | date _ => some .time
  | json | jsonb => some .object
  | range _ | array _ => some .list
  | blob | hstore | geometry _ | geography _ | enum _ => none

namespace MemberFamily

/-- The type expression is one for members of the family. -/
def Names : MemberFamily → String → Prop
  | truth, e => e = "boolean"
  | number, e => e = "number"
  | text, e => e = "string"
  | time, e => e = "Date"
  | object, e => e = "object"
  | list, e => endsWith "[]" e = true

instance : (f : MemberFamily) → (e : String) → Decidable (f.Names e)
  | truth, e => inferInstanceAs (Decidable (e = "boolean"))
  | number, e => inferInstanceAs (Decidable (e = "number"))
  | text, e => inferInstanceAs (Decidable (e = "string"))
  | time, e => inferInstanceAs (Decidable (e = "Date"))
  | object, e => inferInstanceAs (Decidable (e = "object"))
  | list, e => inferInstanceAs (Decidable (endsWith "[]" e = true))

/-- What a type in lower case is known to be if a rule gives it a data type of the family. -/
def Marks (lowered : String) : MemberFamily → Prop
  | truth => lowered ∈ ["boolean", "bit(1)", "bit", "tinyint(1)"]
  | number => isNumber lowered = true
  | text => True
  | time => isEnum lowered = false
  | object => isJson lowered = true
  | list => isArray lowered = true

end MemberFamily

/-- The column types that get a data type of the family but a member that is not of the family. -/
inductive ColumnType.Misread (t : ColumnType) : MemberFamily → Prop where
  /-- The integer that stands for a truth value is a number to the member. -/
  | integer (h : t.lowered = "tinyint(1)") : Misread t .truth
  /-- The end or the beginning of the type makes the member a list. -/
  | list {f : MemberFamily} (hf : f ≠ .list) (h : isArray t.lowered = true) : Misread t f
  /-- No word for texts begins the type, nor is it the enum of the one label `string`. -/
  | noText (h : isString t.lowered = false)
      (henum : ¬ (isEnum t.lowered = true ∧ t.enumLiterals = ["string"])) : Misread t .text
  /-- The type of a text begins with a word for times. -/
  | notText (h : isDate t.lowered = true) : Misread t .text
  /-- No word for times begins the type: it is one of a day or of a year. -/
  | noTime (h : isDate t.lowered = false) : Misread t .time

/-! ## What the rules know -/

namespace TypeRule

/-- Where the rule gives a data type of a family, the type has the mark of the family. -/
def LeavesMark (rule : TypeRule) : Prop :=
  ∀ t : ColumnType, rule.applies t.lowered = true → ∀ element d,
    rule.dataType ⟨t, t.lowered, element⟩ = some d → ∀ f ∈ d.family?, f.Marks t.lowered

variable {applies : String → Bool} {f : MemberFamily}

theorem leavesMark_always {d : DataType} (hd : d.family? = some f)
    (h : ∀ s, applies s = true → f.Marks s) : (always applies d).LeavesMark := by
  intro t happlies element d' hgives f' hf'
  cases hgives
  rw [hd] at hf'
  cases hf'
  exact h _ happlies

theorem leavesMark_ofLowered {g : String → DataType} (hg : ∀ s, (g s).family? = some f)
    (h : ∀ s, applies s = true → f.Marks s) : (ofLowered applies g).LeavesMark := by
  intro t happlies element d hgives f' hf'
  cases hgives
  rw [hg] at hf'
  cases hf'
  exact h _ happlies

/-- A rule for types that members do not tell apart. -/
theorem leavesMark_none {g : TypeReading → DataType} (hg : ∀ r, (g r).family? = none) :
    LeavesMark ⟨applies, fun r => some (g r)⟩ := by
  intro t _ element d hgives f hf
  cases hgives
  rw [hg] at hf
  cases hf

theorem leavesMark_array :
    LeavesMark ⟨beginsWith "array", fun r => r.element.map .array⟩ := by
  intro t happlies element d hgives f hf
  obtain ⟨e, -, rfl⟩ := Option.map_eq_some_iff.mp hgives
  cases hf
  exact Bool.or_eq_true_iff.mpr (.inl happlies)

/-- **Every rule leaves a mark.** -/
theorem leavesMark_of_mem_typeRules : ∀ rule ∈ typeRules, rule.LeavesMark := by
  have hrange : ∀ {s bound}, isArray s = true → (always (· == s) (.range bound)).LeavesMark :=
    fun hs => leavesMark_always rfl fun _ heq => eq_of_beq heq ▸ hs
  have hranges : ∀ {words bound}, (∀ w ∈ words, isArray w = true) →
      (always (List.contains words) (.range bound)).LeavesMark :=
    fun hwords => leavesMark_always rfl fun s hs => hwords s (List.contains_iff_mem.mp hs)
  have hnumber : ∀ {w d}, d.family? = some .number → isNumber w = true →
      (always (beginsWith w) d).LeavesMark :=
    fun hd hw => leavesMark_always hd fun _ => beginsWithAny_of_beginsWith hw
  have hnumbers : ∀ {ws} {g : String → DataType}, (∀ s, (g s).family? = some .number) →
      (∀ w ∈ ws, isNumber w = true) → (ofLowered (beginsWithAny ws) g).LeavesMark :=
    fun hg hws => leavesMark_ofLowered hg fun _ => beginsWithAny_trans hws
  have htext : ∀ {applies d}, d.family? = some .text → (always applies d).LeavesMark :=
    fun hd => leavesMark_always hd fun _ _ => trivial
  have htexts : ∀ {applies} {g : String → DataType}, (∀ s, (g s).family? = some .text) →
      (ofLowered applies g).LeavesMark :=
    fun hg => leavesMark_ofLowered hg fun _ _ => trivial
  have hobject : ∀ {w d}, d.family? = some .object → isJson w = true →
      (always (beginsWith w) d).LeavesMark :=
    fun hd hw => leavesMark_always hd fun _ => beginsWith_trans hw
  unfold typeRules
  simp only [List.forall_mem_cons, List.not_mem_nil, false_implies, implies_true, and_true]
  exact ⟨
    -- truth values, ranges and integers
    leavesMark_always (f := .truth) rfl fun _ => List.contains_iff_mem.mp,
    hrange (by decide), hrange (by decide), hrange (by decide), hrange (by decide),
    hranges (by decide), hnumbers (fun _ => rfl) (by decide),
    -- texts and times
    htext rfl, htexts fun _ => rfl, htexts fun _ => rfl, hnumber rfl (by decide),
    htexts fun _ => rfl, htext rfl,
    leavesMark_ofLowered (f := .time) (fun _ => rfl) fun _ hs => beginsWith_eq_false (by decide) hs,
    htext rfl,
    -- fractions
    hnumbers (fun _ => rfl) (by decide), hnumbers (fun _ => rfl) (by decide),
    hnumber rfl (by decide), hnumber rfl (by decide), hnumbers (fun _ => rfl) (by decide),
    -- identifiers, JSON, shapes and arrays
    htext rfl, hobject rfl (by decide), hobject rfl (by decide), leavesMark_none fun _ => rfl,
    leavesMark_none fun _ => rfl, leavesMark_array,
    -- what is left
    leavesMark_none fun _ => rfl, leavesMark_none fun _ => rfl, htext rfl, htext rfl,
    hnumber rfl (by decide), htext rfl, leavesMark_none fun _ => rfl⟩

end TypeRule

namespace ColumnType

/-- The data type of a column comes from a rule that leaves its mark. -/
theorem marks_of_dataType? {t : ColumnType} {d : DataType} {f : MemberFamily}
    (hd : t.dataType? = some d) (hf : d.family? = some f) : f.Marks t.lowered := by
  obtain ⟨rule, hrule, hgives⟩ := Option.bind_eq_some_iff.mp hd
  have happlies : rule.applies t.lowered = true := by
    simpa using List.find?_some hrule
  exact TypeRule.leavesMark_of_mem_typeRules rule (List.mem_of_find?_eq_some hrule) t happlies _ d
    hgives f hf

/-! ## What the member makes of a mark -/

variable {t : ColumnType}

theorem exists_render_eq_of_isArray (h : isArray t.lowered = true) :
    ∃ e, t.memberType.render = e ++ "[]" := by
  rw [memberType, memberTypeWith, if_pos h]
  exact ⟨_, rfl⟩

theorem memberType_of_not_isArray (h : isArray t.lowered = false) :
    t.memberType = t.plainMemberType := by
  rw [memberType, memberTypeWith, h]
  rfl

/-- A union of literals is a word just if the word is its one literal. -/
theorem intercalate_eq_word_iff {word : String} (hne : word ≠ "") (hbar : '|' ∉ word.toList) :
    ∀ {literals : List String},
      String.intercalate " | " literals = word ↔ literals = [word] := by
  intro literals
  match literals with
  | [] => simp [Ne.symm hne]
  | [literal] => rw [String.intercalate_singleton, List.singleton_inj]
  | first :: second :: rest =>
    refine iff_of_false (fun h => hbar ?_) (by simp)
    rw [← h, String.intercalate_cons_cons]
    simp

theorem render_plainMemberType_eq_string_iff : t.plainMemberType.render = "string" ↔
    (isString t.lowered = true ∧ isDate t.lowered = false) ∨
      (isEnum t.lowered = true ∧ t.enumLiterals = ["string"]) := by
  have hnumber : isNumber t.lowered = true →
      isString t.lowered = false ∧ isEnum t.lowered = false :=
    fun h => ⟨beginsWithAny_eq_false (by decide) h, beginsWith_eq_false (by decide) h⟩
  have hboolean : isBoolean t.lowered = true →
      isString t.lowered = false ∧ isEnum t.lowered = false :=
    fun h => ⟨beginsWithAny_eq_false (by decide) h, beginsWith_eq_false (by decide) h⟩
  have hdate : isDate t.lowered = true → isEnum t.lowered = false := beginsWith_eq_false (by decide)
  have hunion : String.intercalate " | " t.enumLiterals = "string" ↔
      t.enumLiterals = ["string"] :=
    intercalate_eq_word_iff (by decide) (by decide)
  unfold plainMemberType
  dsimp only
  split
  · next h => simp [hnumber h, MemberType.render]
  split
  · next h => simp [hboolean h, MemberType.render]
  split
  · next h => simp [h, hdate h, MemberType.render]
  split
  · next hd h => simp [h, hd, MemberType.render]
  split
  · next hs henum =>
    split
    · next hnone =>
      rw [List.isEmpty_iff] at hnone
      simp [hs, hnone, MemberType.render]
    · simp [hs, henum, MemberType.render, hunion]
  · next hs henum => split <;> simp [hs, henum, MemberType.render]

/-- Apart from enums, only a word for times makes a member a date. -/
theorem render_plainMemberType_eq_date_iff (henum : isEnum t.lowered = false) :
    t.plainMemberType.render = "Date" ↔ isDate t.lowered = true := by
  have hnumber : isNumber t.lowered = true → isDate t.lowered = false :=
    beginsWithAny_eq_false (by decide)
  have hboolean : isBoolean t.lowered = true → isDate t.lowered = false :=
    beginsWithAny_eq_false (by decide)
  unfold plainMemberType
  dsimp only
  rw [henum]
  split
  · next h => simp [hnumber h, MemberType.render]
  split
  · next h => simp [hboolean h, MemberType.render]
  split
  · next h => simp [h, MemberType.render]
  · next h => repeat' split <;> simp [h, MemberType.render]

theorem render_plainMemberType_of_isNumber (h : isNumber t.lowered = true) :
    t.plainMemberType.render = "number" := by
  rw [plainMemberType, if_pos h]
  rfl

theorem plainMemberType_of_isEnum (h : isEnum t.lowered = true) (hsome : t.enumLiterals ≠ []) :
    t.plainMemberType = .union t.enumLiterals := by
  have hword : beginsWithAny ["enum"] t.lowered = true := Bool.or_eq_true_iff.mpr (.inl h)
  have hnumber : isNumber t.lowered = false := beginsWithAny_eq_false (by decide) hword
  have hboolean : isBoolean t.lowered = false := beginsWithAny_eq_false (by decide) hword
  have hdate : isDate t.lowered = false := beginsWithAny_eq_false (by decide) hword
  have hstring : isString t.lowered = false := beginsWithAny_eq_false (by decide) hword
  have hliterals : t.enumLiterals.isEmpty = false := by simpa using hsome
  simp [plainMemberType, hnumber, hboolean, hdate, hstring, h, hliterals]

theorem render_plainMemberType_of_isJson (h : isJson t.lowered = true) :
    t.plainMemberType.render = "object" := by
  have hjson : beginsWithAny ["json"] t.lowered = true := Bool.or_eq_true_iff.mpr (.inl h)
  have hnumber : isNumber t.lowered = false := beginsWithAny_eq_false (by decide) hjson
  have hboolean : isBoolean t.lowered = false := beginsWithAny_eq_false (by decide) hjson
  have hdate : isDate t.lowered = false := beginsWithAny_eq_false (by decide) hjson
  have hstring : isString t.lowered = false := beginsWithAny_eq_false (by decide) hjson
  have henum : isEnum t.lowered = false := beginsWith_eq_false (by decide) hjson
  simp [plainMemberType, hnumber, hboolean, hdate, hstring, henum, h, MemberType.render]

theorem render_plainMemberType_of_isBoolean (h : isBoolean t.lowered = true) :
    t.plainMemberType.render = "boolean" := by
  have hnumber : isNumber t.lowered = false := beginsWithAny_eq_false (by decide) h
  simp [plainMemberType, hnumber, h, MemberType.render]

/-! ## The two readings -/

/-- The expression for a list names no other family. -/
theorem not_names_append_brackets {f : MemberFamily} (hf : f ≠ .list) (e : String) :
    ¬ f.Names (e ++ "[]") := by
  intro h
  have hend : endsWith "[]" (e ++ "[]") = true := by
    simp [endsWith, List.isSuffixOf_iff_suffix]
  cases f with
  | list => exact hf rfl
  | _ =>
    rw [h] at hend
    revert hend
    decide

theorem names_truth_iff (harray : isArray t.lowered = false)
    (hmark : MemberFamily.truth.Marks t.lowered) :
    MemberFamily.truth.Names t.plainMemberType.render ↔ ¬ t.Misread .truth := by
  by_cases hinteger : t.lowered = "tinyint(1)"
  · have hnumber : isNumber t.lowered = true := by rw [hinteger]; decide
    rw [render_plainMemberType_of_isNumber hnumber]
    have hne : "number" ≠ "boolean" := by decide
    exact iff_of_false hne (not_not_intro (.integer hinteger))
  · have hword : t.lowered ∈ ["boolean", "bit(1)", "bit"] := by
      simpa [MemberFamily.Marks, hinteger] using hmark
    have hwords : ∀ w ∈ ["boolean", "bit(1)", "bit"], isBoolean w = true := by decide
    refine iff_of_true (render_plainMemberType_of_isBoolean (hwords _ hword)) ?_
    rintro (h | ⟨-, h⟩)
    · exact hinteger h
    · cases harray.symm.trans h

theorem names_text_iff (harray : isArray t.lowered = false) :
    MemberFamily.text.Names t.plainMemberType.render ↔ ¬ t.Misread .text := by
  rw [MemberFamily.Names, render_plainMemberType_eq_string_iff]
  constructor
  · rintro htext (_ | ⟨-, h⟩ | ⟨hstring, henum⟩ | hdate)
    · cases harray.symm.trans h
    · rcases htext with ⟨h, -⟩ | h
      · cases hstring.symm.trans h
      · exact henum h
    · rcases htext with ⟨-, h⟩ | ⟨h, -⟩
      · cases h.symm.trans hdate
      · -- no type is one of times and an enum
        have hnoEnum : isEnum t.lowered = false := beginsWith_eq_false (by decide) hdate
        cases hnoEnum.symm.trans h
  · intro h
    have hdate : isDate t.lowered = false := Bool.eq_false_iff.mpr fun hd => h (.notText hd)
    cases hstring : isString t.lowered with
    | true => exact .inl ⟨rfl, hdate⟩
    | false => exact .inr (Classical.not_not.mp fun henum => h (.noText hstring henum))

theorem names_time_iff (harray : isArray t.lowered = false)
    (hmark : MemberFamily.time.Marks t.lowered) :
    MemberFamily.time.Names t.plainMemberType.render ↔ ¬ t.Misread .time := by
  rw [MemberFamily.Names, render_plainMemberType_eq_date_iff hmark]
  constructor
  · rintro hdate (_ | ⟨-, h⟩ | _ | _ | h)
    · cases harray.symm.trans h
    · cases h.symm.trans hdate
  · intro h
    exact (Bool.not_eq_false _).mp fun hdate => h (.noTime hdate)

/-- **The member is of the family of the data type** unless the type is one of those that the two
mappings read in different ways. -/
theorem names_memberType_iff {d : DataType} {f : MemberFamily} (hd : t.dataType? = some d)
    (hf : d.family? = some f) : f.Names t.memberType.render ↔ ¬ t.Misread f := by
  have hmark := marks_of_dataType? hd hf
  cases harray : isArray t.lowered with
  | true =>
    -- the chain looks for lists first, so that the mark plays no part
    obtain ⟨e, he⟩ := exists_render_eq_of_isArray harray
    rw [he]
    by_cases hlist : f = .list
    · subst hlist
      refine iff_of_true ?_ ?_
      · simp [MemberFamily.Names, endsWith, List.isSuffixOf_iff_suffix]
      · rintro (_ | ⟨hf, -⟩)
        exact hf rfl
    · exact iff_of_false (not_names_append_brackets hlist e) (not_not_intro (.list hlist harray))
  | false =>
    rw [memberType_of_not_isArray harray]
    cases f with
    | truth => exact names_truth_iff harray hmark
    | number =>
      refine iff_of_true (render_plainMemberType_of_isNumber hmark) ?_
      rintro (_ | ⟨-, h⟩)
      cases harray.symm.trans h
    | text => exact names_text_iff harray
    | time => exact names_time_iff harray hmark
    | object =>
      refine iff_of_true (render_plainMemberType_of_isJson hmark) ?_
      rintro (_ | ⟨-, h⟩)
      cases harray.symm.trans h
    | list => cases harray.symm.trans hmark

theorem names_memberType_iff_timestamp :
    ColumnType.dataType? { sqlType := "TIMESTAMP(6)" } = some (.date "(6)") ∧
      DataType.family? (.date "(6)") = some .time ∧
      MemberFamily.time.Names (ColumnType.memberType { sqlType := "TIMESTAMP(6)" }).render := by
  have hd : ColumnType.dataType? { sqlType := "TIMESTAMP(6)" } = some (.date "(6)") := by rfl
  refine ⟨hd, rfl, (names_memberType_iff hd rfl).mpr ?_⟩
  rintro (_ | ⟨-, harray⟩ | _ | _ | hdate)
  · exact absurd harray (by decide)
  · exact absurd hdate (by decide)

/-- The member is of the family of the data type. -/
def KeepsFamily (t : ColumnType) : Prop :=
  ∀ d f, t.dataType? = some d → d.family? = some f → f.Names t.memberType.render

/-- The smallest integer, a bit string, a year and a text without case are read in two ways. -/
theorem misread_types :
    ¬ KeepsFamily { sqlType := "tinyint(1)" } ∧ ¬ KeepsFamily { sqlType := "bit varying(8)" } ∧
      ¬ KeepsFamily { sqlType := "year" } ∧ ¬ KeepsFamily { sqlType := "citext" } := by
  refine ⟨fun h => ?_, fun h => ?_, fun h => ?_, fun h => ?_⟩
  · exact absurd (h .boolean .truth rfl rfl) (by decide)
  · exact absurd (h (.string "(8)") .text rfl rfl) (by decide)
  · exact absurd (h (.date "") .time rfl rfl) (by decide)
  · exact absurd (h (.text "") .text rfl rfl) (by decide)

end ColumnType
end SchemaModels
