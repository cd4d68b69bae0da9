import SchemaModels.Proofs.ColumnType.EnumTypes

/-!
# Types that begin with a word for numbers

The rules for numbers look at how a type begins, not at its first word as a whole: `interval` begins
like an integer and becomes one. `ColumnType.integer_iff` says which types do, and
`ColumnType.numberWords_exact` adds that a double is read by its whole word.

What the rules make of a number is computed once for types that begin like an integer
(`dataType?_of_integerFront`) and once for all others (`dataType?_of_otherFront`). No other type
gets an integer, since the rule that gives one leaves its mark (`marks_of_dataType?`).
-/

namespace SchemaModels

open Text TypeFamily

/-- The ASCII letters and digits that a text begins with. -/
def leadingWord (s : String) : String :=
  String.ofList (s.toList.takeWhile Char.isAlphanum)

/-- How the types begin that the rule for integers is for. -/
def integerFronts : List String :=
  ["bigint", "smallint", "mediumint", "tinyint", "int"]

/-- How the other types of numbers begin. -/
def otherFronts : List String :=
  ["real", "float", "decimal", "numeric", "money", "smallmoney", "double", "oid"]

/-! ## The first word of a type -/

theorem isPrefix_takeWhile_iff {p : Char → Bool} : ∀ {w cs : List Char}, (∀ c ∈ w, p c = true) →
    (w <+: cs.takeWhile p ↔ w <+: cs) := by
  intro w
  induction w with
  | nil => intro cs _; simp
  | cons c w ih =>
    intro cs hw
    rw [List.forall_mem_cons] at hw
    cases cs with
    | nil => simp
    | cons d cs =>
      cases hd : p d with
      | true => rw [List.takeWhile_cons_of_pos hd, List.cons_prefix_cons, List.cons_prefix_cons,
          ih hw.2]
      | false =>
        have hne : c ≠ d := by
          rintro rfl
          cases hd.symm.trans hw.1
        rw [List.takeWhile_cons_of_neg (by simp [hd]), List.cons_prefix_cons]
        simp [hne]

/-- A type begins with a word of letters and digits just if its first word does. -/
theorem beginsWith_leadingWord {w : String} (hw : w.toList.all Char.isAlphanum = true)
    (s : String) : beginsWith w (leadingWord s) = beginsWith w s := by
  rw [Bool.eq_iff_iff, beginsWith, beginsWith, leadingWord, String.toList_ofList,
    List.isPrefixOf_iff_prefix, List.isPrefixOf_iff_prefix,
    isPrefix_takeWhile_iff (List.all_eq_true.mp hw)]

theorem beginsWithAny_leadingWord {ws : List String}
    (hws : ∀ w ∈ ws, w.toList.all Char.isAlphanum = true) (s : String) :
    beginsWithAny ws (leadingWord s) = beginsWithAny ws s := by
  rw [Bool.eq_iff_iff, beginsWithAny, beginsWithAny, List.any_eq_true, List.any_eq_true]
  exact exists_congr fun w => and_congr_right fun hw => by rw [beginsWith_leadingWord (hws w hw)]

/-! ## What the rules make of numbers -/

section Fronts

variable {fronts ws : List String} {s : String}

/-- A type that begins with one of some words begins with no word that is apart from them. -/
theorem forall_beginsWith_eq_false
    (hapart : ∀ w ∈ ws, ∀ v ∈ fronts, beginsWith v w = false ∧ beginsWith w v = false)
    (h : beginsWithAny fronts s = true) : ∀ w ∈ ws, beginsWith w s = false :=
  fun w hw => beginsWith_eq_false (hapart w hw) h

/-- It is none of some types that do not begin so. -/
theorem forall_beq_eq_false (hws : ∀ w ∈ ws, beginsWithAny fronts w = false)
    (h : beginsWithAny fronts s = true) : ∀ w ∈ ws, (s == w) = false := by
  intro w hw
  rw [beq_eq_false_iff_ne]
  rintro rfl
  cases (hws s hw).symm.trans h

end Fronts

/-- The first rule decides if it applies, and else the others do. -/
theorem TypeRule.bind_find?_cons (rule : TypeRule) (rules : List TypeRule) (lowered : String)
    (r : TypeReading) :
    ((rule :: rules).find? (·.applies lowered)).bind (·.dataType r)
      = if rule.applies lowered then rule.dataType r
        else (rules.find? (·.applies lowered)).bind (·.dataType r) := by
  rw [List.find?_cons]
  cases rule.applies lowered <;> rfl

namespace ColumnType

variable {t : ColumnType}

/-- **A type that begins like an integer is one**, unless it is the truth value or one of the two
ranges that earlier rules have as a whole. -/
theorem dataType?_of_integerFront (h : beginsWithAny integerFronts t.lowered = true) :
    t.dataType? =
      if t.lowered == "tinyint(1)" then some .boolean
      else if t.lowered == "int4range" then some (.range .integer)
      else if t.lowered == "int8range" then some (.range .bigint)
      else some (integerOf t.lowered) := by
  have hne : ∀ w ∈ ["boolean", "bit(1)", "bit", "numrange", "daterange", "tsrange", "tstzrange"],
      (t.lowered == w) = false :=
    forall_beq_eq_false (by decide) h
  simp only [List.forall_mem_cons, List.not_mem_nil, false_implies, implies_true, and_true] at hne
  have hrule : beginsWithAny ["bigint", "smallint", "mediumint", "tinyint", "int"] t.lowered
      = true := h
  rw [dataType?, dataTypeWith]
  simp only [typeRules, TypeRule.always, TypeRule.ofLowered, TypeRule.bind_find?_cons,
    List.contains_cons, List.contains_nil, hne, hrule, Bool.or_false, Bool.false_or, if_true,
    Bool.false_eq_true, if_false]

/-- **What the rules make of any other type of numbers.** -/
theorem dataType?_of_otherFront (h : beginsWithAny otherFronts t.lowered = true) :
    t.dataType? =
      if contains "varchar" t.lowered || contains "string" t.lowered
        || contains "varying" t.lowered then some (.string (lengthIn t.lowered))
      else if beginsWith "real" t.lowered then some .real
      else if endsWith "text" t.lowered then some (.text (lengthIn t.lowered))
      else if beginsWith "float" t.lowered || beginsWith "float4" t.lowered then
        some (.float (precisionIn t.lowered))
      else if beginsWith "decimal" t.lowered || beginsWith "numeric" t.lowered then
        some (.decimal (precisionIn t.lowered))
      else if beginsWith "money" t.lowered then some (.decimal "(19,4)")
      else if beginsWith "smallmoney" t.lowered then some (.decimal "(10,4)")
      else if beginsWith "float8" t.lowered || beginsWith "double" t.lowered then
        some (.double (precisionIn t.lowered))
      else if contains "uniqueidentifier" t.lowered then some .uuid
      else if contains "binary" t.lowered || contains "image" t.lowered
        || contains "blob" t.lowered || contains "bytea" t.lowered then some .blob
      else some (.integer .standard false false) := by
  have hbegins : ∀ w ∈ ["bigint", "smallint", "mediumint", "tinyint", "int", "char", "nchar",
      "date", "timestamp", "year", "time", "uuid", "jsonb", "json", "geometry", "geography",
      "array", "hstore", "inet", "cidr"], beginsWith w t.lowered = false :=
    forall_beginsWith_eq_false (by decide) h
  have hne : ∀ w ∈ ["boolean", "bit(1)", "bit", "tinyint(1)", "numrange", "int4range",
      "int8range", "daterange", "tsrange", "tstzrange", "varchar(max)", "nvarchar(max)", "date"],
      (t.lowered == w) = false :=
    forall_beq_eq_false (by decide) h
  simp only [List.forall_mem_cons, List.not_mem_nil, false_implies, implies_true, and_true]
    at hbegins hne
  rw [dataType?, dataTypeWith]
  simp only [typeRules, TypeRule.always, TypeRule.ofLowered, TypeRule.bind_find?_cons,
    List.contains_cons, List.contains_nil, beginsWithAny, List.any_cons, List.any_nil, hbegins,
    hne, Bool.or_false, Bool.false_or, Bool.false_eq_true, if_false]
  -- the rules agree up to that for `oid`, which is the last word left
  simp only [beginsWithAny, otherFronts, List.any_cons, List.any_nil, Bool.or_false,
    Bool.or_eq_true] at h
  rcases h with h | h | h | h | h | h | h | h <;> simp only [h, Bool.true_or, Bool.or_true, if_true]

/-- A number begins like an integer or like one of the others. -/
theorem beginsWithAny_or_of_isNumber {s : String} (h : isNumber s = true) :
    beginsWithAny integerFronts s = true ∨ beginsWithAny otherFronts s = true := by
  obtain ⟨w, hw, hs⟩ := List.any_eq_true.mp h
  have hwords : ∀ w ∈ ["smallint", "mediumint", "tinyint", "int", "bigint", "float", "money",
      "smallmoney", "double", "decimal", "numeric", "real", "oid"],
      w ∈ integerFronts ∨ w ∈ otherFronts := by decide
  exact (hwords w hw).imp (fun hw => List.any_eq_true.mpr ⟨w, hw, hs⟩)
    fun hw => List.any_eq_true.mpr ⟨w, hw, hs⟩

/-- An answer that is not the one looked for is passed over. -/
theorem ite_some_eq_some_iff {α : Type _} {a b : α} (hne : a ≠ b) (c : Bool) (o : Option α) :
    (if c then some a else o) = some b ↔ c = false ∧ o = some b := by
  cases c <;> simp [hne]

/-- An integer that does not begin like one is a row number. -/
theorem dataType?_eq_integer_iff (h : beginsWithAny otherFronts t.lowered = true)
    {width : IntegerWidth} {unsigned zerofill : Bool} :
    t.dataType? = some (.integer width unsigned zerofill) ↔
      (beginsWith "oid" t.lowered = true ∧ endsWith "text" t.lowered = false ∧
        ∀ w ∈ innerWords, contains w t.lowered = false) ∧
      DataType.integer .standard false false = .integer width unsigned zerofill := by
  have hoid : beginsWith "oid" t.lowered = true ↔ ∀ w ∈ ["real", "float", "float4", "decimal",
      "numeric", "money", "smallmoney", "float8", "double"], beginsWith w t.lowered = false := by
    constructor
    · intro hoid
      have hfront : beginsWithAny ["oid"] t.lowered = true := Bool.or_eq_true_iff.mpr (.inl hoid)
      exact forall_beginsWith_eq_false (by decide) hfront
    · intro hnone
      obtain ⟨w, hw, hbegins⟩ := List.any_eq_true.mp h
      have hsplit : ∀ w ∈ otherFronts, w = "oid" ∨ w ∈ ["real", "float", "float4", "decimal",
          "numeric", "money", "smallmoney", "float8", "double"] := by decide
      rcases hsplit w hw with rfl | hmem
      · exact hbegins
      · cases (hnone w hmem).symm.trans hbegins
  rw [dataType?_of_otherFront h, hoid]
  simp only [ite_some_eq_some_iff, ne_eq, reduceCtorEq, not_false_eq_true, Option.some.injEq,
    innerWords, List.forall_mem_cons, List.not_mem_nil, false_implies, implies_true, and_true,
    Bool.or_eq_false_iff]
  grind

/-! ## Integers -/

/-- The types that become integers. -/
inductive ReadsAsInteger (t : ColumnType) : Prop where
  /-- The first word begins like an integer, and no earlier rule has the type as a whole. -/
  | front (hfront : beginsWithAny integerFronts (leadingWord t.lowered) = true)
      (hwhole : t.lowered ∉ ["tinyint(1)", "int4range", "int8range"])
  /-- The first word begins like that for row numbers, and no earlier rule finds a word in the
  type. -/
  | rowNumber (hfront : beginsWith "oid" (leadingWord t.lowered) = true)
      (htext : endsWith "text" t.lowered = false)
      (hinner : ∀ w ∈ innerWords, contains w t.lowered = false)

/-- **Types become integers by their fronts.** -/
theorem integer_iff :
    (∃ width unsigned zerofill, t.dataType? = some (.integer width unsigned zerofill)) ↔
      t.ReadsAsInteger := by
  constructor
  · rintro ⟨width, unsigned, zerofill, hd⟩
    rcases beginsWithAny_or_of_isNumber (marks_of_dataType? hd rfl) with hfront | hfront
    · refine .front (by rwa [beginsWithAny_leadingWord (by decide)]) fun hwhole => ?_
      rw [dataType?_of_integerFront hfront] at hd
      simp only [List.mem_cons, List.not_mem_nil, or_false] at hwhole
      rcases hwhole with hwhole | hwhole | hwhole <;> rw [hwhole] at hd <;> cases hd
    · obtain ⟨⟨hoid, htext, hinner⟩, -⟩ := (dataType?_eq_integer_iff hfront).mp hd
      exact .rowNumber (by rwa [beginsWith_leadingWord (by decide)]) htext hinner
  · rintro (⟨hfront, hwhole⟩ | ⟨hfront, htext, hinner⟩)
    · simp only [List.mem_cons, List.not_mem_nil, or_false, not_or] at hwhole
      rw [beginsWithAny_leadingWord (by decide)] at hfront
      have hinteger := dataType?_of_integerFront hfront
      simp only [beq_iff_eq, hwhole, if_false] at hinteger
      exact ⟨_, _, _, hinteger⟩
    · rw [beginsWith_leadingWord (by decide)] at hfront
      have hother : beginsWithAny otherFronts t.lowered = true :=
        beginsWithAny_of_beginsWith (by decide) hfront
      exact ⟨_, _, _, (dataType?_eq_integer_iff hother).mpr ⟨⟨hfront, htext, hinner⟩, rfl⟩⟩

/-! ## Doubles -/

/-- A word for texts stands in the type, or `text` at its end. -/
def namesText (lowered : String) : Bool :=
  (contains "varchar" lowered || contains "string" lowered || contains "varying" lowered)
    || endsWith "text" lowered

/-- The word `double` makes one, with its precision. -/
theorem dataType?_of_double (hword : leadingWord t.lowered = "double")
    (htext : namesText t.lowered = false) :
    t.dataType? = some (.double (precisionIn t.lowered)) := by
  rw [namesText, Bool.or_eq_false_iff] at htext
  have hdouble : beginsWith "double" t.lowered = true := by
    rw [← beginsWith_leadingWord (by decide), hword]
    decide
  have hother : beginsWithAny otherFronts t.lowered = true :=
    beginsWithAny_of_beginsWith (by decide) hdouble
  have hfront : beginsWithAny ["double"] t.lowered = true := Bool.or_eq_true_iff.mpr (.inl hdouble)
  have hno : ∀ w ∈ ["real", "float", "float4", "decimal", "numeric", "money", "smallmoney",
      "float8"], beginsWith w t.lowered = false :=
    forall_beginsWith_eq_false (by decide) hfront
  simp only [List.forall_mem_cons, List.not_mem_nil, false_implies, implies_true, and_true] at hno
  rw [dataType?_of_otherFront hother]
  simp only [htext, hno, hdouble, Bool.or_false, Bool.false_or, Bool.false_eq_true, if_false,
    if_true]

/-- **Integers are told by the front of the first word, doubles by the word.** -/
theorem numberWords_exact (t : ColumnType) :
    ((∃ width unsigned zerofill, t.dataType? = some (.integer width unsigned zerofill)) ↔
        t.ReadsAsInteger) ∧
      (leadingWord t.lowered = "double" → namesText t.lowered = false →
        t.dataType? = some (.double (precisionIn t.lowered))) :=
  ⟨integer_iff, dataType?_of_double⟩

theorem numberWords_exact_double :
    ColumnType.dataType? { sqlType := "double precision(8,2)" } = some (.double "(8,2)") :=
  (numberWords_exact { sqlType := "double precision(8,2)" }).2 (by decide) (by decide)

/-- A span of time becomes an integer, though its word is for none. -/
theorem interval_becomes_integer :
    ¬ ∀ width unsigned zerofill, ColumnType.dataType? { sqlType := "interval" }
        = some (.integer width unsigned zerofill) →
      leadingWord (ColumnType.lowered { sqlType := "interval" }) ∈ ["bigint", "smallint",
        "mediumint", "tinyint", "int", "integer", "int2", "int4", "int8", "oid"] := by
  intro h
  exact absurd (h .standard false false rfl) (by decide)

end ColumnType
end SchemaModels
