import SchemaModels.Proofs.ColumnType.MemberFamilies
import SchemaModels.Proofs.ColumnType.TypeText
import SchemaModels.Proofs.Text.AsciiCase

/-!
# Enums with their labels in the type

A type such as `enum('a','b')` has its labels in it. The data type and the member type should list
them as they stand there, and `ColumnType.keepsLabels_iff` says when they do.

The data type is that of the first rule that applies. Most rules look at the front or at the end of
a type, where an enum has its word and a bracket, but three of them look for words anywhere, labels
included (`ColumnType.dataType?_of_isEnumList`). So no label may have such a word in its lower-case
form. A word cannot run over two labels, since quotes and commas stand between them
(`contains_enumTypeText`).

The member type is not found by these rules, but its literals are what is left between the commas.
A comma of a label is one more of these. In the data type the literals are joined by commas again,
so that nothing is lost there; in the member type they are joined by bars.
-/

namespace SchemaModels

open Text TypeFamily

/-- The type of an enum with its labels between single quotes. -/
def enumTypeText (head : String) (labels : List String) : String :=
  head ++ ("(" ++ String.intercalate "," (labels.map singleQuoted) ++ ")")

/-- The words that rules before that for enums look for anywhere in a type: those for texts, then
those for identifiers and for bytes. -/
def innerWords : List String :=
  ["varchar", "string", "varying", "uniqueidentifier", "binary", "image", "blob", "bytea"]

/-! ## What the rules see -/

/-- A type in lower case that lists labels in brackets on one line. -/
structure IsEnumList (lowered : String) : Prop where
  begins : beginsWith "enum(" lowered = true
  ends : endsWith ")" lowered = true
  oneLine : '\n' ∉ lowered.toList

namespace IsEnumList

variable {s : String}

theorem isEnumType (h : IsEnumList s) : isEnumType s = true := by
  have hinner : ((s.toList.drop 5).dropLast.contains '\n') = false := by
    rw [Bool.eq_false_iff, ne_eq, List.contains_iff_mem]
    intro hmem
    exact h.oneLine (List.mem_of_mem_drop (List.dropLast_subset _ hmem))
  rw [SchemaModels.isEnumType, h.begins, h.ends, hinner, Bool.not_false, Bool.and_true,
    Bool.and_true, Bool.or_true]

/-- It ends with the bracket, so it does not end with a word. -/
theorem endsWith_eq_false (h : IsEnumList s) {ending : String} {last : Char}
    (hlast : ending.toList.getLast? = some last) (hne : last ≠ ')') :
    endsWith ending s = false := by
  rw [Bool.eq_false_iff]
  intro hends
  obtain ⟨front, hfront⟩ := List.isSuffixOf_iff_suffix.mp hends
  obtain ⟨inner, hinner⟩ := List.isSuffixOf_iff_suffix.mp h.ends
  have hword : s.toList.getLast? = some last := by
    rw [← hfront, List.getLast?_append, hlast, Option.some_or]
  have hbracket : s.toList.getLast? = some ')' := by
    rw [← hinner]
    exact List.getLast?_concat
  rw [hword] at hbracket
  exact hne (Option.some.inj hbracket)

/-- It is none of some types that do not begin as it does. -/
theorem forall_ne (h : IsEnumList s) {ws : List String}
    (hws : ∀ w ∈ ws, beginsWith "enum(" w = false) : ∀ w ∈ ws, (s == w) = false := by
  intro w hw
  rw [beq_eq_false_iff_ne]
  rintro rfl
  exact Bool.false_ne_true ((hws s hw).symm.trans h.begins)

/-- It begins with no other word. -/
theorem forall_beginsWith_eq_false (h : IsEnumList s) {ws : List String}
    (hapart : ∀ w ∈ ws, beginsWith "enum(" w = false ∧ beginsWith w "enum(" = false) :
    ∀ w ∈ ws, beginsWith w s = false := by
  have hbegins : beginsWithAny ["enum("] s = true := Bool.or_eq_true_iff.mpr (.inl h.begins)
  exact fun w hw => beginsWith_eq_false (List.forall_mem_singleton.mpr (hapart w hw)) hbegins

end IsEnumList

/-- **What the rules make of an enum that lists its labels.** -/
theorem ColumnType.dataType?_of_isEnumList {t : ColumnType} (h : IsEnumList t.lowered) :
    t.dataType? =
      if contains "varchar" t.lowered || contains "string" t.lowered
        || contains "varying" t.lowered then some (.string (lengthIn t.lowered))
      else if contains "uniqueidentifier" t.lowered then some .uuid
      else if contains "binary" t.lowered || contains "image" t.lowered
        || contains "blob" t.lowered || contains "bytea" t.lowered then some .blob
      else some (.enum t.enumLiterals) := by
  have hbegins : ∀ w ∈ ["bigint", "smallint", "mediumint", "tinyint", "int", "char", "nchar",
      "real", "date", "timestamp", "year", "time", "float", "float4", "decimal", "numeric", "money",
      "smallmoney", "float8", "double", "uuid", "jsonb", "json", "geometry", "geography", "array",
      "hstore", "inet", "cidr", "oid", "macaddr"], beginsWith w t.lowered = false :=
    h.forall_beginsWith_eq_false (by decide)
  have hne : ∀ w ∈ ["boolean", "bit(1)", "bit", "tinyint(1)", "numrange", "int4range", "int8range",
      "daterange", "tsrange", "tstzrange", "varchar(max)", "nvarchar(max)", "date"],
      (t.lowered == w) = false :=
    h.forall_ne (by decide)
  have htext : endsWith "text" t.lowered = false := h.endsWith_eq_false rfl (by decide)
  simp only [List.forall_mem_cons, List.not_mem_nil, false_implies, implies_true, and_true]
    at hbegins hne
  rw [dataType?, dataTypeWith]
  simp only [typeRules, TypeRule.always, TypeRule.ofLowered, List.find?_cons, List.contains_cons,
    List.contains_nil, beginsWithAny, List.any_cons, List.any_nil, hbegins, hne, htext,
    Bool.or_false, Bool.false_or, h.isEnumType]
  -- the rules left are those that look for a word anywhere, and that for enums
  generalize (contains "varchar" t.lowered || contains "string" t.lowered
    || contains "varying" t.lowered) = text
  generalize contains "uniqueidentifier" t.lowered = identifier
  generalize (contains "binary" t.lowered || contains "image" t.lowered
    || contains "blob" t.lowered || contains "bytea" t.lowered) = bytes
  cases text <;> cases identifier <;> cases bytes <;> rfl

/-- The families find an enum. -/
theorem ColumnType.memberType_of_isEnumList {t : ColumnType} (h : IsEnumList t.lowered)
    (hsome : t.enumLiterals ≠ []) : t.memberType = .union t.enumLiterals := by
  have harray : isArray t.lowered = false := by
    have hfront : ∀ w ∈ ["array"], beginsWith w t.lowered = false :=
      h.forall_beginsWith_eq_false (by decide)
    rw [isArray, hfront "array" List.mem_cons_self, h.endsWith_eq_false rfl (by decide)]
    rfl
  have henum : isEnum t.lowered = true := beginsWith_trans (by decide) h.begins
  rw [memberType_of_not_isArray harray, plainMemberType_of_isEnum henum hsome]

/-! ## The type as a text -/

theorem toList_singleQuoted (label : String) :
    (singleQuoted label).toList = '\'' :: (label.toList ++ ['\'']) := by
  simp [singleQuoted]

/-- The labels as they stand in the type. -/
def quotedLabels (labels : List String) : List (List Char) :=
  labels.map fun label => (singleQuoted label).toList

theorem toList_quotedList (labels : List String) :
    (String.intercalate "," (labels.map singleQuoted)).toList
      = List.intercalate [','] (quotedLabels labels) := by
  rw [String.toList_intercalate, List.map_map]
  rfl

theorem toList_enumTypeText (head : String) (labels : List String) :
    (enumTypeText head labels).toList
      = head.toList ++ '(' :: (List.intercalate [','] (quotedLabels labels) ++ [')']) := by
  rw [enumTypeText, String.toList_append, String.toList_append, String.toList_append,
    toList_quotedList]
  rfl

theorem caseStable_oneLine : CaseStable (· != '\n') := .of_ne (by decide)

section EnumTypeText

variable {head : String} {labels : List String}
  (hhead : head.toList.map Char.toLower = "enum".toList)

include hhead

theorem only_isAscii_enumHead : Only isAscii head.toList :=
  only_isAscii_of_map_toLower (List.all_eq_true.mp (by decide)) hhead

/-- A type with its labels on one line is on one line. -/
theorem oneLine_enumTypeText (hline : ∀ label ∈ labels, '\n' ∉ label.toList) :
    Only (· != '\n') (enumTypeText head labels).toList := by
  have hword : Only (· != '\n') head.toList := by
    intro c hc
    rw [bne_iff_ne]
    rintro rfl
    have hmem : Char.toLower '\n' ∈ "enum".toList := hhead ▸ List.mem_map_of_mem hc
    exact absurd hmem (by decide)
  have hlabels : ∀ cs ∈ quotedLabels labels, Only (· != '\n') cs := by
    intro cs hcs
    obtain ⟨label, hlabel, rfl⟩ := List.mem_map.mp hcs
    rw [toList_singleQuoted]
    refine Only.cons rfl (Only.append (fun c hc => ?_) (only_nil.cons rfl))
    rw [bne_iff_ne]
    rintro rfl
    exact hline label hlabel hc
  rw [toList_enumTypeText]
  exact hword.append (((Only.intercalate (only_nil.cons rfl) hlabels).append
    (only_nil.cons rfl)).cons rfl)

/-- In lower case, too, the type lists its labels. -/
theorem isEnumList_enumTypeText (hline : ∀ label ∈ labels, '\n' ∉ label.toList) :
    IsEnumList (lowercase (enumTypeText head labels)) := by
  have hfront : Only isAscii (head.toList ++ ['(']) :=
    (only_isAscii_enumHead hhead).append (only_nil.cons rfl)
  have htext : (enumTypeText head labels).toList = (head.toList ++ ['(']) ++
      (List.intercalate [','] (quotedLabels labels) ++ [')']) := by
    rw [toList_enumTypeText, List.append_assoc, List.singleton_append]
  obtain ⟨afterFront, hlowered⟩ := exists_lowerFrom_append hfront
    (List.intercalate [','] (quotedLabels labels) ++ [')']) false
  obtain ⟨inner, afterInner, hinner⟩ :=
    exists_lowerFrom_eq_append (List.intercalate [','] (quotedLabels labels)) [')'] afterFront
  have hshape : (lowercase (enumTypeText head labels)).toList
      = "enum(".toList ++ (inner ++ [')']) := by
    rw [lowercase, String.toList_ofList, htext, hlowered, hinner, List.map_append, hhead]
    rfl
  refine ⟨?_, ?_, ?_⟩
  · rw [beginsWith, hshape, List.isPrefixOf_iff_prefix]
    exact List.prefix_append _ _
  · rw [endsWith, hshape, List.isSuffixOf_iff_suffix, ← List.append_assoc]
    exact List.suffix_append _ _
  · intro hmem
    have hone := caseStable_oneLine.lowercase (oneLine_enumTypeText hhead hline)
    exact absurd (hone '\n' hmem) (by decide)

/-- **A rule sees its word in the type just if it would see it in a label.** -/
theorem contains_enumTypeText (hne : labels ≠ []) {w : String} (hw : w ∈ innerWords) :
    contains w (lowercase (enumTypeText head labels))
      = labels.any fun label => contains w (lowercase label) := by
  have hwords : ∀ w ∈ innerWords, w.toList.all isAscii = true ∧ w.toList ≠ [] ∧
      ("(',)".toList.all fun c => !w.toList.contains c) = true ∧
      occurs w.toList "enum".toList = false := by decide
  obtain ⟨hascii, hsome, hmarks, henum⟩ := hwords w hw
  -- a word is looked for in the lower-case forms of the characters, wherever they stand
  let found (cs : List Char) : Bool := occurs w.toList (cs.flatMap toLower)
  have hfound : ∀ s, contains w (lowercase s) = found s.toList :=
    contains_lowercase (List.all_eq_true.mp hascii)
  have hcut : ∀ c ∈ "(',)".toList, ∀ xs ys, found (xs ++ c :: ys) = (found xs || found ys) := by
    intro c hc
    have hmark : c ∉ w.toList := by simpa using List.all_eq_true.mp hmarks c hc
    have hlower : ("(',)".toList.all fun c => toLower c == [c]) = true := by decide
    have hkept : toLower c = [c] := eq_of_beq (List.all_eq_true.mp hlower c hc)
    exact occurs_flatMap_toLower_append_cons hsome hkept hmark
  have hnil : found [] = false := by simpa [found, occurs] using hsome
  have hword : found head.toList = false := by
    dsimp only [found]
    rw [flatMap_toLower_of_ascii (only_isAscii_enumHead hhead), hhead, henum]
  have hquoted : ∀ label : String, found (singleQuoted label).toList = found label.toList := by
    intro label
    rw [toList_singleQuoted, ← List.nil_append ('\'' :: _), hcut _ (by decide), hnil,
      Bool.false_or, hcut _ (by decide), hnil, Bool.or_false]
  have hlabels : quotedLabels labels ≠ [] := by simpa [quotedLabels] using hne
  rw [hfound, toList_enumTypeText, hcut _ (by decide), hword, Bool.false_or, hcut _ (by decide),
    hnil, Bool.or_false, any_intercalate (hcut _ (by decide)) hlabels, quotedLabels, List.any_map]
  simp only [Function.comp_def, hquoted, hfound]

/-- The rules see none of their words just if there is none in the labels. -/
theorem forall_contains_enumTypeText_iff (hne : labels ≠ []) :
    (∀ w ∈ innerWords, contains w (lowercase (enumTypeText head labels)) = false)
      ↔ ∀ label ∈ labels, ∀ w ∈ innerWords, contains w (lowercase label) = false := by
  constructor
  · intro h label hlabel w hw
    have hnone := h w hw
    rw [contains_enumTypeText hhead hne hw, List.any_eq_false] at hnone
    exact Bool.eq_false_iff.mpr (hnone label hlabel)
  · intro h w hw
    rw [contains_enumTypeText hhead hne hw, List.any_eq_false]
    exact fun label hlabel => Bool.eq_false_iff.mp (h label hlabel w hw)

end EnumTypeText

/-! ## What becomes of the labels -/

/-- The data types of the rules that look for a word anywhere list no labels. -/
theorem DataType.render_ne_enum {d : DataType} (hd : (∃ n, d = .string n) ∨ d = .uuid ∨ d = .blob)
    (list : String) : d.render ≠ "DataTypes.ENUM(" ++ list ++ ")" := by
  have hstring : ∀ n, (DataType.string n).render = "DataTypes.STRING" ++ n := fun _ => rfl
  have huuid : DataType.uuid.render = "DataTypes.UUID" := rfl
  have hblob : DataType.blob.render = "DataTypes.BLOB" := rfl
  rcases hd with ⟨n, rfl⟩ | rfl | rfl
  · simp [hstring, ← String.toList_inj]
  · simp [huuid, ← String.toList_inj]
  · simp [hblob, ← String.toList_inj]

namespace ColumnType

/-- A column with an enum that has its labels in the type. -/
def inlineEnum (head : String) (labels : List String) (elementType : Option String) : ColumnType :=
  { sqlType := enumTypeText head labels, elementType }

section InlineEnum

variable {head : String} {labels : List String}
  (hhead : head.toList.map Char.toLower = "enum".toList) (hne : labels ≠ [])
  (elementType : Option String)

include hhead hne

/-- The literals are what stands between the commas. -/
theorem enumLiterals_inlineEnum : (inlineEnum head labels elementType).enumLiterals
    = splitOn ',' (String.intercalate "," (labels.map singleQuoted)) := by
  unfold enumLiterals inlineEnum enumTypeText
  rw [enumList?_of_brackets hhead (toList_enumList_ne_nil hne)]
  dsimp only
  rw [String.ofList_toList]
  rfl

variable (hline : ∀ label ∈ labels, '\n' ∉ label.toList)

include hline

/-- The data type lists the labels unless a label has a word that an earlier rule looks for. -/
theorem render_dataType?_inlineEnum_iff :
    (inlineEnum head labels elementType).dataType?.map DataType.render
      = some ("DataTypes.ENUM(" ++ String.intercalate "," (labels.map singleQuoted) ++ ")")
      ↔ ∀ label ∈ labels, ∀ w ∈ innerWords, contains w (lowercase label) = false := by
  have henum : IsEnumList (inlineEnum head labels elementType).lowered :=
    isEnumList_enumTypeText hhead hline
  have hjoined : String.intercalate "," (inlineEnum head labels elementType).enumLiterals
      = String.intercalate "," (labels.map singleQuoted) := by
    have hcomma : ",".toList = [','] := rfl
    rw [enumLiterals_inlineEnum hhead hne, intercalate_splitOn hcomma]
  have hapart : ∀ {d : DataType}, ((∃ n, d = .string n) ∨ d = .uuid ∨ d = .blob) →
      (some d).map DataType.render ≠
        some ("DataTypes.ENUM(" ++ String.intercalate "," (labels.map singleQuoted) ++ ")") :=
    fun hd htext => DataType.render_ne_enum hd _ (Option.some.inj htext)
  rw [← forall_contains_enumTypeText_iff hhead hne, dataType?_of_isEnumList henum]
  change _ ↔ ∀ w ∈ innerWords, contains w (inlineEnum head labels elementType).lowered = false
  simp only [innerWords, List.forall_mem_cons, List.not_mem_nil, false_implies, implies_true,
    and_true]
  split
  · next h => exact iff_of_false (hapart (.inl ⟨_, rfl⟩)) fun hnone => by simp [hnone] at h
  split
  · next h => exact iff_of_false (hapart (.inr (.inl rfl))) fun hnone => by simp [hnone] at h
  split
  · next h => exact iff_of_false (hapart (.inr (.inr rfl))) fun hnone => by simp [hnone] at h
  · next htext huuid hblob =>
    simp only [Bool.or_eq_true, not_or, Bool.not_eq_true] at htext huuid hblob
    refine iff_of_true ?_ ⟨htext.1.1, htext.1.2, htext.2, huuid, hblob.1.1.1, hblob.1.1.2,
      hblob.1.2, hblob.2⟩
    rw [← hjoined]
    rfl

/-- The member type lists the labels unless a label has a comma. -/
theorem render_memberType_inlineEnum_iff :
    (inlineEnum head labels elementType).memberType.render
      = String.intercalate " | " (labels.map singleQuoted)
      ↔ ∀ label ∈ labels, ',' ∉ label.toList := by
  have henum : IsEnumList (inlineEnum head labels elementType).lowered :=
    isEnumList_enumTypeText hhead hline
  have hcomma : ",".toList = [','] := rfl
  have hsome : (inlineEnum head labels elementType).enumLiterals ≠ [] := by
    rw [enumLiterals_inlineEnum hhead hne, splitOn]
    simpa using splitWhere_ne_nil _
  have hrender : (inlineEnum head labels elementType).memberType.render = String.intercalate " | "
      (splitOn ',' (String.intercalate "," (labels.map singleQuoted))) := by
    rw [memberType_of_isEnumList henum hsome, ← enumLiterals_inlineEnum hhead hne elementType]
    rfl
  have hquoted : ∀ label : String, ',' ∈ (singleQuoted label).toList ↔ ',' ∈ label.toList := by
    intro label
    simp [toList_singleQuoted]
  rw [hrender, intercalate_splitOn_intercalate_iff hcomma (by decide) (by simpa using hne),
    List.forall_mem_map]
  simp only [hquoted]

/-- **What becomes of the labels of an enum that has them in its type.** The data type lists them
just if no label has, in lower case, one of the words that earlier rules look for; the member type
lists them just if no label has a comma. -/
theorem keepsLabels_iff :
    ((inlineEnum head labels elementType).dataType?.map DataType.render
      = some ("DataTypes.ENUM(" ++ String.intercalate "," (labels.map singleQuoted) ++ ")")
      ↔ ∀ label ∈ labels, ∀ w ∈ innerWords, contains w (lowercase label) = false)
    ∧ ((inlineEnum head labels elementType).memberType.render
      = String.intercalate " | " (labels.map singleQuoted)
      ↔ ∀ label ∈ labels, ',' ∉ label.toList) :=
  ⟨render_dataType?_inlineEnum_iff hhead hne elementType hline,
    render_memberType_inlineEnum_iff hhead hne elementType hline⟩

end InlineEnum

/-- Two sizes, with the word in a mixed case. -/
theorem keepsLabels_iff_sizes :
    (inlineEnum "Enum" ["XL", "(m)"] none).dataType?.map DataType.render
        = some "DataTypes.ENUM('XL','(m)')"
      ∧ (inlineEnum "Enum" ["XL", "(m)"] none).memberType.render = "'XL' | '(m)'" := by
  have hhead : "Enum".toList.map Char.toLower = "enum".toList := by decide
  have hline : ∀ label ∈ ["XL", "(m)"], '\n' ∉ label.toList := by decide
  have hwords : ∀ label ∈ ["XL", "(m)"], ∀ w ∈ innerWords,
      contains w (lowercase label) = false := by decide +kernel
  have hcommas : ∀ label ∈ ["XL", "(m)"], ',' ∉ label.toList := by decide
  obtain ⟨hdata, hmember⟩ := keepsLabels_iff hhead (List.cons_ne_nil _ _) none hline
  exact ⟨hdata.mpr hwords, hmember.mpr hcommas⟩

/-- Two kinds of media are bytes, and a comma makes one label two. -/
theorem enums_lose_labels :
    (inlineEnum "enum" ["image", "video"] none).dataType?.map DataType.render
        = some "DataTypes.BLOB"
      ∧ (inlineEnum "enum" ["a,b", "c"] none).memberType.render = "'a | b' | 'c'" := by
  decide +kernel

end ColumnType

end SchemaModels
