import SchemaModels.Proofs.ColumnType.MemberFamilies
import SchemaModels.Proofs.Schema.DefaultMeaning

/-!
# Numbers and calls as defaults

A default is written bare in a column for numbers unless it has a call in it, whether it is a number
or not. So a bare default is a number just if the reported text is one (`numeral_ofReported_iff`).

A default is the call of a function if the text ends in one, whatever comes before. The name is
what is left of the text, so it is a name just if the text is nothing but a call
(`function_ofReported_iff`). What decides about the end is the escaped text, in which a control
character looks like a word.

Neither numbers nor names have a character that is escaped (`isWordLike`). This is why the reported
text can be compared with the escaped one.
-/

namespace SchemaModels.DefaultValue

open Text Script

/-! ## Texts that are not escaped -/

/-- No range reaches below the place where all of them begin. -/
theorem inRanges_eq_false {rs : List CodeRange} {n : Nat}
    (h : rs.all (fun r => n ≤ r.first) = true) {c : Char} (hc : c.toNat < n) :
    inRanges rs c = false := by
  refine List.any_eq_false.mpr fun r hr hcovers => ?_
  have hfirst : n ≤ r.first := of_decide_eq_true (List.all_eq_true.mp h r hr)
  simp only [CodeRange.covers, Bool.and_eq_true, decide_eq_true_eq] at hcovers
  omega

theorem isWordChar_eq_false_of_isControl {c : Char} (h : isControl c = true) :
    isWordChar c = false := by
  by_cases hascii : isAscii c = true
  · exact forall_isAscii (p := fun c => isControl c = true → isWordChar c = false) (by decide)
      hascii h
  · have hlow : ∀ {rs : List CodeRange}, rs.all (fun r => 0xA0 ≤ r.first) = true →
        inRanges rs c = false := fun hrs => inRanges_eq_false hrs (lt_of_isControl h)
    simp only [isWordChar, isAlphabetic, isDecimalDigit, if_neg hascii, Bool.or_eq_false_iff]
    exact ⟨⟨⟨hlow (by decide +kernel), hlow (by decide +kernel)⟩, hlow (by decide +kernel)⟩,
      hlow (by decide +kernel)⟩

/-- A character of a word, a point or a sign. -/
def isWordLike (c : Char) : Bool := isWordChar c || ['.', '+', '-'].contains c

theorem scriptChar_of_isWordChar {c : Char} (h : isWordChar c = true) : scriptChar c = [c] := by
  refine scriptChar_eq_self (Bool.eq_false_iff.mpr fun hself => ?_)
    (Bool.eq_false_iff.mpr fun hcontrol => ?_)
  · rcases eq_of_marked hself with rfl | rfl | rfl <;> exact absurd h (by decide)
  · rw [isWordChar_eq_false_of_isControl hcontrol] at h
    cases h

theorem scriptEscaped_of_isWordLike {s : String} (h : Only isWordLike s.toList) :
    scriptEscaped s = s := by
  refine scriptEscaped_eq_self fun c hc => ?_
  rcases Bool.or_eq_true_iff.mp (h c hc) with hword | hsign
  · exact scriptChar_of_isWordChar hword
  · simp only [List.contains_cons, List.contains_nil, Bool.or_false, Bool.or_eq_true,
      beq_iff_eq] at hsign
    rcases hsign with rfl | rfl | rfl <;> rfl

/-- A text whose escaped form has no backslash, as those of these characters have none. -/
theorem scriptEscaped_eq_self_of_isWordLike {s : String}
    (h : Only isWordLike (scriptEscaped s).toList) : scriptEscaped s = s := by
  refine scriptEscaped_eq_self_of_notMem fun hback => ?_
  exact absurd (h '\\' hback) (by decide)

/-! ## Numbers -/

/-- The characters without a sign in front. -/
def dropSign : List Char → List Char
  | '+' :: cs => cs
  | '-' :: cs => cs
  | cs => cs

/-- Whether the character marks the beginning of an exponent. -/
def isExponentMark (c : Char) : Bool := c == 'e' || c == 'E'

/-- Digits, with a point among them or not. -/
def IsMantissa (cs : List Char) : Prop :=
  cs.all (fun c => c.isDigit || c == '.') = true ∧ cs.any Char.isDigit = true ∧ cs.count '.' ≤ 1

/-- Digits behind a mark, with or without a sign; or nothing at all. -/
def IsExponent : List Char → Prop
  | [] => True
  | c :: cs => isExponentMark c = true ∧ dropSign cs ≠ [] ∧ (dropSign cs).all Char.isDigit = true

/-- The text is a decimal number, with or without a sign, a point and an exponent. -/
def IsNumeral (text : String) : Prop :=
  IsMantissa ((dropSign text.toList).takeWhile (!isExponentMark ·)) ∧
    IsExponent ((dropSign text.toList).dropWhile (!isExponentMark ·))

instance (cs : List Char) : Decidable (IsMantissa cs) :=
  inferInstanceAs (Decidable (_ ∧ _ ∧ _))

instance : (cs : List Char) → Decidable (IsExponent cs)
  | [] => isTrue trivial
  | c :: cs => inferInstanceAs (Decidable (isExponentMark c = true ∧ dropSign cs ≠ [] ∧
      (dropSign cs).all Char.isDigit = true))

instance (text : String) : Decidable (IsNumeral text) :=
  inferInstanceAs (Decidable (_ ∧ _))

theorem only_of_dropSign {cs : List Char} (h : Only isWordLike (dropSign cs)) :
    Only isWordLike cs := by
  unfold dropSign at h
  split at h
  · exact h.cons rfl
  · exact h.cons rfl
  · exact h

theorem isWordLike_of_isDigit {c : Char} (h : c.isDigit = true) : isWordLike c = true := by
  have hword : isWordChar c = true :=
    isWordChar_of_isAlphanum (by rw [Char.isAlphanum, h, Bool.or_true])
  rw [isWordLike, hword, Bool.true_or]

theorem isWordLike_of_isExponentMark {c : Char} (h : isExponentMark c = true) :
    isWordLike c = true := by
  rcases Bool.or_eq_true_iff.mp h with h | h
  · rw [eq_of_beq h]; decide
  · rw [eq_of_beq h]; decide

theorem IsMantissa.only {cs : List Char} (h : IsMantissa cs) : Only isWordLike cs := by
  intro c hc
  rcases Bool.or_eq_true_iff.mp (List.all_eq_true.mp h.1 c hc) with hdigit | hpoint
  · exact isWordLike_of_isDigit hdigit
  · rw [eq_of_beq hpoint]; decide

theorem IsExponent.only {cs : List Char} (h : IsExponent cs) : Only isWordLike cs := by
  cases cs with
  | nil => exact only_nil
  | cons c cs =>
    obtain ⟨hmark, -, hdigits⟩ := h
    refine Only.cons (isWordLike_of_isExponentMark hmark) (only_of_dropSign fun d hd => ?_)
    exact isWordLike_of_isDigit (List.all_eq_true.mp hdigits d hd)

theorem IsNumeral.only {text : String} (h : IsNumeral text) : Only isWordLike text.toList := by
  refine only_of_dropSign ?_
  rw [← List.takeWhile_append_dropWhile (p := (!isExponentMark ·)) (l := dropSign text.toList)]
  exact h.1.only.append h.2.only

example : IsNumeral "-.5E+3" ∧ IsNumeral "7." ∧ ¬ IsNumeral "" ∧ ¬ IsNumeral "1e" ∧
    ¬ IsNumeral "1.2.3" := by decide

/-- A text is a number just if its escaped form is one. -/
theorem isNumeral_scriptEscaped_iff (s : String) : IsNumeral (scriptEscaped s) ↔ IsNumeral s := by
  constructor
  · intro h
    rwa [scriptEscaped_eq_self_of_isWordLike h.only] at h
  · intro h
    rwa [scriptEscaped_of_isWordLike h.only]

/-- A text between quotes, or something that the database evaluates. -/
def IsGuarded : DefaultValue → Prop
  | quoted _ | literal _ | function _ => True
  | _ => False

theorem Reading.numeral_iff {type : String} {elementType : Option String} {text : String}
    {d : DefaultValue} (hnumber : TypeFamily.isNumber type = true)
    (h : Reading type elementType (scriptEscaped text) d) :
    ((∀ t, d = raw t → IsNumeral t) ↔
        TypeFamily.isArray type = true ∨ contains "()" text = true ∨ IsNumeral text) ∧
      (d.IsGuarded ↔ TypeFamily.isArray type = false ∧ contains "()" text = true) := by
  cases h with
  | truth htruth =>
    rw [(apart_of_truth htruth).2.2] at hnumber
    cases hnumber
  | array harray => simp [IsGuarded, harray]
  | json _ hjson =>
    rw [beginsWith_eq_false (v := "json") (by decide) hnumber] at hjson
    cases hjson
  | identifier htype =>
    rw [htype] at hnumber
    exact absurd hnumber (by decide)
  | call htype hend =>
    have hcall := contains_of_endsInCall hend
    rw [contains_call_scriptEscaped] at hcall
    simp [IsGuarded, htype.noArray, hcall]
  | number htype _ hcall =>
    rw [contains_call_scriptEscaped] at hcall
    simp [IsGuarded, htype.noArray, hcall, isNumeral_scriptEscaped_iff]
  | expression htype _ hcall =>
    rw [contains_call_scriptEscaped] at hcall
    simp [IsGuarded, htype.noArray, hcall]
  | currentTime _ hother | text _ hother =>
    rw [hother] at hnumber
    cases hnumber

/-- **In a column for numbers a bare default is a number just if the text is one or has a call in
it, and only texts with a call are guarded.** Defaults of ranges are lists, whatever they are
ranges of. -/
theorem numeral_ofReported_iff {s : String} {sqlType : String} {elementType : Option String}
    {dialect : Dialect} {isSerial : Bool} {d : DefaultValue}
    (hnumber : TypeFamily.isNumber (lowercase sqlType) = true)
    (h : ofReported (some (.text s)) sqlType elementType dialect isSerial = some d) :
    ((∀ t, d = raw t → IsNumeral t) ↔ TypeFamily.isArray (lowercase sqlType) = true ∨
        contains "()" (stripBrackets s) = true ∨ IsNumeral (stripBrackets s)) ∧
      (d.IsGuarded ↔ TypeFamily.isArray (lowercase sqlType) = false ∧
        contains "()" (stripBrackets s) = true) :=
  (reading_of_ofReported h).numeral_iff hnumber

/-- A number in brackets, a call in a column for numbers, and the bounds of a range. -/
theorem numeral_ofReported_iff_bounds :
    (∃ d, ofReported (some (.text "((-1.5e+3))")) "DECIMAL(4,1)" none .mssql false = some d ∧
      d = raw "-1.5e+3" ∧ ∀ t, d = raw t → IsNumeral t) ∧
    (∃ d, ofReported (some (.text "nextval() + 1")) "bigint" none .postgres false = some d ∧
      d = literal "nextval() + 1" ∧ d.IsGuarded) ∧
    ∃ d, ofReported (some (.text "[1,10)")) "int4range" none .postgres false = some d ∧
      d = array "[1,10)" ∧ (∀ t, d = raw t → IsNumeral t) ∧ ¬ d.IsGuarded := by
  have hnumber : ofReported (some (.text "((-1.5e+3))")) "DECIMAL(4,1)" none .mssql false
      = some (raw "-1.5e+3") := by decide +kernel
  have hcall : ofReported (some (.text "nextval() + 1")) "bigint" none .postgres false
      = some (literal "nextval() + 1") := by decide +kernel
  have hrange : ofReported (some (.text "[1,10)")) "int4range" none .postgres false
      = some (array "[1,10)") := by decide +kernel
  refine ⟨⟨_, hnumber, rfl, ?_⟩, ⟨_, hcall, rfl, ?_⟩, ⟨_, hrange, rfl, ?_, ?_⟩⟩
  · refine (numeral_ofReported_iff (by decide +kernel) hnumber).1.mpr (.inr (.inr ?_))
    decide +kernel
  · exact (numeral_ofReported_iff (by decide +kernel) hcall).2.mpr (by decide +kernel)
  · exact (numeral_ofReported_iff (by decide +kernel) hrange).1.mpr (.inl (by decide +kernel))
  · exact mt (numeral_ofReported_iff (by decide +kernel) hrange).2.mp (by decide +kernel)

/-- A number that the database casts is written as the database does. -/
theorem not_isNumeral_cast : ∃ d,
    ofReported (some (.text "'-1'::integer")) "integer" none .postgres false = some d ∧
    TypeFamily.isNumber (lowercase "integer") = true ∧ d = raw "'-1'::integer" ∧
    ¬ IsNumeral "'-1'::integer" ∧ ¬ d.IsGuarded := by
  have hcast : ofReported (some (.text "'-1'::integer")) "integer" none .postgres false
      = some (raw "'-1'::integer") := by decide +kernel
  exact ⟨_, hcast, by decide +kernel, rfl, by decide +kernel, id⟩

/-! ## Calls -/

/-- Characters of words and points only. -/
def IsFunctionName (name : String) : Prop :=
  name.toList.all (fun c => isWordChar c || c == '.') = true

instance (name : String) : Decidable (IsFunctionName name) :=
  inferInstanceAs (Decidable (_ = true))

/-- The text is nothing but the call of a function without arguments. -/
def IsNamedCall (text : String) : Prop :=
  ∃ name, IsFunctionName name ∧ text = name ++ "()"

/-- The text ends in a character of a word, or in a control character, and `()`. -/
def EndsLikeCall (text : String) : Prop :=
  ∃ front c, text.toList = front ++ [c, '(', ')'] ∧ (isWordChar c = true ∨ isControl c = true)

theorem IsFunctionName.scriptEscaped_eq {name : String} (h : IsFunctionName name) :
    scriptEscaped name = name := by
  refine scriptEscaped_of_isWordLike fun c hc => ?_
  rcases Bool.or_eq_true_iff.mp (List.all_eq_true.mp h c hc) with hword | hpoint
  · rw [isWordLike, hword, Bool.true_or]
  · rw [eq_of_beq hpoint]; decide

/-- What a character is escaped to ends in a character of a word just if the character is one or a
control character. -/
theorem exists_concat_of_escapeForm {c : Char} {cs : List Char} (h : EscapeForm c cs) :
    ∃ front last, cs = front ++ [last] ∧
      (isWordChar last = true ↔ isWordChar c = true ∨ isControl c = true) := by
  cases h with
  | kept _ hcontrol => exact ⟨[], c, rfl, by simp [hcontrol]⟩
  | marked hself =>
    have hcontrol : isControl c = false := by
      rcases eq_of_marked hself with rfl | rfl | rfl <;> rfl
    exact ⟨['\\'], c, rfl, by simp [hcontrol]⟩
  | @coded hcontrol d ds hcode =>
    have hlast := List.dropLast_concat_getLast (List.cons_ne_nil d ds)
    refine ⟨'\\' :: (d :: ds).dropLast, (d :: ds).getLast (List.cons_ne_nil d ds), ?_, ?_⟩
    · rw [List.cons_append, hlast]
    · exact iff_of_true (isWordChar_of_isAlphanum (hcode _ (List.getLast_mem _))) (.inr hcontrol)

theorem endsInCall_iff {s : String} : endsInCall s = true ↔
    ∃ front c, s.toList = front ++ [c, '(', ')'] ∧ isWordChar c = true := by
  unfold endsInCall
  constructor
  · intro h
    split at h
    · next c rest hrev =>
      refine ⟨rest.reverse, c, ?_, h⟩
      rw [← List.reverse_reverse s.toList, hrev]
      simp
    · cases h
  · rintro ⟨front, c, hs, hc⟩
    rw [hs]
    simpa using hc

/-- **The escaped text ends in a call just if the text looks like one.** -/
theorem endsInCall_scriptEscaped_iff (s : String) :
    endsInCall (scriptEscaped s) = true ↔ EndsLikeCall s := by
  rw [endsInCall_iff, scriptEscaped, String.toList_ofList]
  constructor
  · rintro ⟨front, last, h, hlast⟩
    have hclose : s.toList.flatMap scriptChar = (front ++ [last, '(']) ++ [')'] := by
      rw [h, List.append_assoc]
      rfl
    obtain ⟨ds, hs, hds⟩ := eq_concat_of_flatMap rfl hclose
    have hopen : ds.flatMap scriptChar = (front ++ [last]) ++ ['('] := by
      rw [hds, List.append_assoc]
      rfl
    obtain ⟨es, rfl, hes⟩ := eq_concat_of_flatMap rfl hopen
    rcases List.eq_nil_or_concat es with rfl | ⟨init, c, rfl⟩
    · simp at hes
    -- the last character of the escaped text is that of what the last character became
    obtain ⟨before, last', hform, hword⟩ := exists_concat_of_escapeForm (escapeForm_scriptChar c)
    rw [List.concat_eq_append, List.flatMap_append, List.flatMap_singleton, hform,
      ← List.append_assoc] at hes
    obtain ⟨-, hsame⟩ := List.append_inj' hes rfl
    refine ⟨init, c, ?_, hword.mp ?_⟩
    · rw [hs, List.concat_eq_append]
      simp
    · rw [List.singleton_inj.mp hsame]
      exact hlast
  · rintro ⟨front, c, h, hc⟩
    obtain ⟨before, last, hform, hlast⟩ := exists_concat_of_escapeForm (escapeForm_scriptChar c)
    have hcall : [c, '(', ')'].flatMap scriptChar = before ++ [last, '(', ')'] := by
      rw [List.flatMap_cons, hform, List.append_assoc]
      rfl
    refine ⟨front.flatMap scriptChar ++ before, last, ?_, hlast.mpr hc⟩
    rw [h, List.flatMap_append, hcall, List.append_assoc]

/-- The name that is read off the end of a text is a name just if the text is nothing but a call. -/
theorem isFunctionName_dropCalls_iff {text : String}
    (hend : endsInCall (scriptEscaped text) = true) :
    (IsFunctionName (dropCalls (scriptEscaped text)) ∧
      text = dropCalls (scriptEscaped text) ++ "()") ↔ IsNamedCall text := by
  obtain ⟨name, htext, hname⟩ := exists_name_of_endsInCall hend
  rw [hname]
  constructor
  · rintro ⟨hfunction, heq⟩
    exact ⟨scriptEscaped name, hfunction, heq⟩
  · rintro ⟨other, hother, heq⟩
    obtain rfl : other = name := by
      rw [htext, ← String.toList_inj, String.toList_append, String.toList_append] at heq
      exact String.toList_inj.mp (List.append_cancel_right heq).symm
    rw [hother.scriptEscaped_eq]
    exact ⟨hother, htext⟩

theorem Reading.of_function {type : String} {elementType : Option String} {s name : String}
    (h : Reading type elementType s (function name)) :
    IsScalar type ∧ endsInCall s = true ∧ name = dropCalls s := by
  cases h with
  | call htype hend => exact ⟨htype, hend, rfl⟩

/-- A text of a scalar type that ends in a call is read as one, unless it makes an identifier. -/
theorem Reading.of_endsInCall {type : String} {elementType : Option String} {s : String}
    {d : DefaultValue} (h : Reading type elementType s d) (htype : IsScalar type)
    (hend : endsInCall s = true) :
    d = function (dropCalls s) ∨ s = "gen_random_uuid()" ∨ s = "uuid_generate_v4()" := by
  cases h with
  | truth hother => exact absurd (htype.noTruth.symm.trans hother) Bool.false_ne_true
  | array hother => exact absurd (htype.noArray.symm.trans hother) Bool.false_ne_true
  | json _ hother => exact absurd (htype.noJson.symm.trans hother) Bool.false_ne_true
  | identifier _ hname => exact .inr hname
  | call => exact .inl rfl
  | number _ _ hcall | currentTime _ _ hcall | text _ _ hcall =>
    rw [contains_of_endsInCall hend] at hcall
    cases hcall
  | expression _ hnone =>
    rw [hend] at hnone
    cases hnone

/-- The calls that make an identifier are named. -/
theorem isNamedCall_of_identifier {text : String}
    (h : scriptEscaped text = "gen_random_uuid()" ∨ scriptEscaped text = "uuid_generate_v4()") :
    IsNamedCall text := by
  have hplain : '\\' ∉ (scriptEscaped text).toList := by
    rcases h with h | h <;> rw [h] <;> decide
  rw [scriptEscaped_eq_self_of_notMem hplain] at h
  rcases h with rfl | rfl
  · exact ⟨"gen_random_uuid", by decide, by decide⟩
  · exact ⟨"uuid_generate_v4", by decide, by decide⟩

theorem Reading.function_iff {type : String} {elementType : Option String} {text : String}
    {d : DefaultValue} (h : Reading type elementType (scriptEscaped text) d) :
    (∀ name, d = function name → IsFunctionName name ∧ text = name ++ "()") ↔
      (IsScalar type → EndsLikeCall text → IsNamedCall text) := by
  rw [← endsInCall_scriptEscaped_iff]
  constructor
  · intro hnames htype hend
    rcases h.of_endsInCall htype hend with hcall | hname
    · exact (isFunctionName_dropCalls_iff hend).mp (hnames _ hcall)
    · exact isNamedCall_of_identifier hname
  · rintro hnamed name rfl
    obtain ⟨htype, hend, rfl⟩ := h.of_function
    exact (isFunctionName_dropCalls_iff hend).mpr (hnamed htype hend)

/-- **A default is declared as the call of a function of some name just if the text is nothing but
such a call**, apart from texts that do not end like a call, and types whose defaults are not read
that way. -/
theorem function_ofReported_iff {s : String} {sqlType : String} {elementType : Option String}
    {dialect : Dialect} {isSerial : Bool} {d : DefaultValue}
    (h : ofReported (some (.text s)) sqlType elementType dialect isSerial = some d) :
    (∀ name, d = function name → IsFunctionName name ∧ stripBrackets s = name ++ "()") ↔
      (IsScalar (lowercase sqlType) → EndsLikeCall (stripBrackets s) →
        IsNamedCall (stripBrackets s)) :=
  (reading_of_ofReported h).function_iff

/-- A call of a function in a schema. -/
theorem function_ofReported_iff_dotted : ∃ d,
    ofReported (some (.text "(app.next_number())")) "integer" none .postgres false = some d ∧
    d = function "app.next_number" ∧ ∀ name, d = function name →
      IsFunctionName name ∧ stripBrackets "(app.next_number())" = name ++ "()" := by
  have hcall : ofReported (some (.text "(app.next_number())")) "integer" none .postgres false
      = some (function "app.next_number") := by decide +kernel
  refine ⟨_, hcall, rfl, (function_ofReported_iff hcall).mpr fun _ _ => ?_⟩
  exact ⟨"app.next_number", by decide +kernel, by decide +kernel⟩

/-- A product that ends in a call is taken for a function of the name `10 * random`. -/
theorem not_isFunctionName_product : ∃ d,
    ofReported (some (.text "10 * random()")) "integer" none .postgres false = some d ∧
    d = function "10 * random" ∧ ¬ IsFunctionName "10 * random" := by
  have hproduct : ofReported (some (.text "10 * random()")) "integer" none .postgres false
      = some (function "10 * random") := by decide +kernel
  exact ⟨_, hproduct, rfl, by decide +kernel⟩

end SchemaModels.DefaultValue
