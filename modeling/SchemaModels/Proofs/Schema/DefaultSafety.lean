import SchemaModels.Proofs.Schema.DefaultMeaning
import SchemaModels.Proofs.Schema.Texts
import SchemaModels.Proofs.Script.QuoteScan

/-!
# Safety of defaults

Two things that a default must not bring into the code, whatever the database reports: a quote
that opens a literal for the rest of the module, and a control character.

Quotes are safe wherever a reading puts the escaped text between quotes: as a text, as an element
of an array of texts, and as the argument of a call. They are not where the escaped text is written
bare (`IsWrittenBare`): a backslash protects nothing in plain code. Such a default closes what it
opens just if the quotes of the text pair up (`closesQuotes_ofReported_iff`).

Control characters are never written (`controlFree_ofReported`). Escaping replaces them by letters
and digits, and every cut of a reading only takes characters away. JSON text, which is not escaped,
has escapes of its own for those below U+0020, but keeps U+007F to U+009F.
-/

namespace SchemaModels.DefaultValue

open Text Script

/-! ## Quotes -/

/-- The text of a default is written without quotes around it: in a column for JSON, in an array
that does not hold texts, and, if there is no call in it, in a column for numbers. -/
def IsWrittenBare (type : String) (elementType : Option String) (text : String) : Prop :=
  if TypeFamily.isArray type = true then
    TypeFamily.isString (lowercase (elementType.getD "")) = false
  else beginsWith "json" type = true ∨
    TypeFamily.isNumber type = true ∧ contains "()" text = false

instance (type : String) (elementType : Option String) (text : String) :
    Decidable (IsWrittenBare type elementType text) := by
  unfold IsWrittenBare
  infer_instance

/-- The braces at the ends of a text do not matter to its quotes. -/
theorem closesQuotes_dropBraces_iff (s : String) :
    ClosesQuotes (dropBraces s) ↔ ClosesQuotes s := by
  have hopen : QuoteScan.outside.run (dropOpeningBrace s.toList)
      = QuoteScan.outside.run s.toList := by
    rcases dropOpeningBrace_cases s.toList with h | ⟨h, -⟩
    · rw [h]
      rfl
    · rw [h]
  rw [ClosesQuotes, ClosesQuotes, toList_dropBraces, ← hopen]
  rcases dropClosingBrace_cases (dropOpeningBrace s.toList) with h | ⟨h, -⟩
  · rw [h, dropClosingBrace_concat, QuoteScan.run_append]
    exact (QuoteScan.step_eq_outside_iff rfl).symm
  · rw [h]

/-- A call with an escaped text between single quotes as its argument. -/
theorem closesQuotes_callOf {callee : String} (h : IsQuoteFree callee) (s : String) :
    ClosesQuotes (callee ++ "('" ++ backslashBefore '\'' (scriptEscaped s) ++ "')") := by
  rw [← callOf_single, callOf]
  exact (closesQuotes_wrapped_iff (h.append (by decide)) (by decide)).mpr
    (closesQuotes_between .single s)

theorem closesQuotes_literal (s : String) : ClosesQuotes (literal (scriptEscaped s)).render := by
  have hcallee : IsQuoteFree "Sequelize.Sequelize.literal" := by decide
  exact closesQuotes_callOf hcallee s

theorem closesQuotes_function {s : String} (h : endsInCall (scriptEscaped s) = true) :
    ClosesQuotes (function (dropCalls (scriptEscaped s))).render := by
  obtain ⟨name, -, hname⟩ := exists_name_of_endsInCall h
  have hcallee : IsQuoteFree "Sequelize.Sequelize.fn" := by decide
  rw [hname]
  exact closesQuotes_callOf hcallee name

/-- The elements of an array of texts are quoted one by one. -/
theorem closesQuotes_array_of_isString {elementType : Option String}
    (h : TypeFamily.isString (lowercase (elementType.getD "")) = true) (s : String) :
    ClosesQuotes (array (arrayItems elementType (scriptEscaped s))).render := by
  refine (closesQuotes_wrapped_iff (by decide) (by decide)).mpr ?_
  rw [arrayItems_scriptEscaped h]
  split
  · decide
  · refine closesQuotes_intercalate (by decide) fun item hitem => ?_
    obtain ⟨piece, -, rfl⟩ := List.mem_map.mp hitem
    exact closesQuotes_between .double piece

/-- The elements of any other array are written as they are. -/
theorem closesQuotes_array_iff {elementType : Option String}
    (h : TypeFamily.isString (lowercase (elementType.getD "")) = false) (s : String) :
    ClosesQuotes (array (arrayItems elementType (scriptEscaped s))).render ↔ PairsQuotes s := by
  have hitems : arrayItems elementType (scriptEscaped s) = dropBraces (scriptEscaped s) := by
    unfold arrayItems
    dsimp only
    rw [h, Bool.and_false]
    rfl
  have hframe : ClosesQuotes (array (dropBraces (scriptEscaped s))).render ↔
      ClosesQuotes (dropBraces (scriptEscaped s)) :=
    closesQuotes_wrapped_iff (by decide) (by decide)
  rw [hitems, hframe, closesQuotes_dropBraces_iff, closesQuotes_scriptEscaped_iff]

theorem not_isWrittenBare_of_truth {type : String} (h : truthTypes.contains type = true)
    (elementType : Option String) (text : String) : ¬ IsWrittenBare type elementType text := by
  obtain ⟨harray, hjson, hnumber⟩ := apart_of_truth h
  simp [IsWrittenBare, harray, hjson, hnumber]

/-- Among the types of single values, only numbers are written bare. -/
theorem IsScalar.isWrittenBare_iff {type : String} (htype : IsScalar type)
    (elementType : Option String) (text : String) : IsWrittenBare type elementType text ↔
      TypeFamily.isNumber type = true ∧ contains "()" text = false := by
  simp [IsWrittenBare, htype.noArray, htype.noJson]

theorem Reading.closesQuotes_render_iff {type : String} {elementType : Option String}
    {text : String} {d : DefaultValue} (h : Reading type elementType (scriptEscaped text) d) :
    ClosesQuotes d.render ↔ (IsWrittenBare type elementType text → PairsQuotes text) := by
  have hsafe : ClosesQuotes d.render → ¬ IsWrittenBare type elementType text →
      (ClosesQuotes d.render ↔ (IsWrittenBare type elementType text → PairsQuotes text)) :=
    fun hcloses hquoted => iff_of_true hcloses fun hbare => absurd hbare hquoted
  cases h with
  | truth htruth =>
    refine hsafe ?_ (not_isWrittenBare_of_truth htruth elementType text)
    cases isTruthy (scriptEscaped text) <;> decide
  | array harray =>
    rw [IsWrittenBare, if_pos harray]
    cases helements : TypeFamily.isString (lowercase (elementType.getD "")) with
    | true => exact iff_of_true (closesQuotes_array_of_isString helements text) (by simp)
    | false => rw [closesQuotes_array_iff helements, forall_prop_of_true rfl]
  | json harray hjson =>
    have hbare : IsWrittenBare type elementType text := by simp [IsWrittenBare, harray, hjson]
    rw [imp_iff_right hbare]
    exact closesQuotes_scriptEscaped_iff text
  | identifier htype =>
    have hscalar : IsScalar "uuid" := by decide
    have hnumber : TypeFamily.isNumber "uuid" = false := by decide
    refine hsafe (by decide) ?_
    rw [htype, hscalar.isWrittenBare_iff, hnumber]
    simp
  | call htype hend =>
    refine hsafe (closesQuotes_function hend) ?_
    rw [htype.isWrittenBare_iff, ← contains_call_scriptEscaped, contains_of_endsInCall hend]
    simp
  | number htype hnumber hcall =>
    rw [contains_call_scriptEscaped] at hcall
    rw [htype.isWrittenBare_iff, imp_iff_right ⟨hnumber, hcall⟩]
    exact closesQuotes_scriptEscaped_iff text
  | expression htype _ hcall =>
    refine hsafe (closesQuotes_literal text) ?_
    rw [htype.isWrittenBare_iff, ← contains_call_scriptEscaped, hcall]
    simp
  | currentTime htype hnumber =>
    refine hsafe (closesQuotes_literal text) ?_
    rw [htype.isWrittenBare_iff, hnumber]
    simp
  | text htype hnumber =>
    refine hsafe (closesQuotes_between .double text) ?_
    rw [htype.isWrittenBare_iff, hnumber]
    simp

/-- **A default for a text closes its literals just if the quotes of the text pair up or are not
written bare.** -/
theorem closesQuotes_ofReported_iff {s : String} {sqlType : String} {elementType : Option String}
    {dialect : Dialect} {isSerial : Bool} {d : DefaultValue}
    (h : ofReported (some (.text s)) sqlType elementType dialect isSerial = some d) :
    ClosesQuotes d.render ↔
      (IsWrittenBare (lowercase sqlType) elementType (stripBrackets s) →
        PairsQuotes (stripBrackets s)) :=
  (reading_of_ofReported h).closesQuotes_render_iff

/-- In single quotes, the quotes of JSON text are between those of the text. -/
theorem closesQuotes_ofReported_iff_json : ∃ d,
    ofReported (some (.text "('\x7b\"a\":1\x7d'::jsonb)")) "JSONB" none .postgres false = some d ∧
    d = raw "'\x7b\\\"a\\\":1\x7d'::jsonb" ∧
    (ClosesQuotes d.render ↔
      (IsWrittenBare (lowercase "JSONB") none (stripBrackets "('\x7b\"a\":1\x7d'::jsonb)") →
        PairsQuotes (stripBrackets "('\x7b\"a\":1\x7d'::jsonb)"))) ∧
    PairsQuotes (stripBrackets "('\x7b\"a\":1\x7d'::jsonb)") := by
  have hjson : ofReported (some (.text "('\x7b\"a\":1\x7d'::jsonb)")) "JSONB" none .postgres false
      = some (raw "'\x7b\\\"a\\\":1\x7d'::jsonb") := by decide +kernel
  exact ⟨_, hjson, rfl, closesQuotes_ofReported_iff hjson, by decide +kernel⟩

/-- Without them, the second quote of the text is behind a backslash and closes nothing. -/
theorem not_closesQuotes_json : ∃ d,
    ofReported (some (.text "\x7b\"a\": 1\x7d")) "json" none .mysql false = some d ∧
    d.render = "\x7b\\\"a\\\": 1\x7d" ∧ ¬ ClosesQuotes d.render := by
  have hjson : ofReported (some (.text "\x7b\"a\": 1\x7d")) "json" none .mysql false
      = some (raw "\x7b\\\"a\\\": 1\x7d") := by decide +kernel
  exact ⟨_, hjson, rfl, by decide +kernel⟩

/-! ## Control characters -/

/-- A character from U+0020 on. -/
def isAboveControls (c : Char) : Bool := 0x20 ≤ c.toNat

theorem isAboveControls_of_isControl {c : Char} (h : isControl c = false) :
    isAboveControls c = true := by
  simp only [isControl, Bool.or_eq_false_iff, decide_eq_false_iff_not, Nat.not_lt] at h
  exact decide_eq_true h.1

/-- The expression for a text has no control characters: escaping has left none. -/
theorem only_render_of_text {s : String} {sqlType : String} {elementType : Option String}
    {dialect : Dialect} {isSerial : Bool} {d : DefaultValue}
    (h : ofReported (some (.text s)) sqlType elementType dialect isSerial = some d) :
    Only (fun c => !isControl c) d.render.toList := by
  have hescaped : Only (fun c => !isControl c) (scriptEscaped (stripBrackets s)).toList :=
    only_scriptEscaped (List.all_eq_true.mp (by decide)) fun c _ hc => by rw [hc]; rfl
  exact (reading_of_ofReported h).only_render (List.all_eq_true.mp (by decide)) hescaped

/-- A value that is no text is written as it is. -/
theorem eq_raw_of_ofReported {v : Value} {sqlType : String} {elementType : Option String}
    {dialect : Dialect} {isSerial : Bool} {d : DefaultValue}
    (h : ofReported (some v) sqlType elementType dialect isSerial = some d)
    (hv : ∀ s, v ≠ .text s) : d = raw v.display := by
  unfold ofReported at h
  dsimp only at h
  split at h
  · cases h
  · cases v with
    | text s => exact absurd rfl (hv s)
    | bool | int | float | json => exact (Option.some.inj h).symm

/-- A value that is no text is written without characters below U+0020. -/
theorem only_display_of_ne_text {v : Value} (h : ∀ s, v ≠ .text s) :
    Only isAboveControls v.display.toList := by
  refine Value.only_display (List.all_eq_true.mp (by decide)) (fun s hs => absurd hs (h s)) ?_
  exact fun s _ => only_jsonQuoted (List.all_eq_true.mp (by decide)) rfl
    fun c _ hc => decide_eq_true hc

/-- **A default brings no control character below U+0020 into the code, and one for a text brings
none at all.** -/
theorem controlFree_ofReported {reported : Option Value} {sqlType : String}
    {elementType : Option String} {dialect : Dialect} {isSerial : Bool} {d : DefaultValue}
    (h : ofReported reported sqlType elementType dialect isSerial = some d) :
    (∀ c ∈ d.render.toList, 0x20 ≤ c.toNat) ∧
      ((∃ s, reported = some (.text s)) → ∀ c ∈ d.render.toList, isControl c = false) := by
  have htext : (∃ s, reported = some (.text s)) → ∀ c ∈ d.render.toList, isControl c = false := by
    rintro ⟨s, rfl⟩ c hc
    have hnone := only_render_of_text h c hc
    simpa using hnone
  refine ⟨fun c hc => ?_, htext⟩
  by_cases hs : ∃ s, reported = some (.text s)
  · exact of_decide_eq_true (isAboveControls_of_isControl (htext hs c hc))
  cases reported with
  | none => cases h
  | some v =>
    have hv : ∀ s, v ≠ .text s := fun s heq => hs ⟨s, by rw [heq]⟩
    rw [eq_raw_of_ofReported h hv] at hc
    exact of_decide_eq_true (only_display_of_ne_text hv c hc)

/-- A line feed and a U+007F in an array of texts and in a JSON value: the latter keeps U+007F. -/
theorem controlFree_ofReported_delete :
    (∃ d, ofReported (some (.text "\x7ba\n,\x7f\x7d")) "array" (some "text") .postgres false
        = some d ∧
      d = array "\"a\\n\",\"\\u007f\"" ∧ ∀ c ∈ d.render.toList, isControl c = false) ∧
    ∃ d, ofReported (some (.json (.arr [.str "\n\x7f"]))) "json" none .mysql false = some d ∧
      d = raw "[\"\\n\x7f\"]" ∧ (∀ c ∈ d.render.toList, 0x20 ≤ c.toNat) ∧
      ∃ c ∈ d.render.toList, isControl c = true := by
  have htext : ofReported (some (.text "\x7ba\n,\x7f\x7d")) "array" (some "text") .postgres false
      = some (array "\"a\\n\",\"\\u007f\"") := by decide +kernel
  have hjson : ofReported (some (.json (.arr [.str "\n\x7f"]))) "json" none .mysql false
      = some (raw "[\"\\n\x7f\"]") := by decide +kernel
  exact ⟨⟨_, htext, rfl, (controlFree_ofReported htext).2 ⟨_, rfl⟩⟩,
    ⟨_, hjson, rfl, (controlFree_ofReported hjson).1, List.any_eq_true.mp (by decide +kernel)⟩⟩

end SchemaModels.DefaultValue
