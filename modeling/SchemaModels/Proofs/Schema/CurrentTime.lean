import SchemaModels.Proofs.Schema.DefaultReadings
import SchemaModels.Proofs.Schema.DefaultText
import SchemaModels.Proofs.Text.AsciiCase

/-!
# The current time as a default

A word for the current time stays an expression for the database in a column for times, in whatever
case it is reported and however many brackets stand around it. With a precision behind it the text
is no longer one of the words, so that it becomes a plain text; with empty brackets it is the call
of a function. `currentTime_ofReported_iff` has all three cases.

Nothing in such a text is escaped, and its first character is a letter, so that the brackets around
it go and those of the precision stay (`stripBrackets_scriptEscaped_bracketed`). What is left are
the last branches of `ofText`: those for a type of times (`ofText_of_isTime`).
-/

namespace SchemaModels.DefaultValue

open Text TypeFamily

/-- A text between so many brackets. -/
def bracketed (depth : Nat) (s : String) : String :=
  String.ofList (List.replicate depth '(' ++ s.toList ++ List.replicate depth ')')

/-- A word for the current time with the precision of its seconds behind it, if it has one. -/
def currentTimeText (word : String) : (precision : Option String) → String
  | none => word
  | some digits => word ++ ("(" ++ digits ++ ")")

/-! ## Columns for times -/

/-- The type of a column for times, in lower case: it begins like one and is not a range. -/
structure IsTime (type : String) : Prop where
  begins : beginsWithAny ["date", "timestamp"] type = true
  noRange : endsWith "range" type = false

instance (type : String) : Decidable (IsTime type) :=
  decidable_of_iff (beginsWithAny ["date", "timestamp"] type = true ∧
    endsWith "range" type = false) ⟨fun h => ⟨h.1, h.2⟩, fun h => ⟨h.begins, h.noRange⟩⟩

theorem IsTime.isScalar {type : String} (h : IsTime type) : IsScalar type where
  noTruth := by
    have hwords : ∀ t ∈ truthTypes, beginsWithAny ["date", "timestamp"] t = false := by decide
    rw [Bool.eq_false_iff]
    intro htruth
    have hno := hwords type (List.contains_iff_mem.mp htruth)
    rw [h.begins] at hno
    cases hno
  noArray := Bool.or_eq_false_iff.mpr ⟨beginsWith_eq_false (by decide) h.begins, h.noRange⟩
  noJson := beginsWith_eq_false (by decide) h.begins

/-- A text in a column for times is a call, an expression for the database, or a plain text. -/
theorem ofText_of_isTime {type : String} (h : IsTime type) (elementType : Option String)
    (s : String) : ofText type elementType s = if endsInCall s then function (dropCalls s)
      else if contains "()" s || currentTimeWords.contains (lowercase s) then literal s
      else quoted s := by
  have hnumber : isNumber type = false := beginsWithAny_eq_false (by decide) h.begins
  have huuid : type ≠ "uuid" := by
    rintro rfl
    exact absurd h.begins (by decide)
  have htime : (beginsWith "date" type || beginsWith "timestamp" type) = true := by
    have hbegins := h.begins
    rwa [beginsWithAny, List.any_cons, List.any_cons, List.any_nil, Bool.or_false] at hbegins
  have htruth : ["bit(1)", "bit", "boolean"].contains type = false := h.isScalar.noTruth
  rw [ofText, htruth, h.isScalar.noArray, h.isScalar.noJson, hnumber, htime]
  cases endsInCall s <;> cases contains "()" s <;> simp [huuid]

/-! ## Words for the current time -/

/-- The text is a word for the current time, up to the case of its letters. -/
def IsCurrentTimeWord (word : String) : Prop :=
  ∃ k ∈ currentTimeWords, eqIgnoringAsciiCase word k = true

instance (word : String) : Decidable (IsCurrentTimeWord word) :=
  inferInstanceAs (Decidable (∃ k ∈ currentTimeWords, _))

theorem IsCurrentTimeWord.only_isAscii {word : String} (h : IsCurrentTimeWord word) :
    Only isAscii word.toList := by
  obtain ⟨k, hk, hword⟩ := h
  have hwords : ∀ k ∈ currentTimeWords, k.toList.all isAscii = true := by decide
  have hlower : ∀ k ∈ currentTimeWords, k.toList.map Char.toLower = k.toList := by decide
  refine only_isAscii_of_map_toLower (List.all_eq_true.mp (hwords k hk)) ?_
  rw [← hlower k hk]
  exact eq_of_beq hword

theorem IsCurrentTimeWord.lowercase_mem {word : String} (h : IsCurrentTimeWord word) :
    lowercase word ∈ currentTimeWords := by
  have hascii := h.only_isAscii
  obtain ⟨k, hk, hword⟩ := h
  have hlower : ∀ k ∈ currentTimeWords, k.toList.map Char.toLower = k.toList := by decide
  have hsame : lowercase word = k := by
    rw [← String.toList_inj, toList_lowercase_of_ascii hascii, eq_of_beq hword, hlower k hk]
  exact hsame ▸ hk

/-- Such a word is made of letters and underscores. -/
theorem IsCurrentTimeWord.isWord {word : String} (h : IsCurrentTimeWord word) : IsWord word := by
  have hwords : ∀ k ∈ currentTimeWords, k.toList.all isWordByte = true := by decide
  intro c hc
  have hlower : c.toLower ∈ (lowercase word).toList := by
    rw [toList_lowercase_of_ascii h.only_isAscii]
    exact List.mem_map_of_mem hc
  have hbyte := List.all_eq_true.mp (hwords _ h.lowercase_mem) _ hlower
  refine forall_isAscii (p := fun c => isWordByte c.toLower = true → isWordByte c = true) ?_
    (h.only_isAscii c hc) hbyte
  decide

theorem IsCurrentTimeWord.ne_nil {word : String} (h : IsCurrentTimeWord word) :
    word.toList ≠ [] := by
  have hwords : ∀ k ∈ currentTimeWords, k.toList ≠ [] := by decide
  intro hnil
  apply hwords _ h.lowercase_mem
  rw [toList_lowercase_of_ascii h.only_isAscii, hnil]
  rfl

/-! ## The text without its brackets -/

/-- A text of characters that are not escaped, in brackets, is left if it begins with no bracket. -/
theorem stripBrackets_scriptEscaped_bracketed {s : String} (hself : scriptEscaped s = s)
    (hs : s.toList.head? ≠ some '(') (depth : Nat) :
    stripBrackets (scriptEscaped (bracketed depth s)) = s := by
  have hmid : ¬ ∃ cs, s.toList = '(' :: (cs ++ [')']) := by
    rintro ⟨cs, hcs⟩
    rw [hcs] at hs
    exact hs rfl
  have hlength : depth ≤ (bracketed depth s).length := by
    rw [← String.length_toList, bracketed, String.toList_ofList]
    simp only [List.length_append, List.length_replicate]
    omega
  have hchars : (bracketed depth s).toList
      = List.replicate depth '(' ++ s.toList ++ List.replicate depth ')' := String.toList_ofList
  rw [stripBrackets_scriptEscaped, stripBrackets, hchars,
    stripBracketsUpTo_replicate hmid depth _ hlength, String.ofList_toList, hself]

theorem isWordByte_of_isDigit {c : Char} (h : c.isDigit = true) : isWordByte c = true := by
  rw [isWordByte, Char.isAlphanum, h, Bool.or_true, Bool.true_or]

/-- A word has no bracket. -/
theorem notMem_of_isWordByte {cs : List Char} (h : ∀ c ∈ cs, isWordByte c = true) : '(' ∉ cs :=
  fun hmem => absurd (h '(' hmem) (by decide)

section

variable {word : String} (hword : IsCurrentTimeWord word) {precision : Option String}
  (hdigits : ∀ digits ∈ precision, ∀ c ∈ digits.toList, c.isDigit = true)

include hword hdigits

theorem scriptEscaped_currentTimeText :
    scriptEscaped (currentTimeText word precision) = currentTimeText word precision := by
  refine Script.scriptEscaped_eq_self fun c hc => ?_
  cases precision with
  | none => exact scriptChar_of_isWordByte (hword.isWord c hc)
  | some digits =>
    simp only [currentTimeText, String.toList_append, List.mem_append] at hc
    rcases hc with hc | (hc | hc) | hc
    · exact scriptChar_of_isWordByte (hword.isWord c hc)
    · rw [List.mem_singleton.mp hc]; decide
    · exact scriptChar_of_isWordByte (isWordByte_of_isDigit (hdigits digits rfl c hc))
    · rw [List.mem_singleton.mp hc]; decide

omit hdigits in
theorem head?_currentTimeText : (currentTimeText word precision).toList.head? ≠ some '(' := by
  obtain ⟨c, cs, hcs⟩ := List.exists_cons_of_ne_nil hword.ne_nil
  have hc : c ≠ '(' := by
    rintro rfl
    exact notMem_of_isWordByte hword.isWord (hcs ▸ List.mem_cons_self)
  cases precision with
  | none => simpa [currentTimeText, hcs] using hc
  | some digits => simpa [currentTimeText, hcs] using hc

omit hdigits in
/-- It is not one of the texts that stand for no default: they have no `t`. -/
theorem meansNone_currentTimeText (depth : Nat) (dialect : Dialect) :
    meansNone dialect (.text (bracketed depth (currentTimeText word precision))) = false := by
  have hwords : ∀ k ∈ currentTimeWords, 't' ∈ k.toList := by decide
  have hnone : ∀ cs ∈ ["(newid())".toList, "(null)".toList, "null".toList], 't' ∉ cs := by decide
  have hlower : 't' ∈ word.toList.map Char.toLower := by
    rw [← toList_lowercase_of_ascii hword.only_isAscii]
    exact hwords _ hword.lowercase_mem
  have hsub : word.toList ⊆ (bracketed depth (currentTimeText word precision)).toList := by
    intro c hc
    rw [bracketed, String.toList_ofList]
    refine List.mem_append_left _ (List.mem_append_right _ ?_)
    cases precision with
    | none => exact hc
    | some digits =>
      rw [currentTimeText, String.toList_append]
      exact List.mem_append_left _ hc
  rw [Bool.eq_false_iff]
  intro h
  exact hnone _ (map_toLower_of_meansNone h) (List.map_subset _ hsub hlower)

/-- What is declared for such a text in a column for times. -/
theorem ofReported_currentTimeText {sqlType : String} (depth : Nat)
    (elementType : Option String) (dialect : Dialect) :
    ofReported (some (.text (bracketed depth (currentTimeText word precision)))) sqlType
        elementType dialect false
      = some (ofText (lowercase sqlType) elementType (currentTimeText word precision)) := by
  have hstrip := stripBrackets_scriptEscaped_bracketed
    (scriptEscaped_currentTimeText hword hdigits) (head?_currentTimeText hword) depth
  rw [ofReported, meansNone_currentTimeText hword, hstrip]
  rfl

end

/-! ## The three readings -/

section

variable {word : String} (hword : IsCurrentTimeWord word)

include hword

theorem ofText_currentTimeWord {type : String} (h : IsTime type) (elementType : Option String) :
    ofText type elementType word = literal word := by
  have hcall : contains "()" word = false := by
    rw [Bool.eq_false_iff]
    intro hcall
    exact notMem_of_isWordByte hword.isWord ((contains_iff.mp hcall).subset (by decide))
  have hend : endsInCall word = false :=
    Bool.eq_false_iff.mpr fun hend => Bool.eq_false_iff.mp hcall (contains_of_endsInCall hend)
  have hlower : currentTimeWords.contains (lowercase word) = true :=
    List.contains_iff_mem.mpr hword.lowercase_mem
  rw [ofText_of_isTime h, hend, hcall, hlower]
  rfl

/-- With empty brackets behind it the word is the name of a function. -/
theorem ofText_currentTimeCall {type : String} (h : IsTime type) (elementType : Option String) :
    ofText type elementType (word ++ "()") = function word := by
  obtain ⟨front, last, hlast⟩ :=
    (List.eq_nil_or_concat word.toList).resolve_left hword.ne_nil
  have hwordChar : isWordChar last = true := by
    have hbyte : isWordByte last = true := hword.isWord last (by rw [hlast]; simp)
    exact forall_isAscii (p := fun c => isWordByte c = true → isWordChar c = true) (by decide)
      (isAscii_of_isWordByte hbyte) hbyte
  have hend : endsInCall (word ++ "()") = true := by
    refine endsInCall_iff.mpr ⟨front, last, ?_, hwordChar⟩
    rw [String.toList_append, hlast]
    simp
  have hname : dropCalls (word ++ "()") = word := by
    have hcut := exists_eq_append_of_endsInCall hend
    rw [← String.toList_inj, String.toList_append, String.toList_append] at hcut
    exact String.toList_inj.mp (List.append_cancel_right hcut).symm
  rw [ofText_of_isTime h, hend, hname]
  rfl

/-- With a precision behind it the word is no longer looked for. -/
theorem ofText_currentTimePrecision {type : String} (h : IsTime type)
    (elementType : Option String) {digits : String}
    (hdigits : ∀ c ∈ digits.toList, c.isDigit = true) (hne : digits ≠ "") :
    ofText type elementType (word ++ ("(" ++ digits ++ ")"))
      = quoted (word ++ ("(" ++ digits ++ ")")) := by
  have hbytes : ∀ c ∈ digits.toList, isWordByte c = true :=
    fun c hc => isWordByte_of_isDigit (hdigits c hc)
  have hchars : (word ++ ("(" ++ digits ++ ")")).toList
      = word.toList ++ '(' :: (digits.toList ++ [')']) := by
    simp [String.toList_append]
  obtain ⟨d, ds, hds⟩ := List.exists_cons_of_ne_nil fun hnil => hne (String.toList_inj.mp hnil)
  have hcall : contains "()" (word ++ ("(" ++ digits ++ ")")) = false := by
    have hno : '(' ∉ digits.toList ++ [')'] := by
      simpa using notMem_of_isWordByte hbytes
    have hfirst : (')' == d) = false := by
      rw [beq_eq_false_iff_ne]
      rintro rfl
      exact absurd (hbytes ')' (hds ▸ List.mem_cons_self)) (by decide)
    have hrest : occurs ['(', ')'] (digits.toList ++ [')']) = false := by
      rw [← List.append_nil (digits.toList ++ [')']), occurs_append_of_head_notMem [] hno]
      rfl
    have hparts : "()".toList = ['(', ')'] := rfl
    rw [contains, hchars, hparts,
      occurs_append_of_head_notMem _ (notMem_of_isWordByte hword.isWord), occurs, hrest, hds]
    simp [List.isPrefixOf, hfirst]
  have hend : endsInCall (word ++ ("(" ++ digits ++ ")")) = false :=
    Bool.eq_false_iff.mpr fun hend => Bool.eq_false_iff.mp hcall (contains_of_endsInCall hend)
  have hnoWord :
      currentTimeWords.contains (lowercase (word ++ ("(" ++ digits ++ ")"))) = false := by
    have hwords : ∀ k ∈ currentTimeWords, '(' ∉ k.toList := by decide
    have hascii : Only isAscii (word ++ ("(" ++ digits ++ ")")).toList := by
      rw [hchars]
      refine hword.only_isAscii.append (Only.cons rfl (Only.append (fun c hc => ?_) ?_))
      · exact isAscii_of_isWordByte (hbytes c hc)
      · exact only_nil.cons rfl
    rw [Bool.eq_false_iff]
    intro hmem
    refine hwords _ (List.contains_iff_mem.mp hmem) ?_
    rw [toList_lowercase_of_ascii hascii, hchars, List.map_append, List.map_cons]
    exact List.mem_append_right _ List.mem_cons_self
  rw [ofText_of_isTime h, hend, hcall, hnoWord]
  rfl

end

/-- **A word for the current time stays an expression for the database just if it has no
precision.** With one of its seconds it becomes a plain text, and with empty brackets a call. -/
theorem currentTime_ofReported_iff {sqlType : String} (htype : IsTime (lowercase sqlType))
    {word : String} (hword : IsCurrentTimeWord word) {precision : Option String}
    (hdigits : ∀ digits ∈ precision, ∀ c ∈ digits.toList, c.isDigit = true) (depth : Nat)
    (elementType : Option String) (dialect : Dialect) :
    ∃ d, ofReported (some (.text (bracketed depth (currentTimeText word precision)))) sqlType
        elementType dialect false = some d ∧
      (d = literal (currentTimeText word precision) ↔ precision = none) ∧
      (d = quoted (currentTimeText word precision) ↔
        ∃ digits, precision = some digits ∧ digits ≠ "") ∧
      (d = function word ↔ precision = some "") := by
  refine ⟨_, ofReported_currentTimeText hword hdigits depth elementType dialect, ?_⟩
  cases precision with
  | none =>
    rw [currentTimeText, ofText_currentTimeWord hword htype]
    simp
  | some digits =>
    by_cases hempty : digits = ""
    · subst hempty
      have hcall : currentTimeText word (some "") = word ++ "()" := rfl
      rw [hcall, ofText_currentTimeCall hword htype]
      simp
    · rw [currentTimeText, ofText_currentTimePrecision hword htype elementType
        (hdigits digits rfl) hempty]
      simp [hempty]

/-- The current time in two pairs of brackets, without and with a precision. -/
theorem currentTime_ofReported_iff_timestamp :
    (∃ d, ofReported (some (.text "((Current_Timestamp))")) "TIMESTAMP" none .mysql false
        = some d ∧
      d = literal "Current_Timestamp") ∧
    ∃ d, ofReported (some (.text "((Current_Timestamp(6)))")) "TIMESTAMP" none .mysql false
        = some d ∧
      d ≠ literal "Current_Timestamp(6)" := by
  have htype : IsTime (lowercase "TIMESTAMP") := by decide +kernel
  have hword : IsCurrentTimeWord "Current_Timestamp" := by decide
  have hnone : ∀ digits ∈ (none : Option String), ∀ c ∈ digits.toList, c.isDigit = true := by simp
  have hsix : ∀ digits ∈ some "6", ∀ c ∈ digits.toList, c.isDigit = true := by simp
  have hbare : bracketed 2 (currentTimeText "Current_Timestamp" none)
      = "((Current_Timestamp))" := by decide
  have hprecise : bracketed 2 (currentTimeText "Current_Timestamp" (some "6"))
      = "((Current_Timestamp(6)))" := by decide
  obtain ⟨d, hd, hliteral, -⟩ := currentTime_ofReported_iff htype hword hnone 2 none .mysql
  obtain ⟨e, he, hno, -⟩ := currentTime_ofReported_iff htype hword hsix 2 none .mysql
  rw [hbare] at hd
  rw [hprecise] at he
  exact ⟨⟨d, hd, hliteral.mpr rfl⟩, ⟨e, he, mt hno.mp (by simp)⟩⟩

/-- With the precision of its column the current time is a constant text. -/
theorem quoted_currentTimePrecision :
    ofReported (some (.text "CURRENT_TIMESTAMP(6)")) "datetime(6)" none .mysql false
      = some (quoted "CURRENT_TIMESTAMP(6)") := by
  decide +kernel

end SchemaModels.DefaultValue
