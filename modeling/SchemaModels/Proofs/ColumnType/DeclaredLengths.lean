import Mathlib.Data.List.Basic
import SchemaModels.Proofs.Text.Caseless
import SchemaModels.Proofs.ColumnType.EnumTypes

/-!
# Types with a declared length

A length may stand in brackets behind a type, as in `varchar(40)`, and the data type should then
hold it. `ColumnType.carriesLength_iff` says that it does for all types but texts.

Each rule is looked at once for what a length does to it (`TypeRule.SeesLength`). Most tests look at
the front of a type or for a word in it, and a length of digits changes nothing there. A test for a
whole type, or for its end, fails on a type with a length, so that no rule is met earlier because
of the length. The rule that decides is met again unless it is for texts: the only tests for texts
are of these kinds.
-/

namespace SchemaModels

open Text

/-- The type with a length in brackets behind it. -/
def withLength (s digits : String) : String :=
  s ++ ("(" ++ digits ++ ")")

/-- The digits can stand behind the type as its length. -/
structure IsLengthFor (s digits : String) : Prop where
  plain : '(' ∉ s.toList
  decimal : Only isDecimalDigit digits.toList
  nonempty : digits ≠ ""

theorem toList_withLength (s digits : String) :
    (withLength s digits).toList = s.toList ++ '(' :: (digits.toList ++ [')']) := by
  simp [withLength]

namespace IsLengthFor

variable {s digits : String} (h : IsLengthFor s digits)

include h

theorem notMem_digits {c : Char} (hc : isDecimalDigit c = false) : c ∉ digits.toList := by
  intro hmem
  cases hc.symm.trans (h.decimal c hmem)

theorem notMem_length : '(' ∉ digits.toList ++ [')'] := by
  rw [List.mem_append, List.mem_singleton, not_or]
  exact ⟨h.notMem_digits (by decide), by decide⟩

/-- A type with a length is one in just one way. -/
theorem withLength_eq_iff {w inner : String} :
    withLength s digits = withLength w inner ↔ s = w ∧ digits = inner := by
  rw [← String.toList_inj, toList_withLength, toList_withLength,
    List.append_cons_inj_of_notMem h.plain h.notMem_length, String.toList_inj,
    List.append_cancel_right_eq, String.toList_inj]
  simp

end IsLengthFor

/-! ## What the tests see of a length -/

/-- A test that does not see the length. -/
def PassesOver (applies : String → Bool) : Prop :=
  ∀ ⦃s digits⦄, IsLengthFor s digits → applies (withLength s digits) = applies s

/-- A test that fails on every type with a length. -/
def FailsOn (applies : String → Bool) : Prop :=
  ∀ ⦃s digits⦄, IsLengthFor s digits → applies (withLength s digits) = false

theorem PassesOver.or {p q : String → Bool} (hp : PassesOver p) (hq : PassesOver q) :
    PassesOver fun s => p s || q s :=
  fun _ _ h => congrArg₂ Bool.or (hp h) (hq h)

/-- The front of a type stays. -/
theorem passesOver_beginsWith {w : String} (hw : w.toList.contains '(' = false) :
    PassesOver (beginsWith w) := by
  intro s digits _
  have hbracket : '(' ∉ w.toList := by simpa using hw
  rw [beginsWith, beginsWith, toList_withLength, Bool.eq_iff_iff, List.isPrefixOf_iff_prefix,
    List.isPrefixOf_iff_prefix]
  exact ⟨prefix_of_prefix_append_cons hbracket, fun h => h.trans (List.prefix_append _ _)⟩

theorem passesOver_beginsWithAny {ws : List String}
    (hws : ∀ w ∈ ws, w.toList.contains '(' = false) : PassesOver (beginsWithAny ws) := by
  intro s digits h
  rw [Bool.eq_iff_iff, beginsWithAny, beginsWithAny, List.any_eq_true, List.any_eq_true]
  exact exists_congr fun w => and_congr_right fun hw => by rw [passesOver_beginsWith (hws w hw) h]

theorem isDecimalDigit_eq_false {c : Char} (h : c.isAlpha = true) : isDecimalDigit c = false := by
  have hascii : isAscii c = true := isAscii_of_isAlphanum (by simp [Char.isAlphanum, h])
  exact forall_isAscii (p := fun c => c.isAlpha = true → isDecimalDigit c = false) (by decide)
    hascii h

/-- Behind the digits there is no word. -/
theorem passesOver_contains {w : String} (hne : w ≠ "") (hw : w.toList.all Char.isAlpha = true) :
    PassesOver (contains w) := by
  intro s digits h
  have hword : ∀ c ∈ w.toList, c.isAlpha = true := List.all_eq_true.mp hw
  have hsome : w.toList ≠ [] := by simpa using hne
  have hbracket : '(' ∉ w.toList := fun hmem => absurd (hword _ hmem) (by decide)
  have hlength : occurs w.toList (digits.toList ++ [')']) = false := by
    rw [Bool.eq_false_iff]
    intro hoccurs
    obtain ⟨c, hc⟩ := List.exists_mem_of_ne_nil _ hsome
    have hmem : c ∈ digits.toList ++ [')'] := (occurs_iff.mp hoccurs).subset hc
    rw [List.mem_append, List.mem_singleton] at hmem
    rcases hmem with hdigit | rfl
    · exact h.notMem_digits (isDecimalDigit_eq_false (hword c hc)) hdigit
    · exact absurd (hword _ hc) (by decide)
  rw [contains, contains, toList_withLength, occurs_append_cons hsome hbracket, hlength,
    Bool.or_false]

theorem getLast?_withLength (s digits : String) :
    (withLength s digits).toList.getLast? = some ')' := by
  rw [toList_withLength, ← List.cons_append, ← List.append_assoc, List.getLast?_concat]

theorem failsOn_endsWith {w : String} {last : Char} (hlast : w.toList.getLast? = some last)
    (hne : last ≠ ')') : FailsOn (endsWith w) := by
  intro s digits _
  rw [Bool.eq_false_iff]
  intro hends
  obtain ⟨front, hfront⟩ := List.isSuffixOf_iff_suffix.mp hends
  have hword : (withLength s digits).toList.getLast? = some last := by
    rw [← hfront, List.getLast?_append, hlast, Option.some_or]
  rw [getLast?_withLength] at hword
  exact hne (Option.some.inj hword).symm

theorem failsOn_eq {w : String} (hw : w.toList.getLast? ≠ some ')') : FailsOn (· == w) := by
  intro s digits _
  rw [beq_eq_false_iff_ne]
  rintro rfl
  exact hw (getLast?_withLength s digits)

/-- A word is no length. -/
theorem failsOn_eq_withLength {w inner : String}
    (hinner : inner.toList.all isDecimalDigit = false) : FailsOn (· == withLength w inner) := by
  intro s digits h
  rw [beq_eq_false_iff_ne, ne_eq, h.withLength_eq_iff]
  rintro ⟨-, rfl⟩
  rw [List.all_eq_true.mpr h.decimal] at hinner
  cases hinner

theorem failsOn_contains {ws : List String} (hws : ∀ w ∈ ws, FailsOn (· == w)) :
    FailsOn (List.contains ws) := by
  intro s digits h
  rw [Bool.eq_false_iff, ne_eq, List.contains_iff_mem]
  intro hmem
  cases (hws _ hmem h).symm.trans (beq_self_eq_true _)

/-- Only `enum` itself looks like an enum in brackets that has a length for its labels. -/
theorem isEnumType_of_withLength {s digits : String} (h : IsLengthFor s digits)
    (henum : isEnumType (withLength s digits) = true) : isEnumType s = true := by
  have hbegins : beginsWith "enum(" (withLength s digits) = true := by
    rcases Bool.or_eq_true_iff.mp henum with hword | hlist
    · cases (failsOn_eq (w := "enum") (by decide) h).symm.trans hword
    · exact (Bool.and_eq_true_iff.mp (Bool.and_eq_true_iff.mp hlist).1).1
  obtain ⟨rest, hrest⟩ := List.isPrefixOf_iff_prefix.mp hbegins
  have hcut : s.toList ++ '(' :: (digits.toList ++ [')']) = "enum".toList ++ '(' :: rest := by
    rw [← toList_withLength, ← hrest]
    rfl
  have hword := ((List.append_cons_inj_of_notMem h.plain h.notMem_length).mp hcut).1
  rw [String.toList_inj.mp hword]
  rfl

/-! ## What a length does to the rules -/

namespace DataType

/-- Types that may have a length in the model. -/
def takesLength : DataType → Bool
  | string _ | char _ | text _ | date _ => true
  | _ => false

/-- The type with a length in brackets, if it may have one. -/
def withLength (length : String) : DataType → DataType
  | string _ => string length
  | char _ => char length
  | text _ => text length
  | date _ => date length
  | d => d

theorem render_withLength {d : DataType} (hd : (d.withLength "").takesLength = true)
    (length : String) : (d.withLength length).render = (d.withLength "").render ++ length := by
  cases d <;> first | rfl | cases hd

theorem withLength_withLength (d : DataType) (m n : String) :
    (d.withLength m).withLength n = d.withLength n := by
  cases d <;> rfl

theorem withLength_ne_text {d : DataType} (hd : ∀ n, d ≠ .text n) (length n : String) :
    d.withLength length ≠ .text n := by
  cases d with
  | text m => exact absurd rfl (hd m)
  | _ => intro heq; cases heq

/-- No other type is written like a text. -/
theorem beginsWith_render_eq_false {d : DataType} (hd : ∀ n, d ≠ .text n) :
    beginsWith "DataTypes.TEXT" d.render = false := by
  have hfront : ∀ {w : String}, beginsWith w "DataTypes.TEXT" = false →
      beginsWith "DataTypes.TEXT" w = false →
        ∀ rest, beginsWith "DataTypes.TEXT" (w ++ rest) = false := by
    intro w hw hv rest
    have hbegins : beginsWithAny [w] (w ++ rest) = true := by
      simp [beginsWithAny, beginsWith]
    exact beginsWith_eq_false (List.forall_mem_singleton.mpr ⟨hw, hv⟩) hbegins
  cases d with
  | text n => exact absurd rfl (hd n)
  | range bound => cases bound <;> rfl
  | integer width unsigned zerofill =>
    unfold render
    rw [String.append_assoc]
    cases width <;> exact hfront rfl rfl _
  | string n | char n | date n | float n | decimal n | double n | geometry n | geography n =>
    unfold render
    exact hfront rfl rfl n
  | array e | enum literals =>
    unfold render
    rw [String.append_assoc]
    exact hfront rfl rfl _
  | _ => rfl

end DataType

/-- What a length behind the type does to a rule. -/
inductive TypeRule.SeesLength (rule : TypeRule) : Prop where
  /-- The rule is for types without a length. With one, no more types pass its test, except that
  the smallest integer may be a truth value. -/
  | unsized (hfewer : ∀ ⦃s digits⦄, IsLengthFor s digits → s ≠ "tinyint" →
        rule.applies (withLength s digits) = true → rule.applies s = true)
      (hgives : ∀ r d, rule.dataType r = some d → d.takesLength = false)
  /-- The rule is for texts, and no type with a length passes its test. -/
  | misses (hfails : FailsOn rule.applies)
      (hgives : ∀ r d, rule.dataType r = some d → ∃ n, d = .text n)
  /-- The rule is for a type with a length that is no text. Its test does not see the length, and
  the data type holds it. -/
  | carries (hpasses : PassesOver rule.applies) {d : DataType} (htext : ∀ n, d ≠ .text n)
      (hgives : ∀ r, rule.dataType r = some (d.withLength (lengthIn r.lowered)))

namespace TypeRule

variable {rule : TypeRule}

theorem seesLength_of_passesOver (h : PassesOver rule.applies)
    (hgives : ∀ r d, rule.dataType r = some d → d.takesLength = false) : rule.SeesLength :=
  .unsized (fun _ _ hlength _ happlies => (h hlength).symm.trans happlies) hgives

theorem seesLength_of_failsOn (h : FailsOn rule.applies)
    (hgives : ∀ r d, rule.dataType r = some d → d.takesLength = false) : rule.SeesLength :=
  .unsized (fun _ _ hlength _ happlies => by cases (h hlength).symm.trans happlies) hgives

/-- The rule for truth values is the one that a length can lead to. -/
theorem seesLength_truth :
    (always (["boolean", "bit(1)", "bit", "tinyint(1)"].contains ·) .boolean).SeesLength := by
  refine .unsized (fun s digits h hne happlies => ?_) fun r d hgives => by cases hgives; rfl
  have hboolean : withLength s digits ≠ "boolean" :=
    beq_eq_false_iff_ne.mp (failsOn_eq (by decide) h)
  have hbit : withLength s digits ≠ "bit" := beq_eq_false_iff_ne.mp (failsOn_eq (by decide) h)
  have hsized : "bit(1)" = withLength "bit" "1" ∧ "tinyint(1)" = withLength "tinyint" "1" := by
    decide
  have hmem := List.contains_iff_mem.mp happlies
  simp only [List.mem_cons, List.not_mem_nil, or_false, hboolean, hbit, false_or] at hmem
  rw [hsized.1, hsized.2, h.withLength_eq_iff, h.withLength_eq_iff] at hmem
  rcases hmem with ⟨rfl, -⟩ | ⟨rfl, -⟩
  · rfl
  · exact absurd rfl hne

/-- The rule for texts of any length looks for a word where the length stands. -/
theorem seesLength_unlimited :
    (always (["varchar(max)", "nvarchar(max)"].contains ·) (.text "")).SeesLength := by
  have hmax : ["varchar(max)", "nvarchar(max)"]
      = [withLength "varchar" "max", withLength "nvarchar" "max"] := by decide
  refine .misses ?_ fun r d hgives => ⟨_, (Option.some.inj hgives).symm⟩
  rw [hmax]
  exact failsOn_contains (List.forall_mem_cons.mpr ⟨failsOn_eq_withLength (by decide),
    List.forall_mem_singleton.mpr (failsOn_eq_withLength (by decide))⟩)

theorem seesLength_array : SeesLength ⟨beginsWith "array", fun r => r.element.map .array⟩ := by
  refine seesLength_of_passesOver (passesOver_beginsWith (by decide)) fun r d hgives => ?_
  obtain ⟨e, -, rfl⟩ := Option.map_eq_some_iff.mp hgives
  rfl

/-- **What a length does to each rule.** -/
theorem seesLength_of_mem_typeRules : ∀ rule ∈ typeRules, rule.SeesLength := by
  have hgives : ∀ {applies} {d : DataType}, d.takesLength = false →
      ∀ r d', (always applies d).dataType r = some d' → d'.takesLength = false := by
    intro applies d hd r d' hgives
    cases hgives
    exact hd
  have hlowered : ∀ {applies} {g : String → DataType}, (∀ s, (g s).takesLength = false) →
      ∀ r d', (ofLowered applies g).dataType r = some d' → d'.takesLength = false := by
    intro applies g hg r d' hgives
    cases hgives
    exact hg _
  have hequal : ∀ {w d}, d.takesLength = false → w.toList.getLast? ≠ some ')' →
      (always (· == w) d).SeesLength :=
    fun hd hw => seesLength_of_failsOn (failsOn_eq hw) (hgives hd)
  have hbegins : ∀ {w d}, d.takesLength = false → w.toList.contains '(' = false →
      (always (beginsWith w) d).SeesLength :=
    fun hd hw => seesLength_of_passesOver (passesOver_beginsWith hw) (hgives hd)
  have hnumbers : ∀ {ws} {g : String → DataType}, (∀ s, (g s).takesLength = false) →
      (∀ w ∈ ws, w.toList.contains '(' = false) →
      (ofLowered (beginsWithAny ws) g).SeesLength :=
    fun hg hws => seesLength_of_passesOver (passesOver_beginsWithAny hws) (hlowered hg)
  have hshape : ∀ {w} {g : TypeReading → DataType}, (∀ r, (g r).takesLength = false) →
      w.toList.contains '(' = false → SeesLength ⟨beginsWith w, fun r => some (g r)⟩ :=
    fun hg hw => seesLength_of_passesOver (passesOver_beginsWith hw) fun r d hgives => by
      cases hgives
      exact hg r
  have hword : ∀ w ∈ innerWords, PassesOver (contains w) := by
    have hletters : ∀ w ∈ innerWords, w ≠ "" ∧ w.toList.all Char.isAlpha = true := by decide
    exact fun w hw => passesOver_contains (hletters w hw).1 (hletters w hw).2
  simp only [innerWords, List.forall_mem_cons, List.not_mem_nil, false_implies, implies_true,
    and_true] at hword
  obtain ⟨hvarchar, hstring, hvarying, hidentifier, hbinary, himage, hblob, hbytea⟩ := hword
  have hranges : FailsOn (["tsrange", "tstzrange"].contains ·) :=
    failsOn_contains (List.forall_mem_cons.mpr
      ⟨failsOn_eq (by decide), List.forall_mem_singleton.mpr (failsOn_eq (by decide))⟩)
  unfold typeRules
  simp only [List.forall_mem_cons, List.not_mem_nil, false_implies, implies_true, and_true]
  exact ⟨
    -- truth values, ranges and integers
    seesLength_truth, hequal rfl (by decide), hequal rfl (by decide), hequal rfl (by decide),
    hequal rfl (by decide),
    seesLength_of_failsOn hranges (hgives rfl),
    hnumbers (fun _ => rfl) (by decide),
    -- texts and times
    seesLength_unlimited,
    .carries (d := .string "") ((hvarchar.or hstring).or hvarying) (fun _ h => by cases h)
      fun _ => rfl,
    .carries (d := .char "") (passesOver_beginsWithAny (by decide)) (fun _ h => by cases h)
      fun _ => rfl,
    hbegins rfl (by decide),
    .misses (failsOn_endsWith rfl (by decide)) fun r d h => ⟨_, (Option.some.inj h).symm⟩,
    hequal rfl (by decide),
    .carries (d := .date "") (passesOver_beginsWithAny (by decide)) (fun _ h => by cases h)
      fun _ => rfl,
    hbegins rfl (by decide),
    -- fractions
    hnumbers (fun _ => rfl) (by decide), hnumbers (fun _ => rfl) (by decide),
    hbegins rfl (by decide), hbegins rfl (by decide), hnumbers (fun _ => rfl) (by decide),
    -- identifiers, JSON, shapes and arrays
    seesLength_of_passesOver ((passesOver_beginsWith (by decide)).or hidentifier) (hgives rfl),
    hbegins rfl (by decide), hbegins rfl (by decide), hshape (fun _ => rfl) (by decide),
    hshape (fun _ => rfl) (by decide), seesLength_array,
    -- what is left
    seesLength_of_passesOver (((hbinary.or himage).or hblob).or hbytea) (hgives rfl),
    hbegins rfl (by decide), hbegins rfl (by decide), hbegins rfl (by decide),
    hbegins rfl (by decide), hbegins rfl (by decide),
    .unsized (fun _ _ h _ => isEnumType_of_withLength h) fun r d hgives => by cases hgives; rfl⟩

/-- A type with a length passes no more tests than without. -/
theorem SeesLength.fewer (h : rule.SeesLength) {s digits : String} (hlength : IsLengthFor s digits)
    (hne : s ≠ "tinyint") (happlies : rule.applies (withLength s digits) = true) :
    rule.applies s = true := by
  cases h with
  | unsized hfewer _ => exact hfewer hlength hne happlies
  | misses hfails _ => cases (hfails hlength).symm.trans happlies
  | carries hpasses _ _ => exact (hpasses hlength).symm.trans happlies

/-- No rule gives a text to a type with a length. -/
theorem SeesLength.ne_text (h : rule.SeesLength) {s digits : String}
    (hlength : IsLengthFor s digits) (happlies : rule.applies (withLength s digits) = true)
    {r : TypeReading} {d : DataType} (hgives : rule.dataType r = some d) (n : String) :
    d ≠ .text n := by
  cases h with
  | unsized _ hunsized =>
    rintro rfl
    cases hunsized _ _ hgives
  | misses hfails _ => cases (hfails hlength).symm.trans happlies
  | carries _ htext hcarried =>
    cases hgives.symm.trans (hcarried r)
    exact DataType.withLength_ne_text htext _ n

end TypeRule

/-! ## The length that is found -/

theorem lengthAt?_of_ne {c : Char} (hc : c ≠ '(') (cs : List Char) :
    lengthAt? (c :: cs) = none := by
  unfold lengthAt?
  split
  · next h =>
    cases h
    exact absurd rfl hc
  · rfl

theorem firstFound_lengthAt?_append {cs : List Char} (h : '(' ∉ cs) (rest : List Char) :
    firstFound lengthAt? (cs ++ rest) = firstFound lengthAt? rest := by
  induction cs with
  | nil => rfl
  | cons c cs ih =>
    rw [List.mem_cons, not_or] at h
    rw [List.cons_append, firstFound, lengthAt?_of_ne (Ne.symm h.1)]
    exact ih h.2

theorem lengthIn_of_plain {s : String} (h : '(' ∉ s.toList) : lengthIn s = "" := by
  have hnone := firstFound_lengthAt?_append h []
  rw [List.append_nil] at hnone
  rw [lengthIn, hnone]
  rfl

theorem lengthIn_withLength {s digits : String} (h : IsLengthFor s digits) :
    lengthIn (withLength s digits) = "(" ++ digits ++ ")" := by
  have htake : (digits.toList ++ [')']).takeWhile isDecimalDigit = digits.toList := by
    rw [List.takeWhile_append_of_pos h.decimal]
    exact List.append_nil _
  have hdrop : (digits.toList ++ [')']).dropWhile isDecimalDigit = [')'] := by
    rw [List.dropWhile_append_of_pos h.decimal]
    rfl
  have hsome : digits.toList ≠ [] := by simpa using h.nonempty
  obtain ⟨d, ds, hcons⟩ := List.exists_cons_of_ne_nil hsome
  have hfound : lengthAt? ('(' :: (digits.toList ++ [')']))
      = some ('(' :: digits.toList ++ [')']) := by
    unfold lengthAt?
    simp only [htake, hdrop]
    rw [hcons]
    rfl
  rw [lengthIn, toList_withLength, firstFound_lengthAt?_append h.plain, firstFound, hfound,
    ← String.toList_inj]
  simp

/-! ## Types in lower case -/

/-- A length is in lower case and leaves the type before it as it would be. -/
theorem lowercase_withLength {s digits : String} (h : Only isDecimalDigit digits.toList) :
    lowercase (withLength s digits) = withLength (lowercase s) digits := by
  have hkept : ∀ c ∈ digits.toList ++ [')'], toLower c = [c] := by
    rw [List.forall_mem_append, List.forall_mem_singleton]
    exact ⟨fun c hc => toLower_of_isDecimalDigit (h c hc), rfl⟩
  rw [← String.toList_inj, toList_withLength, lowercase, lowercase, String.toList_ofList,
    String.toList_ofList, toList_withLength,
    lowerFrom_append_cons (by decide +kernel) (by decide +kernel) _ rfl, lowerFrom_eq_self hkept]

/-! ## Data types with a length -/

/-- A search finds the same if it is for no more and what was found is still right. -/
theorem find?_eq_some_of_imp {α : Type} {p q : α → Bool} {l : List α} {a : α}
    (h : l.find? p = some a) (hq : q a = true) (himp : ∀ b ∈ l, q b = true → p b = true) :
    l.find? q = some a := by
  rw [List.find?_eq_some_iff_append] at h ⊢
  obtain ⟨-, front, back, rfl, hfront⟩ := h
  refine ⟨hq, front, back, rfl, fun b hb => ?_⟩
  have hnot : p b = false := by simpa using hfront b hb
  rw [Bool.not_eq_true', Bool.eq_false_iff]
  intro hqb
  cases hnot.symm.trans (himp b (List.mem_append_left _ hb) hqb)

namespace ColumnType

/-- The column with a length behind its type. -/
def sized (t : ColumnType) (digits : String) : ColumnType :=
  { t with sqlType := SchemaModels.withLength t.sqlType digits }

section Sized

variable {t : ColumnType} {digits : String} (hplain : '(' ∉ t.sqlType.toList)
  (hdigits : Only isDecimalDigit digits.toList) (hne : digits ≠ "")

include hdigits in
theorem lowered_sized : (t.sized digits).lowered = SchemaModels.withLength t.lowered digits :=
  lowercase_withLength hdigits

include hplain hdigits hne

theorem isLengthFor_lowered : IsLengthFor t.lowered digits where
  plain hmem := by
    have honly : Only (· != '(') t.sqlType.toList := by
      intro c hc
      rw [bne_iff_ne]
      rintro rfl
      exact hplain hc
    have hstable : CaseStable (· != '(') := .of_ne (by decide)
    exact absurd (hstable.lowercase honly _ hmem) (by decide)
  decimal := hdigits
  nonempty := hne

omit hplain hdigits hne

variable {d : DataType} (hd : t.dataType? = some d) (hlength : d.takesLength = true)

include hd hlength

theorem lowered_ne_tinyint : t.lowered ≠ "tinyint" := by
  intro h
  rw [dataType?, dataTypeWith, h] at hd
  cases hd
  cases hlength

include hplain hdigits hne

/-- **A type that is no text keeps its data type, now with the length.** -/
theorem dataType?_sized (htext : ∀ n, d ≠ .text n) :
    (t.sized digits).dataType? = some (d.withLength ("(" ++ digits ++ ")")) ∧
      d.withLength "" = d := by
  obtain ⟨rule, hfind, hgives⟩ := Option.bind_eq_some_iff.mp hd
  have hlen := isLengthFor_lowered hplain hdigits hne
  have happlies : rule.applies t.lowered = true := by simpa using List.find?_some hfind
  cases TypeRule.seesLength_of_mem_typeRules rule (List.mem_of_find?_eq_some hfind) with
  | unsized _ hunsized => cases hlength.symm.trans (hunsized _ _ hgives)
  | misses _ htexts =>
    obtain ⟨n, rfl⟩ := htexts _ _ hgives
    exact absurd rfl (htext n)
  | @carries hpasses base _ hcarried =>
    have hbase : d = base.withLength "" := by
      rw [hcarried, lengthIn_of_plain hlen.plain] at hgives
      exact (Option.some.inj hgives).symm
    have hsized : typeRules.find? (·.applies (t.sized digits).lowered) = some rule := by
      rw [lowered_sized hdigits]
      exact find?_eq_some_of_imp hfind ((hpasses hlen).trans happlies) fun b hb =>
        (TypeRule.seesLength_of_mem_typeRules b hb).fewer hlen (lowered_ne_tinyint hd hlength)
    rw [hbase, DataType.withLength_withLength, DataType.withLength_withLength, dataType?,
      dataTypeWith, hsized, Option.bind_some, hcarried, lowered_sized hdigits,
      lengthIn_withLength hlen]
    exact ⟨rfl, rfl⟩

omit hd hlength in
/-- No type with a length is a text. -/
theorem dataType?_sized_ne_text (n : String) : (t.sized digits).dataType? ≠ some (.text n) := by
  intro htext
  obtain ⟨rule, hfind, hgives⟩ := Option.bind_eq_some_iff.mp htext
  have happlies : rule.applies (t.sized digits).lowered = true := by
    simpa using List.find?_some hfind
  rw [lowered_sized hdigits] at happlies
  exact (TypeRule.seesLength_of_mem_typeRules rule (List.mem_of_find?_eq_some hfind)).ne_text
    (isLengthFor_lowered hplain hdigits hne) happlies hgives n rfl

/-- **A declared length is carried through for all types but texts.** -/
theorem carriesLength_iff :
    (t.sized digits).dataType?.map DataType.render = some (d.render ++ ("(" ++ digits ++ ")")) ↔
      ∀ n, d ≠ .text n := by
  constructor
  · rintro hrender n rfl
    obtain ⟨d', hd', hsame⟩ := Option.map_eq_some_iff.mp hrender
    have hno : beginsWith "DataTypes.TEXT" d'.render = false :=
      DataType.beginsWith_render_eq_false fun m hm =>
        dataType?_sized_ne_text hplain hdigits hne m (hm ▸ hd')
    have hyes : beginsWith "DataTypes.TEXT" (("DataTypes.TEXT" ++ n) ++ ("(" ++ digits ++ ")"))
        = true := by
      simp [beginsWith]
    rw [hsame] at hno
    cases hno.symm.trans hyes
  · intro htext
    obtain ⟨hsized, hbare⟩ := dataType?_sized hplain hdigits hne hd hlength htext
    rw [hsized, Option.map_some, DataType.render_withLength (by rw [hbare, hlength]), hbare]

end Sized

/-- A time with three digits of a second. -/
theorem carriesLength_iff_timestamp :
    (sized { sqlType := "TimeStamp" } "3").dataType?.map DataType.render
      = some "DataTypes.DATE(3)" := by
  have hdigits : Only isDecimalDigit "3".toList := List.all_eq_true.mp (by decide)
  have hd : ColumnType.dataType? { sqlType := "TimeStamp" } = some (.date "") := rfl
  exact (carriesLength_iff (by decide) hdigits (by decide) hd rfl).mpr fun _ h => by cases h

/-- A text with a length has no data type. -/
theorem text_loses_length :
    ColumnType.dataType? { sqlType := "text" } = some (.text "") ∧
      (sized { sqlType := "text" } "255").dataType? = none :=
  ⟨rfl, rfl⟩

end ColumnType

end SchemaModels
