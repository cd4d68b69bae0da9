import SchemaModels.Proofs.Schema.DefaultParts
import SchemaModels.Proofs.Script.EscapedText

/-!
# What a default stands for

A default that is a text is escaped before it is read. The brackets around it and the call at its
end are cut from the escaped text, and a part of what is left is escaped once more for other quotes.
The literal in the model still stands for the text itself (`denotes_ofReported`).

The reason is that brackets are never part of an escape (`eq_of_mem_scriptChar`). So an escaped text
begins or ends with a bracket only where the text does, and every cut leaves the escaped form of a
shorter text: of the text without its brackets (`stripBrackets_scriptEscaped`), and of the name of
the function (`exists_name_of_endsInCall`).
-/

namespace SchemaModels.DefaultValue

open Text Script

/-! ## Brackets in an escaped text -/

/-- A bracket in what a character is escaped to is the character. -/
theorem eq_of_mem_scriptChar {b c : Char} (hb : isNeverEscape b = true) (h : b ∈ scriptChar c) :
    c = b ∧ scriptChar c = [b] := by
  rcases scriptChar_cases c with ⟨hself, -, -⟩ | ⟨tail, htail, hescape⟩
  · rw [hself, List.mem_singleton] at h
    exact ⟨h.symm, h ▸ hself⟩
  · rw [htail] at h
    rcases List.mem_cons.mp h with rfl | h
    · exact absurd hb (by decide)
    · exact absurd h (hescape.not_mem hb)

theorem scriptChar_ne_nil (c : Char) : scriptChar c ≠ [] := by
  rcases scriptChar_cases c with ⟨hself, -, -⟩ | ⟨tail, htail, -⟩
  · simp [hself]
  · simp [htail]

theorem eq_nil_of_flatMap {cs : List Char} (h : cs.flatMap scriptChar = []) : cs = [] := by
  cases cs with
  | nil => rfl
  | cons c cs => exact absurd (List.append_eq_nil_iff.mp h).1 (scriptChar_ne_nil c)

/-- **A bracket in an escaped text is in the text, with the escaped forms of what is before and
behind it there.** -/
theorem eq_append_cons_of_flatMap {b : Char} (hb : isNeverEscape b = true) :
    ∀ {cs front back : List Char}, cs.flatMap scriptChar = front ++ b :: back →
      ∃ ds es, cs = ds ++ b :: es ∧ ds.flatMap scriptChar = front ∧
        es.flatMap scriptChar = back := by
  intro cs
  induction cs with
  | nil => intro front back h; simp at h
  | cons c cs ih =>
    intro front back h
    rw [List.flatMap_cons] at h
    have hlater : ∀ {rest}, front = scriptChar c ++ rest →
        cs.flatMap scriptChar = rest ++ b :: back → ∃ ds es, c :: cs = ds ++ b :: es ∧
          ds.flatMap scriptChar = front ∧ es.flatMap scriptChar = back := by
      intro rest hfront hrest
      obtain ⟨ds, es, rfl, hds, hes⟩ := ih hrest
      exact ⟨c :: ds, es, rfl, by rw [List.flatMap_cons, hds, hfront], hes⟩
    rcases List.append_eq_append_iff.mp h with ⟨rest, hfront, hrest⟩ | ⟨mid, hmid, hback⟩
    · exact hlater hfront hrest
    cases mid with
    | nil =>
      have hfront : front = scriptChar c ++ [] := by rw [hmid, List.append_nil, List.append_nil]
      exact hlater hfront hback.symm
    | cons d mid =>
      -- the bracket is a part of what the first character becomes, so it is this character
      rw [List.cons_append, List.cons.injEq] at hback
      obtain ⟨rfl, hback⟩ := hback
      have hmem : b ∈ scriptChar c := by rw [hmid]; simp
      obtain ⟨rfl, hself⟩ := eq_of_mem_scriptChar hb hmem
      rw [hself, List.singleton_eq_append_iff] at hmid
      rcases hmid with ⟨rfl, hmid⟩ | ⟨-, hmid⟩
      · cases hmid
        exact ⟨[], cs, rfl, rfl, hback.symm⟩
      · cases hmid

/-- A bracket at the front of an escaped text is at the front of the text. -/
theorem eq_cons_of_flatMap {b : Char} (hb : isNeverEscape b = true) {cs rest : List Char}
    (h : cs.flatMap scriptChar = b :: rest) :
    ∃ ds, cs = b :: ds ∧ ds.flatMap scriptChar = rest := by
  have h : cs.flatMap scriptChar = [] ++ b :: rest := h
  obtain ⟨front, ds, rfl, hfront, hds⟩ := eq_append_cons_of_flatMap hb h
  exact ⟨ds, by rw [eq_nil_of_flatMap hfront]; rfl, hds⟩

/-- A bracket at the end of an escaped text is at the end of the text. -/
theorem eq_concat_of_flatMap {b : Char} (hb : isNeverEscape b = true) {cs front : List Char}
    (h : cs.flatMap scriptChar = front ++ [b]) :
    ∃ ds, cs = ds ++ [b] ∧ ds.flatMap scriptChar = front := by
  obtain ⟨ds, back, rfl, hds, hback⟩ := eq_append_cons_of_flatMap hb h
  exact ⟨ds, by rw [eq_nil_of_flatMap hback], hds⟩

/-! ## Brackets around a text -/

/-- A count of the length of the text is enough. -/
theorem stripBracketsUpTo_of_length_le : ∀ (n m : Nat) {cs : List Char}, cs.length ≤ n →
    cs.length ≤ m → stripBracketsUpTo n cs = stripBracketsUpTo m cs := by
  intro n
  induction n with
  | zero =>
    intro m cs hn _
    rw [List.length_eq_zero_iff.mp (Nat.le_zero.mp hn)]
    rw [stripBracketsUpTo_eq_self (by simp), stripBracketsUpTo_eq_self (by simp)]
  | succ n ih =>
    intro m cs hn hm
    by_cases h : ∃ mid, cs = '(' :: (mid ++ [')'])
    · obtain ⟨mid, rfl⟩ := h
      simp only [List.length_cons, List.length_append, List.length_nil] at hn hm
      obtain ⟨m, rfl⟩ : ∃ k, m = k + 1 := ⟨m - 1, by omega⟩
      rw [stripBracketsUpTo_succ, stripBracketsUpTo_succ]
      exact ih m (by omega) (by omega)
    · rw [stripBracketsUpTo_eq_self h, stripBracketsUpTo_eq_self h]

/-- Removing brackets from an escaped text removes them from the text. -/
theorem stripBracketsUpTo_flatMap : ∀ (n : Nat) (cs : List Char),
    stripBracketsUpTo n (cs.flatMap scriptChar) = (stripBracketsUpTo n cs).flatMap scriptChar := by
  intro n
  induction n with
  | zero => exact fun cs => rfl
  | succ n ih =>
    intro cs
    by_cases h : ∃ mid, cs = '(' :: (mid ++ [')'])
    · obtain ⟨mid, rfl⟩ := h
      have hflat : ('(' :: (mid ++ [')'])).flatMap scriptChar
          = '(' :: (mid.flatMap scriptChar ++ [')']) := by
        rw [List.flatMap_cons, List.flatMap_append]
        rfl
      rw [hflat, stripBracketsUpTo_succ, stripBracketsUpTo_succ, ih]
    · rw [stripBracketsUpTo_eq_self h, stripBracketsUpTo_eq_self]
      rintro ⟨mid, hmid⟩
      obtain ⟨ds, rfl, hds⟩ := eq_cons_of_flatMap rfl hmid
      obtain ⟨es, rfl, -⟩ := eq_concat_of_flatMap rfl hds
      exact h ⟨es, rfl⟩

theorem length_le_length_flatMap_scriptChar : ∀ (cs : List Char),
    cs.length ≤ (cs.flatMap scriptChar).length := by
  intro cs
  induction cs with
  | nil => exact Nat.le_refl 0
  | cons c cs ih =>
    have hone := List.length_pos_iff.mpr (scriptChar_ne_nil c)
    rw [List.flatMap_cons, List.length_append, List.length_cons]
    omega

/-- **Of an escaped text the escaped text without its brackets is left.** -/
theorem stripBrackets_scriptEscaped (s : String) :
    stripBrackets (scriptEscaped s) = scriptEscaped (stripBrackets s) := by
  have hlength := length_le_length_flatMap_scriptChar s.toList
  have hcount := stripBracketsUpTo_of_length_le (s.toList.flatMap scriptChar).length s.length
    hlength (Nat.le_of_eq String.length_toList)
  simp only [stripBrackets, scriptEscaped, String.toList_ofList, String.length_ofList]
  rw [stripBracketsUpTo_flatMap, hcount]

/-! ## The call at the end of a text -/

/-- Of a text that ends in a call, the text before the `()` is left. -/
theorem exists_eq_append_of_endsInCall {s : String} (h : endsInCall s = true) :
    s = dropCalls s ++ "()" := by
  unfold endsInCall at h
  split at h
  · next c rest hrev =>
    have hc : c ≠ ')' := by rintro rfl; exact absurd h (by decide)
    have hkept : dropCallsReversed (c :: rest) = c :: rest := by
      unfold dropCallsReversed
      split
      · next heq => cases heq; exact absurd rfl hc
      · rfl
    have hname : dropCalls s = String.ofList (c :: rest).reverse := by
      rw [dropCalls, hrev, dropCallsReversed, hkept]
    rw [hname, ← String.toList_inj, String.toList_append, String.toList_ofList,
      ← List.reverse_reverse s.toList, hrev]
    simp
  · cases h

/-- An escaped text that ends in a call is that of a text that does, and what is left of it is the
escaped name of the function. -/
theorem exists_name_of_endsInCall {s : String} (h : endsInCall (scriptEscaped s) = true) :
    ∃ name, s = name ++ "()" ∧ dropCalls (scriptEscaped s) = scriptEscaped name := by
  have hcut := congrArg String.toList (exists_eq_append_of_endsInCall h)
  obtain ⟨front, hfront⟩ : ∃ front, (dropCalls (scriptEscaped s)).toList = front := ⟨_, rfl⟩
  rw [String.toList_append, hfront, scriptEscaped, String.toList_ofList] at hcut
  have hclose : s.toList.flatMap scriptChar = (front ++ ['(']) ++ [')'] := by simpa using hcut
  obtain ⟨ds, hds, hopen⟩ := eq_concat_of_flatMap rfl hclose
  obtain ⟨name, rfl, hname⟩ := eq_concat_of_flatMap rfl hopen
  refine ⟨String.ofList name, ?_, ?_⟩
  · rw [← String.toList_inj, hds, String.toList_append, String.toList_ofList]
    simp
  · rw [← String.toList_inj, hfront, scriptEscaped, String.toList_ofList, String.toList_ofList,
      hname]

/-- A text has a call in it exactly if its escaped form has one. -/
theorem contains_call_scriptEscaped (s : String) :
    contains "()" (scriptEscaped s) = contains "()" s := by
  have hcall : "()".toList = ['(', ')'] := rfl
  rw [Bool.eq_iff_iff, contains_iff, contains_iff, hcall, scriptEscaped, String.toList_ofList]
  constructor
  · rintro ⟨front, back, h⟩
    have h : s.toList.flatMap scriptChar = front ++ '(' :: ')' :: back := by
      rw [← h, List.append_assoc]
      rfl
    obtain ⟨ds, es, hs, -, hes⟩ := eq_append_cons_of_flatMap rfl h
    obtain ⟨es, rfl, -⟩ := eq_cons_of_flatMap rfl hes
    exact ⟨ds, es, by rw [hs, List.append_assoc]; rfl⟩
  · rintro ⟨ds, es, h⟩
    refine ⟨ds.flatMap scriptChar, es.flatMap scriptChar, ?_⟩
    rw [← h, List.flatMap_append, List.flatMap_append]
    rfl

/-! ## The elements of an array -/

theorem dropOpeningBrace_flatMap (cs : List Char) :
    dropOpeningBrace (cs.flatMap scriptChar) = (dropOpeningBrace cs).flatMap scriptChar := by
  rcases dropOpeningBrace_cases (cs.flatMap scriptChar) with h | ⟨h, hno⟩
  · obtain ⟨ds, rfl, hds⟩ := eq_cons_of_flatMap rfl h
    exact hds.symm
  · rw [h]
    rcases dropOpeningBrace_cases cs with hcs | ⟨hcs, -⟩
    · rw [hcs, List.flatMap_cons] at hno
      exact absurd rfl (hno _)
    · rw [hcs]

theorem dropClosingBrace_flatMap (cs : List Char) :
    dropClosingBrace (cs.flatMap scriptChar) = (dropClosingBrace cs).flatMap scriptChar := by
  rcases dropClosingBrace_cases (cs.flatMap scriptChar) with h | ⟨h, hno⟩
  · obtain ⟨ds, rfl, hds⟩ := eq_concat_of_flatMap rfl h
    rw [dropClosingBrace_concat]
    exact hds.symm
  · rw [h]
    rcases dropClosingBrace_cases cs with hcs | ⟨hcs, -⟩
    · rw [hcs, List.flatMap_append] at hno
      exact absurd rfl (hno _)
    · rw [hcs]

/-- Of an escaped text without its braces the escaped text is left. -/
theorem dropBraces_scriptEscaped (s : String) :
    dropBraces (scriptEscaped s) = scriptEscaped (dropBraces s) := by
  rw [← String.toList_inj, toList_dropBraces, scriptEscaped, scriptEscaped, String.toList_ofList,
    String.toList_ofList, toList_dropBraces, dropOpeningBrace_flatMap, dropClosingBrace_flatMap]

/-- The escaped text is cut at the commas of the text. -/
theorem splitWhere_flatMap : ∀ (cs : List Char), splitWhere (· == ',') (cs.flatMap scriptChar)
    = (splitWhere (· == ',') cs).map (·.flatMap scriptChar) := by
  intro cs
  induction cs with
  | nil => rfl
  | cons c cs ih =>
    rw [List.flatMap_cons, splitWhere]
    by_cases hc : c = ','
    · have hself : scriptChar ',' = [','] := by decide
      rw [hc, hself, List.singleton_append, splitWhere, ih]
      rfl
    · have hno : ∀ d ∈ scriptChar c, (d == ',') = false := by
        intro d hd
        refine beq_eq_false_iff_ne.mpr ?_
        rintro rfl
        exact hc (eq_of_mem_scriptChar rfl hd).1
      obtain ⟨piece, pieces, hpieces⟩ :=
        List.exists_cons_of_ne_nil (splitWhere_ne_nil (p := (· == ',')) cs)
      rw [hpieces, List.map_cons] at ih
      rw [splitWhere_append_of_not ih hno, if_neg (by simpa using hc), hpieces]
      rfl

theorem splitOn_scriptEscaped (s : String) :
    splitOn ',' (scriptEscaped s) = (splitOn ',' s).map scriptEscaped := by
  rw [splitOn, splitOn, scriptEscaped, String.toList_ofList, splitWhere_flatMap, List.map_map,
    List.map_map]
  refine List.map_congr_left fun cs _ => ?_
  show String.ofList (cs.flatMap scriptChar) = scriptEscaped (String.ofList cs)
  rw [scriptEscaped, String.toList_ofList]

/-- **The elements of an array of texts are quoted as the elements of the text.** -/
theorem arrayItems_scriptEscaped {elementType : Option String}
    (h : TypeFamily.isString (lowercase (elementType.getD "")) = true) (s : String) :
    arrayItems elementType (scriptEscaped s) = if dropBraces s = "" then ""
      else String.intercalate "," ((splitOn ',' (dropBraces s)).map scriptQuoted) := by
  have hempty : scriptEscaped (dropBraces s) = "" ↔ dropBraces s = "" := by
    constructor
    · intro hnil
      rw [← String.toList_inj, scriptEscaped, String.toList_ofList] at hnil
      exact String.toList_inj.mp (eq_nil_of_flatMap hnil)
    · intro hnil
      rw [hnil]
      rfl
  unfold arrayItems
  dsimp only
  rw [dropBraces_scriptEscaped, splitOn_scriptEscaped, List.map_map, h]
  by_cases hs : dropBraces s = ""
  · rw [if_pos hs, hs]
    rfl
  · rw [if_neg hs, if_pos (by simpa [hempty] using hs)]
    rfl

/-! ## The literal in the model -/

/-- A call with one argument. -/
def callOf (callee argument : String) : String :=
  callee ++ "(" ++ argument ++ ")"

/-- The expression for a default has a literal that stands for a text: for a text itself, as an
expression for the database, or as the name of a function that the text calls. Defaults of the other
kinds have no literal of this sort. -/
def Denotes (d : DefaultValue) (text : String) : Prop :=
  match d with
  | quoted _ => ReadsAsIn .double d.render text
  | literal _ => ∃ argument, d.render = callOf "Sequelize.Sequelize.literal" argument ∧
      ReadsAsIn .single argument text
  | function _ => ∃ name argument, text = name ++ "()" ∧
      d.render = callOf "Sequelize.Sequelize.fn" argument ∧ ReadsAsIn .single argument name
  | _ => True

theorem denotes_quoted (s : String) : (quoted (scriptEscaped s)).Denotes s :=
  readsAsIn_escapedIn .double s

/-- A call whose argument is a literal between single quotes. -/
theorem callOf_single (callee content : String) :
    callOf callee (Quote.single.mark ++ content ++ Quote.single.mark)
      = callee ++ "('" ++ content ++ "')" := by
  have hopen : "('" = "(" ++ Quote.single.mark := by decide
  have hclose : "')" = Quote.single.mark ++ ")" := by decide
  rw [callOf, hopen, hclose]
  simp only [String.append_assoc]

theorem denotes_literal (s : String) : (literal (scriptEscaped s)).Denotes s :=
  ⟨_, (callOf_single "Sequelize.Sequelize.literal" _).symm, readsAsIn_escapedIn .single s⟩

theorem denotes_function {s : String} (h : endsInCall (scriptEscaped s) = true) :
    (function (dropCalls (scriptEscaped s))).Denotes s := by
  obtain ⟨name, hs, hname⟩ := exists_name_of_endsInCall h
  refine ⟨name, _, hs, ?_, readsAsIn_escapedIn .single name⟩
  rw [hname]
  exact (callOf_single "Sequelize.Sequelize.fn" _).symm

theorem Reading.denotes {type : String} {elementType : Option String} {s : String}
    {d : DefaultValue} (h : Reading type elementType (scriptEscaped s) d) : d.Denotes s := by
  cases h with
  | truth | array | json | identifier | number => trivial
  | call _ hend => exact denotes_function hend
  | expression | currentTime => exact denotes_literal s
  | text => exact denotes_quoted s

/-- A text is read without its brackets, in its escaped form. -/
theorem reading_of_ofReported {s : String} {sqlType : String} {elementType : Option String}
    {dialect : Dialect} {isSerial : Bool} {d : DefaultValue}
    (h : ofReported (some (.text s)) sqlType elementType dialect isSerial = some d) :
    Reading (lowercase sqlType) elementType (scriptEscaped (stripBrackets s)) d := by
  unfold ofReported at h
  dsimp only at h
  split at h
  · cases h
  · cases h
    rw [← stripBrackets_scriptEscaped]
    exact reading_ofText _ _ _

/-- **The literal in a default stands for the text that the database reports, without the brackets
around it.** -/
theorem denotes_ofReported {s : String} {sqlType : String} {elementType : Option String}
    {dialect : Dialect} {isSerial : Bool} {d : DefaultValue}
    (h : ofReported (some (.text s)) sqlType elementType dialect isSerial = some d) :
    d.Denotes (stripBrackets s) :=
  (reading_of_ofReported h).denotes

/-- One default of each kind, with quotes and slashes. -/
theorem denotes_ofReported_oClock :
    (∃ d, ofReported (some (.text "((it's \"so\"/so\n))")) "text" none .mysql false = some d ∧
      d = quoted "it's \\\"so\\\"\\/so\\n" ∧ d.Denotes (stripBrackets "((it's \"so\"/so\n))")) ∧
    (∃ d, ofReported (some (.text "(now() || '\\')")) "text" none .postgres false = some d ∧
      d = literal "now() || '\\\\'" ∧ d.Denotes (stripBrackets "(now() || '\\')")) ∧
    ∃ d, ofReported (some (.text "(o'clock/now())")) "int" none .mssql false = some d ∧
      d = function "o'clock\\/now" ∧ d.Denotes (stripBrackets "(o'clock/now())") := by
  have hquoted : ofReported (some (.text "((it's \"so\"/so\n))")) "text" none .mysql false
      = some (quoted "it's \\\"so\\\"\\/so\\n") := by decide +kernel
  have hliteral : ofReported (some (.text "(now() || '\\')")) "text" none .postgres false
      = some (literal "now() || '\\\\'") := by decide +kernel
  have hfunction : ofReported (some (.text "(o'clock/now())")) "int" none .mssql false
      = some (function "o'clock\\/now") := by decide +kernel
  exact ⟨⟨_, hquoted, rfl, denotes_ofReported hquoted⟩,
    ⟨_, hliteral, rfl, denotes_ofReported hliteral⟩,
    ⟨_, hfunction, rfl, denotes_ofReported hfunction⟩⟩

end SchemaModels.DefaultValue
