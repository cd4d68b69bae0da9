import SchemaModels.Proofs.Script.Literal

/-!
# Escaped texts in literals

A text that is escaped for double quotes is what stands between them (`readsAs_escaped`). It also
serves for a literal between single quotes, once these are escaped in turn: the first escaping has
left them alone, and none of its escapes has one for the second to break.

Both follow from what escaping makes of one character (`scriptChar_cases`). The character stays, and
then it has no meaning in the literal unless it is a single quote; or it becomes an escape that is
read back as the character whatever comes after it.
-/

namespace SchemaModels.Script

open Text

/-! ## One character -/

/-- A single quote, a bracket or a comma: no escape has one behind its backslash. -/
def isNeverEscape (d : Char) : Bool := ['\'', '(', ')', '\x7b', '\x7d', ','].contains d

/-- What stands behind a backslash is an escape for the character, whatever comes next. -/
def IsEscapeOf (c : Char) (tail : List Char) : Prop :=
  tail.any isNeverEscape = false ∧
    ∀ rest, escape? (tail ++ rest) = some ⟨codeUnits c.toNat, tail.length⟩

theorem IsEscapeOf.not_mem {c d : Char} {tail : List Char} (h : IsEscapeOf c tail)
    (hd : isNeverEscape d = true) : d ∉ tail :=
  fun hmem => List.any_eq_false.mp h.1 d hmem hd

theorem lt_of_isControl {c : Char} (h : isControl c = true) : c.toNat < 0xA0 := by
  simp only [isControl, Bool.or_eq_true, Bool.and_eq_true, decide_eq_true_eq] at h
  omega

/-- The escape by number of a control character has four digits, which mean the character. -/
theorem hexDigits_of_lt : ∀ n < 0xA0, (hexDigits 4 n).length = 4 ∧
    (hexDigits 4 n).head? ≠ some '\x7b' ∧ unicodeEscape? (hexDigits 4 n) = some ⟨[n], 5⟩ ∧
    (hexDigits 4 n).any isNeverEscape = false := by
  decide +kernel

/-- Four digits are an escape whatever comes next. -/
theorem unicodeEscape?_append {ds : List Char} (hlength : ds.length = 4)
    (hbrace : ds.head? ≠ some '\x7b') (rest : List Char) :
    unicodeEscape? (ds ++ rest) = unicodeEscape? ds := by
  rcases ds with _ | ⟨a, _ | ⟨b, _ | ⟨c, _ | ⟨d, _ | ⟨e, ds⟩⟩⟩⟩⟩ <;> simp at hlength
  -- so the digits are not those of an escape in braces
  have ha : a ≠ '\x7b' := by simpa using hbrace
  simp [unicodeEscape?]

theorem isEscapeOf_hexDigits {c : Char} (h : isControl c = true) :
    IsEscapeOf c ('u' :: hexDigits 4 c.toNat) := by
  have hlt := lt_of_isControl h
  obtain ⟨hlength, hbrace, hmeans, hnever⟩ := hexDigits_of_lt c.toNat hlt
  have hunits : codeUnits c.toNat = [c.toNat] := if_pos (by omega)
  refine ⟨Bool.or_eq_false_iff.mpr ⟨rfl, hnever⟩, fun rest => ?_⟩
  rw [List.cons_append, escape?, if_pos rfl, unicodeEscape?_append hlength hbrace, hmeans, hunits,
    List.length_cons, hlength]

/-- **Escaping leaves a character that means itself, or makes an escape of it.** -/
theorem scriptChar_cases (c : Char) :
    (scriptChar c = [c] ∧ IsPlain c ∧ c ≠ '"')
      ∨ ∃ tail, scriptChar c = '\\' :: tail ∧ IsEscapeOf c tail := by
  have hof : ∀ {n : Nat} {d : Char}, c.toNat = n → d.toNat = n → c = d :=
    fun hc hd => Char.toNat_inj.mp (hc.trans hd.symm)
  unfold scriptChar
  split
  · next h =>
    refine .inr ⟨[c], rfl, ?_⟩
    simp only [Bool.or_eq_true, decide_eq_true_eq] at h
    rcases h with (rfl | rfl) | rfl <;> exact ⟨rfl, fun _ => rfl⟩
  next hself =>
  split
  · next h => subst h; exact .inr ⟨['n'], rfl, rfl, fun _ => rfl⟩
  next hfeed =>
  split
  · next h => subst h; exact .inr ⟨['r'], rfl, rfl, fun _ => rfl⟩
  next hreturn =>
  split
  · next h => subst h; exact .inr ⟨['t'], rfl, rfl, fun _ => rfl⟩
  split
  · next h =>
    obtain rfl : c = '\x08' := hof h rfl
    exact .inr ⟨['b'], rfl, rfl, fun _ => rfl⟩
  split
  · next h =>
    obtain rfl : c = '\x0c' := hof h rfl
    exact .inr ⟨['f'], rfl, rfl, fun _ => rfl⟩
  split
  · next h => exact .inr ⟨'u' :: hexDigits 4 c.toNat, rfl, isEscapeOf_hexDigits h⟩
  · simp only [Bool.or_eq_true, decide_eq_true_eq, not_or] at hself
    exact .inl ⟨rfl, ⟨hself.1.2, hfeed, hreturn⟩, hself.1.1⟩

/-- The characters that get a backslash. -/
theorem eq_of_marked {c : Char} (h : ['"', '\\', '/'].contains c = true) :
    c = '"' ∨ c = '\\' ∨ c = '/' := by
  simpa using h

/-- How an escaped character looks: it is kept, or it stands behind a backslash, or letters and
digits behind one stand for it. -/
inductive EscapeForm (c : Char) : List Char → Prop where
  | kept (hself : ['"', '\\', '/'].contains c = false) (hcontrol : isControl c = false) :
      EscapeForm c [c]
  | marked (h : ['"', '\\', '/'].contains c = true) : EscapeForm c ['\\', c]
  | coded (h : isControl c = true) {d : Char} {ds : List Char}
      (hcode : ∀ x ∈ d :: ds, x.isAlphanum = true) : EscapeForm c ('\\' :: d :: ds)

theorem all_isAlphanum_hexDigits : ∀ n < 0xA0, (hexDigits 4 n).all Char.isAlphanum = true := by
  decide +kernel

/-- A letter behind a backslash. -/
theorem EscapeForm.letter {c d : Char} (h : isControl c = true) (hd : d.isAlphanum = true) :
    EscapeForm c ['\\', d] :=
  .coded h (List.forall_mem_singleton.mpr hd)

/-- **Control characters become letters and digits, and quotes and slashes get a backslash.** -/
theorem escapeForm_scriptChar (c : Char) : EscapeForm c (scriptChar c) := by
  have hlow : c.toNat < 0x20 → isControl c = true := by
    intro hlt
    simp [isControl, hlt]
  unfold scriptChar
  split
  · next h =>
    refine .marked ?_
    simp only [Bool.or_eq_true, decide_eq_true_eq] at h
    rcases h with (rfl | rfl) | rfl <;> rfl
  next hself =>
  split
  · next h => subst h; exact .letter rfl rfl
  split
  · next h => subst h; exact .letter rfl rfl
  split
  · next h => subst h; exact .letter rfl rfl
  split
  · next h => exact .letter (hlow (by omega)) rfl
  split
  · next h => exact .letter (hlow (by omega)) rfl
  split
  · next h =>
    have hdigits := all_isAlphanum_hexDigits c.toNat (lt_of_isControl h)
    exact .coded h (List.forall_mem_cons.mpr ⟨rfl, List.all_eq_true.mp hdigits⟩)
  · next h =>
    refine .kept ?_ (Bool.eq_false_iff.mpr h)
    simpa [not_or, and_assoc] using hself

/-! ## Texts without escapes -/

/-- A character without a meaning of its own in a literal is kept. -/
theorem scriptChar_eq_self {c : Char} (hself : ['"', '\\', '/'].contains c = false)
    (hcontrol : isControl c = false) : scriptChar c = [c] := by
  obtain ⟨cs, hcs⟩ : ∃ cs, scriptChar c = cs := ⟨_, rfl⟩
  have hform := escapeForm_scriptChar c
  rw [hcs] at hform ⊢
  cases hform with
  | kept => rfl
  | marked h => rw [h] at hself; cases hself
  | coded h => rw [h] at hcontrol; cases hcontrol

theorem scriptEscaped_eq_self {s : String} (h : ∀ c ∈ s.toList, scriptChar c = [c]) :
    scriptEscaped s = s := by
  rw [scriptEscaped, flatMap_eq_self h, String.ofList_toList]

/-- Without a backslash in it, the escaped text is the text. -/
theorem scriptEscaped_eq_self_of_notMem {s : String} (h : '\\' ∉ (scriptEscaped s).toList) :
    scriptEscaped s = s := by
  refine scriptEscaped_eq_self fun c hc => ?_
  rcases scriptChar_cases c with ⟨hself, -, -⟩ | ⟨tail, htail, -⟩
  · exact hself
  · refine absurd ?_ h
    rw [scriptEscaped, String.toList_ofList, List.mem_flatMap]
    exact ⟨c, hc, by rw [htail]; exact List.mem_cons_self⟩

/-! ## Reading back -/

/-- A character of an escaped text in a literal between the given quotes: escaped in turn if it is a
single quote and the quotes are single. -/
def escapeAgain : Quote → Char → List Char
  | .double, d => [d]
  | .single, d => escapeQuote .single d

/-- A character of a text as it stands in a literal between the given quotes. -/
def inLiteral (q : Quote) (c : Char) : List Char :=
  (scriptChar c).flatMap (escapeAgain q)

theorem escapeAgain_of_ne (q : Quote) {d : Char} (h : d ≠ '\'') : escapeAgain q d = [d] := by
  cases q with
  | double => rfl
  | single => exact escapeQuote_of_ne h

/-- The second escaping leaves the escapes of the first one as they are. -/
theorem flatMap_escapeAgain_of_isEscapeOf (q : Quote) {c : Char} {tail : List Char}
    (h : IsEscapeOf c tail) : ('\\' :: tail).flatMap (escapeAgain q) = '\\' :: tail := by
  refine flatMap_eq_self (List.forall_mem_cons.mpr
    ⟨escapeAgain_of_ne q (by decide), fun d hd => escapeAgain_of_ne q ?_⟩)
  rintro rfl
  exact h.not_mem rfl hd

/-- An escape in front is read as the character. -/
theorem bodyUnits?_of_isEscapeOf (q : Quote) {c : Char} {tail : List Char}
    (h : IsEscapeOf c tail) (rest : List Char) : bodyUnits? q 0 ('\\' :: tail ++ rest)
      = (bodyUnits? q 0 rest).map (codeUnits c.toNat ++ ·) := by
  rw [List.cons_append, bodyUnits?, if_neg (quote_ne_backslash q), if_pos rfl, h.2 rest]
  dsimp only
  rw [bodyUnits?_eq_drop, List.drop_left]

/-- A plain character in front is read as itself. -/
theorem bodyUnits?_of_isPlain {q : Quote} {c : Char} (hc : IsPlain c) (hquote : c ≠ q.char)
    (rest : List Char) : bodyUnits? q 0 ([c] ++ rest)
      = (bodyUnits? q 0 rest).map (codeUnits c.toNat ++ ·) := by
  obtain ⟨hback, hfeed, hreturn⟩ := hc
  rw [List.singleton_append, bodyUnits?, if_neg hquote, if_neg hback]
  simp [hfeed, hreturn]

/-- What stands for a character in front is read as the character. -/
theorem bodyUnits?_inLiteral (q : Quote) (c : Char) (rest : List Char) :
    bodyUnits? q 0 (inLiteral q c ++ rest)
      = (bodyUnits? q 0 rest).map (codeUnits c.toNat ++ ·) := by
  unfold inLiteral
  rcases scriptChar_cases c with ⟨hself, hplain, hdouble⟩ | ⟨tail, htail, hescape⟩
  · rw [hself, List.flatMap_singleton]
    by_cases hc : c = '\''
    · subst hc
      cases q with
      | double => exact bodyUnits?_of_isPlain (q := .double) hplain hdouble rest
      | single => rfl
    · rw [escapeAgain_of_ne q hc]
      refine bodyUnits?_of_isPlain hplain ?_ rest
      cases q with
      | double => exact hdouble
      | single => exact hc
  · rw [htail, flatMap_escapeAgain_of_isEscapeOf q hescape]
    exact bodyUnits?_of_isEscapeOf q hescape rest

/-- The escaped characters and the quote that closes them are read as the characters. -/
theorem bodyUnits?_flatMap_inLiteral (q : Quote) : ∀ (cs : List Char),
    bodyUnits? q 0 (cs.flatMap (inLiteral q) ++ [q.char]) = some (units cs) := by
  intro cs
  induction cs with
  | nil => simp [bodyUnits?, units]
  | cons c cs ih =>
    rw [List.flatMap_cons, List.append_assoc, bodyUnits?_inLiteral, ih, units_cons]
    rfl

/-! ## The whole literal -/

/-- The literal is one closed literal between the given quotes, and it stands for the text. -/
def ReadsAsIn (q : Quote) (literal text : String) : Prop :=
  literal.toList.head? = some q.char ∧ ReadsAs literal text

instance (q : Quote) (literal text : String) : Decidable (ReadsAsIn q literal text) :=
  inferInstanceAs (Decidable (literal.toList.head? = some q.char ∧ ReadsAs literal text))

/-- An escaped text as it stands between the given quotes. -/
def escapedIn : Quote → String → String
  | .double, s => s
  | .single, s => backslashBefore '\'' s

theorem toList_escapedIn (q : Quote) (s : String) :
    (escapedIn q (scriptEscaped s)).toList = s.toList.flatMap (inLiteral q) := by
  have hflat : (scriptEscaped s).toList.flatMap (escapeAgain q)
      = s.toList.flatMap (inLiteral q) := by
    rw [scriptEscaped, String.toList_ofList, List.flatMap_assoc]
    rfl
  rw [← hflat]
  cases q with
  | double => exact (List.flatMap_singleton' _).symm
  | single =>
    rw [escapedIn, backslashBefore, String.toList_ofList]
    rfl

/-- **Between either quotes an escaped text stands for the text.** -/
theorem readsAsIn_escapedIn (q : Quote) (s : String) :
    ReadsAsIn q (q.mark ++ escapedIn q (scriptEscaped s) ++ q.mark) s := by
  have hquote : Quote.ofChar? q.char = some q := by cases q <;> rfl
  have hchars : (q.mark ++ escapedIn q (scriptEscaped s) ++ q.mark).toList
      = q.char :: (s.toList.flatMap (inLiteral q) ++ [q.char]) := by
    simp only [Quote.mark, String.toList_append, String.toList_ofList, toList_escapedIn]
    rfl
  rw [ReadsAsIn, ReadsAs, literalUnits?, hchars]
  refine ⟨rfl, ?_⟩
  simp only [hquote, Option.bind_some]
  exact bodyUnits?_flatMap_inLiteral q s.toList

end SchemaModels.Script
