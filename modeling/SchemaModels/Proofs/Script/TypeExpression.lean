import SchemaModels.Naming.Identifier
import SchemaModels.Proofs.Script.Literal

/-!
# Reading type expressions

The type that a type expression of typed script code stands for. Expressions are made of words,
which are names, keywords or numerals, of literals, of brackets `[]` behind the type of the elements
of an array, of bars between the members of a union, and of parentheses. The brackets bind tighter
than the bars: `string | number[]` is a union, and only its last member is an array. Whatever else a
type can be made of is not read.

The reader goes from character to character. Outside of a word or a literal its state is that of
the innermost open parenthesis: the type before the last bar, and the type behind it. So brackets at
the end of an expression go to what stands behind the last bar (`typeFrame?_brackets`), and the
expression becomes an array of its type just if there is no bar (`readsAsArrayOf_brackets_iff`).
-/

namespace SchemaModels.Script

open Text

/-- A type. A literal is known by the code units of its text. -/
inductive TypeExpr where
  | word (name : String)
  | literal (units : List Nat)
  | array (element : TypeExpr)
  | union (first second : TypeExpr)
  deriving DecidableEq

/-- What is read between two parentheses. -/
structure TypeFrame where
  /-- The type before the last bar, if there is a bar. -/
  before : Option TypeExpr := none
  /-- What was read since then. -/
  last : Option TypeExpr := none
  deriving DecidableEq

namespace TypeFrame

/-- The type, if it does not end with a bar. -/
def type? (f : TypeFrame) : Option TypeExpr :=
  match f.before with
  | none => f.last
  | some b => f.last.map b.union

/-- Puts a type where there is none since the last bar. -/
def enter (f : TypeFrame) (t : TypeExpr) : Option TypeFrame :=
  if f.last.isNone then some { f with last := some t } else none

/-- What a bar makes of it. -/
def bar (f : TypeFrame) : Option TypeFrame :=
  f.type?.map fun t => { before := some t }

/-- What brackets make of it: they go to what stands behind the last bar. -/
def brackets (f : TypeFrame) : Option TypeFrame :=
  f.last.map fun t => { f with last := some (.array t) }

/-- A word goes on. -/
def extend (f : TypeFrame) (c : Char) : Option TypeFrame :=
  match f.last with
  | some (.word name) => some { f with last := some (.word (name.push c)) }
  | _ => none

end TypeFrame

/-- What the last character belongs to. -/
inductive TypeLexeme where
  | gap
  | word
  /-- A literal, of which the body has been read so far. -/
  | literal (quote : Quote) (body : List Char) (escaped : Bool)
  /-- A bracket that has to be closed at once. -/
  | bracket
  deriving DecidableEq

/-- The state of the reader. -/
structure TypeScan where
  lexeme : TypeLexeme := .gap
  frame : TypeFrame := {}
  /-- What was read around the open parentheses. -/
  outer : List TypeFrame := []
  deriving DecidableEq

namespace TypeScan

/-- Reads a character that belongs to nothing before it. -/
def start (s : TypeScan) (c : Char) : Option TypeScan :=
  if c = ' ' then some { s with lexeme := .gap }
  else if Naming.continuesIdentifier c then
    (s.frame.enter (.word (String.singleton c))).map fun f => { s with lexeme := .word, frame := f }
  else if c = '|' then s.frame.bar.map fun f => { s with lexeme := .gap, frame := f }
  else if c = '[' then some { s with lexeme := .bracket }
  else if c = '(' then some { lexeme := .gap, frame := {}, outer := s.frame :: s.outer }
  else if c = ')' then
    match s.outer with
    | [] => none
    | f :: outer => do some { lexeme := .gap, frame := ← f.enter (← s.frame.type?), outer }
  else (Quote.ofChar? c).map fun q => { s with lexeme := .literal q [] false }

/-- Reads a character of a literal. -/
def stepLiteral (s : TypeScan) (q : Quote) (body : List Char) (escaped : Bool) (c : Char) :
    Option TypeScan :=
  if escaped then some { s with lexeme := .literal q (body ++ [c]) false }
  else if c = '\\' then some { s with lexeme := .literal q (body ++ [c]) true }
  else if c = q.char then do
    let us ← bodyUnits? q 0 (body ++ [c])
    some { s with lexeme := .gap, frame := ← s.frame.enter (.literal us) }
  else some { s with lexeme := .literal q (body ++ [c]) false }

/-- Reads a character. -/
def step (s : TypeScan) (c : Char) : Option TypeScan :=
  match s.lexeme with
  | .gap => s.start c
  | .word =>
    if Naming.continuesIdentifier c then s.frame.extend c |>.map fun f => { s with frame := f }
    else s.start c
  | .literal q body escaped => s.stepLiteral q body escaped c
  | .bracket =>
    if c = ']' then s.frame.brackets.map fun f => { s with lexeme := .gap, frame := f } else none

/-- What was read, if nothing is open. -/
def frame? (s : TypeScan) : Option TypeFrame :=
  if (s.lexeme = .gap ∨ s.lexeme = .word) ∧ s.outer = [] then some s.frame else none

end TypeScan

/-- What is read of a whole expression. -/
def typeFrame? (e : String) : Option TypeFrame :=
  (e.toList.foldlM TypeScan.step {}).bind TypeScan.frame?

/-- The type that an expression stands for. -/
def typeOf? (e : String) : Option TypeExpr :=
  (typeFrame? e).bind TypeFrame.type?

/-- The type that an expression without a bar outside of parentheses stands for. -/
def operandOf? (e : String) : Option TypeExpr :=
  (typeFrame? e).bind fun f => if f.before.isNone then f.last else none

/-- The one expression stands for an array of what the other stands for. -/
def ReadsAsArrayOf (e element : String) : Prop :=
  ∃ t, typeOf? element = some t ∧ typeOf? e = some (.array t)

/-! ## Brackets at the end -/

theorem TypeScan.frame?_eq_some_iff {s : TypeScan} {f : TypeFrame} : s.frame? = some f ↔
    (s.lexeme = .gap ∨ s.lexeme = .word) ∧ s.outer = [] ∧ s.frame = f := by
  unfold TypeScan.frame?
  split
  · next h => simp [h]
  · next h => simpa using fun hlexeme houter => absurd ⟨hlexeme, houter⟩ h

theorem TypeScan.start_bracket (s : TypeScan) :
    s.start '[' = some { s with lexeme := .bracket } :=
  rfl

/-- **Brackets go to what stands behind the last bar.** -/
theorem typeFrame?_brackets {e : String} {f : TypeFrame} (h : typeFrame? e = some f) :
    typeFrame? (e ++ "[]") = f.brackets := by
  obtain ⟨s, hs, hf⟩ := Option.bind_eq_some_iff.mp h
  obtain ⟨hlexeme, houter, rfl⟩ := TypeScan.frame?_eq_some_iff.mp hf
  have hopen : s.step '[' = some { s with lexeme := .bracket } := by
    have hword : Naming.continuesIdentifier '[' = false := by decide
    rcases hlexeme with hgap | hgap <;> simp [TypeScan.step, hgap, hword, s.start_bracket]
  have hclose : ({ s with lexeme := .bracket } : TypeScan).step ']'
      = s.frame.brackets.map fun f => { s with lexeme := .gap, frame := f } := rfl
  rw [typeFrame?, String.toList_append, List.foldlM_append, hs]
  change (s.step '[' >>= fun u => u.step ']' >>= pure).bind TypeScan.frame? = _
  rw [hopen, Option.bind_eq_bind, Option.bind_some, hclose]
  cases s.frame.brackets with
  | none => rfl
  | some f => exact TypeScan.frame?_eq_some_iff.mpr ⟨.inl rfl, houter, rfl⟩

/-- Brackets make an expression that of an array of its type just if it has no bar. -/
theorem readsAsArrayOf_brackets_iff (e : String) :
    ReadsAsArrayOf (e ++ "[]") e ↔ ∃ t, operandOf? e = some t := by
  cases hframe : typeFrame? e with
  | none => simp [ReadsAsArrayOf, typeOf?, operandOf?, hframe]
  | some f =>
    have hbrackets := typeFrame?_brackets hframe
    obtain ⟨before, last⟩ := f
    cases last with
    | none => cases before <;> simp [ReadsAsArrayOf, typeOf?, operandOf?, hframe, TypeFrame.type?]
    | some t =>
      -- behind a bar the array is a member of a union, and no array itself
      cases before <;> simp [ReadsAsArrayOf, typeOf?, operandOf?, hframe, hbrackets,
        TypeFrame.type?, TypeFrame.brackets]

theorem operandOf?_eq_some_iff {e : String} {t : TypeExpr} :
    operandOf? e = some t ↔ typeFrame? e = some { last := some t } := by
  cases hframe : typeFrame? e with
  | none => simp [operandOf?, hframe]
  | some f =>
    obtain ⟨before, last⟩ := f
    cases before <;> simp [operandOf?, hframe]

/-! ## Literals between bars -/

namespace TypeScan

/-- The body of a literal with its quotes escaped does not end the literal. -/
theorem foldlM_body {q : Quote} {f : TypeFrame} : ∀ {cs : List Char}, (∀ c ∈ cs, IsPlain c) →
    ∀ body, (cs.flatMap (escapeQuote q)).foldlM step { lexeme := .literal q body false, frame := f }
      = some { lexeme := .literal q (body ++ cs.flatMap (escapeQuote q)) false, frame := f } := by
  intro cs
  induction cs with
  | nil => intro _ body; simp
  | cons c cs ih =>
    intro h body
    obtain ⟨hc, hcs⟩ := List.forall_mem_cons.mp h
    have hletter : (escapeQuote q c).foldlM step { lexeme := .literal q body false, frame := f }
        = some { lexeme := .literal q (body ++ escapeQuote q c) false, frame := f } := by
      by_cases hquote : c = q.char
      · rw [hquote, escapeQuote_quote]
        simp [step, stepLiteral]
      · rw [escapeQuote_of_ne hquote]
        simp [step, stepLiteral, hquote, hc.1]
    rw [List.flatMap_cons, List.foldlM_append, hletter, Option.bind_eq_bind, Option.bind_some,
      ih hcs, List.append_assoc]

/-- The state between two pieces of an expression, with no parenthesis open. -/
def between (before last : Option TypeExpr) : TypeScan := { frame := { before, last } }

/-- A text that its quoting keeps becomes the last type. -/
theorem foldlM_write {k : Quoting} {text : String} (h : k.Keeps text) (before : Option TypeExpr) :
    (k.write text).toList.foldlM step (between before none)
      = some (between before (some (.literal (units text.toList)))) := by
  have hopen : (between before none).step k.quote.char
      = some { lexeme := .literal k.quote [] false, frame := { before } } := by
    cases k.quote <;> rfl
  have hplain : ∀ c ∈ text.toList, IsPlain c := fun c hc => (h c hc).1
  have hclose : ({ lexeme := .literal k.quote (text.toList.flatMap (escapeQuote k.quote)) false
                   frame := { before } } : TypeScan).step k.quote.char
      = some (between before (some (.literal (units text.toList)))) := by
    have hunits := bodyUnits?_append k.quote hplain
    simp [step, stepLiteral, hunits, Ne.symm (quote_ne_backslash k.quote), TypeFrame.enter, between]
  rw [k.toList_write, Quoting.body_eq_flatMap fun c hc => (h c hc).2, List.foldlM_cons, hopen,
    Option.bind_eq_bind, Option.bind_some, List.foldlM_append, foldlM_body hplain, List.nil_append,
    Option.bind_eq_bind, Option.bind_some, List.foldlM_cons, hclose]
  rfl

/-- Behind a bar the next type is read. -/
theorem foldlM_bar (before : Option TypeExpr) (t : TypeExpr) : ∃ union,
    " | ".toList.foldlM step (between before (some t)) = some (between (some union) none) := by
  cases before with
  | none => exact ⟨t, rfl⟩
  | some b => exact ⟨b.union t, rfl⟩

/-- Of several literals between bars, the last one is behind the last bar. -/
theorem foldlM_union {k : Quoting} : ∀ {init : List String} {last : String},
    (∀ text ∈ init, k.Keeps text) → k.Keeps last → ∀ before, ∃ before',
      (String.intercalate " | " ((init ++ [last]).map k.write)).toList.foldlM step
          (between before none)
        = some (between before' (some (.literal (units last.toList)))) ∧
      (before'.isNone = true ↔ before.isNone = true ∧ init = []) := by
  intro init
  induction init with
  | nil =>
    intro last _ hlast before
    refine ⟨before, ?_, by simp⟩
    rw [List.nil_append, List.map_singleton, String.intercalate_singleton]
    exact foldlM_write hlast before
  | cons text init ih =>
    intro last hinit hlast before
    obtain ⟨htext, hinit⟩ := List.forall_mem_cons.mp hinit
    obtain ⟨union, hbar⟩ := foldlM_bar before (.literal (units text.toList))
    obtain ⟨before', hrest, hnone⟩ := ih hinit hlast (some union)
    have hjoined : String.intercalate " | " (((text :: init) ++ [last]).map k.write)
        = k.write text ++ " | " ++ String.intercalate " | " ((init ++ [last]).map k.write) := by
      have hne : (init ++ [last]).map k.write ≠ [] := by simp
      obtain ⟨next, rest, hnext⟩ := List.exists_cons_of_ne_nil hne
      rw [List.cons_append, List.map_cons, hnext, String.intercalate_cons_cons]
    refine ⟨before', ?_, by simpa using hnone⟩
    rw [hjoined, String.toList_append, String.toList_append, List.foldlM_append,
      List.foldlM_append, foldlM_write htext, Option.bind_eq_bind, Option.bind_some, hbar]
    exact hrest

end TypeScan

/-- The last of several quoted texts stands behind the last bar. -/
theorem typeFrame?_union {k : Quoting} {init : List String} {last : String}
    (hinit : ∀ text ∈ init, k.Keeps text) (hlast : k.Keeps last) : ∃ before,
      typeFrame? (String.intercalate " | " ((init ++ [last]).map k.write))
        = some { before, last := some (.literal (units last.toList)) } ∧
      (before.isNone = true ↔ init = []) := by
  obtain ⟨before, hread, hnone⟩ := TypeScan.foldlM_union hinit hlast none
  have hstart : ({} : TypeScan) = TypeScan.between none none := rfl
  refine ⟨before, ?_, by simpa using hnone⟩
  rw [typeFrame?, hstart, hread]
  rfl

/-- **A union of quoted texts is one operand just if it is one text.** -/
theorem exists_operandOf?_union_iff {k : Quoting} {texts : List String}
    (h : ∀ text ∈ texts, k.Keeps text) :
    (∃ t, operandOf? (String.intercalate " | " (texts.map k.write)) = some t)
      ↔ texts.length = 1 := by
  rcases List.eq_nil_or_concat texts with rfl | ⟨init, last, rfl⟩
  · simp [operandOf?, typeFrame?, TypeScan.frame?]
  · rw [List.concat_eq_append] at h ⊢
    obtain ⟨hinit, hlast⟩ := List.forall_mem_append.mp h
    obtain ⟨before, hframe, hnone⟩ := typeFrame?_union hinit (List.forall_mem_singleton.mp hlast)
    simp only [operandOf?_eq_some_iff, hframe]
    cases before <;> simp_all

example : typeOf? "(\"a\" | b)[][]" =
    some (.array (.array (.union (.literal [97]) (.word "b")))) := by
  decide

end SchemaModels.Script
