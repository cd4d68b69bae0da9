import SchemaModels.Proofs.Text.Search

/-!
# Scanning script text

A scanner that knows as much of script code as it takes to tell where a text stands: whether it is
inside a literal between single or double quotes, behind a backslash in one, inside a `//` comment,
or in plain code, and which brackets are open there. `IsClosed` says that a whole text leads from
plain code without open brackets back to it. The scanner has no answer for a bracket that does not
match the innermost open one, nor for a line end inside a literal.

A text is put together from pieces, so statements are about pieces: `Reads before text after`
follows one piece, and pieces compose by `Reads.append`. Three kinds of piece cover nearly all of
generated code.

* `IsBalanced`: from plain code back to plain code with the same brackets open.
* `IsInert`: no character that means anything to the scanner, such as a name or a number.
* Fixed texts, which the scanner reads by computation.

`Reads` is a little stricter than the scanner: it has no answer either for a `#` that a backslash
or a slash stands before. The token for the name of a model starts with that character, so a token
inside a text that `Reads` follows can be replaced without changing what the rest means.
-/

namespace SchemaModels.Script

/-- The quotes that literals stand between. -/
inductive Quote where
  | single
  | double
  deriving DecidableEq

/-- The kinds of brackets. -/
inductive Bracket where
  | round
  | square
  | curly
  deriving DecidableEq

/-- Where in a script a character stands. -/
inductive Mode where
  | code
  /-- In code, behind one slash. -/
  | slash
  /-- In a comment up to the end of its line. -/
  | comment
  | literal (quote : Quote)
  /-- In a literal, behind a backslash. -/
  | escape (quote : Quote)
  deriving DecidableEq

/-- The state of the scanner: its mode, and the open brackets with the innermost one first. -/
structure Scan where
  mode : Mode
  opened : List Bracket
  deriving DecidableEq

/-- The quote that a character is. -/
def Quote.ofChar? (c : Char) : Option Quote :=
  if c = '\'' then some .single else if c = '"' then some .double else none

/-- The bracket that a character opens. -/
def Bracket.ofOpening? (c : Char) : Option Bracket :=
  if c = '(' then some .round
  else if c = '[' then some .square
  else if c = '\x7b' then some .curly
  else none

/-- The bracket that a character closes. -/
def Bracket.ofClosing? (c : Char) : Option Bracket :=
  if c = ')' then some .round
  else if c = ']' then some .square
  else if c = '\x7d' then some .curly
  else none

namespace Scan

/-- Plain code with the given brackets open. -/
def code (opened : List Bracket) : Scan := ⟨.code, opened⟩

/-- The state after closing a bracket, which must be the innermost open one. -/
def close (b : Bracket) : List Bracket → Option Scan
  | [] => none
  | top :: rest => if top = b then some (code rest) else none

/-- The state after one character in plain code. -/
def codeStep (opened : List Bracket) (c : Char) : Option Scan :=
  match Quote.ofChar? c with
  | some q => some ⟨.literal q, opened⟩
  | none =>
    match Bracket.ofOpening? c with
    | some b => some (code (b :: opened))
    | none =>
      match Bracket.ofClosing? c with
      | some b => close b opened
      | none => some ⟨if c = '/' then .slash else .code, opened⟩

/-- The state after one character, none if the character cannot stand there. -/
def step (s : Scan) (c : Char) : Option Scan :=
  match s.mode with
  | .code => codeStep s.opened c
  | .slash => if c = '/' then some ⟨.comment, s.opened⟩ else codeStep s.opened c
  | .comment => if c = '\n' then some (code s.opened) else some s
  | .literal q =>
    if Quote.ofChar? c = some q then some (code s.opened)
    else if c = '\\' then some ⟨.escape q, s.opened⟩
    else if c = '\n' then none
    else some s
  | .escape q => some ⟨.literal q, s.opened⟩

/-- The state after a list of characters. -/
def run (s : Scan) (cs : List Char) : Option Scan := cs.foldlM step s

end Scan

/-- Whether a text is lexically closed and properly nested: scanned from plain code, it ends in
plain code, and each of its brackets is closed in the order of nesting. -/
def IsClosed (text : String) : Prop :=
  (Scan.code []).run text.toList = some (Scan.code [])

instance (text : String) : Decidable (IsClosed text) :=
  inferInstanceAs (Decidable (_ = _))

/-! ## Following a piece of text -/

/-- The modes that a character without meaning leaves as they are. -/
def Mode.isSteady : Mode → Bool
  | .slash | .escape _ => false
  | _ => true

/-- The state after one character, none also for a `#` behind a slash or a backslash. -/
def Scan.guardedStep (s : Scan) (c : Char) : Option Scan :=
  if c = '#' && !s.mode.isSteady then none else s.step c

/-- The piece of text leads the guarded scanner from one state to the other. -/
def Reads (before : Scan) (text : String) (after : Scan) : Prop :=
  text.toList.foldlM Scan.guardedStep before = some after

theorem Reads.append {a b c : Scan} {s t : String} (hs : Reads a s b) (ht : Reads b t c) :
    Reads a (s ++ t) c := by
  unfold Reads at *
  rw [String.toList_append, List.foldlM_append, hs]
  exact ht

/-- A fixed text reads as the scanner computes it. The text is matched as a list of characters,
which is faster than reading the characters off the text. -/
theorem Reads.fixed {a b : Scan} {cs : List Char}
    (h : cs.foldlM Scan.guardedStep a = some b) : Reads a (String.ofList cs) b := by
  rw [Reads, String.toList_ofList]
  exact h

/-- The guarded scanner only refuses more. -/
theorem Scan.step_of_guardedStep {s t : Scan} {c : Char} (h : s.guardedStep c = some t) :
    s.step c = some t := by
  unfold guardedStep at h
  split at h
  · cases h
  · exact h

/-- The piece leads from plain code back to it, and opens and closes the same brackets. -/
def IsBalanced (text : String) : Prop :=
  ∀ opened, Reads (Scan.code opened) text (Scan.code opened)

/-- A fixed text is balanced as the scanner computes it. -/
theorem IsBalanced.fixed {cs : List Char}
    (h : ∀ o, cs.foldlM Scan.guardedStep (Scan.code o) = some (Scan.code o)) :
    IsBalanced (String.ofList cs) :=
  fun o => Reads.fixed (h o)

theorem IsBalanced.append {s t : String} (hs : IsBalanced s) (ht : IsBalanced t) :
    IsBalanced (s ++ t) :=
  fun o => (hs o).append (ht o)

theorem isBalanced_empty : IsBalanced "" := fun _ => rfl

/-- A balanced text between two pieces of which the one opens a bracket and the other closes it. -/
theorem IsBalanced.between {s : String} (hs : IsBalanced s) (front back : String) (b : Bracket)
    (hfront : ∀ o, Reads (Scan.code o) front (Scan.code (b :: o)))
    (hback : ∀ o, Reads (Scan.code (b :: o)) back (Scan.code o)) :
    IsBalanced (front ++ s ++ back) :=
  fun o => ((hfront o).append (hs (b :: o))).append (hback o)

/-- Balanced pieces with a balanced separator between them. -/
theorem isBalanced_intercalate (sep : String) (hsep : IsBalanced sep) :
    ∀ {l : List String}, (∀ s ∈ l, IsBalanced s) → IsBalanced (String.intercalate sep l) := by
  intro l
  induction l with
  | nil => intro _; exact isBalanced_empty
  | cons s l ih =>
    intro h
    cases l with
    | nil => rw [String.intercalate_singleton]; exact h s (by simp)
    | cons t l =>
      rw [String.intercalate_cons_cons]
      exact ((h s (by simp)).append hsep).append (ih fun u hu => h u (by simp_all))

/-- Balanced pieces one after the other. -/
theorem isBalanced_join : ∀ {l : List String}, (∀ s ∈ l, IsBalanced s) →
    IsBalanced (String.join l) := by
  intro l
  induction l with
  | nil => intro _; rw [String.join_nil]; exact isBalanced_empty
  | cons s l ih =>
    intro h
    rw [String.join_cons]
    exact (h s (by simp)).append (ih fun t ht => h t (by simp [ht]))

/-! ## Lines -/

theorem Reads.noLines {a : Scan} : Reads a (Text.unlines []) a := rfl

/-- A line whose end stands in code, and the lines after it. -/
theorem Reads.consLine {a b : Scan} {o : List Bracket} {s : String} {l : List String}
    (hs : Reads a s (Scan.code o)) (hl : Reads (Scan.code o) (Text.unlines l) b) :
    Reads a (Text.unlines (s :: l)) b := by
  rw [Text.unlines_cons]
  exact (hs.append (.fixed rfl)).append hl

theorem Reads.appendLines {a b c : Scan} {l m : List String} (hl : Reads a (Text.unlines l) b)
    (hm : Reads b (Text.unlines m) c) : Reads a (Text.unlines (l ++ m)) c := by
  rw [Text.unlines_append]
  exact hl.append hm

/-- A single line whose end stands in code. -/
theorem Reads.line {a : Scan} {s : String} {o : List Bracket} (h : Reads a s (Scan.code o)) :
    Reads a (Text.unlines [s]) (Scan.code o) :=
  h.consLine .noLines

/-- Balanced lines. -/
theorem isBalanced_unlines {l : List String} (h : ∀ s ∈ l, IsBalanced s) :
    IsBalanced (Text.unlines l) := by
  refine isBalanced_join fun t ht => ?_
  obtain ⟨s, hs, rfl⟩ := List.mem_map.mp ht
  exact (h s hs).append (.fixed fun _ => rfl)

/-- Groups of lines, each group balanced. -/
theorem isBalanced_unlines_flatMap {α : Type} {f : α → List String} :
    ∀ {l : List α}, (∀ a ∈ l, IsBalanced (Text.unlines (f a))) →
      IsBalanced (Text.unlines (l.flatMap f)) := by
  intro l
  induction l with
  | nil => intro _; exact isBalanced_empty
  | cons a l ih =>
    intro h
    rw [List.flatMap_cons, Text.unlines_append]
    exact (h a (by simp)).append (ih fun b hb => h b (List.mem_cons_of_mem a hb))

/-! ## Characters without meaning -/

/-- The characters that mean something to the scanner. -/
def meaningfulChars : List Char :=
  ['\'', '"', '\\', '/', '\n', '(', ')', '[', ']', '\x7b', '\x7d']

/-- Whether a character means nothing to the scanner. -/
def isInert (c : Char) : Bool := !meaningfulChars.contains c

/-- A text without any character that means something to the scanner. -/
def IsInert (text : String) : Prop := ∀ c ∈ text.toList, isInert c = true

instance (text : String) : Decidable (IsInert text) :=
  decidable_of_iff (text.toList.all isInert = true) List.all_eq_true

/-- A fixed text is inert if each of its characters is. -/
theorem IsInert.fixed {cs : List Char} (h : cs.all isInert = true) :
    IsInert (String.ofList cs) := by
  intro c hc
  rw [String.toList_ofList] at hc
  exact List.all_eq_true.mp h c hc

/-- A character without meaning leaves a steady state as it is. -/
theorem Scan.step_of_isInert {s : Scan} (hs : s.mode.isSteady = true) {c : Char}
    (hc : isInert c = true) : s.step c = some s := by
  obtain ⟨mode, opened⟩ := s
  simp only [isInert, meaningfulChars, List.contains_eq_mem, List.mem_cons, List.not_mem_nil,
    or_false, Bool.not_eq_true', decide_eq_false_iff_not, not_or] at hc
  cases mode with
  | code => simp [step, codeStep, Quote.ofChar?, Bracket.ofOpening?, Bracket.ofClosing?, hc]
  | comment => simp [step, hc]
  | literal q => cases q <;> simp [step, Quote.ofChar?, hc]
  | slash => cases hs
  | escape q => cases hs

theorem Scan.guardedStep_of_isInert {s : Scan} (hs : s.mode.isSteady = true) {c : Char}
    (hc : isInert c = true) : s.guardedStep c = some s := by
  rw [guardedStep, hs]
  simpa using step_of_isInert hs hc

/-- Characters that leave a state as it is do so one after the other. -/
theorem foldlM_eq_some_self {step : Scan → Char → Option Scan} {s : Scan} :
    ∀ {cs : List Char}, (∀ c ∈ cs, step s c = some s) → cs.foldlM step s = some s := by
  intro cs
  induction cs with
  | nil => intro _; rfl
  | cons c cs ih =>
    intro h
    rw [List.foldlM_cons, h c List.mem_cons_self]
    exact ih fun d hd => h d (List.mem_cons_of_mem c hd)

/-- Inert characters leave a steady state as it is. -/
theorem foldlM_guardedStep_of_isInert {s : Scan} (hs : s.mode.isSteady = true) {cs : List Char}
    (h : ∀ c ∈ cs, isInert c = true) : cs.foldlM Scan.guardedStep s = some s :=
  foldlM_eq_some_self fun c hc => Scan.guardedStep_of_isInert hs (h c hc)

theorem foldlM_step_of_isInert {s : Scan} (hs : s.mode.isSteady = true) {cs : List Char}
    (h : ∀ c ∈ cs, isInert c = true) : cs.foldlM Scan.step s = some s :=
  foldlM_eq_some_self fun c hc => Scan.step_of_isInert hs (h c hc)

/-- An inert text leaves a steady state as it is. -/
theorem IsInert.reads {text : String} (h : IsInert text) {s : Scan}
    (hs : s.mode.isSteady = true) : Reads s text s :=
  foldlM_guardedStep_of_isInert hs h

theorem IsInert.isBalanced {text : String} (h : IsInert text) : IsBalanced text :=
  fun _ => h.reads rfl

theorem IsInert.append {s t : String} (hs : IsInert s) (ht : IsInert t) : IsInert (s ++ t) := by
  intro c hc
  rw [String.toList_append, List.mem_append] at hc
  exact hc.elim (hs c) (ht c)

/-- An inert text between two pieces of which the one opens a literal and the other closes it. -/
theorem IsInert.isBalanced_within {text : String} (h : IsInert text) (front back : String)
    (q : Quote) (hfront : ∀ o, Reads (Scan.code o) front ⟨.literal q, o⟩)
    (hback : ∀ o, Reads ⟨.literal q, o⟩ back (Scan.code o)) : IsBalanced (front ++ text ++ back) :=
  fun o => ((hfront o).append (h.reads rfl)).append (hback o)

theorem IsInert.isBalanced_singleQuoted {text : String} (h : IsInert text) :
    IsBalanced ("'" ++ text ++ "'") :=
  h.isBalanced_within "'" "'" .single (fun _ => .fixed rfl) (fun _ => .fixed rfl)

theorem IsInert.isBalanced_doubleQuoted {text : String} (h : IsInert text) :
    IsBalanced ("\"" ++ text ++ "\"") :=
  h.isBalanced_within "\"" "\"" .double (fun _ => .fixed rfl) (fun _ => .fixed rfl)

end SchemaModels.Script
