import SchemaModels.Json.Basic
import SchemaModels.Proofs.Decimal.Numerals
import SchemaModels.Proofs.Script.Scan

/-!
# Values in script text

Numbers mean nothing to the scanner, quoted texts stay inside their literal, and JSON text closes
what it opens. The texts are arbitrary: every character of theirs is either kept, and then it is
neither the quote nor a backslash nor a line end, or it is written as an escape that ends inside
the literal again (`reads_scriptChar`, `reads_jsonChar`).
-/

namespace SchemaModels.Script

open Text

/-! ## Numbers -/

theorem isInert_of_mem_numeralChars : ∀ c ∈ Decimal.numeralChars, isInert c = true :=
  List.all_eq_true.mp (by decide)

/-- The digits of a number mean nothing to the scanner, in any base. -/
theorem isInert_of_mem_toDigits {base n : Nat} : ∀ c ∈ Nat.toDigits base n, isInert c = true :=
  fun c hc => isInert_of_mem_numeralChars c (Decimal.toDigits_subset_numeralChars base n hc)

theorem isInert_natText (n : Nat) : IsInert (toString n) :=
  fun c hc => isInert_of_mem_numeralChars c (Decimal.natText_subset_numeralChars n hc)

theorem isInert_intText (n : Int) : IsInert (toString n) :=
  fun c hc => isInert_of_mem_numeralChars c (Decimal.intText_subset_numeralChars n hc)

/-- A number means nothing to the scanner, in either layout. -/
theorem isInert_write (layout : Decimal.Layout) (x : Binary64) : IsInert (layout.write x) :=
  fun c hc => isInert_of_mem_numeralChars c (layout.write_subset_numeralChars x hc)

/-! ## Quoted texts -/

/-- Escaping character by character stays inside a literal if it does so for each character. -/
theorem foldlM_flatMap_literal {q : Quote} {opened : List Bracket} {escape : Char → List Char}
    (h : ∀ c, (escape c).foldlM Scan.guardedStep ⟨.literal q, opened⟩
      = some ⟨.literal q, opened⟩) :
    ∀ (cs : List Char), (cs.flatMap escape).foldlM Scan.guardedStep ⟨.literal q, opened⟩
      = some ⟨.literal q, opened⟩ := by
  intro cs
  induction cs with
  | nil => rfl
  | cons c cs ih =>
    rw [List.flatMap_cons, List.foldlM_append, h c]
    exact ih

/-- A backslash and a character after it, which is no `#`. -/
theorem foldlM_escape {q : Quote} {opened : List Bracket} {c : Char} (hc : c ≠ '#') :
    ['\\', c].foldlM Scan.guardedStep ⟨.literal q, opened⟩ = some ⟨.literal q, opened⟩ := by
  have hback : Scan.guardedStep ⟨.literal q, opened⟩ '\\' = some ⟨.escape q, opened⟩ := by
    cases q <;> rfl
  rw [List.foldlM_cons, hback]
  simp [Scan.guardedStep, Scan.step, hc]

/-- An escape by number. -/
theorem foldlM_escape_hexDigits {q : Quote} {opened : List Bracket} (width n : Nat) :
    (['\\', 'u'] ++ hexDigits width n).foldlM Scan.guardedStep ⟨.literal q, opened⟩
      = some ⟨.literal q, opened⟩ := by
  rw [List.foldlM_append, foldlM_escape (by decide)]
  refine foldlM_guardedStep_of_isInert rfl fun c hc => ?_
  unfold hexDigits at hc
  rcases List.mem_append.mp hc with hc | hc
  · rw [(List.mem_replicate.mp hc).2]; decide
  · exact isInert_of_mem_toDigits c hc

/-- A character that is neither a double quote nor a backslash nor a line end. -/
theorem foldlM_kept {opened : List Bracket} {c : Char} (hq : c ≠ '"') (hb : c ≠ '\\')
    (hn : c ≠ '\n') :
    [c].foldlM Scan.guardedStep ⟨.literal .double, opened⟩ = some ⟨.literal .double, opened⟩ := by
  have hquote : Quote.ofChar? c ≠ some .double := by
    unfold Quote.ofChar?
    rw [if_neg hq]
    split <;> decide
  simp [Scan.guardedStep, Scan.step, Mode.isSteady, hquote, hb, hn]

theorem reads_scriptChar (opened : List Bracket) (c : Char) :
    (scriptChar c).foldlM Scan.guardedStep ⟨.literal .double, opened⟩
      = some ⟨.literal .double, opened⟩ := by
  unfold scriptChar
  split
  · next h => exact foldlM_escape (by rintro rfl; revert h; decide)
  next hplain =>
  simp only [Bool.or_eq_true, decide_eq_true_eq, not_or] at hplain
  repeat' split
  any_goals exact foldlM_escape (by decide)
  · exact foldlM_escape_hexDigits 4 c.toNat
  · exact foldlM_kept hplain.1.1 hplain.1.2 ‹_›

theorem reads_jsonChar (opened : List Bracket) (c : Char) :
    (jsonChar c).foldlM Scan.guardedStep ⟨.literal .double, opened⟩
      = some ⟨.literal .double, opened⟩ := by
  unfold jsonChar
  split
  · next h => exact foldlM_escape (by rintro rfl; revert h; decide)
  next hplain =>
  simp only [Bool.or_eq_true, decide_eq_true_eq, not_or] at hplain
  repeat' split
  any_goals exact foldlM_escape (by decide)
  · exact foldlM_escape_hexDigits 4 c.toNat
  · exact foldlM_kept hplain.1 hplain.2 ‹_›

/-- An escaped text stays inside its literal. -/
theorem reads_scriptEscaped (s : String) (opened : List Bracket) :
    Reads ⟨.literal .double, opened⟩ (scriptEscaped s) ⟨.literal .double, opened⟩ := by
  unfold Reads scriptEscaped
  rw [String.toList_ofList]
  exact foldlM_flatMap_literal (reads_scriptChar opened) s.toList

/-- **Any text can be quoted as a literal.** -/
theorem isBalanced_scriptQuoted (s : String) : IsBalanced (scriptQuoted s) :=
  fun o => ((Reads.fixed rfl).append (reads_scriptEscaped s o)).append (Reads.fixed rfl)

/-- **Any text can be quoted as JSON.** -/
theorem isBalanced_jsonQuoted (s : String) : IsBalanced (jsonQuoted s) := by
  intro o
  unfold Reads jsonQuoted
  rw [String.toList_ofList, List.foldlM_cons]
  -- behind the opening quote
  show ((s.toList.flatMap jsonChar ++ ['"']).foldlM Scan.guardedStep ⟨.literal .double, o⟩) = _
  rw [List.foldlM_append, foldlM_flatMap_literal (reads_jsonChar o) s.toList]
  rfl

/-- A text that does not have the quote needs no backslash. -/
theorem backslashBefore_of_isInert {q : Char} (hq : isInert q = false) {s : String}
    (h : IsInert s) : backslashBefore q s = s := by
  have hkept : ∀ c ∈ s.toList, (if c = q then ['\\', c] else [c]) = [c] := by
    intro c hc
    refine if_neg ?_
    rintro rfl
    rw [h c hc] at hq
    cases hq
  rw [backslashBefore, flatMap_eq_self hkept, String.ofList_toList]

/-! ## JSON text -/

mutual

/-- **JSON text is balanced.** -/
theorem isBalanced_compact : ∀ (v : Json), IsBalanced v.compact
  | .null => .fixed fun _ => rfl
  | .bool true => .fixed fun _ => rfl
  | .bool false => .fixed fun _ => rfl
  | .int n => (isInert_intText n).isBalanced
  | .float x => (isInert_write _ x).isBalanced
  | .str s => isBalanced_jsonQuoted s
  | .arr items =>
    have hitems := isBalanced_intercalate "," (.fixed fun _ => rfl) (isBalanced_compactItems items)
    hitems.between "[" "]" .square (fun _ => .fixed rfl) (fun _ => .fixed rfl)
  | .obj members =>
    have hmembers :=
      isBalanced_intercalate "," (.fixed fun _ => rfl) (isBalanced_compactMembers members)
    hmembers.between "\x7b" "\x7d" .curly (fun _ => .fixed rfl) (fun _ => .fixed rfl)

theorem isBalanced_compactItems : ∀ (items : List Json), ∀ s ∈ Json.compactItems items, IsBalanced s
  | [] => by simp [Json.compactItems]
  | v :: vs => by
    intro s hs
    rw [Json.compactItems] at hs
    rcases List.mem_cons.mp hs with rfl | hs
    · exact isBalanced_compact v
    · exact isBalanced_compactItems vs s hs

theorem isBalanced_compactMembers :
    ∀ (members : List (String × Json)), ∀ s ∈ Json.compactMembers members, IsBalanced s
  | [] => by simp [Json.compactMembers]
  | (k, v) :: ms => by
    intro s hs
    rw [Json.compactMembers] at hs
    rcases List.mem_cons.mp hs with rfl | hs
    · have hcolon : IsBalanced ":" := .fixed fun _ => rfl
      exact ((isBalanced_jsonQuoted k).append hcolon).append (isBalanced_compact v)
    · exact isBalanced_compactMembers ms s hs

end

end SchemaModels.Script
