import SchemaModels.Proofs.Script.Scan
import SchemaModels.Proofs.Text.CaseStable

/-!
# Tame texts

A tame text is ASCII and means nothing to the scanner. Names that a generated module writes without
escaping them are tame, and they stay so under the case mappings: an ASCII character goes to one
ASCII character (`caseStable_isTame`), so that the tables of the Unicode standard never come into
it.
-/

namespace SchemaModels.Text

open Script (isInert IsInert)

/-- An ASCII character without meaning to the scanner. -/
def isTame (c : Char) : Bool := isAscii c && isInert c

/-- A list of tame characters. -/
def TameChars (cs : List Char) : Prop := ∀ c ∈ cs, isTame c = true

/-- A text of tame characters. -/
def IsTame (s : String) : Prop := TameChars s.toList

instance (cs : List Char) : Decidable (TameChars cs) :=
  decidable_of_iff (cs.all isTame = true) List.all_eq_true

instance (s : String) : Decidable (IsTame s) :=
  inferInstanceAs (Decidable (TameChars s.toList))

theorem isAscii_of_isTame {c : Char} (h : isTame c = true) : isAscii c = true :=
  (Bool.and_eq_true_iff.mp h).1

theorem IsTame.isInert {s : String} (h : IsTame s) : IsInert s :=
  fun c hc => (Bool.and_eq_true_iff.mp (h c hc)).2

/-! ## Case mappings -/

theorem isTame_charToLower {c : Char} (h : isTame c = true) : isTame c.toLower = true := by
  refine forall_isAscii (p := fun c => isTame c = true → isTame c.toLower = true) ?_
    (isAscii_of_isTame h) h
  decide

theorem isTame_charToUpper {c : Char} (h : isTame c = true) : isTame c.toUpper = true := by
  refine forall_isAscii (p := fun c => isTame c = true → isTame c.toUpper = true) ?_
    (isAscii_of_isTame h) h
  decide

/-- The case mappings keep tame characters tame. A capital sigma is not one of them. -/
theorem caseStable_isTame : CaseStable isTame where
  lower h := by
    rw [toLower, if_pos (isAscii_of_isTame h)]
    exact only_nil.cons (isTame_charToLower h)
  upper h := by
    rw [toUpper, if_pos (isAscii_of_isTame h)]
    exact only_nil.cons (isTame_charToUpper h)
  sigma h := by
    revert h
    decide

theorem IsTame.upperFirst {s : String} (h : IsTame s) : IsTame (upperFirst s) :=
  caseStable_isTame.upperFirst h

end SchemaModels.Text
