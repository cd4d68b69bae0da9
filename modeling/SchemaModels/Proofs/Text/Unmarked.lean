import SchemaModels.Proofs.Text.CaseStable
import SchemaModels.Proofs.Text.Search

/-!
# Unmarked texts

The token that stands for the name of a model begins and ends with the mark `#`. A text without the
mark has no part of a token in it. None of the operations on texts makes a mark: neither joining
unmarked texts nor mapping their case nor escaping them, and no number has one.
-/

namespace SchemaModels.Text

/-- Any character but the mark of the token. -/
def isUnmarked (c : Char) : Bool := c != '#'

/-- A text without the mark of the token. -/
def Unmarked (s : String) : Prop := Only isUnmarked s.toList

theorem unmarked_iff {s : String} : Unmarked s ↔ '#' ∉ s.toList := by
  constructor
  · intro h hmark
    exact absurd (h '#' hmark) (by decide)
  · intro h c hc
    exact bne_iff_ne.mpr fun hmark => h (hmark ▸ hc)

instance (s : String) : Decidable (Unmarked s) :=
  decidable_of_iff (s.toList.all isUnmarked = true) List.all_eq_true

/-! ## Putting texts together -/

theorem unmarked_empty : Unmarked "" := only_nil

/-- A fixed text, whose characters are looked at by computation. -/
theorem Unmarked.fixed {cs : List Char} (h : cs.all isUnmarked = true) :
    Unmarked (String.ofList cs) := by
  rw [Unmarked, String.toList_ofList]
  exact List.all_eq_true.mp h

theorem unmarked_append {s t : String} : Unmarked (s ++ t) ↔ Unmarked s ∧ Unmarked t := by
  unfold Unmarked Only
  rw [String.toList_append, List.forall_mem_append]

theorem Unmarked.append {s t : String} (hs : Unmarked s) (ht : Unmarked t) : Unmarked (s ++ t) :=
  unmarked_append.mpr ⟨hs, ht⟩

theorem unmarked_ofList {cs : List Char} : Unmarked (String.ofList cs) ↔ Only isUnmarked cs := by
  rw [Unmarked, String.toList_ofList]

theorem Unmarked.of_subset {s t : String} (h : Unmarked t) (hsub : s.toList ⊆ t.toList) :
    Unmarked s :=
  Only.of_subset h hsub

theorem unmarked_intercalate {sep : String} (hsep : Unmarked sep) {l : List String}
    (h : ∀ s ∈ l, Unmarked s) : Unmarked (String.intercalate sep l) :=
  only_intercalate hsep h

theorem unmarked_join : ∀ {l : List String}, (∀ s ∈ l, Unmarked s) → Unmarked (String.join l) := by
  intro l h
  rw [Unmarked, String.toList_join]
  exact Only.flatMap h

theorem unmarked_unlines {l : List String} (h : ∀ s ∈ l, Unmarked s) : Unmarked (unlines l) := by
  refine unmarked_join fun s hs => ?_
  obtain ⟨line, hline, rfl⟩ := List.mem_map.mp hs
  exact (h line hline).append (.fixed rfl)

/-! ## Case mappings -/

/-- No letter has the mark as its lower or upper case. -/
theorem caseStable_isUnmarked : CaseStable isUnmarked := .of_ne (by decide)

theorem Unmarked.lowercase {s : String} (h : Unmarked s) : Unmarked (lowercase s) :=
  caseStable_isUnmarked.lowercase h

theorem Unmarked.upperFirst {s : String} (h : Unmarked s) : Unmarked (upperFirst s) :=
  caseStable_isUnmarked.upperFirst h

/-! ## Numbers and escapes -/

theorem only_of_subset_numeralChars {cs : List Char} (h : cs ⊆ Decimal.numeralChars) :
    Only isUnmarked cs := by
  have hnumerals : Only isUnmarked Decimal.numeralChars := List.all_eq_true.mp (by decide)
  exact hnumerals.of_subset h

theorem unmarked_natText (n : Nat) : Unmarked (toString n) :=
  only_of_subset_numeralChars (Decimal.natText_subset_numeralChars n)

theorem unmarked_intText (n : Int) : Unmarked (toString n) :=
  only_of_subset_numeralChars (Decimal.intText_subset_numeralChars n)

theorem only_escapeChars : Only isUnmarked escapeChars := List.all_eq_true.mp (by decide)

theorem Unmarked.backslashBefore {s : String} (h : Unmarked s) (q : Char) :
    Unmarked (backslashBefore q s) :=
  only_backslashBefore rfl q h

theorem Unmarked.scriptEscaped {s : String} (h : Unmarked s) : Unmarked (scriptEscaped s) :=
  only_scriptEscaped only_escapeChars fun c hc _ => h c hc

theorem Unmarked.scriptQuoted {s : String} (h : Unmarked s) : Unmarked (scriptQuoted s) :=
  ((Unmarked.fixed rfl).append h.scriptEscaped).append (.fixed rfl)

theorem Unmarked.jsonQuoted {s : String} (h : Unmarked s) : Unmarked (jsonQuoted s) :=
  only_jsonQuoted only_escapeChars rfl fun c hc _ => h c hc

end SchemaModels.Text
