import Mathlib.Data.List.Forall2
import SchemaModels.Proofs.Text.CaseStable
import SchemaModels.Proofs.Text.Search

/-!
# Texts that differ in their indentation

Two texts are aligned if they are put together in the same way from the same lines, each line behind
blanks of its own (`Aligned`). What follows the blanks may be any text, and may have line ends of
its own, so pieces are aligned without regard to what stands in them. Aligned texts can be read off
line by line: without the blanks at the start of each line they are the same
(`Aligned.unindentedLines_eq`).

The relation is kept by putting texts together (`Aligned.append`, `Aligned.unlines`) and by
replacing a part that has neither blanks nor line ends (`Aligned.replace`): an occurrence of such a
part never reaches into the blanks in front of a line.
-/

namespace SchemaModels.Text

/-- The characters that lines are indented by. -/
def isBlank (c : Char) : Bool := c == ' ' || c == '\t'

/-- A line without the blanks that it begins with. -/
def dropIndent (line : String) : String := String.ofList (line.toList.dropWhile isBlank)

/-- The lines of a text, without the blanks that they begin with. -/
def unindentedLines (s : String) : List String := (splitOn '\n' s).map dropIndent

/-- The texts are put together from the same lines behind blanks that may differ. -/
inductive Aligned : String → String → Prop where
  | line {b₁ b₂ : String} (h₁ : Only isBlank b₁.toList) (h₂ : Only isBlank b₂.toList) (s : String) :
      Aligned (b₁ ++ s) (b₂ ++ s)
  | next {s₁ s₂ t₁ t₂ : String} (hs : Aligned s₁ s₂) (ht : Aligned t₁ t₂) :
      Aligned (s₁ ++ ("\n" ++ t₁)) (s₂ ++ ("\n" ++ t₂))

/-! ## Lines without their blanks -/

theorem splitWhere_of_not {p : Char → Bool} {c : Char} (hc : p c = false) (cs : List Char) :
    ∃ piece pieces, splitWhere p cs = piece :: pieces ∧
      splitWhere p (c :: cs) = (c :: piece) :: pieces := by
  obtain ⟨piece, pieces, hpieces⟩ := List.exists_cons_of_ne_nil (splitWhere_ne_nil (p := p) cs)
  exact ⟨piece, pieces, hpieces, by rw [splitWhere, hc, hpieces]; rfl⟩

/-- Blanks in front of a text are dropped with those of its first line. -/
theorem unindentedLines_append_of_blank {b : String} (h : Only isBlank b.toList) (s : String) :
    unindentedLines (b ++ s) = unindentedLines s := by
  have hdrop : ∀ bs : List Char, Only isBlank bs →
      (splitWhere (· == '\n') (bs ++ s.toList)).map (List.dropWhile isBlank)
        = (splitWhere (· == '\n') s.toList).map (List.dropWhile isBlank) := by
    intro bs
    induction bs with
    | nil => intro _; rfl
    | cons c bs ih =>
      intro hbs
      have hc : isBlank c = true := hbs c List.mem_cons_self
      have hend : (c == '\n') = false := by
        refine beq_eq_false_iff_ne.mpr fun heq => ?_
        rw [heq] at hc
        cases hc
      obtain ⟨piece, pieces, hpieces, hcons⟩ :=
        splitWhere_of_not (p := (· == '\n')) hend (bs ++ s.toList)
      rw [List.cons_append, hcons, ← ih hbs.tail, hpieces, List.map_cons, List.map_cons,
        List.dropWhile_cons_of_pos hc]
  have hlines : ∀ t : String, unindentedLines t
      = ((splitWhere (· == '\n') t.toList).map (List.dropWhile isBlank)).map String.ofList := by
    intro t
    simp [unindentedLines, splitOn, dropIndent, Function.comp_def]
  rw [hlines, hlines, String.toList_append, hdrop _ h]

theorem unindentedLines_append_newline (s t : String) :
    unindentedLines (s ++ ("\n" ++ t)) = unindentedLines s ++ unindentedLines t := by
  have hchars : (s ++ ("\n" ++ t)).toList = s.toList ++ '\n' :: t.toList := by simp
  rw [unindentedLines, splitOn, hchars, splitWhere_append rfl, List.map_append, List.map_append]
  rfl

/-- **Aligned texts have the same lines but for the blanks in front.** -/
theorem Aligned.unindentedLines_eq {s t : String} (h : Aligned s t) :
    unindentedLines s = unindentedLines t := by
  induction h with
  | line h₁ h₂ s => rw [unindentedLines_append_of_blank h₁, unindentedLines_append_of_blank h₂]
  | next _ _ ihs iht =>
    rw [unindentedLines_append_newline, unindentedLines_append_newline, ihs, iht]

/-! ## Putting texts together -/

namespace Aligned

variable {s₁ s₂ t₁ t₂ : String}

protected theorem refl (s : String) : Aligned s s := by
  have hempty : Only isBlank "".toList := only_nil
  have h := line hempty hempty s
  rwa [String.empty_append] at h

/-- The same text may follow. -/
theorem append (h : Aligned s₁ s₂) (t : String) : Aligned (s₁ ++ t) (s₂ ++ t) := by
  induction h with
  | line h₁ h₂ s => simp only [String.append_assoc]; exact .line h₁ h₂ (s ++ t)
  | next hs _ _ iht => simp only [String.append_assoc]; exact .next hs iht

/-- Lines with a line end each, and a text after them. -/
theorem unlines_append {l m : List String} (hl : List.Forall₂ Aligned l m) (h : Aligned t₁ t₂) :
    Aligned (unlines l ++ t₁) (unlines m ++ t₂) := by
  induction hl with
  | nil => exact h
  | cons hs _ ih =>
    simpa only [unlines_cons, String.append_assoc] using hs.next ih

theorem unlines {l m : List String} (hl : List.Forall₂ Aligned l m) :
    Aligned (unlines l) (unlines m) := by
  have h := unlines_append hl (.refl "")
  rwa [String.append_empty, String.append_empty] at h

/-- Texts that are joined by a separator that ends the line. -/
theorem intercalate (mark : String) {sep : String} (hsep : sep = mark ++ "\n")
    {l m : List String} (h : List.Forall₂ Aligned l m) :
    Aligned (String.intercalate sep l) (String.intercalate sep m) := by
  induction h with
  | nil => exact .refl _
  | @cons s₁ s₂ l m hs hl ih =>
    cases hl with
    | nil => simpa using hs
    | cons ht hl =>
      have hnext := (hs.append mark).next ih
      rw [String.intercalate_cons_cons, String.intercalate_cons_cons, hsep]
      rw [hsep] at hnext
      simpa only [String.append_assoc] using hnext

/-! ## Replacing -/

/-- **Aligned texts stay aligned when a part without blanks and line ends is replaced.** -/
theorem replace {part : String} {first : Char} {more : List Char}
    (hpart : part.toList = first :: more) (hfirst : isBlank first = false)
    (hend : '\n' ∉ part.toList) (new : String) (h : Aligned s₁ s₂) :
    Aligned (replace part new s₁) (replace part new s₂) := by
  have hblanks : ∀ {b : String}, Only isBlank b.toList → ∀ s,
      Text.replace part new (b ++ s) = b ++ Text.replace part new s := by
    intro b hb s
    have hnot : first ∉ b.toList := by
      intro hmem
      rw [hb first hmem] at hfirst
      cases hfirst
    rw [← String.toList_inj]
    simp [Text.replace, hpart, replaceFrom_append_of_head_notMem _ hnot]
  have hnext : ∀ s t, Text.replace part new (s ++ ("\n" ++ t))
      = Text.replace part new s ++ ("\n" ++ Text.replace part new t) := by
    intro s t
    have hne : part.toList ≠ [] := by rw [hpart]; exact List.cons_ne_nil _ _
    rw [← String.toList_inj]
    simp [Text.replace, replaceFrom_append_cons hne hend]
  induction h with
  | line h₁ h₂ s => rw [hblanks h₁, hblanks h₂]; exact .line h₁ h₂ _
  | next _ _ ihs iht => rw [hnext, hnext]; exact .next ihs iht

end Aligned
end SchemaModels.Text
