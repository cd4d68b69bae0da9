import SchemaModels.Proofs.Text.CaseStable

/-!
# Characters without case

A character that the case tables do not list is its own lower-case form. Such are the brackets and
the decimal digits of every script (`toLower_of_isDecimalDigit`): none of their ranges meets one
of the ranges of letters, so the digits need not be looked at one by one.

The lower-case form of a capital sigma depends on what stands around it. A character that is
neither cased nor looked through ends a word, and the text before it goes to lower case as if
nothing stood behind it (`lowerFrom_append_cons`).
-/

namespace SchemaModels.Text

/-- The code points between the first and the last of one range are apart from those of the
other. -/
def CodeRange.Apart (r s : CodeRange) : Prop :=
  r.last < s.first ∨ s.last < r.first

instance (r s : CodeRange) : Decidable (r.Apart s) :=
  inferInstanceAs (Decidable (r.last < s.first ∨ s.last < r.first))

theorem CodeRange.Apart.covers_eq_false {r s : CodeRange} (h : r.Apart s) {n : Nat}
    (hr : r.covers n = true) : s.covers n = false := by
  rw [Bool.eq_false_iff]
  intro hs
  simp only [covers, Bool.and_eq_true, decide_eq_true_eq] at hr hs
  rcases h with h | h <;> omega

/-- A character of ranges that the case tables do not meet has no other form. -/
theorem mapCase_eq_self {ranges : List CodeRange} {expansions : List (Nat × List Nat)}
    {shifts : List CaseShift}
    (hexpansions : ∀ r ∈ ranges, ∀ e ∈ expansions, r.Apart ⟨e.1, e.1, 1⟩)
    (hshifts : ∀ r ∈ ranges, ∀ s ∈ shifts, r.Apart s.source) {c : Char}
    (hc : inRanges ranges c = true) : mapCase expansions shifts c = [c] := by
  obtain ⟨r, hr, hcovers⟩ := List.any_eq_true.mp hc
  have hexpansion : expansions.find? (·.1 == c.toNat) = none := by
    rw [List.find?_eq_none]
    intro e he heq
    have hpoint : (CodeRange.mk e.1 e.1 1).covers c.toNat = true := by
      simp [CodeRange.covers, eq_of_beq heq]
    cases ((hexpansions r hr e he).covers_eq_false hcovers).symm.trans hpoint
  have hshift : shifts.find? (·.source.covers c.toNat) = none := by
    rw [List.find?_eq_none]
    intro s hs hcovers'
    cases ((hshifts r hr s hs).covers_eq_false hcovers).symm.trans hcovers'
  rw [mapCase, hexpansion, hshift]

theorem toLower_of_isDecimalDigit {c : Char} (h : isDecimalDigit c = true) : toLower c = [c] := by
  unfold toLower
  split
  · next hascii =>
    have hkept : ∀ n < 0x80, isDecimalDigit (Char.ofNat n) = true →
        [(Char.ofNat n).toLower] = [Char.ofNat n] := by decide
    exact forall_isAscii (p := fun c => isDecimalDigit c = true → [c.toLower] = [c]) hkept hascii h
  · next hascii =>
    rw [isDecimalDigit, if_neg hascii] at h
    exact mapCase_eq_self (by decide +kernel) (by decide +kernel) h

/-- Characters that are their own lower-case forms stay in their places. -/
theorem lowerFrom_eq_self : ∀ {cs : List Char}, (∀ c ∈ cs, toLower c = [c]) →
    ∀ afterCased, lowerFrom afterCased cs = cs := by
  have hsigma : toLower 'Σ' ≠ ['Σ'] := by decide +kernel
  intro cs
  induction cs with
  | nil => exact fun _ _ => rfl
  | cons c cs ih =>
    intro h afterCased
    have hc : toLower c = [c] := h c List.mem_cons_self
    have hne : c ≠ 'Σ' := by
      rintro rfl
      exact hsigma hc
    rw [lowerFrom, if_neg hne, hc, ih fun d hd => h d (List.mem_cons_of_mem c hd)]
    rfl

section WordEnd

variable {c : Char} (hignorable : isCaseIgnorable c = false) (hcased : isCased c = false)
  (ys : List Char)

include hignorable hcased

theorem startsCased_append_cons : ∀ (xs : List Char),
    startsCased (xs ++ c :: ys) = startsCased xs := by
  intro xs
  induction xs with
  | nil => simp [startsCased, hignorable, hcased]
  | cons x xs ih => rw [List.cons_append, startsCased, startsCased, ih]

/-- **A character that ends a word parts what goes to lower case.** -/
theorem lowerFrom_append_cons (hkept : toLower c = [c]) : ∀ (xs : List Char) (afterCased : Bool),
    lowerFrom afterCased (xs ++ c :: ys) = lowerFrom afterCased xs ++ c :: lowerFrom false ys := by
  have hsigma : isCased 'Σ' = true := by decide +kernel
  have hne : c ≠ 'Σ' := by
    rintro rfl
    cases hcased.symm.trans hsigma
  intro xs
  induction xs with
  | nil =>
    intro afterCased
    simp [lowerFrom, hne, hkept, hignorable, hcased]
  | cons x xs ih =>
    intro afterCased
    rw [List.cons_append, lowerFrom, lowerFrom, startsCased_append_cons hignorable hcased, ih, ih]
    split
    · rfl
    · rw [List.append_assoc]

end WordEnd

end SchemaModels.Text
