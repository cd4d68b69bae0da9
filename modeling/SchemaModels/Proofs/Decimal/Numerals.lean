import SchemaModels.Decimal.Layout

/-!
# Characters of numbers

Integers and binary numbers are written with a few characters only (`numeralChars`), whatever the
layout. What holds for each of these characters holds for the text of a number.
-/

namespace SchemaModels.Decimal

/-- The characters that numbers are written with: digits up to base 16, the sign for a digit beyond
that, the point and the signs. The `e` of an exponent is one of the digits. -/
def numeralChars : List Char := "0123456789abcdef*.+-".toList

theorem digitChar_mem_numeralChars (n : Nat) : Nat.digitChar n ∈ numeralChars := by
  rcases Nat.lt_or_ge n 16 with hlt | hge
  · have hall : ∀ n, n < 16 → Nat.digitChar n ∈ numeralChars := by decide
    exact hall n hlt
  · have hstar : Nat.digitChar n = '*' := by
      unfold Nat.digitChar
      repeat rw [if_neg (by omega)]
    rw [hstar]
    decide

theorem toDigitsCore_subset_numeralChars {base : Nat} : ∀ (fuel n : Nat) {ds : List Char},
    ds ⊆ numeralChars → Nat.toDigitsCore base fuel n ds ⊆ numeralChars := by
  intro fuel
  -- the digits written so far are handed down, so the induction is for any of them
  induction fuel with
  | zero => intro n ds hds; exact hds
  | succ fuel ih =>
    intro n ds hds
    have hcons : Nat.digitChar (n % base) :: ds ⊆ numeralChars :=
      List.cons_subset.mpr ⟨digitChar_mem_numeralChars _, hds⟩
    rw [Nat.toDigitsCore]
    split
    · exact hcons
    · exact ih (n / base) hcons

theorem toDigits_subset_numeralChars (base n : Nat) : Nat.toDigits base n ⊆ numeralChars :=
  toDigitsCore_subset_numeralChars _ _ (List.nil_subset _)

theorem natText_subset_numeralChars (n : Nat) : (toString n).toList ⊆ numeralChars := by
  rw [Nat.toString_eq_repr, Nat.repr, String.toList_ofList]
  exact toDigits_subset_numeralChars 10 n

theorem intText_subset_numeralChars (n : Int) : (toString n).toList ⊆ numeralChars := by
  cases n with
  | ofNat n => exact natText_subset_numeralChars n
  | negSucc n =>
    show ("-" ++ toString (n + 1)).toList ⊆ numeralChars
    rw [String.toList_append]
    exact List.append_subset.mpr ⟨by decide, natText_subset_numeralChars _⟩

theorem shortest_subset_numeralChars (x : Binary64) : (shortest x).digits ⊆ numeralChars := by
  unfold shortest
  dsimp only
  split
  · exact List.cons_subset.mpr ⟨by decide, List.nil_subset _⟩
  · intro c hc
    unfold dropTrailingZeros at hc
    rw [List.mem_reverse] at hc
    exact toDigits_subset_numeralChars 10 _
      (List.mem_reverse.mp ((List.dropWhile_sublist _).subset hc))

theorem zeros_subset_numeralChars (n : Nat) : List.replicate n '0' ⊆ numeralChars := by
  intro c hc
  rw [(List.mem_replicate.mp hc).2]
  decide

theorem writePlaces_subset_numeralChars (keepsPoint : Bool) {d : Digits}
    (hd : d.digits ⊆ numeralChars) : writePlaces keepsPoint d ⊆ numeralChars := by
  have hpoint : '.' ∈ numeralChars := by decide
  have hend : (if keepsPoint then ['.', '0'] else []) ⊆ numeralChars := by
    cases keepsPoint <;> decide
  unfold writePlaces
  split
  · exact List.cons_subset.mpr ⟨by decide, List.cons_subset.mpr ⟨hpoint,
      List.append_subset.mpr ⟨zeros_subset_numeralChars _, hd⟩⟩⟩
  dsimp only
  split
  · exact List.append_subset.mpr
      ⟨List.append_subset.mpr ⟨hd, zeros_subset_numeralChars _⟩, hend⟩
  · exact List.append_subset.mpr ⟨List.Subset.trans (List.take_subset _ _) hd,
      List.cons_subset.mpr ⟨hpoint, List.Subset.trans (List.drop_subset _ _) hd⟩⟩

theorem writeScientific_subset_numeralChars {d : Digits} (hd : d.digits ⊆ numeralChars) :
    writeScientific d ⊆ numeralChars := by
  have hsign : (if d.exponent < 0 then '-' else '+') ∈ numeralChars := by split <;> decide
  unfold writeScientific
  dsimp only
  refine List.append_subset.mpr ⟨?_, List.cons_subset.mpr ⟨by decide,
    List.cons_subset.mpr ⟨hsign, toDigits_subset_numeralChars 10 _⟩⟩⟩
  split
  · next first second rest hdigits =>
    rw [hdigits] at hd
    obtain ⟨hfirst, hrest⟩ := List.cons_subset.mp hd
    exact List.cons_subset.mpr ⟨hfirst, List.cons_subset.mpr ⟨by decide, hrest⟩⟩
  · exact hd

/-- **A number is written with the characters of numbers**, in either layout. -/
theorem Layout.write_subset_numeralChars (layout : Layout) (x : Binary64) :
    (layout.write x).toList ⊆ numeralChars := by
  have hdigits : (if x.mantissa = 0 then (⟨['0'], 0⟩ : Digits) else shortest x).digits
      ⊆ numeralChars := by
    split
    · exact List.cons_subset.mpr ⟨by decide, List.nil_subset _⟩
    · exact shortest_subset_numeralChars x
  have hbody : ∀ (positional : Bool) {d : Digits}, d.digits ⊆ numeralChars →
      (if positional then writePlaces layout.keepsPoint d else writeScientific d)
        ⊆ numeralChars := by
    intro positional d hd
    cases positional with
    | true => exact writePlaces_subset_numeralChars _ hd
    | false => exact writeScientific_subset_numeralChars hd
  unfold Layout.write
  dsimp only
  rw [String.toList_ofList]
  split
  · exact List.cons_subset.mpr ⟨by decide, hbody _ hdigits⟩
  · exact hbody _ hdigits

end SchemaModels.Decimal
