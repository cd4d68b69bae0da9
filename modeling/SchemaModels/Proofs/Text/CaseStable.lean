import SchemaModels.Proofs.Decimal.Numerals
import SchemaModels.Text.Case
import SchemaModels.Text.Quoted
import SchemaModels.Text.Search

/-!
# Classes of characters

A text over a class of characters stays over it when it is escaped, if the class has the characters
that escapes are made of. The characters that are always escaped need not be of the class
(`only_scriptEscaped`, `only_jsonQuoted`).

A class of characters is stable under case if it has, with a character, all characters of its lower
and upper case forms. A text over such a class stays over it under the case mappings. What is
shown for a class holds for the harmless characters of names (`isTame`) as well as for all
characters but a given one (`CaseStable.of_ne`): the case tables lead to no ASCII character but to
letters. The characters with a form over a given class can be read off the tables as well
(`LeadsFrom.of_only_mapCase`).
-/

namespace SchemaModels.Text

/-- All the characters are of the class. -/
def Only (p : Char → Bool) (cs : List Char) : Prop := ∀ c ∈ cs, p c = true

instance (p : Char → Bool) (cs : List Char) : Decidable (Only p cs) :=
  List.decidableBAll (p · = true) cs

variable {p : Char → Bool}

theorem only_nil : Only p [] := by simp [Only]

theorem only_cons_iff {c : Char} {cs : List Char} :
    Only p (c :: cs) ↔ p c = true ∧ Only p cs :=
  List.forall_mem_cons

theorem only_append_iff {cs ds : List Char} :
    Only p (cs ++ ds) ↔ Only p cs ∧ Only p ds :=
  List.forall_mem_append

theorem Only.cons {c : Char} {cs : List Char} (hc : p c = true) (h : Only p cs) :
    Only p (c :: cs) :=
  only_cons_iff.mpr ⟨hc, h⟩

theorem Only.append {cs ds : List Char} (hc : Only p cs) (hd : Only p ds) : Only p (cs ++ ds) :=
  only_append_iff.mpr ⟨hc, hd⟩

theorem Only.of_subset {cs ds : List Char} (h : Only p ds) (hsub : cs ⊆ ds) : Only p cs :=
  fun c hc => h c (hsub hc)

theorem Only.tail {c : Char} {cs : List Char} (h : Only p (c :: cs)) : Only p cs :=
  h.of_subset (List.subset_cons_self c cs)

theorem Only.flatMap {α : Type} {f : α → List Char} {l : List α} (h : ∀ a ∈ l, Only p (f a)) :
    Only p (l.flatMap f) := by
  intro c hc
  obtain ⟨a, ha, hca⟩ := List.mem_flatMap.mp hc
  exact h a ha c hca

/-- Joined pieces are over a class if the pieces are, and the separator too where there is one. -/
theorem only_intercalate_iff {sep : List Char} {l : List (List Char)} :
    Only p (List.intercalate sep l) ↔ (∀ cs ∈ l, Only p cs) ∧ (l.length ≤ 1 ∨ Only p sep) := by
  induction l with
  | nil => simp [only_nil]
  | cons a l ih =>
    cases l with
    | nil => simp
    | cons b l =>
      have hmany : ¬ (a :: b :: l).length ≤ 1 := by simp
      have hsplit : (∀ cs ∈ a :: b :: l, Only p cs) ↔ Only p a ∧ ∀ cs ∈ b :: l, Only p cs :=
        List.forall_mem_cons
      rw [List.intercalate_cons_cons, only_append_iff, only_append_iff, ih, hsplit,
        or_iff_right hmany]
      constructor
      · rintro ⟨⟨ha, hsep⟩, hl, -⟩
        exact ⟨⟨ha, hl⟩, hsep⟩
      · rintro ⟨⟨ha, hl⟩, hsep⟩
        exact ⟨⟨ha, hsep⟩, hl, .inr hsep⟩

/-- Pieces of a class with a separator of the class between them. -/
theorem Only.intercalate {sep : List Char} (hsep : Only p sep) {l : List (List Char)}
    (h : ∀ cs ∈ l, Only p cs) : Only p (List.intercalate sep l) :=
  only_intercalate_iff.mpr ⟨h, .inr hsep⟩

theorem only_ofList {cs : List Char} : Only p (String.ofList cs).toList ↔ Only p cs := by
  rw [String.toList_ofList]

theorem only_append {s t : String} (hs : Only p s.toList) (ht : Only p t.toList) :
    Only p (s ++ t).toList := by
  rw [String.toList_append]
  exact hs.append ht

theorem only_intercalate {sep : String} (hsep : Only p sep.toList) {l : List String}
    (h : ∀ s ∈ l, Only p s.toList) : Only p (String.intercalate sep l).toList := by
  rw [String.toList_intercalate]
  refine Only.intercalate hsep fun cs hcs => ?_
  obtain ⟨s, hs, rfl⟩ := List.mem_map.mp hcs
  exact h s hs

/-! ## Escapes -/

/-- The characters that escapes are made of. -/
def escapeChars : List Char := Decimal.numeralChars ++ "\\nrtu".toList

theorem only_hexDigits (hescape : Only p escapeChars) (width n : Nat) :
    Only p (hexDigits width n) :=
  (hescape.of_subset (List.subset_append_left _ _)).of_subset
    (List.append_subset.mpr ⟨Decimal.zeros_subset_numeralChars _,
      Decimal.toDigits_subset_numeralChars 16 n⟩)

/-- A character behind a backslash. -/
theorem only_escape (hescape : Only p escapeChars) {c : Char} (hc : p c = true) :
    Only p ['\\', c] :=
  (only_nil.cons hc).cons (hescape _ (by decide))

theorem only_backslashBefore (hback : p '\\' = true) (q : Char) {s : String}
    (hs : Only p s.toList) : Only p (backslashBefore q s).toList := by
  refine only_ofList.mpr (Only.flatMap fun c hc => ?_)
  split
  · exact (only_nil.cons (hs c hc)).cons hback
  · exact only_nil.cons (hs c hc)

/-- Control characters are escaped by other characters. -/
theorem only_scriptChar (hescape : Only p escapeChars) {c : Char}
    (hc : isControl c = false → p c = true) : Only p (scriptChar c) := by
  have hshort : ∀ {d : Char}, d ∈ escapeChars → Only p ['\\', d] :=
    fun hd => only_escape hescape (hescape _ hd)
  unfold scriptChar
  split
  · next h =>
    simp only [Bool.or_eq_true, decide_eq_true_eq] at h
    refine only_escape hescape (hc ?_)
    rcases h with (rfl | rfl) | rfl <;> rfl
  repeat' split
  any_goals exact hshort (by decide)
  · exact (hshort (by decide)).append (only_hexDigits hescape 4 c.toNat)
  · next h => exact only_nil.cons (hc (Bool.eq_false_iff.mpr h))

/-- JSON escapes the control characters below U+0020. -/
theorem only_jsonChar (hescape : Only p escapeChars) {c : Char}
    (hc : 0x20 ≤ c.toNat → p c = true) : Only p (jsonChar c) := by
  have hshort : ∀ {d : Char}, d ∈ escapeChars → Only p ['\\', d] :=
    fun hd => only_escape hescape (hescape _ hd)
  unfold jsonChar
  split
  · next h =>
    simp only [Bool.or_eq_true, decide_eq_true_eq] at h
    refine only_escape hescape (hc ?_)
    rcases h with rfl | rfl <;> decide
  repeat' split
  any_goals exact hshort (by decide)
  · exact (hshort (by decide)).append (only_hexDigits hescape 4 c.toNat)
  · next h => exact only_nil.cons (hc (Nat.le_of_not_lt h))

theorem only_scriptEscaped (hescape : Only p escapeChars) {s : String}
    (hs : ∀ c ∈ s.toList, isControl c = false → p c = true) :
    Only p (scriptEscaped s).toList :=
  only_ofList.mpr (Only.flatMap fun c hc => only_scriptChar hescape (hs c hc))

theorem only_jsonQuoted (hescape : Only p escapeChars) (hquote : p '"' = true) {s : String}
    (hs : ∀ c ∈ s.toList, 0x20 ≤ c.toNat → p c = true) : Only p (jsonQuoted s).toList := by
  have hbody : Only p (s.toList.flatMap jsonChar) :=
    Only.flatMap fun c hc => only_jsonChar hescape (hs c hc)
  exact only_ofList.mpr ((hbody.append (only_nil.cons hquote)).cons hquote)

/-! ## Case mappings -/

/-- The class has, with a character, its forms in lower and in upper case. -/
structure CaseStable (p : Char → Bool) : Prop where
  lower : ∀ {c}, p c = true → Only p (toLower c)
  upper : ∀ {c}, p c = true → Only p (toUpper c)
  /-- The two forms that a capital sigma takes by its place. -/
  sigma : p 'Σ' = true → p 'σ' = true ∧ p 'ς' = true

namespace CaseStable

variable (hp : CaseStable p)

include hp

theorem lowerFrom : ∀ (cs : List Char) (afterCased : Bool), Only p cs →
    Only p (lowerFrom afterCased cs) := by
  intro cs
  induction cs with
  | nil => intro _ _; exact only_nil
  | cons c cs ih =>
    intro afterCased h
    have hc := h c (by simp)
    rw [Text.lowerFrom]
    split
    · next hsigma =>
      obtain ⟨hmedial, hfinal⟩ := hp.sigma (hsigma ▸ hc)
      refine (ih true h.tail).cons ?_
      split <;> assumption
    · exact (hp.lower hc).append (ih _ h.tail)

theorem lowercase {s : String} (h : Only p s.toList) : Only p (lowercase s).toList :=
  only_ofList.mpr (hp.lowerFrom s.toList false h)

theorem uppercase {s : String} (h : Only p s.toList) : Only p (uppercase s).toList :=
  only_ofList.mpr (Only.flatMap fun c hc => hp.upper (h c hc))

theorem upperFirst {s : String} (h : Only p s.toList) : Only p (upperFirst s).toList := by
  unfold Text.upperFirst
  split
  · exact only_nil
  · next c cs hs =>
    rw [hs] at h
    exact only_ofList.mpr ((hp.upper (h c (by simp))).append h.tail)

end CaseStable

/-- A statement about ASCII characters is one about 128 code points. -/
theorem forall_isAscii {p : Char → Prop} (h : ∀ n < 0x80, p (Char.ofNat n)) {c : Char}
    (hc : isAscii c = true) : p c := by
  rw [← Char.ofNat_toNat c]
  exact h c.toNat (by simpa [isAscii] using hc)

theorem isAscii_of_isAlphanum {c : Char} (h : c.isAlphanum = true) : isAscii c = true := by
  have hranges : (decide (c.val ≥ 'A'.val ∧ c.val ≤ 'Z'.val)
      || (c.val ≥ 'a'.val && c.val ≤ 'z'.val) || (c.val ≥ '0'.val && c.val ≤ '9'.val)) = true := h
  simp only [Bool.or_eq_true, Bool.and_eq_true, decide_eq_true_eq, ge_iff_le,
    UInt32.le_iff_toNat_le] at hranges
  simp only [isAscii, decide_eq_true_eq, Char.toNat]
  rcases hranges with (h | h) | h
  · have h90 : c.val.toNat ≤ 90 := h.2
    omega
  · have h122 : c.val.toNat ≤ 122 := h.2
    omega
  · have h57 : c.val.toNat ≤ 57 := h.2
    omega

theorem isWordChar_of_isAlphanum {c : Char} (h : c.isAlphanum = true) : isWordChar c = true := by
  rw [isWordChar, if_pos (isAscii_of_isAlphanum h), h]
  rfl

/-! ## Case tables -/

/-- The letters that a case table leads to are of the class. -/
def LeadsTo (p : Char → Bool) (expansions : List (Nat × List Nat)) (shifts : List CaseShift) :
    Prop :=
  (∀ e ∈ expansions, ∀ n ∈ e.2, p (Char.ofNat n) = true) ∧
    ∀ s ∈ shifts, ∀ k ≤ s.source.last - s.source.first, p (Char.ofNat (s.target + k)) = true

instance (p : Char → Bool) (expansions : List (Nat × List Nat)) (shifts : List CaseShift) :
    Decidable (LeadsTo p expansions shifts) :=
  inferInstanceAs (Decidable ((∀ e ∈ expansions, ∀ n ∈ e.2, p (Char.ofNat n) = true) ∧
    ∀ s ∈ shifts, ∀ k ≤ s.source.last - s.source.first, p (Char.ofNat (s.target + k)) = true))

theorem LeadsTo.only_mapCase {expansions : List (Nat × List Nat)} {shifts : List CaseShift}
    (h : LeadsTo p expansions shifts) {c : Char} (hc : p c = true) :
    Only p (mapCase expansions shifts c) := by
  unfold mapCase
  split
  · next e he =>
    intro d hd
    obtain ⟨n, hn, rfl⟩ := List.mem_map.mp hd
    exact h.1 e (List.mem_of_find?_eq_some he) n hn
  split
  · next s hs =>
    have hcovers : s.source.covers c.toNat = true :=
      List.find?_some (p := fun s : CaseShift => s.source.covers c.toNat) hs
    simp only [CodeRange.covers, Bool.and_eq_true, decide_eq_true_eq] at hcovers
    exact only_nil.cons (h.2 s (List.mem_of_find?_eq_some hs) _ (by omega))
  · exact only_nil.cons hc

/-- What a case table takes to the class `p` is of the class `q`. -/
def LeadsFrom (p q : Char → Bool) (expansions : List (Nat × List Nat)) (shifts : List CaseShift) :
    Prop :=
  (∀ e ∈ expansions, (∀ n ∈ e.2, p (Char.ofNat n) = true) → q (Char.ofNat e.1) = true) ∧
    ∀ s ∈ shifts, ∀ k ≤ s.source.last - s.source.first,
      p (Char.ofNat (s.target + k)) = true → q (Char.ofNat (s.source.first + k)) = true

instance (p q : Char → Bool) (expansions : List (Nat × List Nat)) (shifts : List CaseShift) :
    Decidable (LeadsFrom p q expansions shifts) :=
  inferInstanceAs (Decidable
    ((∀ e ∈ expansions, (∀ n ∈ e.2, p (Char.ofNat n) = true) → q (Char.ofNat e.1) = true) ∧
      ∀ s ∈ shifts, ∀ k ≤ s.source.last - s.source.first,
        p (Char.ofNat (s.target + k)) = true → q (Char.ofNat (s.source.first + k)) = true))

/-- A character with a form over the class is in the table, or is of the class itself. -/
theorem LeadsFrom.of_only_mapCase {q : Char → Bool} {expansions : List (Nat × List Nat)}
    {shifts : List CaseShift} (h : LeadsFrom p q expansions shifts) {c : Char}
    (hc : Only p (mapCase expansions shifts c)) : q c = true ∨ p c = true := by
  unfold mapCase at hc
  split at hc
  · next e he =>
    have hsource : e.1 = c.toNat := by simpa using List.find?_some he
    have hq := h.1 e (List.mem_of_find?_eq_some he) fun n hn => hc _ (List.mem_map_of_mem hn)
    rw [hsource, Char.ofNat_toNat] at hq
    exact .inl hq
  split at hc
  · next s hs =>
    have hcovers : s.source.covers c.toNat = true :=
      List.find?_some (p := fun s : CaseShift => s.source.covers c.toNat) hs
    simp only [CodeRange.covers, Bool.and_eq_true, decide_eq_true_eq] at hcovers
    have hq := h.2 s (List.mem_of_find?_eq_some hs) (c.toNat - s.source.first) (by omega)
      (hc _ (List.mem_singleton_self _))
    rw [Nat.add_sub_cancel' (by omega), Char.ofNat_toNat] at hq
    exact .inl hq
  · exact .inr (hc c (List.mem_singleton_self c))

/-- A class is stable under case if it is so in ASCII and the tables do not lead out of it. -/
theorem CaseStable.of_tables
    (hlower : ∀ n < 0x80, p (Char.ofNat n) = true → p (Char.ofNat n).toLower = true)
    (hupper : ∀ n < 0x80, p (Char.ofNat n) = true → p (Char.ofNat n).toUpper = true)
    (hlowerTable : LeadsTo p lowerExpansions lowerShifts)
    (hupperTable : LeadsTo p upperExpansions upperShifts)
    (hsigma : p 'Σ' = true → p 'σ' = true ∧ p 'ς' = true) : CaseStable p where
  lower := by
    intro c hc
    unfold toLower
    split
    · next hascii =>
      exact only_nil.cons
        (forall_isAscii (p := fun c => p c = true → p c.toLower = true) hlower hascii hc)
    · exact hlowerTable.only_mapCase hc
  upper := by
    intro c hc
    unfold toUpper
    split
    · next hascii =>
      exact only_nil.cons
        (forall_isAscii (p := fun c => p c = true → p c.toUpper = true) hupper hascii hc)
    · exact hupperTable.only_mapCase hc
  sigma := hsigma

/-- An ASCII character without case: it is no letter. -/
def isCaseless (c : Char) : Bool := isAscii c && !c.isAlpha

theorem LeadsTo.mono {q : Char → Bool} (hpq : ∀ c, p c = true → q c = true)
    {expansions : List (Nat × List Nat)} {shifts : List CaseShift}
    (h : LeadsTo p expansions shifts) : LeadsTo q expansions shifts :=
  ⟨fun e he n hn => hpq _ (h.1 e he n hn), fun s hs k hk => hpq _ (h.2 s hs k hk)⟩

/-- **A class that lacks nothing but characters without case is stable under case**, since no letter
goes to one of these. -/
theorem CaseStable.of_caseless (h : ∀ c, p c = false → isCaseless c = true) : CaseStable p := by
  have hclass : ∀ c, isCaseless c = false → p c = true := fun c hc =>
    (Bool.not_eq_false _).mp fun hp => Bool.false_ne_true (hc.symm.trans (h c hp))
  have hkept : ∀ {c d : Char}, (isCaseless d = true → d = c) → p c = true → p d = true := by
    intro c d hsame hc
    cases hd : isCaseless d with
    | false => exact hclass d hd
    | true => rwa [hsame hd]
  have hlower : ∀ n < 0x80, isCaseless (Char.ofNat n).toLower = true →
      (Char.ofNat n).toLower = Char.ofNat n := by decide
  have hupper : ∀ n < 0x80, isCaseless (Char.ofNat n).toUpper = true →
      (Char.ofNat n).toUpper = Char.ofNat n := by decide
  have hletters : ∀ c, (!isCaseless c) = true → p c = true := fun c hc =>
    hclass c ((Bool.not_eq_true' _).mp hc)
  have hlowerTable : LeadsTo (!isCaseless ·) lowerExpansions lowerShifts := by decide +kernel
  have hupperTable : LeadsTo (!isCaseless ·) upperExpansions upperShifts := by decide +kernel
  exact .of_tables (fun n hn => hkept (hlower n hn)) (fun n hn => hkept (hupper n hn))
    (hlowerTable.mono hletters) (hupperTable.mono hletters)
    fun _ => ⟨hclass _ (by decide), hclass _ (by decide)⟩

/-- A character without case does not come up where there is none. -/
theorem CaseStable.of_ne {d : Char} (hd : isCaseless d = true) : CaseStable (· != d) := by
  refine .of_caseless fun c hc => ?_
  rwa [bne_eq_false_iff_eq.mp hc]

end SchemaModels.Text
