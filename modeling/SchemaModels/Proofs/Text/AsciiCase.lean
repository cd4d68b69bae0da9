import SchemaModels.Proofs.Text.CaseStable
import SchemaModels.Proofs.Text.Search

/-!
# Lower case of ASCII texts

The lower-case form of a text is found character by character, but a capital sigma looks at what
stands around it. A front of ASCII characters has none, so it goes to lower case on its own
(`exists_lowerFrom_append`), and an ASCII text goes there one character at a time
(`toList_lowercase_of_ascii`). A text that equals an ASCII text up to the case of its letters is
itself ASCII (`only_isAscii_of_map_toLower`). The place of a character tells only between two forms
of a sigma, so a search for an ASCII text can take the characters one by one (`occurs_lowerFrom`).
-/

namespace SchemaModels.Text

/-- Beyond ASCII there are no letters that are mapped here. -/
theorem isAscii_of_isAscii_toLower {c : Char} (h : isAscii c.toLower = true) :
    isAscii c = true := by
  by_cases hupper : c.val ≥ 'A'.val ∧ c.val ≤ 'Z'.val
  · have hle : c.val.toNat ≤ 90 := UInt32.le_iff_toNat_le.mp hupper.2
    simp only [isAscii, decide_eq_true_eq, Char.toNat]
    omega
  · have hkept : c.toLower = c := dif_neg hupper
    rwa [hkept] at h

/-- A text with an ASCII text as its lower-case form is ASCII. -/
theorem only_isAscii_of_map_toLower {cs ds : List Char} (hds : Only isAscii ds)
    (h : cs.map Char.toLower = ds) : Only isAscii cs := by
  intro c hc
  exact isAscii_of_isAscii_toLower (hds _ (h ▸ List.mem_map_of_mem hc))

/-- On its own, an ASCII character has one lower-case form. -/
theorem flatMap_toLower_of_ascii : ∀ {cs : List Char}, Only isAscii cs →
    cs.flatMap toLower = cs.map Char.toLower := by
  intro cs
  induction cs with
  | nil => exact fun _ => rfl
  | cons c cs ih =>
    intro h
    have hc : isAscii c = true := h c List.mem_cons_self
    rw [List.flatMap_cons, ih h.tail, toLower, if_pos hc]
    rfl

/-- ASCII characters in front go to lower case on their own. What they tell the rest is whether it
stands after a cased character. -/
theorem exists_lowerFrom_append : ∀ {cs : List Char}, Only isAscii cs →
    ∀ (rest : List Char) (afterCased : Bool), ∃ after,
      lowerFrom afterCased (cs ++ rest) = cs.map Char.toLower ++ lowerFrom after rest := by
  intro cs
  induction cs with
  | nil => exact fun _ rest afterCased => ⟨afterCased, rfl⟩
  | cons c cs ih =>
    intro h rest afterCased
    have hc : isAscii c = true := h c List.mem_cons_self
    have hsigma : c ≠ 'Σ' := by
      rintro rfl
      exact absurd hc (by decide)
    obtain ⟨after, hafter⟩ := ih h.tail rest (if isCaseIgnorable c then afterCased else isCased c)
    refine ⟨after, ?_⟩
    rw [List.cons_append, lowerFrom, if_neg hsigma, hafter, toLower, if_pos hc]
    rfl

/-- What stands behind a text goes to lower case behind it. -/
theorem exists_lowerFrom_eq_append : ∀ (cs rest : List Char) (afterCased : Bool),
    ∃ front after, lowerFrom afterCased (cs ++ rest) = front ++ lowerFrom after rest := by
  intro cs
  induction cs with
  | nil => exact fun rest afterCased => ⟨[], afterCased, rfl⟩
  | cons c cs ih =>
    intro rest afterCased
    rw [List.cons_append, lowerFrom]
    split
    · obtain ⟨front, after, h⟩ := ih rest true
      exact ⟨_ :: front, after, by rw [h]; rfl⟩
    · obtain ⟨front, after, h⟩ := ih rest (if isCaseIgnorable c then afterCased else isCased c)
      exact ⟨toLower c ++ front, after, by rw [h, List.append_assoc]⟩

/-- **An ASCII text goes to lower case one character at a time.** -/
theorem toList_lowercase_of_ascii {s : String} (h : Only isAscii s.toList) :
    (lowercase s).toList = s.toList.map Char.toLower := by
  obtain ⟨after, hafter⟩ := exists_lowerFrom_append h [] false
  rw [List.append_nil] at hafter
  rw [lowercase, String.toList_ofList, hafter, lowerFrom, List.append_nil]

/-- The two forms of a small sigma as one. -/
def medialSigma (c : Char) : Char := if c = 'ς' then 'σ' else c

/-- But for the form of a sigma, the place of a character does not matter. -/
theorem map_medialSigma_lowerFrom : ∀ (cs : List Char) (afterCased : Bool),
    (lowerFrom afterCased cs).map medialSigma = (cs.flatMap toLower).map medialSigma := by
  have hsigma : toLower 'Σ' = ['σ'] := by decide +kernel
  intro cs
  induction cs with
  | nil => exact fun _ => rfl
  | cons c cs ih =>
    intro afterCased
    rw [lowerFrom, List.flatMap_cons, List.map_append, ← ih true]
    split
    · next h =>
      rw [h, hsigma, List.map_cons]
      split <;> rfl
    · rw [List.map_append, ih, ih]

/-- **An ASCII part stands in the lower-case form of a text just if it stands in the forms of its
characters.** -/
theorem occurs_lowerFrom {part : List Char} (hpart : Only isAscii part) (cs : List Char)
    (afterCased : Bool) :
    occurs part (lowerFrom afterCased cs) = occurs part (cs.flatMap toLower) := by
  have hsame : ∀ p ∈ part, ∀ c, medialSigma c = p ↔ c = p := by
    intro p hp c
    have hascii : isAscii p = true := hpart p hp
    have hmedial : p ≠ 'σ' := by
      rintro rfl
      exact absurd hascii (by decide)
    have hfinal : p ≠ 'ς' := by
      rintro rfl
      exact absurd hascii (by decide)
    unfold medialSigma
    split
    · next h => exact iff_of_false (Ne.symm hmedial) (h ▸ Ne.symm hfinal)
    · exact Iff.rfl
  rw [← occurs_map hsame, map_medialSigma_lowerFrom, occurs_map hsame]

theorem contains_lowercase {part : String} (hpart : Only isAscii part.toList) (s : String) :
    contains part (lowercase s) = occurs part.toList (s.toList.flatMap toLower) := by
  rw [contains, lowercase, String.toList_ofList, occurs_lowerFrom hpart]

/-- A character without case that a part does not have cuts the search for it in two. -/
theorem occurs_flatMap_toLower_append_cons {part : List Char} (hpart : part ≠ []) {c : Char}
    (hkept : toLower c = [c]) (hc : c ∉ part) (xs ys : List Char) :
    occurs part ((xs ++ c :: ys).flatMap toLower)
      = (occurs part (xs.flatMap toLower) || occurs part (ys.flatMap toLower)) := by
  rw [List.flatMap_append, List.flatMap_cons, hkept, List.singleton_append,
    occurs_append_cons hpart hc]

end SchemaModels.Text
