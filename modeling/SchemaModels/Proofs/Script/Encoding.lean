import Mathlib.Data.List.DropRight
import SchemaModels.Proofs.Script.EscapedText
import SchemaModels.Proofs.Text.CaseStable

/-!
# Escaping as an encoding

Escaping for double quotes is an encoding of texts: what is escaped can stand between double quotes,
and the literal that it makes there stands for the text and for no other (`faithful_scriptEscaped`).
Whatever is quoted in a model rests on this.

That a text can stand between quotes is said of the escaped text alone, without a reader. It has no
control characters; an odd number of backslashes stands before each double quote, so that one of
them is left for the quote; and at the end none is left over, which would hide the quote that closes
the literal (`IsGuarded`). One escaped character keeps this of what is in front of it
(`IsGuarded.append_escapeForm`), so the whole text has it.

A literal is read as code units, and these tell the text (`units_injective`). Two texts with the
same escaped form are therefore the same.
-/

namespace SchemaModels.Script

open Text

/-! ## Texts and their code units -/

/-- The code units at the front tell the character. -/
theorem codeUnits_append_inj {c d : Char} {us vs : List Nat}
    (h : codeUnits c.toNat ++ us = codeUnits d.toNat ++ vs) : c = d ∧ us = vs := by
  -- no character is a surrogate, so that a single code unit is not the first one of a pair
  have hc : c.toNat < 0xD800 ∨ 0xDFFF < c.toNat ∧ c.toNat < 0x110000 := c.valid
  have hd : d.toNat < 0xD800 ∨ 0xDFFF < d.toNat ∧ d.toNat < 0x110000 := d.valid
  unfold codeUnits at h
  by_cases hcsmall : c.toNat < 0x10000
  · by_cases hdsmall : d.toNat < 0x10000
    · rw [if_pos hcsmall, if_pos hdsmall] at h
      obtain ⟨hunit, hrest⟩ := List.cons.inj h
      exact ⟨Char.toNat_inj.mp hunit, hrest⟩
    · rw [if_pos hcsmall, if_neg hdsmall] at h
      have hunit := (List.cons.inj h).1
      omega
  · by_cases hdsmall : d.toNat < 0x10000
    · rw [if_neg hcsmall, if_pos hdsmall] at h
      have hunit := (List.cons.inj h).1
      omega
    · rw [if_neg hcsmall, if_neg hdsmall] at h
      obtain ⟨hhigh, htail⟩ := List.cons.inj h
      obtain ⟨hlow, hrest⟩ := List.cons.inj htail
      exact ⟨Char.toNat_inj.mp (by omega), hrest⟩

theorem eq_nil_of_units {cs : List Char} (h : units cs = []) : cs = [] := by
  have hlength := length_le_length_units cs
  rw [h] at hlength
  exact List.length_eq_zero_iff.mp (Nat.le_zero.mp hlength)

/-- **The code units tell the text.** -/
theorem units_injective : Function.Injective units := by
  intro cs
  induction cs with
  | nil => exact fun ds h => (eq_nil_of_units h.symm).symm
  | cons c cs ih =>
    intro ds h
    cases ds with
    | nil => exact eq_nil_of_units h
    | cons d ds =>
      rw [units_cons, units_cons] at h
      obtain ⟨rfl, hrest⟩ := codeUnits_append_inj h
      rw [ih hrest]

/-- A literal stands for one text only. -/
theorem ReadsAs.unique {literal s t : String} (hs : ReadsAs literal s) (ht : ReadsAs literal t) :
    s = t := by
  have hunits : units s.toList = units t.toList := Option.some.inj (Eq.trans (Eq.symm hs) ht)
  exact String.toList_inj.mp (units_injective hunits)

/-! ## Between double quotes -/

/-- How many backslashes stand at the end of the characters. -/
def backslashesAtEnd (cs : List Char) : Nat := (cs.rtakeWhile (· == '\\')).length

/-- Between double quotes the characters stay inside: each double quote of theirs stands behind an
odd number of backslashes, and the one that closes the literal does not. -/
structure IsGuarded (cs : List Char) : Prop where
  quotes : ∀ {front back : List Char}, cs = front ++ '"' :: back → backslashesAtEnd front % 2 = 1
  close : backslashesAtEnd cs % 2 = 0

theorem backslashesAtEnd_concat_backslash (cs : List Char) :
    backslashesAtEnd (cs ++ ['\\']) = backslashesAtEnd cs + 1 := by
  rw [backslashesAtEnd, List.rtakeWhile_concat_pos _ _ _ rfl, List.length_append]
  rfl

theorem backslashesAtEnd_concat_of_ne {c : Char} (h : c ≠ '\\') (cs : List Char) :
    backslashesAtEnd (cs ++ [c]) = 0 := by
  rw [backslashesAtEnd, List.rtakeWhile_concat_neg _ _ _ (by simpa using h)]
  rfl

/-- Characters without a backslash leave none at the end. -/
theorem backslashesAtEnd_append {ds : List Char} (hne : ds ≠ []) (h : '\\' ∉ ds)
    (cs : List Char) : backslashesAtEnd (cs ++ ds) = 0 := by
  obtain ⟨init, last, rfl⟩ := (List.eq_nil_or_concat ds).resolve_left hne
  have hlast : last ≠ '\\' := by
    rintro rfl
    exact h (by simp)
  rw [List.concat_eq_append, ← List.append_assoc]
  exact backslashesAtEnd_concat_of_ne hlast _

theorem notMem_of_isAlphanum {d : Char} (hd : d.isAlphanum = false) {cs : List Char}
    (h : ∀ c ∈ cs, c.isAlphanum = true) : d ∉ cs := by
  intro hmem
  rw [h d hmem] at hd
  cases hd

/-- Just a backslash is in front of a double quote in an escaped character. -/
theorem EscapeForm.eq_of_quote {c : Char} {cs front back : List Char} (h : EscapeForm c cs)
    (hcs : cs = front ++ '"' :: back) : front = ['\\'] := by
  cases h with
  | kept hself =>
    obtain ⟨rfl, hquote⟩ | ⟨-, hnil⟩ := List.singleton_eq_append_iff.mp hcs
    · obtain ⟨rfl, -⟩ := List.cons.inj hquote
      exact absurd hself (by decide)
    · cases hnil
  | marked =>
    cases front with
    | nil => exact absurd (List.cons.inj hcs).1 (by decide)
    | cons d front =>
      obtain ⟨rfl, hrest⟩ := List.cons.inj hcs
      obtain ⟨rfl, -⟩ | ⟨-, hnil⟩ := List.singleton_eq_append_iff.mp hrest
      · rfl
      · cases hnil
  | @coded _ d ds hcode =>
    have hmem : '"' ∈ '\\' :: d :: ds := by rw [hcs]; simp
    rcases List.mem_cons.mp hmem with hback | hmem
    · exact absurd hback (by decide)
    · exact absurd hmem (notMem_of_isAlphanum rfl hcode)

/-- Behind an escaped character no backslash is left over. -/
theorem EscapeForm.close {c : Char} {cs ds : List Char} (h : EscapeForm c ds)
    (hcs : backslashesAtEnd cs % 2 = 0) : backslashesAtEnd (cs ++ ds) % 2 = 0 := by
  cases h with
  | kept hself =>
    have hc : c ≠ '\\' := by
      rintro rfl
      exact absurd hself (by decide)
    rw [backslashesAtEnd_concat_of_ne hc]
  | marked =>
    have hpair : cs ++ ['\\', c] = cs ++ ['\\'] ++ [c] := by simp
    rw [hpair]
    by_cases hc : c = '\\'
    · rw [hc, backslashesAtEnd_concat_backslash, backslashesAtEnd_concat_backslash]
      omega
    · rw [backslashesAtEnd_concat_of_ne hc]
  | @coded _ d digits hcode =>
    have hcoded : cs ++ '\\' :: d :: digits = cs ++ ['\\'] ++ d :: digits := by simp
    rw [hcoded, backslashesAtEnd_append (by simp) (notMem_of_isAlphanum rfl hcode)]

/-- **One more escaped character stays inside.** -/
theorem IsGuarded.append_escapeForm {c : Char} {cs ds : List Char} (h : IsGuarded cs)
    (hds : EscapeForm c ds) : IsGuarded (cs ++ ds) where
  quotes := by
    intro front back heq
    have hown : ∀ rest, front = cs ++ rest → ds = rest ++ '"' :: back →
        backslashesAtEnd front % 2 = 1 := by
      intro rest hfront hrest
      have hclose := h.close
      rw [hfront, hds.eq_of_quote hrest, backslashesAtEnd_concat_backslash]
      omega
    rcases List.append_eq_append_iff.mp heq with ⟨rest, hfront, hrest⟩ | ⟨mid, hcs, hback⟩
    · exact hown rest hfront hrest
    cases mid with
    | nil => exact hown [] (by simp [hcs]) hback.symm
    | cons d mid =>
      obtain ⟨rfl, -⟩ := List.cons.inj hback
      exact h.quotes hcs
  close := hds.close h.close

theorem isGuarded_nil : IsGuarded [] where
  quotes := by
    intro front back h
    simp at h
  close := rfl

/-- **An escaped text stays between its double quotes.** -/
theorem isGuarded_flatMap (cs : List Char) : IsGuarded (cs.flatMap scriptChar) := by
  -- what is behind a character does not matter to it, so the text is taken from its end
  induction cs using List.reverseRecOn with
  | nil => exact isGuarded_nil
  | append_singleton cs c ih =>
    rw [List.flatMap_append, List.flatMap_singleton]
    exact ih.append_escapeForm (escapeForm_scriptChar c)

/-! ## The encoding -/

theorem scriptEscaped_append (s t : String) :
    scriptEscaped (s ++ t) = scriptEscaped s ++ scriptEscaped t := by
  rw [scriptEscaped, String.toList_append, List.flatMap_append, String.ofList_append]
  rfl

theorem isControl_of_mem_scriptEscaped {s : String} {c : Char}
    (h : c ∈ (scriptEscaped s).toList) : isControl c = false := by
  have honly : Only (fun c => !isControl c) (scriptEscaped s).toList :=
    only_scriptEscaped (List.all_eq_true.mp (by decide)) fun c _ hc => by rw [hc]; rfl
  simpa using honly c h

/-- The literal stands for the text and for no other. -/
theorem readsAs_scriptQuoted_iff (s t : String) : ReadsAs (scriptQuoted s) t ↔ t = s := by
  have hself : ReadsAs (scriptQuoted s) s := (readsAsIn_escapedIn .double s).2
  constructor
  · exact fun ht => ht.unique hself
  · rintro rfl
    exact hself

theorem scriptEscaped_injective : Function.Injective scriptEscaped := by
  intro s t h
  have hquoted : scriptQuoted s = scriptQuoted t := by rw [scriptQuoted, h, scriptQuoted]
  exact (readsAs_scriptQuoted_iff t s).mp (hquoted ▸ (readsAs_scriptQuoted_iff s s).mpr rfl)

/-- **Escaping is a faithful encoding of texts in literals.** An escaped text has no control
character, stays between its double quotes, and stands there for the text alone; texts one after the
other are escaped one by one, and no two texts are escaped to the same. -/
theorem faithful_scriptEscaped :
    (∀ s, (∀ c ∈ (scriptEscaped s).toList, isControl c = false) ∧
      IsGuarded (scriptEscaped s).toList ∧ ∀ t, ReadsAs (scriptQuoted s) t ↔ t = s) ∧
    (∀ s t, scriptEscaped (s ++ t) = scriptEscaped s ++ scriptEscaped t) ∧
    Function.Injective scriptEscaped := by
  refine ⟨fun s => ⟨?_, ?_, readsAs_scriptQuoted_iff s⟩, scriptEscaped_append,
    scriptEscaped_injective⟩
  · exact fun c hc => isControl_of_mem_scriptEscaped hc
  · rw [scriptEscaped, String.toList_ofList]
    exact isGuarded_flatMap s.toList

example : scriptQuoted "\\\"\n\x7f/" = "\"\\\\\\\"\\n\\u007f\\/\"" := by
  decide +kernel

end SchemaModels.Script
