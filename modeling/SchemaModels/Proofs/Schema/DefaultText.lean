import SchemaModels.Proofs.Model.Plain
import SchemaModels.Proofs.Schema.DefaultParts
import SchemaModels.Proofs.Script.Value
import SchemaModels.Proofs.Text.Search

/-!
# Defaults in script text

The expression for the default of a plain column is balanced. A default that is no text is written
as a number or as JSON. A plain text is a word in brackets: escaping leaves it as it is, since none
of its characters is escaped, and the brackets go in pairs, so that the word is left
(`stripBrackets_of_isBracketedWord`). However the word is then read, what is written of it are
characters of its own without meaning to the scanner (`Reading.isBalanced_render`).
-/

namespace SchemaModels

open Text Script

/-- A value that is no text is written as it is. -/
theorem Value.isBalanced_display {v : Value} (h : ∀ s, v ≠ .text s) : IsBalanced v.display := by
  cases v with
  | bool b => cases b <;> exact .fixed fun _ => rfl
  | int n => exact (isInert_intText n).isBalanced
  | float x => exact (isInert_write _ x).isBalanced
  | text s => exact absurd rfl (h s)
  | json v => exact isBalanced_compact v

namespace DefaultValue

/-! ## Brackets around a word -/

theorem scriptChar_of_isWordByte {c : Char} (h : isWordByte c = true) : scriptChar c = [c] := by
  refine forall_isAscii (p := fun c => isWordByte c = true → scriptChar c = [c]) ?_
    (isAscii_of_isWordByte h) h
  decide

/-- A word is not between brackets. -/
theorem ne_bracketed_of_isWord {word : List Char} (h : ∀ c ∈ word, isWordByte c = true) :
    ¬ ∃ cs, word = '(' :: (cs ++ [')']) := by
  rintro ⟨cs, rfl⟩
  exact absurd (h '(' List.mem_cons_self) (by decide)

/-- Of a bracketed word the word is left. -/
theorem stripBrackets_of_isBracketedWord {s : String} (h : IsBracketedWord s) :
    ∃ word, IsWord word ∧ stripBrackets (scriptEscaped s) = word := by
  obtain ⟨n, word, hword, hs⟩ := h
  have hkept : ∀ c ∈ s.toList, scriptChar c = [c] := by
    intro c hc
    rw [hs] at hc
    simp only [List.mem_append] at hc
    rcases hc with (hc | hc) | hc
    · rw [(List.mem_replicate.mp hc).2]; decide
    · exact scriptChar_of_isWordByte (hword c hc)
    · rw [(List.mem_replicate.mp hc).2]; decide
  have hescaped : scriptEscaped s = s := by
    rw [scriptEscaped, flatMap_eq_self hkept, String.ofList_toList]
  have hlen : n ≤ s.length := by
    rw [← String.length_toList, hs]
    simp only [List.length_append, List.length_replicate]
    omega
  have hstrip := stripBracketsUpTo_replicate (ne_bracketed_of_isWord hword) n s.length hlen
  exact ⟨word, hword, by rw [stripBrackets, hescaped, hs, hstrip, String.ofList_toList]⟩

/-! ## Reading the word -/

theorem isInert_dropCalls {s : String} (h : IsInert s) : IsInert (dropCalls s) :=
  fun c hc => h c (dropCalls_subset s hc)

theorem isInert_dropBraces {s : String} (h : IsInert s) : IsInert (dropBraces s) :=
  fun c hc => h c (dropBraces_subset s hc)

theorem isInert_of_mem_splitOn {sep : Char} {s : String} (h : IsInert s) :
    ∀ piece ∈ splitOn sep s, IsInert piece :=
  fun _ hpiece c hc => h c (subset_of_mem_splitOn hpiece hc)

theorem isBalanced_arrayItems {s : String} (h : IsInert s) (elementType : Option String) :
    IsBalanced (arrayItems elementType s) := by
  unfold arrayItems
  dsimp only
  split
  · refine isBalanced_intercalate "," (.fixed fun _ => rfl) fun t ht => ?_
    obtain ⟨item, hitem, rfl⟩ := List.mem_map.mp ht
    exact (isInert_of_mem_splitOn (isInert_dropBraces h) item hitem).isBalanced_doubleQuoted
  · exact (isInert_dropBraces h).isBalanced

/-- A call that is given a quoted text without meaning to the scanner. -/
theorem isBalanced_call (front : String) {s : String} (h : IsInert s)
    (hfront : ∀ o, Reads (Scan.code o) front ⟨.literal .single, .round :: o⟩) :
    IsBalanced (front ++ backslashBefore '\'' s ++ "')") := by
  intro o
  rw [backslashBefore_of_isInert (by decide) h]
  exact ((hfront o).append (h.reads rfl)).append (Reads.fixed rfl)

theorem Reading.isBalanced_render {type : String} {elementType : Option String} {s : String}
    {d : DefaultValue} (h : Reading type elementType s d) (hs : IsInert s) :
    IsBalanced d.render := by
  have hliteral : IsBalanced (literal s).render :=
    isBalanced_call "Sequelize.Sequelize.literal('" hs fun _ => .fixed rfl
  cases h with
  | truth => cases isTruthy s <;> exact .fixed fun _ => rfl
  | array =>
    exact (isBalanced_arrayItems hs elementType).between "[" "]" .square (fun _ => .fixed rfl)
      fun _ => .fixed rfl
  | json | number => exact hs.isBalanced
  | identifier => exact .fixed fun _ => rfl
  | call =>
    exact isBalanced_call "Sequelize.Sequelize.fn('" (isInert_dropCalls hs) fun _ => .fixed rfl
  | expression | currentTime => exact hliteral
  | text => exact hs.isBalanced_doubleQuoted

/-- **The default of a plain column is balanced.** -/
theorem isBalanced_render_ofReported {c : Column} (h : c.IsPlain) {dialect : Dialect}
    {isSerial : Bool} {d : DefaultValue}
    (hd : ofReported c.defaultValue c.sqlType c.elementType dialect isSerial = some d) :
    IsBalanced d.render := by
  unfold ofReported at hd
  split at hd
  · cases hd
  · next v hv =>
    split at hd
    · cases hd
    · split at hd
      · next s _ =>
        obtain ⟨word, hword, hstrip⟩ := stripBrackets_of_isBracketedWord (h.defaultValue s hv)
        rw [hstrip] at hd
        cases hd
        exact (reading_ofText _ _ _).isBalanced_render hword.isInert
      · next hnoText =>
        cases hd
        exact Value.isBalanced_display hnoText

end DefaultValue
end SchemaModels
