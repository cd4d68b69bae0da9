import SchemaModels.DefaultValue
import SchemaModels.Proofs.Text.CaseStable
import SchemaModels.Proofs.Text.Search

/-!
# Readings and parts of a default

`DefaultValue.Reading` says once what a text can be declared as and under which conditions on the
type and on the text. Whatever holds of all defaults is shown for each reading.

Before a default is declared, the brackets around it, the calls at its end or the braces of an
array are taken away. What is left has no character that was not there, and what is written around
it is made of a few characters only (`Reading.only_render`).
-/

namespace SchemaModels.DefaultValue

open Text

/-! ## Readings -/

/-- The words for truth values. -/
def truthTypes : List String := ["bit(1)", "bit", "boolean"]

/-- A type of single values, whose defaults are read by what they say. -/
structure IsScalar (type : String) : Prop where
  noTruth : truthTypes.contains type = false
  noArray : TypeFamily.isArray type = false
  noJson : beginsWith "json" type = false

instance (type : String) : Decidable (IsScalar type) :=
  decidable_of_iff (truthTypes.contains type = false ∧ TypeFamily.isArray type = false ∧
      beginsWith "json" type = false)
    ⟨fun h => ⟨h.1, h.2.1, h.2.2⟩, fun h => ⟨h.noTruth, h.noArray, h.noJson⟩⟩

/-- The types of truth values are of no other family. -/
theorem apart_of_truth {type : String} (h : truthTypes.contains type = true) :
    TypeFamily.isArray type = false ∧ beginsWith "json" type = false ∧
      TypeFamily.isNumber type = false := by
  have hall : ∀ t ∈ truthTypes, TypeFamily.isArray t = false ∧ beginsWith "json" t = false ∧
      TypeFamily.isNumber t = false := by decide
  exact hall type (List.contains_iff_mem.mp h)

/-- What a text is declared as for a column type in lower case, and when. -/
inductive Reading (type : String) (elementType : Option String) (s : String) :
    DefaultValue → Prop where
  | truth (h : truthTypes.contains type = true) : Reading type elementType s (boolean (isTruthy s))
  | array (h : TypeFamily.isArray type = true) :
      Reading type elementType s (array (arrayItems elementType s))
  | json (harray : TypeFamily.isArray type = false) (h : beginsWith "json" type = true) :
      Reading type elementType s (raw s)
  /-- A new random identifier, by either of its two names. -/
  | identifier (htype : type = "uuid") (h : s = "gen_random_uuid()" ∨ s = "uuid_generate_v4()") :
      Reading type elementType s uuidV4
  | call (htype : IsScalar type) (h : endsInCall s = true) :
      Reading type elementType s (function (dropCalls s))
  | number (htype : IsScalar type) (hnumber : TypeFamily.isNumber type = true)
      (h : contains "()" s = false) : Reading type elementType s (raw s)
  /-- A call that is not at the end. -/
  | expression (htype : IsScalar type) (hend : endsInCall s = false)
      (h : contains "()" s = true) : Reading type elementType s (literal s)
  | currentTime (htype : IsScalar type) (hnumber : TypeFamily.isNumber type = false)
      (hcall : contains "()" s = false)
      (htime : beginsWith "date" type = true ∨ beginsWith "timestamp" type = true)
      (h : currentTimeWords.contains (lowercase s) = true) :
      Reading type elementType s (literal s)
  | text (htype : IsScalar type) (hnumber : TypeFamily.isNumber type = false)
      (h : contains "()" s = false) : Reading type elementType s (quoted s)

/-- A text that ends in a call has one. -/
theorem contains_of_endsInCall {s : String} (h : endsInCall s = true) : contains "()" s = true := by
  unfold endsInCall at h
  split at h
  · next c rest hreverse =>
    refine contains_iff.mpr ⟨(c :: rest).reverse, [], ?_⟩
    rw [← List.reverse_reverse s.toList, hreverse]
    simp
  · cases h

/-- **Every text has a reading.** -/
theorem reading_ofText (type : String) (elementType : Option String) (s : String) :
    Reading type elementType s (ofText type elementType s) := by
  unfold ofText
  split
  · next h => exact .truth h
  next htruth =>
  split
  · next h => exact .array h
  next harray =>
  split
  · next h => exact .json (Bool.eq_false_iff.mpr harray) h
  next hjson =>
  split
  · next h =>
    simp only [Bool.and_eq_true, Bool.or_eq_true, decide_eq_true_eq] at h
    exact .identifier h.1 h.2
  have hscalar : IsScalar type :=
    ⟨Bool.eq_false_iff.mpr htruth, Bool.eq_false_iff.mpr harray, Bool.eq_false_iff.mpr hjson⟩
  split
  · next h => exact .call hscalar h
  next hend =>
  have hend := Bool.eq_false_iff.mpr hend
  split
  · next hnumber =>
    split
    · next h => exact .expression hscalar hend h
    · next h => exact .number hscalar hnumber (Bool.eq_false_iff.mpr h)
  next hnumber =>
  have hnumber := Bool.eq_false_iff.mpr hnumber
  split
  · next h => exact .expression hscalar hend h
  next hcall =>
  have hcall := Bool.eq_false_iff.mpr hcall
  split
  · next h =>
    simp only [Bool.and_eq_true, Bool.or_eq_true] at h
    exact .currentTime hscalar hnumber hcall h.1 h.2
  · exact .text hscalar hnumber hcall

/-- The texts that stand for no default, in lower case. -/
theorem map_toLower_of_meansNone {d : Dialect} {s : String} (h : meansNone d (.text s) = true) :
    s.toList.map Char.toLower ∈ ["(newid())".toList, "(null)".toList, "null".toList] := by
  simp only [meansNone, eqIgnoringAsciiCase, Bool.and_eq_true, Bool.or_eq_true, beq_iff_eq] at h
  rcases h with ⟨-, (h | rfl) | rfl⟩
  · rw [h]
    decide
  · decide
  · decide

/-! ## Parts -/

theorem stripBracketsUpTo_succ (n : Nat) (mid : List Char) :
    stripBracketsUpTo (n + 1) ('(' :: (mid ++ [')'])) = stripBracketsUpTo n mid := by
  rw [stripBracketsUpTo, List.getLast?_concat, List.dropLast_concat]
  rfl

/-- Without a bracket at both ends nothing is removed. -/
theorem stripBracketsUpTo_eq_self {cs : List Char} (h : ¬ ∃ mid, cs = '(' :: (mid ++ [')']))
    (n : Nat) : stripBracketsUpTo n cs = cs := by
  cases n with
  | zero => rfl
  | succ n =>
    unfold stripBracketsUpTo
    split
    · next rest =>
      split
      · next hlast =>
        obtain ⟨mid, hmid⟩ := List.getLast?_eq_some_iff.mp hlast
        exact absurd ⟨mid, by rw [hmid]⟩ h
      · rfl
    · rfl

/-- Pairs of brackets around a text that is not between brackets itself are removed. -/
theorem stripBracketsUpTo_replicate {mid : List Char} (h : ¬ ∃ cs, mid = '(' :: (cs ++ [')'])) :
    ∀ (n count : Nat), n ≤ count →
      stripBracketsUpTo count (List.replicate n '(' ++ mid ++ List.replicate n ')') = mid := by
  intro n
  induction n with
  | zero =>
    intro count _
    simpa using stripBracketsUpTo_eq_self h count
  | succ n ih =>
    intro count hle
    obtain ⟨count, rfl⟩ : ∃ m, count = m + 1 := ⟨count - 1, by omega⟩
    have hcs : List.replicate (n + 1) '(' ++ mid ++ List.replicate (n + 1) ')'
        = '(' :: ((List.replicate n '(' ++ mid ++ List.replicate n ')') ++ [')']) := by
      rw [List.replicate_succ, List.replicate_succ']
      simp
    rw [hcs, stripBracketsUpTo_succ]
    exact ih count (by omega)

theorem stripBracketsUpTo_subset : ∀ (count : Nat) (cs : List Char),
    stripBracketsUpTo count cs ⊆ cs := by
  intro count
  induction count with
  | zero => exact fun cs => List.Subset.refl cs
  | succ count ih =>
    intro cs
    unfold stripBracketsUpTo
    split
    · next rest =>
      split
      · exact List.Subset.trans (ih rest.dropLast) (List.Subset.trans
          (List.dropLast_subset rest) (List.subset_cons_self '(' rest))
      · exact List.Subset.refl _
    · exact List.Subset.refl _

theorem stripBrackets_subset (s : String) : (stripBrackets s).toList ⊆ s.toList := by
  rw [stripBrackets, String.toList_ofList]
  exact stripBracketsUpTo_subset s.length s.toList

theorem dropCallsReversed_subset (cs : List Char) : dropCallsReversed cs ⊆ cs := by
  fun_induction dropCallsReversed cs with
  | case1 cs ih => exact fun c hc => by simp [ih hc]
  | case2 cs _ => exact List.Subset.refl cs

theorem dropCalls_subset (s : String) : (dropCalls s).toList ⊆ s.toList := by
  intro c hc
  rw [dropCalls, String.toList_ofList, List.mem_reverse] at hc
  exact List.mem_reverse.mp (dropCallsReversed_subset _ hc)

/-- The characters without an opening brace in front. -/
def dropOpeningBrace : List Char → List Char
  | '\x7b' :: cs => cs
  | cs => cs

/-- The characters without a closing brace at the end. -/
def dropClosingBrace (cs : List Char) : List Char :=
  match cs.reverse with
  | '\x7d' :: rest => rest.reverse
  | _ => cs

theorem toList_dropBraces (s : String) :
    (dropBraces s).toList = dropClosingBrace (dropOpeningBrace s.toList) := by
  rw [dropBraces, String.toList_ofList]
  rfl

theorem dropOpeningBrace_cases (cs : List Char) :
    cs = '\x7b' :: dropOpeningBrace cs ∨
      dropOpeningBrace cs = cs ∧ ∀ rest, cs ≠ '\x7b' :: rest := by
  unfold dropOpeningBrace
  split
  · exact .inl rfl
  · next h => exact .inr ⟨rfl, fun rest heq => h rest heq⟩

theorem dropClosingBrace_concat (cs : List Char) : dropClosingBrace (cs ++ ['\x7d']) = cs := by
  simp [dropClosingBrace]

theorem dropClosingBrace_cases (cs : List Char) :
    cs = dropClosingBrace cs ++ ['\x7d'] ∨
      dropClosingBrace cs = cs ∧ ∀ rest, cs ≠ rest ++ ['\x7d'] := by
  unfold dropClosingBrace
  split
  · next rest h => exact .inl (by rw [← List.reverse_reverse cs, h, List.reverse_cons])
  · next h =>
    refine .inr ⟨rfl, ?_⟩
    rintro rest rfl
    exact h rest.reverse (by simp)

/-- The braces at the ends of a text are all that `dropBraces` takes away. -/
theorem dropBraces_subset (s : String) : (dropBraces s).toList ⊆ s.toList := by
  have hopen : dropOpeningBrace s.toList ⊆ s.toList := by
    rcases dropOpeningBrace_cases s.toList with h | ⟨h, -⟩
    · intro c hc
      rw [h]
      exact List.mem_cons_of_mem _ hc
    · rw [h]
      exact List.Subset.refl _
  rw [toList_dropBraces]
  refine List.Subset.trans ?_ hopen
  rcases dropClosingBrace_cases (dropOpeningBrace s.toList) with h | ⟨h, -⟩
  · intro c hc
    rw [h]
    exact List.mem_append_left _ hc
  · rw [h]
    exact List.Subset.refl _

/-! ## Characters -/

/-- The characters of all that is written around the text of a default. -/
def frameChars : List Char :=
  "true false DataTypes.UUIDV4 Sequelize.Sequelize.fn literal('\\\",[])".toList

variable {p : Char → Bool}

theorem only_arrayItems (hframe : Only p frameChars) (elementType : Option String) {s : String}
    (hs : Only p s.toList) : Only p (arrayItems elementType s).toList := by
  have hitems : Only p (dropBraces s).toList := hs.of_subset (dropBraces_subset s)
  have hquote : Only p "\"".toList := hframe.of_subset (by decide)
  unfold arrayItems
  dsimp only
  split
  · refine only_intercalate (hframe.of_subset (by decide)) fun item hitem => ?_
    obtain ⟨piece, hpiece, rfl⟩ := List.mem_map.mp hitem
    exact only_append (only_append hquote (hitems.of_subset (subset_of_mem_splitOn hpiece))) hquote
  · exact hitems

/-- **The expression for a text has the characters of the text and those written around it.** -/
theorem Reading.only_render (hframe : Only p frameChars) {type : String}
    {elementType : Option String} {s : String} (hs : Only p s.toList) {d : DefaultValue}
    (h : Reading type elementType s d) : Only p d.render.toList := by
  have hfixed : ∀ {t : String}, t.toList ⊆ frameChars → Only p t.toList :=
    fun ht => hframe.of_subset ht
  have hargument : ∀ {t : String}, t.toList ⊆ s.toList → Only p (backslashBefore '\'' t).toList :=
    fun ht => only_backslashBefore (hframe _ (by decide)) '\'' (hs.of_subset ht)
  have hliteral : Only p (literal s).render.toList :=
    only_append (only_append (hfixed (by decide)) (hargument (List.Subset.refl _)))
      (hfixed (by decide))
  cases h with
  | truth => cases isTruthy s <;> exact hfixed (by decide)
  | array =>
    have hitems := only_arrayItems hframe elementType hs
    exact only_append (only_append (hfixed (by decide)) hitems) (hfixed (by decide))
  | json | number => exact hs
  | identifier => exact hfixed (by decide)
  | call =>
    exact only_append (only_append (hfixed (by decide)) (hargument (dropCalls_subset s)))
      (hfixed (by decide))
  | expression | currentTime => exact hliteral
  | text => exact only_append (only_append (hfixed (by decide)) hs) (hfixed (by decide))

end SchemaModels.DefaultValue
