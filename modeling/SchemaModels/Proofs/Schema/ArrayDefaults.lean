import Mathlib.Data.List.Forall2
import SchemaModels.Proofs.Schema.DefaultMeaning

/-!
# Arrays of texts as defaults

An array default is reported as its elements between braces, with commas between them. In a column
for an array of texts it becomes a list of literals, one for each element and in their order, and
each literal stands for its element (`array_ofReported`). The elements may have any character but a
comma, which would end them.

The text goes through four hands. Escaping makes and hides no comma and no brace; there are no round
brackets around braces to remove; only the outermost braces go; and cutting at the commas undoes the
joining. So what is quoted is the escaped form of one element after the other
(`arrayItems_scriptEscaped`).
-/

namespace SchemaModels

open Text

/-- The text is a list in square brackets of literals between double quotes, which stand for the
given texts one by one. -/
def Script.ListsTexts (text : String) (elements : List String) : Prop :=
  ∃ literals, text = "[" ++ String.intercalate "," literals ++ "]" ∧
    List.Forall₂ (ReadsAsIn .double) literals elements

namespace DefaultValue

open Script

/-- The elements of an array as they are reported. -/
def braced (elements : List String) : String :=
  "\x7b" ++ String.intercalate "," elements ++ "\x7d"

theorem toList_braced (elements : List String) : (braced elements).toList
    = '\x7b' :: ((String.intercalate "," elements).toList ++ ['\x7d']) := by
  rw [braced, String.toList_append, String.toList_append]
  rfl

theorem dropBraces_braced (elements : List String) :
    dropBraces (braced elements) = String.intercalate "," elements := by
  rw [← String.toList_inj, toList_dropBraces, toList_braced]
  exact dropClosingBrace_concat _

/-- There are no round brackets around braces. -/
theorem stripBrackets_braced (elements : List String) :
    stripBrackets (braced elements) = braced elements := by
  have hno : ¬ ∃ mid, (braced elements).toList = '(' :: (mid ++ [')']) := by
    rintro ⟨mid, h⟩
    rw [toList_braced, List.cons.injEq] at h
    exact absurd h.1 (by decide)
  rw [stripBrackets, stripBracketsUpTo_eq_self hno, String.ofList_toList]

/-- No text in braces stands for no default. -/
theorem meansNone_braced (elements : List String) (dialect : Dialect) :
    meansNone dialect (.text (braced elements)) = false := by
  have hnone : ∀ cs ∈ ["(newid())".toList, "(null)".toList, "null".toList],
      cs.head? ≠ some '\x7b' := by decide
  rw [Bool.eq_false_iff]
  intro h
  refine hnone _ (map_toLower_of_meansNone h) ?_
  rw [toList_braced]
  rfl

/-- Every text in a column for arrays is an array. -/
theorem ofText_of_isArray {type : String} (h : TypeFamily.isArray type = true)
    (elementType : Option String) (s : String) :
    ofText type elementType s = array (arrayItems elementType s) := by
  generalize hd : ofText type elementType s = d
  have hreading := reading_ofText type elementType s
  rw [hd] at hreading
  cases hreading with
  | array => rfl
  | truth htruth => exact absurd (h.symm.trans (apart_of_truth htruth).1) (by decide)
  | json harray => exact absurd (h.symm.trans harray) (by decide)
  | identifier htype =>
    rw [htype] at h
    exact absurd h (by decide)
  | call htype | number htype | expression htype | currentTime htype | text htype =>
    exact absurd (h.symm.trans htype.noArray) (by decide)

/-- The elements are joined to the empty text only if there are none, or a single empty one. -/
theorem intercalate_ne_empty {elements : List String} (hne : elements ≠ [])
    (hone : elements ≠ [""]) : String.intercalate "," elements ≠ "" := by
  match elements with
  | [] => exact absurd rfl hne
  | [element] =>
    rw [String.intercalate_singleton]
    rintro rfl
    exact hone rfl
  | first :: second :: rest =>
    intro hempty
    rw [String.intercalate_cons_cons, ← String.toList_inj] at hempty
    simp at hempty

/-- **An array of texts becomes a list of literals for its elements**, in their order. -/
theorem array_ofReported {sqlType elementType : String}
    (harray : beginsWith "array" (lowercase sqlType) = true)
    (htexts : TypeFamily.isString (lowercase elementType) = true) {elements : List String}
    (hcommas : ∀ element ∈ elements, ',' ∉ element.toList) (hone : elements ≠ [""])
    (dialect : Dialect) :
    ∃ items, ofReported (some (.text (braced elements))) sqlType (some elementType) dialect false
        = some (array items) ∧
      ListsTexts (array items).render elements ∧
      (elements = [] → (array items).render = "[]") := by
  have htype : TypeFamily.isArray (lowercase sqlType) = true :=
    Bool.or_eq_true_iff.mpr (.inl harray)
  have hread : ofReported (some (.text (braced elements))) sqlType (some elementType) dialect false
      = some (array (arrayItems (some elementType) (scriptEscaped (braced elements)))) := by
    rw [ofReported, meansNone_braced, stripBrackets_scriptEscaped, stripBrackets_braced]
    exact congrArg some (ofText_of_isArray htype _ _)
  have hitems : arrayItems (some elementType) (scriptEscaped (braced elements))
      = String.intercalate "," (elements.map scriptQuoted) := by
    have hkind : TypeFamily.isString (lowercase ((some elementType).getD "")) = true := htexts
    rw [arrayItems_scriptEscaped hkind, dropBraces_braced]
    by_cases hne : elements = []
    · rw [hne]
      rfl
    · rw [if_neg (intercalate_ne_empty hne hone), splitOn_intercalate rfl hne hcommas]
  refine ⟨_, hread, ?_, ?_⟩
  · refine ⟨elements.map scriptQuoted, by rw [hitems]; rfl, ?_⟩
    rw [List.forall₂_map_left_iff]
    exact List.forall₂_same.mpr fun element _ => readsAsIn_escapedIn .double element
  · rintro rfl
    rw [hitems]
    rfl

/-- Elements with quotes, braces, brackets and a line feed, and no elements at all. -/
theorem array_ofReported_quoted :
    (∃ items, ofReported (some (.text "\x7bit's,\"so\\\x7d,(\n),,\x7b\x7d")) "ARRAY" (some "Text")
        .postgres false = some (array items) ∧
      ListsTexts (array items).render ["it's", "\"so\\\x7d", "(\n)", "", "\x7b"]) ∧
    ∃ items, ofReported (some (.text "\x7b\x7d")) "array" (some "varchar(8)") .mssql false
        = some (array items) ∧
      (array items).render = "[]" := by
  have htypes : beginsWith "array" (lowercase "ARRAY") = true ∧
      TypeFamily.isString (lowercase "Text") = true := by decide +kernel
  have hothers : beginsWith "array" (lowercase "array") = true ∧
      TypeFamily.isString (lowercase "varchar(8)") = true := by decide +kernel
  have hcommas : ∀ element ∈ ["it's", "\"so\\\x7d", "(\n)", "", "\x7b"],
      ',' ∉ element.toList := by decide
  have hfull : braced ["it's", "\"so\\\x7d", "(\n)", "", "\x7b"]
      = "\x7bit's,\"so\\\x7d,(\n),,\x7b\x7d" := by decide
  obtain ⟨items, hitems, hlists, -⟩ :=
    array_ofReported htypes.1 htypes.2 hcommas (by decide) .postgres
  obtain ⟨noItems, hnone, -, hempty⟩ :=
    array_ofReported hothers.1 hothers.2 (List.forall_mem_nil _) (by decide) .mssql
  exact ⟨⟨items, hfull ▸ hitems, hlists⟩, ⟨noItems, hnone, hempty rfl⟩⟩

end DefaultValue
end SchemaModels
