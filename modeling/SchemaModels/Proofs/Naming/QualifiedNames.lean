import Mathlib.Data.List.TakeWhile
import SchemaModels.Naming.TableName

/-!
# Qualified names read back

A qualified name is read by cutting it at its first dot, and written by putting the dot back. Three
things are lost on the way: a dot in front of everything cuts nothing, what follows a second dot is
dropped, and an empty schema is not written. A name that was read has none of them left
(`TableName.isCut_parse`): either it has a schema, which is not empty, and there is no dot in the
schema or in the table, or it has none, and there is nothing to cut from the table.

A name of this form is read back from its qualified name (`TableName.IsCut.parse_qualified`). So
the names of this form are exactly those that are read back, and exactly those that some text
stands for (`TableName.roundTrip`).
-/

namespace SchemaModels.TableName

/-! ## Where a text is cut -/

/-- There is nothing to cut from the text: it has no dot, or begins with one. -/
def IsBare (text : String) : Prop :=
  '.' ∉ text.toList ∨ text.toList.head? = some '.'

instance (text : String) : Decidable (IsBare text) :=
  inferInstanceAs (Decidable (_ ∨ _))

/-- A text is bare, or is cut at a first dot that something stands before. -/
theorem isBare_or_dotted (text : String) :
    IsBare text ∨ ∃ schema rest : List Char,
      schema ≠ [] ∧ '.' ∉ schema ∧ text.toList = schema ++ '.' :: rest := by
  by_cases hdot : '.' ∈ text.toList
  · obtain ⟨schema, rest, htext, hschema⟩ := List.eq_append_cons_of_mem hdot
    cases schema with
    | nil => exact .inl (.inr (by rw [htext]; rfl))
    | cons c cs => exact .inr ⟨c :: cs, rest, List.cons_ne_nil c cs, hschema, htext⟩
  · exact .inl (.inl hdot)

theorem bne_dot_of_notMem {cs : List Char} (h : '.' ∉ cs) : ∀ c ∈ cs, (c != '.') = true := by
  intro c hc
  rw [bne_iff_ne]
  exact fun heq => h (heq ▸ hc)

theorem notMem_takeWhile (cs : List Char) : '.' ∉ cs.takeWhile (· != '.') := by
  intro h
  have hall := List.all_eq_true.mp List.all_takeWhile '.' h
  exact absurd hall (by decide)

theorem split_of_isBare {text : String} (h : IsBare text) : split text = (none, text) := by
  unfold split
  cases h with
  | inl hnone =>
    have hdrop : text.toList.dropWhile (· != '.') = [] :=
      List.dropWhile_eq_nil_iff.mpr (bne_dot_of_notMem hnone)
    simp only [hdrop]
    split
    · rfl
    · rfl
    · next hcons _ => cases hcons
  | inr hfirst =>
    obtain ⟨rest, hrest⟩ := List.head?_eq_some_iff.mp hfirst
    have htake : text.toList.takeWhile (· != '.') = [] := by rw [hrest]; rfl
    simp only [htake]

theorem split_dotted {schema rest : List Char} (hne : schema ≠ []) (hschema : '.' ∉ schema)
    {text : String} (h : text.toList = schema ++ '.' :: rest) :
    split text = (some (String.ofList schema), String.ofList (rest.takeWhile (· != '.'))) := by
  have hpos := bne_dot_of_notMem hschema
  have htake : text.toList.takeWhile (· != '.') = schema := by
    rw [h, List.takeWhile_append_of_pos hpos, List.takeWhile_cons_of_neg (by decide),
      List.append_nil]
  have hdrop : text.toList.dropWhile (· != '.') = '.' :: rest := by
    rw [h, List.dropWhile_append_of_pos hpos, List.dropWhile_cons_of_neg (by decide)]
  obtain ⟨c, cs, rfl⟩ := List.exists_cons_of_ne_nil hne
  unfold split
  simp only [htake, hdrop]

/-! ## Names that were cut -/

/-- The name is one that can be the result of cutting a text. -/
def IsCut (n : TableName) : Prop :=
  match n.schema with
  | some schema => schema ≠ "" ∧ '.' ∉ schema.toList ∧ '.' ∉ n.name.toList
  | none => IsBare n.name

instance (n : TableName) : Decidable n.IsCut := by
  unfold IsCut
  split <;> infer_instance

/-- **Every name that is read has been cut.** -/
theorem isCut_parse (text : String) : (parse text).IsCut := by
  rw [parse]
  cases isBare_or_dotted text with
  | inl hbare =>
    rw [split_of_isBare hbare]
    exact hbare
  | inr hdotted =>
    obtain ⟨schema, rest, hne, hschema, htext⟩ := hdotted
    rw [split_dotted hne hschema htext]
    refine ⟨?_, ?_, ?_⟩
    · intro hempty
      exact hne (String.ofList_eq_empty_iff.mp hempty)
    · rwa [String.toList_ofList]
    · rw [String.toList_ofList]
      exact notMem_takeWhile rest

/-- **A name that has been cut is read back from its qualified name.** -/
theorem IsCut.parse_qualified {n : TableName} (h : n.IsCut) : parse n.qualified = n := by
  obtain ⟨schema, name⟩ := n
  cases schema with
  | none =>
    show parse name = ⟨none, name⟩
    rw [parse, split_of_isBare h]
  | some schema =>
    obtain ⟨hne, hschema, hname⟩ := h
    have hnil : schema.toList ≠ [] := fun hnil => hne (String.toList_eq_nil_iff.mp hnil)
    have hqualified : (TableName.qualified ⟨some schema, name⟩).toList
        = schema.toList ++ '.' :: name.toList := by
      show (if schema = "" then name else schema ++ "." ++ name).toList = _
      rw [if_neg hne, String.toList_append, String.toList_append, List.append_assoc]
      rfl
    have hwhole : name.toList.takeWhile (· != '.') = name.toList :=
      List.takeWhile_eq_self_iff.mpr (bne_dot_of_notMem hname)
    rw [parse, split_dotted hnil hschema hqualified, hwhole, String.ofList_toList,
      String.ofList_toList]

/-- Cutting for a second time changes nothing. -/
theorem parse_qualified_parse (text : String) : parse (parse text).qualified = parse text :=
  (isCut_parse text).parse_qualified

/-- **Qualified names are read back exactly where they have been cut.** What a text stands for is
read back whatever the text, and the names that are read back are those that some text stands for:
with a schema that is not empty and no dot in the schema or the table, or without one and with
nothing to cut from the table. -/
theorem roundTrip (text : String) (n : TableName) :
    parse (parse text).qualified = parse text ∧
    (parse n.qualified = n ↔ n.IsCut) ∧
    ((∃ text, parse text = n) ↔ n.IsCut) := by
  refine ⟨parse_qualified_parse text, ⟨fun h => ?_, IsCut.parse_qualified⟩, ⟨?_, fun h => ?_⟩⟩
  · exact h ▸ isCut_parse n.qualified
  · rintro ⟨text, rfl⟩
    exact isCut_parse text
  · exact ⟨n.qualified, h.parse_qualified⟩

example : IsCut ⟨some "dbo", "orders"⟩ ∧ IsCut ⟨none, ".orders"⟩ ∧ ¬ IsCut ⟨some "", "orders"⟩ ∧
    ¬ IsCut ⟨none, "dbo.orders"⟩ ∧ ¬ IsCut ⟨some "a", "b.c"⟩ := by
  decide

end SchemaModels.TableName
