import SchemaModels.Proofs.ColumnType.MemberFamilies
import SchemaModels.Proofs.Script.TypeExpression

/-!
# Elements of arrays

The member of an array column has the type of its elements with brackets behind it. Type expressions
are put together as texts here, so the brackets go to what stands behind the last bar of the
element's expression. `ColumnType.readsAsArrayOf_element_iff` says when this is the whole of it.

The elements of the elements have no type, so the element's expression is a keyword, `any[]` or a
union of literals; only a union has bars. Labels that are given apart from the type stand between
double quotes, with the quotes in them escaped, and labels in the type stand between the single
quotes that they have there. Where they can be read back, the expression is right just if there is
one label.
-/

namespace SchemaModels

open Script TypeFamily

namespace ColumnType

variable {t : ColumnType}

/-- The elements of the elements have the empty type, which belongs to no family. -/
theorem plainMemberType_elementOrEmpty_elementOrEmpty (t : ColumnType) :
    t.elementOrEmpty.elementOrEmpty.plainMemberType = .any .unknownType "" := by
  have hlowered : t.elementOrEmpty.elementOrEmpty.lowered = "" := rfl
  have hnumber : isNumber "" = false := by decide
  have hboolean : isBoolean "" = false := by decide
  have hdate : isDate "" = false := by decide
  have hstring : isString "" = false := by decide
  have henum : isEnum "" = false := by decide
  have hjson : isJson "" = false := by decide
  simp [plainMemberType, hlowered, hnumber, hboolean, hdate, hstring, henum, hjson]

theorem memberTypeWith_elementOrEmpty_elementOrEmpty (t : ColumnType) (element : MemberType) :
    t.elementOrEmpty.elementOrEmpty.memberTypeWith element = .any .unknownType "" := by
  have harray : isArray t.elementOrEmpty.elementOrEmpty.lowered = false := by
    have hlowered : t.elementOrEmpty.elementOrEmpty.lowered = "" := rfl
    rw [hlowered]
    decide
  rw [memberTypeWith, harray, plainMemberType_elementOrEmpty_elementOrEmpty]
  rfl

theorem memberType_elementOrEmpty (t : ColumnType) :
    t.elementOrEmpty.memberType = t.elementOrEmpty.memberTypeWith (.any .unknownType "") := by
  rw [memberType, memberTypeWith_elementOrEmpty_elementOrEmpty]

/-- The member of an array column has the type of the elements with brackets. -/
theorem memberType_of_isArray (h : isArray t.lowered = true) :
    t.memberType = .array t.elementOrEmpty.memberType := by
  rw [memberType_elementOrEmpty, memberType, memberTypeWith, if_pos h,
    plainMemberType_elementOrEmpty_elementOrEmpty]

/-- A type that is no union is a keyword. -/
theorem exists_operandOf?_plainMemberType (h : ∀ literals, t.plainMemberType ≠ .union literals) :
    ∃ T, operandOf? t.plainMemberType.render = some T := by
  have hany : ∀ reason type, ∃ T, operandOf? (MemberType.any reason type).render = some T := by
    intro reason type
    have hrender : (MemberType.any reason type).render = "any" := rfl
    rw [hrender]
    exact ⟨.word "any", rfl⟩
  revert h
  unfold plainMemberType
  dsimp only
  split
  · exact fun _ => ⟨.word "number", rfl⟩
  split
  · exact fun _ => ⟨.word "boolean", rfl⟩
  split
  · exact fun _ => ⟨.word "Date", rfl⟩
  split
  · exact fun _ => ⟨.word "string", rfl⟩
  split
  · split
    · exact fun _ => hany _ _
    · exact fun h => absurd rfl (h _)
  split
  · exact fun _ => ⟨.word "object", rfl⟩
  · exact fun _ => hany _ _

/-- So the elements' expression is one operand, unless they are a union. -/
theorem exists_operandOf?_elementOrEmpty
    (h : ∀ literals, t.elementOrEmpty.memberType ≠ .union literals) :
    ∃ T, operandOf? t.elementOrEmpty.memberType.render = some T := by
  rw [memberType_elementOrEmpty, memberTypeWith] at h ⊢
  split at h
  · next harray =>
    rw [if_pos harray]
    exact ⟨.array (.word "any"), rfl⟩
  · next harray =>
    rw [if_neg harray]
    exact exists_operandOf?_plainMemberType h

/-- **When an array is one of its elements.** The expression for an array column stands for an array
of what the expression for its elements stands for, unless these are a union. Then their expression
must have no bar outside of parentheses. If it has quoted labels that can be read back, there must
be one label. -/
theorem readsAsArrayOf_element_iff (h : isArray t.lowered = true) :
    ((∀ literals, t.elementOrEmpty.memberType ≠ .union literals) →
      ReadsAsArrayOf t.memberType.render t.elementOrEmpty.memberType.render)
    ∧ ∀ literals, t.elementOrEmpty.memberType = .union literals →
      (ReadsAsArrayOf t.memberType.render t.elementOrEmpty.memberType.render
        ↔ ∃ T, operandOf? (String.intercalate " | " literals) = some T)
      ∧ ∀ (k : Quoting) (labels : List String), literals = labels.map k.write →
        (∀ label ∈ labels, k.Keeps label) →
          (ReadsAsArrayOf t.memberType.render t.elementOrEmpty.memberType.render
            ↔ labels.length = 1) := by
  have hrender : t.memberType.render = t.elementOrEmpty.memberType.render ++ "[]" := by
    rw [memberType_of_isArray h]
    rfl
  rw [hrender, readsAsArrayOf_brackets_iff]
  refine ⟨exists_operandOf?_elementOrEmpty, fun literals hunion => ?_⟩
  rw [hunion]
  refine ⟨Iff.rfl, fun k labels hliterals hlabels => ?_⟩
  rw [hliterals]
  exact exists_operandOf?_union_iff hlabels

/-- An array of numbers, and one of an enum with a single label. -/
theorem readsAsArrayOf_element_iff_single :
    ReadsAsArrayOf (memberType { sqlType := "ARRAY", elementType := some "int" }).render "number" ∧
      ReadsAsArrayOf
        (memberType { sqlType := "ARRAY", elementType := some "enum", labels := ["new"] }).render
        "\"new\"" := by
  let quoting : Quoting := ⟨.double, true⟩
  let numbers : ColumnType := { sqlType := "ARRAY", elementType := some "int" }
  let enums : ColumnType := { sqlType := "ARRAY", elementType := some "enum", labels := ["new"] }
  have hnumber : numbers.elementOrEmpty.memberType = .number := by
    rw [memberType_of_not_isArray (by decide), plainMemberType]
    exact if_pos (by decide)
  have hliterals : enums.elementOrEmpty.enumLiterals = ["new"].map quoting.write := by decide
  have henum : enums.elementOrEmpty.memberType = .union (["new"].map quoting.write) := by
    rw [memberType_of_not_isArray (by decide),
      plainMemberType_of_isEnum (by decide) (by rw [hliterals]; simp), hliterals]
  have hkeeps : ∀ label ∈ ["new"], quoting.Keeps label := by simp [Quoting.Keeps, IsPlain]
  have hnumbers : ReadsAsArrayOf numbers.memberType.render
      numbers.elementOrEmpty.memberType.render :=
    (readsAsArrayOf_element_iff (by decide)).1 (by simp [hnumber])
  have henums : ReadsAsArrayOf enums.memberType.render enums.elementOrEmpty.memberType.render :=
    (((readsAsArrayOf_element_iff (by decide)).2 _ henum).2 quoting _ rfl hkeeps).mpr rfl
  rw [hnumber] at hnumbers
  rw [henum] at henums
  exact ⟨hnumbers, henums⟩

/-- Of two labels only the second becomes an array. -/
theorem array_of_labels_misread :
    typeOf? (memberType { sqlType := "enum", labels := ["a", "b"] }).render
        = some (.union (.literal [97]) (.literal [98]))
      ∧ typeOf? (memberType
          { sqlType := "ARRAY", elementType := some "enum", labels := ["a", "b"] }).render
        = some (.union (.literal [97]) (.array (.literal [98]))) := by
  decide +kernel

end ColumnType
end SchemaModels
