import SchemaModels.ColumnType.DataType

/-!
# Where data types come from

A data type is found by the first of thirty-three rules that applies. What matters about them is
where they take the texts from that the data type holds (`DataType.Arises`): a scalar type holds at
most a length, a precision or the kind of a shape, an array has the type of the elements, and an
enum has the literals of the column. Each rule is looked at once for this
(`TypeRule.fits_of_mem_typeRules`), and what holds for whatever can arise holds for the data type of
a column (`ColumnType.dataType_induction`).
-/

namespace SchemaModels

open Text

/-- Whether a data type is neither an array nor an enum. -/
def DataType.isScalar : DataType → Bool
  | array _ | enum _ => false
  | _ => true

/-- The length, the precision or the kind of shape that a data type holds, with its brackets. -/
def DataType.sizes : DataType → List String
  | text n | string n | char n | date n => [n]
  | float p | decimal p | double p => [p]
  | geometry s | geography s => [s]
  | _ => []

/-- A length, a precision or a kind of shape that the data type of a column may hold. -/
inductive ColumnType.IsSize (t : ColumnType) : String → Prop where
  | none : IsSize t ""
  | money : IsSize t "(19,4)"
  | smallMoney : IsSize t "(10,4)"
  | length : IsSize t (lengthIn t.lowered)
  | precision : IsSize t (precisionIn t.lowered)
  | shape : IsSize t t.shape

/-- The data type is one that the rules can give to a column, given that of its elements. -/
inductive DataType.Arises (t : ColumnType) (element : Option DataType) : DataType → Prop where
  | scalar {d : DataType} (hd : d.isScalar = true) (hsizes : ∀ s ∈ d.sizes, t.IsSize s) :
      Arises t element d
  | array {e : DataType} (he : element = some e) : Arises t element (.array e)
  | enum (henum : isEnumType t.lowered = true) : Arises t element (.enum t.enumLiterals)

namespace TypeRule

/-- Where the rule applies, it gives what can arise. -/
def Fits (rule : TypeRule) : Prop :=
  ∀ t : ColumnType, rule.applies t.lowered = true → ∀ element d,
    rule.dataType ⟨t, t.lowered, element⟩ = some d → d.Arises t element

theorem fits_always {applies : String → Bool} {d : DataType} (hd : d.isScalar = true)
    (hsizes : ∀ t : ColumnType, ∀ s ∈ d.sizes, t.IsSize s) : (always applies d).Fits := by
  intro t _ element d' hgives
  cases hgives
  exact .scalar hd (hsizes t)

/-- A rule for a type without a length. -/
theorem fits_unsized {applies : String → Bool} {d : DataType} (hd : d.isScalar = true)
    (hsizes : d.sizes = []) : (always applies d).Fits :=
  fits_always hd fun _ s hs => by rw [hsizes] at hs; cases hs

theorem fits_integer {applies : String → Bool} : (ofLowered applies integerOf).Fits := by
  intro t _ element d hgives
  cases hgives
  exact .scalar rfl (List.forall_mem_nil _)

/-- A rule that gives a type with one text which it takes from the column. -/
theorem fits_sized {applies : String → Bool} {f : TypeReading → DataType}
    (h : ∀ (t : ColumnType) element, (f ⟨t, t.lowered, element⟩).isScalar = true ∧
      ∃ s, (f ⟨t, t.lowered, element⟩).sizes = [s] ∧ t.IsSize s) :
    (⟨applies, fun r => some (f r)⟩ : TypeRule).Fits := by
  intro t _ element d hgives
  cases hgives
  obtain ⟨hd, s, hs, hsize⟩ := h t element
  exact .scalar hd (by rw [hs]; exact List.forall_mem_singleton.mpr hsize)

theorem fits_array {applies : String → Bool} :
    (⟨applies, fun r => r.element.map .array⟩ : TypeRule).Fits := by
  intro t _ element d hgives
  obtain ⟨e, he, rfl⟩ := Option.map_eq_some_iff.mp hgives
  exact .array he

theorem fits_enum :
    (⟨isEnumType, fun r => some (.enum r.column.enumLiterals)⟩ : TypeRule).Fits := by
  intro t happlies element d hgives
  cases hgives
  exact .enum happlies

/-- **Every rule gives what can arise.** -/
theorem fits_of_mem_typeRules : ∀ rule ∈ typeRules, rule.Fits := by
  have hmax : ∀ {applies}, (always applies (.text "")).Fits :=
    fits_always rfl fun _ => List.forall_mem_singleton.mpr .none
  have hmoney : ∀ {applies}, (always applies (.decimal "(19,4)")).Fits :=
    fits_always rfl fun _ => List.forall_mem_singleton.mpr .money
  have hsmall : ∀ {applies}, (always applies (.decimal "(10,4)")).Fits :=
    fits_always rfl fun _ => List.forall_mem_singleton.mpr .smallMoney
  unfold typeRules
  simp only [List.forall_mem_cons, List.not_mem_nil, false_implies, implies_true, and_true]
  exact ⟨
    -- truth values, ranges and integers
    fits_unsized rfl rfl, fits_unsized rfl rfl, fits_unsized rfl rfl, fits_unsized rfl rfl,
    fits_unsized rfl rfl, fits_unsized rfl rfl, fits_integer,
    -- texts and times
    hmax, fits_sized fun _ _ => ⟨rfl, _, rfl, .length⟩, fits_sized fun _ _ => ⟨rfl, _, rfl, .length⟩,
    fits_unsized rfl rfl, fits_sized fun _ _ => ⟨rfl, _, rfl, .length⟩, fits_unsized rfl rfl,
    fits_sized fun _ _ => ⟨rfl, _, rfl, .length⟩, fits_unsized rfl rfl,
    -- fractions
    fits_sized fun _ _ => ⟨rfl, _, rfl, .precision⟩, fits_sized fun _ _ => ⟨rfl, _, rfl, .precision⟩,
    hmoney, hsmall, fits_sized fun _ _ => ⟨rfl, _, rfl, .precision⟩,
    -- identifiers, JSON, shapes and arrays
    fits_unsized rfl rfl, fits_unsized rfl rfl, fits_unsized rfl rfl,
    fits_sized fun _ _ => ⟨rfl, _, rfl, .shape⟩, fits_sized fun _ _ => ⟨rfl, _, rfl, .shape⟩,
    fits_array,
    -- what is left
    fits_unsized rfl rfl, fits_unsized rfl rfl, fits_unsized rfl rfl, fits_unsized rfl rfl,
    fits_unsized rfl rfl, fits_unsized rfl rfl, fits_enum⟩

end TypeRule

namespace ColumnType

theorem arises_dataTypeWith {t : ColumnType} {element : Option DataType} {d : DataType}
    (hd : dataTypeWith element t = some d) : d.Arises t element := by
  obtain ⟨rule, hrule, hgives⟩ := Option.bind_eq_some_iff.mp hd
  have happlies : rule.applies t.lowered = true := by
    simpa using List.find?_some hrule
  exact TypeRule.fits_of_mem_typeRules rule (List.mem_of_find?_eq_some hrule) t happlies element d
    hgives

/-- What holds for whatever can arise, for columns of some kind `K`, holds for their data types.
The elements of such a column have to be of the kind as a column of their own. -/
theorem dataType_induction {K : ColumnType → Prop} {P : DataType → Prop}
    (hscalar : ∀ {t d}, K t → d.isScalar = true → (∀ s ∈ d.sizes, t.IsSize s) → P d)
    (harray : ∀ {e}, P e → P (.array e))
    (henum : ∀ {t}, K t → isEnumType t.lowered = true → P (.enum t.enumLiterals))
    {t : ColumnType} (ht : K t)
    (helement : ∀ s, t.elementType = some s → K { sqlType := s, labels := t.labels })
    {d : DataType} (hd : t.dataType? = some d) : P d := by
  have harises : ∀ {t element d}, K t → (∀ e, element = some e → P e) →
      dataTypeWith element t = some d → P d := by
    intro t element d ht helement hd
    cases arises_dataTypeWith hd with
    | scalar hd hsizes => exact hscalar ht hd hsizes
    | array he => exact harray (helement _ he)
    | enum happlies => exact henum ht happlies
  refine harises ht (fun e he => ?_) hd
  obtain ⟨elementType, htype, hdata⟩ := Option.bind_eq_some_iff.mp he
  obtain ⟨s, hs, rfl⟩ := Option.map_eq_some_iff.mp htype
  exact harises (helement s hs) (by simp) hdata

end ColumnType
end SchemaModels
