import SchemaModels.ColumnType.MemberType
import SchemaModels.Proofs.ColumnType.TypeParts
import SchemaModels.Proofs.Model.Plain
import SchemaModels.Proofs.Script.Value
import SchemaModels.Proofs.Text.Search

/-!
# Types in script text

The type expressions that a plain column gives rise to are balanced. A data type can hold texts of
four kinds: lengths and precisions, which are only ever digits between brackets, the kind of a
shape, and the literals of an enum. The literals of an enum are cut out of its type at commas,
which gives the literals back because plain labels have no commas (`splitOn_enumList`).
-/

namespace SchemaModels

open Text Script

/-! ## Lengths and precisions -/

theorem isInert_of_isDecimalDigit {c : Char} (h : isDecimalDigit c = true) :
    isInert c = true := by
  cases hc : isInert c with
  | true => rfl
  | false =>
    have hnone : meaningfulChars.all (!isDecimalDigit ·) = true := by decide
    have hmem : c ∈ meaningfulChars := by simpa [isInert] using hc
    have hdigit := List.all_eq_true.mp hnone c hmem
    rw [h] at hdigit
    cases hdigit

theorem isInert_of_mem_takeWhile {cs : List Char} :
    ∀ c ∈ cs.takeWhile isDecimalDigit, isInert c = true :=
  fun c hc => isInert_of_isDecimalDigit (List.all_eq_true.mp List.all_takeWhile c hc)

/-- Characters that the scanner takes from plain code back to it. -/
def BalancedChars (cs : List Char) : Prop := IsBalanced (String.ofList cs)

theorem balancedChars_bracketed {cs : List Char} (h : ∀ c ∈ cs, isInert c = true) :
    BalancedChars ('(' :: cs ++ [')']) := by
  have hbody : IsInert (String.ofList cs) := by
    intro c hc
    rw [String.toList_ofList] at hc
    exact h c hc
  have hsplit : String.ofList ('(' :: cs ++ [')']) = "(" ++ String.ofList cs ++ ")" := by
    rw [← String.toList_inj]
    simp
  rw [BalancedChars, hsplit]
  exact hbody.isBalanced.between "(" ")" .round (fun _ => .fixed rfl) (fun _ => .fixed rfl)

theorem balancedChars_of_lengthAt? {cs found : List Char} (h : lengthAt? cs = some found) :
    BalancedChars found := by
  unfold lengthAt? at h
  split at h
  · next rest =>
    split at h
    · next d ds _ hdigits _ =>
      cases h
      exact balancedChars_bracketed (hdigits ▸ isInert_of_mem_takeWhile)
    · cases h
  · cases h

theorem balancedChars_of_precisionAt? {cs found : List Char} (h : precisionAt? cs = some found) :
    BalancedChars found := by
  unfold precisionAt? at h
  split at h
  · next rest =>
    split at h
    · next p ps rest' hfirst _ =>
      split at h
      · next s ss _ hsecond _ =>
        cases h
        have hcomma : isInert ',' = true := by decide
        have hbody : ∀ c ∈ (p :: ps) ++ ',' :: (s :: ss), isInert c = true := by
          intro c hc
          rcases List.mem_append.mp hc with hc | hc
          · exact isInert_of_mem_takeWhile c (hfirst ▸ hc)
          · rcases List.mem_cons.mp hc with rfl | hc
            · exact hcomma
            · exact isInert_of_mem_takeWhile c (hsecond ▸ hc)
        have := balancedChars_bracketed hbody
        simpa using this
      · cases h
    · cases h
  · cases h

/-- What is found first is empty or was found somewhere. -/
theorem balancedChars_firstFound {find : List Char → Option (List Char)}
    (hfind : ∀ cs found, find cs = some found → BalancedChars found) :
    ∀ (cs : List Char), BalancedChars (firstFound find cs) := by
  intro cs
  induction cs with
  | nil => exact .fixed fun _ => rfl
  | cons c cs ih =>
    rw [firstFound]
    split
    · next found h => exact hfind _ found h
    · exact ih

theorem isBalanced_lengthIn (t : String) : IsBalanced (lengthIn t) :=
  balancedChars_firstFound (fun _ _ => balancedChars_of_lengthAt?) t.toList

theorem isBalanced_precisionIn (t : String) : IsBalanced (precisionIn t) :=
  balancedChars_firstFound (fun _ _ => balancedChars_of_precisionAt?) t.toList

/-! ## The literals of an enum -/

theorem isBalanced_quotedLabel {label : String} (h : IsWord label) :
    IsBalanced (quotedLabel label) := by
  rw [quotedLabel, backslashBefore_of_isInert (by decide) h.isInert]
  exact h.isInert.isBalanced_doubleQuoted

theorem isBalanced_enumList {labels : List String} (h : ∀ l ∈ labels, IsWord l) :
    IsBalanced (String.intercalate "," (labels.map singleQuoted)) := by
  refine isBalanced_intercalate "," (.fixed fun _ => rfl) fun s hs => ?_
  obtain ⟨label, hlabel, rfl⟩ := List.mem_map.mp hs
  exact (h label hlabel).isInert.isBalanced_singleQuoted

theorem Text.IsEnumText.isBalanced {s : String} (h : IsEnumText s) : IsBalanced s := by
  obtain ⟨head, hhead, rfl | ⟨labels, _, hlabels, rfl⟩⟩ := h
  · exact (isInert_of_map_toLower_eq_enum hhead).isBalanced
  · exact (isInert_of_map_toLower_eq_enum hhead).isBalanced.append
      ((isBalanced_enumList hlabels).between "(" ")" .round (fun _ => .fixed rfl)
        (fun _ => .fixed rfl))

theorem Text.IsElementText.isBalanced {s : String} (h : IsElementText s) : IsBalanced s := by
  rcases h with hword | henum | ⟨word, length, hword, hlength, rfl⟩
  · exact hword.isInert.isBalanced
  · exact henum.isBalanced
  · exact hword.isInert.isBalanced.append
      (hlength.isInert.isBalanced.between "(" ")" .round (fun _ => .fixed rfl)
        (fun _ => .fixed rfl))

/-- The word alone has no bracket after it. -/
theorem enumList?_of_head {head : String}
    (h : head.toList.map Char.toLower = "enum".toList) : enumList? head = none := by
  have hlen : head.toList.length = 4 := by simpa using congrArg List.length h
  have htake : head.toList.take 5 = head.toList := List.take_of_length_le (by omega)
  unfold enumList?
  dsimp only
  rw [htake, h]
  rfl

/-- What stands between the brackets of an enum type. -/
theorem enumList?_of_brackets {head inner : String}
    (h : head.toList.map Char.toLower = "enum".toList) (hinner : inner.toList ≠ []) :
    enumList? (head ++ ("(" ++ inner ++ ")")) = some inner.toList := by
  have hlen : (head.toList ++ ['(']).length = 5 := by
    have h4 : head.toList.length = 4 := by simpa using congrArg List.length h
    simp [h4]
  have hcs : (head ++ ("(" ++ inner ++ ")")).toList
      = (head.toList ++ ['(']) ++ (inner.toList ++ [')']) := by
    simp [String.toList_append]
  have hfront : (head.toList ++ ['(']).map Char.toLower = "enum(".toList := by
    rw [List.map_append, h]
    rfl
  unfold enumList?
  dsimp only
  rw [hcs, List.take_left' hlen, List.drop_left' hlen, if_pos hfront, List.reverse_append]
  cases hrev : inner.toList.reverse with
  | nil => exact absurd (List.reverse_eq_nil_iff.mp hrev) hinner
  | cons c cs =>
    rw [← List.reverse_reverse inner.toList, hrev]
    rfl

theorem toList_enumList_ne_nil {labels : List String} (h : labels ≠ []) :
    (String.intercalate "," (labels.map singleQuoted)).toList ≠ [] := by
  obtain ⟨label, rest, rfl⟩ := List.exists_cons_of_ne_nil h
  cases rest <;> simp [String.intercalate_cons_cons, singleQuoted]

/-- Cutting a list of quoted labels at its commas gives the labels back. -/
theorem splitOn_enumList {labels : List String} (hne : labels ≠ []) (h : ∀ l ∈ labels, IsWord l) :
    splitOn ',' (String.intercalate "," (labels.map singleQuoted)) = labels.map singleQuoted := by
  refine splitOn_intercalate rfl (by simpa using hne) fun piece hpiece hcomma => ?_
  obtain ⟨label, hlabel, rfl⟩ := List.mem_map.mp hpiece
  have hword : ',' ∈ label.toList := by simpa [singleQuoted] using hcomma
  exact absurd (h label hlabel ',' hword) (by decide)

/-- The literals of a plain enum are balanced. -/
theorem ColumnType.isBalanced_of_mem_enumLiterals {t : ColumnType} (h : t.IsPlain)
    (henum : TypeFamily.isEnum t.lowered = true) : ∀ l ∈ t.enumLiterals, IsBalanced l := by
  unfold enumLiterals
  split
  · obtain ⟨head, hhead, hs | ⟨labels, hne, hlabels, hs⟩⟩ := h.sqlType henum
    · rw [hs, enumList?_of_head hhead]
      simp
    · rw [hs, enumList?_of_brackets hhead (toList_enumList_ne_nil hne)]
      dsimp only
      rw [String.ofList_toList, splitOn_enumList hne hlabels]
      intro l hl
      obtain ⟨label, hlabel, rfl⟩ := List.mem_map.mp hl
      exact (hlabels label hlabel).isInert.isBalanced_singleQuoted
  · intro l hl
    obtain ⟨label, hlabel, rfl⟩ := List.mem_map.mp hl
    exact isBalanced_quotedLabel (h.labels label hlabel)

/-! ## Data types -/

/-- Whether the texts that a data type holds are balanced. -/
def DataType.HasBalancedParts : DataType → Prop
  | text n | string n | char n | date n => IsBalanced n
  | float p | decimal p | double p => IsBalanced p
  | geometry s | geography s => IsBalanced s
  | array e => e.HasBalancedParts
  | enum ls => ∀ l ∈ ls, IsBalanced l
  | _ => True

/-- The expression for a data type is balanced if the texts in it are. -/
theorem DataType.isBalanced_render : ∀ {d : DataType}, d.HasBalancedParts →
    IsBalanced d.render := by
  intro d
  induction d with
  | boolean | real | dateOnly | time | uuid | jsonb | json | blob | hstore | inet | cidr
  | macaddr => exact fun _ => .fixed fun _ => rfl
  | range b =>
    intro _
    have hname : IsBalanced b.name := by cases b <;> exact .fixed fun _ => rfl
    exact hname.between "DataTypes.RANGE(DataTypes." ")" .round (fun _ => .fixed rfl) fun _ =>
      .fixed rfl
  | integer w unsigned zerofill =>
    intro _
    have hfront : IsBalanced "DataTypes." := .fixed fun _ => rfl
    have hname : IsBalanced w.name := by cases w <;> exact .fixed fun _ => rfl
    have hunsigned : IsBalanced (if unsigned then ".UNSIGNED" else "") := by
      cases unsigned <;> exact .fixed fun _ => rfl
    have hzerofill : IsBalanced (if zerofill then ".ZEROFILL" else "") := by
      cases zerofill <;> exact .fixed fun _ => rfl
    exact ((hfront.append hname).append hunsigned).append hzerofill
  | text n | string n | char n | date n | float n | decimal n | double n | geometry n
  | geography n =>
    intro h o
    exact (Reads.fixed rfl).append (h o)
  | array e ih =>
    intro h
    exact (ih h).between "DataTypes.ARRAY(" ")" .round (fun _ => .fixed rfl) (fun _ => .fixed rfl)
  | enum ls =>
    intro h
    exact (isBalanced_intercalate "," (.fixed fun _ => rfl) h).between "DataTypes.ENUM(" ")" .round
      (fun _ => .fixed rfl) (fun _ => .fixed rfl)

/-- The kind of a shape is written between brackets as it is. -/
theorem ColumnType.isBalanced_shape {t : ColumnType} (h : t.IsPlain) : IsBalanced t.shape := by
  unfold shape
  split
  · next e he =>
    exact (h.elementType e he).isBalanced.between "(" ")" .round (fun _ => .fixed rfl)
      (fun _ => .fixed rfl)
  · exact isBalanced_empty

theorem isEnum_of_isEnumType {t : String} (h : isEnumType t = true) :
    TypeFamily.isEnum t = true := by
  simp only [isEnumType, Bool.or_eq_true, beq_iff_eq, Bool.and_eq_true] at h
  rcases h with rfl | ⟨⟨hfront, _⟩, _⟩
  · decide
  · have hshort : "enum".toList <+: "enum(".toList := ⟨['('], rfl⟩
    have hprefix : "enum(".toList <+: t.toList := List.isPrefixOf_iff_prefix.mp hfront
    exact List.isPrefixOf_iff_prefix.mpr (hshort.trans hprefix)

/-- What a scalar type holds for a plain column is balanced. -/
theorem ColumnType.IsSize.isBalanced {t : ColumnType} (h : t.IsPlain) {s : String}
    (hs : t.IsSize s) : IsBalanced s := by
  cases hs with
  | none => exact isBalanced_empty
  | money => exact .fixed fun _ => rfl
  | smallMoney => exact .fixed fun _ => rfl
  | length => exact isBalanced_lengthIn _
  | precision => exact isBalanced_precisionIn _
  | shape => exact isBalanced_shape h

theorem DataType.hasBalancedParts_of_sizes {d : DataType} (hd : d.isScalar = true)
    (h : ∀ s ∈ d.sizes, IsBalanced s) : d.HasBalancedParts := by
  cases d with
  | array e => cases hd
  | enum ls => cases hd
  | text n | string n | char n | date n | float n | decimal n | double n | geometry n
  | geography n => exact h n (List.mem_singleton.mpr rfl)
  | _ => trivial

/-- The elements of a plain column, as a column of their own, are plain. -/
theorem ColumnType.IsPlain.ofElement {t : ColumnType} (h : t.IsPlain) {e : String}
    (he : t.elementType = some e) : IsPlain { sqlType := e, labels := t.labels } where
  sqlType := h.elementEnum e he
  elementType := by simp
  elementEnum := by simp
  labels := h.labels

/-- **The data type of a plain column is balanced.** -/
theorem ColumnType.isBalanced_dataType {t : ColumnType} (h : t.IsPlain) {d : DataType}
    (hd : t.dataType? = some d) : IsBalanced d.render := by
  refine DataType.isBalanced_render (dataType_induction (K := ColumnType.IsPlain)
    (fun ht hd hsizes => DataType.hasBalancedParts_of_sizes hd fun s hs =>
      (hsizes s hs).isBalanced ht)
    (fun he => he) (fun ht happlies => ?_) h (fun _ => h.ofElement) hd)
  exact isBalanced_of_mem_enumLiterals ht (isEnum_of_isEnumType happlies)

/-! ## Member types -/

namespace ColumnType

theorem isBalanced_any (reason : AnyReason) (type : String) :
    IsBalanced (MemberType.any reason type).render := by
  rw [MemberType.render]
  exact .fixed fun _ => rfl

theorem isBalanced_plainMemberType {t : ColumnType} (h : t.IsPlain) :
    IsBalanced t.plainMemberType.render := by
  unfold plainMemberType
  dsimp only
  split
  · exact .fixed fun _ => rfl
  split
  · exact .fixed fun _ => rfl
  split
  · exact .fixed fun _ => rfl
  split
  · exact .fixed fun _ => rfl
  split
  · next henum =>
    split
    · exact isBalanced_any _ _
    · rw [MemberType.render]
      exact isBalanced_intercalate " | " (.fixed fun _ => rfl)
        (isBalanced_of_mem_enumLiterals h henum)
  split
  · exact .fixed fun _ => rfl
  · exact isBalanced_any _ _

theorem isBalanced_memberTypeWith {t : ColumnType} (h : t.IsPlain) {element : MemberType}
    (helement : IsBalanced element.render) : IsBalanced (t.memberTypeWith element).render := by
  unfold memberTypeWith
  split
  · exact helement.append (.fixed fun _ => rfl)
  · exact isBalanced_plainMemberType h

theorem IsPlain.elementOrEmpty {t : ColumnType} (h : t.IsPlain) : t.elementOrEmpty.IsPlain := by
  have hempty : TypeFamily.isEnum (lowercase "") = false := by decide
  unfold ColumnType.elementOrEmpty
  cases he : t.elementType with
  | some e => exact h.ofElement he
  | none =>
    exact {
      sqlType := fun henum => absurd henum (by simp [hempty])
      elementType := by simp
      elementEnum := by simp
      labels := h.labels }

/-- **The member type of a plain column is balanced.** -/
theorem isBalanced_memberType {t : ColumnType} (h : t.IsPlain) :
    IsBalanced t.memberType.render :=
  isBalanced_memberTypeWith h (isBalanced_memberTypeWith h.elementOrEmpty
    (isBalanced_plainMemberType h.elementOrEmpty.elementOrEmpty))

end ColumnType
end SchemaModels
