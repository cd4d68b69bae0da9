import SchemaModels.ColumnType.Basic
import SchemaModels.Proofs.Text.TameCase
import SchemaModels.Schema.Table
import SchemaModels.Settings.Basic

/-!
# Plain schemas and settings

Generated code writes most names as the database has them, so it is well-formed only for names
that do not end the literal they are put in. Here is what that takes: names are words of letters,
digits and underscores, the type of an enum lists words, and the default of a column is a word in
brackets. Nothing is asked of what the generator escapes or never writes: comments, types that are
no enums, texts among the extras, and values that are no texts.
-/

namespace SchemaModels

open Text
open Script (isInert IsInert)

namespace Text

/-- An ASCII letter or digit, or an underscore. -/
def isWordByte (c : Char) : Bool := c.isAlphanum || c == '_'

/-- A text of ASCII letters, digits and underscores. -/
def IsWord (s : String) : Prop := ∀ c ∈ s.toList, isWordByte c = true

/-- A word, or words joined by dots, as in the qualified name of a table. -/
def IsDottedWord (s : String) : Prop := ∀ c ∈ s.toList, (isWordByte c || c == '.') = true

/-- A word in any number of pairs of brackets. -/
def IsBracketedWord (s : String) : Prop :=
  ∃ (n : Nat) (word : String), IsWord word ∧
    s.toList = List.replicate n '(' ++ word.toList ++ List.replicate n ')'

/-- A text between single quotes. -/
def singleQuoted (s : String) : String := "'" ++ s ++ "'"

/-- `enum` in any case, alone or with a list of words between single quotes. -/
def IsEnumText (s : String) : Prop :=
  ∃ head : String, head.toList.map Char.toLower = "enum".toList ∧
    (s = head ∨ ∃ labels : List String, labels ≠ [] ∧ (∀ l ∈ labels, IsWord l) ∧
      s = head ++ ("(" ++ String.intercalate "," (labels.map singleQuoted) ++ ")"))

/-- A word, with or without another such as a length in brackets after it, or the type of an enum.
-/
def IsElementText (s : String) : Prop :=
  IsWord s ∨ IsEnumText s
    ∨ ∃ word length : String, IsWord word ∧ IsWord length ∧ s = word ++ ("(" ++ length ++ ")")

end Text

/-- A column type with plain labels. A type that begins like that of an enum is one; otherwise only
the type of the elements, which is written as it is, has to be plain. -/
structure ColumnType.IsPlain (t : ColumnType) : Prop where
  sqlType : TypeFamily.isEnum (lowercase t.sqlType) = true → IsEnumText t.sqlType
  elementType : ∀ e, t.elementType = some e → IsElementText e
  elementEnum : ∀ e, t.elementType = some e →
    TypeFamily.isEnum (lowercase e) = true → IsEnumText e
  labels : ∀ l ∈ t.labels, IsWord l

/-- A column with plain names. -/
structure Column.IsPlain (c : Column) : Prop where
  name : IsWord c.name
  type : c.type.IsPlain
  defaultValue : ∀ s, c.defaultValue = some (.text s) → IsBracketedWord s
  unique : ∀ n, c.unique = some (.named n) → IsWord n
  extras : ∀ e ∈ c.extras.entries, IsWord e.1

/-- A key role that refers to a plain table and column, if to any. -/
structure KeyRole.IsPlain (k : KeyRole) : Prop where
  targetTable : ∀ t, k.targetTable = some t → IsDottedWord t
  targetColumn : ∀ c, k.targetColumn = some c → IsWord c

/-- A part of an index with plain names. -/
structure IndexPart.IsPlain (p : IndexPart) : Prop where
  column : IsWord p.column
  collate : ∀ c, p.collate = some c → IsWord c
  order : ∀ o, p.order = some o → IsWord o

/-- An index with plain names. -/
structure Index.IsPlain (i : Index) : Prop where
  name : ∀ n, i.name = some n → IsWord n
  kind : ∀ k, i.kind = some k → IsWord k
  parts : ∀ p ∈ i.parts, p.IsPlain

/-- A table with plain names. -/
structure Table.IsPlain (t : Table) : Prop where
  name : IsWord t.name.name
  schema : ∀ s, t.name.schema = some s → IsWord s
  fields : ∀ c ∈ t.fields, c.IsPlain
  keys : ∀ e ∈ t.keys.entries, e.2.IsPlain
  indexes : ∀ i ∈ t.indexes, i.IsPlain

/-- An end of a relation with plain names. -/
structure Endpoint.IsPlain (e : Endpoint) : Prop where
  table : IsDottedWord e.table
  model : IsWord e.model
  property : IsWord e.property
  key : IsWord e.key

/-- A relation with plain names. -/
structure Relation.IsPlain (r : Relation) : Prop where
  parent : r.parent.IsPlain
  child : r.child.IsPlain

/-- A database with plain names. -/
structure Database.IsPlain (d : Database) : Prop where
  tables : ∀ t ∈ d.tables, t.IsPlain
  relations : ∀ r ∈ d.relations, r.IsPlain

/-- Settings whose model options have plain keys and plain texts. -/
structure Settings.IsPlain (s : Settings) : Prop where
  optionKey : ∀ e ∈ s.options.entries, IsWord e.1
  optionText : ∀ k t, (k, OptionValue.text t) ∈ s.options.entries → IsWord t

namespace Text

/-! ## Plain texts are tame -/

theorem isAscii_of_isWordByte {c : Char} (h : isWordByte c = true) : isAscii c = true := by
  rcases Bool.or_eq_true_iff.mp h with h | h
  · exact isAscii_of_isAlphanum h
  · rw [eq_of_beq h]
    rfl

theorem isTame_of_isWordByte {c : Char} (h : isWordByte c = true) : isTame c = true := by
  refine forall_isAscii (p := fun c => isWordByte c = true → isTame c = true) ?_
    (isAscii_of_isWordByte h) h
  decide

/-- A fixed text is a word if each of its characters is one of a word. -/
theorem IsWord.fixed {cs : List Char} (h : cs.all isWordByte = true) :
    IsWord (String.ofList cs) := by
  intro c hc
  rw [String.toList_ofList] at hc
  exact List.all_eq_true.mp h c hc

theorem IsWord.isTame {s : String} (h : IsWord s) : IsTame s :=
  fun c hc => isTame_of_isWordByte (h c hc)

theorem IsWord.isInert {s : String} (h : IsWord s) : IsInert s := h.isTame.isInert

theorem IsDottedWord.isTame {s : String} (h : IsDottedWord s) : IsTame s := by
  intro c hc
  rcases Bool.or_eq_true_iff.mp (h c hc) with hword | hdot
  · exact isTame_of_isWordByte hword
  · rw [beq_iff_eq.mp hdot]; decide

/-- A character that is a letter of `enum` in lower case means nothing to the scanner. -/
theorem isInert_of_isInert_toLower {c : Char} (h : isInert c.toLower = true) :
    isInert c = true := by
  cases hc : isInert c with
  | true => rfl
  | false =>
    have hkept : Script.meaningfulChars.all (!isInert ·.toLower) = true := by decide
    have hmem : c ∈ Script.meaningfulChars := by simpa [isInert] using hc
    have hlower := List.all_eq_true.mp hkept c hmem
    rw [h] at hlower
    exact hlower

/-- The word that an enum begins with means nothing to the scanner. -/
theorem isInert_of_map_toLower_eq_enum {head : String}
    (h : head.toList.map Char.toLower = "enum".toList) : IsInert head := by
  intro c hc
  have hletters : IsInert "enum" := by decide
  exact isInert_of_isInert_toLower (hletters _ (h ▸ List.mem_map_of_mem hc))

end Text
end SchemaModels
