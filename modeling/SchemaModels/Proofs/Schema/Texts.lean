import SchemaModels.Proofs.Schema.Columns
import SchemaModels.Proofs.Text.Unmarked
import SchemaModels.Settings.Basic

/-!
# The texts of a database

All texts that a database or the settings bring in: names, types, comments, defaults, the keys and
values of what is passed through, and everything inside JSON values. What the generator writes
beyond them is its own.
-/

namespace SchemaModels

open Text

mutual

/-- The texts inside a JSON value, with the keys of its objects. -/
def Json.texts : Json → List String
  | .str s => [s]
  | .arr items => Json.textsOfItems items
  | .obj members => Json.textsOfMembers members
  | _ => []

/-- The texts inside the items of an array. -/
def Json.textsOfItems : List Json → List String
  | [] => []
  | v :: vs => v.texts ++ Json.textsOfItems vs

/-- The keys of an object, and the texts inside its values. -/
def Json.textsOfMembers : List (String × Json) → List String
  | [] => []
  | (k, v) :: ms => k :: (v.texts ++ Json.textsOfMembers ms)

end

/-- The texts inside a reported value. -/
def Value.texts : Value → List String
  | .text s => [s]
  | .json v => v.texts
  | _ => []

/-- The name of a constraint, if there is one. -/
def Uniqueness.texts : Uniqueness → List String
  | .named s => [s]
  | .flag _ => []

/-- The texts of a column. -/
def Column.texts (c : Column) : List String :=
  [c.name, c.sqlType] ++ (c.defaultValue.toList.flatMap Value.texts)
  ++ (c.unique.toList.flatMap Uniqueness.texts) ++ c.comment.toList ++ c.elementType.toList
  ++ c.labels ++ c.extras.entries.flatMap fun e => e.1 :: e.2.texts

/-- The texts of a key role. -/
def KeyRole.texts (k : KeyRole) : List String :=
  [k.sourceTable, k.sourceColumn] ++ k.targetSchema.toList ++ k.targetTable.toList
  ++ k.targetColumn.toList

/-- The texts of a part of an index. -/
def IndexPart.texts (p : IndexPart) : List String :=
  p.column :: (p.collate.toList ++ p.order.toList)

/-- The texts of an index. -/
def Index.texts (i : Index) : List String :=
  i.name.toList ++ i.kind.toList ++ i.parts.flatMap IndexPart.texts

/-- The texts of a table. -/
def Table.texts (t : Table) : List String :=
  t.name.schema.toList ++ [t.name.name] ++ t.fields.flatMap Column.texts
  ++ (t.keys.entries.flatMap fun e => e.1 :: e.2.texts) ++ t.indexes.flatMap Index.texts

/-- The texts of one end of a relation. -/
def Endpoint.texts (e : Endpoint) : List String :=
  [e.table, e.model, e.property, e.key]

/-- The texts of a relation. -/
def Relation.texts (r : Relation) : List String :=
  r.parent.texts ++ r.child.texts

/-- The texts of a database. -/
def Database.texts (d : Database) : List String :=
  d.tables.flatMap Table.texts ++ d.relations.flatMap Relation.texts

/-- The text of an option, if it is one. -/
def OptionValue.texts : OptionValue → List String
  | .text s => [s]
  | _ => []

/-- The texts of the settings. -/
def Settings.texts (s : Settings) : List String :=
  s.skipFields ++ s.options.entries.flatMap fun e => e.1 :: e.2.texts

/-- All the texts are unmarked. -/
def AllUnmarked (texts : List String) : Prop := ∀ s ∈ texts, Unmarked s

theorem AllUnmarked.of_subset {texts others : List String} (h : AllUnmarked others)
    (hsub : texts ⊆ others) : AllUnmarked texts :=
  fun s hs => h s (hsub hs)

theorem allUnmarked_append {texts others : List String} :
    AllUnmarked (texts ++ others) ↔ AllUnmarked texts ∧ AllUnmarked others :=
  List.forall_mem_append

theorem AllUnmarked.of_flatMap {α : Type} {f : α → List String} {l : List α}
    (h : AllUnmarked (l.flatMap f)) {a : α} (ha : a ∈ l) : AllUnmarked (f a) :=
  h.of_subset fun _ hs => List.mem_flatMap.mpr ⟨a, ha, hs⟩

namespace Table

variable {t : Table}

theorem unmarked_name (h : AllUnmarked t.texts) : Unmarked t.name.name :=
  h _ (by simp [texts])

theorem unmarked_schema (h : AllUnmarked t.texts) {s : String} (hs : t.name.schema = some s) :
    Unmarked s :=
  h _ (by simp [texts, hs])

theorem unmarked_qualified (h : AllUnmarked t.texts) : Unmarked t.name.qualified := by
  unfold TableName.qualified TableName.join
  split
  · next s hs =>
    split
    · exact unmarked_name h
    · exact ((unmarked_schema h hs).append (.fixed rfl)).append (unmarked_name h)
  · exact unmarked_name h

theorem allUnmarked_of_mem_columns (h : AllUnmarked t.texts) {c : Column} (hc : c ∈ t.columns) :
    AllUnmarked c.texts := by
  have hfields : AllUnmarked (t.fields.flatMap Column.texts) :=
    h.of_subset fun s hs => by simp only [texts, List.mem_append, hs, true_or, or_true]
  exact hfields.of_flatMap (mem_fields_of_mem_columns hc)

theorem allUnmarked_keyRole (h : AllUnmarked t.texts) {column : String} {k : KeyRole}
    (hk : t.keyRole? column = some k) : AllUnmarked k.texts := by
  have hkeys : AllUnmarked (t.keys.entries.flatMap fun e => e.1 :: e.2.texts) :=
    h.of_subset fun s hs => by simp only [texts, List.mem_append, hs, true_or, or_true]
  obtain ⟨e, he, rfl⟩ := Option.map_eq_some_iff.mp hk
  exact fun s hs => hkeys.of_flatMap (List.mem_of_find?_eq_some he) s (List.mem_cons_of_mem _ hs)

theorem allUnmarked_of_mem_indexes (h : AllUnmarked t.texts) {i : Index} (hi : i ∈ t.indexes) :
    AllUnmarked i.texts := by
  have hindexes : AllUnmarked (t.indexes.flatMap Index.texts) :=
    h.of_subset fun s hs => by simp only [texts, List.mem_append, hs, or_true]
  exact hindexes.of_flatMap hi

end Table

/-! ## Values -/

/-- The characters of JSON text that are not those of its quoted texts. -/
def jsonFrameChars : List Char :=
  Decimal.numeralChars ++ "null true false[],\x7b\x7d:".toList

section

variable {p : Char → Bool}

theorem only_jsonNumber (hframe : Only p jsonFrameChars) {s : String}
    (h : s.toList ⊆ Decimal.numeralChars) : Only p s.toList :=
  hframe.of_subset (List.Subset.trans h (List.subset_append_left _ _))

mutual

/-- **JSON text has the characters of its quoted texts and those written around them.** -/
theorem only_compact (hframe : Only p jsonFrameChars) : ∀ (v : Json),
    (∀ s ∈ v.texts, Only p (jsonQuoted s).toList) → Only p v.compact.toList
  | .null, _ => hframe.of_subset (by decide)
  | .bool true, _ => hframe.of_subset (by decide)
  | .bool false, _ => hframe.of_subset (by decide)
  | .int n, _ => only_jsonNumber hframe (Decimal.intText_subset_numeralChars n)
  | .float x, _ => only_jsonNumber hframe (Decimal.Layout.write_subset_numeralChars _ x)
  | .str s, h => h s (List.mem_singleton.mpr rfl)
  | .arr items, h => by
    have hcomma : Only p ",".toList := hframe.of_subset (by decide)
    have hitems := only_intercalate hcomma (only_compactItems hframe items h)
    exact only_append (only_append (hframe.of_subset (by decide)) hitems)
      (hframe.of_subset (by decide))
  | .obj members, h => by
    have hcomma : Only p ",".toList := hframe.of_subset (by decide)
    have hmembers := only_intercalate hcomma (only_compactMembers hframe members h)
    exact only_append (only_append (hframe.of_subset (by decide)) hmembers)
      (hframe.of_subset (by decide))

theorem only_compactItems (hframe : Only p jsonFrameChars) : ∀ (items : List Json),
    (∀ s ∈ Json.textsOfItems items, Only p (jsonQuoted s).toList) →
      ∀ s ∈ Json.compactItems items, Only p s.toList
  | [], _ => by simp [Json.compactItems]
  | v :: vs, h => by
    obtain ⟨hv, hvs⟩ := List.forall_mem_append.mp h
    exact List.forall_mem_cons.mpr ⟨only_compact hframe v hv, only_compactItems hframe vs hvs⟩

theorem only_compactMembers (hframe : Only p jsonFrameChars) :
    ∀ (members : List (String × Json)),
    (∀ s ∈ Json.textsOfMembers members, Only p (jsonQuoted s).toList) →
      ∀ s ∈ Json.compactMembers members, Only p s.toList
  | [], _ => by simp [Json.compactMembers]
  | (k, v) :: ms, h => by
    obtain ⟨hk, hrest⟩ := List.forall_mem_cons.mp h
    obtain ⟨hv, hms⟩ := List.forall_mem_append.mp hrest
    have hcolon : Only p ":".toList := hframe.of_subset (by decide)
    exact List.forall_mem_cons.mpr
      ⟨only_append (only_append hk hcolon) (only_compact hframe v hv),
        only_compactMembers hframe ms hms⟩

end

/-- A value that is no text is written with the characters of JSON text. -/
theorem Value.only_display (hframe : Only p jsonFrameChars) {v : Value}
    (htext : ∀ s, v = .text s → Only p s.toList)
    (hjson : ∀ s ∈ v.texts, Only p (jsonQuoted s).toList) : Only p v.display.toList := by
  cases v with
  | bool b => cases b <;> exact hframe.of_subset (by decide)
  | int n => exact only_jsonNumber hframe (Decimal.intText_subset_numeralChars n)
  | float x => exact only_jsonNumber hframe (Decimal.Layout.write_subset_numeralChars _ x)
  | text s => exact htext s rfl
  | json v => exact only_compact hframe v hjson

end

theorem Value.unmarked_display {v : Value} (h : AllUnmarked v.texts) : Unmarked v.display := by
  refine only_display (List.all_eq_true.mp (by decide)) ?_ fun s hs => (h s hs).jsonQuoted
  rintro s rfl
  exact h s (List.mem_singleton.mpr rfl)

end SchemaModels
