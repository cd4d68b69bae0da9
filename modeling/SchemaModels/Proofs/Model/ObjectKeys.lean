import SchemaModels.Proofs.Model.ColumnViews

/-!
# Keys of the objects in a definition

A definition is written as objects: one that has the blocks, one for each block, and one that has
the options. What stands between the braces is a list of entries, and an entry begins with its key.
Here the text of each of these objects is related to the list of its keys (`WritesKeys`), so that
what is said about keys elsewhere is said about the text.
-/

namespace SchemaModels

open Naming Text

/-- An entry of an object: its key, and its value unless the key stands for that, too. -/
structure ObjectEntry where
  key : String
  value : Option String

/-- The entry as it is written, without the comma after it. -/
def ObjectEntry.render (indent : String) (e : ObjectEntry) : String :=
  indent ++ e.key ++ e.value.elim "" (": " ++ ·)

/-- The text is that of entries with the given keys, in this order. -/
def WritesKeys (indent text : String) (keys : List String) : Prop :=
  ∃ entries : List ObjectEntry, entries.map (·.key) = keys ∧
    text = String.intercalate ",\n" (entries.map (·.render indent))

/-- The text is that of an entry with the given key. -/
def WritesKey (indent text key : String) : Prop :=
  ∃ value, text = ObjectEntry.render indent ⟨key, value⟩

theorem writesKeys_map {α : Type} {indent : String} {key render : α → String} :
    ∀ {l : List α}, (∀ a ∈ l, WritesKey indent (render a) (key a)) →
      WritesKeys indent (String.intercalate ",\n" (l.map render)) (l.map key) := by
  intro l h
  have hentries : ∃ entries : List ObjectEntry, entries.map (·.key) = l.map key ∧
      entries.map (·.render indent) = l.map render := by
    induction l with
    | nil => exact ⟨[], rfl, rfl⟩
    | cons a l ih =>
      obtain ⟨⟨value, hvalue⟩, hl⟩ := List.forall_mem_cons.mp h
      obtain ⟨entries, hkeys, htexts⟩ := ih hl
      exact ⟨⟨key a, value⟩ :: entries, congrArg (key a :: ·) hkeys, by
        rw [List.map_cons, List.map_cons, htexts, hvalue]⟩
  obtain ⟨entries, hkeys, htexts⟩ := hentries
  exact ⟨entries, hkeys, by rw [htexts]⟩

/-- A key with its value. -/
theorem writesKey_append (indent key value : String) :
    WritesKey indent (indent ++ (key ++ (": " ++ value))) key :=
  ⟨some value, by simp only [ObjectEntry.render, Option.elim, String.append_assoc]⟩

/-- A fixed key together with the front of its value. -/
theorem writesKey_front {indent front key : String} (opening rest : String)
    (h : front = key ++ (": " ++ opening)) : WritesKey indent (indent ++ (front ++ rest)) key := by
  have happend := writesKey_append indent key (opening ++ rest)
  rw [h]
  simpa only [String.append_assoc] using happend

/-! ## Blocks and attributes -/

/-- The key of a block in the object of blocks. -/
def AttributeBlock.key (b : AttributeBlock) : String := propertyKey b.property

/-- The keys of the attributes in a block, in order. -/
def AttributeBlock.attributeKeys (b : AttributeBlock) : List String := b.attributes.map (·.key)

theorem AttributeBlock.writesKey (ctx : Context) (b : AttributeBlock) :
    WritesKey (ctx.indent 2) (b.render ctx) b.key := by
  have hopen : ": \x7b\n" = ": " ++ "\x7b\n" := by decide
  simp only [render, hopen, String.append_assoc]
  exact writesKey_append _ _ _

theorem Attribute.writesKey (ctx : Context) (a : Attribute) :
    WritesKey (ctx.indent 3) (a.render ctx) a.key := by
  simp only [render, String.append_assoc]
  exact writesKey_append _ _ _

/-- A block is written with the keys of its attributes. -/
theorem AttributeBlock.writesKeys (ctx : Context) (b : AttributeBlock) :
    WritesKeys (ctx.indent 3) (String.intercalate ",\n" (b.attributes.map (·.render ctx)))
      b.attributeKeys :=
  writesKeys_map fun a _ => a.writesKey ctx

/-! ## Options -/

theorem Index.writesKey_renderList? (ctx : Context) {indexes : List Index} (h : indexes ≠ []) :
    WritesKey (ctx.indent 2) ((renderList? ctx indexes).getD "") "indexes" := by
  have hne : indexes.flatMap (·.lines ctx) ++ [ctx.indent 2 ++ "]"] ≠ [] := by simp
  obtain ⟨line, lines, hlines⟩ := List.exists_cons_of_ne_nil hne
  rw [renderList?, if_neg (by rwa [List.isEmpty_iff]), Option.getD_some, List.append_assoc, hlines,
    List.singleton_append, String.intercalate_cons_cons]
  simp only [String.append_assoc]
  exact writesKey_front "[" _ (by decide)

/-- Every option is written with its key, if a list of indexes is one of some. -/
theorem TableOption.writesKey (ctx : Context) {x : TableOption} (h : x ≠ indexes []) :
    WritesKey (ctx.indent 2) (x.render ctx) x.key := by
  cases x with
  | connection => exact ⟨none, by simp [render, key, ObjectEntry.render]⟩
  | indexes list =>
    refine Index.writesKey_renderList? ctx ?_
    rintro rfl
    exact h rfl
  | shared k v =>
    simp only [render, String.append_assoc]
    exact writesKey_append _ _ _
  | hasTrigger => exact ⟨some "true", by rw [render, ObjectEntry.render, String.append_assoc]; rfl⟩
  | paranoid => exact ⟨some "true", by rw [render, ObjectEntry.render, String.append_assoc]; rfl⟩
  | timestamps on =>
    simp only [render, key, String.append_assoc]
    exact writesKey_front "" _ (by decide)
  | fixedNames q =>
    simp only [render, key, String.append_assoc]
    exact writesKey_front "\x7b\n" _ (by decide)
  | tableName name =>
    simp only [render, key, String.append_assoc]
    exact writesKey_front "'" _ (by decide)
  | schema name =>
    simp only [render, key, String.append_assoc]
    exact writesKey_front "'" _ (by decide)
  | modelName =>
    simp only [render, key, String.append_assoc]
    exact writesKey_front "'" _ (by decide)

end SchemaModels
