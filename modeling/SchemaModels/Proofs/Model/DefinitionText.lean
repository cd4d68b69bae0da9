import SchemaModels.Proofs.ColumnType.TypeText
import SchemaModels.Proofs.Model.DefinitionParts
import SchemaModels.Proofs.Naming.TameWords
import SchemaModels.Proofs.Schema.Columns
import SchemaModels.Proofs.Schema.DefaultText
import SchemaModels.Proofs.Script.Token
import SchemaModels.Proofs.Traversal

/-!
# Definitions in script text

The definition of the model of a plain table closes the object that it is written into and opens
nothing more (`Table.reads_definition`). The declarations about a column, the options of the model
and the indexes are lists of alternatives; for each it is first said which texts it must hold to be
written safely (`HasPlainParts`), then that those of a plain table hold such texts.
-/

namespace SchemaModels

open Text Script Naming

/-! ## Blanks and keys -/

theorem Context.isInert_indent (ctx : Context) (depth : Nat) : IsInert (ctx.indent depth) := by
  intro c hc
  rw [Context.indent, Indent.level, String.toList_ofList] at hc
  rw [(List.mem_replicate.mp hc).2]
  show isInert (if ctx.settings.spaces then ' ' else '\t') = true
  cases ctx.settings.spaces <;> decide

/-- Blanks may stand before anything in code. -/
theorem Script.Reads.indented {o : List Bracket} {s : String} {b : Scan}
    (h : Reads (Scan.code o) s b) (ctx : Context) (depth : Nat) :
    Reads (Scan.code o) (ctx.indent depth ++ s) b :=
  ((ctx.isInert_indent depth).reads rfl).append h

theorem Script.IsBalanced.indented {s : String} (h : IsBalanced s) (ctx : Context)
    (depth : Nat) : IsBalanced (ctx.indent depth ++ s) :=
  fun o => (h o).indented ctx depth

theorem isBalanced_propertyKey {name : String} (h : IsInert name) :
    IsBalanced (propertyKey name) := by
  unfold propertyKey
  split
  · exact h.isBalanced
  · exact h.isBalanced_singleQuoted

theorem Settings.isTame_propertyName (s : Settings) {name : String} (h : IsWord name) :
    IsTame (s.propertyName name) :=
  s.propertyStyle.isTame_restyle h.isTame

theorem isBalanced_truth (b : Bool) : IsBalanced (if b then "true" else "false") := by
  cases b <;> exact .fixed fun _ => rfl

theorem Table.isPlain_keyRole {t : Table} (h : t.IsPlain) {column : String} {k : KeyRole}
    (hk : t.keyRole? column = some k) : k.IsPlain := by
  obtain ⟨e, he, rfl⟩ := Option.map_eq_some_iff.mp hk
  exact h.keys e (List.mem_of_find?_eq_some he)

/-! ## Attributes -/

namespace Attribute

/-- What the texts of an attribute must be like to be written as they are. -/
def HasPlainParts : Attribute → Prop
  | type t => IsBalanced t.render
  | defaultValue d => IsBalanced d.render
  | references table column => IsInert table ∧ IsInert column
  | extra k _ => IsInert k
  | unique (some name) => IsInert name
  | field column => IsInert column
  | _ => True

theorem isBalanced_key {a : Attribute} (h : a.HasPlainParts) : IsBalanced a.key := by
  cases a with
  | extra k v => exact IsInert.isBalanced h
  | _ => exact .fixed fun _ => rfl

theorem isBalanced_extraValue (v : Value) : IsBalanced (extraValue v) := by
  unfold extraValue
  split
  · exact isBalanced_scriptQuoted _
  · next hnoText => exact Value.isBalanced_display hnoText

theorem isBalanced_value (ctx : Context) {a : Attribute} (h : a.HasPlainParts) :
    IsBalanced (a.value ctx) := by
  cases a with
  | autoIncrement | autoIncrementIdentity | primaryKey => exact .fixed fun _ => rfl
  | type t => exact h
  | allowNull b => exact isBalanced_truth b
  | defaultValue d => exact h
  | references table column =>
    intro o
    have hblanks : ∀ n, Reads (Scan.code (.curly :: o)) (ctx.indent n) (Scan.code (.curly :: o)) :=
      fun n => (ctx.isInert_indent n).reads rfl
    have htable : IsBalanced ("model: '" ++ table ++ "',\n") :=
      h.1.isBalanced_within "model: '" "',\n" .single (fun _ => .fixed rfl) (fun _ => .fixed rfl)
    have hcolumn : IsBalanced ("key: '" ++ column ++ "'\n") :=
      h.2.isBalanced_within "key: '" "'\n" .single (fun _ => .fixed rfl) (fun _ => .fixed rfl)
    have hopen : Reads (Scan.code o) "\x7b\n" (Scan.code (.curly :: o)) := .fixed rfl
    have hclose : Reads (Scan.code (.curly :: o)) "\x7d" (Scan.code o) := .fixed rfl
    have hall := ((((hopen.append (hblanks 4)).append (htable _)).append (hblanks 4)).append
      (hcolumn _)).append ((hblanks 3).append hclose)
    show Reads (Scan.code o) ("\x7b\n" ++ ctx.indent 4 ++ "model: '" ++ table ++ "',\n"
      ++ ctx.indent 4 ++ "key: '" ++ column ++ "'\n" ++ ctx.indent 3 ++ "\x7d") (Scan.code o)
    simpa only [String.append_assoc] using hall
  | comment s => exact isBalanced_scriptQuoted s
  | extra k v => exact isBalanced_extraValue v
  | unique constraint =>
    cases constraint with
    | none => exact .fixed fun _ => rfl
    | some name =>
      show IsBalanced ("\"" ++ backslashBefore '"' name ++ "\"")
      rw [backslashBefore_of_isInert (by decide) h]
      exact IsInert.isBalanced_doubleQuoted h
  | field column => exact IsInert.isBalanced_singleQuoted h

theorem isBalanced_render (ctx : Context) {a : Attribute} (h : a.HasPlainParts) :
    IsBalanced (a.render ctx) := by
  have hcolon : IsBalanced ": " := .fixed fun _ => rfl
  exact (((isBalanced_key h).indented ctx 3).append hcolon).append (isBalanced_value ctx h)

/-- **Whatever a model declares about a plain column can be written.** -/
theorem forall_mem_ofColumn (ctx : Context) {t : Table} (ht : t.IsPlain) {c : Column}
    (hc : c.IsPlain) : ∀ a ∈ ofColumn ctx t c, a.HasPlainParts := by
  intro a ha
  cases arises_of_mem_ofColumn a ha with
  | autoIncrement | autoIncrementIdentity | allowNull | primaryKey | comment | flag => trivial
  | type =>
    show IsBalanced c.declaredType.render
    unfold Column.declaredType
    split
    · next d hd => exact ColumnType.isBalanced_dataType hc.type hd
    · exact isBalanced_scriptQuoted c.sqlType
  | defaultValue hd => exact DefaultValue.isBalanced_render_ofReported hc hd
  | references hk htable hcolumn =>
    have hk := Table.isPlain_keyRole ht hk
    exact ⟨(hk.targetTable _ htable).isTame.isInert, (hk.targetColumn _ hcolumn).isInert⟩
  | extra he => exact (hc.extras _ he).isInert
  | unique hname => exact (hc.unique _ hname).isInert
  | field => exact hc.name.isInert

end Attribute

namespace AttributeBlock

theorem isBalanced_render {ctx : Context} {t : Table} (ht : t.IsPlain) {c : Column}
    (hc : c.IsPlain) {b : AttributeBlock} (hb : ofColumn? ctx t c = some b) :
    IsBalanced (b.render ctx) := by
  obtain ⟨-, rfl⟩ := ofColumn?_eq_some_iff.mp hb
  have hattributes : IsBalanced
      (String.intercalate ",\n" ((Attribute.ofColumn ctx t c).map (·.render ctx))) := by
    refine isBalanced_intercalate ",\n" (.fixed fun _ => rfl) fun s hs => ?_
    obtain ⟨a, ha, rfl⟩ := List.mem_map.mp hs
    exact Attribute.isBalanced_render ctx (Attribute.forall_mem_ofColumn ctx ht hc a ha)
  have hkey := isBalanced_propertyKey (ctx.settings.isTame_propertyName hc.name).isInert
  intro o
  have hopen : Reads (Scan.code o) ": \x7b\n" (Scan.code (.curly :: o)) := .fixed rfl
  have hend : Reads (Scan.code (.curly :: o)) "\n" (Scan.code (.curly :: o)) := .fixed rfl
  have hclose : Reads (Scan.code (.curly :: o)) "\x7d" (Scan.code o) := .fixed rfl
  have hall := ((((hkey.indented ctx 2 o).append hopen).append (hattributes _)).append
    hend).append (hclose.indented ctx 2)
  simpa only [render, String.append_assoc] using hall

end AttributeBlock

theorem Table.isPlain_of_mem_columns {t : Table} (h : t.IsPlain) {c : Column}
    (hc : c ∈ t.columns) : c.IsPlain :=
  h.fields c (Table.mem_fields_of_mem_columns hc)

/-! ## Indexes -/

theorem IndexPart.isBalanced_of_mem_entries {p : IndexPart} (h : p.IsPlain) :
    ∀ s ∈ p.entries, IsBalanced s := by
  unfold entries
  simp only [List.forall_mem_append, List.forall_mem_singleton]
  refine ⟨⟨⟨?_, ?_⟩, ?_⟩, ?_⟩
  · exact h.column.isInert.isBalanced_within "name: \"" "\"" .double (fun _ => .fixed rfl)
      (fun _ => .fixed rfl)
  · refine forall_mem_toList fun s hs => ?_
    obtain ⟨collate, hcollate, rfl⟩ := Option.map_eq_some_iff.mp hs
    exact (h.collate collate hcollate).isInert.isBalanced_within "collate: \"" "\"" .double
      (fun _ => .fixed rfl) (fun _ => .fixed rfl)
  · refine forall_mem_toList fun s hs => ?_
    obtain ⟨n, _, rfl⟩ := Option.map_eq_some_iff.mp hs
    have hkey : IsBalanced "length: " := .fixed fun _ => rfl
    exact hkey.append (isInert_natText n).isBalanced
  · refine forall_mem_toList fun s hs => ?_
    obtain ⟨order, horder, rfl⟩ := Option.map_eq_some_iff.mp hs
    exact (h.order order (Option.filter_eq_some_iff.mp horder).1).isInert.isBalanced_within
      "order: \"" "\"" .double (fun _ => .fixed rfl) (fun _ => .fixed rfl)

theorem IndexPart.isBalanced_render (ctx : Context) {p : IndexPart} (h : p.IsPlain) :
    IsBalanced (p.render ctx) := by
  intro o
  have hopen : Reads (Scan.code o) "\x7b " (Scan.code (.curly :: o)) := .fixed rfl
  have hclose : Reads (Scan.code (.curly :: o)) " \x7d," (Scan.code o) := .fixed rfl
  exact ((hopen.indented ctx 5).append
    (isBalanced_intercalate ", " (.fixed fun _ => rfl) (isBalanced_of_mem_entries h) _)).append
      hclose

/-- The lines of an index close the brackets that they open. -/
theorem Index.isBalanced_lines (ctx : Context) {i : Index} (h : i.IsPlain) :
    IsBalanced (unlines (i.lines ctx)) := by
  have hname : ∀ s ∈ (i.name.map fun n => ctx.indent 4 ++ "name: \"" ++ n ++ "\",").toList,
      IsBalanced s := by
    refine forall_mem_toList fun s hs => ?_
    obtain ⟨n, hn, rfl⟩ := Option.map_eq_some_iff.mp hs
    exact (h.name n hn).isInert.isBalanced_within (ctx.indent 4 ++ "name: \"") "\"," .double
      (fun _ => Reads.indented (.fixed rfl) ctx 4) (fun _ => .fixed rfl)
  have hunique : ∀ s ∈ (if i.unique then [ctx.indent 4 ++ "unique: true,"] else []),
      IsBalanced s :=
    forall_mem_ite_nil
      (List.forall_mem_singleton.mpr (IsBalanced.indented (.fixed fun _ => rfl) ctx 4))
  have hkind : ∀ s ∈ (i.kind.map fun k =>
      ctx.indent 4 ++ kindKey k ++ ": \"" ++ k ++ "\",").toList, IsBalanced s := by
    refine forall_mem_toList fun s hs => ?_
    obtain ⟨k, hk, rfl⟩ := Option.map_eq_some_iff.mp hs
    have hkey : IsBalanced (ctx.indent 4 ++ kindKey k) := by
      refine IsBalanced.indented ?_ ctx 4
      unfold kindKey
      split <;> exact .fixed fun _ => rfl
    exact (h.kind k hk).isInert.isBalanced_within (ctx.indent 4 ++ kindKey k ++ ": \"") "\","
      .double (fun o => (hkey o).append (.fixed rfl)) (fun _ => .fixed rfl)
  have hparts : ∀ s ∈ i.parts.map (·.render ctx), IsBalanced s := by
    intro s hs
    obtain ⟨p, hp, rfl⟩ := List.mem_map.mp hs
    exact p.isBalanced_render ctx (h.parts p hp)
  intro o
  have hopen : Reads (Scan.code o) "\x7b" (Scan.code (.curly :: o)) := .fixed rfl
  have hfields : Reads (Scan.code (.curly :: o)) "fields: [" (Scan.code (.square :: .curly :: o)) :=
    .fixed rfl
  have hend : Reads (Scan.code (.square :: .curly :: o)) "]" (Scan.code (.curly :: o)) := .fixed rfl
  have hclose : Reads (Scan.code (.curly :: o)) "\x7d," (Scan.code o) := .fixed rfl
  exact ((((((hopen.indented ctx 3).line.appendLines (isBalanced_unlines hname _)).appendLines
    (isBalanced_unlines hunique _)).appendLines (isBalanced_unlines hkind _)).appendLines
    (hfields.indented ctx 4).line).appendLines (isBalanced_unlines hparts _)).appendLines
    ((hend.indented ctx 4).consLine (hclose.indented ctx 3).line)

theorem Index.isBalanced_renderList {ctx : Context} {indexes : List Index}
    (h : ∀ i ∈ indexes, i.IsPlain) : IsBalanced ((renderList? ctx indexes).getD "") := by
  unfold renderList?
  split
  · exact isBalanced_empty
  · intro o
    have hopen : Reads (Scan.code o) "indexes: [" (Scan.code (.square :: o)) := .fixed rfl
    have hclose : Reads (Scan.code (.square :: o)) "]" (Scan.code o) := .fixed rfl
    have hlines := isBalanced_unlines_flatMap fun i hi => Index.isBalanced_lines ctx (h i hi)
    rw [Option.getD_some, intercalate_concat]
    exact ((hopen.indented ctx 2).line.appendLines (hlines _)).append (hclose.indented ctx 2)

/-! ## Table options -/

namespace TableOption

/-- What the texts of an option must be like to be written as they are. -/
def HasPlainParts : TableOption → Prop
  | tableName name | schema name | fixedNames name => IsInert name
  | shared key value => IsInert key ∧ ∀ s, value = .text s → IsInert s
  | indexes list => ∀ i ∈ list, i.IsPlain
  | _ => True

theorem isBalanced_render_value {v : OptionValue} (h : ∀ s, v = .text s → IsInert s) :
    IsBalanced v.render := by
  cases v with
  | bool b => exact isBalanced_truth b
  | int n => exact (isInert_intText n).isBalanced
  | text s =>
    rw [OptionValue.render, backslashBefore_of_isInert (by decide) (h s rfl)]
    exact (h s rfl).isBalanced_singleQuoted

theorem isBalanced_render (ctx : Context) {x : TableOption} (h : x.HasPlainParts) :
    IsBalanced (x.render ctx) := by
  cases x with
  | connection | hasTrigger | paranoid => exact IsBalanced.indented (.fixed fun _ => rfl) ctx 2
  | tableName name =>
    exact IsInert.isBalanced_within h (ctx.indent 2 ++ "tableName: '") "'" .single
      (fun _ => Reads.indented (.fixed rfl) ctx 2) (fun _ => .fixed rfl)
  | schema name =>
    exact IsInert.isBalanced_within h (ctx.indent 2 ++ "schema: '") "'" .single
      (fun _ => Reads.indented (.fixed rfl) ctx 2) (fun _ => .fixed rfl)
  | modelName =>
    exact isInert_modelToken.isBalanced_within (ctx.indent 2 ++ "modelName: '") "'" .single
      (fun _ => Reads.indented (.fixed rfl) ctx 2) (fun _ => .fixed rfl)
  | timestamps on =>
    have hkey : IsBalanced "timestamps: " := .fixed fun _ => rfl
    exact (hkey.indented ctx 2).append (isBalanced_truth on)
  | fixedNames name =>
    intro o
    have hblanks : ∀ n, Reads (Scan.code (.curly :: o)) (ctx.indent n) (Scan.code (.curly :: o)) :=
      fun n => (ctx.isInert_indent n).reads rfl
    have hsingular : IsBalanced ("singular: '" ++ name ++ "',\n") :=
      IsInert.isBalanced_within h "singular: '" "',\n" .single (fun _ => .fixed rfl)
        (fun _ => .fixed rfl)
    have hplural : IsBalanced ("plural: '" ++ name ++ "'\n") :=
      IsInert.isBalanced_within h "plural: '" "'\n" .single (fun _ => .fixed rfl)
        (fun _ => .fixed rfl)
    have hopen : Reads (Scan.code o) "name: \x7b\n" (Scan.code (.curly :: o)) := .fixed rfl
    have hclose : Reads (Scan.code (.curly :: o)) "\x7d" (Scan.code o) := .fixed rfl
    have hall := (((((hopen.indented ctx 2).append (hblanks 3)).append (hsingular _)).append
      (hblanks 3)).append (hplural _)).append ((hblanks 2).append hclose)
    simpa only [render, String.append_assoc] using hall
  | shared key value =>
    have hcolon : IsBalanced ": " := .fixed fun _ => rfl
    exact ((h.1.isBalanced.indented ctx 2).append hcolon).append (isBalanced_render_value h.2)
  | indexes list => exact Index.isBalanced_renderList h

theorem isInert_qualified {t : Table} (h : t.IsPlain) : IsInert t.name.qualified := by
  have hdot : IsInert "." := by decide
  unfold TableName.qualified TableName.join
  split
  · next s hs =>
    split
    · exact h.name.isInert
    · exact ((h.schema s hs).isInert.append hdot).append h.name.isInert
  · exact h.name.isInert

/-- **The options of the model of a plain table can be written.** -/
theorem forall_mem_ofTable {ctx : Context} (hs : ctx.settings.IsPlain) {t : Table}
    (ht : t.IsPlain) : ∀ x ∈ ofTable ctx t, x.HasPlainParts := by
  intro x hx
  cases arises_of_mem_ofTable x hx with
  | connection | modelName | hasTrigger | timestamps | paranoid => trivial
  | tableName => exact ht.name.isInert
  | schema hschema => exact (ht.schema _ hschema).isInert
  | fixedNames => exact isInert_qualified ht
  | shared he =>
    refine ⟨(hs.optionKey _ he).isInert, ?_⟩
    rintro s rfl
    exact (hs.optionText _ s he).isInert
  | indexes => exact ht.indexes

end TableOption

/-! ## The definition -/

/-- **The definition closes the object that it is written into.** -/
theorem Table.reads_definition {ctx : Context} (hs : ctx.settings.IsPlain) {t : Table}
    (ht : t.IsPlain) (o : List Bracket) :
    Reads (Scan.code (.curly :: o)) ((t.definition ctx).render ctx) (Scan.code o) := by
  have hend : IsBalanced ",\n" := .fixed fun _ => rfl
  have hblocks : IsBalanced ((t.definition ctx).renderBlocks ctx) := by
    unfold Definition.renderBlocks
    split
    · exact isBalanced_empty
    · refine (isBalanced_intercalate ",\n" hend fun s hs => ?_).append (.fixed fun _ => rfl)
      obtain ⟨b, hb, rfl⟩ := List.mem_map.mp hs
      obtain ⟨c, hc, hcb⟩ := List.mem_filterMap.mp hb
      exact AttributeBlock.isBalanced_render ht (isPlain_of_mem_columns ht hc) hcb
  have hoptions : IsBalanced ((t.definition ctx).renderOptions ctx) := by
    refine isBalanced_intercalate ",\n" hend fun s hopt => ?_
    obtain ⟨x, hx, rfl⟩ := List.mem_map.mp hopt
    exact TableOption.isBalanced_render ctx (TableOption.forall_mem_ofTable hs ht x hx)
  have hmiddle : Reads (Scan.code (.curly :: o)) "\x7d, \x7b\n" (Scan.code (.curly :: o)) :=
    .fixed rfl
  have hline : Reads (Scan.code (.curly :: o)) "\n" (Scan.code (.curly :: o)) := .fixed rfl
  have hclose : Reads (Scan.code (.curly :: o)) "\x7d" (Scan.code o) := .fixed rfl
  have hall := ((((hblocks _).append (hmiddle.indented ctx 1)).append (hoptions _)).append
    hline).append (hclose.indented ctx 1)
  simpa only [Definition.render, String.append_assoc] using hall

end SchemaModels
