import SchemaModels.Model.TypedSection
import SchemaModels.Proofs.Model.DefinitionText
import SchemaModels.Proofs.Model.Needed
import SchemaModels.Proofs.Traversal

/-!
# Typed sections in script text

The typed section of a plain table opens the class, the method and the object that the definition
is written into, and nothing more (`TypedSection.reads_render`). Making it never fails: the names
of members and files are inflections of plain names. Its lines are balanced but for the last ones;
the comment above the members of an association ends with its line.
-/

namespace SchemaModels

open Text Script Naming

/-! ## Associations -/

namespace Association

/-- An association of a plain relation. -/
def IsPlain (a : Association) : Prop := a.relation.IsPlain

theorem isPlain_other {a : Association} (h : a.IsPlain) : a.other.IsPlain := by
  unfold other
  split
  · exact h.parent
  · exact h.child

theorem isPlain_own {a : Association} (h : a.IsPlain) : a.own.IsPlain := by
  unfold own
  split
  · exact h.child
  · exact h.parent

theorem isInert_word (a : Association) : IsInert a.word := by
  unfold word
  split <;> decide

theorem isInert_typeStem (a : Association) : IsInert a.typeStem := by
  unfold typeStem
  split <;> decide

/-- The comment is open until its line ends. -/
theorem reads_comment {a : Association} (h : a.IsPlain) (o : List Bracket) :
    Reads (Scan.code o) a.comment ⟨.comment, o⟩ := by
  have hwithin : ∀ {s : String}, IsInert s → Reads ⟨.comment, o⟩ s ⟨.comment, o⟩ :=
    fun hs => hs.reads rfl
  have hopen : Reads (Scan.code o) "// " ⟨.comment, o⟩ := .fixed rfl
  have hspace : Reads ⟨.comment, o⟩ " " ⟨.comment, o⟩ := .fixed rfl
  have hvia : Reads ⟨.comment, o⟩ " via " ⟨.comment, o⟩ := .fixed rfl
  have hand : Reads ⟨.comment, o⟩ " and " ⟨.comment, o⟩ := .fixed rfl
  have hends := (((hopen.append (hwithin (isPlain_own h).model.isInert)).append hspace).append
    (hwithin a.isInert_word)).append hspace
  have hline := ((hends.append (hwithin (isPlain_other h).model.isInert)).append hvia).append
    (hwithin h.parent.key.isInert)
  unfold comment
  dsimp only
  split
  · exact (hline.append hand).append (hwithin h.child.key.isInert)
  · exact hline

end Association

/-- A declaration that can be written as it is. -/
structure Declaration.IsSafe (d : Declaration) : Prop where
  name : IsInert d.name
  type : IsBalanced d.type

theorem Declaration.IsSafe.isBalanced_render {d : Declaration} (h : d.IsSafe) :
    IsBalanced d.render := by
  have hcolon : IsBalanced "!: " := .fixed fun _ => rfl
  have hend : IsBalanced ";" := .fixed fun _ => rfl
  exact ((h.name.isBalanced.append hcolon).append h.type).append hend

namespace Association

theorem isBalanced_accessor {a : Association} (h : a.IsPlain) {action : String}
    (haction : IsInert action) : IsBalanced (a.accessor action) := by
  have hfront : IsInert "Sequelize." := .fixed rfl
  have hmixin : IsInert "Mixin<" := .fixed rfl
  have hend : IsInert ">" := .fixed rfl
  exact (((((hfront.append a.isInert_typeStem).append haction).append hmixin).append
    (isPlain_other h).model.isInert).append hend).isBalanced

theorem isBalanced_keyAccessor {a : Association} (h : a.IsPlain) {action : String}
    (haction : IsInert action) : IsBalanced (a.keyAccessor action) := by
  have hmodel := (isPlain_other h).model.isInert
  have hfront : IsInert "Sequelize." := .fixed rfl
  have hmixin : IsInert "Mixin<" := .fixed rfl
  have hcomma : IsInert ", " := .fixed rfl
  have hend : IsInert "Id>" := .fixed rfl
  exact (((((((hfront.append a.isInert_typeStem).append haction).append hmixin).append
    hmodel).append hcomma).append hmodel).append hend).isBalanced

theorem isSafe_of_mem_singleDeclarations {a : Association} (h : a.IsPlain) :
    ∀ d ∈ a.singleDeclarations, d.IsSafe := by
  have hproperty := (isPlain_other h).property.isTame
  have hname : ∀ {front : String}, IsInert front → IsInert (front ++ upperFirst a.other.property) :=
    fun hfront => hfront.append hproperty.upperFirst.isInert
  unfold singleDeclarations
  simp only [List.forall_mem_cons, List.not_mem_nil, false_implies, implies_true, and_true]
  exact ⟨
    ⟨hproperty.isInert, (isPlain_other h).model.isInert.isBalanced⟩,
    ⟨hname (.fixed rfl), isBalanced_accessor h (.fixed rfl)⟩,
    ⟨hname (.fixed rfl), isBalanced_keyAccessor h (.fixed rfl)⟩,
    ⟨hname (.fixed rfl), isBalanced_accessor h (.fixed rfl)⟩⟩

theorem isSafe_of_mem_collectionDeclarations {a : Association} (h : a.IsPlain)
    {singular plural : String} (hsingular : IsTame singular) (hplural : IsTame plural) :
    ∀ d ∈ a.collectionDeclarations singular plural, d.IsSafe := by
  have hone : ∀ {front : String}, IsInert front → IsInert (front ++ upperFirst singular) :=
    fun hfront => hfront.append hsingular.upperFirst.isInert
  have hmany : ∀ {front : String}, IsInert front → IsInert (front ++ upperFirst plural) :=
    fun hfront => hfront.append hplural.upperFirst.isInert
  have harray : IsBalanced (a.other.model ++ "[]") :=
    (isPlain_other h).model.isInert.isBalanced.append (.fixed fun _ => rfl)
  have hcount : IsInert ("Sequelize." ++ a.typeStem ++ "CountAssociationsMixin") :=
    (IsInert.append (.fixed rfl) a.isInert_typeStem).append (.fixed rfl)
  unfold collectionDeclarations
  simp only [List.forall_mem_cons, List.not_mem_nil, false_implies, implies_true, and_true]
  exact ⟨
    ⟨hplural.isInert, harray⟩,
    ⟨hmany (.fixed rfl), isBalanced_accessor h (.fixed rfl)⟩,
    ⟨hmany (.fixed rfl), isBalanced_keyAccessor h (.fixed rfl)⟩,
    ⟨hone (.fixed rfl), isBalanced_keyAccessor h (.fixed rfl)⟩,
    ⟨hmany (.fixed rfl), isBalanced_keyAccessor h (.fixed rfl)⟩,
    ⟨hone (.fixed rfl), isBalanced_accessor h (.fixed rfl)⟩,
    ⟨hone (.fixed rfl), isBalanced_keyAccessor h (.fixed rfl)⟩,
    ⟨hmany (.fixed rfl), isBalanced_keyAccessor h (.fixed rfl)⟩,
    ⟨hone (.fixed rfl), isBalanced_keyAccessor h (.fixed rfl)⟩,
    ⟨hmany (.fixed rfl), isBalanced_keyAccessor h (.fixed rfl)⟩,
    ⟨hmany (.fixed rfl), hcount.isBalanced⟩⟩

/-- The declarations of a plain association can be made and written. -/
theorem exists_declarations {a : Association} (h : a.IsPlain) :
    ∃ ds, a.declarations = .ok ds ∧ ∀ d ∈ ds, d.IsSafe := by
  have hproperty := (isPlain_other h).property.isTame
  unfold declarations
  split
  · exact ⟨_, rfl, isSafe_of_mem_singleDeclarations h⟩
  · exact ⟨_, rfl, isSafe_of_mem_singleDeclarations h⟩
  all_goals
    obtain ⟨singular, hs, hsingular⟩ := singularize_of_isTame hproperty
    obtain ⟨plural, hp, hplural⟩ := pluralize_of_isTame hproperty
    refine ⟨a.collectionDeclarations singular plural, ?_,
      isSafe_of_mem_collectionDeclarations h hsingular hplural⟩
    rw [hs, hp]
    rfl

/-- The lines of a plain association can be made, and are balanced. -/
theorem exists_render (ctx : Context) (depth : Nat) {a : Association} (h : a.IsPlain) :
    ∃ s, a.render (ctx.indent depth) = .ok s ∧ IsBalanced s := by
  obtain ⟨ds, hds, hsafe⟩ := exists_declarations h
  refine ⟨unlines ((a.comment :: ds.map (·.render)).map (ctx.indent depth ++ ·)), ?_, ?_⟩
  · rw [render, hds]
    rfl
  · have hlines : ∀ s ∈ (ds.map (·.render)).map (ctx.indent depth ++ ·), IsBalanced s := by
      intro s hs
      obtain ⟨t, ht, rfl⟩ := List.mem_map.mp hs
      obtain ⟨d, hd, rfl⟩ := List.mem_map.mp ht
      exact (hsafe d hd).isBalanced_render.indented ctx depth
    intro o
    have hend : Reads ⟨.comment, o⟩ "\n" (Scan.code o) := .fixed rfl
    rw [List.map_cons, unlines_cons]
    exact (((reads_comment h o).indented ctx depth).append hend).append
      (isBalanced_unlines hlines o)

end Association

/-! ## Mixins -/

/-- Mixins that can be written: balanced members, tables with plain names, and names of types. -/
structure Mixins.IsSafe (m : Mixins) : Prop where
  text : IsBalanced m.text
  tables : ∀ e ∈ m.needed, IsDottedWord e.1
  names : ∀ e ∈ m.needed, ∀ n ∈ e.2, IsInert n

theorem isPlain_of_mem_associationsOf {relations : List Relation} {table : String}
    (h : ∀ r ∈ relations, r.IsPlain) : ∀ a ∈ associationsOf relations table, a.IsPlain :=
  fun _ ha => h _ (relation_mem_of_mem_associationsOf ha)

theorem Association.isInert_of_mem_imports {a : Association} (h : a.IsPlain) :
    ∀ n ∈ a.imports, IsInert n := by
  have hmodel := (isPlain_other h).model.isInert
  have hid : IsInert (a.other.model ++ "Id") := hmodel.append (.fixed rfl)
  have hcreation : IsInert (a.other.model ++ "CreationAttributes") := hmodel.append (.fixed rfl)
  unfold imports
  dsimp only
  split
  · simp only [List.forall_mem_cons, List.not_mem_nil, false_implies, implies_true, and_true]
    exact ⟨hmodel, hid, hcreation⟩
  · simp only [List.forall_mem_cons, List.not_mem_nil, false_implies, implies_true, and_true]
    exact ⟨hmodel, hid⟩

/-- The mixins of a table of a plain database can be made and written. -/
theorem Mixins.exists_of {relations : List Relation} (h : ∀ r ∈ relations, r.IsPlain)
    (ctx : Context) (depth : Nat) (table : String) :
    ∃ m, Mixins.of relations (ctx.indent depth) table = .ok m ∧ m.IsSafe := by
  have hplain : ∀ a ∈ associationsOf relations table, _ := isPlain_of_mem_associationsOf h
  obtain ⟨texts, htexts, hbalanced⟩ := exists_mapM_ok fun a ha =>
    Association.exists_render ctx depth (hplain a ha)
  have hneeded := NeededTypes.comesFrom_ofAssociations (associationsOf relations table)
  refine ⟨⟨String.join texts, (NeededTypes.ofAssociations (associationsOf relations table)).filter
    (·.1 ≠ qualifyFor relations table)⟩, ?_, ?_⟩
  · rw [Mixins.of, htexts]
    rfl
  · refine ⟨isBalanced_join hbalanced, fun e he => ?_, fun e he n hn => ?_⟩
    · obtain ⟨a, ha, htable⟩ := (hneeded e (List.mem_filter.mp he).1).1
      exact htable ▸ (Association.isPlain_other (hplain a ha)).table
    · obtain ⟨a, ha, _, hname⟩ := (hneeded e (List.mem_filter.mp he).1).2 n hn
      exact Association.isInert_of_mem_imports (hplain a ha) n hname

/-! ## The typed section -/

/-- A typed section that can be written. -/
structure TypedSection.IsSafe (s : TypedSection) : Prop where
  files : ∀ i ∈ s.imports, IsInert i.file
  names : ∀ i ∈ s.imports, ∀ n ∈ i.names, IsInert n
  properties : ∀ m ∈ s.members, IsInert m.property
  types : ∀ m ∈ s.members, IsBalanced m.type.render
  primaryKey : ∀ p ∈ s.primaryKey, IsInert p
  optional : ∀ p ∈ s.optional, IsInert p
  associations : IsBalanced s.associations

namespace TypedSection

/-- The typed section of a plain table can be made and written. -/
theorem exists_of (s : Settings) {t : Table} (ht : t.IsPlain) {m : Mixins} (hm : m.IsSafe) :
    ∃ content, TypedSection.of s t m = .ok content ∧ content.IsSafe := by
  have himport : ∀ e ∈ m.needed, ∃ i, importOf s e = .ok i ∧
      IsInert i.file ∧ ∀ n ∈ i.names, IsInert n := by
    intro e he
    have htable : IsTame (TableName.split e.1).2 :=
      fun c hc => (hm.tables e he).isTame c (TableName.mem_of_mem_split hc)
    obtain ⟨file, hfile, htame⟩ := s.fileStyle.apply_of_isTame s.singularize htable
    refine ⟨⟨file, e.2⟩, ?_, htame.isInert, hm.names e he⟩
    rw [importOf, Settings.fileName, hfile]
    rfl
  obtain ⟨imports, himports, hsafe⟩ := exists_mapM_ok himport
  have hcolumn : ∀ c ∈ t.columns, c.IsPlain := fun c hc => t.isPlain_of_mem_columns ht hc
  have hproperty : ∀ c ∈ t.columns, IsInert (s.propertyName c.name) :=
    fun c hc => (s.isTame_propertyName (hcolumn c hc).name).isInert
  refine ⟨⟨imports, membersOf s t, t.primaryKeys.map fun c => s.propertyName c.name,
    (t.columns.filter (isOptional s)).map fun c => s.propertyName c.name, m.text⟩, ?_, ?_⟩
  · rw [TypedSection.of, himports]
    rfl
  exact {
    files := fun i hi => (hsafe i hi).1
    names := fun i hi => (hsafe i hi).2
    properties := by
      intro x hx
      obtain ⟨c, hc, rfl⟩ := List.mem_map.mp hx
      exact hproperty c (List.mem_filter.mp hc).1
    types := by
      intro x hx
      obtain ⟨c, hc, rfl⟩ := List.mem_map.mp hx
      dsimp only [Member.ofColumn]
      exact ColumnType.isBalanced_memberType (hcolumn c (List.mem_filter.mp hc).1).type
    primaryKey := by
      intro p hp
      obtain ⟨c, hc, rfl⟩ := List.mem_map.mp hp
      exact hproperty c (List.mem_filter.mp hc).1
    optional := by
      intro p hp
      obtain ⟨c, hc, rfl⟩ := List.mem_map.mp hp
      exact hproperty c (List.mem_filter.mp hc).1
    associations := hm.text }

theorem isBalanced_import {i : Import} (hfile : IsInert i.file)
    (hnames : ∀ n ∈ i.names, IsInert n) :
    IsBalanced i.render := by
  have hlist : IsBalanced (String.intercalate ", " i.names) :=
    isBalanced_intercalate ", " (.fixed fun _ => rfl) fun n hn => (hnames n hn).isBalanced
  intro o
  have hopen : Reads (Scan.code o) "import type \x7b " (Scan.code (.curly :: o)) := .fixed rfl
  have hclose : Reads (Scan.code (.curly :: o)) " \x7d from './" ⟨.literal .single, o⟩ := .fixed rfl
  have hend : Reads ⟨.literal .single, o⟩ "';" (Scan.code o) := .fixed rfl
  exact (((hopen.append (hlist _)).append hclose).append (hfile.reads rfl)).append hend

theorem isBalanced_member (ctx : Context) {m : Member} (hproperty : IsInert m.property)
    (htype : IsBalanced m.type.render) {required : String} (hrequired : IsBalanced required) :
    IsBalanced (m.render ctx required) := by
  have hmark : IsBalanced (if m.nullable then "?" else required) := by
    split
    · exact .fixed fun _ => rfl
    · exact hrequired
  have hcolon : IsBalanced ": " := .fixed fun _ => rfl
  have hend : IsBalanced ";" := .fixed fun _ => rfl
  exact (((((isBalanced_propertyKey hproperty).indented ctx 1).append hmark).append hcolon).append
    htype).append hend

theorem isBalanced_members (ctx : Context) {s : TypedSection} (h : s.IsSafe) {required : String}
    (hrequired : IsBalanced required) :
    IsBalanced (unlines (s.members.map (·.render ctx required))) := by
  refine isBalanced_unlines fun line hline => ?_
  obtain ⟨m, hm, rfl⟩ := List.mem_map.mp hline
  exact isBalanced_member ctx (h.properties m hm) (h.types m hm) hrequired

theorem isBalanced_literalUnion {properties : List String} (h : ∀ p ∈ properties, IsInert p) :
    IsBalanced (literalUnion properties) := by
  refine isBalanced_intercalate " | " (.fixed fun _ => rfl) fun s hs => ?_
  obtain ⟨p, hp, rfl⟩ := List.mem_map.mp hs
  exact (h p hp).isBalanced_doubleQuoted

/-- The interface closes the brace that it opens. -/
theorem isBalanced_interfaceLines (ctx : Context) {s : TypedSection} (h : s.IsSafe) :
    IsBalanced (unlines (s.interfaceLines ctx)) := by
  intro o
  have hempty : Reads (Scan.code o) "" (Scan.code o) := isBalanced_empty o
  have hopen : Reads (Scan.code o) ("export interface " ++ modelToken ++ "Attributes \x7b")
      (Scan.code (.curly :: o)) := Reads.token (.fixed rfl) rfl (.fixed rfl)
  have hclose : Reads (Scan.code (.curly :: o)) "\x7d" (Scan.code o) := .fixed rfl
  exact ((hempty.consLine hopen.line).appendLines
    (isBalanced_members ctx h isBalanced_empty _)).appendLines (hclose.consLine hempty.line)

theorem isBalanced_keyLines {s : TypedSection} (h : s.IsSafe) :
    IsBalanced (unlines s.keyLines) := by
  unfold keyLines
  split
  · exact isBalanced_empty
  · intro o
    have hunion := isBalanced_literalUnion h.primaryKey
    have hfront : Reads (Scan.code o) ("export type " ++ modelToken ++ "Pk = ") (Scan.code o) :=
      Reads.token (.fixed rfl) rfl (.fixed rfl)
    have hend : Reads (Scan.code o) ";" (Scan.code o) := .fixed rfl
    have hid : Reads (Scan.code o) ("export type " ++ modelToken ++ "Id = " ++ modelToken ++ "["
        ++ modelToken ++ "Pk];") (Scan.code o) :=
      Reads.token (Reads.token (Reads.token (.fixed rfl) rfl (.fixed rfl)) rfl
        (b := Scan.code o) (c := Scan.code (.square :: o)) (.fixed rfl)) rfl (.fixed rfl)
    exact ((hfront.append (hunion o)).append hend).consLine hid.line

theorem isBalanced_creationLines {s : TypedSection} (h : s.IsSafe) :
    IsBalanced (unlines s.creationLines) := by
  intro o
  have hempty : Reads (Scan.code o) "" (Scan.code o) := isBalanced_empty o
  have hcreation : Reads (Scan.code o) ("export type " ++ modelToken ++ "CreationAttributes = ")
      (Scan.code o) := Reads.token (.fixed rfl) rfl (.fixed rfl)
  have htoken : Reads (Scan.code o) modelToken (Scan.code o) := isInert_modelToken.reads rfl
  unfold creationLines
  dsimp only
  split
  · have hend : Reads (Scan.code o) "Attributes;" (Scan.code o) := .fixed rfl
    exact ((hcreation.append htoken).append hend).consLine hempty.line
  · have hfront : Reads (Scan.code o) ("export type " ++ modelToken ++ "OptionalAttributes = ")
        (Scan.code o) := Reads.token (.fixed rfl) rfl (.fixed rfl)
    have hend : Reads (Scan.code o) ";" (Scan.code o) := .fixed rfl
    have hgeneric : Reads (Scan.code o) "Optional<" (Scan.code o) := .fixed rfl
    have hcomma : Reads (Scan.code o) "Attributes, " (Scan.code o) := .fixed rfl
    have hclose : Reads (Scan.code o) "OptionalAttributes>;" (Scan.code o) := .fixed rfl
    have hunion := (hfront.append (isBalanced_literalUnion h.optional o)).append hend
    have hline := ((((hcreation.append hgeneric).append htoken).append hcomma).append
      htoken).append hclose
    exact hunion.consLine (hline.consLine hempty.line)

/-- The class is open after its first line. -/
theorem reads_classLine (o : List Bracket) :
    Reads (Scan.code o) classLine (Scan.code (.curly :: o)) :=
  Reads.token (b := Scan.code o) (Reads.token (b := Scan.code o) (Reads.token (b := Scan.code o)
    (Reads.token (b := Scan.code o) (c := Scan.code o) (.fixed rfl) rfl (.fixed rfl)) rfl
    (c := Scan.code o) (.fixed rfl)) rfl (c := Scan.code o) (.fixed rfl)) rfl (.fixed rfl)

/-- The last lines open the method, the call that defines the model, and its first object. -/
theorem reads_openingLines (ctx : Context) (o : List Bracket) :
    Reads (Scan.code o) (unlines (openingLines ctx))
      (Scan.code (.curly :: .round :: .curly :: o)) := by
  have hempty : Reads (Scan.code o) "" (Scan.code o) := isBalanced_empty o
  have hmethod : Reads (Scan.code o) (ctx.indent 1
      ++ "static initModel(sequelize: Sequelize.Sequelize): typeof " ++ modelToken ++ " \x7b")
      (Scan.code (.curly :: o)) :=
    Reads.token (b := Scan.code o) (Reads.indented (.fixed rfl) ctx 1) rfl (.fixed rfl)
  refine hempty.consLine (hmethod.consLine (Reads.line ?_))
  split
  · exact Reads.token (b := ⟨.literal .single, .round :: .curly :: o⟩)
      (Reads.indented (.fixed rfl) ctx 2) rfl (.fixed rfl)
  · exact Reads.token (b := Scan.code (.curly :: o))
      (Reads.indented (.fixed rfl) ctx 2) rfl (.fixed rfl)

/-- **A typed section opens the class, the method, the call and the object of attributes.** -/
theorem reads_render (ctx : Context) {s : TypedSection} (h : s.IsSafe) (o : List Bracket) :
    Reads (Scan.code o) (s.render ctx)
      (Scan.code (.curly :: .round :: .curly :: .curly :: o)) := by
  have himports : IsBalanced (unlines (s.imports.map (·.render))) := by
    refine isBalanced_unlines fun line hline => ?_
    obtain ⟨i, hi, rfl⟩ := List.mem_map.mp hline
    exact isBalanced_import (h.files i hi) (h.names i hi)
  have hmark : IsBalanced "!" := .fixed fun _ => rfl
  have hlines := (((((himports o).appendLines (isBalanced_interfaceLines ctx h o)).appendLines
    (isBalanced_keyLines h o)).appendLines (isBalanced_creationLines h o)).appendLines
    (reads_classLine o).line).appendLines (isBalanced_members ctx h hmark _)
  have hempty : Reads (Scan.code (.curly :: o)) "" (Scan.code (.curly :: o)) := isBalanced_empty _
  exact ((hlines.appendLines hempty.line).append (h.associations _)).append
    (reads_openingLines ctx _)

end TypedSection
end SchemaModels
