import SchemaModels.Model.Generation
import SchemaModels.Proofs.Entries
import SchemaModels.Proofs.Model.TypedText
import SchemaModels.Proofs.Script.Token

/-!
# Modules in script text

Every module that is generated for a plain database is lexically closed and properly nested, in
each language and with either way to define a model (`Database.isClosed_generate`). The header and,
in a typed module, the typed section leave open the object that the definition is written into,
the call around it, and the blocks around the call. The definition closes the object and the
footer the rest, so the draft of a module reads from code to code. The name of the model, which is
put in at the end, changes nothing about that.
-/

namespace SchemaModels

open Text Script Naming

namespace Scaffold

/-- What is open around the object of attributes: the call, and the function or the class and its
method. -/
def surroundings : Language → List Bracket
  | .es5 => [.round, .curly]
  | _ => [.round, .curly, .curly]

/-- The line in a class that opens the call and the object of attributes. -/
theorem reads_opener (ctx : Context) (o : List Bracket) :
    Reads (Scan.code o) (opener ctx) (Scan.code (.curly :: .round :: o)) := by
  unfold opener
  split
  · exact Reads.token (b := ⟨.literal .single, .round :: o⟩) (Reads.indented (.fixed rfl) ctx 1) rfl
      (.fixed rfl)
  · exact Reads.indented (.fixed rfl) ctx 1

/-- The header of an untyped module leaves the object of attributes open. -/
theorem reads_header {ctx : Context} (h : ctx.settings.language ≠ .ts) :
    Reads (Scan.code []) (header ctx)
      (Scan.code (.curly :: surroundings ctx.settings.language)) := by
  unfold header surroundings
  cases hl : ctx.settings.language with
  | es5 =>
    have hrequire : Reads (Scan.code []) "const Sequelize = require('sequelize');" (Scan.code []) :=
      .fixed rfl
    have hfunction : Reads (Scan.code [])
        "module.exports = function(sequelize, DataTypes) \x7b" (Scan.code [.curly]) := .fixed rfl
    have hcall : Reads (Scan.code [.curly])
        (ctx.indent 1 ++ "return sequelize.define('" ++ modelToken ++ "', \x7b")
        (Scan.code [.curly, .round, .curly]) :=
      Reads.token (b := ⟨.literal .single, [.round, .curly]⟩)
        (Reads.indented (.fixed rfl) ctx 1) rfl (.fixed rfl)
    exact hrequire.consLine (hfunction.consLine hcall.line)
  | es6 =>
    have hrequire : Reads (Scan.code []) "const Sequelize = require('sequelize');" (Scan.code []) :=
      .fixed rfl
    have hfunction : Reads (Scan.code [])
        "module.exports = (sequelize, DataTypes) => \x7b" (Scan.code [.curly]) := .fixed rfl
    have hreturn : Reads (Scan.code [.curly])
        (ctx.indent 1 ++ "return " ++ modelToken ++ ".init(sequelize, DataTypes);")
        (Scan.code [.curly]) :=
      Reads.token (b := Scan.code [.curly]) (Reads.indented (.fixed rfl) ctx 1) rfl (.fixed rfl)
    have hclose : Reads (Scan.code [.curly]) "\x7d" (Scan.code []) := .fixed rfl
    have hempty : Reads (Scan.code []) "" (Scan.code []) := .fixed rfl
    have hclass : Reads (Scan.code [])
        ("class " ++ modelToken ++ " extends Sequelize.Model \x7b") (Scan.code [.curly]) :=
      Reads.token (b := Scan.code []) (.fixed rfl) rfl (.fixed rfl)
    have hmethod : Reads (Scan.code [.curly])
        (ctx.indent 1 ++ "static init(sequelize, DataTypes) \x7b") (Scan.code [.curly, .curly]) :=
      Reads.indented (.fixed rfl) ctx 1
    exact hrequire.consLine (hfunction.consLine (hreturn.consLine (hclose.consLine
      (hempty.consLine (hclass.consLine (hmethod.consLine (reads_opener ctx _).line))))))
  | esm =>
    have himport : Reads (Scan.code []) "import _sequelize from 'sequelize';" (Scan.code []) :=
      .fixed rfl
    have hnames : Reads (Scan.code [])
        "const \x7b Model, Sequelize \x7d = _sequelize;" (Scan.code []) := .fixed rfl
    have hempty : Reads (Scan.code []) "" (Scan.code []) := .fixed rfl
    have hclass : Reads (Scan.code [])
        ("export default class " ++ modelToken ++ " extends Model \x7b") (Scan.code [.curly]) :=
      Reads.token (b := Scan.code []) (.fixed rfl) rfl (.fixed rfl)
    have hmethod : Reads (Scan.code [.curly])
        (ctx.indent 1 ++ "static init(sequelize, DataTypes) \x7b") (Scan.code [.curly, .curly]) :=
      Reads.indented (.fixed rfl) ctx 1
    exact himport.consLine (hnames.consLine (hempty.consLine (hclass.consLine
      (hmethod.consLine (reads_opener ctx _).line))))
  | ts => exact absurd hl h

/-- The header of a typed module has nothing but imports. -/
theorem reads_header_of_ts {ctx : Context} (h : ctx.settings.language = .ts) :
    Reads (Scan.code []) (header ctx) (Scan.code []) := by
  unfold header
  rw [h]
  have hall : Reads (Scan.code []) "import * as Sequelize from 'sequelize';" (Scan.code []) :=
    .fixed rfl
  have hnames : Reads (Scan.code [])
      "import \x7b DataTypes, Model, Optional \x7d from 'sequelize';" (Scan.code []) := .fixed rfl
  exact hall.consLine hnames.line

/-- The footer closes what is open around the definition. -/
theorem reads_footer (ctx : Context) :
    Reads (Scan.code (surroundings ctx.settings.language)) (footer ctx) (Scan.code []) := by
  have hcall : ∀ o, Reads (Scan.code (.round :: o)) ");" (Scan.code o) := fun _ => .fixed rfl
  have hcloser : ∀ o, Reads (Scan.code (.round :: o)) (closer ctx) (Scan.code o) := by
    intro o
    unfold closer
    split
    · exact Reads.token (b := Scan.code o) (.fixed rfl) rfl (.fixed rfl)
    · exact hcall o
  have hbrace : ∀ o, Reads (Scan.code (.curly :: o)) "\x7d" (Scan.code o) := fun _ => .fixed rfl
  have hend : Reads (Scan.code [.curly]) "\x7d;" (Scan.code []) := .fixed rfl
  have hclass : Reads (Scan.code [.round, .curly, .curly])
      (unlines [closer ctx, ctx.indent 1 ++ "\x7d", "\x7d"]) (Scan.code []) :=
    (hcloser _).consLine (((hbrace _).indented ctx 1).consLine (hbrace []).line)
  unfold footer surroundings
  cases ctx.settings.language with
  | es5 => exact (hcall _).consLine hend.line
  | es6 | esm | ts => exact hclass

end Scaffold

/-- The name of the model of a plain table exists, and means nothing to the scanner. -/
theorem Settings.exists_modelName (s : Settings) {t : Table} (ht : t.IsPlain) :
    ∃ name, s.modelName t = .ok name ∧ IsInert name := by
  obtain ⟨name, hname, htame⟩ := s.modelStyle.apply_of_isTame s.singularize ht.name.isTame
  refine ⟨avoidReserved s.language.isTyped name, ?_, (isTame_avoidReserved _ htame).isInert⟩
  rw [Settings.modelName, hname]
  rfl

namespace ModuleContent

/-- The content of the module of a plain table exists, and its draft reads from code to code. -/
theorem exists_of {ctx : Context} (hs : ctx.settings.IsPlain) {relations : List Relation}
    (hr : ∀ r ∈ relations, r.IsPlain) {t : Table} (ht : t.IsPlain) :
    ∃ c, ModuleContent.of ctx relations t = .ok c ∧
      Reads (Scan.code []) (c.draft ctx) (Scan.code []) := by
  have hdefinition := Table.reads_definition hs ht (Scaffold.surroundings ctx.settings.language)
  have hfooter := Scaffold.reads_footer ctx
  by_cases hl : ctx.settings.language = .ts
  · obtain ⟨mixins, hmixins, hsafe⟩ := Mixins.exists_of hr ctx 1 t.name.qualified
    obtain ⟨section_, hsection, hsectionSafe⟩ := TypedSection.exists_of ctx.settings ht hsafe
    refine ⟨⟨t.name.qualified, some section_, t.definition ctx⟩, ?_, ?_⟩
    · have htyped : t.typedSection ctx relations = .ok section_ := by
        rw [Table.typedSection, hmixins]
        exact hsection
      rw [ModuleContent.of, hl, htyped]
      rfl
    · have hopen := TypedSection.reads_render ctx hsectionSafe []
      have hstack : [.round, .curly, .curly] = Scaffold.surroundings ctx.settings.language := by
        rw [hl]; rfl
      rw [hstack] at hopen
      exact (((Scaffold.reads_header_of_ts hl).append hopen).append hdefinition).append hfooter
  · refine ⟨⟨t.name.qualified, none, t.definition ctx⟩, ?_, ?_⟩
    · have huntyped : ctx.settings.language.isTyped = false := by
        simpa [Language.isTyped] using hl
      rw [ModuleContent.of, huntyped]
      rfl
    · have hnone : Reads (Scan.code (.curly :: Scaffold.surroundings ctx.settings.language)) ""
          (Scan.code (.curly :: Scaffold.surroundings ctx.settings.language)) :=
        isBalanced_empty _
      exact (((Scaffold.reads_header hl).append hnone).append hdefinition).append hfooter

end ModuleContent

/-- The module of a plain table exists, and its text is closed. -/
theorem Table.exists_generate {ctx : Context} (hs : ctx.settings.IsPlain)
    {relations : List Relation} (hr : ∀ r ∈ relations, r.IsPlain) {t : Table} (ht : t.IsPlain) :
    ∃ m, t.generate ctx relations = .ok m ∧ IsClosed m.text := by
  obtain ⟨c, hc, hdraft⟩ := ModuleContent.exists_of hs hr ht
  obtain ⟨name, hname, hinert⟩ := ctx.settings.exists_modelName ht
  refine ⟨c.write ctx name, ?_, isClosed_replace hinert hdraft⟩
  rw [Table.generate, hc, bind_eq_ok]
  exact ⟨c, rfl, by rw [hname]; rfl⟩

/-- **Every generated module is closed.** For a database and settings with plain names, generation
succeeds, and the text of each module is lexically closed and properly nested. -/
theorem Database.isClosed_generate {ctx : Context} (hs : ctx.settings.IsPlain) {d : Database}
    (hd : d.IsPlain) :
    ∃ texts, d.generate ctx = .ok texts ∧ ∀ e ∈ texts.entries, IsClosed e.2 := by
  obtain ⟨modules, hmodules, hclosed⟩ := exists_mapM_ok fun t ht =>
    Table.exists_generate hs hd.relations (hd.tables t ht)
  refine ⟨OrderedMap.ofList (modules.map fun m => (m.table, m.text)), ?_, fun e he => ?_⟩
  · rw [Database.generate, Database.modules, hmodules]
    rfl
  · obtain ⟨m, hm, rfl⟩ := List.mem_map.mp (OrderedMap.mem_of_mem_ofList he)
    exact hclosed m hm

/-- A table of users with an enum and a comment that would end a literal if it were not escaped. -/
def users : Table := {
  name := ⟨none, "users"⟩
  fields := [
    { name := "id", sqlType := "int", primaryKey := true },
    { name := "role", sqlType := "enum('admin','guest')", defaultValue := some (.text "((guest))"),
      comment := some "one of \"admin\" // or 'guest' (" }] }

theorem isPlain_users : users.IsPlain where
  name := .fixed rfl
  schema := by simp [users]
  fields := by
    have hint : TypeFamily.isEnum (lowercase "int") = false := by decide
    have hlabels : ∀ l ∈ ["admin", "guest"], IsWord l := by
      simp only [List.forall_mem_cons, List.not_mem_nil, false_implies, implies_true, and_true]
      exact ⟨.fixed rfl, .fixed rfl⟩
    have hguest : IsBracketedWord "((guest))" := ⟨2, "guest", .fixed rfl, by decide⟩
    simp only [users, List.forall_mem_cons, List.not_mem_nil, false_implies, implies_true, and_true]
    refine ⟨?_, ?_⟩
    · exact {
        name := .fixed rfl
        type := {
          sqlType := fun henum => by rw [Column.type, hint] at henum; cases henum
          elementType := by simp [Column.type]
          elementEnum := by simp [Column.type]
          labels := by simp [Column.type] }
        defaultValue := by simp
        unique := by simp
        extras := fun e he => by cases he }
    · exact {
        name := .fixed rfl
        type := {
          sqlType := fun _ => ⟨"enum", rfl, .inr ⟨["admin", "guest"], by simp, hlabels, by decide⟩⟩
          elementType := by simp [Column.type]
          elementEnum := by simp [Column.type]
          labels := by simp [Column.type] }
        defaultValue := by
          intro s hs
          cases hs
          exact hguest
        unique := by simp
        extras := fun e he => by cases he }
  keys := fun e he => by cases he
  indexes := by simp [users]

/-- Users who write posts, each post by one user. -/
def userPosts : Database := {
  tables := [users]
  relations := [{
    parent := { table := "users", model := "users", property := "author", key := "author_id" }
    child := { table := "posts", model := "posts", property := "posts", key := "author_id" } }] }

theorem Database.isClosed_generate_userPosts :
    ∃ texts, userPosts.generate ⟨{ language := .ts }, .postgres⟩ = .ok texts ∧
      ∀ e ∈ texts.entries, IsClosed e.2 := by
  have hdotted : ∀ {s}, IsWord s → IsDottedWord s := fun h c hc => by rw [h c hc]; rfl
  refine Database.isClosed_generate ?_ ?_
  · exact {
      optionKey := fun e he => by cases he
      optionText := fun k t he => by cases he }
  · refine ⟨List.forall_mem_singleton.mpr isPlain_users, List.forall_mem_singleton.mpr ⟨?_, ?_⟩⟩
    · exact ⟨hdotted (.fixed rfl), .fixed rfl, .fixed rfl, .fixed rfl⟩
    · exact ⟨hdotted (.fixed rfl), .fixed rfl, .fixed rfl, .fixed rfl⟩

end SchemaModels
