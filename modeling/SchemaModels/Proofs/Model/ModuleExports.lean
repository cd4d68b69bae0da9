import SchemaModels.Model.Module
import SchemaModels.Proofs.Text.Search
import SchemaModels.Proofs.Traversal

/-!
# What a typed module exports

The exports of a typed module are read off the lines of its typed section. A line exports a name if
it begins so (`ExportsName`). The lines that do were all written with the token for the name of
the model, followed by one of a few endings, and the spaces around these keep their places when
the name takes the place of the token. So a name that is the name of the model and an ending is
exported just if the section has a line with this ending (`ModuleContent.exports_iff`). The type of
the primary key is there just if the table has a primary key
(`TypedSection.id_mem_exportEndings`).
-/

namespace SchemaModels

open Text

/-! ## Lines that export a name -/

/-- What a module can export. -/
def exportKinds : List String := ["class", "interface", "type"]

/-- The line begins the export of a name. -/
def ExportsName (line name : String) : Prop :=
  ∃ kind ∈ exportKinds, beginsWith ("export " ++ kind ++ " " ++ name ++ " ") line = true

/-- A line that exports the name of the model followed by an ending. -/
def exportLine (kind ending rest : String) : String :=
  "export " ++ kind ++ " " ++ modelToken ++ ending ++ " " ++ rest

/-- A part without spaces and without the character that the token begins with. -/
def IsSolid (s : String) : Prop :=
  ' ' ∉ s.toList ∧ '#' ∉ s.toList

theorem isSolid_of_mem_exportKinds : ∀ kind ∈ exportKinds, IsSolid kind := by
  simp only [IsSolid]
  decide

/-- Two texts begin alike up to a character that both go without before. -/
theorem append_cons_isPrefix_iff {c : Char} {x y : List Char} : ∀ {a b : List Char}, c ∉ a → c ∉ b →
    (a ++ c :: x <+: b ++ c :: y ↔ a = b ∧ x <+: y) := by
  intro a
  induction a with
  | nil =>
    intro b _ hb
    cases b with
    | nil => simp
    | cons d b =>
      have hne : ¬ c = d := fun h => hb (List.mem_cons.mpr (.inl h))
      simp [hne]
  | cons d a ih =>
    intro b ha hb
    rw [List.mem_cons, not_or] at ha
    cases b with
    | nil => simp [Ne.symm ha.1]
    | cons e b =>
      rw [List.mem_cons, not_or] at hb
      rw [List.cons_append, List.cons_append, List.cons_prefix_cons, ih ha.2 hb.2, List.cons.injEq,
        and_assoc]

/-- The name of the model takes the place of the token, and the words around it stay. -/
theorem toList_replace_exportLine {kind ending : String} (hkind : IsSolid kind)
    (hending : IsSolid ending) (rest model : String) :
    (replace modelToken model (exportLine kind ending rest)).toList =
      "export".toList ++ ' ' :: (kind.toList ++ ' ' :: (model.toList ++ ending.toList ++ ' ' ::
        replaceFrom modelToken.toList model.toList 0 rest.toList)) := by
  have htoken : '#' ∈ modelToken.toList := by decide
  have hne : modelToken.toList ≠ [] := by decide
  have hspace : ' ' ∉ modelToken.toList := by decide
  have hline : (exportLine kind ending rest).toList = "export".toList ++ ' ' :: (kind.toList ++
      ' ' :: (modelToken.toList ++ ending.toList ++ ' ' :: rest.toList)) := by
    simp [exportLine]
  rw [replace, String.toList_ofList, hline, replaceFrom_append_cons hne hspace,
    replaceFrom_append_cons hne hspace, replaceFrom_append_cons hne hspace,
    replaceFrom_append_of_ne_nil hne, replaceFrom_eq_self htoken (by decide),
    replaceFrom_eq_self htoken hkind.2, replaceFrom_eq_self htoken hending.2]

/-- A line exports the name of the model with its own ending only. -/
theorem exportsName_exportLine_iff {kind ending other : String} (hkind : kind ∈ exportKinds)
    (hending : IsSolid ending) (hother : IsSolid other) (rest model : String) :
    ExportsName (replace modelToken model (exportLine kind ending rest)) (model ++ other) ↔
      other = ending := by
  have hsolid := isSolid_of_mem_exportKinds
  -- spaces end the kind and the name, so a match at the front is one word by word
  have hbegins : ∀ k ∈ exportKinds, (beginsWith ("export " ++ k ++ " " ++ (model ++ other) ++ " ")
      (replace modelToken model (exportLine kind ending rest)) = true ↔
      k = kind ∧ other = ending) := by
    intro k hk
    have hstart : ("export " ++ k ++ " " ++ (model ++ other) ++ " ").toList = "export".toList ++
        ' ' :: (k.toList ++ ' ' :: (model.toList ++ other.toList ++ [' '])) := by
      simp
    rw [beginsWith, List.isPrefixOf_iff_prefix, hstart,
      toList_replace_exportLine (hsolid kind hkind) hending,
      append_cons_isPrefix_iff (by decide) (by decide),
      append_cons_isPrefix_iff (hsolid k hk).1 (hsolid kind hkind).1, List.append_assoc,
      List.append_assoc, List.prefix_append_right_inj,
      append_cons_isPrefix_iff hother.1 hending.1]
    simp [String.toList_inj]
  constructor
  · rintro ⟨k, hk, h⟩
    exact ((hbegins k hk).mp h).2
  · intro h
    exact ⟨kind, hkind, (hbegins kind hkind).mpr ⟨rfl, h⟩⟩

/-- The line begins with a character that neither an export nor the token begins with. -/
def IsPrivate (line : String) : Prop :=
  ∀ c ∈ line.toList.head?, c ≠ 'e' ∧ c ≠ '#'

/-- A private line exports nothing, whatever the name of the model. -/
theorem not_exportsName_of_isPrivate {line : String} (h : IsPrivate line) (model name : String) :
    ¬ ExportsName (replace modelToken model line) name := by
  rintro ⟨kind, -, hkind⟩
  have hpre : ("export ".toList ++ (kind ++ " " ++ name ++ " ").toList) <+:
      replaceFrom modelToken.toList model.toList 0 line.toList := by
    have hlists := List.isPrefixOf_iff_prefix.mp hkind
    rw [replace, String.toList_ofList] at hlists
    simpa using hlists
  unfold IsPrivate at h
  cases hline : line.toList with
  | nil =>
    rw [hline] at hpre
    exact absurd (List.prefix_nil.mp hpre) (by simp)
  | cons c cs =>
    rw [hline] at h hpre
    obtain ⟨he, htoken⟩ := h c rfl
    -- the first character stays, since no token begins there
    have hno : ¬ modelToken.toList <+: c :: cs := fun hmodel =>
      htoken (List.cons_prefix_cons.mp hmodel).1.symm
    rw [replaceFrom_cons_of_not_isPrefix hno] at hpre
    exact he (List.cons_prefix_cons.mp hpre).1.symm

/-- Some of the lines export the name of the model with one of the endings each, with no ending
left out, and the others are private. -/
structure ExportEndings (endings lines : List String) : Prop where
  sound : ∀ line ∈ lines, IsPrivate line ∨ ∃ kind ∈ exportKinds, ∃ ending ∈ endings, ∃ rest,
    line = exportLine kind ending rest
  complete : ∀ ending ∈ endings, ∃ kind ∈ exportKinds, ∃ rest,
    exportLine kind ending rest ∈ lines

namespace ExportEndings

theorem ofPrivate {lines : List String} (h : ∀ line ∈ lines, IsPrivate line) :
    ExportEndings [] lines :=
  ⟨fun line hline => .inl (h line hline), fun _ hending => by cases hending⟩

theorem line {kind : String} (hkind : kind ∈ exportKinds) (ending rest : String) :
    ExportEndings [ending] [exportLine kind ending rest] := by
  constructor
  · intro l hl
    rw [List.mem_singleton] at hl
    exact .inr ⟨kind, hkind, ending, List.mem_singleton.mpr rfl, rest, hl⟩
  · intro e he
    rw [List.mem_singleton] at he
    subst he
    exact ⟨kind, hkind, rest, List.mem_singleton.mpr rfl⟩

theorem append {es fs l m : List String} (hl : ExportEndings es l) (hm : ExportEndings fs m) :
    ExportEndings (es ++ fs) (l ++ m) := by
  constructor
  · intro line hline
    rcases List.mem_append.mp hline with h | h
    · refine (hl.sound line h).imp id fun ⟨kind, hkind, ending, hending, rest⟩ => ?_
      exact ⟨kind, hkind, ending, List.mem_append_left fs hending, rest⟩
    · refine (hm.sound line h).imp id fun ⟨kind, hkind, ending, hending, rest⟩ => ?_
      exact ⟨kind, hkind, ending, List.mem_append_right es hending, rest⟩
  · intro ending hending
    rcases List.mem_append.mp hending with h | h
    · obtain ⟨kind, hkind, rest, hmem⟩ := hl.complete ending h
      exact ⟨kind, hkind, rest, List.mem_append_left m hmem⟩
    · obtain ⟨kind, hkind, rest, hmem⟩ := hm.complete ending h
      exact ⟨kind, hkind, rest, List.mem_append_right l hmem⟩

/-- **The exports of such lines**: a name that begins with the name of the model is exported just
if it goes on with one of the endings. -/
theorem exportsName_iff {endings lines : List String} (h : ExportEndings endings lines)
    (hsolid : ∀ ending ∈ endings, IsSolid ending) {other : String} (hother : IsSolid other)
    (model : String) :
    (∃ line ∈ lines, ExportsName (replace modelToken model line) (model ++ other)) ↔
      other ∈ endings := by
  constructor
  · rintro ⟨line, hline, hexports⟩
    rcases h.sound line hline with hprivate | ⟨kind, hkind, ending, hending, rest, rfl⟩
    · exact absurd hexports (not_exportsName_of_isPrivate hprivate model _)
    · rw [exportsName_exportLine_iff hkind (hsolid ending hending) hother] at hexports
      rwa [hexports]
  · intro hmem
    obtain ⟨kind, hkind, rest, hline⟩ := h.complete other hmem
    exact ⟨_, hline, (exportsName_exportLine_iff hkind hother hother rest model).mpr rfl⟩

end ExportEndings

/-! ## The exports of a typed section -/

namespace TypedSection

/-- The lines of a typed section up to the members of its associations. -/
def lines (ctx : Context) (s : TypedSection) : List String :=
  s.imports.map (·.render) ++ s.interfaceLines ctx ++ s.keyLines ++ s.creationLines
    ++ [classLine] ++ s.members.map (·.render ctx "!") ++ [""]

theorem render_eq (ctx : Context) (s : TypedSection) :
    s.render ctx = unlines (s.lines ctx) ++ s.associations ++ unlines (openingLines ctx) :=
  rfl

/-- What follows the name of the model in the types of the primary key. -/
def keyEndings (s : TypedSection) : List String :=
  if s.primaryKey.isEmpty then [] else ["Pk", "Id"]

/-- What follows the name of the model in the types of a new row. -/
def creationEndings (s : TypedSection) : List String :=
  if s.optional.isEmpty then ["CreationAttributes"]
  else ["OptionalAttributes", "CreationAttributes"]

/-- What follows the name of the model in the names that the section exports. -/
def exportEndings (s : TypedSection) : List String :=
  ["Attributes"] ++ s.keyEndings ++ s.creationEndings ++ [""]

theorem isSolid_of_mem_exportEndings {s : TypedSection} : ∀ ending ∈ s.exportEndings,
    IsSolid ending := by
  unfold exportEndings keyEndings creationEndings IsSolid
  generalize s.primaryKey.isEmpty = noKey, s.optional.isEmpty = noOptional
  revert noKey noOptional
  decide

theorem isPrivate_render_import (i : Import) : IsPrivate i.render := by
  show IsPrivate ("import type \x7b " ++ String.intercalate ", " i.names ++ " \x7d from './"
    ++ i.file ++ "';")
  simp [IsPrivate]

theorem isPrivate_render_member (ctx : Context) (required : String) (m : Member) :
    IsPrivate (m.render ctx required) := by
  -- an indentation is never empty, so the line begins with a blank
  obtain ⟨n, hwidth⟩ : ∃ n, ctx.settings.indent.width = n + 1 := by
    apply Nat.exists_eq_succ_of_ne_zero
    show (if ctx.settings.indentation = 0 then 2 else ctx.settings.indentation) ≠ 0
    split <;> omega
  have hmark : ctx.settings.indent.mark = ' ' ∨ ctx.settings.indent.mark = '\t' := by
    unfold Settings.indent Indent.new
    cases ctx.settings.spaces
    · exact .inr rfl
    · exact .inl rfl
  intro c hc
  simp only [Member.render, Context.indent, Indent.level, hwidth, Nat.mul_one, List.replicate_succ,
    String.toList_append, String.toList_ofList, List.cons_append, List.head?_cons,
    Option.mem_def, Option.some.injEq] at hc
  subst hc
  rcases hmark with h | h <;> rw [h] <;> decide

theorem classLine_eq : classLine = exportLine "class" "" ("extends Model<" ++ modelToken
    ++ "Attributes, " ++ modelToken ++ "CreationAttributes> implements " ++ modelToken
    ++ "Attributes \x7b") :=
  rfl

theorem interfaceLines_eq (ctx : Context) (s : TypedSection) :
    s.interfaceLines ctx = ["", exportLine "interface" "Attributes" "\x7b"]
      ++ s.members.map (·.render ctx "") ++ ["\x7d", ""] :=
  rfl

theorem keyLines_eq (s : TypedSection) : s.keyLines =
    if s.primaryKey.isEmpty then []
    else [exportLine "type" "Pk" ("= " ++ literalUnion s.primaryKey ++ ";"),
      exportLine "type" "Id" ("= " ++ modelToken ++ "[" ++ modelToken ++ "Pk];")] := by
  have hkey : "export type " ++ modelToken ++ "Pk = " ++ literalUnion s.primaryKey ++ ";"
      = exportLine "type" "Pk" ("= " ++ literalUnion s.primaryKey ++ ";") := by
    rw [← String.toList_inj]
    simp [exportLine]
  rw [keyLines, hkey]
  rfl

theorem creationLines_eq (s : TypedSection) : s.creationLines =
    if s.optional.isEmpty then
      [exportLine "type" "CreationAttributes" ("= " ++ modelToken ++ "Attributes;"), ""]
    else [exportLine "type" "OptionalAttributes" ("= " ++ literalUnion s.optional ++ ";"),
      exportLine "type" "CreationAttributes"
        ("= Optional<" ++ modelToken ++ "Attributes, " ++ modelToken ++ "OptionalAttributes>;"),
      ""] := by
  have hoptional : "export type " ++ modelToken ++ "OptionalAttributes = "
      ++ literalUnion s.optional ++ ";"
      = exportLine "type" "OptionalAttributes" ("= " ++ literalUnion s.optional ++ ";") := by
    rw [← String.toList_inj]
    simp [exportLine]
  rw [creationLines, hoptional]
  rfl

theorem exportEndings_lines (ctx : Context) (s : TypedSection) :
    ExportEndings s.exportEndings (s.lines ctx) := by
  have hempty : ExportEndings [] [""] := .ofPrivate (by simp [IsPrivate])
  have himports : ExportEndings [] (s.imports.map (·.render)) := .ofPrivate fun l hl => by
    obtain ⟨i, -, rfl⟩ := List.mem_map.mp hl
    exact isPrivate_render_import i
  have hmembers : ∀ required, ExportEndings [] (s.members.map (·.render ctx required)) :=
    fun required => .ofPrivate fun l hl => by
      obtain ⟨m, -, rfl⟩ := List.mem_map.mp hl
      exact isPrivate_render_member ctx required m
  have hinterface : ExportEndings ["Attributes"] (s.interfaceLines ctx) := by
    have hbrace : ExportEndings [] ["\x7d", ""] := .ofPrivate (by simp [IsPrivate])
    rw [interfaceLines_eq]
    exact ((hempty.append (.line (by decide) _ _)).append (hmembers "")).append hbrace
  have hkeys : ExportEndings s.keyEndings s.keyLines := by
    rw [keyEndings, keyLines_eq]
    split
    · exact .ofPrivate (by simp)
    · exact (ExportEndings.line (by decide) _ _).append (.line (by decide) _ _)
  have hcreation : ExportEndings s.creationEndings s.creationLines := by
    rw [creationEndings, creationLines_eq]
    split
    · exact (ExportEndings.line (by decide) _ _).append hempty
    · exact ((ExportEndings.line (by decide) _ _).append (.line (by decide) _ _)).append hempty
  have hclass : ExportEndings [""] [classLine] := by
    rw [classLine_eq]
    exact .line (by decide) _ _
  have hdeclared := (((himports.append hinterface).append hkeys).append hcreation).append hclass
  have hall := (hdeclared.append (hmembers "!")).append hempty
  simpa [exportEndings, lines] using hall

/-- The class and the type of a new row are there in every section. -/
theorem mem_exportEndings (s : TypedSection) :
    "" ∈ s.exportEndings ∧ "CreationAttributes" ∈ s.exportEndings := by
  unfold exportEndings keyEndings creationEndings
  generalize s.primaryKey.isEmpty = noKey, s.optional.isEmpty = noOptional
  revert noKey noOptional
  decide

/-- The section has types of the primary key just if the table has a primary key. -/
theorem id_mem_exportEndings {settings : Settings} {t : Table} {mixins : Mixins}
    {s : TypedSection} (h : TypedSection.of settings t mixins = .ok s) :
    "Id" ∈ s.exportEndings ↔ t.primaryKeys ≠ [] := by
  obtain ⟨imports, -, hs⟩ := bind_eq_ok.mp h
  cases hs
  simp only [exportEndings, keyEndings, creationEndings, List.isEmpty_map]
  cases t.primaryKeys with
  | nil => simp; split <;> simp
  | cons c cs => simp

end TypedSection

/-! ## The exports of a module -/

/-- The text has the line as a whole. -/
def HasLine (text line : String) : Prop :=
  ∃ before after, text = before ++ "\n" ++ line ++ "\n" ++ after

namespace ModuleContent

/-- The module that the content is written to under the name of its model exports a name: a line
of the typed section does, once the name of the model is put in, and it is a line of the text. -/
def Exports (ctx : Context) (c : ModuleContent) (model name : String) : Prop :=
  ∃ s, c.typed = some s ∧ ∃ line ∈ s.lines ctx,
    HasLine (c.write ctx model).text (replace modelToken model line) ∧
      ExportsName (replace modelToken model line) name

theorem replace_newlines (model before line after : String) :
    replace modelToken model (before ++ "\n" ++ line ++ "\n" ++ after) =
      replace modelToken model before ++ "\n" ++ replace modelToken model line ++ "\n"
        ++ replace modelToken model after := by
  have hne : modelToken.toList ≠ [] := by decide
  have hnewline : '\n' ∉ modelToken.toList := by decide
  have htext : (before ++ "\n" ++ line ++ "\n" ++ after).toList
      = before.toList ++ '\n' :: (line.toList ++ '\n' :: after.toList) := by
    simp
  rw [replace, htext, replaceFrom_append_cons hne hnewline, replaceFrom_append_cons hne hnewline,
    ← String.toList_inj]
  simp [replace]

/-- The lines of the typed section are lines of the text. -/
theorem hasLine_text {ctx : Context} (hts : ctx.settings.language = .ts) {c : ModuleContent}
    {s : TypedSection} (hs : c.typed = some s) {line : String} (hline : line ∈ s.lines ctx)
    (model : String) : HasLine (c.write ctx model).text (replace modelToken model line) := by
  obtain ⟨l, m, hlines⟩ := List.append_of_mem hline
  -- the header ends in a whole line, so there is a line end before any line of the section
  obtain ⟨before, hbefore⟩ : ∃ before, Scaffold.header ctx ++ unlines l = before ++ "\n" := by
    have hheader : Scaffold.header ctx = unlines ["import * as Sequelize from 'sequelize';",
        "import \x7b DataTypes, Model, Optional \x7d from 'sequelize';"] := by
      rw [Scaffold.header, hts]
    rw [hheader, ← unlines_append]
    exact exists_unlines_eq (by simp)
  have hrender : c.renderTyped ctx = s.render ctx := by
    rw [renderTyped, hs]
  have hdraft : c.draft ctx = before ++ "\n" ++ line ++ "\n" ++ (unlines m ++ s.associations
      ++ unlines (TypedSection.openingLines ctx) ++ c.definition.render ctx
      ++ Scaffold.footer ctx) := by
    rw [draft, hrender, TypedSection.render_eq, hlines, unlines_append, unlines_cons, ← hbefore]
    simp only [String.append_assoc]
  have htext := congrArg (replace modelToken model) hdraft
  rw [replace_newlines] at htext
  exact ⟨_, _, htext⟩

/-- **What a typed module exports**: the name of the model with the endings of its section. -/
theorem exports_iff {ctx : Context} (hts : ctx.settings.language = .ts) {c : ModuleContent}
    {s : TypedSection} (hs : c.typed = some s) {other : String} (hother : IsSolid other)
    (model : String) : c.Exports ctx model (model ++ other) ↔ other ∈ s.exportEndings := by
  rw [← (s.exportEndings_lines ctx).exportsName_iff TypedSection.isSolid_of_mem_exportEndings hother
    model]
  constructor
  · rintro ⟨s', hs', line, hline, -, hexports⟩
    rw [hs, Option.some.injEq] at hs'
    subst hs'
    exact ⟨line, hline, hexports⟩
  · rintro ⟨line, hline, hexports⟩
    exact ⟨s, hs, line, hline, hasLine_text hts hs hline model, hexports⟩

end ModuleContent

end SchemaModels
