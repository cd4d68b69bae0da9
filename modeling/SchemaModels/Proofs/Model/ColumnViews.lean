import SchemaModels.Proofs.Model.Failures
import SchemaModels.Proofs.Model.ManagedColumns
import SchemaModels.Proofs.Model.ModuleExports

/-!
# Three views of the columns

A typed module has the columns of its table three times: as blocks of the definition, as members of
the interface, and as members of the class. The views are made in different places, the blocks
without the columns that the ORM looks after, the members with them. `Table.viewsAgree` says what
each view has, down to its text, and which columns have a member but no block: just those that the
ORM looks after.

There are members wherever there is a typed section. No column stands in its way: it comes about
unless files are named in the singular and it imports from one whose name has none.
-/

namespace SchemaModels

open Naming Text

/-- The columns with a block of their own. -/
def Table.shownColumns (s : Settings) (t : Table) : List Column :=
  t.columns.filter fun c => !s.isOmitted c.name

/-- The columns with a member in the interface and in the class. -/
def Table.declaredColumns (s : Settings) (t : Table) : List Column :=
  t.columns.filter fun c => !s.isSkipped c.name

/-- The block of a column, headed by its property. -/
def Column.block (ctx : Context) (t : Table) (c : Column) : String :=
  ctx.indent 2 ++ propertyKey (ctx.settings.propertyName c.name) ++ ": \x7b\n"
    ++ String.intercalate ",\n" ((Attribute.ofColumn ctx t c).map (·.render ctx)) ++ "\n"
    ++ ctx.indent 2 ++ "\x7d"

/-- The line that declares a column. A column that may be null has a question mark, any other one
the given mark. -/
def Column.memberLine (ctx : Context) (mark : String) (c : Column) : String :=
  ctx.indent 1 ++ propertyKey (ctx.settings.propertyName c.name)
    ++ (if c.nullable then "?" else mark) ++ ": " ++ c.type.memberType.render ++ ";"

/-- The views of the columns that the definition of a table and its typed section give. -/
structure Table.ViewsAgree (ctx : Context) (t : Table) : Prop where
  /-- The definition begins with the blocks, one for each column shown. -/
  blocks : (t.definition ctx).render ctx =
    (if t.shownColumns ctx.settings = [] then ""
      else String.intercalate ",\n" ((t.shownColumns ctx.settings).map (·.block ctx t)) ++ "\n")
    ++ ctx.indent 1 ++ "\x7d, \x7b\n" ++ (t.definition ctx).renderOptions ctx ++ "\n"
    ++ ctx.indent 1 ++ "\x7d"
  /-- The section comes about unless it stumbles over the name of a file that it imports from. -/
  sections : ∀ mixins : Mixins, (∃ s, TypedSection.of ctx.settings t mixins = .ok s) ↔
    ∀ table ∈ mixins.needed.map (·.1), ctx.settings.singularize = true →
      ¬ Stumbles singularEndings (TableName.split table).2
  /-- The interface and the class have the same columns, and only the marks differ, whatever the
  associations of the table are. -/
  members : ∀ mixins s, TypedSection.of ctx.settings t mixins = .ok s → s.render ctx =
    unlines (s.imports.map (·.render)) ++ "\nexport interface " ++ modelToken ++ "Attributes \x7b\n"
    ++ unlines ((t.declaredColumns ctx.settings).map (·.memberLine ctx "")) ++ "\x7d\n\n"
    ++ unlines (s.keyLines ++ s.creationLines) ++ TypedSection.classLine ++ "\n"
    ++ unlines ((t.declaredColumns ctx.settings).map (·.memberLine ctx "!")) ++ "\n"
    ++ s.associations ++ unlines (TypedSection.openingLines ctx)
  /-- What is shown is declared, in the same order. -/
  shown : (t.shownColumns ctx.settings).Sublist (t.declaredColumns ctx.settings)
  /-- What is declared without being shown is looked after by the ORM. -/
  managed : ∀ c ∈ t.declaredColumns ctx.settings, c ∉ t.shownColumns ctx.settings ↔
    ctx.settings.isTimestamp c.name = true ∨ ctx.settings.isSoftDelete c.name = true

/-- The member that holds a column is written as the line that declares it. -/
theorem Member.render_ofColumn (ctx : Context) (mark : String) (c : Column) :
    (Member.ofColumn ctx.settings c).render ctx mark = c.memberLine ctx mark := by
  unfold Member.render Member.ofColumn Column.memberLine
  dsimp only

/-- The members of a typed section hold the columns declared. -/
theorem TypedSection.members_of {s : Settings} {t : Table} {mixins : Mixins} {x : TypedSection}
    (h : TypedSection.of s t mixins = .ok x) :
    x.members = (t.declaredColumns s).map (Member.ofColumn s) := by
  obtain ⟨imports, -, hx⟩ := bind_eq_ok.mp h
  cases hx
  rfl

namespace Table

variable {ctx : Context} {t : Table}

/-- The blocks of a table are those of the columns shown. -/
theorem attributeBlocks_eq (ctx : Context) (t : Table) :
    t.attributeBlocks ctx = (t.shownColumns ctx.settings).map fun c =>
      ⟨c.name, ctx.settings.propertyName c.name, Attribute.ofColumn ctx t c⟩ := by
  unfold attributeBlocks shownColumns
  induction t.columns with
  | nil => rfl
  | cons c cs ih =>
    cases homitted : ctx.settings.isOmitted c.name with
    | true => simp [AttributeBlock.ofColumn?, homitted, ih]
    | false =>
      simp only [List.filterMap_cons, AttributeBlock.ofColumn?, homitted, List.filter_cons,
        Bool.not_false, if_true, List.map_cons]
      exact congrArg _ ih

theorem map_render_attributeBlocks (ctx : Context) (t : Table) :
    (t.attributeBlocks ctx).map (·.render ctx)
      = (t.shownColumns ctx.settings).map (·.block ctx t) := by
  rw [attributeBlocks_eq, List.map_map]
  rfl

/-- There is no block just if there is no column to show. -/
theorem isEmpty_attributeBlocks (ctx : Context) (t : Table) :
    (t.attributeBlocks ctx).isEmpty = true ↔ t.shownColumns ctx.settings = [] := by
  rw [List.isEmpty_iff, ← List.map_eq_nil_iff (f := (·.render ctx)), map_render_attributeBlocks,
    List.map_eq_nil_iff]

/-- The members of a table are lines for the columns declared. -/
theorem map_render_membersOf (ctx : Context) (t : Table) (mark : String) :
    (TypedSection.membersOf ctx.settings t).map (·.render ctx mark)
      = (t.declaredColumns ctx.settings).map (·.memberLine ctx mark) := by
  rw [TypedSection.membersOf, List.map_map]
  exact List.map_congr_left fun c _ => Member.render_ofColumn ctx mark c

theorem mem_shownColumns {s : Settings} {c : Column} :
    c ∈ t.shownColumns s ↔ c ∈ t.columns ∧ s.isManaged c.name = false ∧
      s.isSkipped c.name = false := by
  rw [shownColumns, List.mem_filter, Settings.isOmitted, Bool.not_eq_true', Bool.or_eq_false_iff]

theorem mem_declaredColumns {s : Settings} {c : Column} :
    c ∈ t.declaredColumns s ↔ c ∈ t.columns ∧ s.isSkipped c.name = false := by
  rw [declaredColumns, List.mem_filter, Bool.not_eq_true']

theorem shownColumns_sublist (s : Settings) (t : Table) :
    (t.shownColumns s).Sublist (t.declaredColumns s) := by
  have hshown : t.shownColumns s = (t.declaredColumns s).filter fun c => !s.isManaged c.name := by
    rw [shownColumns, declaredColumns, List.filter_filter]
    refine List.filter_congr fun c _ => ?_
    rw [Settings.isOmitted, Bool.not_or]
  rw [hshown]
  exact List.filter_sublist

/-- **The three views of the columns agree**: there is a block for each column that is not left out,
the interface and the class have the same members, and a member without a block stands for a
column that the ORM looks after. -/
theorem viewsAgree (ctx : Context) (t : Table) : t.ViewsAgree ctx where
  blocks := by
    have hblocks : (t.definition ctx).renderBlocks ctx =
        if t.shownColumns ctx.settings = [] then ""
        else String.intercalate ",\n" ((t.shownColumns ctx.settings).map (·.block ctx t))
          ++ "\n" := by
      rw [← map_render_attributeBlocks]
      by_cases hnone : t.shownColumns ctx.settings = []
      · rw [if_pos hnone]
        exact if_pos ((isEmpty_attributeBlocks ctx t).mpr hnone)
      · rw [if_neg hnone]
        exact if_neg (mt (isEmpty_attributeBlocks ctx t).mp hnone)
    rw [Definition.render, hblocks]
  sections := by
    intro mixins
    refine TypedSection.succeeds_of_iff.trans ?_
    simp only [succeeds_singularize_iff]
  members := by
    intro mixins s h
    have hmembers : s.members = TypedSection.membersOf ctx.settings t := TypedSection.members_of h
    have hline : ∀ line : String, unlines [line] = line ++ "\n" := fun _ => rfl
    rw [TypedSection.render, TypedSection.interfaceLines, hmembers, map_render_membersOf,
      map_render_membersOf]
    simp only [unlines_append, unlines_cons, hline, String.append_assoc]
    rfl
  shown := shownColumns_sublist ctx.settings t
  managed := by
    intro c hc
    rw [mem_declaredColumns] at hc
    rw [mem_shownColumns, ← Settings.isManaged_eq_true]
    simp [hc]

/-- Replies to posts, or to none. -/
def replies : Table := {
  name := { schema := none, name := "replies" }
  fields := [
    { name := "id", sqlType := "int" }, { name := "post-id", sqlType := "int", nullable := true },
    { name := "created_at", sqlType := "timestamp" }] }

/-- What replies need from the posts. -/
def replyNeeds : Mixins := { text := "", needed := [("blog.posts", ["posts", "postsId"])] }

/-- The settings for typed modules, in files that are named in the singular. -/
def singularTypes : Settings := { language := .ts, singularize := true }

/-- The replies have a section, although it imports from a file that is named in the singular. It
declares all three columns twice, and only the last of them has no block. -/
theorem viewsAgree_replies :
    (∃ s, TypedSection.of singularTypes replies replyNeeds = .ok s ∧
      s.render ⟨singularTypes, .mysql⟩ =
        "import type \x7b posts, postsId \x7d from './post';\n"
        ++ "\nexport interface " ++ modelToken ++ "Attributes \x7b\n"
        ++ "  id: number;\n  'post-id'?: number;\n  created_at: Date;\n" ++ "\x7d\n\n"
        ++ unlines (s.keyLines ++ s.creationLines) ++ TypedSection.classLine ++ "\n"
        ++ "  id!: number;\n  'post-id'?: number;\n  created_at!: Date;\n" ++ "\n"
        ++ s.associations ++ unlines (TypedSection.openingLines ⟨singularTypes, .mysql⟩)) ∧
    (replies.shownColumns singularTypes).map (·.name) = ["id", "post-id"] ∧
    ∃ c ∈ replies.declaredColumns singularTypes, c ∉ replies.shownColumns singularTypes := by
  have hagree : replies.ViewsAgree ⟨singularTypes, .mysql⟩ := viewsAgree _ replies
  obtain ⟨s, hs⟩ := (hagree.sections replyNeeds).mpr <| by
    rintro table htable -
    cases List.mem_singleton.mp htable
    exact not_stumbles_of_ascii _ (List.all_eq_true.mp (by decide))
  refine ⟨⟨s, hs, ?_⟩, by decide, ?_⟩
  · have himports : unlines (s.imports.map (·.render))
        = "import type \x7b posts, postsId \x7d from './post';\n" := by
      have htext : (TypedSection.of singularTypes replies replyNeeds).map
          (fun s => unlines (s.imports.map (·.render)))
          = .ok "import type \x7b posts, postsId \x7d from './post';\n" := by decide +kernel
      rw [hs] at htext
      exact Except.ok.inj htext
    have hinterface : unlines ((replies.declaredColumns singularTypes).map
        (·.memberLine ⟨singularTypes, .mysql⟩ ""))
        = "  id: number;\n  'post-id'?: number;\n  created_at: Date;\n" := by decide
    have hclass : unlines ((replies.declaredColumns singularTypes).map
        (·.memberLine ⟨singularTypes, .mysql⟩ "!"))
        = "  id!: number;\n  'post-id'?: number;\n  created_at!: Date;\n" := by decide
    rw [hagree.members replyNeeds s hs, himports, hinterface, hclass]
  · have hdeclared : ({ name := "created_at", sqlType := "timestamp" } : Column)
        ∈ replies.declaredColumns singularTypes := .tail _ (.tail _ (.head _))
    exact ⟨_, hdeclared, (hagree.managed _ hdeclared).mpr (.inl (by decide))⟩

end Table
end SchemaModels
