import SchemaModels.Proofs.Entries
import SchemaModels.Proofs.Model.ModuleContent
import SchemaModels.Proofs.Text.Indentation

/-!
# Layout

Blanks are written at the start of lines only. So two runs whose settings differ in the kind and
width of the indentation write aligned texts: every part of a module is, line by line, the same
behind blanks of its own. Parts that end with a line are aligned before whatever comes next
(`AlignedBefore`). The members of associations are written together with the blanks before them, and
they are the only part of the content of a module that the layout has a share in.

The name of the model is put in last. Its token has no blanks, so the texts are still aligned, and
the runs fail alike or give texts that differ in nothing but the blanks at the start of their lines
(`Database.outline_generate`).
-/

namespace SchemaModels

open Naming Text

/-- The texts are aligned together with any aligned texts after them. -/
def AlignedBefore (s₁ s₂ : String) : Prop :=
  ∀ t₁ t₂ : String, Aligned t₁ t₂ → Aligned (s₁ ++ t₁) (s₂ ++ t₂)

namespace AlignedBefore

variable {s₁ s₂ t₁ t₂ : String}

theorem unlines {l m : List String} (h : List.Forall₂ Aligned l m) :
    AlignedBefore (unlines l) (unlines m) :=
  fun _ _ ht => Aligned.unlines_append h ht

theorem append (hs : AlignedBefore s₁ s₂) (ht : AlignedBefore t₁ t₂) :
    AlignedBefore (s₁ ++ t₁) (s₂ ++ t₂) := by
  intro u₁ u₂ hu
  rw [String.append_assoc, String.append_assoc]
  exact hs _ _ (ht _ _ hu)

theorem empty : AlignedBefore "" "" := by
  intro t₁ t₂ ht
  rwa [String.empty_append, String.empty_append]

theorem join {l m : List String} (h : List.Forall₂ AlignedBefore l m) :
    AlignedBefore (String.join l) (String.join m) := by
  induction h with
  | nil => exact .empty
  | cons hs _ ih => rw [String.join_cons, String.join_cons]; exact hs.append ih

end AlignedBefore

theorem forall₂_map {α : Type} {R : String → String → Prop} {f g : α → String} {l : List α}
    (h : ∀ a ∈ l, R (f a) (g a)) : List.Forall₂ R (l.map f) (l.map g) := by
  rw [List.forall₂_map_left_iff, List.forall₂_map_right_iff, List.forall₂_same]
  exact h

theorem forall₂_refl (l : List String) : List.Forall₂ Aligned l l :=
  List.forall₂_same.mpr fun s _ => .refl s

variable {ctx ctx' : Context}

theorem Context.isBlank_indent (ctx : Context) (n : Nat) : Only isBlank (ctx.indent n).toList := by
  unfold Context.indent Indent.level Settings.indent Indent.new
  refine only_ofList.mpr fun c hc => ?_
  rw [(List.mem_replicate.mp hc).2]
  cases ctx.settings.spaces <;> rfl

/-- A text behind the indentation of two contexts. -/
theorem Context.aligned_indent (ctx ctx' : Context) (n : Nat) (s : String) :
    Aligned (ctx.indent n ++ s) (ctx'.indent n ++ s) :=
  .line (ctx.isBlank_indent n) (ctx'.isBlank_indent n) s

/-! ## The definition -/

theorem Attribute.aligned_render (ctx ctx' : Context) (a : Attribute) :
    Aligned (a.render ctx) (a.render ctx') := by
  have hsame : a.value ctx = a.value ctx' → Aligned (a.render ctx) (a.render ctx') := by
    intro h
    rw [render, render, h]
    exact ((ctx.aligned_indent ctx' 3 a.key).append ": ").append _
  cases a with
  | references table column =>
    have hlines : ∀ ctx : Context, (references table column).render ctx = String.intercalate "\n" [
        ctx.indent 3 ++ "references: \x7b", ctx.indent 4 ++ ("model: '" ++ table ++ "',"),
        ctx.indent 4 ++ ("key: '" ++ column ++ "'"), ctx.indent 3 ++ "\x7d"] := by
      intro ctx
      rw [← String.toList_inj]
      simp [render, key, value]
    have hindent := ctx.aligned_indent ctx'
    rw [hlines, hlines]
    exact .intercalate "" rfl (.cons (hindent 3 _) (.cons (hindent 4 _) (.cons (hindent 4 _)
      (.cons (hindent 3 _) .nil))))
  | unique constraint => cases constraint <;> exact hsame (by simp only [value])
  | _ => exact hsame (by simp only [value])

theorem AttributeBlock.aligned_render (ctx ctx' : Context) (b : AttributeBlock) :
    Aligned (b.render ctx) (b.render ctx') := by
  have hlines : ∀ ctx : Context, b.render ctx = String.intercalate "\n" [
      ctx.indent 2 ++ (propertyKey b.property ++ ": \x7b"),
      String.intercalate ",\n" (b.attributes.map (·.render ctx)), ctx.indent 2 ++ "\x7d"] := by
    intro ctx
    rw [← String.toList_inj]
    simp [render]
  have hattributes : Aligned (String.intercalate ",\n" (b.attributes.map (·.render ctx)))
      (String.intercalate ",\n" (b.attributes.map (·.render ctx'))) :=
    .intercalate "," rfl (forall₂_map fun a _ => a.aligned_render ctx ctx')
  rw [hlines, hlines]
  exact .intercalate "" rfl (.cons (ctx.aligned_indent ctx' 2 _) (.cons hattributes
    (.cons (ctx.aligned_indent ctx' 2 _) .nil)))

theorem Index.aligned_lines (ctx ctx' : Context) (i : Index) :
    List.Forall₂ Aligned (i.lines ctx) (i.lines ctx') := by
  have hindent := ctx.aligned_indent ctx'
  have hone : ∀ n s, List.Forall₂ Aligned [ctx.indent n ++ s] [ctx'.indent n ++ s] :=
    fun n s => .cons (hindent n s) .nil
  have hname : List.Forall₂ Aligned
      (i.name.map fun n => ctx.indent 4 ++ "name: \"" ++ n ++ "\",").toList
      (i.name.map fun n => ctx'.indent 4 ++ "name: \"" ++ n ++ "\",").toList := by
    cases i.name with
    | none => exact .nil
    | some n => exact .cons (((hindent 4 _).append n).append _) .nil
  have hunique : List.Forall₂ Aligned (if i.unique then [ctx.indent 4 ++ "unique: true,"] else [])
      (if i.unique then [ctx'.indent 4 ++ "unique: true,"] else []) := by
    split
    · exact hone 4 _
    · exact .nil
  have hkind : List.Forall₂ Aligned
      (i.kind.map fun k => ctx.indent 4 ++ kindKey k ++ ": \"" ++ k ++ "\",").toList
      (i.kind.map fun k => ctx'.indent 4 ++ kindKey k ++ ": \"" ++ k ++ "\",").toList := by
    cases i.kind with
    | none => exact .nil
    | some k => exact .cons ((((hindent 4 _).append _).append k).append _) .nil
  have hparts : List.Forall₂ Aligned (i.parts.map (·.render ctx)) (i.parts.map (·.render ctx')) :=
    forall₂_map fun _ _ => ((hindent 5 _).append _).append _
  have hend : List.Forall₂ Aligned [ctx.indent 4 ++ "]", ctx.indent 3 ++ "\x7d,"]
      [ctx'.indent 4 ++ "]", ctx'.indent 3 ++ "\x7d,"] :=
    .cons (hindent 4 _) (hone 3 _)
  exact List.rel_append (List.rel_append (List.rel_append (List.rel_append (List.rel_append
    (List.rel_append (hone 3 _) hname) hunique) hkind) (hone 4 _)) hparts) hend

theorem Index.aligned_renderList (ctx ctx' : Context) (list : List Index) :
    Aligned ((renderList? ctx list).getD "") ((renderList? ctx' list).getD "") := by
  have hindent := ctx.aligned_indent ctx'
  have hlines : List.Forall₂ Aligned (list.flatMap (·.lines ctx)) (list.flatMap (·.lines ctx')) :=
    List.rel_flatMap (List.forall₂_same.mpr fun _ _ => rfl)
      fun _ _ h => h ▸ aligned_lines ctx ctx' _
  unfold renderList?
  split
  · exact .refl _
  · exact .intercalate "" rfl (List.rel_append (List.rel_append (.cons (hindent 2 _) .nil) hlines)
      (.cons (hindent 2 _) .nil))

theorem TableOption.aligned_render (ctx ctx' : Context) (x : TableOption) :
    Aligned (x.render ctx) (x.render ctx') := by
  have hindent := ctx.aligned_indent ctx'
  cases x with
  | connection | hasTrigger | paranoid => exact hindent 2 _
  | timestamps on => exact (hindent 2 _).append _
  | tableName name | schema name => exact ((hindent 2 _).append name).append _
  | modelName => exact ((hindent 2 _).append modelToken).append _
  | fixedNames q =>
    have hlines : ∀ ctx : Context, (fixedNames q).render ctx = String.intercalate "\n" [
        ctx.indent 2 ++ "name: \x7b", ctx.indent 3 ++ ("singular: '" ++ q ++ "',"),
        ctx.indent 3 ++ ("plural: '" ++ q ++ "'"), ctx.indent 2 ++ "\x7d"] := by
      intro ctx
      rw [← String.toList_inj]
      simp [render]
    rw [hlines, hlines]
    exact .intercalate "" rfl (.cons (hindent 2 _) (.cons (hindent 3 _) (.cons (hindent 3 _)
      (.cons (hindent 2 _) .nil))))
  | shared k v => exact ((hindent 2 k).append ": ").append _
  | indexes list => exact Index.aligned_renderList ctx ctx' list

theorem Definition.aligned_render (ctx ctx' : Context) (d : Definition) :
    Aligned (d.render ctx) (d.render ctx') := by
  have hindent := ctx.aligned_indent ctx'
  have hblocks : AlignedBefore (d.renderBlocks ctx) (d.renderBlocks ctx') := by
    unfold renderBlocks
    split
    · exact .empty
    · intro t₁ t₂ ht
      have hall : Aligned (String.intercalate ",\n" (d.blocks.map (·.render ctx)))
          (String.intercalate ",\n" (d.blocks.map (·.render ctx'))) :=
        .intercalate "," rfl (forall₂_map fun b _ => b.aligned_render ctx ctx')
      simpa only [String.append_assoc] using hall.next ht
  have hoptions : Aligned (d.renderOptions ctx) (d.renderOptions ctx') :=
    .intercalate "," rfl (forall₂_map fun x _ => x.aligned_render ctx ctx')
  have hlines : ∀ ctx : Context, d.render ctx = d.renderBlocks ctx ++ String.intercalate "\n" [
      ctx.indent 1 ++ "\x7d, \x7b", d.renderOptions ctx, ctx.indent 1 ++ "\x7d"] := by
    intro ctx
    rw [← String.toList_inj]
    simp [render]
  rw [hlines, hlines]
  exact hblocks _ _ (.intercalate "" rfl (.cons (hindent 1 _) (.cons hoptions
    (.cons (hindent 1 _) .nil))))

/-! ## Associations -/

/-- The blanks before the members of an association do not decide whether it can be written. -/
theorem Association.corresponds_render {b₁ b₂ : String} (h₁ : Only isBlank b₁.toList)
    (h₂ : Only isBlank b₂.toList) (a : Association) :
    Corresponds AlignedBefore (a.render b₁) (a.render b₂) := by
  unfold render
  refine (Corresponds.of_same a.declarations).bind fun ds _ heq => ?_
  subst heq
  exact .ok (.unlines (forall₂_map fun _ _ => .line h₁ h₂ _))

/-- The mixins need the same types, and their texts are aligned. -/
structure Mixins.AlignedWith (m m' : Mixins) : Prop where
  needed : m.needed = m'.needed
  text : AlignedBefore m.text m'.text

theorem Mixins.corresponds_of {b₁ b₂ : String} (h₁ : Only isBlank b₁.toList)
    (h₂ : Only isBlank b₂.toList) (relations : List Relation) (table : String) :
    Corresponds Mixins.AlignedWith
      (Mixins.of relations b₁ table) (Mixins.of relations b₂ table) := by
  unfold Mixins.of
  refine (Corresponds.mapM fun a _ => a.corresponds_render h₁ h₂).bind fun texts texts' h => ?_
  exact .ok ⟨rfl, .join h⟩

/-! ## The typed section -/

/-- The typed sections have the same content but for the lines of the associations, which are
aligned. -/
structure TypedSection.AlignedWith (s s' : TypedSection) : Prop where
  imports : s.imports = s'.imports
  members : s.members = s'.members
  primaryKey : s.primaryKey = s'.primaryKey
  optional : s.optional = s'.optional
  associations : AlignedBefore s.associations s'.associations

namespace TypedSection

theorem corresponds_of (s : Settings) (t : Table) {m m' : Mixins} (h : m.AlignedWith m') :
    Corresponds AlignedWith (TypedSection.of s t m) (TypedSection.of s t m') := by
  unfold TypedSection.of
  rw [h.needed]
  refine (Corresponds.of_same (m'.needed.mapM (importOf s))).bind fun imports _ heq => ?_
  exact .ok ⟨heq, rfl, rfl, rfl, h.text⟩

theorem aligned_members (ctx ctx' : Context) (required : String) (members : List Member) :
    List.Forall₂ Aligned (members.map (·.render ctx required))
      (members.map (·.render ctx' required)) :=
  forall₂_map fun _ _ =>
    (((((ctx.aligned_indent ctx' 1 _).append _).append ": ").append _).append ";")

theorem aligned_openingLines (h : ctx.settings.useDefine = ctx'.settings.useDefine) :
    List.Forall₂ Aligned (openingLines ctx) (openingLines ctx') := by
  have hindent := ctx.aligned_indent ctx'
  unfold openingLines
  rw [h]
  refine .cons (.refl _) (.cons ?_ (.cons ?_ .nil))
  · exact ((hindent 1 _).append modelToken).append _
  · split
    · exact ((hindent 2 _).append modelToken).append _
    · exact ((hindent 2 _).append modelToken).append _

theorem alignedBefore_render {s s' : TypedSection} (hs : s.AlignedWith s')
    (h : ctx.settings.useDefine = ctx'.settings.useDefine) :
    AlignedBefore (s.render ctx) (s'.render ctx') := by
  obtain ⟨himports, hmembers, hkey, hoptional, hassociations⟩ := hs
  have hsame : ∀ {l m : List String}, l = m → List.Forall₂ Aligned l m :=
    fun h => h ▸ forall₂_refl _
  have hkeyLines : s.keyLines = s'.keyLines := by rw [keyLines, keyLines, hkey]
  have hcreationLines : s.creationLines = s'.creationLines := by
    rw [creationLines, creationLines, hoptional]
  have hinterface : List.Forall₂ Aligned (s.interfaceLines ctx) (s'.interfaceLines ctx') := by
    rw [interfaceLines, interfaceLines, hmembers]
    exact List.rel_append (List.rel_append (hsame rfl) (aligned_members ctx ctx' "" _)) (hsame rfl)
  unfold render
  refine ((AlignedBefore.unlines ?_).append hassociations).append
    (.unlines (aligned_openingLines h))
  rw [himports, hmembers]
  exact List.rel_append (List.rel_append (List.rel_append (List.rel_append (List.rel_append
    (List.rel_append (hsame rfl) hinterface) (hsame hkeyLines)) (hsame hcreationLines))
    (hsame rfl)) (aligned_members ctx ctx' "!" _)) (hsame rfl)

end TypedSection

/-! ## Modules -/

namespace Scaffold

theorem alignedBefore_header (hlanguage : ctx.settings.language = ctx'.settings.language)
    (h : ctx.settings.useDefine = ctx'.settings.useDefine) :
    AlignedBefore (header ctx) (header ctx') := by
  have hindent := ctx.aligned_indent ctx'
  have hsame := forall₂_refl
  have hopener : Aligned (opener ctx) (opener ctx') := by
    unfold opener
    rw [h]
    split
    · exact ((hindent 1 _).append modelToken).append _
    · exact hindent 1 _
  unfold header
  rw [hlanguage]
  split
  all_goals refine .unlines ?_
  · exact .cons (.refl _) (.cons (.refl _)
      (.cons (((hindent 1 _).append modelToken).append _) .nil))
  · exact .cons (.refl _) (.cons (.refl _) (.cons (((hindent 1 _).append modelToken).append _)
      (.cons (.refl _) (.cons (.refl _) (.cons (.refl _)
        (.cons (hindent 1 _) (.cons hopener .nil)))))))
  · exact .cons (.refl _) (.cons (.refl _) (.cons (.refl _) (.cons (.refl _)
      (.cons (hindent 1 _) (.cons hopener .nil)))))
  · exact hsame _

/-- The footer may follow any aligned texts. -/
theorem aligned_append_footer (ctx ctx' : Context)
    (hlanguage : ctx.settings.language = ctx'.settings.language)
    (h : ctx.settings.useDefine = ctx'.settings.useDefine) {s₁ s₂ : String} (hs : Aligned s₁ s₂) :
    Aligned (s₁ ++ footer ctx) (s₂ ++ footer ctx') := by
  have hcloser : closer ctx = closer ctx' := by rw [closer, closer, hlanguage, h]
  unfold footer
  rw [hlanguage]
  split
  · exact hs.append _
  · rw [hcloser]
    have hrest : Aligned (unlines [ctx.indent 1 ++ "\x7d", "\x7d"])
        (unlines [ctx'.indent 1 ++ "\x7d", "\x7d"]) :=
      .unlines (.cons (ctx.aligned_indent ctx' 1 _) (.cons (.refl _) .nil))
    simpa only [unlines_cons, String.append_assoc] using (hs.append (closer ctx')).next hrest

end Scaffold

/-- The contents have the same definition, and typed sections that are the same but for the lines of
the associations. -/
structure ModuleContent.AlignedWith (c c' : ModuleContent) : Prop where
  table : c.table = c'.table
  typed : Option.Rel TypedSection.AlignedWith c.typed c'.typed
  definition : c.definition = c'.definition

/-- The settings with another kind and width of the indentation. -/
def Settings.withLayout (s : Settings) (spaces : Bool) (width : Nat) : Settings :=
  { s with spaces := spaces, indentation := width }

section
variable (s : Settings) (spaces : Bool) (width : Nat) (e : Dialect)

theorem Table.corresponds_typedSection (relations : List Relation) (t : Table) :
    Corresponds TypedSection.AlignedWith (t.typedSection ⟨s.withLayout spaces width, e⟩ relations)
      (t.typedSection ⟨s, e⟩ relations) := by
  have hmixins := Mixins.corresponds_of
    (Context.isBlank_indent ⟨s.withLayout spaces width, e⟩ 1) (Context.isBlank_indent ⟨s, e⟩ 1)
    relations t.name.qualified
  exact hmixins.bind fun m m' h => TypedSection.corresponds_of s t h

theorem ModuleContent.corresponds_of (relations : List Relation) (t : Table) :
    Corresponds ModuleContent.AlignedWith
      (ModuleContent.of ⟨s.withLayout spaces width, e⟩ relations t)
      (ModuleContent.of ⟨s, e⟩ relations t) := by
  have hdefinition :
      t.definition ⟨s.withLayout spaces width, e⟩ = t.definition ⟨s, e⟩ := rfl
  have htyped : Corresponds (Option.Rel TypedSection.AlignedWith)
      (if s.language.isTyped then
        (t.typedSection ⟨s.withLayout spaces width, e⟩ relations).map some else .ok none)
      (if s.language.isTyped then (t.typedSection ⟨s, e⟩ relations).map some else .ok none) := by
    split
    · exact (Table.corresponds_typedSection s spaces width e relations t).bind fun _ _ h =>
        .ok (.some h)
    · exact .ok .none
  have hof : ∀ ctx, ModuleContent.of ctx relations t =
      (if ctx.settings.language.isTyped then (t.typedSection ctx relations).map some
        else .ok none) >>= fun typed => .ok ⟨t.name.qualified, typed, t.definition ctx⟩ := by
    intro ctx
    unfold ModuleContent.of
    split <;> rfl
  rw [hof, hof]
  exact htyped.bind fun typed typed' h => .ok ⟨rfl, h, hdefinition⟩

/-- The drafts of a module are aligned. -/
theorem ModuleContent.AlignedWith.aligned_draft {c c' : ModuleContent} (h : c.AlignedWith c') :
    Aligned (c.draft ⟨s.withLayout spaces width, e⟩) (c'.draft ⟨s, e⟩) := by
  have htyped : AlignedBefore (c.renderTyped ⟨s.withLayout spaces width, e⟩)
      (c'.renderTyped ⟨s, e⟩) := by
    have hrel := h.typed
    unfold renderTyped
    generalize c.typed = typed at hrel ⊢
    generalize c'.typed = typed' at hrel ⊢
    cases hrel with
    | none => exact .empty
    | some h => exact TypedSection.alignedBefore_render h rfl
  have hheader : AlignedBefore (Scaffold.header ⟨s.withLayout spaces width, e⟩)
      (Scaffold.header ⟨s, e⟩) := Scaffold.alignedBefore_header rfl rfl
  have hbody := hheader.append htyped _ _
    (Definition.aligned_render ⟨s.withLayout spaces width, e⟩ ⟨s, e⟩ c'.definition)
  unfold draft
  rw [h.definition]
  exact Scaffold.aligned_append_footer ⟨s.withLayout spaces width, e⟩ ⟨s, e⟩ rfl rfl hbody

theorem Table.corresponds_generate (relations : List Relation) (t : Table) :
    Corresponds (fun m m' => m.table = m'.table ∧ Aligned m.text m'.text)
      (t.generate ⟨s.withLayout spaces width, e⟩ relations) (t.generate ⟨s, e⟩ relations) := by
  refine (ModuleContent.corresponds_of s spaces width e relations t).bind fun c c' h => ?_
  refine (Corresponds.of_same (s.modelName t)).bind fun model _ heq => ?_
  subst heq
  -- the token for the name of the model has no blanks
  exact .ok ⟨h.table, (h.aligned_draft s spaces width e).replace rfl rfl (by decide) model⟩

end

/-- The texts without the layout: under each key the lines without the blanks in front. -/
def outline (texts : OrderedMap String) : List (String × List String) :=
  texts.entries.map fun e => (e.1, unindentedLines e.2)

/-- **The layout changes nothing but the blanks at the start of lines**: runs whose settings differ
in the kind and the width of the indentation fail alike, or give texts under the same keys in the
same order, with the same lines but for the blanks in front. -/
theorem Database.outline_generate (s : Settings) (spaces : Bool) (width : Nat) (e : Dialect)
    (d : Database) :
    (d.generate ⟨{ s with spaces := spaces, indentation := width }, e⟩).map outline
      = (d.generate ⟨s, e⟩).map outline := by
  have hmodules : Corresponds
      (List.Forall₂ fun m m' : ModelModule => m.table = m'.table ∧ Aligned m.text m'.text)
      (d.modules ⟨s.withLayout spaces width, e⟩) (d.modules ⟨s, e⟩) :=
    .mapM fun t _ => Table.corresponds_generate s spaces width e d.relations t
  have houtline : ∀ ms : List ModelModule,
      outline (OrderedMap.ofList (ms.map fun m => (m.table, m.text)))
        = (OrderedMap.ofList (ms.map fun m => (m.table, unindentedLines m.text))).entries := by
    intro ms
    rw [outline, OrderedMap.map_entries_ofList, List.map_map]
    rfl
  have hsame : ∀ ms ms' : List ModelModule,
      List.Forall₂ (fun m m' => m.table = m'.table ∧ Aligned m.text m'.text) ms ms' →
      (ms.map fun m => (m.table, unindentedLines m.text))
        = ms'.map fun m => (m.table, unindentedLines m.text) := by
    intro ms ms' h
    induction h with
    | nil => rfl
    | cons h _ ih => rw [List.map_cons, List.map_cons, ih, h.1, h.2.unindentedLines_eq]
  refine (hmodules.bind fun ms ms' h => ?_).map_eq (fun _ _ h => h)
  exact .ok (by rw [houtline, houtline, hsame ms ms' h])

end SchemaModels
