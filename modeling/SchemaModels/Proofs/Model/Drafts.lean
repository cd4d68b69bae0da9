import SchemaModels.Proofs.Model.ModuleContent
import SchemaModels.Proofs.Model.Needed
import SchemaModels.Proofs.Model.UnmarkedText

/-!
# Drafts

The draft of a module has the token for the name of its model in some places, and otherwise no mark
if the database has none: it is put together from tokens and unmarked texts (`IsDraft`). A token is
never cut in two by that, and no two of them overlap, so each is found when the name of the model
is put in (`IsDraft.replaceFrom_append`). What is generated has no mark left
(`Database.unmarked_generate`).
-/

namespace SchemaModels

open Naming Text

/-- A text that is put together from tokens and unmarked texts. -/
inductive IsDraft : String → Prop where
  | text {s : String} (h : Unmarked s) : IsDraft s
  | token : IsDraft modelToken
  | append {s t : String} (hs : IsDraft s) (ht : IsDraft t) : IsDraft (s ++ t)

namespace IsDraft

theorem fixed {cs : List Char} (h : cs.all isUnmarked = true) : IsDraft (String.ofList cs) :=
  .text (.fixed h)

theorem join : ∀ {l : List String}, (∀ s ∈ l, IsDraft s) → IsDraft (String.join l) := by
  intro l
  induction l with
  | nil => intro _; exact .text unmarked_empty
  | cons s l ih =>
    intro h
    obtain ⟨hs, hl⟩ := List.forall_mem_cons.mp h
    rw [String.join_cons]
    exact hs.append (ih hl)

theorem unlines {l : List String} (h : ∀ s ∈ l, IsDraft s) : IsDraft (unlines l) := by
  refine join fun s hs => ?_
  obtain ⟨line, hline, rfl⟩ := List.mem_map.mp hs
  exact (h line hline).append (.fixed rfl)

theorem intercalate {sep : String} (hsep : IsDraft sep) : ∀ {l : List String},
    (∀ s ∈ l, IsDraft s) → IsDraft (String.intercalate sep l) := by
  intro l
  induction l with
  | nil => intro _; exact .text unmarked_empty
  | cons s l ih =>
    intro h
    obtain ⟨hs, hl⟩ := List.forall_mem_cons.mp h
    cases l with
    | nil => simpa using hs
    | cons t l =>
      rw [String.intercalate_cons_cons]
      exact (hs.append hsep).append (ih hl)

/-- The name of the model takes the place of each token of a draft, whatever comes after it. -/
theorem replaceFrom_append {model : List Char} (hmodel : Only isUnmarked model) {s : String}
    (h : IsDraft s) : ∃ cs, Only isUnmarked cs ∧ ∀ rest : List Char,
      replaceFrom modelToken.toList model 0 (s.toList ++ rest)
        = cs ++ replaceFrom modelToken.toList model 0 rest := by
  induction h with
  | @text s h =>
    -- no occurrence of the token begins inside an unmarked text
    exact ⟨s.toList, h, fun rest => replaceFrom_append_of_head_notMem rest (unmarked_iff.mp h)⟩
  | token => exact ⟨model, hmodel, fun rest => replaceFrom_append_of_ne_nil (by decide) rest⟩
  | append _ _ ihs iht =>
    obtain ⟨front, hfront, hs⟩ := ihs
    obtain ⟨back, hback, ht⟩ := iht
    refine ⟨front ++ back, hfront.append hback, fun rest => ?_⟩
    rw [String.toList_append, List.append_assoc, hs, ht, List.append_assoc]

/-- **No mark of a draft is left when the name of the model is put in.** -/
theorem unmarked_replace {model s : String} (hmodel : Unmarked model) (h : IsDraft s) :
    Unmarked (replace modelToken model s) := by
  obtain ⟨cs, hcs, hreplace⟩ := h.replaceFrom_append hmodel
  have hwhole := hreplace []
  rw [List.append_nil, replaceFrom, List.append_nil] at hwhole
  rw [replace, hwhole]
  exact unmarked_ofList.mpr hcs

end IsDraft

/-! ## The definition -/

namespace TableOption

theorem unmarked_render_value {v : OptionValue} (h : AllUnmarked v.texts) : Unmarked v.render := by
  cases v with
  | bool b => exact unmarked_truth b
  | int n => exact unmarked_intText n
  | text s =>
    have hs : Unmarked s := h s (List.mem_singleton.mpr rfl)
    exact ((Unmarked.fixed rfl).append (hs.backslashBefore '\'')).append (.fixed rfl)

/-- The texts that an option is written with are unmarked. -/
def HasUnmarkedParts : TableOption → Prop
  | tableName name | schema name | fixedNames name => Unmarked name
  | shared key value => Unmarked key ∧ AllUnmarked value.texts
  | indexes list => ∀ i ∈ list, AllUnmarked i.texts
  | _ => True

/-- Every option but the one for the name of the model is unmarked. -/
theorem unmarked_render (ctx : Context) {x : TableOption} (hx : x ≠ modelName)
    (h : x.HasUnmarkedParts) : Unmarked (x.render ctx) := by
  have hblanks : ∀ n {s}, Unmarked s → Unmarked (ctx.indent n ++ s) :=
    fun n _ hs => (ctx.unmarked_indent n).append hs
  cases x with
  | connection | hasTrigger | paranoid => exact hblanks 2 (.fixed rfl)
  | tableName name => exact ((hblanks 2 (.fixed rfl)).append h).append (.fixed rfl)
  | schema name => exact ((hblanks 2 (.fixed rfl)).append h).append (.fixed rfl)
  | modelName => exact absurd rfl hx
  | timestamps on => exact (hblanks 2 (.fixed rfl)).append (unmarked_truth on)
  | fixedNames name =>
    have hname : Unmarked name := h
    simp only [render, unmarked_append, hname, ctx.unmarked_indent, true_and, and_true]
    exact ⟨⟨⟨⟨⟨.fixed rfl, .fixed rfl⟩, .fixed rfl⟩, .fixed rfl⟩, .fixed rfl⟩, .fixed rfl⟩
  | shared key value =>
    exact ((hblanks 2 h.1).append (.fixed rfl)).append (unmarked_render_value h.2)
  | indexes list => exact Index.unmarked_renderList ctx h

/-- Only the option for the name of the model has a token. -/
theorem isDraft_render (ctx : Context) {x : TableOption} (h : x.HasUnmarkedParts) :
    IsDraft (x.render ctx) := by
  by_cases hx : x = modelName
  · rw [hx]
    have hfront : Unmarked (ctx.indent 2 ++ "modelName: '") :=
      (ctx.unmarked_indent 2).append (.fixed rfl)
    exact ((IsDraft.text hfront).append .token).append (.fixed rfl)
  · exact .text (unmarked_render ctx hx h)

theorem hasUnmarkedParts_ofTable {ctx : Context} (hs : AllUnmarked ctx.settings.texts) {t : Table}
    (ht : AllUnmarked t.texts) : ∀ x ∈ ofTable ctx t, x.HasUnmarkedParts := by
  intro x hx
  cases arises_of_mem_ofTable x hx with
  | connection | modelName | hasTrigger | timestamps | paranoid => trivial
  | tableName => exact Table.unmarked_name ht
  | schema hschema => exact Table.unmarked_schema ht hschema
  | fixedNames => exact Table.unmarked_qualified ht
  | shared he =>
    have hentries : AllUnmarked (ctx.settings.options.entries.flatMap fun e => e.1 :: e.2.texts) :=
      (allUnmarked_append.mp hs).2
    exact List.forall_mem_cons.mp (hentries.of_flatMap he)
  | indexes => exact fun i hi => Table.allUnmarked_of_mem_indexes ht hi

end TableOption

theorem Table.isDraft_definition {ctx : Context} (hs : AllUnmarked ctx.settings.texts) {t : Table}
    (ht : AllUnmarked t.texts) : IsDraft ((t.definition ctx).render ctx) := by
  have hblocks : Unmarked ((t.definition ctx).renderBlocks ctx) := by
    unfold Definition.renderBlocks
    split
    · exact unmarked_empty
    · refine (unmarked_intercalate (.fixed rfl) fun s hs => ?_).append (.fixed rfl)
      obtain ⟨b, hb, rfl⟩ := List.mem_map.mp hs
      exact AttributeBlock.unmarked_render ht hb
  have hoptions : IsDraft ((t.definition ctx).renderOptions ctx) := by
    refine IsDraft.intercalate (.fixed rfl) fun s hs' => ?_
    obtain ⟨x, hx, rfl⟩ := List.mem_map.mp hs'
    exact TableOption.isDraft_render ctx (TableOption.hasUnmarkedParts_ofTable hs ht x hx)
  have hindent : IsDraft (ctx.indent 1) := .text (ctx.unmarked_indent 1)
  exact ((((((IsDraft.text hblocks).append hindent).append (.fixed rfl)).append hoptions).append
    (.fixed rfl)).append hindent).append (.fixed rfl)

/-! ## Associations -/

namespace Association

variable {a : Association}

/-- The names that an association writes are unmarked. -/
structure IsUnmarked (a : Association) : Prop where
  own : Unmarked a.own.model
  model : Unmarked a.other.model
  property : Unmarked a.other.property
  parentKey : Unmarked a.relation.parent.key
  childKey : Unmarked a.relation.child.key

theorem isUnmarked_of_texts (h : AllUnmarked a.relation.texts) : a.IsUnmarked := by
  obtain ⟨hparent, hchild⟩ := allUnmarked_append.mp h
  have hmodel : ∀ {e : Endpoint}, AllUnmarked e.texts → Unmarked e.model :=
    fun h => h _ (by simp [Endpoint.texts])
  have hproperty : ∀ {e : Endpoint}, AllUnmarked e.texts → Unmarked e.property :=
    fun h => h _ (by simp [Endpoint.texts])
  have hkey : ∀ {e : Endpoint}, AllUnmarked e.texts → Unmarked e.key :=
    fun h => h _ (by simp [Endpoint.texts])
  have hends : AllUnmarked a.own.texts ∧ AllUnmarked a.other.texts := by
    unfold own other
    cases a.kind <;> exact ⟨by assumption, by assumption⟩
  exact ⟨hmodel hends.1, hmodel hends.2, hproperty hends.2, hkey hparent, hkey hchild⟩

theorem unmarked_typeStem (a : Association) : Unmarked a.typeStem := by
  unfold typeStem
  cases a.kind <;> exact .fixed rfl

theorem IsUnmarked.comment (h : a.IsUnmarked) : Unmarked a.comment := by
  have hword : Unmarked a.word := by
    unfold word
    cases a.kind <;> exact .fixed rfl
  have hline : Unmarked ("// " ++ a.own.model ++ " " ++ a.word ++ " " ++ a.other.model ++ " via "
      ++ a.relation.parent.key) :=
    (((((((Unmarked.fixed rfl).append h.own).append (.fixed rfl)).append hword).append
      (.fixed rfl)).append h.model).append (.fixed rfl)).append h.parentKey
  unfold Association.comment
  dsimp only
  split
  · exact (hline.append (.fixed rfl)).append h.childKey
  · exact hline

theorem IsUnmarked.accessor (h : a.IsUnmarked) {action : String} (haction : Unmarked action) :
    Unmarked (a.accessor action) :=
  (((((Unmarked.fixed rfl).append a.unmarked_typeStem).append haction).append (.fixed rfl)).append
    h.model).append (.fixed rfl)

theorem IsUnmarked.keyAccessor (h : a.IsUnmarked) {action : String} (haction : Unmarked action) :
    Unmarked (a.keyAccessor action) :=
  (((((((Unmarked.fixed rfl).append a.unmarked_typeStem).append haction).append
    (.fixed rfl)).append h.model).append (.fixed rfl)).append h.model).append (.fixed rfl)

theorem IsUnmarked.singleDeclarations (h : a.IsUnmarked) :
    ∀ d ∈ a.singleDeclarations, Unmarked d.name ∧ Unmarked d.type := by
  have hname : ∀ {front : String}, Unmarked front →
      Unmarked (front ++ upperFirst a.other.property) :=
    fun hfront => hfront.append h.property.upperFirst
  unfold Association.singleDeclarations
  simp only [List.forall_mem_cons, List.not_mem_nil, false_implies, implies_true, and_true]
  exact ⟨⟨h.property, h.model⟩, ⟨hname (.fixed rfl), h.accessor (.fixed rfl)⟩,
    ⟨hname (.fixed rfl), h.keyAccessor (.fixed rfl)⟩,
    ⟨hname (.fixed rfl), h.accessor (.fixed rfl)⟩⟩

theorem IsUnmarked.collectionDeclarations (h : a.IsUnmarked) {singular plural : String}
    (hsingular : Unmarked singular) (hplural : Unmarked plural) :
    ∀ d ∈ a.collectionDeclarations singular plural, Unmarked d.name ∧ Unmarked d.type := by
  have hone : ∀ {front : String}, Unmarked front → Unmarked (front ++ upperFirst singular) :=
    fun hfront => hfront.append hsingular.upperFirst
  have hmany : ∀ {front : String}, Unmarked front → Unmarked (front ++ upperFirst plural) :=
    fun hfront => hfront.append hplural.upperFirst
  have hcount : Unmarked ("Sequelize." ++ a.typeStem ++ "CountAssociationsMixin") :=
    ((Unmarked.fixed rfl).append a.unmarked_typeStem).append (.fixed rfl)
  unfold Association.collectionDeclarations
  simp only [List.forall_mem_cons, List.not_mem_nil, false_implies, implies_true, and_true]
  exact ⟨
    ⟨hplural, h.model.append (.fixed rfl)⟩,
    ⟨hmany (.fixed rfl), h.accessor (.fixed rfl)⟩,
    ⟨hmany (.fixed rfl), h.keyAccessor (.fixed rfl)⟩,
    ⟨hone (.fixed rfl), h.keyAccessor (.fixed rfl)⟩,
    ⟨hmany (.fixed rfl), h.keyAccessor (.fixed rfl)⟩,
    ⟨hone (.fixed rfl), h.accessor (.fixed rfl)⟩,
    ⟨hone (.fixed rfl), h.keyAccessor (.fixed rfl)⟩,
    ⟨hmany (.fixed rfl), h.keyAccessor (.fixed rfl)⟩,
    ⟨hone (.fixed rfl), h.keyAccessor (.fixed rfl)⟩,
    ⟨hmany (.fixed rfl), h.keyAccessor (.fixed rfl)⟩,
    ⟨hmany (.fixed rfl), hcount⟩⟩

theorem IsUnmarked.declarations (h : a.IsUnmarked) {ds : List Declaration}
    (hds : a.declarations = .ok ds) : ∀ d ∈ ds, Unmarked d.name ∧ Unmarked d.type := by
  unfold Association.declarations at hds
  split at hds
  · cases hds; exact h.singleDeclarations
  · cases hds; exact h.singleDeclarations
  all_goals
    obtain ⟨singular, hsingular, hds⟩ := bind_eq_ok.mp hds
    obtain ⟨plural, hplural, hds⟩ := bind_eq_ok.mp hds
    cases hds
    exact h.collectionDeclarations ((nameStable_isUnmarked.singularize h.property).of_ok hsingular)
      ((nameStable_isUnmarked.pluralize h.property).of_ok hplural)

theorem IsUnmarked.render (h : a.IsUnmarked) {blanks : String} (hblanks : Unmarked blanks)
    {text : String} (htext : a.render blanks = .ok text) : Unmarked text := by
  obtain ⟨ds, hds, htext⟩ := bind_eq_ok.mp htext
  cases htext
  refine unmarked_unlines fun line hline => ?_
  obtain ⟨content, hcontent, rfl⟩ := List.mem_map.mp hline
  refine hblanks.append ?_
  rcases List.mem_cons.mp hcontent with rfl | hcontent
  · exact h.comment
  · obtain ⟨d, hd, rfl⟩ := List.mem_map.mp hcontent
    obtain ⟨hname, htype⟩ := h.declarations hds d hd
    exact ((hname.append (.fixed rfl)).append htype).append (.fixed rfl)

theorem IsUnmarked.imports (h : a.IsUnmarked) : ∀ n ∈ a.imports, Unmarked n := by
  have hid : Unmarked (a.other.model ++ "Id") := h.model.append (.fixed rfl)
  have hcreation : Unmarked (a.other.model ++ "CreationAttributes") :=
    h.model.append (.fixed rfl)
  unfold Association.imports
  dsimp only
  split <;> simp [h.model, hid, hcreation]

end Association

/-- Mixins whose texts and names are unmarked. -/
structure Mixins.IsUnmarked (m : Mixins) : Prop where
  text : Unmarked m.text
  tables : ∀ e ∈ m.needed, Unmarked e.1
  names : ∀ e ∈ m.needed, ∀ n ∈ e.2, Unmarked n

theorem Mixins.isUnmarked_of {relations : List Relation}
    (h : AllUnmarked (relations.flatMap Relation.texts)) {blanks : String}
    (hblanks : Unmarked blanks) {table : String} {m : Mixins}
    (hm : Mixins.of relations blanks table = .ok m) : m.IsUnmarked := by
  have hrelation : ∀ a ∈ associationsOf relations table, AllUnmarked a.relation.texts :=
    fun a ha => h.of_flatMap (relation_mem_of_mem_associationsOf ha)
  have hother : ∀ a ∈ associationsOf relations table, Unmarked a.other.table := by
    intro a ha
    obtain ⟨hparent, hchild⟩ := allUnmarked_append.mp (hrelation a ha)
    unfold Association.other
    split
    · exact hparent _ (by simp [Endpoint.texts])
    · exact hchild _ (by simp [Endpoint.texts])
  have hneeded := NeededTypes.comesFrom_ofAssociations (associationsOf relations table)
  obtain ⟨texts, htexts, hm⟩ := bind_eq_ok.mp hm
  cases hm
  refine ⟨unmarked_join fun text htext => ?_, fun e he => ?_, fun e he n hn => ?_⟩
  · obtain ⟨a, ha, hrender⟩ := exists_of_mem_mapM htexts text htext
    exact (Association.isUnmarked_of_texts (hrelation a ha)).render hblanks hrender
  · obtain ⟨a, ha, htable⟩ := (hneeded e (List.mem_filter.mp he).1).1
    exact htable ▸ hother a ha
  · obtain ⟨a, ha, -, hname⟩ := (hneeded e (List.mem_filter.mp he).1).2 n hn
    exact (Association.isUnmarked_of_texts (hrelation a ha)).imports n hname

/-! ## The typed section -/

/-- A typed section whose texts and names are unmarked. -/
structure TypedSection.IsUnmarked (s : TypedSection) : Prop where
  files : ∀ i ∈ s.imports, Unmarked i.file
  names : ∀ i ∈ s.imports, ∀ n ∈ i.names, Unmarked n
  properties : ∀ m ∈ s.members, Unmarked m.property
  types : ∀ m ∈ s.members, Unmarked m.type.render
  primaryKey : ∀ p ∈ s.primaryKey, Unmarked p
  optional : ∀ p ∈ s.optional, Unmarked p
  associations : Unmarked s.associations

namespace TypedSection

theorem isUnmarked_of {s : Settings} {t : Table} (ht : AllUnmarked t.texts) {m : Mixins}
    (hm : m.IsUnmarked) {content : TypedSection} (h : TypedSection.of s t m = .ok content) :
    content.IsUnmarked := by
  have hcolumn : ∀ c ∈ t.columns, AllUnmarked c.texts :=
    fun c hc => Table.allUnmarked_of_mem_columns ht hc
  have hproperty : ∀ c ∈ t.columns, Unmarked (s.propertyName c.name) :=
    fun c hc => s.unmarked_propertyName (hcolumn c hc _ (by simp [Column.texts]))
  have hfiltered : ∀ p : Column → Bool,
      ∀ n ∈ (t.columns.filter p).map fun c => s.propertyName c.name, Unmarked n := by
    intro p n hn
    obtain ⟨c, hc, rfl⟩ := List.mem_map.mp hn
    exact hproperty c (List.mem_filter.mp hc).1
  obtain ⟨imports, himports, h⟩ := bind_eq_ok.mp h
  cases h
  have himport : ∀ i ∈ imports, Unmarked i.file ∧ ∀ n ∈ i.names, Unmarked n := by
    intro i hi
    obtain ⟨e, he, hof⟩ := exists_of_mem_mapM himports i hi
    obtain ⟨file, hfile, hof⟩ := bind_eq_ok.mp hof
    cases hof
    have htable : Unmarked (TableName.split e.1).2 :=
      (hm.tables e he).of_subset fun _ => TableName.mem_of_mem_split
    exact ⟨(nameStable_isUnmarked.apply s.fileStyle s.singularize htable).of_ok hfile,
      hm.names e he⟩
  exact {
    files := fun i hi => (himport i hi).1
    names := fun i hi => (himport i hi).2
    properties := by
      intro x hx
      obtain ⟨c, hc, rfl⟩ := List.mem_map.mp hx
      exact hproperty c (List.mem_filter.mp hc).1
    types := by
      intro x hx
      obtain ⟨c, hc, rfl⟩ := List.mem_map.mp hx
      simpa only [Member.ofColumn] using
        (Column.isUnmarked_type (hcolumn c (List.mem_filter.mp hc).1)).memberType
    primaryKey := hfiltered _
    optional := hfiltered _
    associations := hm.text }

theorem unmarked_import {i : Import} (hfile : Unmarked i.file)
    (hnames : ∀ n ∈ i.names, Unmarked n) : Unmarked i.render := by
  have hlist : Unmarked (String.intercalate ", " i.names) :=
    unmarked_intercalate (.fixed rfl) hnames
  exact ((((Unmarked.fixed rfl).append hlist).append (.fixed rfl)).append hfile).append (.fixed rfl)

theorem unmarked_member (ctx : Context) {m : Member} (hproperty : Unmarked m.property)
    (htype : Unmarked m.type.render) {required : String} (hrequired : Unmarked required) :
    Unmarked (m.render ctx required) := by
  have hmark : Unmarked (if m.nullable then "?" else required) := by
    split
    · exact .fixed rfl
    · exact hrequired
  exact (((((ctx.unmarked_indent 1).append (unmarked_propertyKey hproperty)).append hmark).append
    (.fixed rfl)).append htype).append (.fixed rfl)

theorem unmarked_literalUnion {properties : List String} (h : ∀ p ∈ properties, Unmarked p) :
    Unmarked (literalUnion properties) := by
  refine unmarked_intercalate (.fixed rfl) fun s hs => ?_
  obtain ⟨p, hp, rfl⟩ := List.mem_map.mp hs
  exact ((Unmarked.fixed rfl).append (h p hp)).append (.fixed rfl)

theorem isDraft_of_mem_keyLines {s : TypedSection} (h : s.IsUnmarked) :
    ∀ line ∈ s.keyLines, IsDraft line := by
  unfold keyLines
  split
  · exact List.forall_mem_nil _
  simp only [List.forall_mem_cons, List.not_mem_nil, false_implies, implies_true, and_true]
  constructor
  · exact ((((IsDraft.fixed rfl).append .token).append (.fixed rfl)).append
      (.text (unmarked_literalUnion h.primaryKey))).append (.fixed rfl)
  · exact ((((((IsDraft.fixed rfl).append .token).append (.fixed rfl)).append .token).append
      (.fixed rfl)).append .token).append (.fixed rfl)

theorem isDraft_of_mem_creationLines {s : TypedSection} (h : s.IsUnmarked) :
    ∀ line ∈ s.creationLines, IsDraft line := by
  have hcreation : IsDraft ("export type " ++ modelToken ++ "CreationAttributes = ") :=
    ((IsDraft.fixed rfl).append .token).append (.fixed rfl)
  unfold creationLines
  dsimp only
  split
  all_goals
    simp only [List.forall_mem_cons, List.not_mem_nil, false_implies, implies_true, and_true]
  · exact ⟨(hcreation.append .token).append (.fixed rfl), .text unmarked_empty⟩
  · refine ⟨?_, ?_, .text unmarked_empty⟩
    · exact ((((IsDraft.fixed rfl).append .token).append (.fixed rfl)).append
        (.text (unmarked_literalUnion h.optional))).append (.fixed rfl)
    · exact ((((hcreation.append (.fixed rfl)).append .token).append (.fixed rfl)).append
        .token).append (.fixed rfl)

theorem isDraft_of_mem_openingLines (ctx : Context) : ∀ line ∈ openingLines ctx, IsDraft line := by
  have hindent : ∀ n, IsDraft (ctx.indent n) := fun n => .text (ctx.unmarked_indent n)
  unfold openingLines
  simp only [List.forall_mem_cons, List.not_mem_nil, false_implies, implies_true, and_true]
  refine ⟨.text unmarked_empty, ?_, ?_⟩
  · exact ((((hindent 1).append (.fixed rfl)).append .token)).append (.fixed rfl)
  split
  · exact (((hindent 2).append (.fixed rfl)).append .token).append (.fixed rfl)
  · exact (((hindent 2).append (.fixed rfl)).append .token).append (.fixed rfl)

theorem isDraft_of_mem_members (ctx : Context) {s : TypedSection} (h : s.IsUnmarked)
    {required : String} (hrequired : Unmarked required) :
    ∀ line ∈ s.members.map (·.render ctx required), IsDraft line := by
  intro line hline
  obtain ⟨m, hm, rfl⟩ := List.mem_map.mp hline
  exact .text (unmarked_member ctx (h.properties m hm) (h.types m hm) hrequired)

theorem isDraft_of_mem_interfaceLines (ctx : Context) {s : TypedSection} (h : s.IsUnmarked) :
    ∀ line ∈ s.interfaceLines ctx, IsDraft line := by
  have hopen : IsDraft ("export interface " ++ modelToken ++ "Attributes \x7b") :=
    ((IsDraft.fixed rfl).append .token).append (.fixed rfl)
  have hempty : IsDraft "" := .text unmarked_empty
  unfold interfaceLines
  simp only [List.forall_mem_append, List.forall_mem_cons, List.not_mem_nil, false_implies,
    implies_true, and_true]
  exact ⟨⟨⟨hempty, hopen⟩, isDraft_of_mem_members ctx h unmarked_empty⟩, .fixed rfl, hempty⟩

theorem isDraft_classLine : IsDraft classLine := by
  have hfront : IsDraft ("export class " ++ modelToken ++ " extends Model<" ++ modelToken
      ++ "Attributes, ") :=
    ((((IsDraft.fixed rfl).append .token).append (.fixed rfl)).append .token).append (.fixed rfl)
  exact (((hfront.append .token).append (.fixed rfl)).append .token).append (.fixed rfl)

/-- The typed section has the token in its own lines only. -/
theorem IsUnmarked.isDraft_render (ctx : Context) {s : TypedSection} (h : s.IsUnmarked) :
    IsDraft (s.render ctx) := by
  have himports : ∀ line ∈ s.imports.map (·.render), IsDraft line := by
    intro line hline
    obtain ⟨i, hi, rfl⟩ := List.mem_map.mp hline
    exact .text (unmarked_import (h.files i hi) (h.names i hi))
  refine ((IsDraft.unlines ?_).append (.text h.associations)).append
    (.unlines (isDraft_of_mem_openingLines ctx))
  simp only [List.forall_mem_append, List.forall_mem_singleton]
  exact ⟨⟨⟨⟨⟨⟨himports, isDraft_of_mem_interfaceLines ctx h⟩, isDraft_of_mem_keyLines h⟩,
    isDraft_of_mem_creationLines h⟩, isDraft_classLine⟩,
    isDraft_of_mem_members ctx h (.fixed rfl)⟩, .text unmarked_empty⟩

end TypedSection

/-! ## Modules -/

namespace Scaffold

theorem isDraft_opener (ctx : Context) : IsDraft (opener ctx) := by
  have hindent : IsDraft (ctx.indent 1) := .text (ctx.unmarked_indent 1)
  unfold opener
  split
  · exact ((hindent.append (.fixed rfl)).append .token).append (.fixed rfl)
  · exact hindent.append (.fixed rfl)

theorem isDraft_header (ctx : Context) : IsDraft (header ctx) := by
  have hindent : IsDraft (ctx.indent 1) := .text (ctx.unmarked_indent 1)
  have hopener := isDraft_opener ctx
  unfold header
  split
  all_goals
    refine IsDraft.unlines ?_
    simp only [List.forall_mem_cons, List.not_mem_nil, false_implies, implies_true, and_true]
  · exact ⟨.fixed rfl, .fixed rfl,
      ((hindent.append (.fixed rfl)).append .token).append (.fixed rfl)⟩
  · exact ⟨.fixed rfl, .fixed rfl,
      ((hindent.append (.fixed rfl)).append .token).append (.fixed rfl),
      .fixed rfl, .fixed rfl, ((IsDraft.fixed rfl).append .token).append (.fixed rfl),
      hindent.append (.fixed rfl), hopener⟩
  · exact ⟨.fixed rfl, .fixed rfl, .fixed rfl,
      ((IsDraft.fixed rfl).append .token).append (.fixed rfl), hindent.append (.fixed rfl), hopener⟩
  · exact ⟨.fixed rfl, .fixed rfl⟩

theorem isDraft_footer (ctx : Context) : IsDraft (footer ctx) := by
  have hcloser : IsDraft (closer ctx) := by
    unfold closer
    split
    · exact ((IsDraft.fixed rfl).append .token).append (.fixed rfl)
    · exact .fixed rfl
  unfold footer
  split
  all_goals
    refine IsDraft.unlines ?_
    simp only [List.forall_mem_cons, List.not_mem_nil, false_implies, implies_true, and_true]
  · exact ⟨.fixed rfl, .fixed rfl⟩
  · exact ⟨hcloser, (IsDraft.text (ctx.unmarked_indent 1)).append (.fixed rfl), .fixed rfl⟩

end Scaffold

theorem Settings.unmarked_modelName {s : Settings} {t : Table} (ht : AllUnmarked t.texts)
    {model : String} (h : s.modelName t = .ok model) : Unmarked model := by
  obtain ⟨name, hname, h⟩ := bind_eq_ok.mp h
  cases h
  have hname : Unmarked name :=
    (nameStable_isUnmarked.apply s.modelStyle s.singularize (Table.unmarked_name ht)).of_ok hname
  exact nameStable_isUnmarked.avoidReserved s.language.isTyped hname

/-- The content of a module is written as a draft. -/
theorem ModuleContent.isDraft_draft {ctx : Context} (hs : AllUnmarked ctx.settings.texts)
    {relations : List Relation} (hr : AllUnmarked (relations.flatMap Relation.texts)) {t : Table}
    (ht : AllUnmarked t.texts) {c : ModuleContent} (hc : ModuleContent.of ctx relations t = .ok c) :
    IsDraft (c.draft ctx) := by
  obtain ⟨-, hdefinition, htyped⟩ := of_eq_ok hc
  have hsection : IsDraft (c.renderTyped ctx) := by
    unfold renderTyped
    split at htyped
    · obtain ⟨m, s, hm, hof, hsome⟩ := htyped
      have hm := Mixins.isUnmarked_of hr (ctx.unmarked_indent 1) hm
      rw [hsome]
      exact (TypedSection.isUnmarked_of ht hm hof).isDraft_render ctx
    · rw [htyped]
      exact .text unmarked_empty
  unfold draft
  rw [hdefinition]
  exact (((Scaffold.isDraft_header ctx).append hsection).append
    (Table.isDraft_definition hs ht)).append (Scaffold.isDraft_footer ctx)

/-- **No mark survives and none is made**: where no text of the database and of the settings has the
mark of the token, no generated module has it, in any language. -/
theorem Database.unmarked_generate {ctx : Context} {d : Database}
    (h : ∀ s ∈ d.texts ++ ctx.settings.texts, '#' ∉ s.toList) {texts : OrderedMap String}
    (htexts : d.generate ctx = .ok texts) : ∀ e ∈ texts.entries, '#' ∉ e.2.toList := by
  have hall : AllUnmarked (d.texts ++ ctx.settings.texts) := fun s hs => unmarked_iff.mpr (h s hs)
  obtain ⟨hd, hsettings⟩ := allUnmarked_append.mp hall
  obtain ⟨htables, hrelations⟩ := allUnmarked_append.mp hd
  intro e he
  obtain ⟨t, ht, c, model, hc, hmodel, rfl⟩ := Database.of_mem_generate htexts he
  have ht := htables.of_flatMap ht
  have hdraft := ModuleContent.isDraft_draft hsettings hrelations ht hc
  exact unmarked_iff.mp (hdraft.unmarked_replace (Settings.unmarked_modelName ht hmodel))

/-- Posts with an index and with a value that is passed through as JSON, and their comments. -/
def posts : Database := {
  tables := [{
    name := ⟨some "blog", "posts"⟩
    fields := [
      { name := "id", sqlType := "int", primaryKey := true },
      { name := "state", sqlType := "enum('draft','done')", defaultValue := some (.text "draft"),
        comment := some "'done' once it is \"out\"" },
      { name := "meta", sqlType := "json",
        extras := OrderedMap.ofList [("shape", .json (.obj [("tags", .arr [.str "a", .int 2])]))] }]
    indexes := [{
      name := some "by_state", parts := [{ column := "state", order := some "DESC" }] }] }]
  relations := [{
    parent := { table := "blog.posts", model := "posts", property := "post", key := "post_id" }
    child := {
      table := "blog.comments", model := "comments", property := "comment", key := "post_id" } }] }

theorem Database.unmarked_generate_posts :
    ∃ texts, posts.generate ⟨{ language := .ts, useDefine := true }, .postgres⟩ = .ok texts ∧
      ∀ e ∈ texts.entries, '#' ∉ e.2.toList := by
  obtain ⟨texts, htexts, -⟩ := exists_ok_of_any
    (x := posts.generate ⟨{ language := .ts, useDefine := true }, .postgres⟩)
    (p := fun _ => true) (by decide +kernel)
  exact ⟨texts, htexts, Database.unmarked_generate (by decide +kernel) htexts⟩

end SchemaModels
