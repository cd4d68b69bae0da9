import SchemaModels.Proofs.Model.WrittenTableNames

/-!
# What mixins need from other modules

The members that associations declare have types that name models of other modules. What a table
needs from these is exactly what its associations import, each table once and each name once, and
nothing from the table itself (`Mixins.NeedsExactly`). `Mixins.of_exact` adds that it does not
matter whether the table is asked for under the name that relations know, nor, where that name is
known beforehand, in which order the relations come: the entries are sorted, so they are told by
what is needed (`NeededTypes.IsSorted.ext`).

A type is read as a text of a model, a list of models or a type of the library with its arguments
(`AssociationType`). The words of the library have letters only, so that no name of a model can hide
in one.
-/

namespace SchemaModels

open Naming

/-! ## The types of declared members -/

/-- The type of a declared member. -/
inductive AssociationType where
  | model (name : String)
  | models (name : String)
  | library (word : String) (hword : word.toList.all Char.isAlpha = true)
      (arguments : List String)

namespace AssociationType

/-- The type as it is written. -/
def render : AssociationType → String
  | model name => name
  | models name => name ++ "[]"
  | library word _ arguments =>
    "Sequelize." ++ word ++ if arguments = [] then "" else
      "<" ++ String.intercalate ", " arguments ++ ">"

/-- The types of other modules that it names. -/
def names : AssociationType → List String
  | model name | models name => [name]
  | library _ _ arguments => arguments

theorem render_library {word : String} (hword : word.toList.all Char.isAlpha = true)
    {arguments : List String} (hne : arguments ≠ []) :
    (library word hword arguments).render
      = "Sequelize." ++ word ++ ("<" ++ String.intercalate ", " arguments ++ ">") :=
  congrArg ("Sequelize." ++ word ++ ·) (if_neg hne)

end AssociationType

/-- The text is a type that names none but the given types. -/
def NamesOnly (names : List String) (text : String) : Prop :=
  ∃ t : AssociationType, t.render = text ∧ t.names ⊆ names

namespace Association

variable {a : Association}

theorem isAlpha_typeStem (a : Association) : a.typeStem.toList.all Char.isAlpha = true := by
  unfold typeStem
  split <;> decide

/-- A word of the library. -/
theorem isAlpha_mixin (a : Association) {action : String}
    (haction : action.toList.all Char.isAlpha = true) :
    (a.typeStem ++ action ++ "Mixin").toList.all Char.isAlpha = true := by
  rw [String.toList_append, String.toList_append, List.all_append, List.all_append,
    a.isAlpha_typeStem, haction]
  decide

theorem model_mem_imports (a : Association) : a.other.model ∈ a.imports := by
  unfold imports
  dsimp only
  split <;> exact List.mem_cons_self

theorem key_mem_imports (a : Association) : a.other.model ++ "Id" ∈ a.imports := by
  unfold imports
  dsimp only
  split <;> exact List.mem_cons_of_mem _ List.mem_cons_self

theorem namesOnly_model : NamesOnly a.imports a.other.model :=
  ⟨.model _, rfl, List.cons_subset.mpr ⟨a.model_mem_imports, List.nil_subset _⟩⟩

theorem namesOnly_models : NamesOnly a.imports (a.other.model ++ "[]") :=
  ⟨.models _, rfl, List.cons_subset.mpr ⟨a.model_mem_imports, List.nil_subset _⟩⟩

variable {action : String} (haction : action.toList.all Char.isAlpha = true)

include haction

theorem namesOnly_accessor : NamesOnly a.imports (a.accessor action) := by
  refine ⟨.library _ (a.isAlpha_mixin haction) [a.other.model], ?_,
    List.cons_subset.mpr ⟨a.model_mem_imports, List.nil_subset _⟩⟩
  have hopen : "Mixin<" = "Mixin" ++ "<" := rfl
  unfold accessor
  rw [AssociationType.render_library _ (List.cons_ne_nil _ _), String.intercalate_singleton, hopen]
  simp only [String.append_assoc]

theorem namesOnly_keyAccessor : NamesOnly a.imports (a.keyAccessor action) := by
  refine ⟨.library _ (a.isAlpha_mixin haction) [a.other.model, a.other.model ++ "Id"], ?_,
    List.cons_subset.mpr ⟨a.model_mem_imports,
      List.cons_subset.mpr ⟨a.key_mem_imports, List.nil_subset _⟩⟩⟩
  have hopen : "Mixin<" = "Mixin" ++ "<" := rfl
  have hclose : "Id>" = "Id" ++ ">" := rfl
  unfold keyAccessor
  rw [AssociationType.render_library _ (List.cons_ne_nil _ _), String.intercalate_cons_cons,
    String.intercalate_singleton, hopen, hclose]
  simp only [String.append_assoc]

theorem namesOnly_library : NamesOnly a.imports ("Sequelize." ++ a.typeStem ++ action ++ "Mixin") :=
  ⟨.library _ (a.isAlpha_mixin haction) [], by simp [AssociationType.render, String.append_assoc],
    List.nil_subset _⟩

omit haction

theorem namesOnly_singleDeclarations : ∀ d ∈ a.singleDeclarations, NamesOnly a.imports d.type := by
  simp only [singleDeclarations, List.forall_mem_cons, List.not_mem_nil, false_implies,
    implies_true, and_true]
  exact ⟨namesOnly_model, namesOnly_accessor (by decide), namesOnly_keyAccessor (by decide),
    namesOnly_accessor (by decide)⟩

theorem namesOnly_collectionDeclarations (singular plural : String) :
    ∀ d ∈ a.collectionDeclarations singular plural, NamesOnly a.imports d.type := by
  have hcount : NamesOnly a.imports ("Sequelize." ++ a.typeStem ++ "CountAssociationsMixin") := by
    have hword : "CountAssociationsMixin" = "CountAssociations" ++ "Mixin" := by decide
    rw [hword, ← String.append_assoc]
    exact namesOnly_library (by decide)
  simp only [collectionDeclarations, List.forall_mem_cons, List.not_mem_nil, false_implies,
    implies_true, and_true]
  exact ⟨namesOnly_models, namesOnly_accessor (by decide), namesOnly_keyAccessor (by decide),
    namesOnly_keyAccessor (by decide), namesOnly_keyAccessor (by decide),
    namesOnly_accessor (by decide), namesOnly_keyAccessor (by decide),
    namesOnly_keyAccessor (by decide), namesOnly_keyAccessor (by decide),
    namesOnly_keyAccessor (by decide), hcount⟩

/-- **The declarations name nothing but what is imported.** -/
theorem namesOnly_of_declarations {ds : List Declaration} (h : a.declarations = .ok ds) :
    ∀ d ∈ ds, NamesOnly a.imports d.type := by
  have hmany : ∀ {x y : Except InflectionFailure String}, (do
      let singular ← x
      let plural ← y
      return a.collectionDeclarations singular plural) = .ok ds →
        ∀ d ∈ ds, NamesOnly a.imports d.type := by
    intro x y h
    obtain ⟨singular, -, h⟩ := bind_eq_ok.mp h
    obtain ⟨plural, -, h⟩ := bind_eq_ok.mp h
    cases h
    exact namesOnly_collectionDeclarations singular plural
  unfold declarations at h
  split at h
  · cases h
    exact namesOnly_singleDeclarations
  · cases h
    exact namesOnly_singleDeclarations
  · exact hmany h
  · exact hmany h

end Association

/-! ## What is needed -/

theorem NamesOnly.mono {names names' : List String} {text : String} (h : NamesOnly names text)
    (hsub : names ⊆ names') : NamesOnly names' text := by
  obtain ⟨t, ht, hnames⟩ := h
  exact ⟨t, ht, fun _ hn => hsub (hnames hn)⟩

/-- The same relations in another order give the same associations in another order, if the name of
the table does not depend on the order. -/
theorem associationsOf_perm {relations relations' : List Relation} (h : relations.Perm relations')
    {table : String} (hname : qualifyFor relations table = qualifyFor relations' table) :
    (associationsOf relations table).Perm (associationsOf relations' table) := by
  unfold associationsOf
  dsimp only
  rw [hname]
  exact h.filterMap _

namespace Mixins

variable {relations : List Relation} {blanks table : String}

/-- What is needed is a map from tables to names. It has the tables of the associations but not the
table itself, with the names that their associations import, among them all that the declarations
name. -/
structure NeedsExactly (relations : List Relation) (table : String) (needed : NeededTypes) :
    Prop where
  sorted : needed.IsSorted
  tables : ∀ other, other ∈ needed.map (·.1) ↔
    other ≠ qualifyFor relations table ∧ ∃ a ∈ associationsOf relations table, a.other.table = other
  names : ∀ e ∈ needed, ∀ n, n ∈ e.2 ↔
    ∃ a ∈ associationsOf relations table, a.other.table = e.1 ∧ n ∈ a.imports
  declared : ∀ a ∈ associationsOf relations table, a.other.table ≠ qualifyFor relations table →
    ∃ ds, a.declarations = .ok ds ∧
      ∀ d ∈ ds, ∃ e ∈ needed, e.1 = a.other.table ∧ NamesOnly e.2 d.type

/-- The text is made of the blocks of the associations. -/
def HasBlocks (m : Mixins) (relations : List Relation) (blanks table : String)
    (texts : List String) : Prop :=
  (associationsOf relations table).mapM (Association.render blanks) = .ok texts ∧
    m.text = String.join texts

theorem of_eq_ok {m : Mixins} : Mixins.of relations blanks table = .ok m ↔
    (∃ texts, m.HasBlocks relations blanks table texts) ∧
      m.needed = (NeededTypes.ofAssociations (associationsOf relations table)).filter
        (·.1 ≠ qualifyFor relations table) := by
  rw [Mixins.of, bind_eq_ok]
  constructor
  · rintro ⟨texts, htexts, hm⟩
    cases hm
    exact ⟨⟨texts, htexts, rfl⟩, rfl⟩
  · rintro ⟨⟨texts, htexts, htext⟩, hneeded⟩
    refine ⟨texts, htexts, ?_⟩
    rw [← htext, ← hneeded]
    rfl

theorem needsExactly_of {m : Mixins} (h : Mixins.of relations blanks table = .ok m) :
    NeedsExactly relations table m.needed := by
  obtain ⟨⟨texts, htexts, -⟩, hneeded⟩ := of_eq_ok.mp h
  have hsorted : m.needed.IsSorted := by
    rw [hneeded]
    exact (NeededTypes.isSorted_ofAssociations _).filter _
  have hnames : ∀ e ∈ m.needed, ∀ n, n ∈ e.2 ↔
      ∃ a ∈ associationsOf relations table, a.other.table = e.1 ∧ n ∈ a.imports := by
    intro e he n
    have hne : e.1 ≠ qualifyFor relations table :=
      ((mem_tables_needed h).mp (List.mem_map_of_mem he)).2
    rw [hsorted.mem_names_iff he, hneeded, NeededTypes.needs_filter_ne,
      NeededTypes.needs_ofAssociations]
    exact and_iff_left hne
  refine ⟨hsorted, fun other => (mem_tables_needed h).trans and_comm, hnames, ?_⟩
  intro a ha hother
  obtain ⟨e, he, htable⟩ := List.mem_map.mp ((mem_tables_needed h).mpr ⟨⟨a, ha, rfl⟩, hother⟩)
  obtain ⟨text, -, hrender⟩ := exists_mem_of_mapM htexts a ha
  obtain ⟨ds, hds, -⟩ := bind_eq_ok.mp hrender
  have hsub : a.imports ⊆ e.2 := fun n hn => (hnames e he n).mpr ⟨a, ha, htable.symm, hn⟩
  exact ⟨ds, hds, fun d hd =>
    ⟨e, he, htable, (Association.namesOnly_of_declarations hds d hd).mono hsub⟩⟩

/-- It does not matter whether a table is asked for under the name that relations know. -/
theorem of_qualifyFor (relations : List Relation) (blanks table : String) :
    Mixins.of relations blanks (qualifyFor relations table) = Mixins.of relations blanks table := by
  unfold Mixins.of associationsOf
  dsimp only
  rw [qualifyFor_qualifyFor]

/-- Relations in another order give the same needs, and the blocks in another order. -/
theorem exists_of_perm {m : Mixins} (h : Mixins.of relations blanks table = .ok m)
    {relations' : List Relation} (hperm : relations.Perm relations')
    (hname : qualifyFor relations table = qualifyFor relations' table) :
    ∃ m' texts texts', Mixins.of relations' blanks table = .ok m' ∧
      m.HasBlocks relations blanks table texts ∧ m'.HasBlocks relations' blanks table texts' ∧
      texts.Perm texts' ∧ m'.needed = m.needed := by
  obtain ⟨⟨texts, hblocks⟩, hneeded⟩ := of_eq_ok.mp h
  have has := associationsOf_perm hperm hname
  obtain ⟨texts', htexts', hsame⟩ := exists_mapM_perm has hblocks.1
  refine ⟨⟨String.join texts', m.needed⟩, texts, texts', of_eq_ok.mpr ⟨⟨texts', htexts', rfl⟩, ?_⟩,
    hblocks, ⟨htexts', rfl⟩, hsame, rfl⟩
  rw [hneeded, NeededTypes.ofAssociations_perm has, hname]

/-- **Mixins need exactly what they use**, under whatever name the table is asked for, and in
whatever order the relations come if its name is known without them. -/
theorem of_exact {m : Mixins} (h : Mixins.of relations blanks table = .ok m) :
    NeedsExactly relations table m.needed ∧
      Mixins.of relations blanks (qualifyFor relations table) = .ok m ∧
      (('.' ∈ table.toList ∨ ∃ r ∈ relations, r.child.table = table) →
        ∀ relations', relations.Perm relations' →
          ∃ m' texts texts', Mixins.of relations' blanks table = .ok m' ∧
            m.HasBlocks relations blanks table texts ∧
            m'.HasBlocks relations' blanks table texts' ∧
            texts.Perm texts' ∧ m'.needed = m.needed) := by
  refine ⟨needsExactly_of h, (of_qualifyFor relations blanks table).trans h, ?_⟩
  intro hknown relations' hperm
  have hkeeps : KeepsName relations table := hknown.imp_right .inl
  have hkeeps' : KeepsName relations' table :=
    (hknown.imp_right fun ⟨r, hr, hchild⟩ => ⟨r, hperm.mem_iff.mp hr, hchild⟩).imp_right .inl
  refine exists_of_perm h hperm ?_
  rw [qualifyFor_eq_self_iff.mpr hkeeps, qualifyFor_eq_self_iff.mpr hkeeps']

/-- An order needs the user it belongs to. -/
theorem of_exact_orders :
    ∃ m, Mixins.of [ordersOfUser "orders"] "  " "orders" = .ok m ∧
      NeedsExactly [ordersOfUser "orders"] "orders" m.needed ∧
      m.needed = [("users", ["users", "usersId"])] :=
  ⟨_, rfl, (of_exact rfl).1, by decide⟩

end Mixins

end SchemaModels
