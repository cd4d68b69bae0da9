import SchemaModels.Proofs.Model.ModuleContent
import SchemaModels.Proofs.Model.ModuleExports
import SchemaModels.Proofs.Model.Needed

/-!
# Imports between typed modules

Two typed modules are generated without regard to each other, yet one imports types from the
other by name. The importing side goes by the associations alone: it takes the class, the type of
its key and, for an association with one row, the type of a new row. The exporting side goes by
the columns of its own table. `Database.exports_needed_iff` relates the two: a needed name is
exported by the module it is imported from, unless it is the type of the key and the table has no
primary key. Such a module exports no type of this name.

Tables may share a qualified name, and then only the module of the last one is kept. The statement
is about the table whose module it is. The relations give each table of this name the same model.
-/

namespace SchemaModels

open Naming

/-- The names that an association imports are the name of the model and an ending. -/
theorem Association.exists_ending_of_mem_imports {a : Association} {n : String}
    (h : n ∈ a.imports) :
    ∃ ending ∈ ["", "Id", "CreationAttributes"], n = a.other.model ++ ending := by
  have hall : ∀ n ∈ [a.other.model, a.other.model ++ "Id", a.other.model ++ "CreationAttributes"],
      ∃ ending ∈ ["", "Id", "CreationAttributes"], n = a.other.model ++ ending := by
    simp
  unfold imports at h
  split at h
  · exact hall n h
  · exact hall n (List.mem_of_mem_take (i := 2) h)

namespace Database

/-- The relations name tables of the database, and their models as these are named. -/
def RefersToTables (s : Settings) (d : Database) : Prop :=
  ∀ r ∈ d.relations, ∀ e ∈ [r.parent, r.child], (∃ t ∈ d.tables, t.name.qualified = e.table) ∧
    ∀ t ∈ d.tables, t.name.qualified = e.table → s.modelName t = .ok e.model

/-- The texts have the module of a table with this content and model under a key. -/
structure Serves (ctx : Context) (d : Database) (texts : OrderedMap String) (key : String)
    (t : Table) (c : ModuleContent) (model : String) : Prop where
  mem : t ∈ d.tables
  qualified : t.name.qualified = key
  content : ModuleContent.of ctx d.relations t = .ok c
  named : ctx.settings.modelName t = .ok model
  text : texts.get? key = some (c.write ctx model).text

/-- The texts have a module for the qualified name of every table. -/
theorem exists_serves {ctx : Context} {d : Database} {texts : OrderedMap String}
    (h : d.generate ctx = .ok texts) {t : Table} (ht : t ∈ d.tables) :
    ∃ u c model, d.Serves ctx texts t.name.qualified u c model := by
  obtain ⟨modules, hmodules, htexts⟩ := bind_eq_ok.mp h
  cases htexts
  obtain ⟨m, hm, hgenerate⟩ := exists_mem_of_mapM hmodules t ht
  have hkey : m.table = t.name.qualified := (Table.of_generate_eq_ok hgenerate).1
  have hentry : (m.table, m.text) ∈ modules.map fun m => (m.table, m.text) :=
    List.mem_map_of_mem hm
  -- the text under the name need not be that of the table itself, as names may repeat
  obtain ⟨text, htext, hget⟩ := OrderedMap.exists_get?_ofList hentry
  obtain ⟨m', hm', heq⟩ := List.mem_map.mp htext
  obtain ⟨u, hu, hgenerate'⟩ := exists_of_mem_mapM hmodules m' hm'
  obtain ⟨hkey', c, model, hc, hmodel, hwrite⟩ := Table.of_generate_eq_ok hgenerate'
  rw [Prod.mk.injEq] at heq
  refine ⟨u, c, model, hu, ?_, hc, hmodel, ?_⟩
  · rw [← hkey', heq.1, hkey]
  · rw [← hkey, hget, ← heq.2, hwrite]

/-- Whether a needed name is exported by the content of the table it is needed from. -/
theorem exports_import_iff {ctx : Context} (hts : ctx.settings.language = .ts)
    {relations : List Relation} {u : Table} {c : ModuleContent}
    (hc : ModuleContent.of ctx relations u = .ok c) {a : Association} {n : String}
    (hn : n ∈ a.imports) : c.Exports ctx a.other.model n ↔
      ¬ (u.primaryKeys = [] ∧ n = a.other.model ++ "Id") := by
  obtain ⟨mixins, s, -, hsection, hs⟩ := ModuleContent.exists_typed hts hc
  obtain ⟨ending, hending, rfl⟩ := Association.exists_ending_of_mem_imports hn
  have hsolid : ∀ ending ∈ ["", "Id", "CreationAttributes"], IsSolid ending := by
    unfold IsSolid
    decide
  have hid : a.other.model ++ ending = a.other.model ++ "Id" ↔ ending = "Id" := by
    simp [← String.toList_inj]
  rw [ModuleContent.exports_iff hts hs (hsolid ending hending), hid]
  have hkey := TypedSection.id_mem_exportEndings hsection
  have hothers := s.mem_exportEndings
  simp only [List.mem_cons, List.not_mem_nil, or_false] at hending
  rcases hending with rfl | rfl | rfl
  · simp [hothers.1]
  · rw [hkey]
    simp
  · simp [hothers.2]

/-- **Which needed names are exported**: of the names that a typed module imports from another,
that one exports all but the type of a primary key that its table does not have. -/
theorem exports_needed_iff {ctx : Context} (hts : ctx.settings.language = .ts) {d : Database}
    (hd : d.RefersToTables ctx.settings) {texts : OrderedMap String}
    (h : d.generate ctx = .ok texts) {t : Table} (ht : t ∈ d.tables) :
    ∃ mixins, Mixins.of d.relations (ctx.indent 1) t.name.qualified = .ok mixins ∧
      ∀ e ∈ mixins.needed, ∃ u c model, d.Serves ctx texts e.1 u c model ∧
        ∀ n ∈ e.2, c.Exports ctx model n ↔ ¬ (u.primaryKeys = [] ∧ n = model ++ "Id") := by
  obtain ⟨modules, hmodules, -⟩ := bind_eq_ok.mp h
  obtain ⟨m, -, hgenerate⟩ := exists_mem_of_mapM hmodules t ht
  obtain ⟨-, c₀, -, hc₀, -, -⟩ := Table.of_generate_eq_ok hgenerate
  obtain ⟨mixins, -, hmixins, -, -⟩ := ModuleContent.exists_typed hts hc₀
  refine ⟨mixins, hmixins, fun e he => ?_⟩
  obtain ⟨texts', -, hneeded⟩ := bind_eq_ok.mp hmixins
  cases hneeded
  have hcomes := NeededTypes.comesFrom_ofAssociations _ e (List.mem_filter.mp he).1
  have hother : ∀ a ∈ associationsOf d.relations t.name.qualified,
      (∃ v ∈ d.tables, v.name.qualified = a.other.table) ∧
        ∀ v ∈ d.tables, v.name.qualified = a.other.table →
          ctx.settings.modelName v = .ok a.other.model := by
    intro a ha
    refine hd a.relation (relation_mem_of_mem_associationsOf ha) a.other ?_
    unfold Association.other
    split <;> simp
  -- the table that is needed is one of the database, so its name has a module
  obtain ⟨a, ha, htable⟩ := hcomes.1
  obtain ⟨v, hv, hvname⟩ := (hother a ha).1
  obtain ⟨u, c, model, hserves⟩ := exists_serves h hv
  rw [hvname, htable] at hserves
  refine ⟨u, c, model, hserves, fun n hn => ?_⟩
  -- the name may come from another association, but with the same table and so the same model
  obtain ⟨b, hb, hbtable, hbimports⟩ := hcomes.2 n hn
  have hmodel := (hother b hb).2 u hserves.mem (hserves.qualified.trans hbtable.symm)
  rw [hserves.named, Except.ok.injEq] at hmodel
  rw [hmodel]
  exact exports_import_iff hts hserves.content hbimports

/-- Users, with or without a primary key. -/
def users (keyed : Bool) : Table := {
  name := { schema := none, name := "users" }
  fields := [{ name := "email", sqlType := "text", primaryKey := keyed }] }

/-- Profiles of users. -/
def profiles : Table := {
  name := { schema := none, name := "profiles" }
  fields := [{ name := "id", sqlType := "int", primaryKey := true }] }

/-- Users with one profile each. -/
def userProfiles (keyed : Bool) : Database := {
  tables := [users keyed, profiles]
  relations := [{
    parent := { table := "users", model := "users", property := "user", key := "email" }
    child := { table := "profiles", model := "profiles", property := "profile", key := "email" }
    isOne := true }] }

/-- Typed modules without any other choices. -/
def typedContext : Context := ⟨{ language := .ts }, .sqlite⟩

theorem refersToTables_userProfiles (keyed : Bool) :
    (userProfiles keyed).RefersToTables typedContext.settings := by
  have hnamed : ∀ name, isReserved true name = false →
      (Except.ok (avoidReserved true name) : Except InflectionFailure String) = .ok name := by
    intro name h
    rw [avoidReserved, h]
    rfl
  have htables : ∀ t ∈ (userProfiles keyed).tables,
      Settings.modelName typedContext.settings t = .ok t.name.qualified := by
    unfold userProfiles
    rw [List.forall_mem_cons, List.forall_mem_singleton]
    exact ⟨hnamed "users" (by decide), hnamed "profiles" (by decide)⟩
  have hends : ∀ r ∈ (userProfiles keyed).relations, ∀ e ∈ [r.parent, r.child], e.model = e.table ∧
      ∃ t ∈ (userProfiles keyed).tables, t.name.qualified = e.table := by
    unfold userProfiles
    rw [List.forall_mem_singleton, List.forall_mem_cons, List.forall_mem_singleton]
    exact ⟨⟨rfl, _, .head _, rfl⟩, ⟨rfl, _, .tail _ (.head _), rfl⟩⟩
  intro r hr e he
  obtain ⟨hmodel, hexists⟩ := hends r hr e he
  refine ⟨hexists, fun t ht hname => ?_⟩
  rw [htables t ht, hname, hmodel]

theorem exports_needed_iff_userProfiles :
    ∃ texts, (userProfiles true).generate typedContext = .ok texts ∧ ∃ mixins,
      Mixins.of (userProfiles true).relations (typedContext.indent 1) profiles.name.qualified
        = .ok mixins ∧
      ∀ e ∈ mixins.needed, ∃ u c model,
        (userProfiles true).Serves typedContext texts e.1 u c model ∧
        ∀ n ∈ e.2, c.Exports typedContext model n ↔
          ¬ (u.primaryKeys = [] ∧ n = model ++ "Id") := by
  obtain ⟨texts, h, -⟩ := exists_ok_of_any (x := (userProfiles true).generate typedContext)
    (p := fun _ => true) (by decide +kernel)
  have hmem : profiles ∈ (userProfiles true).tables := .tail _ (.head _)
  exact ⟨texts, h, exports_needed_iff rfl (refersToTables_userProfiles true) h hmem⟩

/-- Without a primary key, the type of the key of a user is imported from a module that does not
export it. -/
theorem userProfiles_import_unexported : (userProfiles false).RefersToTables typedContext.settings ∧
    ∃ texts, (userProfiles false).generate typedContext = .ok texts ∧
    ∃ mixins, Mixins.of (userProfiles false).relations (typedContext.indent 1)
        profiles.name.qualified = .ok mixins ∧
      ("users", ["users", "usersId"]) ∈ mixins.needed ∧
      ∃ c, (userProfiles false).Serves typedContext texts "users" (users false) c "users" ∧
        ¬ c.Exports typedContext "users" "usersId" := by
  obtain ⟨texts, h, -⟩ := exists_ok_of_any (x := (userProfiles false).generate typedContext)
    (p := fun _ => true) (by decide +kernel)
  obtain ⟨mixins, hmixins, hneeded⟩ := exists_ok_of_any
    (x := Mixins.of (userProfiles false).relations (typedContext.indent 1) profiles.name.qualified)
    (p := fun mixins => mixins.needed.contains ("users", ["users", "usersId"])) (by decide +kernel)
  have hmem : users false ∈ (userProfiles false).tables := .head _
  obtain ⟨u, c, model, hserves⟩ := exists_serves h hmem
  have hu : u = users false := by
    rcases List.mem_cons.mp hserves.mem with hu | hu
    · exact hu
    · have hname := hserves.qualified
      rw [List.mem_singleton.mp hu] at hname
      exact absurd hname (by decide)
  subst hu
  have hmodel : "users" = model := by
    have hends := refersToTables_userProfiles false _ (.head _) _ (.head _)
    have hnamed := hends.2 (users false) hmem rfl
    rw [hserves.named] at hnamed
    cases hnamed
    rfl
  subst hmodel
  refine ⟨refersToTables_userProfiles false, texts, h, mixins, hmixins,
    List.contains_iff_mem.mp hneeded, c, hserves, ?_⟩
  obtain ⟨_, s, -, hsection, hs⟩ := ModuleContent.exists_typed rfl hserves.content
  have hname : "usersId" = "users" ++ "Id" := by decide
  rw [hname, ModuleContent.exports_iff rfl hs ⟨by decide, by decide⟩]
  intro hid
  exact (TypedSection.id_mem_exportEndings hsection).mp hid rfl

end Database

end SchemaModels
