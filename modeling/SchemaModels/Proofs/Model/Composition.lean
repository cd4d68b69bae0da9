import SchemaModels.Proofs.Model.ModuleContent

/-!
# A run is made of its tables

A run renders its tables one by one, and each text depends on one table alone. The texts are kept by
qualified names, which tables may share: a later text takes the place of an earlier one and its key
stays where it is. `Database.composes` says what the texts of a run are because of that, and what
other tables have to do with a text: nothing.
-/

namespace SchemaModels

/-- Related lists have related last items. -/
theorem exists_getLast?_of_forall₂ {α β : Type} {R : α → β → Prop} {l : List α} {m : List β}
    (h : List.Forall₂ R l m) {a : α} (ha : l.getLast? = some a) :
    ∃ b, m.getLast? = some b ∧ R a b := by
  have hreverse := List.rel_reverse h
  rw [← List.head?_reverse] at ha
  cases hl : l.reverse with
  | nil => rw [hl] at ha; cases ha
  | cons x xs =>
    rw [hl] at ha hreverse
    cases ha
    rw [← List.head?_reverse]
    generalize m.reverse = ys at hreverse ⊢
    cases hreverse with
    | cons hxy _ => exact ⟨_, rfl, hxy⟩

namespace Database

/-- The last of the tables with a qualified name. -/
def lastTable? (d : Database) (qualified : String) : Option Table :=
  (d.tables.filter (·.name.qualified = qualified)).getLast?

variable {ctx : Context} {d : Database} {texts : OrderedMap String}

/-- A run renders every table on its own, and keeps the texts by the qualified names. -/
theorem generate_eq_ok_iff : d.generate ctx = .ok texts ↔ ∃ modules,
    List.Forall₂ (fun t m => t.generate ctx d.relations = .ok m) d.tables modules ∧
      texts = OrderedMap.ofList (modules.map fun m => (m.table, m.text)) := by
  constructor
  · intro h
    obtain ⟨modules, hmodules, htexts⟩ := bind_eq_ok.mp h
    cases htexts
    exact ⟨modules, mapM_eq_ok_iff.mp hmodules, rfl⟩
  · rintro ⟨modules, hmodules, rfl⟩
    exact bind_eq_ok.mpr ⟨modules, mapM_eq_ok_iff.mpr hmodules, rfl⟩

/-- The modules of a run have the qualified names of the tables. -/
theorem map_table_of_forall₂ {relations : List Relation} {tables : List Table}
    {modules : List ModelModule}
    (h : List.Forall₂ (fun t m => t.generate ctx relations = .ok m) tables modules) :
    modules.map (·.table) = tables.map (·.name.qualified) := by
  induction h with
  | nil => rfl
  | cons hm _ ih => rw [List.map_cons, List.map_cons, (Table.of_generate_eq_ok hm).1, ih]

/-- What the texts of a run are, by the tables of the database. -/
structure Composes (ctx : Context) (d : Database) (texts : OrderedMap String) : Prop where
  /-- The keys are the qualified names, each once, in the order in which they first come. -/
  keys : texts.keys = (d.tables.map (·.name.qualified)).eraseDups
  /-- The text under a name is the module of the last table with the name. -/
  text : ∀ qualified t, d.lastTable? qualified = some t →
    ∃ m, t.generate ctx d.relations = .ok m ∧ texts.get? qualified = some m.text
  /-- Tables of other names have nothing to do with it: in a run with other tables, but the same
  last table with the name, the text is the same. -/
  apart : ∀ (d' : Database) (texts' : OrderedMap String), d'.generate ctx = .ok texts' →
    d'.relations = d.relations → ∀ qualified, d'.lastTable? qualified = d.lastTable? qualified →
      texts'.get? qualified = texts.get? qualified
  /-- If no name repeats, the texts are in the order of the tables. -/
  reorder : (d.tables.map (·.name.qualified)).Nodup → ∀ tables, d.tables.Perm tables →
    ∃ texts', { d with tables := tables }.generate ctx = .ok texts' ∧
      texts.entries.Perm texts'.entries

theorem keys_of_generate (h : d.generate ctx = .ok texts) :
    texts.keys = (d.tables.map (·.name.qualified)).eraseDups := by
  obtain ⟨modules, hmodules, rfl⟩ := generate_eq_ok_iff.mp h
  rw [OrderedMap.keys_ofList, List.map_map, ← map_table_of_forall₂ hmodules]
  rfl

/-- A later text takes the place of an earlier one. -/
theorem get?_of_generate (h : d.generate ctx = .ok texts) {qualified : String} {t : Table}
    (ht : d.lastTable? qualified = some t) :
    ∃ m, t.generate ctx d.relations = .ok m ∧ texts.get? qualified = some m.text := by
  obtain ⟨modules, hmodules, rfl⟩ := generate_eq_ok_iff.mp h
  -- the tables with the name and the modules with the name go together
  have hnamed : List.Forall₂ (fun t m => t.generate ctx d.relations = .ok m)
      (d.tables.filter (·.name.qualified = qualified)) (modules.filter (·.table = qualified)) := by
    refine List.rel_filter (fun t m hm => ?_) hmodules
    simp only [(Table.of_generate_eq_ok hm).1]
  obtain ⟨m, hlast, hm⟩ := exists_getLast?_of_forall₂ hnamed ht
  refine ⟨m, hm, ?_⟩
  rw [OrderedMap.get?_ofList, List.filter_map, List.getLast?_map]
  exact congrArg (fun m? => (m?.map fun m => (m.table, m.text)).map (·.2)) hlast

/-- The name of every table has a text. -/
theorem exists_text_of_generate (h : d.generate ctx = .ok texts) {t : Table} (ht : t ∈ d.tables) :
    ∃ text, texts.get? t.name.qualified = some text := by
  have hnamed : t ∈ d.tables.filter (·.name.qualified = t.name.qualified) :=
    List.mem_filter.mpr ⟨ht, decide_eq_true rfl⟩
  obtain ⟨last, hlast⟩ := Option.isSome_iff_exists.mp
    (List.getLast?_isSome.mpr (List.ne_nil_of_mem hnamed))
  obtain ⟨m, -, htext⟩ := get?_of_generate h hlast
  exact ⟨m.text, htext⟩

/-- A name without a table has no text. -/
theorem get?_eq_none (h : d.generate ctx = .ok texts) {qualified : String}
    (hnone : d.lastTable? qualified = none) : texts.get? qualified = none := by
  have hfree : ∀ t ∈ d.tables, t.name.qualified ≠ qualified := by
    simpa [lastTable?] using hnone
  rw [Option.eq_none_iff_forall_ne_some]
  intro text htext
  have hentry := OrderedMap.get?_eq_some_iff.mp htext
  obtain ⟨t, ht, c, model, -, -, hsame⟩ := of_mem_generate h hentry
  exact hfree t ht (congrArg Prod.fst hsame).symm

/-- **A run is made of its tables**: each name has the text of the last table with the name, and no
other table has anything to do with it. -/
theorem composes (h : d.generate ctx = .ok texts) : d.Composes ctx texts where
  keys := keys_of_generate h
  text := fun _ _ ht => get?_of_generate h ht
  apart := by
    intro d' texts' h' hrelations qualified hsame
    cases ht : d.lastTable? qualified with
    | none => rw [get?_eq_none h ht, get?_eq_none h' (hsame.trans ht)]
    | some t =>
      obtain ⟨m, hm, htext⟩ := get?_of_generate h ht
      obtain ⟨m', hm', htext'⟩ := get?_of_generate h' (hsame.trans ht)
      rw [hrelations, hm] at hm'
      cases hm'
      rw [htext, htext']
  reorder := by
    intro hnodup tables hperm
    obtain ⟨modules, hmodules, rfl⟩ := generate_eq_ok_iff.mp h
    obtain ⟨modules', hmodules', hsame⟩ := exists_mapM_perm hperm (mapM_eq_ok_iff.mpr hmodules)
    have hentries : (modules.map fun m => (m.table, m.text)).Perm
        (modules'.map fun m => (m.table, m.text)) := hsame.map _
    have hkeys : ((modules.map fun m => (m.table, m.text)).map (·.1)).Nodup := by
      rw [List.map_map]
      exact (map_table_of_forall₂ hmodules).symm ▸ hnodup
    refine ⟨_, generate_eq_ok_iff.mpr ⟨modules', mapM_eq_ok_iff.mp hmodules', rfl⟩, ?_⟩
    rw [OrderedMap.entries_ofList hkeys,
      OrderedMap.entries_ofList ((hentries.map Prod.fst).nodup_iff.mp hkeys)]
    exact hentries

/-- A table that comes twice, with a title the second time, and another in between. -/
def revisedPosts : Database := {
  tables := [
    { name := ⟨none, "posts"⟩, fields := [{ name := "id", sqlType := "int" }] },
    { name := ⟨none, "users"⟩, fields := [{ name := "place", sqlType := "geometry" }] },
    { name := ⟨none, "posts"⟩, fields := [{ name := "title", sqlType := "text" }] }] }

theorem composes_revisedPosts :
    ∃ texts, revisedPosts.generate ⟨{ language := .ts }, .mysql⟩ = .ok texts ∧
      texts.keys = ["posts", "users"] ∧
      ∃ m, Table.generate ⟨{ language := .ts }, .mysql⟩ []
          { name := ⟨none, "posts"⟩, fields := [{ name := "title", sqlType := "text" }] } = .ok m ∧
        texts.get? "posts" = some m.text := by
  obtain ⟨texts, htexts, -⟩ := exists_ok_of_any
    (x := revisedPosts.generate ⟨{ language := .ts }, .mysql⟩) (p := fun _ => true)
    (by decide +kernel)
  have hcomposes := composes htexts
  exact ⟨texts, htexts, hcomposes.keys.trans (by decide), hcomposes.text "posts" _ rfl⟩

end Database
end SchemaModels
