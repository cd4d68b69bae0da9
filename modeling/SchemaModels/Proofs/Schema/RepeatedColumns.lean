import Mathlib.Data.List.Nodup
import SchemaModels.Proofs.Schema.ReadBack

/-!
# Columns that are given more than once

A list of columns is rid of repeated names in several places, each in its own way. Reading a table
keeps a column unless one of those kept so far has its name. The columns of a table that was put
together by hand are those with nothing of the same name before them in the list. And adding columns
one by one asks the table for the name before each of them.

All of them give the first column of each name (`KeepsFirst`). For reading and viewing this is known
already; adding goes through the columns as reading does (`Table.foldl_addColumn`).
-/

namespace SchemaModels

open Decoder

/-- The names are those that were given, each where it first came. -/
theorem map_name_firstOfEachName (cs : List Column) :
    (firstOfEachName cs).map (·.name) = (cs.map (·.name)).eraseDups := by
  induction cs using List.reverseRecOn with
  | nil => rfl
  | append_singleton cs c ih =>
    rw [firstOfEachName_concat, keepUnseen, hasName_firstOfEachName, List.map_append,
      List.map_singleton, eraseDups_concat, ← ih]
    by_cases hseen : c.name ∈ cs.map (·.name)
    · rw [if_pos (hasName_iff.mpr hseen), if_pos hseen]
    · rw [if_neg (mt hasName_iff.mp hseen), if_neg hseen, List.map_append, List.map_singleton]

/-- The table with one more column has the columns that were kept. -/
theorem Table.addColumn_eq (t : Table) (c : Column) :
    t.addColumn c = { t with fields := keepUnseen t.fields c } := by
  have hfound : (t.column? c.name).isNone = !hasName c.name t.fields := by
    rw [column?, hasName, ← List.isSome_find?, Option.not_isSome]
  rw [addColumn, hfound, keepUnseen]
  cases hasName c.name t.fields with
  | true => rfl
  | false => rfl

/-- **Adding columns one by one goes through them as reading does.** -/
theorem Table.foldl_addColumn (cs : List Column) (t : Table) :
    cs.foldl addColumn t = { t with fields := cs.foldl keepUnseen t.fields } := by
  induction cs generalizing t with
  | nil => rfl
  | cons c cs ih => rw [List.foldl_cons, addColumn_eq, ih, List.foldl_cons]

/-! ## Reading -/

/-- No other member changes the columns. -/
theorem Table.fields_setMember_of_ne {key : String} (hkey : key ≠ "fields") {v : Json} {a b : Table}
    (h : setMember key v a = .ok b) : b.fields = a.fields := by
  unfold setMember at h
  split at h
  case h_2 => exact absurd rfl hkey
  case h_6 => cases h; rfl
  all_goals
    obtain ⟨x, _, hb⟩ := bind_eq_ok.mp h
    cases hb
    rfl

theorem Table.fields_of_takes : ∀ {ms : List (String × Json)} {a b : Table},
    (∀ m ∈ ms, m.1 ≠ "fields") → Takes setMember a ms b → b.fields = a.fields := by
  intro ms
  induction ms with
  | nil => intro a b _ h; cases h; rfl
  | cons m ms ih =>
    intro a b hms h
    rw [Takes, List.foldlM_cons] at h
    obtain ⟨s, hs, hrest⟩ := bind_eq_ok.mp h
    rw [ih (fun n hn => hms n (List.mem_cons_of_mem m hn)) hrest]
    exact fields_setMember_of_ne (hms m List.mem_cons_self) hs

/-- **A table that is read has the columns that its last list of them comes to.** -/
theorem Table.fields_of_decode {front back : List (String × Json)} {v : Json} {given : List Column}
    (hgiven : list Column.decode v = .ok given) (hback : ∀ m ∈ back, m.1 ≠ "fields") {t : Table}
    (h : Table.decode (.obj (front ++ ("fields", v) :: back)) = .ok t) :
    t.fields = given.foldl keepUnseen [] := by
  obtain ⟨all, hall, hrequired⟩ := bind_eq_ok.mp h
  have ht : all = t := by
    split at hrequired
    · cases hrequired
    · exact Except.ok.inj hrequired
  subst ht
  rw [List.foldlM_append] at hall
  obtain ⟨before, _, hrest⟩ := bind_eq_ok.mp hall
  rw [List.foldlM_cons] at hrest
  obtain ⟨after, hafter, hlater⟩ := bind_eq_ok.mp hrest
  obtain ⟨read, hread, hset⟩ := bind_eq_ok.mp hafter
  cases hgiven.symm.trans hread
  cases hset
  exact fields_of_takes hback hlater

/-- A name and a list of columns make a table. -/
theorem Table.decode_fields {v : Json} {given : List Column}
    (hgiven : list Column.decode v = .ok given) (name : String) :
    Table.decode (.obj [("name", .str name), ("fields", v)])
      = .ok { name := .parse name, fields := given.foldl keepUnseen [] } :=
  record_of_takes (by simp)
    (.cons rfl (.cons (bind_eq_ok.mpr ⟨given, hgiven, rfl⟩) .nil))

/-! ## All ways -/

/-- The columns that were kept are what the given ones come to, whatever way they take. -/
structure KeepsFirst (given kept : List Column) : Prop where
  /-- Keeping a column unless its name was kept. -/
  scanned : given.foldl keepUnseen [] = kept
  /-- Dropping a column if its name was given before. -/
  lookedBack : unrepeated given = kept
  /-- They can be read as the columns of a table, -/
  read : ∀ v, list Column.decode v = .ok given → ∀ name,
    Table.decode (.obj [("name", .str name), ("fields", v)])
      = .ok { name := .parse name, fields := kept }
  /-- and whatever else is read with them, the table has the columns that were kept. -/
  readAmong : ∀ v, list Column.decode v = .ok given → ∀ front back t,
    (∀ m ∈ back, m.1 ≠ "fields") →
      Table.decode (.obj (front ++ ("fields", v) :: back)) = .ok t → t.fields = kept
  /-- The columns of a table that has been given them all. -/
  viewed : ∀ t : Table, t.fields = given → t.columns = kept
  /-- Adding them one by one to a table without any. -/
  added : ∀ t : Table, t.fields = [] → given.foldl Table.addColumn t = { t with fields := kept }
  nodup : (kept.map (·.name)).Nodup
  /-- The names that were given, each where it first came. -/
  names : kept.map (·.name) = (given.map (·.name)).eraseDups
  /-- There is nothing left to drop. -/
  settled : ∀ t : Table, t.fields = kept → t.columns = kept
  /-- Looking for a name among all that were given finds the column that was kept. -/
  found : ∀ t : Table, t.fields = given → ∀ name c,
    t.column? name = some c ↔ c ∈ kept ∧ c.name = name

theorem nodup_name_firstOfEachName (cs : List Column) :
    ((firstOfEachName cs).map (·.name)).Nodup :=
  List.pairwise_map.mpr (pairwise_firstOfEachName cs)

/-- Where no name repeats, the column found under a name is the one that has it. -/
theorem find?_name_eq_some_iff {cs : List Column} (h : (cs.map (·.name)).Nodup) {name : String}
    {c : Column} : cs.find? (·.name == name) = some c ↔ c ∈ cs ∧ c.name = name := by
  constructor
  · intro hfound
    exact ⟨List.mem_of_find?_eq_some hfound, by simpa using List.find?_some hfound⟩
  · rintro ⟨hc, rfl⟩
    have hsome : (cs.find? (·.name == c.name)).isSome = true :=
      List.find?_isSome.mpr ⟨c, hc, by simp⟩
    obtain ⟨d, hd⟩ := Option.isSome_iff_exists.mp hsome
    have hsame : d = c := List.inj_on_of_nodup_map h (List.mem_of_find?_eq_some hd) hc
      (by simpa using List.find?_some hd)
    exact hsame ▸ hd

/-- **Reading a table, looking at its columns and adding columns one by one keep the same ones**:
the first of each name. -/
theorem keepsFirst_firstOfEachName (given : List Column) :
    KeepsFirst given (firstOfEachName given) where
  scanned := foldl_keepUnseen given
  lookedBack := unrepeated_eq given
  read := by
    intro v hv name
    rw [Table.decode_fields hv, foldl_keepUnseen]
  readAmong := by
    intro v hv front back t hback h
    rw [Table.fields_of_decode hv hback h, foldl_keepUnseen]
  viewed := by
    rintro t rfl
    exact t.columns_eq
  added := by
    intro t ht
    rw [Table.foldl_addColumn, ht, foldl_keepUnseen]
  nodup := nodup_name_firstOfEachName given
  names := map_name_firstOfEachName given
  settled := by
    intro t ht
    rw [Table.columns_eq, ht]
    exact firstOfEachName_of_pairwise (pairwise_firstOfEachName given)
  found := by
    rintro t rfl name c
    rw [Table.column?, ← find?_firstOfEachName]
    exact find?_name_eq_some_iff (nodup_name_firstOfEachName _)

end SchemaModels
