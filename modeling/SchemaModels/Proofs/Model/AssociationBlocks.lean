import SchemaModels.Proofs.Model.Needed
import SchemaModels.Proofs.Naming.TameWords
import SchemaModels.Proofs.Traversal

/-!
# Associations against relations

Each table works out its associations from the relations on its own. Over distinct tables that are
named with their schemas, this neither loses nor doubles any: a relation is seen from each of its
sides (`Relation.sides`) that is among the tables, and from nowhere else
(`associations_perm_sides`). An association with many rows can be written if its property has both
forms (`Association.succeeds_render_iff`).
-/

namespace SchemaModels

open Naming Text

/-- The sides of a relation: the tables that see it, and how. The child of a relation belongs to
its parent, and the parent has the child, unless they are the same table. A many-to-many relation
has the side of its parent only. -/
def Relation.sides (r : Relation) : List (String × Association) :=
  if r.isManyToMany then [(r.parent.table, ⟨.belongsToMany, r⟩)]
  else
    (r.child.table, ⟨.belongsTo, r⟩) ::
      if r.parent.table = r.child.table then []
      else [(r.parent.table, ⟨if r.isOne then .hasOne else .hasMany, r⟩)]

/-- The property of the child has a singular and a plural. -/
def Relation.HasForms (r : Relation) : Prop :=
  ∃ singular plural, Naming.singularize r.child.property = .ok singular ∧
    Naming.pluralize r.child.property = .ok plural

/-- Items grouped by a key are the items with one of the keys, if the keys are distinct. -/
theorem flatMap_filter_key_perm {α κ : Type} [DecidableEq κ] (key : α → κ) (items : List α) :
    ∀ {keys : List κ}, keys.Nodup →
      (keys.flatMap fun k => items.filter (key · = k)).Perm (items.filter (key · ∈ keys)) := by
  intro keys hkeys
  induction keys with
  | nil => simp
  | cons k keys ih =>
    obtain ⟨hk, hkeys⟩ := List.nodup_cons.mp hkeys
    -- the group of `k` and the rest are what a filter takes from the items and leaves
    have htaken : items.filter (key · = k)
        = (items.filter (key · ∈ k :: keys)).filter (key · = k) := by
      rw [List.filter_filter]
      refine List.filter_congr fun a _ => ?_
      by_cases ha : key a = k <;> simp [ha]
    have hleft : items.filter (key · ∈ keys)
        = (items.filter (key · ∈ k :: keys)).filter fun a => !decide (key a = k) := by
      rw [List.filter_filter]
      refine List.filter_congr fun a _ => ?_
      by_cases ha : key a = k <;> simp [ha, hk]
    calc ((k :: keys).flatMap fun k => items.filter (key · = k))
      _ = items.filter (key · = k) ++ keys.flatMap fun k => items.filter (key · = k) :=
          List.flatMap_cons
      _ |>.Perm (items.filter (key · = k) ++ items.filter (key · ∈ keys)) :=
          (ih hkeys).append_left _
      _ |>.Perm (items.filter (key · ∈ k :: keys)) := by
          rw [htaken, hleft]
          exact List.filter_append_perm _ _

/-- A table sees a relation as the side of that table. -/
theorem Association.toList_of? (r : Relation) (table : String) :
    (Association.of? r table).toList.map (table, ·) = r.sides.filter (·.1 = table) := by
  unfold Association.of? Relation.sides
  by_cases hmany : r.isManyToMany = true
  · by_cases hparent : r.parent.table = table <;> simp [hmany, hparent]
  · by_cases hself : r.parent.table = r.child.table
    · rw [if_neg hmany, if_neg hmany, if_pos hself]
      by_cases hchild : r.child.table = table <;> simp [hself, hchild]
    · by_cases hchild : r.child.table = table
      · have hparent : r.parent.table ≠ table := fun h => hself (h.trans hchild.symm)
        simp [hmany, hchild, hparent]
      · rw [if_neg hmany, if_neg hmany, if_neg hchild, if_neg hself]
        by_cases hparent : r.parent.table = table <;> simp [hchild, hparent]

/-- A table sees a relation as the association just if that is a side of the relation. -/
theorem Association.of?_eq_some_iff {r : Relation} {table : String} {a : Association} :
    Association.of? r table = some a ↔ (table, a) ∈ r.sides := by
  have hsides : (table, a) ∈ r.sides ↔ (table, a) ∈ r.sides.filter (·.1 = table) := by simp
  rw [hsides, ← Association.toList_of?]
  simp

/-- A name with a dot is known as it is. -/
theorem qualifyFor_of_dotted {table : String} (hdotted : '.' ∈ table.toList)
    (relations : List Relation) : qualifyFor relations table = table := by
  have hdot : table.toList.contains '.' = true := List.contains_iff_mem.mpr hdotted
  rw [qualifyFor, hdot, Bool.true_or, if_pos rfl]

/-- The associations of a table are its sides of the relations, in the order of these. -/
theorem map_associationsOf {table : String} (hdotted : '.' ∈ table.toList)
    (relations : List Relation) :
    (associationsOf relations table).map (table, ·)
      = (relations.flatMap Relation.sides).filter (·.1 = table) := by
  rw [associationsOf, qualifyFor_of_dotted hdotted]
  induction relations with
  | nil => rfl
  | cons r relations ih =>
    rw [List.flatMap_cons, List.filter_append, ← Association.toList_of?, ← ih]
    cases hr : Association.of? r table <;> simp [hr]

/-- The table has any number of rows of the other. -/
def Association.IsMany (a : Association) : Prop :=
  a.kind = .hasMany ∨ a.kind = .belongsToMany

/-- An association with many rows needs both forms of its property. -/
theorem Association.succeeds_render_iff {a : Association} {blanks : String} :
    Succeeds (a.render blanks) ↔ (a.IsMany →
      Succeeds (singularize a.other.property) ∧ Succeeds (pluralize a.other.property)) := by
  have hboth : Succeeds (do
      let singular ← singularize a.other.property
      let plural ← pluralize a.other.property
      return a.collectionDeclarations singular plural) ↔
        Succeeds (singularize a.other.property) ∧ Succeeds (pluralize a.other.property) :=
    succeeds_bind_iff fun _ _ => succeeds_bind_pure_iff
  unfold render
  refine succeeds_bind_pure_iff.trans ?_
  unfold declarations IsMany
  split
  · next hkind => exact iff_of_true (succeeds_ok _) (by simp [hkind])
  · next hkind => exact iff_of_true (succeeds_ok _) (by simp [hkind])
  · next hkind => rw [hboth]; simp [hkind]
  · next hkind => rw [hboth]; simp [hkind]

theorem Mixins.succeeds_of_iff {relations : List Relation} {blanks table : String} :
    Succeeds (Mixins.of relations blanks table) ↔ ∀ a ∈ associationsOf relations table, a.IsMany →
      Succeeds (singularize a.other.property) ∧ Succeeds (pluralize a.other.property) := by
  refine (succeeds_bind_pure_iff.trans succeeds_mapM_iff).trans ?_
  exact forall₂_congr fun a _ => Association.succeeds_render_iff

/-- An association can be written if the property of the child has a singular and a plural. -/
theorem Association.succeeds_render_of_hasForms {a : Association} (h : a.relation.HasForms)
    (blanks : String) : Succeeds (a.render blanks) := by
  obtain ⟨singular, plural, hsingular, hplural⟩ := h
  refine succeeds_render_iff.mpr fun hmany => ?_
  have hchild : a.other = a.relation.child := by
    unfold other
    rcases hmany with hkind | hkind <;> rw [hkind]
  rw [hchild]
  exact ⟨⟨singular, hsingular⟩, ⟨plural, hplural⟩⟩

/-- A table is given the blocks of its associations, one after the other. -/
theorem exists_mixins {relations : List Relation} (hforms : ∀ r ∈ relations, r.HasForms)
    (blanks table : String) : ∃ texts m,
      (associationsOf relations table).mapM (·.render blanks) = .ok texts ∧
      Mixins.of relations blanks table = .ok m ∧ m.text = String.join texts := by
  have hrender : ∀ a ∈ associationsOf relations table, Succeeds (a.render blanks) :=
    fun a ha => Association.succeeds_render_of_hasForms
      (hforms _ (relation_mem_of_mem_associationsOf ha)) blanks
  obtain ⟨texts, htexts⟩ := succeeds_mapM_iff.mpr hrender
  exact ⟨texts, _, htexts, bind_eq_ok.mpr ⟨texts, htexts, rfl⟩, rfl⟩

/-- **Relations are neither lost nor doubled.** Each table is given a block for every side of a
relation that is its own, in the order of the relations, and over distinct tables with dotted names
the blocks are the sides of the relations that are among the tables, each once. -/
theorem associations_perm_sides {relations : List Relation} {tables : List String}
    (hforms : ∀ r ∈ relations, r.HasForms) (hdistinct : tables.Nodup)
    (hdotted : ∀ table ∈ tables, '.' ∈ table.toList) (blanks : String) :
    (∀ table ∈ tables,
      (∃ texts m, (associationsOf relations table).mapM (·.render blanks) = .ok texts ∧
        Mixins.of relations blanks table = .ok m ∧ m.text = String.join texts) ∧
      (associationsOf relations table).map (table, ·)
        = (relations.flatMap Relation.sides).filter (·.1 = table)) ∧
    (tables.flatMap fun table => (associationsOf relations table).map (table, ·)).Perm
      ((relations.flatMap Relation.sides).filter (·.1 ∈ tables)) := by
  have hown : ∀ table ∈ tables, (associationsOf relations table).map (table, ·)
      = (relations.flatMap Relation.sides).filter (·.1 = table) :=
    fun table htable => map_associationsOf (hdotted table htable) relations
  refine ⟨fun table htable => ⟨exists_mixins hforms blanks table, hown table htable⟩, ?_⟩
  rw [List.flatMap_def, List.map_congr_left hown, ← List.flatMap_def]
  exact flatMap_filter_key_perm Prod.fst _ hdistinct

/-- Two tables that each refer to the other, one of them to itself as well, and to a third. -/
def blogRelations : List Relation :=
  let user : Endpoint := { table := "blog.users", model := "user", property := "user", key := "id" }
  let post : Endpoint := { table := "blog.posts", model := "post", property := "post", key := "id" }
  let tag : Endpoint := { table := "blog.tags", model := "tag", property := "tag", key := "id" }
  [{ parent := user, child := post }, { parent := post, child := user, isOne := true },
    { parent := post, child := post }, { parent := user, child := post },
    { parent := tag, child := post, isManyToMany := true },
    { parent := post, child := tag, isManyToMany := true }]

theorem associations_perm_sides_blog :
    (["blog.users", "blog.posts"].flatMap fun table =>
      (associationsOf blogRelations table).map fun a => (table, a.word)).Perm
      [("blog.posts", "belongsTo"), ("blog.users", "hasMany"), ("blog.users", "belongsTo"),
        ("blog.posts", "hasOne"), ("blog.posts", "belongsTo"), ("blog.posts", "belongsTo"),
        ("blog.users", "hasMany"), ("blog.posts", "belongsToMany")] := by
  have hforms : ∀ r ∈ blogRelations, r.HasForms := by
    have htame : ∀ r ∈ blogRelations, IsTame r.child.property := by decide
    intro r hr
    obtain ⟨singular, hsingular, -⟩ := singularize_of_isTame (htame r hr)
    obtain ⟨plural, hplural, -⟩ := pluralize_of_isTame (htame r hr)
    exact ⟨singular, plural, hsingular, hplural⟩
  have hdistinct : ["blog.users", "blog.posts"].Nodup := by decide
  have hperm := (associations_perm_sides hforms hdistinct (by decide) "  ").2
  have hwords := hperm.map fun e => (e.1, e.2.word)
  simp only [List.map_flatMap, List.map_map] at hwords
  exact hwords

end SchemaModels
