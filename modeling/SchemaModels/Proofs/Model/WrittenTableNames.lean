import Mathlib.Data.List.Basic
import SchemaModels.Proofs.Model.AssociationBlocks
import SchemaModels.Proofs.Naming.QualifiedNames

/-!
# Tables under the names that are written

Relations name their tables with schemas, as a rule, and a table that is asked for without one is
given the schema of the first child (`qualifyFor`). The name is kept as it is written if it has a
dot, if a relation has it for its child, or if that first child has no schema either
(`qualifyFor_eq_self_iff`). Otherwise it has a dot from then on, so that asking under the new name
changes nothing (`qualifyFor_qualifyFor`).

A relation may name a table without a schema all the same. Its child loses nothing by this, since
the name of a child is kept. For its parent the relation is lost if another relation brings in a
schema: `Mixins.blocks_of_sides` says when.
-/

namespace SchemaModels

/-! ## The name that is known -/

/-- The table is known under the name that is written. -/
def KeepsName (relations : List Relation) (table : String) : Prop :=
  '.' ∈ table.toList ∨ (∃ r ∈ relations, r.child.table = table) ∨
    ∀ r ∈ relations.find? (·.child.table ≠ ""), (TableName.split r.child.table).1 = none

instance (relations : List Relation) (table : String) : Decidable (KeepsName relations table) :=
  inferInstanceAs (Decidable (_ ∨ _ ∨ _))

/-- A schema that a name is split into has characters. -/
theorem TableName.schema_ne_empty {qualified schema : String}
    (h : (TableName.split qualified).1 = some schema) : schema ≠ "" := by
  have hcut : IsCut ⟨some schema, (split qualified).2⟩ := h ▸ isCut_parse qualified
  exact hcut.1

section Known

variable {relations : List Relation} {table : String}

/-- A name that is not kept gets a schema before it. -/
theorem exists_qualifyFor_eq (h : ¬ KeepsName relations table) :
    ∃ schema, schema ≠ "" ∧ qualifyFor relations table = schema ++ "." ++ table := by
  rw [KeepsName, not_or, not_or] at h
  obtain ⟨hdot, hchild, hfirst⟩ := h
  rw [not_forall] at hfirst
  obtain ⟨r, hr⟩ := hfirst
  rw [not_forall] at hr
  obtain ⟨hfind, hsome⟩ := hr
  obtain ⟨schema, hschema⟩ := Option.ne_none_iff_exists'.mp hsome
  have hne := TableName.schema_ne_empty hschema
  have hguard : (table.toList.contains '.' || relations.any (·.child.table = table)) = false := by
    simpa [hdot] using hchild
  refine ⟨schema, hne, ?_⟩
  rw [qualifyFor, hguard, if_neg Bool.false_ne_true, Option.mem_def.mp hfind]
  dsimp only
  rw [hschema, TableName.join, if_neg hne]

theorem qualifyFor_eq_self_iff : qualifyFor relations table = table ↔ KeepsName relations table := by
  constructor
  · intro hsame
    refine Decidable.byContradiction fun h => ?_
    obtain ⟨schema, -, hqualified⟩ := exists_qualifyFor_eq h
    have hlength := congrArg String.length (hqualified.symm.trans hsame)
    rw [String.length_append, String.length_append] at hlength
    have hdot : ".".length = 1 := rfl
    omega
  · rintro (hdot | ⟨r, hr, hchild⟩ | hfirst)
    · exact qualifyFor_of_dotted hdot relations
    · have hany : relations.any (·.child.table = table) = true :=
        List.any_eq_true.mpr ⟨r, hr, decide_eq_true hchild⟩
      rw [qualifyFor, hany, Bool.or_true, if_pos rfl]
    · rw [qualifyFor]
      split
      · rfl
      split
      · next r hr => rw [hfirst r hr, TableName.join]
      · rfl

/-- The name that is known is known as it is. -/
theorem qualifyFor_qualifyFor (relations : List Relation) (table : String) :
    qualifyFor relations (qualifyFor relations table) = qualifyFor relations table := by
  by_cases h : KeepsName relations table
  · rw [qualifyFor_eq_self_iff.mpr h, qualifyFor_eq_self_iff.mpr h]
  · obtain ⟨schema, -, hqualified⟩ := exists_qualifyFor_eq h
    rw [hqualified]
    exact qualifyFor_of_dotted (by simp) relations

end Known

/-! ## What is seen under it -/

namespace Association

variable {r : Relation} {table : String} {a : Association}

/-- A table sees its own end of a relation under its name. -/
theorem own_table_of_of? (h : of? r table = some a) : a.own.table = table := by
  unfold of? at h
  repeat' split at h
  all_goals cases h
  all_goals first
    | exact ‹r.child.table = table›
    | exact ‹r.parent.table = table›

/-- What belongs to a parent is a child. -/
theorem child_table_of_belongsTo (h : of? r table = some a) (hkind : a.kind = .belongsTo) :
    r.child.table = table := by
  have hown := own_table_of_of? h
  rwa [own, hkind, relation_of_of? h] at hown

end Association

/-- A relation is seen as often as it is there, if the table is known under the name of the side,
and else not at all. -/
theorem count_associationsOf {relations : List Relation} {r : Relation} {table : String}
    {a : Association} (h : (table, a) ∈ r.sides) :
    (associationsOf relations table).count a
      = if KeepsName relations table then relations.count r else 0 := by
  have ha := Association.of?_eq_some_iff.mpr h
  rw [associationsOf, List.count_filterMap]
  split
  · next hkeeps =>
    rw [qualifyFor_eq_self_iff.mpr hkeeps, List.count]
    refine List.countP_congr fun r' _ => ?_
    rw [beq_iff_eq, beq_iff_eq]
    constructor
    · intro hr'
      rw [← Association.relation_of_of? hr', Association.relation_of_of? ha]
    · rintro rfl
      exact ha
  · next hkeeps =>
    rw [List.countP_eq_zero]
    intro r' _ hr'
    have hown := Association.own_table_of_of? (eq_of_beq hr')
    rw [Association.own_table_of_of? ha] at hown
    exact hkeeps (qualifyFor_eq_self_iff.mp hown.symm)

/-- The text of the mixins of a table is made of the blocks of its associations. -/
theorem Mixins.map_text_of (relations : List Relation) (blanks table : String) :
    (Mixins.of relations blanks table).map (·.text)
      = ((associationsOf relations table).mapM (Association.render blanks)).map String.join := by
  rw [Mixins.of]
  cases (associationsOf relations table).mapM (Association.render blanks) <;> rfl

/-- **What becomes of the relations that name the table as it is written.** A child is given a
block for each of them, and so is a parent if its name is kept; otherwise it is given none. -/
theorem Mixins.blocks_of_sides (relations : List Relation) (blanks table : String) :
    (Mixins.of relations blanks table).map (·.text)
        = ((associationsOf relations table).mapM (Association.render blanks)).map String.join ∧
      ∀ r ∈ relations, ∀ a, (table, a) ∈ r.sides →
        (associationsOf relations table).count a
          = if a.kind = .belongsTo ∨ KeepsName relations table then relations.count r else 0 := by
  refine ⟨map_text_of relations blanks table, fun r hr a ha => ?_⟩
  have hkeeps : a.kind = .belongsTo ∨ KeepsName relations table ↔ KeepsName relations table := by
    refine or_iff_right_of_imp fun hkind => .inr (.inl ⟨r, hr, ?_⟩)
    exact Association.child_table_of_belongsTo (Association.of?_eq_some_iff.mpr ha) hkind
  rw [count_associationsOf ha]
  simp only [hkeeps]

/-- A user has any number of orders. The table of the orders has the given name. -/
def ordersOfUser (orders : String) : Relation where
  parent := { table := "users", model := "users", property := "user", key := "user_id" }
  child := { table := orders, model := "orders", property := "orders", key := "id" }

/-- Without schemas, both sides are seen. -/
theorem Mixins.blocks_of_sides_users :
    (associationsOf [ordersOfUser "orders"] "users").count ⟨.hasMany, ordersOfUser "orders"⟩ = 1 :=
  (Mixins.blocks_of_sides [ordersOfUser "orders"] "  " "users").2 (ordersOfUser "orders")
    List.mem_cons_self ⟨.hasMany, ordersOfUser "orders"⟩ (by decide)

/-- The schema of the orders hides that the users are named without one. -/
theorem orders_lost_by_users :
    ¬ ∀ r ∈ [ordersOfUser "sales.orders"], ∀ a, ("users", a) ∈ r.sides →
      a ∈ associationsOf [ordersOfUser "sales.orders"] "users" := by
  intro h
  exact absurd (h _ List.mem_cons_self ⟨.hasMany, ordersOfUser "sales.orders"⟩ (by decide))
    (by decide)

end SchemaModels
