import Mathlib.Data.List.Nodup
import SchemaModels.Model.Mixins
import SchemaModels.Proofs.Traversal

/-!
# Where needed types come from

The types that a module needs from others are collected over its associations, sorted by table and
by name. Sorting and merging keep track of what was put in: a table has an entry just if it is that
of some association (`mem_tables_ofAssociations`), and a name stands in the entry just if an
association with that table imports it (`needs_ofAssociations`). Each table has one entry, and each
of its names stands there once (`isSorted_ofAssociations`), so that what is needed tells the entries
(`IsSorted.ext`).

What one addition does is said by `mem_tables_add`, `needs_add` and `IsSorted.add`; the fold over the
associations is gone through once (`foldl_add_iff`).
-/

namespace SchemaModels

theorem Association.relation_of_of? {r : Relation} {table : String} {a : Association}
    (h : Association.of? r table = some a) : a.relation = r := by
  unfold Association.of? at h
  repeat' split at h
  all_goals cases h
  all_goals rfl

/-- The associations of a table are relations, seen from it. -/
theorem relation_mem_of_mem_associationsOf {relations : List Relation} {table : String}
    {a : Association} (h : a ∈ associationsOf relations table) : a.relation ∈ relations := by
  obtain ⟨r, hr, ha⟩ := List.mem_filterMap.mp h
  rw [Association.relation_of_of? ha]
  exact hr

namespace NeededTypes

/-- The name is one of those that are needed from the table. -/
def Needs (needed : NeededTypes) (table name : String) : Prop :=
  ∃ e ∈ needed, e.1 = table ∧ name ∈ e.2

/-- Each table has one entry, and each of its names stands in it once. Both are in order. -/
structure IsSorted (needed : NeededTypes) : Prop where
  tables : (needed.map (·.1)).Pairwise (· < ·)
  names : ∀ e ∈ needed, e.2.Pairwise (· < ·)

theorem lt_of_not_lt {s t : String} (h : ¬ s < t) (hne : s ≠ t) : t < s :=
  Decidable.byContradiction fun h' => hne (String.le_antisymm h' h)

/-! ## Names -/

theorem mem_insertName {name n : String} : ∀ {ns : List String},
    n ∈ insertName name ns ↔ n = name ∨ n ∈ ns := by
  intro ns
  induction ns with
  | nil => simp [insertName]
  | cons m ns ih =>
    rw [insertName]
    split
    · exact List.mem_cons
    split
    · next heq => simp [heq]
    · rw [List.mem_cons, ih, List.mem_cons]
      exact or_left_comm

theorem mem_insertNames {n : String} : ∀ {names into : List String},
    n ∈ insertNames names into ↔ n ∈ names ∨ n ∈ into := by
  intro names
  induction names with
  | nil => intro into; simp [insertNames]
  | cons name names ih =>
    intro into
    have hstep : insertNames (name :: names) into = insertNames names (insertName name into) := rfl
    rw [hstep, ih, mem_insertName, List.mem_cons, or_assoc]
    exact or_left_comm

theorem pairwise_insertName (name : String) : ∀ {ns : List String}, ns.Pairwise (· < ·) →
    (insertName name ns).Pairwise (· < ·) := by
  intro ns
  induction ns with
  | nil => intro _; exact List.pairwise_singleton _ _
  | cons m ns ih =>
    intro h
    have hcons := List.pairwise_cons.mp h
    rw [insertName]
    split
    · next hlt =>
      refine List.pairwise_cons.mpr ⟨fun k hk => ?_, h⟩
      rcases List.mem_cons.mp hk with rfl | hk
      · exact hlt
      · exact String.lt_trans hlt (hcons.1 k hk)
    split
    · exact h
    · next hlt hne =>
      refine List.pairwise_cons.mpr ⟨fun k hk => ?_, ih hcons.2⟩
      rcases mem_insertName.mp hk with rfl | hk
      · exact lt_of_not_lt hlt hne
      · exact hcons.1 k hk

theorem pairwise_insertNames : ∀ (names : List String) {into : List String},
    into.Pairwise (· < ·) → (insertNames names into).Pairwise (· < ·) := by
  intro names
  induction names with
  | nil => exact fun h => h
  | cons name names ih => exact fun h => ih (pairwise_insertName name h)

/-! ## Adding -/

/-- Adding names for a table keeps the tables that are there. -/
theorem mem_tables_add {table : String} {names : List String} {key : String} :
    ∀ {needed : NeededTypes}, key ∈ (add table names needed).map (·.1) ↔
      key = table ∨ key ∈ needed.map (·.1) := by
  intro needed
  induction needed with
  | nil => simp [add]
  | cons old rest ih =>
    obtain ⟨t, ns⟩ := old
    rw [add]
    split
    · simp
    split
    · next heq => simp [heq]
    · rw [List.map_cons, List.mem_cons, ih, List.map_cons, List.mem_cons]
      exact or_left_comm

theorem needs_cons {e : String × List String} {needed : NeededTypes} {key n : String} :
    Needs (e :: needed) key n ↔ (e.1 = key ∧ n ∈ e.2) ∨ Needs needed key n := by
  simp [Needs]

/-- Adding names for a table leaves what is needed from other tables as it is. -/
theorem needs_add {table : String} {names : List String} {key n : String} :
    ∀ {needed : NeededTypes}, Needs (add table names needed) key n ↔
      (table = key ∧ n ∈ names) ∨ Needs needed key n := by
  intro needed
  have hnew : n ∈ insertNames names [] ↔ n ∈ names := by simp [mem_insertNames]
  induction needed with
  | nil => rw [add, needs_cons, hnew]
  | cons old rest ih =>
    obtain ⟨t, ns⟩ := old
    rw [add]
    split
    · rw [needs_cons, hnew]
    split
    · next heq =>
      subst heq
      rw [needs_cons, needs_cons, mem_insertNames, and_or_left, or_assoc]
    · rw [needs_cons, needs_cons]
      exact (or_congr_right ih).trans or_left_comm

theorem IsSorted.add {needed : NeededTypes} (h : IsSorted needed) (table : String)
    (names : List String) : IsSorted (add table names needed) := by
  have hnew : (insertNames names []).Pairwise (· < ·) := pairwise_insertNames names .nil
  induction needed with
  | nil =>
    exact ⟨List.pairwise_singleton _ _, List.forall_mem_singleton.mpr hnew⟩
  | cons old rest ih =>
    obtain ⟨t, ns⟩ := old
    have htables := List.pairwise_cons.mp h.tables
    have hnames := List.forall_mem_cons.mp h.names
    have hrest := ih ⟨htables.2, hnames.2⟩
    rw [NeededTypes.add]
    split
    · next hlt =>
      refine ⟨List.pairwise_cons.mpr ⟨fun k hk => ?_, h.tables⟩,
        List.forall_mem_cons.mpr ⟨hnew, h.names⟩⟩
      rcases List.mem_cons.mp hk with rfl | hk
      · exact hlt
      · exact String.lt_trans hlt (htables.1 k hk)
    split
    · exact ⟨h.tables,
        List.forall_mem_cons.mpr ⟨pairwise_insertNames names hnames.1, hnames.2⟩⟩
    · next hlt hne =>
      refine ⟨List.pairwise_cons.mpr ⟨fun k hk => ?_, hrest.tables⟩,
        List.forall_mem_cons.mpr ⟨hnames.1, hrest.names⟩⟩
      rcases mem_tables_add.mp hk with rfl | hk
      · exact lt_of_not_lt hlt hne
      · exact htables.1 k hk

/-! ## Over all associations -/

/-- What a step adds to, or finds there already, is what all the steps add to or find. -/
theorem foldl_add_iff {P : NeededTypes → Prop} {Q : Association → Prop}
    (hstep : ∀ a needed, P (add a.other.table a.imports needed) ↔ Q a ∨ P needed) :
    ∀ (as : List Association) (needed : NeededTypes),
      P (as.foldl (fun needed a => add a.other.table a.imports needed) needed) ↔
        P needed ∨ ∃ a ∈ as, Q a := by
  intro as
  induction as with
  | nil => intro needed; simp
  | cons a as ih =>
    intro needed
    rw [List.foldl_cons, ih, hstep, List.exists_mem_cons_iff, or_assoc]
    exact or_left_comm

/-- Something is needed from the tables of the associations, and from no other table. -/
theorem mem_tables_ofAssociations {as : List Association} {table : String} :
    table ∈ (ofAssociations as).map (·.1) ↔ ∃ a ∈ as, a.other.table = table := by
  have hstep : ∀ (a : Association) (needed : NeededTypes),
      table ∈ (add a.other.table a.imports needed).map (·.1) ↔
        a.other.table = table ∨ table ∈ needed.map (·.1) := fun a needed => by
    rw [mem_tables_add, eq_comm]
  exact (foldl_add_iff (P := fun needed => table ∈ needed.map (·.1)) hstep as []).trans
    (or_iff_right List.not_mem_nil)

/-- **The names that are needed from a table are those that its associations import.** -/
theorem needs_ofAssociations {as : List Association} {table n : String} :
    Needs (ofAssociations as) table n ↔ ∃ a ∈ as, a.other.table = table ∧ n ∈ a.imports := by
  have hnone : ¬ Needs [] table n := by simp [Needs]
  exact (foldl_add_iff (P := (Needs · table n)) (fun _ _ => needs_add) as []).trans
    (or_iff_right hnone)

/-- **What is needed comes from the associations.** -/
theorem comesFrom_ofAssociations (as : List Association) : ∀ e ∈ ofAssociations as,
    (∃ a ∈ as, a.other.table = e.1) ∧
      ∀ n ∈ e.2, ∃ a ∈ as, a.other.table = e.1 ∧ n ∈ a.imports :=
  fun e he => ⟨mem_tables_ofAssociations.mp (List.mem_map_of_mem he),
    fun _ hn => needs_ofAssociations.mp ⟨e, he, rfl, hn⟩⟩

theorem isSorted_ofAssociations (as : List Association) : IsSorted (ofAssociations as) := by
  have hfold : ∀ (as : List Association) {needed : NeededTypes}, IsSorted needed →
      IsSorted (as.foldl (fun needed a => add a.other.table a.imports needed) needed) := by
    intro as
    induction as with
    | nil => exact fun h => h
    | cons a as ih => exact fun h => ih (h.add a.other.table a.imports)
  exact hfold as ⟨.nil, List.forall_mem_nil _⟩

/-! ## Leaving a table out -/

theorem needs_filter_ne {needed : NeededTypes} {left table n : String} :
    Needs (needed.filter (·.1 ≠ left)) table n ↔ Needs needed table n ∧ table ≠ left := by
  unfold Needs
  constructor
  · rintro ⟨e, he, rfl, hn⟩
    obtain ⟨he, hne⟩ := List.mem_filter.mp he
    exact ⟨⟨e, he, rfl, hn⟩, of_decide_eq_true hne⟩
  · rintro ⟨⟨e, he, rfl, hn⟩, hne⟩
    exact ⟨e, List.mem_filter.mpr ⟨he, decide_eq_true hne⟩, rfl, hn⟩

theorem IsSorted.filter {needed : NeededTypes} (h : IsSorted needed)
    (p : String × List String → Bool) : IsSorted (needed.filter p) where
  tables := h.tables.sublist (List.filter_sublist.map _)
  names e he := h.names e (List.mem_filter.mp he).1

/-! ## Equal needs -/

theorem nodup_of_pairwise_lt {names : List String} (h : names.Pairwise (· < ·)) : names.Nodup :=
  h.imp String.ne_of_lt

/-- Names in order are told by which they are. -/
theorem eq_of_pairwise_lt {names names' : List String} (h : names.Pairwise (· < ·))
    (h' : names'.Pairwise (· < ·)) (hsame : ∀ n, n ∈ names ↔ n ∈ names') : names = names' := by
  have hperm : names.Perm names' :=
    (List.perm_ext_iff_of_nodup (nodup_of_pairwise_lt h) (nodup_of_pairwise_lt h')).mpr hsame
  exact hperm.eq_of_pairwise (fun _ _ _ _ hlt hgt => absurd hgt (String.lt_asymm hlt)) h h'

namespace IsSorted

variable {a b : NeededTypes} (ha : IsSorted a) (hb : IsSorted b)

include ha

/-- What is needed from a table stands in its one entry. -/
theorem mem_names_iff {e : String × List String} (he : e ∈ a) {n : String} :
    n ∈ e.2 ↔ Needs a e.1 n := by
  refine ⟨fun hn => ⟨e, he, rfl, hn⟩, ?_⟩
  rintro ⟨e', he', htable, hn⟩
  rwa [List.inj_on_of_nodup_map (nodup_of_pairwise_lt ha.tables) he' he htable] at hn

include hb

theorem subset (htables : ∀ table, table ∈ a.map (·.1) → table ∈ b.map (·.1))
    (hneeds : ∀ table n, Needs a table n ↔ Needs b table n) : a ⊆ b := by
  intro e he
  obtain ⟨e', he', htable⟩ := List.mem_map.mp (htables e.1 (List.mem_map_of_mem he))
  have hnames : e'.2 = e.2 := by
    refine eq_of_pairwise_lt (hb.names e' he') (ha.names e he) fun n => ?_
    rw [hb.mem_names_iff he', ha.mem_names_iff he, htable, hneeds]
  rwa [← Prod.ext htable hnames]

/-- **Sorted entries are told by what is needed.** -/
theorem ext (htables : ∀ table, table ∈ a.map (·.1) ↔ table ∈ b.map (·.1))
    (hneeds : ∀ table n, Needs a table n ↔ Needs b table n) : a = b := by
  have hnodup : ∀ {needed : NeededTypes}, IsSorted needed → needed.Nodup :=
    fun h => .of_map _ (nodup_of_pairwise_lt h.tables)
  have hsame : ∀ e, e ∈ a ↔ e ∈ b := fun e =>
    ⟨fun he => ha.subset hb (fun t => (htables t).mp) hneeds he,
      fun he => hb.subset ha (fun t => (htables t).mpr) (fun t n => (hneeds t n).symm) he⟩
  have hperm : a.Perm b := (List.perm_ext_iff_of_nodup (hnodup ha) (hnodup hb)).mpr hsame
  have horder : ∀ {needed : NeededTypes}, IsSorted needed → needed.Pairwise (·.1 < ·.1) :=
    fun h => List.pairwise_map.mp h.tables
  exact hperm.eq_of_pairwise (fun _ _ _ _ hlt hgt => absurd hgt (String.lt_asymm hlt))
    (horder ha) (horder hb)

end IsSorted

/-- **The order of the associations does not matter.** -/
theorem ofAssociations_perm {as as' : List Association} (h : as.Perm as') :
    ofAssociations as = ofAssociations as' := by
  refine (isSorted_ofAssociations as).ext (isSorted_ofAssociations as') (fun table => ?_)
    fun table n => ?_
  · simp only [mem_tables_ofAssociations, h.mem_iff]
  · simp only [needs_ofAssociations, h.mem_iff]

end NeededTypes

/-- Something is needed from the other tables that a table is associated with. -/
theorem Mixins.mem_tables_needed {relations : List Relation} {blanks table : String} {m : Mixins}
    (h : Mixins.of relations blanks table = .ok m) {other : String} :
    other ∈ m.needed.map (·.1) ↔
      (∃ a ∈ associationsOf relations table, a.other.table = other) ∧
        other ≠ qualifyFor relations table := by
  obtain ⟨texts, -, hm⟩ := bind_eq_ok.mp h
  cases hm
  have htables : ((NeededTypes.ofAssociations (associationsOf relations table)).filter
      (·.1 ≠ qualifyFor relations table)).map (·.1)
      = ((NeededTypes.ofAssociations (associationsOf relations table)).map (·.1)).filter
        (· ≠ qualifyFor relations table) := by
    rw [List.filter_map]
    rfl
  rw [htables, List.mem_filter, NeededTypes.mem_tables_ofAssociations, decide_eq_true_eq]

end SchemaModels
