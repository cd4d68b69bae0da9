import Mathlib.Data.List.Nodup
import SchemaModels.Proofs.Model.AssociationBlocks
import SchemaModels.Proofs.Naming.OneForm

/-!
# Names of association members

An association declares a property and accessors, which are named after an action and one of the
forms of the property. For a property in small letters the capital that a form gets shows where the
action ends (`eq_of_memberName`). So two members have one name only if they have the same action and
the same form, and this happens where the singular and the plural of the property are the same: the
accessors for one and for many associated models are then declared under one name
(`Association.namesApart_iff`).
-/

namespace SchemaModels

open Naming Text

/-! ## Actions and forms -/

theorem isLower_toUpper {c : Char} (h : c.isLower = true) : c.toUpper.isLower = false :=
  forall_isAscii (p := fun c => c.isLower = true → c.toUpper.isLower = false) (by decide)
    (isAscii_of_isLower h) h

theorem toUpper_injective {c d : Char} (hc : c.isLower = true) (hd : d.isLower = true)
    (h : c.toUpper = d.toUpper) : c = d := by
  have hback : ∀ {c : Char}, c.isLower = true → c.toUpper.toLower = c := fun hc =>
    forall_isAscii (p := fun c => c.isLower = true → c.toUpper.toLower = c) (by decide)
      (isAscii_of_isLower hc) hc
  rw [← hback hc, h, hback hd]

/-- A word in small letters with a capital in front. -/
theorem toList_upperFirst_cons {s : String} {c : Char} {cs : List Char} (hs : IsSmall s)
    (h : s.toList = c :: cs) : (upperFirst s).toList = c.toUpper :: cs := by
  have hc : isAscii c = true := isAscii_of_isLower (hs c (h ▸ List.mem_cons_self))
  simp [upperFirst, h, toUpper, hc]

theorem upperFirst_of_toList_eq_nil {s : String} (h : s.toList = []) : upperFirst s = "" := by
  simp [upperFirst, h]

theorem upperFirst_injective {s t : String} (hs : IsSmall s) (ht : IsSmall t)
    (h : upperFirst s = upperFirst t) : s = t := by
  have hlists := congrArg String.toList h
  apply String.toList_inj.mp
  cases hsc : s.toList with
  | nil =>
    cases htc : t.toList with
    | nil => rfl
    | cons d ds =>
      rw [upperFirst_of_toList_eq_nil hsc, toList_upperFirst_cons ht htc] at hlists
      cases hlists
  | cons c cs =>
    cases htc : t.toList with
    | nil =>
      rw [upperFirst_of_toList_eq_nil htc, toList_upperFirst_cons hs hsc] at hlists
      cases hlists
    | cons d ds =>
      rw [toList_upperFirst_cons hs hsc, toList_upperFirst_cons ht htc] at hlists
      obtain ⟨hhead, htail⟩ := List.cons.inj hlists
      have hc := hs c (hsc ▸ List.mem_cons_self)
      have hd := ht d (htc ▸ List.mem_cons_self)
      rw [toUpper_injective hc hd hhead, htail]

/-- A member that is named after an action and a form of the property. -/
def memberName (m : String × String) : String := m.1 ++ upperFirst m.2

/-- **The action in the name of a member ends at the capital**, or with the name. -/
theorem takeWhile_memberName {action form : String} (haction : IsSmall action)
    (hform : IsSmall form) :
    (memberName (action, form)).toList.takeWhile Char.isLower = action.toList := by
  rw [memberName, String.toList_append, List.takeWhile_append_of_pos haction]
  cases hcs : form.toList with
  | nil => simp [upperFirst_of_toList_eq_nil hcs]
  | cons c cs =>
    have hupper := isLower_toUpper (hform c (hcs ▸ List.mem_cons_self))
    simp [toList_upperFirst_cons hform hcs, hupper]

/-- Members of one name have the same action and the same form. -/
theorem eq_of_memberName {m n : String × String} (hm : IsSmall m.1 ∧ IsSmall m.2)
    (hn : IsSmall n.1 ∧ IsSmall n.2) (h : memberName m = memberName n) : m = n := by
  have hactions : m.1 = n.1 := by
    apply String.toList_inj.mp
    rw [← takeWhile_memberName hm.1 hm.2, ← takeWhile_memberName hn.1 hn.2]
    exact congrArg (fun s : String => s.toList.takeWhile Char.isLower) h
  have hforms : upperFirst m.2 = upperFirst n.2 := by
    have hlists := congrArg String.toList h
    simp only [memberName, String.toList_append, hactions] at hlists
    exact String.toList_inj.mp (List.append_cancel_left hlists)
  exact Prod.ext hactions (upperFirst_injective hm.2 hn.2 hforms)

theorem nodup_map_memberName_iff {members : List (String × String)}
    (h : ∀ m ∈ members, IsSmall m.1 ∧ IsSmall m.2) :
    (members.map memberName).Nodup ↔ members.Nodup :=
  ⟨List.Nodup.of_map _, List.Nodup.map_on fun m hm n hn => eq_of_memberName (h m hm) (h n hn)⟩

namespace Association

/-! ## The members of an association -/

/-- The actions and forms for one associated model. The property has no action before it. -/
def singleMembers (property : String) : List (String × String) :=
  [(property, ""), ("get", property), ("set", property), ("create", property)]

/-- The actions and forms for any number of associated models. -/
def collectionMembers (one many : String) : List (String × String) := [
  (many, ""), ("get", many), ("set", many), ("add", one), ("add", many), ("create", one),
  ("remove", one), ("remove", many), ("has", one), ("has", many), ("count", many)]

theorem upperFirst_empty : upperFirst "" = "" := rfl

theorem names_singleDeclarations (a : Association) :
    a.singleDeclarations.map (·.name) = (singleMembers a.other.property).map memberName := by
  simp [singleDeclarations, singleMembers, memberName, upperFirst_empty]

theorem names_collectionDeclarations (a : Association) (one many : String) :
    (a.collectionDeclarations one many).map (·.name)
      = (collectionMembers one many).map memberName := by
  simp [collectionDeclarations, collectionMembers, memberName, upperFirst_empty]

theorem isSmall_empty : IsSmall "" := by decide

theorem nodup_singleMembers {property : String} (hsmall : IsSmall property) (hne : property ≠ "") :
    ((singleMembers property).map memberName).Nodup := by
  have hmembers : ∀ m ∈ singleMembers property, IsSmall m.1 ∧ IsSmall m.2 := by
    have hactions : IsSmall "get" ∧ IsSmall "set" ∧ IsSmall "create" := by decide
    simp [singleMembers, hsmall, hactions, isSmall_empty]
  rw [nodup_map_memberName_iff hmembers]
  simp [singleMembers, hne.symm]

/-- The members for a collection are apart just if the two forms are. -/
theorem nodup_collectionMembers_iff {one many : String} (hone : IsSmall one) (hmany : IsSmall many)
    (hne : many ≠ "") (hbare : one = "" → many = "s") :
    ((collectionMembers one many).map memberName).Nodup ↔ one ≠ many := by
  have hmembers : ∀ m ∈ collectionMembers one many, IsSmall m.1 ∧ IsSmall m.2 := by
    have hactions : ∀ action ∈ ["get", "set", "add", "create", "remove", "has", "count"],
        IsSmall action := by decide
    simp only [List.forall_mem_cons] at hactions
    simp [collectionMembers, hone, hmany, hactions, isSmall_empty]
  -- an accessor with nothing behind its action is not called like the property
  have hproperty : ∀ action ∈ ["add", "create", "remove", "has"], many = action → one ≠ "" := by
    rintro action haction rfl hempty
    rw [hbare hempty] at haction
    revert haction
    decide
  simp only [List.forall_mem_cons] at hproperty
  obtain ⟨hadd, hcreate, hremove, hhas, -⟩ := hproperty
  rw [nodup_map_memberName_iff hmembers]
  constructor
  · rintro hnodup rfl
    simp [collectionMembers] at hnodup
  · intro hforms
    simpa [collectionMembers, hforms, hforms.symm, hne.symm] using
      And.intro hadd ⟨hcreate, hremove, hhas⟩

/-- The plural of the only word whose singular is empty. -/
theorem pluralize_s : pluralize "s" = .ok "s" := by decide +kernel

/-- **The members of an association are declared under distinct names, unless it holds a collection
and its property has one form only.** The property is a word in small letters. -/
theorem namesApart_iff {a : Association} (hsmall : IsSmall a.other.property)
    (hne : a.other.property ≠ "") (blanks : String) :
    ∃ ds, a.declarations = .ok ds ∧
      a.render blanks = .ok (unlines ((a.comment :: ds.map (·.render)).map (blanks ++ ·))) ∧
      ((ds.map (·.name)).Nodup ↔ ¬ (a.IsMany ∧ HasOneForm a.other.property)) := by
  have hrender : ∀ {ds : List Declaration}, a.declarations = .ok ds →
      a.render blanks = .ok (unlines ((a.comment :: ds.map (·.render)).map (blanks ++ ·))) := by
    intro ds hds
    rw [render, hds]
    rfl
  by_cases hmany : a.IsMany
  · obtain ⟨one, many, hone, hplural, hsmallOne, hsmallMany, hneMany, hempty⟩ :=
      exists_forms hsmall hne
    have hds : a.declarations = .ok (a.collectionDeclarations one many) := by
      unfold declarations
      rcases hmany with hkind | hkind <;> simp [hkind, hone, hplural, bind, Except.bind, pure,
        Except.pure]
    have hbare : one = "" → many = "s" := by
      intro h
      rw [hempty h, pluralize_s] at hplural
      exact (Except.ok.inj hplural).symm
    have hsame : one = many ↔ HasOneForm a.other.property := by
      rw [← singularize_eq_pluralize_iff hsmall hne, hone, hplural, Except.ok.injEq]
    refine ⟨_, hds, hrender hds, ?_⟩
    rw [names_collectionDeclarations,
      nodup_collectionMembers_iff hsmallOne hsmallMany hneMany hbare, and_iff_right hmany, ← hsame]
  · have hds : a.declarations = .ok a.singleDeclarations := by
      unfold declarations IsMany at *
      split <;> simp_all
    refine ⟨_, hds, hrender hds, ?_⟩
    rw [names_singleDeclarations]
    exact iff_of_true (nodup_singleMembers hsmall hne) fun h => hmany h.1

/-- A farm and what is kept on it. -/
def kept (property : String) : Association where
  kind := .hasMany
  relation := {
    parent := { table := "farms", model := "farm", property := "farm", key := "farm_id" }
    child := { table := property, model := property, property := property, key := "id" } }

theorem namesApart_iff_farm :
    (∃ ds, (kept "geese").declarations = .ok ds ∧ (ds.map (·.name)).Nodup) ∧
      ∃ ds, (kept "sheep").declarations = .ok ds ∧ ¬ (ds.map (·.name)).Nodup := by
  obtain ⟨geese, hgeese, -, hapart⟩ :=
    namesApart_iff (a := kept "geese") (by decide) (by decide) "  "
  obtain ⟨sheep, hsheep, -, hclash⟩ :=
    namesApart_iff (a := kept "sheep") (by decide) (by decide) "  "
  have hmany : ∀ property, (kept property).IsMany := fun _ => .inl rfl
  have hforms : ¬ HasOneForm "geese" ∧ HasOneForm "sheep" := by decide +kernel
  refine ⟨⟨geese, hgeese, hapart.mpr fun h => hforms.1 h.2⟩, sheep, hsheep, fun hnodup => ?_⟩
  exact hclash.mp hnodup ⟨hmany "sheep", hforms.2⟩

/-- A farm adds one of its sheep by the accessor by which it adds many. -/
theorem sheep_share_names :
    ¬ ∀ a : Association, IsSmall a.other.property → a.other.property ≠ "" →
      ∀ ds, a.declarations = .ok ds → (ds.map (·.name)).Nodup := by
  intro h
  obtain ⟨ds, hds⟩ : ∃ ds, (kept "sheep").declarations = .ok ds := ⟨_, rfl⟩
  have hnodup := h (kept "sheep") (by decide) (by decide) ds hds
  have hnames : (kept "sheep").declarations.map (fun ds => decide (ds.map (·.name)).Nodup)
      = .ok false := by
    decide +kernel
  rw [hds] at hnames
  exact of_decide_eq_false (Except.ok.inj hnames) hnodup

end Association
end SchemaModels
