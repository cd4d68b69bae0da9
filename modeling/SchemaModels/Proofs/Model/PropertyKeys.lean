import Mathlib.Data.List.Nodup
import SchemaModels.Proofs.Model.ObjectKeys
import SchemaModels.Proofs.Naming.StyledNames
import SchemaModels.Proofs.Schema.Columns

/-!
# Keys of the blocks

The columns of a table have different names, and each column that is shown has a block under its
property. The property is the name in the style for properties, so that two blocks have the same key
just if the style sees no difference between the names of their columns (`Table.keepsApart_iff`). In
script code the later block then takes the place of the earlier one, and a column is lost. That
cannot happen where properties are named like the columns (`Table.nodup_blockKeys_of_asIs`).
-/

namespace SchemaModels

open Naming

theorem Naming.propertyKey_of_not_isIdentifier {name : String} (h : isIdentifier name = false) :
    propertyKey name = "'" ++ name ++ "'" := by
  rw [propertyKey, h]
  rfl

/-- A quoted key is no identifier. -/
theorem Naming.ne_quoted_of_isIdentifier {name other : String} (h : isIdentifier name = true) :
    name ≠ "'" ++ other ++ "'" := by
  rintro rfl
  unfold isIdentifier at h
  split at h
  · cases h
  · next c cs hcs =>
    have hchars : ("'" ++ other ++ "'").toList = '\'' :: (other.toList ++ ['\'']) := by
      simp [String.toList_append]
    rw [hchars, List.cons.injEq] at hcs
    rw [← hcs.1] at h
    exact absurd (Bool.and_eq_true_iff.mp h).1 (by decide)

/-- Different properties have different keys. -/
theorem Naming.propertyKey_inj {a b : String} : propertyKey a = propertyKey b ↔ a = b := by
  refine ⟨fun h => ?_, congrArg propertyKey⟩
  have hself : ∀ {name}, isIdentifier name = true → propertyKey name = name := fun h => if_pos h
  cases ha : isIdentifier a <;> cases hb : isIdentifier b
  · rw [propertyKey_of_not_isIdentifier ha, propertyKey_of_not_isIdentifier hb] at h
    exact (String.append_right_inj "'").mp ((String.append_left_inj "'").mp h)
  · rw [propertyKey_of_not_isIdentifier ha, hself hb] at h
    exact absurd h.symm (ne_quoted_of_isIdentifier hb)
  · rw [hself ha, propertyKey_of_not_isIdentifier hb] at h
    exact absurd h (ne_quoted_of_isIdentifier ha)
  · rwa [hself ha, hself hb] at h

namespace Table

variable {ctx : Context} {t : Table}

/-- The keys of the blocks, in order. -/
def blockKeys (ctx : Context) (t : Table) : List String :=
  (t.attributeBlocks ctx).map (·.key)

/-- The text of the blocks has these keys. -/
theorem writesKeys_blocks (ctx : Context) (t : Table) : WritesKeys (ctx.indent 2)
    (String.intercalate ",\n" ((t.attributeBlocks ctx).map (·.render ctx))) (t.blockKeys ctx) :=
  writesKeys_map fun b _ => b.writesKey ctx

theorem blockKeys_eq (ctx : Context) (t : Table) : t.blockKeys ctx =
    (t.shownColumns ctx.settings).map fun c => propertyKey (ctx.settings.propertyName c.name) := by
  rw [blockKeys, attributeBlocks_eq, List.map_map]
  rfl

/-- The columns shown have different names. -/
theorem pairwise_shownColumns (s : Settings) (t : Table) :
    (t.shownColumns s).Pairwise (·.name ≠ ·.name) :=
  t.pairwise_columns.filter _

/-- The style for properties sees a difference between any two columns shown. -/
def KeepsApart (s : Settings) (t : Table) : Prop :=
  ∀ c ∈ t.shownColumns s, ∀ d ∈ t.shownColumns s, s.propertyStyle.Alike c.name d.name →
    c.name = d.name

instance (s : Settings) (t : Table) : Decidable (t.KeepsApart s) :=
  inferInstanceAs (Decidable (∀ c ∈ t.shownColumns s, ∀ d ∈ t.shownColumns s,
    s.propertyStyle.Alike c.name d.name → c.name = d.name))

/-- The blocks have different keys just if the style sees a difference between the columns. -/
theorem nodup_blockKeys (ctx : Context) (t : Table) :
    (t.blockKeys ctx).Nodup ↔ t.KeepsApart ctx.settings := by
  have hnames := pairwise_shownColumns ctx.settings t
  have hcolumns : (t.shownColumns ctx.settings).Nodup :=
    hnames.imp fun hne heq => hne (congrArg _ heq)
  -- columns of one name are one column
  have hsame : ∀ c ∈ t.shownColumns ctx.settings, ∀ d ∈ t.shownColumns ctx.settings,
      c = d ↔ c.name = d.name := fun c hc d hd =>
    ⟨congrArg _, fun heq => List.inj_on_of_nodup_map (List.pairwise_map.mpr hnames) hc hd heq⟩
  rw [blockKeys_eq, List.nodup_map_iff_inj_on hcolumns]
  refine forall₂_congr fun c hc => forall₂_congr fun d hd => ?_
  rw [propertyKey_inj, Settings.propertyName, Settings.propertyName,
    NameStyle.restyle_eq_restyle_iff, hsame c hc d hd]

/-- **The blocks of a table have different keys** just if the style for properties sees a difference
between any two of its columns; and the blocks are written with these keys. -/
theorem keepsApart_iff (ctx : Context) (t : Table) :
    WritesKeys (ctx.indent 2)
      (String.intercalate ",\n" ((t.definition ctx).blocks.map (·.render ctx)))
      (t.blockKeys ctx) ∧
    ((t.blockKeys ctx).Nodup ↔ t.KeepsApart ctx.settings) :=
  ⟨writesKeys_blocks ctx t, nodup_blockKeys ctx t⟩

/-- Properties that are named like the columns have different keys. -/
theorem nodup_blockKeys_of_asIs (h : ctx.settings.propertyStyle = .asIs) (t : Table) :
    (t.blockKeys ctx).Nodup := by
  refine (nodup_blockKeys ctx t).mpr fun c _ d _ halike => ?_
  rw [h] at halike
  exact halike

/-- Members of two user lists that were merged. -/
def members : Table := {
  name := { schema := none, name := "members" }
  fields := [
    { name := "id", sqlType := "int" }, { name := "user_id", sqlType := "int" },
    { name := "userId", sqlType := "text" }] }

/-- Two columns of different names have one property in camel case. -/
theorem members_share_key : (members.columns.map (·.name)).Nodup ∧
    (members.definition ⟨{ propertyStyle := .camel }, .mysql⟩).blocks.map (·.column)
      = members.columns.map (·.name) ∧
    members.blockKeys ⟨{ propertyStyle := .camel }, .mysql⟩ = ["id", "userId", "userId"] ∧
    ¬ (members.blockKeys ⟨{ propertyStyle := .camel }, .mysql⟩).Nodup := by
  decide +kernel

end Table
end SchemaModels
