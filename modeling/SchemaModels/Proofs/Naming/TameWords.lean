import SchemaModels.Proofs.Naming.DerivedNames
import SchemaModels.Proofs.Text.TameCase

/-!
# Names derived from tame names

What styles and inflection put into a name is tame (`nameStable_isTame`), so the names derived from
a tame name are tame. The case of a capitalized name can be given to any tame text, so inflection
never fails on a tame name (`singularize_of_isTame`, `pluralize_of_isTame`).
-/

namespace SchemaModels.Naming

open Text

/-- Styles and inflection put in tame characters only. -/
theorem nameStable_isTame : NameStable isTame where
  toCaseStable := caseStable_isTame
  underscore := by decide
  hyphen := by decide
  pairs := by
    have htame : ∀ pair ∈ irregularPairs, IsTame pair.1 ∧ IsTame pair.2 := by decide +kernel
    exact htame
  singularRules := by
    have htame : ∀ rule ∈ singularEndings ++ uncountableEndings, IsTame rule.replacement := by
      decide +kernel
    exact htame
  pluralRules := by
    have htame : ∀ rule ∈ pluralEndings ++ uncountableEndings, IsTame rule.replacement := by
      decide +kernel
    exact htame

/-- A name stays tame in every style. -/
theorem NameStyle.isTame_restyle (style : NameStyle) {name : String} (h : IsTame name) :
    IsTame (style.restyle name) :=
  nameStable_isTame.restyle style h

theorem isTame_avoidReserved (typed : Bool) {name : String} (h : IsTame name) :
    IsTame (avoidReserved typed name) :=
  nameStable_isTame.avoidReserved typed h

/-- **A tame name has a singular, which is tame.** -/
theorem singularize_of_isTame {name : String} (h : IsTame name) :
    ∃ s, singularize name = .ok s ∧ IsTame s :=
  (nameStable_isTame.singularize h).exists_ok fun _ => isAscii_of_isTame

/-- **A tame name has a plural, which is tame.** -/
theorem pluralize_of_isTame {name : String} (h : IsTame name) :
    ∃ s, pluralize name = .ok s ∧ IsTame s :=
  (nameStable_isTame.pluralize h).exists_ok fun _ => isAscii_of_isTame

/-- A tame name can be taken to any style, singular or not. -/
theorem NameStyle.apply_of_isTame (style : NameStyle) (singular : Bool) {name : String}
    (h : IsTame name) : ∃ s, style.apply singular name = .ok s ∧ IsTame s :=
  (nameStable_isTame.apply style singular h).exists_ok fun _ => isAscii_of_isTame

end SchemaModels.Naming
