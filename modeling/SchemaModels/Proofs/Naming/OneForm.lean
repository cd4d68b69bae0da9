import SchemaModels.Proofs.Naming.InflectionFailures
import SchemaModels.Proofs.Naming.WordChanges

/-!
# Words with one form

Some words have the same singular and plural (`HasOneForm`): those listed as uncountable, those with
an uncountable ending, `them`, and the words that end in `iam` or `uam`, which one rule leaves as
they are in the plural and no rule changes in the singular. For words in small letters there are no
others (`singularize_eq_pluralize_iff`).

The reason is in the tables. No change that a rule makes to get a singular is also made to get a
plural (`agreeOnly_changes`), so if both forms are the same, both are the word itself. Two rules
then leave the word as it is, and its ending has a shape of either. Such shapes meet in endings that
belong to the words above, or else in endings of which a preferred rule takes one (`keepings_meet`).
-/

namespace SchemaModels.Naming

open Text

/-! ## The changes that the rules make -/

/-- What the rules for plurals replace at the end of a word, and by what. -/
def pluralChanges : List (String × String) := [
  ("", ""), ("", "s"), ("s", "s"), ("", "es"), ("is", "es"), ("us", "i"), ("i", "i"), ("a", "ae"),
  ("ae", "ae"), ("", "im"), ("im", "im"), ("o", "oes"), ("um", "a"), ("a", "a"), ("on", "a"),
  ("sis", "ses"), ("fe", "ves"), ("f", "ves"), ("y", "ies"), ("ey", "ies"), ("ix", "ices"),
  ("ex", "ices"), ("ice", "ice"), ("ouse", "ice"), ("rson", "ople"), ("ople", "ople"), ("", "ren"),
  ("ren", "ren"), ("man", "men"), ("men", "men"), ("thou", "you")]

/-- What the rules for singulars replace at the end of a word, and by what. -/
def singularChanges : List (String × String) := [
  ("", ""), ("s", ""), ("ves", "fe"), ("ves", "f"), ("ies", "y"), ("ies", "ie"), ("ies", "ey"),
  ("ice", "ouse"), ("im", ""), ("es", ""), ("sis", "sis"), ("ses", "sis"), ("is", "is"),
  ("es", "is"), ("us", "us"), ("i", "us"), ("a", "um"), ("a", "on"), ("ae", "a"), ("ices", "ex"),
  ("ices", "ix"), ("rson", "rson"), ("ople", "rson"), ("ren", ""), ("x", ""), ("men", "man")]

theorem isSimple_of_mem_preferred : (∀ rule ∈ preferred pluralEndings, rule.IsSimple) ∧
    ∀ rule ∈ preferred singularEndings, rule.IsSimple := by
  decide +kernel

theorem mem_changes : (∀ rule ∈ preferred pluralEndings, ∀ c ∈ rule.changes, c ∈ pluralChanges) ∧
    ∀ rule ∈ preferred singularEndings, ∀ c ∈ rule.changes, c ∈ singularChanges := by
  decide +kernel

/-- The first change does not do the same as the second one behind some front, unless it changes
nothing. -/
def AgreeOnly (c d : List Char × List Char) : Prop :=
  let front := c.1.take (c.1.length - d.1.length)
  c.1 = front ++ d.1 → c.2 = front ++ d.2 → c.1 = c.2

instance (c d : List Char × List Char) : Decidable (AgreeOnly c d) :=
  inferInstanceAs (Decidable (_ → _ → _))

theorem AgreeOnly.eq {c d : List Char × List Char} (h : AgreeOnly c d) {front : List Char}
    (hold : c.1 = front ++ d.1) (hnew : c.2 = front ++ d.2) : c.1 = c.2 := by
  have hfront : c.1.take (c.1.length - d.1.length) = front := by
    rw [hold, List.length_append, Nat.add_sub_cancel, List.take_left]
  unfold AgreeOnly at h
  rw [hfront] at h
  exact h hold hnew

/-- The two sides of a change, as characters. -/
def sides (c : String × String) : List Char × List Char := (c.1.toList, c.2.toList)

/-- **No change for a plural is one for a singular**, unless it changes nothing. -/
theorem agreeOnly_changes : ∀ c ∈ pluralChanges, ∀ d ∈ singularChanges,
    AgreeOnly (sides c) (sides d) ∧ AgreeOnly (sides d) (sides c) := by
  decide +kernel

/-- The word has no form that the pairs give. -/
def IsRegular (word : String) : Prop :=
  ∀ pair ∈ irregularPairs, pair.1 ≠ word ∧ pair.2 ≠ word

instance (word : String) : Decidable (IsRegular word) :=
  inferInstanceAs (Decidable (∀ pair ∈ irregularPairs, _))

section

variable {word : String}

/-- If both changes of a word give one form, they change nothing. -/
theorem eq_of_changes {c d : String × String} (hc : c ∈ pluralChanges) (hd : d ∈ singularChanges)
    {front back : String} (hword : front ++ c.1 = back ++ d.1)
    (hform : front ++ c.2 = back ++ d.2) : c.1 = c.2 := by
  obtain ⟨hcd, hdc⟩ := agreeOnly_changes c hc d hd
  have hold : front.toList ++ c.1.toList = back.toList ++ d.1.toList := by
    rw [← String.toList_append, hword, String.toList_append]
  have hnew : front.toList ++ c.2.toList = back.toList ++ d.2.toList := by
    rw [← String.toList_append, hform, String.toList_append]
  rcases List.append_eq_append_iff.mp hold with ⟨mid, hback, hmid⟩ | ⟨mid, hfront, hmid⟩
  · -- the plural changes more of the word
    rw [hback, List.append_assoc] at hnew
    exact String.toList_inj.mp (hcd.eq hmid (List.append_cancel_left hnew))
  · rw [hfront, List.append_assoc] at hnew
    have hd2 : d.2.toList = mid ++ c.2.toList := (List.append_cancel_left hnew).symm
    have hsame := hdc.eq hmid hd2
    have hcancel : mid ++ c.1.toList = mid ++ c.2.toList := by
      rw [← hd2, ← hmid]
      exact hsame
    exact String.toList_inj.mp (List.append_cancel_left hcancel)

theorem inflect_of_isRegular {known other : String → Option String} {rules : List EndingRule}
    (hword : IsSmall word) (hknown : known word = none) (hother : other word = none)
    (hcountable : word ∉ uncountableWords) :
    inflect known other rules word = byEnding rules word := by
  simp [inflect, lowercase_of_isSmall hword, hknown, hother, hcountable]

/-- The forms of a word that is neither irregular nor uncountable are left to the rules. -/
theorem forms_of_isRegular (hword : IsSmall word) (hne : word ≠ "") (hregular : IsRegular word)
    (hcountable : word ∉ uncountableWords) :
    singularize word = byEnding singularEndings word ∧
      pluralize word = byEnding pluralEndings word := by
  obtain ⟨hplural, hsingular⟩ := regular_iff.mpr hregular
  unfold singularize pluralize
  rw [if_neg hne, if_neg hne]
  exact ⟨inflect_of_isRegular hword hplural hsingular hcountable,
    inflect_of_isRegular hword hsingular hplural hcountable⟩

/-- **If the rules give a word one form only, it is the word.** -/
theorem byEnding_eq_of_agree (hword : IsSmall word)
    (h : byEnding singularEndings word = byEnding pluralEndings word) :
    byEnding singularEndings word = .ok word ∧ byEnding pluralEndings word = .ok word := by
  obtain ⟨front, c, hc, hfront, hplural⟩ := byEnding_change isSimple_of_mem_preferred.1
    mem_changes.1 (by decide) hword
  obtain ⟨back, d, hd, hback, hsingular⟩ := byEnding_change isSimple_of_mem_preferred.2
    mem_changes.2 (by decide) hword
  have hform : front ++ c.2 = back ++ d.2 := by
    rw [hplural, hsingular] at h
    exact (Except.ok.inj h).symm
  have hsame := eq_of_changes hc hd (hfront.symm.trans hback) hform
  rw [← hsame, ← hfront] at hplural
  exact ⟨h.trans hplural, hplural⟩

end

/-! ## The rules that leave a word as it is -/

/-- A way in which rules may leave a word as it is. -/
structure Keeping where
  /-- The rules that were tried in vain. -/
  tried : List EndingRule
  /-- The letters with which the word ends. -/
  places : List (List Char)
  /-- Whether that has to be the whole word. -/
  isWhole : Bool

/-- The endings that the rule puts back as they are. -/
def EndingRule.keptEndings (rule : EndingRule) : List (List (List Char) × Bool) :=
  rule.ending.shapes.filterMap fun s =>
    let (kept, new) := rule.change s
    if new ∈ (s.places.drop kept).sections then
      some (s.places.take kept ++ new.map ([·]), s.atEdge)
    else none

/-- The ways in which the rules may leave a word as it is: one of them puts back what it takes, or
none of them applies. -/
def keepings (rules : List EndingRule) : List Keeping :=
  ((withEarlier [] rules).flatMap fun (tried, rule) =>
    rule.keptEndings.map fun (places, isWhole) => ⟨tried, places, isWhole⟩)
  ++ [⟨rules, [], false⟩]

/-- The word is left as it is in this way. -/
structure Keeping.IsOf (k : Keeping) (word : String) : Prop where
  ends : EndsIn k.places word.toList
  whole : k.isWhole = true → word.toList ∈ k.places.sections ∨ k.places = []
  tried : ∀ x ∈ k.tried, ¬ x.ending.Ends word

/-- **A word that the rules do not change is left as it is in one of these ways.** -/
theorem exists_keeping {rules : List EndingRule} (hsimple : ∀ rule ∈ preferred rules, rule.IsSimple)
    {word : String} (hword : IsSmall word) (h : byEnding rules word = .ok word) :
    ∃ k ∈ keepings (preferred rules), k.IsOf word := by
  rcases byEnding_cases rules word with ⟨tried, rule, hmem, hrule, htried⟩ | ⟨-, htried⟩
  · obtain ⟨s, hs, front, taken, hcs, hfits, hedge, hresult⟩ :=
      EndingRule.exists_change (hsimple rule (mem_of_mem_withEarlier hmem)) hword hrule
    rw [h] at hresult
    have hword := congrArg String.toList (Except.ok.inj hresult)
    obtain ⟨kept, new, hchange⟩ : ∃ kept new, rule.change s = (kept, new) := ⟨_, _, rfl⟩
    rw [hchange] at hword
    rw [String.toList_ofList, hcs] at hword
    -- what the rule puts there is what it has taken
    have htaken : taken.take kept ++ new = taken := (List.append_cancel_left hword).symm
    have hdrop : taken.drop kept = new := by
      have hparts := (List.take_append_drop kept taken).trans htaken.symm
      exact List.append_cancel_left hparts
    have hnew : List.Forall₂ (· ∈ ·) new (s.places.drop kept) := hdrop ▸ List.forall₂_drop _ hfits
    have hplaces : List.Forall₂ (· ∈ ·) taken (s.places.take kept ++ new.map ([·])) := by
      rw [← htaken]
      refine List.rel_append (List.forall₂_take _ hfits) ?_
      rw [List.forall₂_map_right_iff, List.forall₂_same]
      simp
    have hending : (s.places.take kept ++ new.map ([·]), s.atEdge) ∈ rule.keptEndings := by
      refine List.mem_filterMap.mpr ⟨s, hs, ?_⟩
      simp only [hchange]
      rw [if_pos (List.mem_sections.mpr hnew)]
    refine ⟨⟨tried, s.places.take kept ++ new.map ([·]), s.atEdge⟩, ?_, ?_, fun hwhole => ?_,
      htried⟩
    · exact List.mem_append_left _ (List.mem_flatMap.mpr
        ⟨(tried, rule), hmem, List.mem_map_of_mem hending⟩)
    · rw [hcs]
      exact endsIn_append front hplaces
    · rcases hedge hwhole with hfront | hempty
      · rw [hcs, hfront, List.nil_append]
        exact .inl (List.mem_sections.mpr hplaces)
      · rw [hempty] at hplaces
        exact .inr (List.forall₂_nil_left_iff.mp hplaces)
  · exact ⟨_, List.mem_append_right _ (List.mem_singleton_self _), trivial, Bool.noConfusion,
      htried⟩

/-! ## Words with one form -/

/-- The endings of words that are left as they are in the singular and in the plural. -/
def unchangedEndings : List Pattern :=
  uncountableEndings.map (·.ending) ++ [Pattern.among "iu" ++ Pattern.word "am"]

/-- **The words whose singular is their plural.** Among the irregular words, `these` has an ending
of the others. -/
def HasOneForm (word : String) : Prop :=
  word ∈ uncountableWords ∨ word = "them" ∨
    (word ≠ "these" ∧ ∃ p ∈ unchangedEndings, p.Ends word)

instance (word : String) : Decidable (HasOneForm word) :=
  inferInstanceAs (Decidable (_ ∨ _ ∨ (_ ∧ ∃ p ∈ unchangedEndings, _)))

/-- Why no other word is left as it is both in the one way and in the other: no word has both
endings, one of the rules tried in vain applies, the ending is one of the above, or the words have a
singular of their own. -/
def Keeping.IsSettled (k l : Keeping) : Bool :=
  !meets k.places.reverse k.places.reverse || !meets k.places.reverse l.places.reverse
  || (k.tried ++ l.tried).any (fun x => x.ending.readsEnd k.places || x.ending.readsEnd l.places)
  || unchangedEndings.any (fun p => p.readsEnd k.places || p.readsEnd l.places)
  || k.isWhole && !k.places.isEmpty && k.places.sections.all fun cs =>
    singularize (String.ofList cs) != .ok (String.ofList cs)

theorem keepings_meet : (keepings (preferred pluralEndings)).all fun k =>
    (keepings (preferred singularEndings)).all fun l => k.IsSettled l = true := by
  decide +kernel

/-- Whatever the rules may do to a word with the ending, they leave it as it is: a rule with an
ending of the word puts it back, unless a rule before it applies. -/
def keepsEnding (rules : List EndingRule) (places : List (List Char)) : Bool :=
  (withEarlier [] (preferred rules)).all fun (tried, rule) => rule.ending.shapes.all fun s =>
    !meets s.places.reverse places.reverse || tried.any (·.ending.readsEnd places)
      || rule.change s == (s.places.length, [])

theorem keepsEnding_unchangedEndings : ∀ p ∈ unchangedEndings, ∀ s ∈ p.shapes,
    keepsEnding singularEndings s.places = true ∧ keepsEnding pluralEndings s.places = true := by
  decide +kernel

section

variable {word : String}

/-- A word with such an ending is left as it is. -/
theorem byEnding_of_keepsEnding {rules : List EndingRule}
    (hsimple : ∀ rule ∈ preferred rules, rule.IsSimple) {places : List (List Char)}
    (hkeeps : keepsEnding rules places = true) (hword : IsSmall word)
    (hends : EndsIn places word.toList) : byEnding rules word = .ok word := by
  rcases byEnding_cases rules word with ⟨tried, rule, hmem, hrule, htried⟩ | ⟨hsame, -⟩
  · obtain ⟨s, hs, front, taken, hcs, hfits, -, hresult⟩ :=
      EndingRule.exists_change (hsimple rule (mem_of_mem_withEarlier hmem)) hword hrule
    have hmeets := meets_of_endsIn (hcs ▸ endsIn_append front hfits) hends
    have hcheck := List.all_eq_true.mp (List.all_eq_true.mp hkeeps _ hmem) s hs
    simp only [hmeets, Bool.not_true, Bool.false_or, Bool.or_eq_true, beq_iff_eq] at hcheck
    rcases hcheck with hreads | hchange
    · obtain ⟨x, hx, hreads⟩ := List.any_eq_true.mp hreads
      exact absurd (Pattern.ends_of_readsEnd hreads hends) (htried x hx)
    · rw [hresult, hchange, List.append_nil, ← hfits.length_eq, List.take_length, ← hcs,
        String.ofList_toList]
  · exact hsame

/-- **A word that is settled to be left as it is in both ways has one form.** -/
theorem Keeping.hasOneForm_of_isSettled {k l : Keeping} (h : k.IsSettled l = true)
    (hk : k.IsOf word) (hl : l.IsOf word) (hthese : word ≠ "these")
    (hsingular : singularize word = .ok word) : HasOneForm word := by
  have hself := meets_of_endsIn hk.ends hk.ends
  have hboth := meets_of_endsIn hk.ends hl.ends
  have hends : ∀ {p : Pattern}, (p.readsEnd k.places || p.readsEnd l.places) = true →
      p.Ends word := by
    intro p hp
    rcases Bool.or_eq_true_iff.mp hp with hp | hp
    · exact Pattern.ends_of_readsEnd hp hk.ends
    · exact Pattern.ends_of_readsEnd hp hl.ends
  simp only [IsSettled, hself, hboth, Bool.not_true, Bool.false_or] at h
  rcases Bool.or_eq_true_iff.mp h with h | hwhole
  rcases Bool.or_eq_true_iff.mp h with htried | hending
  · obtain ⟨x, hx, hreads⟩ := List.any_eq_true.mp htried
    exact absurd (hends hreads) ((List.mem_append.mp hx).elim (hk.tried x) (hl.tried x))
  · obtain ⟨p, hp, hreads⟩ := List.any_eq_true.mp hending
    exact .inr (.inr ⟨hthese, p, hp, hends hreads⟩)
  · -- the word is one of a few, and each of them has another singular
    simp only [Bool.and_eq_true, Bool.not_eq_true', List.isEmpty_eq_false_iff] at hwhole
    obtain ⟨⟨hedge, hne⟩, hall⟩ := hwhole
    have hmem := (hk.whole hedge).resolve_right hne
    have hother := List.all_eq_true.mp hall _ hmem
    rw [String.ofList_toList, hsingular] at hother
    exact absurd rfl (bne_iff_ne.mp hother)

end

/-! ## Singular and plural -/

/-- The pairs give forms in small letters, and only one of them gives the same form twice. -/
theorem forms_of_pair : ∀ pair ∈ irregularPairs,
    (IsSmall (lowercase pair.1) ∧ lowercase pair.1 ≠ "") ∧
    (IsSmall (lowercase pair.2) ∧ lowercase pair.2 ≠ "") ∧
    (lowercase pair.1 = lowercase pair.2 → pair = ("them", "them")) := by
  decide +kernel

/-- No word is a singular in one pair and a plural in another one. -/
theorem eq_of_mem_pairs : ∀ pair ∈ irregularPairs, ∀ other ∈ irregularPairs,
    pair.1 = other.2 → pair = ("them", "them") ∧ other = ("them", "them") := by
  decide +kernel

theorem eq_them_of_mem_pair : ∀ pair ∈ irregularPairs, "them" ∈ [pair.1, pair.2] →
    pair = ("them", "them") := by
  decide +kernel

/-- No irregular word is uncountable, and only one has an ending of the others. -/
theorem isCountable_of_mem_pair : ∀ pair ∈ irregularPairs, ∀ word ∈ [pair.1, pair.2],
    word ∉ uncountableWords ∧ (word = "these" ∨ ∀ p ∈ unchangedEndings, ¬ p.Ends word) := by
  decide +kernel

theorem isSmall_changes : (∀ c ∈ pluralChanges, IsSmall c.2 ∧ (c.2 = "" → c.1 = "")) ∧
    ∀ c ∈ singularChanges, IsSmall c.2 ∧ (c.2 = "" → c.1 = "" ∨ c.1 = "s" ∨
      singularize c.1 ≠ .ok "") := by
  decide +kernel

section

variable {word : String}

theorem inflect_of_known {known other : String → Option String} {rules : List EndingRule}
    (hword : IsSmall word) (h : (known word).isSome = true) :
    inflect known other rules word = .ok (lowercase word) := by
  simp only [inflect, lowercase_of_isSmall hword, h, if_true]
  rw [inCaseOf_of_isSmall hword, lowercase_of_isSmall hword]

theorem inflect_of_other {known other : String → Option String} {rules : List EndingRule}
    (hword : IsSmall word) (hknown : known word = none) {form : String}
    (hother : other word = some form) :
    inflect known other rules word = .ok (lowercase form) := by
  simp only [inflect, lowercase_of_isSmall hword, hknown, hother]
  exact inCaseOf_of_isSmall hword form

/-- **The forms of an irregular word are those of a pair** that has the word. -/
theorem exists_pair (hword : IsSmall word) (hne : word ≠ "") (h : ¬ IsRegular word) :
    ∃ pair ∈ irregularPairs, word ∈ [pair.1, pair.2] ∧
      singularize word = .ok (lowercase pair.1) ∧ pluralize word = .ok (lowercase pair.2) := by
  unfold singularize pluralize
  rw [if_neg hne, if_neg hne]
  cases hplural : irregularPlural? word with
  | some many =>
    have hmany := mem_of_irregularPlural? hplural
    refine ⟨(word, many), hmany, List.mem_cons_self,
      inflect_of_known hword (by rw [hplural]; rfl), ?_⟩
    cases hsingular : irregularSingular? word with
    | some one =>
      -- both forms are the word, which can only be one that makes a pair with itself
      obtain ⟨hpair, -⟩ := eq_of_mem_pairs _ hmany _ (mem_of_irregularSingular? hsingular) rfl
      obtain ⟨hone, hsame⟩ := Prod.mk.inj hpair
      rw [hsame, ← hone]
      exact inflect_of_known hword (by rw [hsingular]; rfl)
    | none => exact inflect_of_other hword hsingular hplural
  | none =>
    cases hsingular : irregularSingular? word with
    | some one =>
      refine ⟨(one, word), mem_of_irregularSingular? hsingular, by simp,
        inflect_of_other hword hplural hsingular,
        inflect_of_known hword (by rw [hsingular]; rfl)⟩
    | none => exact absurd (regular_iff.mp ⟨hplural, hsingular⟩) h

/-- An uncountable word has one form. -/
theorem forms_of_uncountable (hword : IsSmall word) (hne : word ≠ "")
    (h : word ∈ uncountableWords) : singularize word = .ok word ∧ pluralize word = .ok word := by
  have hregular : IsRegular word := by
    intro pair hpair
    constructor
    · rintro rfl
      exact (isCountable_of_mem_pair pair hpair pair.1 (by simp)).1 h
    · rintro rfl
      exact (isCountable_of_mem_pair pair hpair pair.2 (by simp)).1 h
  obtain ⟨hplural, hsingular⟩ := regular_iff.mpr hregular
  unfold singularize pluralize
  rw [if_neg hne, if_neg hne]
  constructor
  · simp [inflect, lowercase_of_isSmall hword, hplural, hsingular, h]
  · simp [inflect, lowercase_of_isSmall hword, hplural, hsingular, h]

theorem isSmall_append {s t : String} : IsSmall (s ++ t) ↔ IsSmall s ∧ IsSmall t := by
  unfold IsSmall Only
  rw [String.toList_append, List.forall_mem_append]

/-- **A word in small letters has both forms in small letters.** The plural is not empty, and the
singular is so for `s` only. -/
theorem exists_forms (hword : IsSmall word) (hne : word ≠ "") :
    ∃ one many, singularize word = .ok one ∧ pluralize word = .ok many ∧ IsSmall one ∧
      IsSmall many ∧ many ≠ "" ∧ (one = "" → word = "s") := by
  by_cases hregular : IsRegular word
  · by_cases hcountable : word ∈ uncountableWords
    · obtain ⟨hone, hmany⟩ := forms_of_uncountable hword hne hcountable
      exact ⟨word, word, hone, hmany, hword, hword, hne, fun h => absurd h hne⟩
    · obtain ⟨hsingular, hplural⟩ := forms_of_isRegular hword hne hregular hcountable
      obtain ⟨front, c, hc, hfront, hmany⟩ := byEnding_change isSimple_of_mem_preferred.1
        mem_changes.1 (by decide) hword
      obtain ⟨back, d, hd, hback, hone⟩ := byEnding_change isSimple_of_mem_preferred.2
        mem_changes.2 (by decide) hword
      have hsmallFront : IsSmall front := (isSmall_append.mp (hfront ▸ hword)).1
      have hsmallBack : IsSmall back := (isSmall_append.mp (hback ▸ hword)).1
      refine ⟨back ++ d.2, front ++ c.2, hsingular.trans hone, hplural.trans hmany,
        isSmall_append.mpr ⟨hsmallBack, (isSmall_changes.2 d hd).1⟩,
        isSmall_append.mpr ⟨hsmallFront, (isSmall_changes.1 c hc).1⟩, fun hempty => ?_,
        fun hempty => ?_⟩
      · obtain ⟨hnil, hput⟩ := String.append_eq_empty_iff.mp hempty
        rw [hnil, (isSmall_changes.1 c hc).2 hput, String.append_empty] at hfront
        exact hne hfront
      · obtain ⟨hnil, hput⟩ := String.append_eq_empty_iff.mp hempty
        rw [hnil, String.empty_append] at hback
        rcases (isSmall_changes.2 d hd).2 hput with hnone | hs | hother
        · exact absurd (hback.trans hnone) hne
        · exact hback.trans hs
        · rw [← hback, hsingular, hone, hnil, hput, String.append_empty] at hother
          exact absurd rfl hother
  · obtain ⟨pair, hpair, -, hsingular, hplural⟩ := exists_pair hword hne hregular
    obtain ⟨⟨hsmallOne, hneOne⟩, ⟨hsmallMany, hneMany⟩, -⟩ := forms_of_pair pair hpair
    exact ⟨_, _, hsingular, hplural, hsmallOne, hsmallMany, hneMany, fun h => absurd h hneOne⟩

/-- **The words in small letters whose singular is their plural are those with one form.** -/
theorem singularize_eq_pluralize_iff (hword : IsSmall word) (hne : word ≠ "") :
    singularize word = pluralize word ↔ HasOneForm word := by
  by_cases hregular : IsRegular word
  · by_cases hcountable : word ∈ uncountableWords
    · obtain ⟨hone, hmany⟩ := forms_of_uncountable hword hne hcountable
      exact iff_of_true (hone.trans hmany.symm) (.inl hcountable)
    · obtain ⟨hsingular, hplural⟩ := forms_of_isRegular hword hne hregular hcountable
      constructor
      · intro hsame
        have hthese : word ≠ "these" := ((hregular ("this", "these") (by decide)).2).symm
        rw [hsingular, hplural] at hsame
        obtain ⟨hone, hmany⟩ := byEnding_eq_of_agree hword hsame
        obtain ⟨k, hk, hkof⟩ := exists_keeping isSimple_of_mem_preferred.1 hword hmany
        obtain ⟨l, hl, hlof⟩ := exists_keeping isSimple_of_mem_preferred.2 hword hone
        have hsettled := List.all_eq_true.mp (List.all_eq_true.mp keepings_meet k hk) l hl
        exact Keeping.hasOneForm_of_isSettled (of_decide_eq_true hsettled) hkof hlof hthese
          (hsingular.trans hone)
      · rintro (hlisted | hthem | ⟨-, p, hp, hends⟩)
        · exact absurd hlisted hcountable
        · exact absurd hthem.symm (hregular ("them", "them") (by decide)).1
        · obtain ⟨⟨front, r⟩, hfound⟩ := Option.isSome_iff_exists.mp hends
          obtain ⟨s, hs, hcs, -, -, ⟨before, hd⟩, -⟩ :=
            Pattern.exists_shape_of_findAtEnd hword hfound
          have hendsIn : EndsIn s.places word.toList := hcs ▸ endsIn_append front hd.fits
          obtain ⟨hkeepsOne, hkeepsMany⟩ := keepsEnding_unchangedEndings p hp s hs
          rw [hsingular, hplural,
            byEnding_of_keepsEnding isSimple_of_mem_preferred.2 hkeepsOne hword hendsIn,
            byEnding_of_keepsEnding isSimple_of_mem_preferred.1 hkeepsMany hword hendsIn]
  · obtain ⟨pair, hpair, hmem, hsingular, hplural⟩ := exists_pair hword hne hregular
    obtain ⟨hcountable, hending⟩ := isCountable_of_mem_pair pair hpair word hmem
    rw [hsingular, hplural, Except.ok.injEq]
    constructor
    · intro hsame
      rw [(forms_of_pair pair hpair).2.2 hsame] at hmem
      exact .inr (.inl (by simpa using hmem))
    · rintro (hlisted | rfl | ⟨hthese, p, hp, hends⟩)
      · exact absurd hlisted hcountable
      · rw [eq_them_of_mem_pair pair hpair hmem]
      · exact absurd hends (hending.resolve_left hthese p hp)

end

/-- Words of each kind, and some that look like them. -/
example : (∀ word ∈ ["sheep", "them", "siam", "japanese", "species"], HasOneForm word ↔
    word ≠ "species") ∧ ¬ HasOneForm "these" ∧ ¬ HasOneForm "program" := by
  decide +kernel

end SchemaModels.Naming
