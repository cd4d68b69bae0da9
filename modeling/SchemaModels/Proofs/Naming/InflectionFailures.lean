import SchemaModels.Proofs.Naming.DerivedNames
import SchemaModels.Proofs.Traversal

/-!
# Where inflection fails

Whatever a rule puts into a capitalized word has to take on the case of the word, and a text cannot
if it begins outside ASCII. The forms and replacements of the rules are ASCII, so what can fail is
the text of the word itself: the ending that the rule has found, and the groups in it. A word on
which this happens stumbles (`Stumbles`), and inflection fails for such words and no others
(`succeeds_singularize_iff`, `succeeds_pluralize_iff`).
-/

namespace SchemaModels.Naming

open Text

/-! ## The case of a word -/

/-- The word has capitals and small letters, and begins with a capital. -/
def IsCapitalized (word : String) : Prop :=
  word ≠ lowercase word ∧ word ≠ uppercase word ∧ word.toList.head?.any isUppercase = true

instance (word : String) : Decidable (IsCapitalized word) :=
  inferInstanceAs (Decidable (_ ∧ _ ∧ _))

/-- The first character of the text is no ASCII character. -/
def BeginsBeyondAscii (text : String) : Prop :=
  text.toList.head?.any (!isAscii ·) = true

instance (text : String) : Decidable (BeginsBeyondAscii text) :=
  inferInstanceAs (Decidable (_ = true))

/-- **A text cannot take on the case of a capitalized word if it begins outside ASCII**, unless it
is the word itself. Nothing else is in the way. -/
theorem succeeds_inCaseOf_iff {word text : String} : Succeeds (inCaseOf word text) ↔
    ¬ (IsCapitalized word ∧ text ≠ word ∧ BeginsBeyondAscii text) := by
  unfold inCaseOf IsCapitalized BeginsBeyondAscii
  split
  · next hsame => exact iff_of_true (succeeds_ok _) fun h => h.2.1 hsame.symm
  next hsame =>
  split
  · next hlower => exact iff_of_true (succeeds_ok _) fun h => h.1.1 hlower
  next hlower =>
  split
  · next hupper => exact iff_of_true (succeeds_ok _) fun h => h.1.2.1 hupper
  next hupper =>
  split
  · next hempty => simp [hempty, succeeds_ok]
  next c cs htext =>
  split
  · next hcapital =>
    split
    · next hascii => simp [htext, hascii, succeeds_ok]
    · next hbeyond =>
      have hbegins : text.toList.head?.any (!isAscii ·) = true := by simp [htext, hbeyond]
      exact iff_of_false (not_succeeds_error _)
        (not_not_intro ⟨⟨hlower, hupper, hcapital⟩, Ne.symm hsame, hbegins⟩)
  · next hsmall => exact iff_of_true (succeeds_ok _) fun h => hsmall h.1.2.2

/-- Text that begins in ASCII takes on any case. -/
theorem succeeds_inCaseOf {text : String} (h : ¬ BeginsBeyondAscii text) (word : String) :
    Succeeds (inCaseOf word text) :=
  succeeds_inCaseOf_iff.mpr fun hfails => h hfails.2.2

/-! ## Endings -/

theorem succeeds_fillReferences_iff {word : String} : ∀ {texts : List (List Char)} {i : Nat}
    {r : List Char}, Succeeds (fillReferences word i texts r) ↔
      ∀ text ∈ texts, Succeeds (inCaseOf word (String.ofList text)) := by
  intro texts
  induction texts with
  | nil => intro i r; exact iff_of_true (succeeds_ok r) (by simp)
  | cons text texts ih =>
    intro i r
    rw [fillReferences, List.forall_mem_cons]
    exact succeeds_bind_iff fun t _ => ih

/-- The texts of the word that the first rule with an ending of the word puts in: the ending, and
the groups of its pattern. -/
def endingTexts (rules : List EndingRule) (word : String) : List String :=
  match rules.findSome? (·.ending.findAtEnd none word.toList) with
  | some (_, found) => (found.taken :: found.groups).map String.ofList
  | none => []

/-- The first rule that has an ending of the word decides. Of what it puts in, its replacement takes
on any case. -/
theorem succeeds_findSome?_iff {word : String} : ∀ {rules : List EndingRule},
    (∀ rule ∈ rules, ¬ BeginsBeyondAscii rule.replacement) →
      (Succeeds ((rules.findSome? (·.inflect? word)).getD (.ok word)) ↔
        ∀ text ∈ endingTexts rules word, Succeeds (inCaseOf word text)) := by
  intro rules
  -- a rule without a reading is passed over on both sides, and one with a reading ends the search
  induction rules with
  | nil => intro _; exact iff_of_true (succeeds_ok word) (by simp [endingTexts])
  | cons rule rules ih =>
    intro hrules
    obtain ⟨hrule, hrules⟩ := List.forall_mem_cons.mp hrules
    cases hfound : rule.ending.findAtEnd none word.toList with
    | none =>
      have hskip : rule.inflect? word = none := by rw [EndingRule.inflect?, hfound]; rfl
      have hsame : endingTexts (rule :: rules) word = endingTexts rules word := by
        rw [endingTexts, List.findSome?_cons, hfound, endingTexts]
      rw [List.findSome?_cons, hskip, hsame]
      exact ih hrules
    | some reading =>
      obtain ⟨front, found⟩ := reading
      have htexts : endingTexts (rule :: rules) word
          = (found.taken :: found.groups).map String.ofList := by
        rw [endingTexts, List.findSome?_cons, hfound]
      rw [List.findSome?_cons, EndingRule.inflect?, hfound, htexts, List.forall_mem_map]
      refine (succeeds_bind_iff fun r _ => ?_).trans (and_iff_right (succeeds_inCaseOf hrule word))
      exact succeeds_bind_pure_iff.trans succeeds_fillReferences_iff

/-- The rules fail on a capitalized word if the ending that decides, or a group in it, begins
outside ASCII and is not the word itself. -/
theorem succeeds_byEnding_iff {rules : List EndingRule} {word : String}
    (hrules : ∀ rule ∈ rules ++ uncountableEndings, ¬ BeginsBeyondAscii rule.replacement) :
    Succeeds (byEnding rules word) ↔
      ¬ (IsCapitalized word ∧ ∃ text ∈ endingTexts (rules ++ uncountableEndings).reverse word,
        text ≠ word ∧ BeginsBeyondAscii text) := by
  have hreverse : ∀ rule ∈ (rules ++ uncountableEndings).reverse,
      ¬ BeginsBeyondAscii rule.replacement :=
    fun rule hrule => hrules rule (List.mem_reverse.mp hrule)
  rw [byEnding, succeeds_findSome?_iff hreverse]
  constructor
  · rintro hall ⟨hcapitalized, text, htext, hresists⟩
    exact succeeds_inCaseOf_iff.mp (hall text htext) ⟨hcapitalized, hresists⟩
  · intro hno text htext
    exact succeeds_inCaseOf_iff.mpr fun ⟨hcapitalized, hresists⟩ =>
      hno ⟨hcapitalized, text, htext, hresists⟩

/-! ## Words -/

/-- The word is capitalized and its form is left to the rules, but what the deciding rule takes from
it begins outside ASCII. -/
structure Stumbles (rules : List EndingRule) (word : String) : Prop where
  capitalized : IsCapitalized word
  regular : ∀ pair ∈ irregularPairs, pair.1 ≠ lowercase word ∧ pair.2 ≠ lowercase word
  countable : lowercase word ∉ uncountableWords
  resists : ∃ text ∈ endingTexts (rules ++ uncountableEndings).reverse word,
    text ≠ word ∧ BeginsBeyondAscii text

instance (rules : List EndingRule) (word : String) : Decidable (Stumbles rules word) :=
  decidable_of_iff
    (IsCapitalized word ∧
      (∀ pair ∈ irregularPairs, pair.1 ≠ lowercase word ∧ pair.2 ≠ lowercase word) ∧
      lowercase word ∉ uncountableWords ∧
      ∃ text ∈ endingTexts (rules ++ uncountableEndings).reverse word,
        text ≠ word ∧ BeginsBeyondAscii text)
    ⟨fun h => ⟨h.1, h.2.1, h.2.2.1, h.2.2.2⟩,
      fun h => ⟨h.capitalized, h.regular, h.countable, h.resists⟩⟩

section

variable {known other : String → Option String} {rules : List EndingRule} {word : String}

/-- If the irregular words are those of the pairs, and the pairs and the replacements are in ASCII,
inflection fails just if the word stumbles. -/
theorem succeeds_inflect_iff
    (hregular : known (lowercase word) = none ∧ other (lowercase word) = none ↔
      ∀ pair ∈ irregularPairs, pair.1 ≠ lowercase word ∧ pair.2 ≠ lowercase word)
    (hknown : (known (lowercase word)).isSome → ¬ BeginsBeyondAscii (lowercase word))
    (hother : ∀ form, other (lowercase word) = some form → ¬ BeginsBeyondAscii form)
    (hrules : ∀ rule ∈ rules ++ uncountableEndings, ¬ BeginsBeyondAscii rule.replacement) :
    Succeeds (inflect known other rules word) ↔ ¬ Stumbles rules word := by
  unfold inflect
  dsimp only
  -- the pairs and the uncountable words come first, and nothing that they put in fails
  split
  · next hisKnown =>
    refine iff_of_true (succeeds_inCaseOf (hknown hisKnown) word) fun h => ?_
    rw [(hregular.mpr h.regular).1] at hisKnown
    cases hisKnown
  next hunknown =>
  split
  · next form hform =>
    refine iff_of_true (succeeds_inCaseOf (hother form hform) word) fun h => ?_
    rw [(hregular.mpr h.regular).2] at hform
    cases hform
  next hnone =>
  have hirregular := hregular.mp ⟨Option.not_isSome_iff_eq_none.mp hunknown, hnone⟩
  split
  · next hmem =>
    exact iff_of_true (succeeds_ok word) fun h => h.countable (List.contains_iff_mem.mp hmem)
  next hcountable =>
  have hmem : lowercase word ∉ uncountableWords := mt List.contains_iff_mem.mpr hcountable
  rw [succeeds_byEnding_iff hrules]
  constructor
  · intro hno h
    exact hno ⟨h.capitalized, h.resists⟩
  · rintro hno ⟨hcapitalized, hresists⟩
    exact hno ⟨hcapitalized, hirregular, hmem, hresists⟩

end

/-- What the pairs put in begins in ASCII. -/
theorem not_beginsBeyondAscii_of_mem_irregularPairs : ∀ pair ∈ irregularPairs,
    ¬ BeginsBeyondAscii pair.1 ∧ ¬ BeginsBeyondAscii pair.2 := by
  decide +kernel

/-- A word without an irregular plural or singular is in none of the pairs. -/
theorem regular_iff {word : String} :
    irregularPlural? word = none ∧ irregularSingular? word = none ↔
      ∀ pair ∈ irregularPairs, pair.1 ≠ word ∧ pair.2 ≠ word := by
  simp [irregularPlural?, irregularSingular?, forall_and]

theorem mem_of_irregularPlural? {word form : String} (h : irregularPlural? word = some form) :
    (word, form) ∈ irregularPairs := by
  obtain ⟨⟨singular, plural⟩, hpair, rfl⟩ := Option.map_eq_some_iff.mp h
  have hword : singular = word := by simpa using List.find?_some hpair
  exact hword ▸ List.mem_reverse.mp (List.mem_of_find?_eq_some hpair)

theorem mem_of_irregularSingular? {word form : String} (h : irregularSingular? word = some form) :
    (form, word) ∈ irregularPairs := by
  obtain ⟨⟨singular, plural⟩, hpair, rfl⟩ := Option.map_eq_some_iff.mp h
  have hword : plural = word := by simpa using List.find?_some hpair
  exact hword ▸ List.mem_reverse.mp (List.mem_of_find?_eq_some hpair)

/-- The replacements of all rules begin in ASCII. -/
theorem not_beginsBeyondAscii_replacement :
    ∀ rule ∈ singularEndings ++ pluralEndings ++ uncountableEndings,
      ¬ BeginsBeyondAscii rule.replacement := by
  decide +kernel

theorem not_stumbles_empty (rules : List EndingRule) : ¬ Stumbles rules "" := by
  intro h
  cases h.capitalized.2.2

/-- **A name has a singular unless it stumbles over an ending of a plural.** -/
theorem succeeds_singularize_iff {name : String} :
    Succeeds (singularize name) ↔ ¬ Stumbles singularEndings name := by
  unfold singularize
  split
  · next hempty => exact iff_of_true (succeeds_ok "") (hempty ▸ not_stumbles_empty _)
  · refine succeeds_inflect_iff regular_iff (fun h => ?_) (fun form h => ?_) fun rule hrule => ?_
    · obtain ⟨form, hform⟩ := Option.isSome_iff_exists.mp h
      exact (not_beginsBeyondAscii_of_mem_irregularPairs _ (mem_of_irregularPlural? hform)).1
    · exact (not_beginsBeyondAscii_of_mem_irregularPairs _ (mem_of_irregularSingular? h)).1
    · refine not_beginsBeyondAscii_replacement rule ?_
      simp only [List.mem_append] at hrule ⊢
      exact hrule.imp .inl id

/-- **A name has a plural unless it stumbles over an ending of a singular.** -/
theorem succeeds_pluralize_iff {name : String} :
    Succeeds (pluralize name) ↔ ¬ Stumbles pluralEndings name := by
  unfold pluralize
  split
  · next hempty => exact iff_of_true (succeeds_ok "") (hempty ▸ not_stumbles_empty _)
  · refine succeeds_inflect_iff (and_comm.trans regular_iff) (fun h => ?_) (fun form h => ?_)
      fun rule hrule => ?_
    · obtain ⟨form, hform⟩ := Option.isSome_iff_exists.mp h
      exact (not_beginsBeyondAscii_of_mem_irregularPairs _ (mem_of_irregularSingular? hform)).2
    · exact (not_beginsBeyondAscii_of_mem_irregularPairs _ (mem_of_irregularPlural? h)).2
    · refine not_beginsBeyondAscii_replacement rule ?_
      simp only [List.mem_append] at hrule ⊢
      exact hrule.imp .inr id

/-- A capital, a small letter beyond ASCII at the end, and no other rule for it. -/
example : Stumbles pluralEndings "Café" ∧ ¬ Stumbles singularEndings "Café" ∧
    ¬ Stumbles pluralEndings "café" ∧ ¬ Stumbles pluralEndings "CAFÉ" := by
  decide +kernel

/-- A word in ASCII never stumbles: the rules take from it what it has. -/
theorem not_stumbles_of_ascii (rules : List EndingRule) {word : String}
    (h : ∀ c ∈ word.toList, isAscii c = true) : ¬ Stumbles rules word := by
  intro hstumbles
  obtain ⟨text, htext, -, hbeyond⟩ := hstumbles.resists
  have hsubset : text.toList ⊆ word.toList := by
    unfold endingTexts at htext
    split at htext
    · next front found hfound =>
      obtain ⟨rule, -, hrule⟩ := List.exists_of_findSome?_eq_some hfound
      obtain ⟨-, htaken, hgroups⟩ := Pattern.subset_of_findAtEnd _ _ hrule
      obtain ⟨cs, hcs, rfl⟩ := List.mem_map.mp htext
      rw [String.toList_ofList]
      rcases List.mem_cons.mp hcs with rfl | hcs
      · exact htaken
      · exact hgroups cs hcs
    · cases htext
  unfold BeginsBeyondAscii at hbeyond
  cases hcs : text.toList with
  | nil => rw [hcs] at hbeyond; cases hbeyond
  | cons c cs =>
    have hc : isAscii c = true := h c (hsubset (hcs ▸ List.mem_cons_self))
    rw [hcs] at hbeyond
    simp [hc] at hbeyond

end SchemaModels.Naming
