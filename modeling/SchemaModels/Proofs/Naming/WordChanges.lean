import SchemaModels.Proofs.Naming.EndingShapes
import SchemaModels.Proofs.Text.AsciiCase

/-!
# What inflection changes

A rule takes a word in small letters apart at the ending that it finds: it keeps a part of the
ending and puts a fixed text behind it (`EndingRule.change`). So a form by the rules differs from
the word in its end only, and the changes that can happen there are few (`byEnding_change`).

Which rule decides depends on the rules that are preferred to it, none of which has an ending of the
word (`byEnding_cases`).
-/

namespace SchemaModels.Naming

open Text

/-! ## Small letters -/

theorem toLower_of_isLower {c : Char} (h : c.isLower = true) : c.toLower = c :=
  forall_isAscii (p := fun c => c.isLower = true → c.toLower = c) (by decide)
    (isAscii_of_isLower h) h

theorem IsSmall.only_isAscii {s : String} (h : IsSmall s) : Only isAscii s.toList :=
  fun c hc => isAscii_of_isLower (h c hc)

theorem lowercase_of_isSmall {s : String} (h : IsSmall s) : lowercase s = s := by
  apply String.toList_inj.mp
  rw [toList_lowercase_of_ascii h.only_isAscii]
  exact (List.map_congr_left fun c hc => toLower_of_isLower (h c hc)).trans (List.map_id' _)

theorem dollar_notMem {cs : List Char} (h : Only Char.isLower cs) : '$' ∉ cs :=
  fun hmem => absurd (h _ hmem) (by decide)

/-- What is put into a word of small letters is put there in lower case. -/
theorem inCaseOf_of_isSmall {word : String} (hword : IsSmall word) (text : String) :
    inCaseOf word text = .ok (lowercase text) := by
  unfold inCaseOf
  split
  · next hsame => rw [← hsame, lowercase_of_isSmall hword]
  · rw [if_pos (lowercase_of_isSmall hword).symm]

/-! ## References -/

/-- The texts put in for the references, as they are. -/
def filled : (i : Nat) → List (List Char) → List Char → List Char
  | _, [], r => r
  | i, text :: texts, r => filled (i + 1) texts (replaceFrom ('$' :: Nat.toDigits 10 i) text 0 r)

theorem fillReferences_of_isSmall {word : String} (hword : IsSmall word) :
    ∀ {texts : List (List Char)}, (∀ text ∈ texts, Only Char.isLower text) →
      ∀ (i : Nat) (r : List Char), fillReferences word i texts r = .ok (filled i texts r) := by
  intro texts
  induction texts with
  | nil => exact fun _ _ _ => rfl
  | cons text texts ih =>
    intro h i r
    obtain ⟨htext, htexts⟩ := List.forall_mem_cons.mp h
    have hsame : inCaseOf word (String.ofList text) = .ok (String.ofList text) := by
      rw [inCaseOf_of_isSmall hword, lowercase_of_isSmall (only_ofList.mpr htext)]
    rw [fillReferences, hsame, filled, ← ih htexts]
    simp only [bind, Except.bind, String.toList_ofList]

/-- Without references nothing is put in. -/
theorem filled_of_notMem : ∀ {texts : List (List Char)} {i : Nat} {r : List Char}, '$' ∉ r →
    filled i texts r = r := by
  intro texts
  induction texts with
  | nil => exact fun _ => rfl
  | cons text texts ih =>
    intro i r h
    rw [filled, replaceFrom_eq_self List.mem_cons_self h, ih h]

/-- A reference to another text is left. -/
theorem replaceFrom_reference {i d : Char} (hne : i ≠ d) (hd : d ≠ '$') {new rest : List Char} :
    replaceFrom ['$', i] new 0 ('$' :: d :: rest)
      = '$' :: d :: replaceFrom ['$', i] new 0 rest := by
  have hother : ¬ ['$', i] <+: '$' :: d :: rest := by simp [List.cons_prefix_cons, hne]
  have hdigit : ¬ ['$', i] <+: d :: rest := by simp [List.cons_prefix_cons, hd.symm]
  rw [replaceFrom_cons_of_not_isPrefix hother, replaceFrom_cons_of_not_isPrefix hdigit]

/-- The reference is replaced by its text. -/
theorem replaceFrom_reference_self {i : Char} {new rest : List Char} :
    replaceFrom ['$', i] new 0 ('$' :: i :: rest) = new ++ replaceFrom ['$', i] new 0 rest :=
  replaceFrom_append_of_ne_nil (List.cons_ne_nil _ _) rest

theorem dropReferences_append (ys : List Char) : ∀ {xs : List Char}, '$' ∉ xs →
    dropReferences (xs ++ ys) = xs ++ dropReferences ys := by
  intro xs
  induction xs with
  | nil => exact fun _ => rfl
  | cons x xs ih =>
    intro h
    obtain ⟨hx, hxs⟩ := not_or.mp (mt List.mem_cons.mpr h)
    rw [List.cons_append, dropReferences.eq_def]
    split <;> simp_all

theorem dropReferences_of_notMem {xs : List Char} (h : '$' ∉ xs) : dropReferences xs = xs := by
  have happend := dropReferences_append [] h
  rwa [List.append_nil, dropReferences, List.append_nil] at happend

/-! ## Changes -/

namespace EndingRule

/-- What the rule does to an ending of the shape: how many characters it keeps, and what it puts
behind them. -/
def change (rule : EndingRule) (s : Shape) : Nat × List Char :=
  match rule.replacement.toList, s.groups with
  | ['$', '0'], _ => (s.places.length, [])
  | '$' :: '1' :: '$' :: '2' :: new, [(0, n)] => (n, new)
  | '$' :: '1' :: new, (0, n) :: _ => (n, new)
  | new, _ => (0, new)

/-- The replacement is in lower case, and `change` says what it amounts to. -/
def IsSimple (rule : EndingRule) : Prop :=
  lowercase rule.replacement = rule.replacement ∧
    ∀ s ∈ rule.ending.shapes, '$' ∉ (rule.change s).2

instance (rule : EndingRule) : Decidable rule.IsSimple :=
  inferInstanceAs (Decidable (_ ∧ _))

/-- The replacement, filled with the texts of an ending, is what is kept of the ending with what is
put behind it. -/
theorem dropReferences_filled {rule : EndingRule} {s : Shape} {before : Option Char}
    {cs : List Char} {r : Pattern.Reading} (hd : Pattern.Describes s before cs r)
    (htaken : Only Char.isLower r.taken) (hput : '$' ∉ (rule.change s).2) :
    dropReferences (filled 0 (r.taken :: r.groups) rule.replacement.toList)
      = r.taken.take (rule.change s).1 ++ (rule.change s).2 := by
  have hall : '$' ∉ r.taken := dollar_notMem htaken
  have hzero : Nat.toDigits 10 0 = ['0'] := by decide
  have hone : Nat.toDigits 10 1 = ['1'] := by decide
  have hkept : ∀ n, '$' ∉ r.taken.take n := fun n hmem => hall (List.mem_of_mem_take hmem)
  rw [hd.groups]
  unfold change at hput ⊢
  split at hput
  · next hreplacement =>
    simp only [hreplacement, filled, hzero, replaceFrom_reference_self, replaceFrom,
      List.append_nil, filled_of_notMem hall, dropReferences_of_notMem hall]
    rw [← hd.fits.length_eq, List.take_length]
  · next new n hreplacement hgroups =>
    have hself : ∀ {i : Char} {text : List Char}, replaceFrom ['$', i] text 0 new = new :=
      replaceFrom_eq_self List.mem_cons_self hput
    simp only [hreplacement, hgroups, List.map_cons, List.map_nil, List.drop_zero, filled, hzero,
      hone, replaceFrom_reference_self, Nat.reduceAdd, ne_eq, Char.reduceEq, not_false_eq_true,
      replaceFrom_reference, hself]
    rw [dropReferences_append _ (hkept n), dropReferences, dropReferences_of_notMem hput]
  · next new n gs hnot hreplacement hgroups =>
    have hself : ∀ {i : Char} {text : List Char}, replaceFrom ['$', i] text 0 new = new :=
      replaceFrom_eq_self List.mem_cons_self hput
    have hfilled : '$' ∉ r.taken.take n ++ new := by simp [hkept, hput]
    simp only [hreplacement, hgroups, List.map_cons, List.drop_zero, filled, hzero,
      hone, replaceFrom_reference_self, Nat.reduceAdd, ne_eq, Char.reduceEq, not_false_eq_true,
      replaceFrom_reference, hself, filled_of_notMem hfilled, dropReferences_of_notMem hfilled]
  · rw [filled_of_notMem hput, dropReferences_of_notMem hput, List.take_zero, List.nil_append]

variable {rule : EndingRule} {word : String}

/-- A rule applies to a word just if its pattern reads the end of the word. -/
theorem isSome_inflect?_iff : (rule.inflect? word).isSome = true ↔ rule.ending.Ends word := by
  rw [inflect?, Option.isSome_map]
  exact Iff.rfl

/-- **A rule keeps the front of a word in small letters, and changes the ending by its shape.** -/
theorem exists_change (hsimple : rule.IsSimple) (hword : IsSmall word)
    {result : Except InflectionFailure String} (h : rule.inflect? word = some result) :
    ∃ s ∈ rule.ending.shapes, ∃ front taken, word.toList = front ++ taken ∧
      List.Forall₂ (· ∈ ·) taken s.places ∧ (s.atEdge = true → front = [] ∨ taken = []) ∧
      result = .ok
        (String.ofList (front ++ (taken.take (rule.change s).1 ++ (rule.change s).2))) := by
  obtain ⟨⟨front, r⟩, hfound, rfl⟩ := Option.map_eq_some_iff.mp h
  obtain ⟨s, hs, hcs, hfront, htaken, ⟨before, hd⟩, hedge⟩ :=
    Pattern.exists_shape_of_findAtEnd hword hfound
  have htexts : ∀ text ∈ r.taken :: r.groups, Only Char.isLower text := by
    have hgroups : ∀ g ∈ r.groups, Only Char.isLower g := by
      rw [hd.groups]
      refine List.forall_mem_map.mpr fun g _ => htaken.of_subset fun c hc => ?_
      exact List.mem_of_mem_drop (List.mem_of_mem_take hc)
    exact List.forall_mem_cons.mpr ⟨htaken, hgroups⟩
  refine ⟨s, hs, front, r.taken, hcs, hd.fits, hedge, ?_⟩
  rw [inCaseOf_of_isSmall hword, hsimple.1]
  simp only [bind, Except.bind, fillReferences_of_isSmall hword htexts, pure, Except.pure]
  rw [dropReferences_append _ (dollar_notMem hfront),
    dropReferences_filled hd htaken (hsimple.2 s hs)]

/-- The changes that the rule can make at the end of a word: what stands there, and what it puts
there. -/
def changes (rule : EndingRule) : List (String × String) :=
  rule.ending.shapes.flatMap fun s => (s.places.drop (rule.change s).1).sections.map fun old =>
    (String.ofList old, String.ofList (rule.change s).2)

end EndingRule

/-! ## The rule that decides -/

/-- Each item of a list, with the items seen before it. -/
def withEarlier {α : Type} : (seen : List α) → List α → List (List α × α)
  | _, [] => []
  | seen, a :: l => (seen, a) :: withEarlier (seen ++ [a]) l

theorem mem_withEarlier {α : Type} (a : α) (l : List α) : ∀ earlier seen : List α,
    (seen ++ earlier, a) ∈ withEarlier seen (earlier ++ a :: l) := by
  intro earlier
  induction earlier with
  | nil => intro seen; rw [List.append_nil]; exact List.mem_cons_self
  | cons b earlier ih =>
    intro seen
    have hrest := ih (seen ++ [b])
    rw [List.append_assoc] at hrest
    exact List.mem_cons_of_mem _ hrest

/-- The rules in the order in which they are tried. -/
def preferred (rules : List EndingRule) : List EndingRule := (rules ++ uncountableEndings).reverse

/-- **The form is by the first rule that applies**; without one, it is the word. -/
theorem byEnding_cases (rules : List EndingRule) (word : String) :
    (∃ tried rule, (tried, rule) ∈ withEarlier [] (preferred rules) ∧
      rule.inflect? word = some (byEnding rules word) ∧ ∀ x ∈ tried, ¬ x.ending.Ends word) ∨
    (byEnding rules word = .ok word ∧ ∀ x ∈ preferred rules, ¬ x.ending.Ends word) := by
  have hends : ∀ {x : EndingRule}, x.inflect? word = none → ¬ x.ending.Ends word := by
    intro x hx h
    have hsome := EndingRule.isSome_inflect?_iff.mpr h
    rw [hx] at hsome
    cases hsome
  unfold byEnding
  rw [← preferred]
  cases hfound : (preferred rules).findSome? (·.inflect? word) with
  | none =>
    exact .inr ⟨rfl, fun x hx => hends (List.findSome?_eq_none_iff.mp hfound x hx)⟩
  | some result =>
    obtain ⟨tried, rule, others, hrules, hrule, htried⟩ := List.findSome?_eq_some_iff.mp hfound
    refine .inl ⟨tried, rule, ?_, hrule, fun x hx => hends (htried x hx)⟩
    have hmem := mem_withEarlier rule others tried []
    rwa [List.nil_append, ← hrules] at hmem

theorem mem_of_mem_withEarlier {α : Type} {a : α} {tried : List α} : ∀ {l seen : List α},
    (tried, a) ∈ withEarlier seen l → a ∈ l := by
  intro l
  induction l with
  | nil => intro seen h; cases h
  | cons b l ih =>
    intro seen h
    rcases List.mem_cons.mp h with h | h
    · cases h
      exact List.mem_cons_self
    · exact List.mem_cons_of_mem _ (ih h)

/-- **The rules change a word in small letters by one of their changes at its end.** -/
theorem byEnding_change {rules : List EndingRule} {table : List (String × String)}
    (hsimple : ∀ rule ∈ preferred rules, rule.IsSimple)
    (htable : ∀ rule ∈ preferred rules, ∀ c ∈ rule.changes, c ∈ table)
    (hsame : ("", "") ∈ table) {word : String} (hword : IsSmall word) :
    ∃ stem, ∃ c ∈ table, word = stem ++ c.1 ∧ byEnding rules word = .ok (stem ++ c.2) := by
  rcases byEnding_cases rules word with ⟨tried, rule, hmem, hrule, -⟩ | ⟨hkept, -⟩
  · have hrules := mem_of_mem_withEarlier hmem
    obtain ⟨s, hs, front, taken, hcs, hfits, -, hresult⟩ :=
      EndingRule.exists_change (hsimple rule hrules) hword hrule
    have hold : taken.drop (rule.change s).1 ∈ (s.places.drop (rule.change s).1).sections :=
      List.mem_sections.mpr (List.forall₂_drop _ hfits)
    refine ⟨String.ofList (front ++ taken.take (rule.change s).1), _, htable rule hrules _
      (List.mem_flatMap.mpr ⟨s, hs, List.mem_map_of_mem hold⟩), ?_, ?_⟩
    · rw [← String.ofList_append, List.append_assoc, List.take_append_drop, ← hcs,
        String.ofList_toList]
    · rw [hresult, ← String.ofList_append, List.append_assoc]
  · exact ⟨word, _, hsame, (String.append_empty).symm, by rw [hkept, String.append_empty]⟩

end SchemaModels.Naming
