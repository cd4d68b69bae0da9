import SchemaModels.Naming.Identifier
import SchemaModels.Naming.NameStyle
import SchemaModels.Naming.TableName
import SchemaModels.Proofs.Text.CaseStable
import SchemaModels.Proofs.Text.Search

/-!
# Characters of derived names

Model, file and property names are derived from the names of tables and columns. Cutting a name
into words loses only the characters between the words (`flatten_words`), and a style adds no
character but an underscore or a hyphen. Inflection takes what it puts in from the name itself or
from its own tables. So a derived name stays within any class of characters that is stable under
case and has the few characters that the styles and the tables put in (`NameStable`). Inflection
fails only on a text that cannot take on the case of a capitalized name, and that text begins with
a character outside ASCII; `Yields` keeps track of both.
-/

namespace SchemaModels.Naming

open Text

/-- The class is stable under case, and has what styles and inflection put into names. -/
structure NameStable (p : Char → Bool) : Prop extends CaseStable p where
  underscore : p '_' = true
  hyphen : p '-' = true
  pairs : ∀ pair ∈ irregularPairs, Only p pair.1.toList ∧ Only p pair.2.toList
  singularRules : ∀ rule ∈ singularEndings ++ uncountableEndings, Only p rule.replacement.toList
  pluralRules : ∀ rule ∈ pluralEndings ++ uncountableEndings, Only p rule.replacement.toList

/-! ## Words -/

theorem flatten_extendFirst (c : Char) (ws : List (List Char)) :
    (extendFirst c ws).flatten = c :: ws.flatten := by
  cases ws <;> rfl

/-- The words of a piece are the piece. -/
theorem flatten_cutPiece : ∀ (run : Run) (cs : List Char), (cutPiece run cs).flatten = cs := by
  intro run cs
  fun_induction cutPiece run cs with
  | case1 => rfl
  | case2 => rfl
  | case3 run c n rest _ ih => simp [ih]
  | case4 run c n rest _ _ ih => simp [flatten_extendFirst, ih]
  | case5 run c n rest _ _ ih => simp [flatten_extendFirst, ih]

/-- The words of a name have its letters and numbers, in order. -/
theorem flatten_words (s : String) : (words s).flatten = s.toList.filter isAlphanumeric := by
  have hcut : ∀ (pieces : List (List Char)),
      (pieces.flatMap (cutPiece .fresh)).flatten = pieces.flatten := by
    intro pieces
    induction pieces with
    | nil => rfl
    | cons p ps ih => simp [List.flatMap_cons, ih, flatten_cutPiece]
  rw [words, hcut, flatten_splitWhere]
  simp

variable {p : Char → Bool}

theorem only_of_mem_words {s : String} (h : Only p s.toList) {w : List Char} (hw : w ∈ words s) :
    Only p w := by
  intro c hc
  have hmem : c ∈ (words s).flatten := List.mem_flatten.mpr ⟨w, hw, hc⟩
  rw [flatten_words] at hmem
  exact h c (List.mem_filter.mp hmem).1

section CaseStable

variable (hp : CaseStable p)

include hp

theorem only_lowerWord {w : List Char} (h : Only p w) : Only p (lowerWord w) := by
  fun_induction lowerWord w with
  | case1 => exact only_nil
  | case2 => exact only_nil.cons (hp.sigma (h 'Σ' (by simp))).2
  | case3 c cs _ ih => exact (hp.lower (h c (by simp))).append (ih h.tail)

theorem only_upperWord {w : List Char} (h : Only p w) : Only p (upperWord w) :=
  Only.flatMap fun c hc => hp.upper (h c hc)

theorem only_capitalWord {w : List Char} (h : Only p w) : Only p (capitalWord w) := by
  cases w with
  | nil => exact only_nil
  | cons c cs => exact (hp.upper (h c (by simp))).append (only_lowerWord hp h.tail)

theorem only_camelCase {s : String} (h : Only p s.toList) : Only p (camelCase s).toList := by
  unfold camelCase
  split
  · exact only_nil
  · next w ws hws =>
    have hmem : ∀ v ∈ w :: ws, Only p v := fun v hv => only_of_mem_words h (hws ▸ hv)
    exact only_ofList.mpr ((only_lowerWord hp (hmem w (by simp))).append
      (Only.flatMap fun v hv => only_capitalWord hp (hmem v (List.mem_cons_of_mem _ hv))))

theorem only_pascalCase {s : String} (h : Only p s.toList) : Only p (pascalCase s).toList :=
  only_ofList.mpr (Only.flatMap fun _ hw => only_capitalWord hp (only_of_mem_words h hw))

end CaseStable

/-- Words that are mapped one by one and joined by a separator of the class. -/
theorem only_joined {sep : List Char} (hsep : Only p sep) {f : List Char → List Char}
    (hf : ∀ {w}, Only p w → Only p (f w)) {s : String} (h : Only p s.toList) :
    Only p (List.intercalate sep ((words s).map f)) := by
  refine Only.intercalate hsep fun cs hcs => ?_
  obtain ⟨w, hw, rfl⟩ := List.mem_map.mp hcs
  exact hf (only_of_mem_words h hw)

/-- A name stays within the class in every style. -/
theorem NameStable.restyle (hp : NameStable p) (style : NameStyle) {name : String}
    (h : Only p name.toList) : Only p (style.restyle name).toList := by
  have hunderscore : Only p ['_'] := only_nil.cons hp.underscore
  have hhyphen : Only p ['-'] := only_nil.cons hp.hyphen
  have hlower : ∀ {w}, Only p w → Only p (lowerWord w) := only_lowerWord hp.toCaseStable
  have hupper : ∀ {w}, Only p w → Only p (upperWord w) := only_upperWord hp.toCaseStable
  unfold NameStyle.restyle
  split
  · exact only_nil
  cases style with
  | asIs => exact h
  | camel => exact only_camelCase hp.toCaseStable h
  | snake => exact only_ofList.mpr (only_joined hunderscore hlower h)
  | pascal => exact only_pascalCase hp.toCaseStable h
  | upperSnake => exact only_ofList.mpr (only_joined hunderscore hupper h)
  | kebab => exact only_ofList.mpr (only_joined hhyphen hlower h)

theorem NameStable.avoidReserved (hp : NameStable p) (typed : Bool) {name : String}
    (h : Only p name.toList) : Only p (avoidReserved typed name).toList := by
  unfold Naming.avoidReserved
  split
  · rw [String.toList_append]
    exact h.append (only_nil.cons hp.underscore)
  · exact h

/-! ## Readings of a pattern -/

/-- A reading takes its characters from the front, and its groups from what it takes. -/
theorem Pattern.append_of_mem_read : ∀ (p : Pattern) {before : Option Char} {cs : List Char}
    {r : Reading}, r ∈ p.read before cs →
      r.taken ++ r.rest = cs ∧ ∀ g ∈ r.groups, g ⊆ r.taken := by
  intro p
  induction p with
  | empty => intro before cs r hr; simp_all [read]
  | wordEdge => intro before cs r hr; simp only [read] at hr; split at hr <;> simp_all
  | start => intro before cs r hr; simp only [read] at hr; split at hr <;> simp_all
  | char test =>
    intro before cs r hr
    cases cs with
    | nil => simp [read] at hr
    | cons c cs => simp only [read] at hr; split at hr <;> simp_all
  | seq p q ihp ihq =>
    -- the second pattern goes on with what the first has left
    intro before cs r hr
    simp only [read, List.mem_flatMap, List.mem_map] at hr
    obtain ⟨s, hs, t, ht, rfl⟩ := hr
    obtain ⟨hcs, hsg⟩ := ihp hs
    obtain ⟨hrest, htg⟩ := ihq ht
    refine ⟨by rw [← hcs, ← hrest, List.append_assoc], fun g hg => ?_⟩
    rcases List.mem_append.mp hg with hg | hg
    · exact List.Subset.trans (hsg g hg) (List.subset_append_left _ _)
    · exact List.Subset.trans (htg g hg) (List.subset_append_right _ _)
  | alt p q ihp ihq =>
    intro before cs r hr
    simp only [read, List.mem_append] at hr
    exact hr.elim ihp ihq
  | group p ih =>
    -- the new group is all that was taken
    intro before cs r hr
    simp only [read, List.mem_map] at hr
    obtain ⟨s, hs, rfl⟩ := hr
    obtain ⟨hcs, hg⟩ := ih hs
    refine ⟨hcs, fun g hmem => ?_⟩
    rcases List.mem_cons.mp hmem with rfl | hmem
    · exact List.Subset.refl _
    · exact hg g hmem

/-- What is found at the end of a text, and what stands before it, comes from the text. -/
theorem Pattern.subset_of_findAtEnd (p : Pattern) : ∀ (cs : List Char) {before : Option Char}
    {front : List Char} {r : Reading}, p.findAtEnd before cs = some (front, r) →
      front ⊆ cs ∧ r.taken ⊆ cs ∧ ∀ g ∈ r.groups, g ⊆ cs := by
  intro cs
  induction cs with
  | nil =>
    intro before front r h
    rw [findAtEnd] at h
    split at h
    · next found hfound =>
      obtain ⟨happ, hg⟩ := append_of_mem_read p (List.mem_of_find?_eq_some hfound)
      cases h
      have htaken : r.taken ⊆ [] := happ ▸ List.subset_append_left _ _
      exact ⟨by simp, htaken, fun g hgm => List.Subset.trans (hg g hgm) htaken⟩
    · cases h
  | cons c cs ih =>
    intro before front r h
    rw [findAtEnd] at h
    split at h
    · next found hfound =>
      obtain ⟨happ, hg⟩ := append_of_mem_read p (List.mem_of_find?_eq_some hfound)
      cases h
      have htaken : r.taken ⊆ c :: cs := happ ▸ List.subset_append_left _ _
      exact ⟨by simp, htaken, fun g hgm => List.Subset.trans (hg g hgm) htaken⟩
    · obtain ⟨⟨skipped, s⟩, hs, heq⟩ := Option.map_eq_some_iff.mp h
      cases heq
      obtain ⟨hfront, htaken, hg⟩ := ih hs
      have hup : cs ⊆ c :: cs := List.subset_cons_self c cs
      exact ⟨List.cons_subset_cons c hfront, List.Subset.trans htaken hup,
        fun g hgm => List.Subset.trans (hg g hgm) hup⟩

/-! ## Inflection -/

/-- The outcome of an inflection: a result is as it should be, and a failure shows that the class
of characters goes beyond ASCII. -/
def Yields (p : Char → Bool) {α : Type} (good : α → Prop) : Except InflectionFailure α → Prop
  | .ok a => good a
  | .error _ => ∃ c, p c = true ∧ isAscii c = false

theorem Yields.bind {α β : Type} {good : α → Prop} {fine : β → Prop}
    {x : Except InflectionFailure α} {f : α → Except InflectionFailure β} (hx : Yields p good x)
    (hf : ∀ a, good a → Yields p fine (f a)) : Yields p fine (x >>= f) := by
  cases x with
  | error e => exact hx
  | ok a => exact hf a hx

theorem Yields.of_ok {α : Type} {good : α → Prop} {x : Except InflectionFailure α}
    (h : Yields p good x) {a : α} (ha : x = .ok a) : good a := by
  subst ha
  exact h

/-- Within ASCII nothing fails. -/
theorem Yields.exists_ok {α : Type} {good : α → Prop} {x : Except InflectionFailure α}
    (h : Yields p good x) (hascii : ∀ c, p c = true → isAscii c = true) :
    ∃ a, x = .ok a ∧ good a := by
  cases x with
  | error e =>
    obtain ⟨c, hc, hbeyond⟩ := h
    rw [hascii c hc] at hbeyond
    cases hbeyond
  | ok a => exact ⟨a, rfl, h⟩

theorem only_dropReferences {cs : List Char} (h : Only p cs) : Only p (dropReferences cs) := by
  fun_induction dropReferences cs with
  | case1 => exact only_nil
  | case2 => exact only_nil
  | case3 d cs ih => exact ih h.tail.tail
  | case4 c cs _ _ ih => exact (ih h.tail).cons (h c (by simp))

theorem only_replaceFrom {part new : List Char} (hnew : Only p new) :
    ∀ (cs : List Char) (skip : Nat), Only p cs → Only p (replaceFrom part new skip cs) := by
  intro cs
  induction cs with
  | nil => intro skip _; cases skip <;> exact only_nil
  | cons c cs ih =>
    intro skip h
    cases skip with
    | succ skip => exact ih skip h.tail
    | zero =>
      rw [replaceFrom]
      split
      · exact hnew.append (ih _ h.tail)
      · exact (ih 0 h.tail).cons (h c (by simp))

/-- The names whose characters are of the class. -/
def IsOver (p : Char → Bool) (s : String) : Prop := Only p s.toList

section Inflection

variable (hp : CaseStable p)

include hp

/-- A text takes on the case of any word, unless it begins with a character outside ASCII. -/
theorem yields_inCaseOf (word : String) {text : String} (h : IsOver p text) :
    Yields p (IsOver p) (inCaseOf word text) := by
  unfold inCaseOf
  split
  · exact h
  split
  · exact hp.lowercase h
  split
  · exact hp.uppercase h
  split
  · exact only_nil
  · next c cs hcs =>
    have hc : p c = true := h c (by simp [hcs])
    split
    · split
      · exact h
      · next hbeyond => exact ⟨c, hc, Bool.eq_false_iff.mpr hbeyond⟩
    · exact hp.lowercase h

theorem yields_fillReferences (word : String) :
    ∀ (texts : List (List Char)) (i : Nat) {r : List Char}, (∀ t ∈ texts, Only p t) →
      Only p r → Yields p (Only p) (fillReferences word i texts r) := by
  intro texts
  induction texts with
  | nil => intro i r _ hr; exact hr
  | cons text texts ih =>
    intro i r htexts hr
    refine (yields_inCaseOf hp word (only_ofList.mpr (htexts text (by simp)))).bind fun t ht => ?_
    exact ih (i + 1) (fun u hu => htexts u (List.mem_cons_of_mem _ hu))
      (only_replaceFrom ht r 0 hr)

/-- A rule puts in only its replacement and parts of the word. -/
theorem yields_inflect? {rule : EndingRule} (hrule : IsOver p rule.replacement) {word : String}
    (h : IsOver p word) {result : Except InflectionFailure String}
    (hresult : rule.inflect? word = some result) : Yields p (IsOver p) result := by
  obtain ⟨⟨front, found⟩, hfound, rfl⟩ := Option.map_eq_some_iff.mp hresult
  obtain ⟨hfront, htaken, hgroups⟩ := Pattern.subset_of_findAtEnd _ _ hfound
  have htexts : ∀ t ∈ found.taken :: found.groups, Only p t := by
    intro t ht
    rcases List.mem_cons.mp ht with rfl | ht
    · exact Only.of_subset h htaken
    · exact Only.of_subset h (hgroups t ht)
  refine (yields_inCaseOf hp word hrule).bind fun r hr => ?_
  refine (yields_fillReferences hp word _ 0 htexts hr).bind fun filled hfilled => ?_
  exact only_ofList.mpr (only_dropReferences ((Only.of_subset h hfront).append hfilled))

theorem yields_byEnding {rules : List EndingRule}
    (hrules : ∀ rule ∈ rules ++ uncountableEndings, IsOver p rule.replacement) {word : String}
    (h : IsOver p word) : Yields p (IsOver p) (byEnding rules word) := by
  unfold byEnding
  cases hfound : (rules ++ uncountableEndings).reverse.findSome? (·.inflect? word) with
  | none => exact h
  | some result =>
    obtain ⟨rule, hmem, hresult⟩ := List.exists_of_findSome?_eq_some hfound
    exact yields_inflect? hp (hrules rule (List.mem_reverse.mp hmem)) h hresult

theorem yields_inflect {known other : String → Option String} {rules : List EndingRule}
    (hother : ∀ w s, other w = some s → IsOver p s)
    (hrules : ∀ rule ∈ rules ++ uncountableEndings, IsOver p rule.replacement) {word : String}
    (h : IsOver p word) : Yields p (IsOver p) (inflect known other rules word) := by
  unfold inflect
  dsimp only
  split
  · exact yields_inCaseOf hp word (hp.lowercase h)
  split
  · next form hform => exact yields_inCaseOf hp word (hother _ form hform)
  split
  · exact h
  · exact yields_byEnding hp hrules h

end Inflection

namespace NameStable

variable (hp : NameStable p)

include hp

/-- **The singular of a name stays within the class of its characters.** -/
theorem singularize {name : String} (h : IsOver p name) :
    Yields p (IsOver p) (singularize name) := by
  have hirregular : ∀ w s, irregularSingular? w = some s → IsOver p s := by
    intro w s hs
    obtain ⟨pair, hpair, rfl⟩ := Option.map_eq_some_iff.mp hs
    exact (hp.pairs pair (List.mem_reverse.mp (List.mem_of_find?_eq_some hpair))).1
  unfold Naming.singularize
  split
  · exact only_nil
  · exact yields_inflect hp.toCaseStable hirregular hp.singularRules h

/-- **The plural of a name stays within the class of its characters.** -/
theorem pluralize {name : String} (h : IsOver p name) : Yields p (IsOver p) (pluralize name) := by
  have hirregular : ∀ w s, irregularPlural? w = some s → IsOver p s := by
    intro w s hs
    obtain ⟨pair, hpair, rfl⟩ := Option.map_eq_some_iff.mp hs
    exact (hp.pairs pair (List.mem_reverse.mp (List.mem_of_find?_eq_some hpair))).2
  unfold Naming.pluralize
  split
  · exact only_nil
  · exact yields_inflect hp.toCaseStable hirregular hp.pluralRules h

/-- A name taken to a style, singular or not. -/
theorem apply (style : NameStyle) (singular : Bool) {name : String} (h : IsOver p name) :
    Yields p (IsOver p) (style.apply singular name) := by
  unfold NameStyle.apply
  cases singular with
  | false => exact hp.restyle style h
  | true =>
    exact (hp.singularize h).bind fun s hs => hp.restyle style hs

end NameStable
end SchemaModels.Naming

namespace SchemaModels

/-- The characters of the table in a qualified name are some of the name's. -/
theorem TableName.mem_of_mem_split {qualified : String} {c : Char}
    (h : c ∈ (split qualified).2.toList) : c ∈ qualified.toList := by
  unfold split at h
  dsimp only at h
  split at h
  · exact h
  · exact h
  · next _ _ sep rest heq _ =>
    rw [String.toList_ofList] at h
    have hrest : c ∈ rest := (List.takeWhile_sublist _).subset h
    have hdrop : c ∈ qualified.toList.dropWhile (· != '.') := heq ▸ List.mem_cons_of_mem _ hrest
    exact (List.dropWhile_sublist _).subset hdrop

end SchemaModels
