import SchemaModels.Proofs.Naming.DerivedNames

/-!
# Names that a style writes alike

Two names may be different and yet the same in some style, since a style sees no more of a name than
its words. `NameStyle.restyle_eq_restyle_iff` says when that happens. A style that puts separators
between the words gives all of them away: the words are never empty (`ne_nil_of_mem_words`), and no
case map makes a separator of one of their characters (`caseStable_joinsNothing`), so that the text
can be cut into its words again. A style without separators runs the words together, and names with
different words may become the same there, such as `item_1` and `item1`.
-/

namespace SchemaModels.Naming

open Text

/-! ## Separators -/

/-- A character that does not separate words in any style. -/
def joinsNothing (c : Char) : Bool := c != '_' && c != '-'

theorem joinsNothing_of_isAlphanumeric {c : Char} (h : isAlphanumeric c = true) :
    joinsNothing c = true := by
  rw [joinsNothing, Bool.and_eq_true, bne_iff_ne, bne_iff_ne]
  constructor <;> rintro rfl <;> exact absurd h (by decide)

/-- No letter has a separator as its lower or upper case. -/
theorem caseStable_joinsNothing : CaseStable joinsNothing := by
  refine .of_caseless fun c hc => ?_
  rw [joinsNothing, Bool.and_eq_false_iff, bne_eq_false_iff_eq, bne_eq_false_iff_eq] at hc
  rcases hc with rfl | rfl <;> decide

/-- The characters of words separate nothing. -/
theorem only_joinsNothing_of_mem_words {s : String} {w : List Char} (h : w ∈ words s) :
    Only joinsNothing w := by
  intro c hc
  have hmem : c ∈ (words s).flatten := List.mem_flatten.mpr ⟨w, h, hc⟩
  rw [flatten_words] at hmem
  exact joinsNothing_of_isAlphanumeric (List.mem_filter.mp hmem).2

/-! ## Words are not empty -/

theorem ne_nil_of_mem_extendFirst {c : Char} {ws : List (List Char)}
    (h : ∀ w ∈ ws.tail, w ≠ []) : ∀ w ∈ extendFirst c ws, w ≠ [] := by
  cases ws with
  | nil => simp [extendFirst]
  | cons v ws => exact List.forall_mem_cons.mpr ⟨List.cons_ne_nil c v, h⟩

/-- Only the first word of a piece may be empty, and only after capitals. -/
theorem ne_nil_of_mem_cutPiece (run : Run) (cs : List Char) :
    (∀ w ∈ (cutPiece run cs).tail, w ≠ []) ∧ (run ≠ .upper → ∀ w ∈ cutPiece run cs, w ≠ []) := by
  have htail : ∀ {ws : List (List Char)}, (∀ w ∈ ws, w ≠ []) → ∀ w ∈ ws.tail, w ≠ [] :=
    fun h w hw => h w (List.mem_of_mem_tail hw)
  fun_induction cutPiece run cs with
  | case1 => simp
  | case2 => simp
  | case3 run c n rest _ ih =>
    have hall := ih.2 (by decide)
    exact ⟨hall, fun _ => List.forall_mem_cons.mpr ⟨List.cons_ne_nil c [], hall⟩⟩
  | case4 run c n rest _ hrun ih =>
    have hupper : run = .upper := by simp_all
    exact ⟨ne_nil_of_mem_extendFirst ih.1, fun hne => absurd hupper hne⟩
  | case5 run c n rest _ _ ih =>
    have hall := ne_nil_of_mem_extendFirst (c := c) ih.1
    exact ⟨htail hall, fun _ => hall⟩

/-- **The words of a name are not empty.** -/
theorem ne_nil_of_mem_words {s : String} {w : List Char} (h : w ∈ words s) : w ≠ [] := by
  obtain ⟨piece, -, hw⟩ := List.mem_flatMap.mp h
  exact (ne_nil_of_mem_cutPiece .fresh piece).2 (by decide) w hw

theorem mapCase_ne_nil {expansions : List (Nat × List Nat)} {shifts : List CaseShift}
    (h : ∀ e ∈ expansions, e.2 ≠ []) (c : Char) : mapCase expansions shifts c ≠ [] := by
  unfold mapCase
  split
  · next e he => simpa using h e (List.mem_of_find?_eq_some he)
  split <;> simp

theorem toLower_ne_nil (c : Char) : toLower c ≠ [] := by
  unfold toLower
  split
  · simp
  · exact mapCase_ne_nil (by decide +kernel) c

theorem toUpper_ne_nil (c : Char) : toUpper c ≠ [] := by
  unfold toUpper
  split
  · simp
  · exact mapCase_ne_nil (by decide +kernel) c

theorem lowerWord_ne_nil {w : List Char} (h : w ≠ []) : lowerWord w ≠ [] := by
  fun_cases lowerWord w with
  | case1 => exact absurd rfl h
  | case2 => simp
  | case3 c cs _ => simp [toLower_ne_nil]

theorem upperWord_ne_nil {w : List Char} (h : w ≠ []) : upperWord w ≠ [] := by
  cases w with
  | nil => exact absurd rfl h
  | cons c cs => simp [upperWord, toUpper_ne_nil]

/-! ## Joined words -/

/-- A word in a joined text: not empty, and without a separator. -/
def IsPiece (w : List Char) : Prop := w ≠ [] ∧ Only joinsNothing w

/-- Pieces that are joined can be told from the text. -/
theorem intercalate_eq_intercalate_iff {sep : Char} (hsep : joinsNothing sep = false)
    {xs ys : List (List Char)} (hxs : ∀ x ∈ xs, IsPiece x) (hys : ∀ y ∈ ys, IsPiece y) :
    List.intercalate [sep] xs = List.intercalate [sep] ys ↔ xs = ys := by
  have hsplit : ∀ {zs : List (List Char)}, zs ≠ [] → (∀ z ∈ zs, IsPiece z) →
      splitWhere (fun c => !joinsNothing c) (List.intercalate [sep] zs) = zs :=
    fun hne hzs => splitWhere_intercalate (by simp [hsep]) hne
      fun z hz c hc => by simp [(hzs z hz).2 c hc]
  -- nothing at all joins to what an empty piece does, but no piece is empty
  have hnil : ∀ {zs : List (List Char)}, (∀ z ∈ zs, IsPiece z) →
      List.intercalate [sep] zs = [] → zs = [] := by
    intro zs hzs hjoined
    apply Classical.byContradiction
    intro hne
    have hone := hsplit hne hzs
    rw [hjoined, splitWhere] at hone
    exact (hzs [] (hone ▸ List.mem_singleton_self _)).1 rfl
  constructor
  · intro h
    by_cases hx : xs = []
    · subst hx
      exact (hnil hys h.symm).symm
    · have hy : ys ≠ [] := by
        rintro rfl
        exact hx (hnil hxs h)
      rw [← hsplit hx hxs, h, hsplit hy hys]
  · rintro rfl
    rfl

theorem isPiece_of_mem_map {f : List Char → List Char} (hne : ∀ {w}, w ≠ [] → f w ≠ [])
    (honly : ∀ {w}, Only joinsNothing w → Only joinsNothing (f w)) {s : String} :
    ∀ x ∈ (words s).map f, IsPiece x := by
  intro x hx
  obtain ⟨w, hw, rfl⟩ := List.mem_map.mp hx
  exact ⟨hne (ne_nil_of_mem_words hw), honly (only_joinsNothing_of_mem_words hw)⟩

/-! ## Styles -/

/-- The words of a name as they stand in camel case. -/
def camelWords : List (List Char) → List (List Char)
  | [] => []
  | w :: ws => lowerWord w :: ws.map capitalWord

/-- The style sees no difference between the names. -/
def NameStyle.Alike (style : NameStyle) (a b : String) : Prop :=
  match style with
  | asIs => a = b
  | camel => (camelWords (words a)).flatten = (camelWords (words b)).flatten
  | pascal => ((words a).map capitalWord).flatten = ((words b).map capitalWord).flatten
  | snake | kebab => (words a).map lowerWord = (words b).map lowerWord
  | upperSnake => (words a).map upperWord = (words b).map upperWord

instance (style : NameStyle) (a b : String) : Decidable (style.Alike a b) :=
  match style with
  | .asIs => inferInstanceAs (Decidable (a = b))
  | .camel => inferInstanceAs
      (Decidable ((camelWords (words a)).flatten = (camelWords (words b)).flatten))
  | .pascal => inferInstanceAs
      (Decidable (((words a).map capitalWord).flatten = ((words b).map capitalWord).flatten))
  | .snake => inferInstanceAs (Decidable ((words a).map lowerWord = (words b).map lowerWord))
  | .kebab => inferInstanceAs (Decidable ((words a).map lowerWord = (words b).map lowerWord))
  | .upperSnake => inferInstanceAs (Decidable ((words a).map upperWord = (words b).map upperWord))

namespace NameStyle

/-- The empty name is no exception. -/
theorem restyle_eq (style : NameStyle) (name : String) : style.restyle name =
    match style with
    | asIs => name
    | camel => camelCase name
    | snake => snakeCase name
    | pascal => pascalCase name
    | upperSnake => upperSnakeCase name
    | kebab => kebabCase name := by
  unfold restyle
  split
  · next h =>
    subst h
    cases style <;> rfl
  · rfl

theorem camelCase_eq (s : String) : camelCase s = String.ofList (camelWords (words s)).flatten := by
  unfold camelCase camelWords
  cases words s with
  | nil => rfl
  | cons w ws => simp [List.flatMap_def]

/-- **A style writes two names as one just if it sees no difference between them.** -/
theorem restyle_eq_restyle_iff (style : NameStyle) (a b : String) :
    style.restyle a = style.restyle b ↔ style.Alike a b := by
  have hlower : ∀ s : String, ∀ x ∈ (words s).map lowerWord, IsPiece x :=
    fun _ => isPiece_of_mem_map lowerWord_ne_nil (only_lowerWord caseStable_joinsNothing)
  have hupper : ∀ s : String, ∀ x ∈ (words s).map upperWord, IsPiece x :=
    fun _ => isPiece_of_mem_map upperWord_ne_nil (only_upperWord caseStable_joinsNothing)
  rw [restyle_eq, restyle_eq]
  cases style with
  | asIs => exact Iff.rfl
  | camel =>
    dsimp only
    rw [camelCase_eq, camelCase_eq, String.ofList_inj]
    rfl
  | pascal =>
    dsimp only
    rw [pascalCase, pascalCase, String.ofList_inj, List.flatMap_def, List.flatMap_def]
    rfl
  | snake =>
    dsimp only
    rw [snakeCase, snakeCase, String.ofList_inj]
    exact intercalate_eq_intercalate_iff rfl (hlower a) (hlower b)
  | upperSnake =>
    dsimp only
    rw [upperSnakeCase, upperSnakeCase, String.ofList_inj]
    exact intercalate_eq_intercalate_iff rfl (hupper a) (hupper b)
  | kebab =>
    dsimp only
    rw [kebabCase, kebabCase, String.ofList_inj]
    exact intercalate_eq_intercalate_iff rfl (hlower a) (hlower b)

example : Alike .camel "user_id" "userId" ∧ Alike .pascal "item_1" "item1" ∧
    ¬ Alike .snake "item_1" "item1" := by
  decide

end NameStyle
end SchemaModels.Naming
