import SchemaModels.Text.Search

/-!
# Splitting, searching, joining and replacing

Splitting a text at a separator undoes joining pieces that do not have the separator
(`splitWhere_intercalate`), and drops nothing but the separators (`flatten_splitWhere`). Pieces that
have it are split in turn, which shows once they are joined with a longer separator
(`intercalate_splitOn_intercalate_iff`). A text contains the texts that are infixes of it
(`contains_iff`). A character that a text does not have cuts the search for it in two
(`occurs_append_cons`).

`replaceFrom` walks over the characters and counts down the ones of an occurrence it has already
replaced. The count is only a way to drop characters (`replaceFrom_eq_drop`), so a replacement
either puts the new text for an occurrence at the front or keeps one character. A character that
is not in the part to replace is never in an occurrence. Such a character therefore cuts the text
into two that are replaced on their own (`replaceFrom_append_cons`). So does any place from which on
the text does not have the last character of the part (`replaceFrom_append_of_notMem`).
-/

namespace SchemaModels.Text

/-- Putting a list for each element changes nothing if each element is kept. -/
theorem flatMap_eq_self {α : Type} {f : α → List α} :
    ∀ {l : List α}, (∀ a ∈ l, f a = [a]) → l.flatMap f = l := by
  intro l
  induction l with
  | nil => intro _; rfl
  | cons a l ih =>
    intro h
    rw [List.flatMap_cons, h a (by simp), ih fun b hb => h b (List.mem_cons_of_mem a hb)]
    rfl

/-! ## Splitting -/

variable {p : Char → Bool}

/-- The pieces have all characters but the separating ones. -/
theorem flatten_splitWhere (p : Char → Bool) : ∀ (cs : List Char),
    (splitWhere p cs).flatten = cs.filter (fun c => !p c) := by
  intro cs
  induction cs with
  | nil => rfl
  | cons c cs ih =>
    rw [splitWhere, List.filter_cons]
    split
    · next h => simp [h, ih]
    · next h =>
      rw [← ih]
      split <;> simp_all

/-- The pieces of a text are parts of it. -/
theorem subset_of_mem_splitOn {sep : Char} {s piece : String} (h : piece ∈ splitOn sep s) :
    piece.toList ⊆ s.toList := by
  obtain ⟨cs, hcs, rfl⟩ := List.mem_map.mp h
  rw [String.toList_ofList]
  intro c hc
  have hmem : c ∈ (splitWhere (· == sep) s.toList).flatten := List.mem_flatten.mpr ⟨cs, hcs, hc⟩
  rw [flatten_splitWhere] at hmem
  exact (List.mem_filter.mp hmem).1

/-- Without a separator there is one piece. -/
theorem splitWhere_eq_singleton : ∀ {piece : List Char}, (∀ c ∈ piece, p c = false) →
    splitWhere p piece = [piece] := by
  intro piece
  induction piece with
  | nil => intro _; rfl
  | cons c piece ih =>
    intro h
    rw [splitWhere, h c (by simp), ih fun d hd => h d (List.mem_cons_of_mem c hd)]
    rfl

theorem splitWhere_ne_nil (cs : List Char) : splitWhere p cs ≠ [] := by
  cases cs with
  | nil => exact List.cons_ne_nil _ _
  | cons c cs =>
    rw [splitWhere]
    split
    · exact List.cons_ne_nil _ _
    · split <;> exact List.cons_ne_nil _ _

/-- A separator cuts the text into two that are split on their own. -/
theorem splitWhere_append {sep : Char} (hsep : p sep = true) (ys : List Char) :
    ∀ (xs : List Char), splitWhere p (xs ++ sep :: ys) = splitWhere p xs ++ splitWhere p ys := by
  intro xs
  induction xs with
  | nil => simp [splitWhere, hsep]
  | cons x xs ih =>
    rw [List.cons_append, splitWhere, splitWhere, ih]
    split
    · rfl
    · obtain ⟨piece, pieces, hpieces⟩ := List.exists_cons_of_ne_nil (splitWhere_ne_nil (p := p) xs)
      rw [hpieces]
      rfl

/-- Joined pieces are split one by one. -/
theorem splitWhere_intercalate_eq_flatMap {sep : Char} (hsep : p sep = true) :
    ∀ {pieces : List (List Char)}, pieces ≠ [] →
      splitWhere p (List.intercalate [sep] pieces) = pieces.flatMap (splitWhere p) := by
  intro pieces
  induction pieces with
  | nil => intro hne; exact absurd rfl hne
  | cons piece pieces ih =>
    intro _
    cases pieces with
    | nil => rw [List.intercalate_singleton, List.flatMap_singleton]
    | cons next pieces =>
      rw [List.intercalate_cons_cons, List.append_assoc, List.singleton_append,
        splitWhere_append hsep, ih (List.cons_ne_nil _ _)]
      rfl

/-- Splitting undoes joining. -/
theorem splitWhere_intercalate {sep : Char} (hsep : p sep = true) {pieces : List (List Char)}
    (hne : pieces ≠ []) (h : ∀ piece ∈ pieces, ∀ c ∈ piece, p c = false) :
    splitWhere p (List.intercalate [sep] pieces) = pieces := by
  rw [splitWhere_intercalate_eq_flatMap hsep hne]
  exact flatMap_eq_self fun piece hpiece => splitWhere_eq_singleton (h piece hpiece)

/-- Characters that are no separators belong to the first piece. -/
theorem splitWhere_append_of_not {ys piece : List Char} {pieces : List (List Char)}
    (hys : splitWhere p ys = piece :: pieces) : ∀ {xs : List Char}, (∀ c ∈ xs, p c = false) →
      splitWhere p (xs ++ ys) = (xs ++ piece) :: pieces := by
  intro xs
  induction xs with
  | nil => intro _; exact hys
  | cons x xs ih =>
    intro h
    rw [List.cons_append, splitWhere, h x List.mem_cons_self,
      ih fun c hc => h c (List.mem_cons_of_mem x hc)]
    rfl

/-- There is one piece more than there are separators. -/
theorem length_splitWhere : ∀ (cs : List Char), (splitWhere p cs).length = cs.countP p + 1 := by
  intro cs
  induction cs with
  | nil => rfl
  | cons c cs ih =>
    rw [splitWhere, List.countP_cons]
    split
    · rw [List.length_cons, ih]
    · obtain ⟨piece, pieces, hpieces⟩ := List.exists_cons_of_ne_nil (splitWhere_ne_nil (p := p) cs)
      rw [hpieces] at ih ⊢
      exact ih

/-- Pieces split on their own into as many as there are have no separators. -/
theorem eq_false_of_length_flatMap_splitWhere {pieces : List (List Char)}
    (h : (pieces.flatMap (splitWhere p)).length = pieces.length) :
    ∀ piece ∈ pieces, ∀ c ∈ piece, p c = false := by
  have hlen : ∀ pieces : List (List Char),
      (pieces.flatMap (splitWhere p)).length = pieces.flatten.countP p + pieces.length := by
    intro pieces
    induction pieces with
    | nil => rfl
    | cons piece pieces ih =>
      rw [List.flatMap_cons, List.length_append, length_splitWhere, ih, List.flatten_cons,
        List.countP_append, List.length_cons]
      omega
  have hcount : pieces.flatten.countP p = 0 := by
    have := hlen pieces
    omega
  intro piece hpiece c hc
  exact Bool.eq_false_iff.mpr (List.countP_eq_zero.mp hcount c
    (List.mem_flatten.mpr ⟨piece, hpiece, hc⟩))

/-! ## Searching -/

theorem occurs_iff {part : List Char} : ∀ {cs : List Char},
    occurs part cs = true ↔ part <:+: cs := by
  intro cs
  induction cs with
  | nil => rw [occurs, List.isEmpty_iff, List.infix_nil]
  | cons c cs ih =>
    rw [occurs, Bool.or_eq_true, List.isPrefixOf_iff_prefix, ih, List.infix_cons_iff]

theorem contains_iff {part s : String} : contains part s = true ↔ part.toList <:+: s.toList :=
  occurs_iff

/-- In a front without its first character a part does not begin. -/
theorem occurs_append_of_head_notMem {first : Char} {more : List Char} (ys : List Char) :
    ∀ {xs : List Char}, first ∉ xs →
      occurs (first :: more) (xs ++ ys) = occurs (first :: more) ys := by
  intro xs
  induction xs with
  | nil => intro _; rfl
  | cons x xs ih =>
    intro h
    rw [List.mem_cons, not_or] at h
    have hno : (first == x) = false := by simpa using h.1
    rw [List.cons_append, occurs, ih h.2, List.isPrefixOf, hno, Bool.false_and, Bool.false_or]

/-- A prefix without the character `c` ends before `c`. -/
theorem prefix_of_prefix_append_cons {part : List Char} {c : Char} {xs ys : List Char}
    (hc : c ∉ part) (h : part <+: xs ++ c :: ys) : part <+: xs := by
  rcases Nat.lt_or_ge xs.length part.length with hlt | hge
  · have hwhole : xs ++ [c] <+: xs ++ c :: ys := ⟨ys, by simp⟩
    have hcut : xs ++ [c] <+: part := by
      refine List.prefix_of_prefix_length_le hwhole h ?_
      rw [List.length_append, List.length_singleton]
      omega
    exact absurd (hcut.subset (by simp)) hc
  · exact List.prefix_of_prefix_length_le h (List.prefix_append xs _) hge

/-- A character that a part does not have cuts a search in two. -/
theorem occurs_append_cons {part : List Char} (hpart : part ≠ []) {c : Char} (hc : c ∉ part)
    (ys : List Char) : ∀ (xs : List Char),
      occurs part (xs ++ c :: ys) = (occurs part xs || occurs part ys) := by
  have hprefix : ∀ xs, part.isPrefixOf (xs ++ c :: ys) = part.isPrefixOf xs := by
    intro xs
    rw [Bool.eq_iff_iff, List.isPrefixOf_iff_prefix, List.isPrefixOf_iff_prefix]
    exact ⟨prefix_of_prefix_append_cons hc, fun h => h.trans (List.prefix_append xs _)⟩
  intro xs
  induction xs with
  | nil =>
    have hempty : part.isEmpty = false := by simpa using hpart
    have hno : part.isPrefixOf (c :: ys) = false := by
      have := hprefix []
      rw [List.nil_append] at this
      rw [this, Bool.eq_false_iff, ne_eq, List.isPrefixOf_iff_prefix, List.prefix_nil]
      exact hpart
    rw [List.nil_append, occurs, occurs, hno, hempty]
  | cons x xs ih =>
    have hx := hprefix (x :: xs)
    rw [List.cons_append] at hx ⊢
    rw [occurs, occurs, hx, ih, Bool.or_assoc]

/-- Characters that stand for each other in a search, if none of the part is among them. -/
theorem occurs_map {part : List Char} {f : Char → Char} (hf : ∀ p ∈ part, ∀ c, f c = p ↔ c = p) :
    ∀ (cs : List Char), occurs part (cs.map f) = occurs part cs := by
  have hprefix : ∀ {part : List Char}, (∀ p ∈ part, ∀ c, f c = p ↔ c = p) →
      ∀ cs, part.isPrefixOf (cs.map f) = part.isPrefixOf cs := by
    intro part
    induction part with
    | nil => intro _ cs; rfl
    | cons p part ih =>
      intro hf cs
      cases cs with
      | nil => rfl
      | cons c cs =>
        have hp : (p == f c) = (p == c) := by
          rw [Bool.eq_iff_iff, beq_iff_eq, beq_iff_eq, eq_comm, hf p List.mem_cons_self, eq_comm]
        rw [List.map_cons, List.isPrefixOf, List.isPrefixOf, hp,
          ih (fun q hq => hf q (List.mem_cons_of_mem p hq))]
  intro cs
  induction cs with
  | nil => rfl
  | cons c cs ih =>
    have hc := hprefix hf (c :: cs)
    rw [List.map_cons] at hc ⊢
    rw [occurs, occurs, hc, ih]

/-! ## Joining -/

/-- Each piece stands in the joined text. -/
theorem exists_intercalate_eq (sep : String) {piece : String} : ∀ {pieces : List String},
    piece ∈ pieces →
      ∃ front back, String.intercalate sep pieces = front ++ piece ++ back := by
  intro pieces
  induction pieces with
  | nil => intro h; cases h
  | cons first pieces ih =>
    intro h
    cases pieces with
    | nil =>
      rw [List.mem_singleton.mp h]
      exact ⟨"", "", by rw [String.intercalate_singleton, String.empty_append, String.append_empty]⟩
    | cons next pieces =>
      rw [String.intercalate_cons_cons]
      rcases List.mem_cons.mp h with rfl | h
      · exact ⟨"", sep ++ String.intercalate sep (next :: pieces), by
          rw [String.empty_append, String.append_assoc]⟩
      · obtain ⟨front, back, heq⟩ := ih h
        exact ⟨first ++ sep ++ front, back, by rw [heq]; simp only [String.append_assoc]⟩

/-- What holds of a text with a separator just if it holds before or behind it holds of joined
pieces just if it holds of one of them. -/
theorem any_intercalate {holds : List Char → Bool} {sep : Char}
    (hcut : ∀ xs ys, holds (xs ++ sep :: ys) = (holds xs || holds ys)) :
    ∀ {pieces : List (List Char)}, pieces ≠ [] →
      holds (List.intercalate [sep] pieces) = pieces.any holds := by
  intro pieces
  induction pieces with
  | nil => intro hne; exact absurd rfl hne
  | cons piece pieces ih =>
    intro _
    cases pieces with
    | nil => rw [List.intercalate_singleton, List.any_cons, List.any_nil, Bool.or_false]
    | cons next pieces =>
      rw [List.intercalate_cons_cons, List.append_assoc, List.singleton_append, hcut,
        ih (List.cons_ne_nil _ _)]
      rfl

/-- Joining puts the separators back at which a text was split. -/
theorem intercalate_splitWhere {sep : Char} : ∀ (cs : List Char),
    List.intercalate [sep] (splitWhere (· == sep) cs) = cs := by
  intro cs
  induction cs with
  | nil => rfl
  | cons c cs ih =>
    obtain ⟨piece, pieces, hpieces⟩ :=
      List.exists_cons_of_ne_nil (splitWhere_ne_nil (p := (· == sep)) cs)
    rw [hpieces] at ih
    rw [splitWhere, hpieces]
    split
    · next h =>
      rw [List.intercalate_cons_cons, ih, List.nil_append, List.singleton_append, eq_of_beq h]
    · cases pieces with
      | nil => rw [List.intercalate_singleton] at ih ⊢; rw [ih]
      | cons next pieces =>
        rw [List.intercalate_cons_cons] at ih ⊢
        rw [List.cons_append, List.cons_append, ih]

theorem intercalate_splitOn {sep : Char} {mark : String} (hmark : mark.toList = [sep])
    (s : String) : String.intercalate mark (splitOn sep s) = s := by
  rw [← String.toList_inj, String.toList_intercalate, hmark, splitOn, List.map_map]
  simpa using intercalate_splitWhere s.toList

/-- Each piece but one has a separator before it. -/
theorem length_intercalate (sep : List Char) : ∀ {pieces : List (List Char)}, pieces ≠ [] →
    (List.intercalate sep pieces).length + sep.length
      = pieces.flatten.length + pieces.length * sep.length := by
  intro pieces
  induction pieces with
  | nil => intro hne; exact absurd rfl hne
  | cons piece pieces ih =>
    intro _
    cases pieces with
    | nil => simp
    | cons next pieces =>
      have := ih (List.cons_ne_nil _ _)
      rw [List.intercalate_cons_cons, List.flatten_cons, List.length_append, List.length_append,
        List.length_append, List.length_cons, Nat.succ_mul]
      omega

/-- Splitting at a character undoes joining with it. -/
theorem splitOn_intercalate {sep : Char} {mark : String} (hmark : mark.toList = [sep])
    {pieces : List String} (hne : pieces ≠ []) (h : ∀ piece ∈ pieces, sep ∉ piece.toList) :
    splitOn sep (String.intercalate mark pieces) = pieces := by
  have hcut : splitWhere (· == sep) (List.intercalate [sep] (pieces.map String.toList))
      = pieces.map String.toList := by
    have hne : pieces.map String.toList ≠ [] := by simpa using hne
    refine splitWhere_intercalate (p := (· == sep)) (beq_self_eq_true sep) hne ?_
    intro cs hcs c hc
    obtain ⟨piece, hpiece, rfl⟩ := List.mem_map.mp hcs
    refine beq_eq_false_iff_ne.mpr ?_
    rintro rfl
    exact h piece hpiece hc
  rw [splitOn, String.toList_intercalate, hmark, hcut, List.map_map]
  simp

/-- **A longer separator shows which pieces had the old one inside them.** -/
theorem intercalate_splitOn_intercalate_iff {sep : Char} {mark new : String}
    (hmark : mark.toList = [sep]) (hnew : 1 < new.toList.length) {pieces : List String}
    (hne : pieces ≠ []) :
    String.intercalate new (splitOn sep (String.intercalate mark pieces))
      = String.intercalate new pieces ↔ ∀ piece ∈ pieces, sep ∉ piece.toList := by
  constructor
  · intro h
    let whole := pieces.map String.toList
    let cut := whole.flatMap (splitWhere (· == sep))
    have hwhole : whole ≠ [] := by simpa [whole] using hne
    have hsplit : splitWhere (· == sep) (List.intercalate [sep] whole) = cut :=
      splitWhere_intercalate_eq_flatMap (p := (· == sep)) (beq_self_eq_true sep) hwhole
    have hcut : cut ≠ [] := hsplit ▸ splitWhere_ne_nil _
    have hold : List.intercalate [sep] cut = List.intercalate [sep] whole := by
      rw [← hsplit, intercalate_splitWhere]
    have hlong : List.intercalate new.toList cut = List.intercalate new.toList whole := by
      have htexts := congrArg String.toList h
      rw [String.toList_intercalate, String.toList_intercalate, splitOn, List.map_map,
        String.toList_intercalate, hmark, hsplit] at htexts
      simpa using htexts
    -- a separator more shows in the lengths, and more so if it is longer
    have hlen : cut.length = whole.length := by
      have holdLength := congrArg List.length hold
      have hlongLength := congrArg List.length hlong
      have h₁ := length_intercalate [sep] hcut
      have h₂ := length_intercalate [sep] hwhole
      have h₃ := length_intercalate new.toList hcut
      have h₄ := length_intercalate new.toList hwhole
      obtain ⟨k, hk⟩ : ∃ k, new.toList.length = k + 1 + 1 := ⟨new.toList.length - 2, by omega⟩
      rw [hk, Nat.mul_succ] at h₃ h₄
      rw [List.length_singleton, Nat.mul_one] at h₁ h₂
      have hmore : cut.length * (k + 1) = whole.length * (k + 1) := by omega
      exact Nat.eq_of_mul_eq_mul_right (Nat.succ_pos k) hmore
    intro piece hpiece hmem
    have hnone := eq_false_of_length_flatMap_splitWhere hlen piece.toList
      (List.mem_map_of_mem hpiece) sep hmem
    rw [beq_self_eq_true] at hnone
    cases hnone
  · intro h
    rw [splitOn_intercalate hmark hne h]

/-! ## Lines -/

theorem unlines_append (l m : List String) :
    unlines (l ++ m) = unlines l ++ unlines m := by
  rw [unlines, unlines, unlines, List.map_append, String.join_append]

theorem unlines_cons (s : String) (l : List String) :
    unlines (s :: l) = s ++ "\n" ++ unlines l := by
  rw [unlines, List.map_cons, String.join_cons, ← unlines]

/-- The last line has a line end, too. -/
theorem exists_unlines_eq {l : List String} (h : l ≠ []) :
    ∃ before, unlines l = before ++ "\n" := by
  obtain ⟨init, last, rfl⟩ := (List.eq_nil_or_concat l).resolve_left h
  refine ⟨unlines init ++ last, ?_⟩
  have hnil : unlines [] = "" := rfl
  rw [List.concat_eq_append, unlines_append, unlines_cons, hnil, String.append_empty,
    String.append_assoc]

/-- Lines with line ends between them: the last one has none. -/
theorem intercalate_concat (last : String) : ∀ (l : List String),
    String.intercalate "\n" (l ++ [last]) = unlines l ++ last := by
  intro l
  induction l with
  | nil => rw [List.nil_append, String.intercalate_singleton, unlines, List.map_nil,
      String.join_nil, String.empty_append]
  | cons s l ih =>
    have hne : l ++ [last] ≠ [] := by simp
    obtain ⟨t, m, htm⟩ := List.exists_cons_of_ne_nil hne
    rw [List.cons_append, htm, String.intercalate_cons_cons, ← htm, ih, unlines_cons]
    simp only [String.append_assoc]

/-! ## Replacing -/

variable {part new : List Char}

/-- The count of characters to skip drops them. -/
theorem replaceFrom_eq_drop : ∀ (cs : List Char) (skip : Nat),
    replaceFrom part new skip cs = replaceFrom part new 0 (cs.drop skip) := by
  intro cs
  induction cs with
  | nil => intro skip; cases skip <;> rfl
  | cons c cs ih =>
    intro skip
    cases skip with
    | zero => rfl
    | succ skip => exact ih skip

/-- An occurrence at the front becomes the new text. -/
theorem replaceFrom_append_of_ne_nil (h : part ≠ []) (rest : List Char) :
    replaceFrom part new 0 (part ++ rest) = new ++ replaceFrom part new 0 rest := by
  cases part with
  | nil => exact absurd rfl h
  | cons p ps =>
    have hpre : (p :: ps).isPrefixOf (p :: (ps ++ rest)) = true := by
      rw [ List.isPrefixOf_iff_prefix]
      exact List.prefix_append (p :: ps) rest
    rw [List.cons_append, replaceFrom, if_pos hpre, replaceFrom_eq_drop]
    simp

/-- A character that no occurrence starts with is kept. -/
theorem replaceFrom_cons_of_not_isPrefix {c : Char} {cs : List Char} (h : ¬ part <+: c :: cs) :
    replaceFrom part new 0 (c :: cs) = c :: replaceFrom part new 0 cs := by
  rw [replaceFrom, if_neg (by rwa [ List.isPrefixOf_iff_prefix])]

/-- A front in which no occurrence starts is kept. -/
theorem replaceFrom_append_of_head_notMem {first : Char} {more : List Char} (ys : List Char) :
    ∀ {xs : List Char}, first ∉ xs →
      replaceFrom (first :: more) new 0 (xs ++ ys)
        = xs ++ replaceFrom (first :: more) new 0 ys := by
  intro xs
  induction xs with
  | nil => intro _; rfl
  | cons x xs ih =>
    intro h
    rw [List.mem_cons, not_or] at h
    have hno : ¬ first :: more <+: x :: (xs ++ ys) :=
      fun hpre => h.1 (List.cons_prefix_cons.mp hpre).1
    rw [List.cons_append, replaceFrom_cons_of_not_isPrefix hno, ih h.2, List.cons_append]

/-- Without a character of the part there is nothing to replace. -/
theorem replaceFrom_eq_self {c : Char} (hc : c ∈ part) : ∀ {cs : List Char}, c ∉ cs →
    replaceFrom part new 0 cs = cs := by
  intro cs
  induction cs with
  | nil => intro _; rfl
  | cons d cs ih =>
    intro h
    have hno : ¬ part <+: d :: cs := fun hpre => h (hpre.subset hc)
    rw [replaceFrom_cons_of_not_isPrefix hno, ih fun hmem => h (List.mem_cons_of_mem d hmem)]

/-- A text can be cut where no occurrence spans the cut, and its parts are replaced on their own. -/
theorem replaceFrom_append (hpart : part ≠ []) {ys : List Char}
    (hcut : ∀ xs, part <+: xs ++ ys → part <+: xs) : ∀ (xs : List Char),
      replaceFrom part new 0 (xs ++ ys)
        = replaceFrom part new 0 xs ++ replaceFrom part new 0 ys := by
  intro xs
  -- the walk jumps over whole occurrences, so the induction is on the length
  induction hn : xs.length using Nat.strongRecOn generalizing xs with
  | ind n ih =>
    subst hn
    cases xs with
    | nil => rfl
    | cons x xs =>
      by_cases hpre : part <+: x :: xs
      · obtain ⟨rest, hrest⟩ := hpre
        have hlen : rest.length < (x :: xs).length := by
          have hpos := List.length_pos_iff.mpr hpart
          rw [← hrest, List.length_append]
          omega
        rw [← hrest, List.append_assoc, replaceFrom_append_of_ne_nil hpart,
          replaceFrom_append_of_ne_nil hpart, ih _ hlen rest rfl, List.append_assoc]
      · have hno : ¬ part <+: x :: (xs ++ ys) := fun h => hpre (hcut (x :: xs) h)
        rw [List.cons_append, replaceFrom_cons_of_not_isPrefix hno,
          replaceFrom_cons_of_not_isPrefix hpre, ih _ (by simp) xs rfl, List.cons_append]

/-- **A character outside the part cuts a replacement in two.** -/
theorem replaceFrom_append_cons (hpart : part ≠ []) {c : Char} (hc : c ∉ part) (ys : List Char)
    (xs : List Char) : replaceFrom part new 0 (xs ++ c :: ys)
      = replaceFrom part new 0 xs ++ c :: replaceFrom part new 0 ys := by
  have hcut : ∀ xs, part <+: xs ++ c :: ys → part <+: xs :=
    fun _ => prefix_of_prefix_append_cons hc
  rw [replaceFrom_append hpart hcut]
  have hno : ¬ part <+: c :: ys := fun h => hpart (List.prefix_nil.mp (hcut [] h))
  rw [replaceFrom_cons_of_not_isPrefix hno]

/-- **An end without the last character of the part is kept.** -/
theorem replaceFrom_append_of_notMem {last : Char} (hlast : part.getLast? = some last)
    {ys : List Char} (hys : last ∉ ys) (xs : List Char) :
    replaceFrom part new 0 (xs ++ ys) = replaceFrom part new 0 xs ++ ys := by
  have hpart : part ≠ [] := by rintro rfl; cases hlast
  have hcut : ∀ xs, part <+: xs ++ ys → part <+: xs := by
    intro xs h
    rcases Nat.le_total part.length xs.length with hle | hle
    · exact List.prefix_of_prefix_length_le h (List.prefix_append xs ys) hle
    · obtain ⟨rest, rfl⟩ := List.prefix_of_prefix_length_le (List.prefix_append xs ys) h hle
      have hsub : rest ⊆ ys := ((List.prefix_append_right_inj xs).mp h).subset
      cases rest with
      | nil => simp
      | cons r rest =>
        have hrest : (r :: rest).getLast? = some last := by
          rw [← hlast, List.getLast?_append, List.getLast?_cons, Option.some_or]
        exact absurd (hsub (List.mem_of_getLast? hrest)) hys
  rw [replaceFrom_append hpart hcut, replaceFrom_eq_self (List.mem_of_getLast? hlast) hys]

end SchemaModels.Text
