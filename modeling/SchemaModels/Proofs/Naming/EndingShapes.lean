import Mathlib.Data.List.Forall2
import Mathlib.Data.List.Sections
import SchemaModels.Proofs.Naming.DerivedNames

/-!
# Endings in small letters

Patterns have no repetition, so a pattern has finitely many shapes: the letters that may stand at
each place, and where the groups are (`Pattern.shapes`). For words in small letters the shapes say
all that there is to say about the pattern. Whatever it reads has one of the shapes
(`Pattern.exists_describes`), and it reads every text that has a shape without an edge in it
(`Pattern.exists_read`).

So a question about the endings of words in small letters is one about finitely many shapes. What
two shapes have to do with each other is seen from the end of the word: two endings of one word meet
(`meets_of_endsIn`), and an ending may lie within another (`EndsIn.mono`).
-/

namespace SchemaModels.Naming

open Text

/-- The small letters of ASCII. -/
def smallLetters : List Char := "abcdefghijklmnopqrstuvwxyz".toList

/-- A word of small letters. -/
def IsSmall (s : String) : Prop := Only Char.isLower s.toList

instance (s : String) : Decidable (IsSmall s) :=
  decidable_of_iff (s.toList.all Char.isLower = true) List.all_eq_true

theorem isAlphanum_of_isLower {c : Char} (h : c.isLower = true) : c.isAlphanum = true :=
  Bool.or_eq_true_iff.mpr (.inl (Bool.or_eq_true_iff.mpr (.inr h)))

theorem isAscii_of_isLower {c : Char} (h : c.isLower = true) : isAscii c = true :=
  isAscii_of_isAlphanum (isAlphanum_of_isLower h)

theorem mem_smallLetters {c : Char} (h : c.isLower = true) : c ∈ smallLetters :=
  forall_isAscii (p := fun c => c.isLower = true → c ∈ smallLetters) (by decide)
    (isAscii_of_isLower h) h

/-- The small letters that pass the test. -/
def CharTest.letters : CharTest → List Char
  | .among letters => letters.filter Char.isLower
  | .besides letters => smallLetters.filter (!letters.contains ·)
  | .nonAscii | .nonWord => []

theorem isWordChar_of_isLower {c : Char} (h : c.isLower = true) : isWordChar c = true :=
  isWordChar_of_isAlphanum (isAlphanum_of_isLower h)

theorem foldCase_of_isLower {c : Char} (h : c.isLower = true) : foldCase c = c :=
  forall_isAscii (p := fun c => c.isLower = true → foldCase c = c) (by decide)
    (isAscii_of_isLower h) h

theorem isLower_of_mem_smallLetters : ∀ c ∈ smallLetters, c.isLower = true :=
  List.all_eq_true.mp (by decide)

theorem CharTest.mem_letters_iff {test : CharTest} {c : Char} :
    c ∈ test.letters ↔ c.isLower = true ∧ test.passes c = true := by
  cases test with
  | among letters =>
    rw [CharTest.letters, List.mem_filter, and_comm]
    refine and_congr_right fun h => ?_
    rw [passes, foldCase_of_isLower h, List.contains_iff_mem]
  | besides letters =>
    rw [CharTest.letters, List.mem_filter]
    constructor
    · rintro ⟨hmem, hother⟩
      have hlower := isLower_of_mem_smallLetters c hmem
      exact ⟨hlower, by rwa [passes, foldCase_of_isLower hlower]⟩
    · rintro ⟨hlower, hpasses⟩
      rw [passes, foldCase_of_isLower hlower] at hpasses
      exact ⟨mem_smallLetters hlower, hpasses⟩
  | nonAscii =>
    refine iff_of_false List.not_mem_nil fun h => ?_
    have hpasses := h.2
    rw [passes, foldCase_of_isLower h.1, isAscii_of_isLower h.1] at hpasses
    cases hpasses
  | nonWord =>
    refine iff_of_false List.not_mem_nil fun h => ?_
    have hpasses := h.2
    rw [passes, isWordChar_of_isLower h.1] at hpasses
    cases hpasses

/-! ## Shapes -/

/-- One way to read a pattern in small letters. -/
structure Shape where
  /-- The letters that may stand at each place. -/
  places : List (List Char)
  /-- Where each group begins, and how long it is. -/
  groups : List (Nat × Nat)
  /-- Whether there has to be an edge in front. -/
  atEdge : Bool
  /-- Whether no edge is asked for anywhere. -/
  isFree : Bool

/-- The one shape with the other behind it. -/
def Shape.followedBy (s t : Shape) : Shape where
  places := s.places ++ t.places
  groups := s.groups ++ t.groups.map fun g => (s.places.length + g.1, g.2)
  atEdge := s.atEdge || (s.places.isEmpty && t.atEdge)
  isFree := s.isFree && t.isFree

/-- The shapes of a pattern, in the order of its readings. -/
def Pattern.shapes : Pattern → List Shape
  | .empty => [⟨[], [], false, true⟩]
  | .char test => [⟨[test.letters], [], false, true⟩]
  | .seq p q => p.shapes.flatMap fun s => q.shapes.map s.followedBy
  | .alt p q => p.shapes ++ q.shapes
  | .group p => p.shapes.map fun s => { s with groups := (0, s.places.length) :: s.groups }
  | .wordEdge => [⟨[], [], true, false⟩]
  | .start => [⟨[], [], true, false⟩]

namespace Pattern

/-- The characters stand behind the start of the text or behind the edge of a word. -/
def AtEdge (before : Option Char) (cs : List Char) : Prop :=
  before = none ∨ isEdge before cs.head? = true

/-- What was read in front of the characters has the shape. -/
structure Describes (s : Shape) (before : Option Char) (cs : List Char) (r : Reading) : Prop where
  fits : List.Forall₂ (· ∈ ·) r.taken s.places
  groups : r.groups = s.groups.map fun g => (r.taken.drop g.1).take g.2
  edge : s.atEdge = true → AtEdge before cs

/-- The groups of a shape lie within it. -/
theorem le_of_mem_groups : ∀ {p : Pattern} {s : Shape}, s ∈ p.shapes →
    ∀ g ∈ s.groups, g.1 + g.2 ≤ s.places.length := by
  intro p
  induction p with
  | empty | char | wordEdge | start =>
    intro s hs
    obtain rfl := List.mem_singleton.mp hs
    simp
  | alt p q ihp ihq =>
    intro s hs
    exact (List.mem_append.mp hs).elim ihp ihq
  | group p ih =>
    intro s hs g hg
    obtain ⟨t, ht, rfl⟩ := List.mem_map.mp hs
    rcases List.mem_cons.mp hg with rfl | hg
    · simp
    · exact ih ht g hg
  | seq p q ihp ihq =>
    intro s hs g hg
    obtain ⟨t, ht, hs⟩ := List.mem_flatMap.mp hs
    obtain ⟨u, hu, rfl⟩ := List.mem_map.mp hs
    simp only [Shape.followedBy, List.length_append] at hg ⊢
    rcases List.mem_append.mp hg with hg | hg
    · have := ihp ht g hg
      omega
    · obtain ⟨k, hk, rfl⟩ := List.mem_map.mp hg
      have := ihq hu k hk
      dsimp only
      omega

/-- **Whatever a pattern reads in small letters has one of its shapes.** -/
theorem exists_describes : ∀ {p : Pattern} {before : Option Char} {cs : List Char} {r : Reading},
    Only Char.isLower cs → r ∈ p.read before cs → ∃ s ∈ p.shapes, Describes s before cs r := by
  intro p
  induction p with
  | empty =>
    intro before cs r _ hr
    obtain rfl := List.mem_singleton.mp hr
    exact ⟨_, List.mem_singleton_self _, .nil, rfl, Bool.noConfusion⟩
  | char test =>
    intro before cs r hcs hr
    cases cs with
    | nil => cases hr
    | cons c cs =>
      simp only [read] at hr
      split at hr
      · next hpasses =>
        obtain rfl := List.mem_singleton.mp hr
        have hletter := CharTest.mem_letters_iff.mpr ⟨hcs c List.mem_cons_self, hpasses⟩
        exact ⟨_, List.mem_singleton_self _, .cons hletter .nil, rfl, Bool.noConfusion⟩
      · cases hr
  | wordEdge =>
    intro before cs r _ hr
    simp only [read] at hr
    split at hr
    · next hedge =>
      obtain rfl := List.mem_singleton.mp hr
      exact ⟨_, List.mem_singleton_self _, .nil, rfl, fun _ => .inr hedge⟩
    · cases hr
  | start =>
    intro before cs r _ hr
    simp only [read] at hr
    split at hr
    · next hstart =>
      obtain rfl := List.mem_singleton.mp hr
      exact ⟨_, List.mem_singleton_self _, .nil, rfl,
        fun _ => .inl (Option.isNone_iff_eq_none.mp hstart)⟩
    · cases hr
  | alt p q ihp ihq =>
    intro before cs r hcs hr
    rcases List.mem_append.mp hr with hr | hr
    · obtain ⟨s, hs, h⟩ := ihp hcs hr
      exact ⟨s, List.mem_append_left _ hs, h⟩
    · obtain ⟨s, hs, h⟩ := ihq hcs hr
      exact ⟨s, List.mem_append_right _ hs, h⟩
  | group p ih =>
    intro before cs r hcs hr
    obtain ⟨q, hq, rfl⟩ := List.mem_map.mp hr
    obtain ⟨s, hs, h⟩ := ih hcs hq
    refine ⟨_, List.mem_map_of_mem hs, h.fits, ?_, h.edge⟩
    rw [List.map_cons, ← h.groups, List.drop_zero, ← h.fits.length_eq, List.take_length]
  | seq p q ihp ihq =>
    -- the second reading goes on where the first has stopped, so its groups are that much later
    intro before cs r hcs hr
    simp only [read, List.mem_flatMap, List.mem_map] at hr
    obtain ⟨x, hx, y, hy, rfl⟩ := hr
    have hrest : Only Char.isLower x.rest :=
      hcs.of_subset ((append_of_mem_read p hx).1 ▸ List.subset_append_right _ _)
    obtain ⟨s, hs, hdx⟩ := ihp hcs hx
    obtain ⟨t, ht, hdy⟩ := ihq hrest hy
    have hlength : x.taken.length = s.places.length := hdx.fits.length_eq
    refine ⟨s.followedBy t, List.mem_flatMap.mpr ⟨s, hs, List.mem_map_of_mem ht⟩,
      List.rel_append hdx.fits hdy.fits, ?_, fun hedge => ?_⟩
    · simp only [Shape.followedBy, List.map_append, List.map_map]
      rw [hdx.groups, hdy.groups]
      congr 1
      · refine List.map_congr_left fun g hg => ?_
        have hle := le_of_mem_groups hs g hg
        rw [List.drop_append_of_le_length (by omega),
          List.take_append_of_le_length (by rw [List.length_drop]; omega)]
      · refine List.map_congr_left fun g _ => ?_
        simp [← hlength]
    · simp only [Shape.followedBy, Bool.or_eq_true, Bool.and_eq_true, List.isEmpty_iff] at hedge
      rcases hedge with hedge | ⟨hempty, hedge⟩
      · exact hdx.edge hedge
      · have hnone : x.taken = [] := List.length_eq_zero_iff.mp (by rw [hlength, hempty]; rfl)
        have hcs : cs = x.rest := by rw [← (append_of_mem_read p hx).1, hnone, List.nil_append]
        have hbefore := hdy.edge hedge
        rwa [hnone, ← hcs] at hbefore

/-- **A pattern reads every text that has a shape without an edge.** -/
theorem exists_read : ∀ {p : Pattern} {s : Shape} {cs : List Char}, s ∈ p.shapes →
    s.isFree = true → List.Forall₂ (· ∈ ·) cs s.places →
    ∀ (before : Option Char) (rest : List Char),
      ∃ r ∈ p.read before (cs ++ rest), r.taken = cs ∧ r.rest = rest := by
  intro p
  induction p with
  | empty =>
    intro s cs hs _ hfits before rest
    obtain rfl := List.mem_singleton.mp hs
    cases hfits
    exact ⟨_, List.mem_singleton_self _, rfl, rfl⟩
  | char test =>
    intro s cs hs _ hfits before rest
    obtain rfl := List.mem_singleton.mp hs
    obtain ⟨c, ds, hc, hnil, rfl⟩ := List.forall₂_cons_right_iff.mp hfits
    cases hnil
    refine ⟨⟨[c], [], rest⟩, ?_, rfl, rfl⟩
    rw [List.singleton_append, read, if_pos (CharTest.mem_letters_iff.mp hc).2]
    exact List.mem_singleton_self _
  | wordEdge | start =>
    intro s cs hs hfree
    obtain rfl := List.mem_singleton.mp hs
    cases hfree
  | alt p q ihp ihq =>
    intro s cs hs hfree hfits before rest
    rcases List.mem_append.mp hs with hs | hs
    · obtain ⟨r, hr, h⟩ := ihp hs hfree hfits before rest
      exact ⟨r, List.mem_append_left _ hr, h⟩
    · obtain ⟨r, hr, h⟩ := ihq hs hfree hfits before rest
      exact ⟨r, List.mem_append_right _ hr, h⟩
  | group p ih =>
    intro s cs hs hfree hfits before rest
    obtain ⟨t, ht, rfl⟩ := List.mem_map.mp hs
    obtain ⟨r, hr, h⟩ := ih ht hfree hfits before rest
    exact ⟨_, List.mem_map_of_mem hr, h⟩
  | seq p q ihp ihq =>
    intro s cs hs hfree hfits before rest
    obtain ⟨t, ht, hs⟩ := List.mem_flatMap.mp hs
    obtain ⟨u, hu, rfl⟩ := List.mem_map.mp hs
    obtain ⟨htfree, hufree⟩ := Bool.and_eq_true_iff.mp hfree
    have hfront := List.forall₂_take_append _ _ _ hfits
    have hback := List.forall₂_drop_append _ _ _ hfits
    obtain ⟨x, hx, hxtaken, hxrest⟩ :=
      ihp ht htfree hfront before (cs.drop t.places.length ++ rest)
    rw [← List.append_assoc, List.take_append_drop] at hx
    obtain ⟨y, hy, hytaken, hyrest⟩ :=
      ihq hu hufree hback (x.taken.getLast? <|> before) rest
    rw [← hxrest] at hy
    refine ⟨⟨x.taken ++ y.taken, x.groups ++ y.groups, y.rest⟩, ?_, ?_, hyrest⟩
    · simp only [read, List.mem_flatMap, List.mem_map]
      exact ⟨x, hx, y, hy, rfl⟩
    · rw [hxtaken, hytaken, List.take_append_drop]

/-! ## Readings up to the end -/

theorem getLast?_cons_orElse (c : Char) (cs : List Char) (before : Option Char) :
    ((c :: cs).getLast? <|> before) = (cs.getLast? <|> some c) := by
  cases cs <;> simp [List.getLast?_cons]

/-- What is found at the end of a text is the rest of the text behind what was skipped. -/
theorem of_findAtEnd_eq_some {p : Pattern} : ∀ {cs : List Char} {before : Option Char}
    {front : List Char} {r : Reading}, p.findAtEnd before cs = some (front, r) →
      cs = front ++ r.taken ∧ r ∈ p.read (front.getLast? <|> before) r.taken := by
  have hfound : ∀ {cs : List Char} {before : Option Char} {r : Reading},
      (p.read before cs).find? (·.rest.isEmpty) = some r → r ∈ p.read before cs ∧ cs = r.taken := by
    intro cs before r h
    have hmem := List.mem_of_find?_eq_some h
    have hempty : r.rest.isEmpty = true :=
      List.find?_some (p := fun x : Reading => x.rest.isEmpty) h
    have happend := (append_of_mem_read p hmem).1
    rw [List.isEmpty_iff.mp hempty, List.append_nil] at happend
    exact ⟨hmem, happend.symm⟩
  intro cs
  induction cs with
  | nil =>
    intro before front r h
    rw [findAtEnd] at h
    split at h
    · next x hx =>
      cases h
      obtain ⟨hmem, hcs⟩ := hfound hx
      exact ⟨hcs, by rwa [← hcs]⟩
    · cases h
  | cons c cs ih =>
    intro before front r h
    rw [findAtEnd] at h
    split at h
    · next x hx =>
      cases h
      obtain ⟨hmem, hcs⟩ := hfound hx
      exact ⟨hcs, by rwa [← hcs]⟩
    · obtain ⟨⟨skipped, x⟩, hx, heq⟩ := Option.map_eq_some_iff.mp h
      cases heq
      obtain ⟨hcs, hmem⟩ := ih hx
      exact ⟨congrArg (c :: ·) hcs, getLast?_cons_orElse c skipped before ▸ hmem⟩

/-- A pattern that reads the end of a text is found there, or further in front. -/
theorem isSome_findAtEnd {p : Pattern} {back : List Char} {r : Reading} :
    ∀ {front : List Char} {before : Option Char},
      r ∈ p.read (front.getLast? <|> before) back → r.rest = [] →
        (p.findAtEnd before (front ++ back)).isSome = true := by
  have hfind : ∀ before : Option Char, r ∈ p.read before back → r.rest = [] →
      ((p.read before back).find? (·.rest.isEmpty)).isSome = true := by
    intro before hr hrest
    exact List.find?_isSome.mpr ⟨r, hr, List.isEmpty_iff.mpr hrest⟩
  intro front
  induction front with
  | nil =>
    intro before hr hrest
    have hsome := hfind before hr hrest
    rw [List.nil_append]
    unfold findAtEnd
    split
    · rfl
    · next hnone => rw [hnone] at hsome; cases hsome
  | cons c front ih =>
    intro before hr hrest
    rw [List.cons_append, findAtEnd]
    split
    · rfl
    · rw [Option.isSome_map]
      exact ih (getLast?_cons_orElse c front before ▸ hr) hrest

end Pattern

/-! ## Endings of words -/

/-- The word begins with letters from the places. -/
def BeginsIn : List (List Char) → List Char → Prop
  | [], _ => True
  | _ :: _, [] => False
  | letters :: places, c :: cs => c ∈ letters ∧ BeginsIn places cs

/-- The word ends with letters from the places. -/
def EndsIn (places : List (List Char)) (word : List Char) : Prop :=
  BeginsIn places.reverse word.reverse

/-- Some text can begin with letters from either places. -/
def meets : List (List Char) → List (List Char) → Bool
  | as :: places, bs :: others => as.any bs.contains && meets places others
  | _, _ => true

/-- A text with letters from the first places has letters from the second ones. -/
def liesWithin : List (List Char) → List (List Char) → Bool
  | _, [] => true
  | [], _ :: _ => false
  | as :: places, bs :: others => as.all bs.contains && liesWithin places others

theorem beginsIn_append {places : List (List Char)} {cs : List Char} (rest : List Char)
    (h : List.Forall₂ (· ∈ ·) cs places) : BeginsIn places (cs ++ rest) := by
  induction h with
  | nil => trivial
  | cons hc _ ih => exact ⟨hc, ih⟩

theorem BeginsIn.exists_append : ∀ {places : List (List Char)} {word : List Char},
    BeginsIn places word → ∃ cs rest, word = cs ++ rest ∧ List.Forall₂ (· ∈ ·) cs places := by
  intro places
  induction places with
  | nil => intro word _; exact ⟨[], word, rfl, .nil⟩
  | cons letters places ih =>
    intro word h
    cases word with
    | nil => cases h
    | cons c word =>
      obtain ⟨cs, rest, rfl, hfits⟩ := ih h.2
      exact ⟨c :: cs, rest, rfl, .cons h.1 hfits⟩

theorem BeginsIn.meets : ∀ {places others : List (List Char)} {word : List Char},
    BeginsIn places word → BeginsIn others word → meets places others = true := by
  intro places
  induction places with
  | nil => intro others _ _ _; cases others <;> rfl
  | cons as places ih =>
    intro others word h h'
    cases others with
    | nil => rfl
    | cons bs others =>
      cases word with
      | nil => cases h
      | cons c word =>
        have hboth : as.any bs.contains = true :=
          List.any_eq_true.mpr ⟨c, h.1, List.contains_iff_mem.mpr h'.1⟩
        exact Bool.and_eq_true_iff.mpr ⟨hboth, ih h.2 h'.2⟩

theorem BeginsIn.mono : ∀ {places others : List (List Char)} {word : List Char},
    BeginsIn places word → liesWithin places others = true → BeginsIn others word := by
  intro places
  induction places with
  | nil =>
    intro others word _ hwithin
    cases others with
    | nil => trivial
    | cons => cases hwithin
  | cons as places ih =>
    intro others word h hwithin
    cases others with
    | nil => trivial
    | cons bs others =>
      cases word with
      | nil => cases h
      | cons c word =>
        obtain ⟨hall, hrest⟩ := Bool.and_eq_true_iff.mp hwithin
        exact ⟨List.contains_iff_mem.mp (List.all_eq_true.mp hall c h.1), ih h.2 hrest⟩

theorem endsIn_append {places : List (List Char)} {back : List Char} (front : List Char)
    (h : List.Forall₂ (· ∈ ·) back places) : EndsIn places (front ++ back) := by
  rw [EndsIn, List.reverse_append]
  exact beginsIn_append _ (List.forall₂_reverse_iff.mpr h)

theorem EndsIn.exists_append {places : List (List Char)} {word : List Char}
    (h : EndsIn places word) :
    ∃ front back, word = front ++ back ∧ List.Forall₂ (· ∈ ·) back places := by
  obtain ⟨cs, rest, hword, hfits⟩ := BeginsIn.exists_append h
  refine ⟨rest.reverse, cs.reverse, ?_, ?_⟩
  · rw [← List.reverse_append, ← hword, List.reverse_reverse]
  · rwa [← List.forall₂_reverse_iff, List.reverse_reverse]

/-- Two endings of one word meet. -/
theorem meets_of_endsIn {places others : List (List Char)} {word : List Char}
    (h : EndsIn places word) (h' : EndsIn others word) :
    meets places.reverse others.reverse = true :=
  BeginsIn.meets h h'

/-- A word has the endings within which its ending lies. -/
theorem EndsIn.mono {places others : List (List Char)} {word : List Char} (h : EndsIn places word)
    (hwithin : liesWithin places.reverse others.reverse = true) : EndsIn others word :=
  BeginsIn.mono h hwithin

/-! ## Patterns at the end of a word -/

namespace Pattern

/-- The pattern reads the end of the word. -/
def Ends (p : Pattern) (word : String) : Prop := (p.findAtEnd none word.toList).isSome = true

instance (p : Pattern) (word : String) : Decidable (p.Ends word) :=
  inferInstanceAs (Decidable (_ = true))

/-- The pattern reads whatever ends with letters from the places. -/
def readsEnd (p : Pattern) (places : List (List Char)) : Bool :=
  p.shapes.any fun s => s.isFree && liesWithin places.reverse s.places.reverse

theorem ends_of_readsEnd {p : Pattern} {places : List (List Char)} {word : String}
    (h : p.readsEnd places = true) (hword : EndsIn places word.toList) : p.Ends word := by
  obtain ⟨s, hs, hboth⟩ := List.any_eq_true.mp h
  obtain ⟨hfree, hwithin⟩ := Bool.and_eq_true_iff.mp hboth
  obtain ⟨front, back, hcs, hfits⟩ := (hword.mono hwithin).exists_append
  obtain ⟨r, hr, -, hrest⟩ := exists_read hs hfree hfits (front.getLast? <|> none) []
  rw [List.append_nil] at hr
  rw [Ends, hcs]
  exact isSome_findAtEnd hr hrest

/-- In small letters there is no edge within a word. -/
theorem eq_nil_of_atEdge {front back : List Char} (hfront : Only Char.isLower front)
    (hback : Only Char.isLower back) (h : AtEdge (front.getLast? <|> none) back) :
    front = [] ∨ back = [] := by
  cases hlast : front.getLast? with
  | none => exact .inl (List.getLast?_eq_none_iff.mp hlast)
  | some a =>
    cases back with
    | nil => exact .inr rfl
    | cons b back =>
      rw [hlast] at h
      rcases h with h | h
      · cases h
      · have ha := isWordChar_of_isLower (hfront a (List.mem_of_getLast? hlast))
        have hb := isWordChar_of_isLower (hback b List.mem_cons_self)
        simp [isEdge, ha, hb] at h

/-- What a pattern finds at the end of a word in small letters has one of its shapes, and it is the
whole word if the shape asks for an edge in front. -/
theorem exists_shape_of_findAtEnd {p : Pattern} {word : String} (hword : IsSmall word)
    {front : List Char} {r : Reading} (h : p.findAtEnd none word.toList = some (front, r)) :
    ∃ s ∈ p.shapes, word.toList = front ++ r.taken ∧ Only Char.isLower front ∧
      Only Char.isLower r.taken ∧ (∃ before, Describes s before r.taken r) ∧
      (s.atEdge = true → front = [] ∨ r.taken = []) := by
  obtain ⟨hcs, hr⟩ := of_findAtEnd_eq_some h
  have hfront : Only Char.isLower front :=
    hword.of_subset (hcs ▸ List.subset_append_left _ _)
  have htaken : Only Char.isLower r.taken :=
    hword.of_subset (hcs ▸ List.subset_append_right _ _)
  obtain ⟨s, hs, hd⟩ := exists_describes htaken hr
  exact ⟨s, hs, hcs, hfront, htaken, ⟨_, hd⟩,
    fun hedge => eq_nil_of_atEdge hfront htaken (hd.edge hedge)⟩

end Pattern
end SchemaModels.Naming
