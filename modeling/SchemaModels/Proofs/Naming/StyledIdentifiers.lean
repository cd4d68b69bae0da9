import SchemaModels.Naming.Identifier
import SchemaModels.Proofs.Naming.StyledNames

/-!
# Identifiers in a style

A style makes an identifier of some names only (`NameStyle.isIdentifier_restyle_iff`). No style
leaves out a letter, so all letters of the name must have forms in ASCII; no style puts anything
before the first word, so that word must not begin with a digit; and a style with hyphens gives an
identifier only to a name of one word. Reserved words are identifiers, and so is what takes their
place (`isIdentifier_avoidReserved`).
-/

namespace SchemaModels.Naming

open Text

/-! ## Identifiers -/

theorem isAscii_of_continuesIdentifier {c : Char} (h : continuesIdentifier c = true) :
    isAscii c = true := by
  simp only [continuesIdentifier, Bool.or_eq_true, beq_iff_eq] at h
  rcases h with (h | rfl) | rfl
  · exact isAscii_of_isAlphanum h
  · decide
  · decide

/-- A statement about digits is one about some of the ASCII characters. -/
theorem forall_isDigit {p : Char → Prop}
    (h : ∀ n < 0x80, (Char.ofNat n).isDigit = true → p (Char.ofNat n)) {c : Char}
    (hc : c.isDigit = true) : p c := by
  have hascii : isAscii c = true := isAscii_of_isAlphanum (by simp [Char.isAlphanum, hc])
  exact forall_isAscii (p := fun c => c.isDigit = true → p c) h hascii hc

/-- Identifiers start with any of their characters but the digits. -/
theorem startsIdentifier_eq (c : Char) :
    startsIdentifier c = (continuesIdentifier c && !c.isDigit) := by
  cases hdigit : c.isDigit with
  | false => simp [startsIdentifier, continuesIdentifier, Char.isAlphanum, hdigit]
  | true =>
    have hstart : startsIdentifier c = false :=
      forall_isDigit (p := fun c => startsIdentifier c = false) (by decide) hdigit
    rw [hstart, Bool.not_true, Bool.and_false]

/-- There is a first character, and it is no digit. -/
def opensWell (cs : List Char) : Bool := cs.head?.any (!·.isDigit)

theorem isIdentifier_ofList_iff {cs : List Char} : isIdentifier (String.ofList cs) = true ↔
    opensWell cs = true ∧ Only continuesIdentifier cs := by
  unfold isIdentifier
  rw [String.toList_ofList]
  cases cs with
  | nil => simp [opensWell]
  | cons c cs =>
    simp only [startsIdentifier_eq, opensWell, List.head?_cons, Option.any_some, Only,
      List.forall_mem_cons, Bool.and_eq_true, List.all_eq_true]
    exact and_assoc.trans and_left_comm

/-! ## Characters of identifiers in lower and upper case -/

/-- The characters beyond ASCII with a lower-case form in ASCII: the Kelvin sign. -/
def asciiInLower : List Char := ['\u212a']

/-- The characters beyond ASCII with an upper-case form in ASCII: the sharp and the long s, the
dotless i, and the ligatures that begin with an f or an s. -/
def asciiInUpper : List Char := ['ß', 'ı', 'ſ', 'ﬀ', 'ﬁ', 'ﬂ', 'ﬃ', 'ﬄ', 'ﬅ', 'ﬆ']

/-- The lower-case form of the character can be part of an identifier. -/
def lowersToIdentifier (c : Char) : Bool := continuesIdentifier c || asciiInLower.contains c

/-- The upper-case form of the character can be part of an identifier. -/
def raisesToIdentifier (c : Char) : Bool := continuesIdentifier c || asciiInUpper.contains c

/-- A case map keeps the characters of identifiers apart from the others in ASCII. Beyond ASCII it
takes to them just the characters that its table takes there. -/
theorem only_form_iff {form : Char → List Char} {others : List Char}
    (hascii : ∀ n < 0x80, Only continuesIdentifier (form (Char.ofNat n)) ↔
      continuesIdentifier (Char.ofNat n) = true)
    (hbeyond : ∀ c, isAscii c = false → Only continuesIdentifier (form c) →
      others.contains c = true ∨ continuesIdentifier c = true)
    (hothers : Only (fun c => Only continuesIdentifier (form c)) others) {c : Char} :
    Only continuesIdentifier (form c) ↔ (continuesIdentifier c || others.contains c) = true := by
  rw [Bool.or_eq_true]
  have hplain : isAscii c = true →
      (Only continuesIdentifier (form c) ↔ continuesIdentifier c = true) :=
    forall_isAscii (p := fun c => Only continuesIdentifier (form c) ↔
      continuesIdentifier c = true) hascii
  -- characters of identifiers are in ASCII, so that beyond it only the listed ones can be meant
  constructor
  · intro h
    cases hc : isAscii c with
    | true => exact .inl ((hplain hc).mp h)
    | false => exact (hbeyond c hc h).symm
  · rintro (h | h)
    · exact (hplain (isAscii_of_continuesIdentifier h)).mpr h
    · exact of_decide_eq_true (hothers c (List.contains_iff_mem.mp h))

theorem only_toLower_iff {c : Char} :
    Only continuesIdentifier (toLower c) ↔ lowersToIdentifier c = true := by
  have htable : LeadsFrom continuesIdentifier (asciiInLower.contains ·) lowerExpansions
      lowerShifts := by
    decide +kernel
  refine only_form_iff (by decide) (fun c hc h => ?_) (by decide)
  rw [toLower, if_neg (Bool.eq_false_iff.mp hc)] at h
  exact htable.of_only_mapCase h

theorem only_toUpper_iff {c : Char} :
    Only continuesIdentifier (toUpper c) ↔ raisesToIdentifier c = true := by
  have htable : LeadsFrom continuesIdentifier (asciiInUpper.contains ·) upperExpansions
      upperShifts := by
    decide +kernel
  refine only_form_iff (by decide) (fun c hc h => ?_) (by decide)
  rw [toUpper, if_neg (Bool.eq_false_iff.mp hc)] at h
  exact htable.of_only_mapCase h

/-! ## Words of identifiers -/

theorem only_lowerWord_iff {w : List Char} :
    Only continuesIdentifier (lowerWord w) ↔ Only lowersToIdentifier w := by
  fun_induction lowerWord w with
  | case1 => exact iff_of_true only_nil only_nil
  -- a sigma at the end has no form in ASCII either
  | case2 => exact iff_of_false (by decide) (by decide)
  | case3 c cs _ ih => rw [only_append_iff, only_cons_iff, only_toLower_iff, ih]

theorem only_upperWord_iff {w : List Char} :
    Only continuesIdentifier (upperWord w) ↔ Only raisesToIdentifier w := by
  induction w with
  | nil => exact iff_of_true only_nil only_nil
  | cons c cs ih =>
    rw [upperWord, List.flatMap_cons, only_append_iff, only_cons_iff, only_toUpper_iff, ← ih,
      upperWord]

/-- The characters of the word can be part of an identifier when the word is capitalized. -/
def CapitalizesToIdentifier (w : List Char) : Prop :=
  Only raisesToIdentifier w.head?.toList ∧ Only lowersToIdentifier w.tail

instance (w : List Char) : Decidable (CapitalizesToIdentifier w) :=
  inferInstanceAs (Decidable (_ ∧ _))

theorem only_capitalWord_iff {w : List Char} :
    Only continuesIdentifier (capitalWord w) ↔ CapitalizesToIdentifier w := by
  cases w with
  | nil => exact iff_of_true only_nil ⟨only_nil, only_nil⟩
  | cons c cs =>
    have hsingle : Only raisesToIdentifier [c] ↔ raisesToIdentifier c = true := by simp [Only]
    rw [capitalWord, only_append_iff, only_toUpper_iff, only_lowerWord_iff, ← hsingle]
    rfl

theorem capitalWord_ne_nil {w : List Char} (h : w ≠ []) : capitalWord w ≠ [] := by
  cases w with
  | nil => exact absurd rfl h
  | cons c cs => simp [capitalWord, toUpper_ne_nil]

/-! ## First characters -/

theorem opensWell_append {cs : List Char} (h : cs ≠ []) (ds : List Char) :
    opensWell (cs ++ ds) = opensWell cs := by
  cases cs with
  | nil => exact absurd rfl h
  | cons c cs => rfl

/-- A case map that leaves digits alone and makes none of other characters gives forms that begin
with a digit just to the digits. -/
theorem opensWell_form {form : Char → List Char} (hne : ∀ c, form c ≠ [])
    (hletters : ∀ {c : Char}, (!c.isDigit) = true → Only (!·.isDigit) (form c))
    (hdigits : ∀ n < 0x80, (Char.ofNat n).isDigit = true →
      form (Char.ofNat n) = [Char.ofNat n]) (c : Char) (cs : List Char) :
    opensWell (form c ++ cs) = !c.isDigit := by
  rw [opensWell_append (hne c)]
  cases hc : c.isDigit with
  | true =>
    have hsame : form c = [c] := forall_isDigit (p := fun c => form c = [c]) hdigits hc
    simp [hsame, opensWell, hc]
  | false =>
    obtain ⟨d, ds, hform⟩ := List.exists_cons_of_ne_nil (hne c)
    have hd : (!d.isDigit) = true := hletters (by simp [hc]) d (hform ▸ List.mem_cons_self)
    simp [hform, opensWell, hd]

/-- No letter has a digit as its lower or upper case. -/
theorem caseStable_not_isDigit : CaseStable (!·.isDigit) := by
  refine .of_caseless fun c hc => ?_
  have hdigit : c.isDigit = true := by simpa using hc
  exact forall_isDigit (p := fun c => isCaseless c = true) (by decide) hdigit

theorem opensWell_toLower (c : Char) (cs : List Char) :
    opensWell (toLower c ++ cs) = !c.isDigit :=
  opensWell_form toLower_ne_nil caseStable_not_isDigit.lower (by decide) c cs

theorem opensWell_toUpper (c : Char) (cs : List Char) :
    opensWell (toUpper c ++ cs) = !c.isDigit :=
  opensWell_form toUpper_ne_nil caseStable_not_isDigit.upper (by decide) c cs

theorem opensWell_lowerWord (w : List Char) : opensWell (lowerWord w) = opensWell w := by
  fun_cases lowerWord w with
  | case1 => rfl
  | case2 => rfl
  | case3 c cs _ => exact opensWell_toLower c (lowerWord cs)

theorem opensWell_upperWord (w : List Char) : opensWell (upperWord w) = opensWell w := by
  cases w with
  | nil => rfl
  | cons c cs => exact opensWell_toUpper c (upperWord cs)

theorem opensWell_capitalWord (w : List Char) : opensWell (capitalWord w) = opensWell w := by
  cases w with
  | nil => rfl
  | cons c cs => exact opensWell_toUpper c (lowerWord cs)

/-! ## Written words -/

/-- A way to write words that leaves none of them out and changes no digit at the start. -/
structure KeepsOpening (f : List Char → List Char) : Prop where
  ne_nil : ∀ {w}, w ≠ [] → f w ≠ []
  opensWell : ∀ w, opensWell (f w) = opensWell w

theorem keepsOpening_lowerWord : KeepsOpening lowerWord := ⟨lowerWord_ne_nil, opensWell_lowerWord⟩

theorem keepsOpening_upperWord : KeepsOpening upperWord := ⟨upperWord_ne_nil, opensWell_upperWord⟩

theorem keepsOpening_capitalWord : KeepsOpening capitalWord :=
  ⟨capitalWord_ne_nil, opensWell_capitalWord⟩

section

variable {f : List Char → List Char} (hf : KeepsOpening f)

include hf

/-- The first word decides what the written words begin with. -/
theorem KeepsOpening.append {w : List Char} (hw : w ≠ []) (cs ds : List Char) :
    Naming.opensWell (f w ++ cs) = Naming.opensWell (w ++ ds) := by
  rw [opensWell_append (hf.ne_nil hw), opensWell_append hw, hf.opensWell]

theorem KeepsOpening.intercalate {sep : List Char} {ws : List (List Char)} (hws : ∀ w ∈ ws, w ≠ []) :
    Naming.opensWell (List.intercalate sep (ws.map f)) = Naming.opensWell ws.flatten := by
  match ws with
  | [] => rfl
  | [w] => simpa using hf.opensWell w
  | w :: v :: ws =>
    rw [List.map_cons, List.map_cons, List.intercalate_cons_cons, List.append_assoc,
      List.flatten_cons]
    exact hf.append (hws w List.mem_cons_self) _ _

/-- The words of a name, written and joined, are an identifier if they do not begin with a digit and
all that is written can be part of an identifier. -/
theorem KeepsOpening.isIdentifier_iff {q : List Char → Prop}
    (hq : ∀ {w}, Only continuesIdentifier (f w) ↔ q w) {sep : List Char} {name : String} :
    isIdentifier (String.ofList (List.intercalate sep ((words name).map f))) = true ↔
      Naming.opensWell (words name).flatten = true ∧ (∀ w ∈ words name, q w) ∧
        ((words name).length ≤ 1 ∨ Only continuesIdentifier sep) := by
  rw [isIdentifier_ofList_iff, hf.intercalate fun _ => ne_nil_of_mem_words, only_intercalate_iff,
    List.forall_mem_map, List.length_map]
  simp only [hq]

end

/-! ## Styles -/

namespace NameStyle

/-- The name is an identifier in the style: if it is kept, by itself, and otherwise by its words.
The first of them does not begin with a digit, and their characters have forms that identifiers can
have. -/
def MakesIdentifier (style : NameStyle) (name : String) : Prop :=
  let ws := words name
  match style with
  | asIs => isIdentifier name = true
  | camel => opensWell ws.flatten = true ∧ (∀ w ∈ ws.head?, Only lowersToIdentifier w) ∧
      ∀ w ∈ ws.tail, CapitalizesToIdentifier w
  | pascal => opensWell ws.flatten = true ∧ ∀ w ∈ ws, CapitalizesToIdentifier w
  | snake => opensWell ws.flatten = true ∧ ∀ w ∈ ws, Only lowersToIdentifier w
  | upperSnake => opensWell ws.flatten = true ∧ ∀ w ∈ ws, Only raisesToIdentifier w
  | kebab => opensWell ws.flatten = true ∧ (∀ w ∈ ws, Only lowersToIdentifier w) ∧ ws.length ≤ 1

instance (style : NameStyle) (name : String) : Decidable (style.MakesIdentifier name) :=
  match style with
  | asIs => inferInstanceAs (Decidable (_ = true))
  | camel | kebab => inferInstanceAs (Decidable (_ ∧ _ ∧ _))
  | pascal | snake | upperSnake => inferInstanceAs (Decidable (_ ∧ _))

theorem isIdentifier_camelCase_iff {name : String} : isIdentifier (camelCase name) = true ↔
    camel.MakesIdentifier name := by
  rw [camelCase_eq, isIdentifier_ofList_iff]
  unfold MakesIdentifier
  cases hwords : words name with
  | nil => exact iff_of_false (fun h => nomatch h.1) fun h => nomatch h.1
  | cons w ws =>
    have hw : w ≠ [] := ne_nil_of_mem_words (hwords ▸ List.mem_cons_self)
    have hrest : Only continuesIdentifier (ws.map capitalWord).flatten ↔
        ∀ v ∈ ws, CapitalizesToIdentifier v := by
      refine List.forall_mem_flatten.trans (List.forall_mem_map.trans ?_)
      exact forall₂_congr fun v _ => only_capitalWord_iff
    rw [camelWords, List.flatten_cons, keepsOpening_lowerWord.append hw _ ws.flatten,
      only_append_iff, only_lowerWord_iff, hrest]
    simp

theorem flatMap_eq_intercalate (f : List Char → List Char) (ws : List (List Char)) :
    ws.flatMap f = List.intercalate [] (ws.map f) := by
  match ws with
  | [] => rfl
  | [w] => simp
  | w :: v :: ws => simp [flatMap_eq_intercalate f (v :: ws)]

/-- **Which names become identifiers in a style.** -/
theorem isIdentifier_restyle_iff {style : NameStyle} {name : String} :
    isIdentifier (style.restyle name) = true ↔ style.MakesIdentifier name := by
  have hnone : Only continuesIdentifier [] := by decide
  have hunderscore : Only continuesIdentifier ['_'] := by decide
  have hhyphen : ¬ Only continuesIdentifier ['-'] := by decide
  rw [restyle_eq]
  cases style with
  | asIs => exact Iff.rfl
  | camel => exact isIdentifier_camelCase_iff
  | pascal =>
    dsimp only
    rw [pascalCase, flatMap_eq_intercalate,
      keepsOpening_capitalWord.isIdentifier_iff only_capitalWord_iff]
    simp [MakesIdentifier, hnone]
  | snake =>
    dsimp only
    rw [snakeCase, keepsOpening_lowerWord.isIdentifier_iff only_lowerWord_iff]
    simp [MakesIdentifier, hunderscore]
  | upperSnake =>
    dsimp only
    rw [upperSnakeCase, keepsOpening_upperWord.isIdentifier_iff only_upperWord_iff]
    simp [MakesIdentifier, hunderscore]
  | kebab =>
    dsimp only
    rw [kebabCase, keepsOpening_lowerWord.isIdentifier_iff only_lowerWord_iff]
    simp [MakesIdentifier, hhyphen]

/-- A digit in front is in the way of all styles, a separator in front of none but the first. -/
example : ¬ MakesIdentifier .pascal "9lives" ∧ ¬ MakesIdentifier .asIs "-lives" ∧
    MakesIdentifier .pascal "-lives" ∧ ¬ MakesIdentifier .kebab "nine_lives" ∧
    ¬ MakesIdentifier .camel "café" ∧ MakesIdentifier .upperSnake "groß" := by
  decide +kernel

end NameStyle

/-! ## Reserved words -/

/-- Reserved words are identifiers, with and without an underscore, and are reserved without it. -/
theorem escapes_reserved : ∀ word ∈ reservedWords ++ globalTypes,
    isIdentifier word = true ∧ isIdentifier (word ++ "_") = true ∧
      word ++ "_" ∉ reservedWords ++ globalTypes := by
  decide +kernel

theorem mem_of_isReserved {typed : Bool} {name : String} (h : isReserved typed name = true) :
    name ∈ reservedWords ++ globalTypes := by
  simp only [isReserved, Bool.or_eq_true, Bool.and_eq_true, List.contains_iff_mem] at h
  exact List.mem_append.mpr (h.imp id And.right)

/-- Keeping clear of reserved words neither makes nor spoils an identifier. -/
theorem isIdentifier_avoidReserved (typed : Bool) (name : String) :
    isIdentifier (avoidReserved typed name) = isIdentifier name := by
  unfold avoidReserved
  split
  · next h =>
    obtain ⟨hword, hescaped, -⟩ := escapes_reserved name (mem_of_isReserved h)
    rw [hword, hescaped]
  · rfl

/-- **What is kept clear of reserved words is not reserved.** -/
theorem isReserved_avoidReserved (typed : Bool) (name : String) :
    isReserved typed (avoidReserved typed name) = false := by
  unfold avoidReserved
  split
  · next h =>
    obtain ⟨-, -, hescaped⟩ := escapes_reserved name (mem_of_isReserved h)
    exact Bool.eq_false_iff.mpr (mt mem_of_isReserved hescaped)
  · next h => exact Bool.eq_false_iff.mpr h

end SchemaModels.Naming
