import SchemaModels.Proofs.Script.EscapedText

/-!
# Quotes in script text

A scanner that looks for quotes only: it tells whether a character stands outside of all literals,
inside one, or behind a backslash inside one. A text that it leaves outside closes every literal it
opens (`ClosesQuotes`).

A text that is escaped for double quotes is safe between quotes of either kind
(`closesQuotes_between`). In plain code it is not, since a backslash means nothing there. A double
quote of the text then opens a literal for good: whatever would close it is escaped. Only inside
the single quotes of the text itself a double quote is harmless. So an escaped text closes its
quotes in plain code exactly if the quotes of the text pair up (`closesQuotes_scriptEscaped_iff`).
-/

namespace SchemaModels.Script

open Text

/-- Where a scanner stands that looks for quotes only. -/
inductive QuoteScan where
  | outside
  | inside (quote : Quote)
  /-- In a literal, behind a backslash. -/
  | escape (quote : Quote)
  deriving DecidableEq

namespace QuoteScan

/-- The state after one character. -/
def step : QuoteScan → Char → QuoteScan
  | outside, c =>
    match Quote.ofChar? c with
    | some q => inside q
    | none => outside
  | inside q, c => if c = q.char then outside else if c = '\\' then escape q else inside q
  | escape q, _ => inside q

/-- The state after a list of characters. -/
def run (s : QuoteScan) (cs : List Char) : QuoteScan := cs.foldl step s

theorem run_cons (s : QuoteScan) (c : Char) (cs : List Char) :
    s.run (c :: cs) = (s.step c).run cs := rfl

theorem run_append (s : QuoteScan) (cs ds : List Char) : s.run (cs ++ ds) = (s.run cs).run ds :=
  List.foldl_append

/-- Characters that leave a state as it is do so one after the other. -/
theorem run_eq_self {s : QuoteScan} : ∀ {cs : List Char}, (∀ c ∈ cs, s.step c = s) →
    s.run cs = s := by
  intro cs
  induction cs with
  | nil => intro _; rfl
  | cons c cs ih =>
    intro h
    rw [run_cons, h c List.mem_cons_self]
    exact ih fun d hd => h d (List.mem_cons_of_mem c hd)

theorem step_inside {q : Quote} {c : Char} (hquote : c ≠ q.char) (hback : c ≠ '\\') :
    (inside q).step c = inside q := by
  rw [step, if_neg hquote, if_neg hback]

theorem step_inside_quote (q : Quote) : (inside q).step q.char = outside := if_pos rfl

theorem step_outside {c : Char} (hc : Quote.ofChar? c = none) : outside.step c = outside := by
  rw [step, hc]

/-- A character that is no quote does not lead out of a literal. -/
theorem step_eq_outside_iff {s : QuoteScan} {c : Char} (hc : Quote.ofChar? c = none) :
    s.step c = outside ↔ s = outside := by
  cases s with
  | outside => simp [step_outside hc]
  | escape q => simp [step]
  | inside q =>
    have hquote : c ≠ q.char := by
      rintro rfl
      cases q <;> cases hc
    rw [step, if_neg hquote]
    split <;> simp

/-- Characters that are no quotes do not lead out of a literal. -/
theorem run_eq_outside_iff : ∀ {cs : List Char}, (∀ c ∈ cs, Quote.ofChar? c = none) →
    ∀ (s : QuoteScan), s.run cs = outside ↔ s = outside := by
  intro cs
  induction cs with
  | nil => intro _ s; exact Iff.rfl
  | cons c cs ih =>
    intro h s
    rw [run_cons, ih fun d hd => h d (List.mem_cons_of_mem c hd),
      step_eq_outside_iff (h c List.mem_cons_self)]

/-! ## Escaped characters -/

theorem ne_of_isAlphanum {c d : Char} (hc : c.isAlphanum = true) (hd : d.isAlphanum = false) :
    c ≠ d := by
  rintro rfl
  rw [hc] at hd
  cases hd

theorem ofChar?_eq_none_iff {c : Char} : Quote.ofChar? c = none ↔ c ≠ '\'' ∧ c ≠ '"' := by
  unfold Quote.ofChar?
  split
  · next h => simp [h]
  · next h =>
    split
    · next h' => simp [h']
    · next h' => simp [h, h']

/-- Letters and digits lead nowhere. -/
theorem run_of_isAlphanum {s : QuoteScan} (hs : ∀ q, s ≠ escape q) {cs : List Char}
    (h : ∀ c ∈ cs, c.isAlphanum = true) : s.run cs = s := by
  refine run_eq_self fun c hc => ?_
  have hne : ∀ {d : Char}, d.isAlphanum = false → c ≠ d := ne_of_isAlphanum (h c hc)
  cases s with
  | outside => exact step_outside (ofChar?_eq_none_iff.mpr ⟨hne rfl, hne rfl⟩)
  | inside q => exact step_inside (hne (by cases q <;> rfl)) (hne rfl)
  | escape q => exact absurd rfl (hs q)

theorem ofChar?_eq_none_of_isControl {c : Char} (h : isControl c = true) :
    Quote.ofChar? c = none := by
  refine ofChar?_eq_none_iff.mpr ⟨?_, ?_⟩
  · rintro rfl
    exact absurd h (by decide)
  · rintro rfl
    exact absurd h (by decide)

/-- **In plain code an escape protects nothing.** -/
theorem run_outside_of_escapeForm {c : Char} {cs : List Char} (h : EscapeForm c cs) :
    outside.run cs = outside.step c := by
  have hback : outside.step '\\' = outside := by decide
  cases h with
  | kept => rfl
  | marked => rw [run_cons, hback]; rfl
  | coded h hcode =>
    rw [run_cons, hback, run_of_isAlphanum (by simp) hcode,
      step_outside (ofChar?_eq_none_of_isControl h)]

/-- Inside a literal an escaped character that is no single quote stays inside. -/
theorem run_inside_of_escapeForm (q : Quote) {c : Char} {cs : List Char} (h : EscapeForm c cs)
    (hc : c ≠ '\'') : (inside q).run cs = inside q := by
  have hback : (inside q).step '\\' = escape q := by cases q <;> rfl
  cases h with
  | kept hself _ =>
    simp only [List.contains_cons, List.contains_nil, Bool.or_false, Bool.or_eq_false_iff,
      beq_eq_false_iff_ne] at hself
    refine step_inside ?_ hself.2.1
    cases q with
    | single => exact hc
    | double => exact hself.1
  | marked => rw [run_cons, hback]; rfl
  | coded _ hcode =>
    obtain ⟨-, hrest⟩ := List.forall_mem_cons.mp hcode
    rw [run_cons, hback, run_cons]
    show (inside q).run _ = inside q
    exact run_of_isAlphanum (by simp) hrest

/-- The single quote, too, stays inside of double quotes. -/
theorem run_double_scriptChar (c : Char) :
    (inside .double).run (scriptChar c) = inside .double := by
  by_cases hc : c = '\''
  · rw [hc]; decide
  · exact run_inside_of_escapeForm .double (escapeForm_scriptChar c) hc

/-- What stands for a character in a literal stays inside the literal. -/
theorem run_inLiteral (q : Quote) (c : Char) : (inside q).run (inLiteral q c) = inside q := by
  by_cases hc : c = '\''
  · rw [hc]
    cases q <;> decide
  · have hsame : inLiteral q c = scriptChar c := by
      unfold inLiteral
      rcases scriptChar_cases c with ⟨hself, -, -⟩ | ⟨tail, htail, hescape⟩
      · rw [hself, List.flatMap_singleton, escapeAgain_of_ne q hc]
      · rw [htail, flatMap_escapeAgain_of_isEscapeOf q hescape]
    rw [hsame]
    exact run_inside_of_escapeForm q (escapeForm_scriptChar c) hc

/-- Pieces that leave a state as it is do so one after the other. -/
theorem run_flatMap {s : QuoteScan} {f : Char → List Char} (h : ∀ c, s.run (f c) = s) :
    ∀ (cs : List Char), s.run (cs.flatMap f) = s := by
  intro cs
  induction cs with
  | nil => rfl
  | cons c cs ih => rw [List.flatMap_cons, run_append, h c, ih]

end QuoteScan

open QuoteScan

/-! ## Texts that close their quotes -/

/-- Scanned from the outside, the text ends outside of all literals. -/
def ClosesQuotes (text : String) : Prop := outside.run text.toList = outside

instance (text : String) : Decidable (ClosesQuotes text) :=
  inferInstanceAs (Decidable (_ = _))

theorem ClosesQuotes.append {s t : String} (hs : ClosesQuotes s) (ht : ClosesQuotes t) :
    ClosesQuotes (s ++ t) := by
  rw [ClosesQuotes, String.toList_append, run_append, hs]
  exact ht

theorem closesQuotes_intercalate {sep : String} (hsep : ClosesQuotes sep) :
    ∀ {l : List String}, (∀ s ∈ l, ClosesQuotes s) → ClosesQuotes (String.intercalate sep l) := by
  intro l
  induction l with
  | nil => intro _; rfl
  | cons s l ih =>
    intro h
    cases l with
    | nil => rw [String.intercalate_singleton]; exact h s List.mem_cons_self
    | cons t l =>
      rw [String.intercalate_cons_cons]
      exact ((h s List.mem_cons_self).append hsep).append
        (ih fun u hu => h u (List.mem_cons_of_mem s hu))

/-- The text has no quotes. -/
def IsQuoteFree (text : String) : Prop :=
  text.toList.all (fun c => (Quote.ofChar? c).isNone) = true

instance (text : String) : Decidable (IsQuoteFree text) :=
  inferInstanceAs (Decidable (_ = true))

theorem IsQuoteFree.append {s t : String} (hs : IsQuoteFree s) (ht : IsQuoteFree t) :
    IsQuoteFree (s ++ t) := by
  rw [IsQuoteFree, String.toList_append, List.all_append, hs, ht]
  rfl

theorem IsQuoteFree.run_eq_outside_iff {text : String} (h : IsQuoteFree text) (s : QuoteScan) :
    s.run text.toList = outside ↔ s = outside :=
  QuoteScan.run_eq_outside_iff (fun c hc => Option.isNone_iff_eq_none.mp
    (List.all_eq_true.mp h c hc)) s

/-- Texts without quotes around a text. -/
theorem closesQuotes_wrapped_iff {front back s : String} (hfront : IsQuoteFree front)
    (hback : IsQuoteFree back) : ClosesQuotes (front ++ s ++ back) ↔ ClosesQuotes s := by
  have hopen : outside.run front.toList = outside := (hfront.run_eq_outside_iff _).mpr rfl
  rw [ClosesQuotes, String.toList_append, String.toList_append, run_append, run_append, hopen]
  exact hback.run_eq_outside_iff _

/-- **Between quotes an escaped text is safe.** -/
theorem closesQuotes_between (q : Quote) (s : String) :
    ClosesQuotes (q.mark ++ escapedIn q (scriptEscaped s) ++ q.mark) := by
  have hopen : outside.step q.char = inside q := by cases q <;> rfl
  have hchars : (q.mark ++ escapedIn q (scriptEscaped s) ++ q.mark).toList
      = q.char :: (s.toList.flatMap (inLiteral q) ++ [q.char]) := by
    simp only [Quote.mark, String.toList_append, String.toList_ofList, toList_escapedIn]
    rfl
  rw [ClosesQuotes, hchars, run_cons, hopen, run_append, run_flatMap (run_inLiteral q)]
  exact step_inside_quote q

/-! ## Escaped texts in plain code -/

/-- The single quotes in the text pair up, and every double quote stands between the two of a
pair. -/
def PairsQuotes (text : String) : Prop :=
  text.toList.count '\'' % 2 = 0 ∧
    ∀ i < text.toList.length, text.toList[i]? = some '"' →
      (text.toList.take i).count '\'' % 2 = 1

instance (text : String) : Decidable (PairsQuotes text) :=
  inferInstanceAs (Decidable (_ ∧ ∀ i < text.toList.length, _ → _))

/-- The state behind a number of single quotes. -/
def behind (n : Nat) : QuoteScan := if n % 2 = 0 then outside else inside .single

theorem behind_eq_outside_iff (n : Nat) : behind n = outside ↔ n % 2 = 0 := by
  unfold behind
  split <;> simp [*]

theorem run_behind_single (n : Nat) : (behind n).run (scriptChar '\'') = behind (n + 1) := by
  unfold behind
  by_cases h : n % 2 = 0
  · rw [if_pos h, if_neg (by omega)]
    rfl
  · rw [if_neg h, if_pos (by omega)]
    rfl

theorem run_behind_scriptChar (n : Nat) {c : Char} (hsingle : c ≠ '\'')
    (hdouble : c = '"' → n % 2 = 1) : (behind n).run (scriptChar c) = behind n := by
  unfold behind
  split
  · next h =>
    have hc : c ≠ '"' := fun hc => by have := hdouble hc; omega
    rw [run_outside_of_escapeForm (escapeForm_scriptChar c),
      step_outside (ofChar?_eq_none_iff.mpr ⟨hsingle, hc⟩)]
  · exact run_inside_of_escapeForm .single (escapeForm_scriptChar c) hsingle

/-- The escaped characters behind `n` single quotes end outside exactly if the quotes pair up. -/
theorem run_behind_flatMap_iff : ∀ (cs : List Char) (n : Nat),
    (behind n).run (cs.flatMap scriptChar) = outside ↔
      (n + cs.count '\'') % 2 = 0 ∧
        ∀ i < cs.length, cs[i]? = some '"' → (n + (cs.take i).count '\'') % 2 = 1 := by
  intro cs
  induction cs with
  | nil => intro n; simp [run, behind_eq_outside_iff]
  | cons c cs ih =>
    intro n
    rw [List.flatMap_cons, run_append, List.length_cons, Nat.forall_lt_succ_left]
    simp only [List.getElem?_cons_zero, List.getElem?_cons_succ, List.take_succ_cons,
      List.take_zero, List.count_nil, Nat.add_zero, Option.some.injEq]
    by_cases hsingle : c = '\''
    · subst hsingle
      have hcount : ∀ ds : List Char, n + ('\'' :: ds).count '\'' = n + 1 + ds.count '\'' := by
        intro ds
        rw [List.count_cons_self]
        omega
      rw [run_behind_single, ih]
      simp only [hcount]
      simp
    · have hcount : ∀ ds : List Char, (c :: ds).count '\'' = ds.count '\'' :=
        fun ds => List.count_cons_of_ne hsingle
      simp only [hcount]
      by_cases hstray : c = '"' ∧ n % 2 = 0
      · -- the literal that is opened here stays open
        obtain ⟨rfl, hn⟩ := hstray
        have hopen : (behind n).run (scriptChar '"') = inside .double := by
          rw [behind, if_pos hn]
          rfl
        rw [hopen, run_flatMap run_double_scriptChar]
        simp [hn]
      · have hdouble : c = '"' → n % 2 = 1 := by
          intro hc
          have := not_and.mp hstray hc
          omega
        rw [run_behind_scriptChar n hsingle hdouble, ih, and_iff_right hdouble]

/-- **In plain code an escaped text closes its quotes exactly if those of the text pair up.** -/
theorem closesQuotes_scriptEscaped_iff (s : String) :
    ClosesQuotes (scriptEscaped s) ↔ PairsQuotes s := by
  have hrun := run_behind_flatMap_iff s.toList 0
  simp only [Nat.zero_add] at hrun
  rw [ClosesQuotes, scriptEscaped, String.toList_ofList]
  exact hrun

end SchemaModels.Script
