import SchemaModels.Json.Reader
import SchemaModels.Proofs.Script.Scan

/-!
# Reading literals

The text that a literal between quotes stands for, as script code reads it: its characters in order,
with each escape replaced by what it means. A text is a list of code units of 16 bits there. A line
end inside the literal, a broken escape, a second closing quote, or none at all, and there is no
text; nor is there one for an escape by octal digits, which strict code refuses.

Names are put into literals in four ways: between single or double quotes, and either as they are or
with a backslash before each quote (`Quoting`). `Quoting.readsAs_write_iff` says for which names
that works. The direction from the text back to the name is a count. Every escape has more
characters than it has code units, apart from that of the quote itself, so a literal of the length
that `Quoting.write` gives it has no other (`bodyUnits?_cases`).
-/

namespace SchemaModels.Script

open Text

/-! ## The text of a literal -/

/-- The character of a quote. -/
def Quote.char : Quote → Char
  | single => '\''
  | double => '"'

/-- The quote as a text of its own. -/
def Quote.mark (q : Quote) : String := String.ofList [q.char]

/-- The code units of a code point: one, or a pair of surrogates. -/
def codeUnits (n : Nat) : List Nat :=
  if n < 0x10000 then [n] else [0xD800 + (n - 0x10000) / 0x400, 0xDC00 + (n - 0x10000) % 0x400]

/-- The code units of a list of characters. -/
def units (cs : List Char) : List Nat :=
  cs.flatMap fun c => codeUnits c.toNat

/-- What stands behind a backslash: the code units it means, and how many characters it has. -/
structure Escape where
  units : List Nat
  taken : Nat
  deriving DecidableEq

/-- The code point with the given hexadecimal digits. -/
def codePoint? (ds : List Char) : Option Nat := do
  let n ← ds.foldlM (fun n d => do return n * 16 + (← Json.hexValue? d)) 0
  if ds.isEmpty || 0x10FFFF < n then none else some n

/-- The escape behind a `u`: four digits, or a code point in braces. -/
def unicodeEscape? : List Char → Option Escape
  | '\x7b' :: cs =>
    match cs.dropWhile (· != '\x7d') with
    | '\x7d' :: _ =>
      let ds := cs.takeWhile (· != '\x7d')
      (codePoint? ds).map fun n => ⟨codeUnits n, ds.length + 3⟩
    | _ => none
  | a :: b :: c :: d :: _ => (Json.hexUnit? a b c d).map fun n => ⟨[n], 5⟩
  | _ => none

/-- The escape behind an `x`: two digits. -/
def byteEscape? : List Char → Option Escape
  | a :: b :: _ => (Json.hexUnit? '0' '0' a b).map fun n => ⟨[n], 3⟩
  | _ => none

/-- The code unit that a letter behind a backslash means, if it means another than itself. -/
def letterEscapes : List (Char × Nat) :=
  [('b', 0x08), ('t', 0x09), ('n', 0x0A), ('v', 0x0B), ('f', 0x0C), ('r', 0x0D)]

/-- A character that ends a line; behind a backslash it continues the literal. -/
def isLineEnd (c : Char) : Bool :=
  ['\n', '\r', '\u2028', '\u2029'].contains c

/-- The escape behind a backslash. -/
def escape? : List Char → Option Escape
  | [] => none
  | c :: cs =>
    if c = 'u' then unicodeEscape? cs
    else if c = 'x' then byteEscape? cs
    else if isLineEnd c then some ⟨[], if c = '\r' && cs.head? == some '\n' then 2 else 1⟩
    else if c.isDigit then
      if c = '0' && !cs.head?.any Char.isDigit then some ⟨[0], 1⟩ else none
    else
      match letterEscapes.find? (·.1 == c) with
      | some e => some ⟨[e.2], 1⟩
      | none => some ⟨codeUnits c.toNat, 1⟩

/-- The code units of a literal behind its opening quote. The first `skip` characters belong to an
escape already read. -/
def bodyUnits? (q : Quote) : (skip : Nat) → List Char → Option (List Nat)
  | _, [] => none
  | skip + 1, _ :: cs => bodyUnits? q skip cs
  | 0, c :: cs =>
    if c = q.char then if cs.isEmpty then some [] else none
    else if c = '\\' then
      match escape? cs with
      | some e => (bodyUnits? q e.taken cs).map (e.units ++ ·)
      | none => none
    else if c = '\n' || c = '\r' then none
    else (bodyUnits? q 0 cs).map (codeUnits c.toNat ++ ·)

/-- The code units of a text that is one literal, closed by the quote that opens it. -/
def literalUnits? (literal : String) : Option (List Nat) :=
  match literal.toList with
  | [] => none
  | c :: cs => (Quote.ofChar? c).bind fun q => bodyUnits? q 0 cs

/-- The literal is one closed literal that stands for the text. -/
def ReadsAs (literal text : String) : Prop :=
  literalUnits? literal = some (units text.toList)

instance (literal text : String) : Decidable (ReadsAs literal text) :=
  inferInstanceAs (Decidable (literalUnits? literal = some (units text.toList)))

theorem bodyUnits?_eq_drop (q : Quote) : ∀ (cs : List Char) (skip : Nat),
    bodyUnits? q skip cs = bodyUnits? q 0 (cs.drop skip) := by
  intro cs
  induction cs with
  | nil => intro skip; cases skip <;> rfl
  | cons c cs ih =>
    intro skip
    cases skip with
    | zero => rfl
    | succ skip => exact ih skip

/-! ## Characters and code units -/

theorem units_cons (c : Char) (cs : List Char) : units (c :: cs) = codeUnits c.toNat ++ units cs :=
  List.flatMap_cons

theorem units_append (cs ds : List Char) : units (cs ++ ds) = units cs ++ units ds :=
  List.flatMap_append

theorem units_singleton (c : Char) : units [c] = codeUnits c.toNat :=
  List.flatMap_singleton _ c

theorem codeUnits_quote (q : Quote) : codeUnits q.char.toNat = [q.char.toNat] := by
  cases q <;> rfl

/-- Every character has a code unit. -/
theorem one_le_length_codeUnits (n : Nat) : 1 ≤ (codeUnits n).length := by
  unfold codeUnits
  split <;> simp

theorem length_codeUnits_le (n : Nat) : (codeUnits n).length ≤ 2 := by
  unfold codeUnits
  split <;> simp

theorem length_le_length_units : ∀ (cs : List Char), cs.length ≤ (units cs).length := by
  intro cs
  induction cs with
  | nil => exact Nat.le_refl 0
  | cons c cs ih =>
    have hone := one_le_length_codeUnits c.toNat
    rw [units_cons, List.length_append, List.length_cons]
    omega

/-- No other character has the code unit of a quote. -/
theorem count_codeUnits_of_ne {q : Quote} {c : Char} (h : c ≠ q.char) :
    (codeUnits c.toNat).count q.char.toNat = 0 := by
  have hlt : q.char.toNat < 0xD800 := by cases q <;> decide
  have hne : c.toNat ≠ q.char.toNat := fun heq => h (Char.toNat_inj.mp heq)
  refine List.count_eq_zero.mpr ?_
  unfold codeUnits
  split
  · simpa using hne.symm
  · simp only [List.mem_cons, List.not_mem_nil, or_false, not_or]
    omega

/-- The code units of a text have as many quotes as the text. -/
theorem count_units (q : Quote) : ∀ (cs : List Char),
    (units cs).count q.char.toNat = cs.count q.char := by
  intro cs
  induction cs with
  | nil => rfl
  | cons c cs ih =>
    rw [units_cons, List.count_append, ih, List.count_cons]
    by_cases h : c = q.char
    · rw [h, codeUnits_quote, List.count_singleton_self, if_pos (beq_self_eq_true _), Nat.add_comm]
    · rw [count_codeUnits_of_ne h, if_neg (by simpa using h), Nat.zero_add, Nat.add_zero]

/-! ## Escapes -/

theorem hexValue?_quote (q : Quote) : Json.hexValue? q.char = none := by
  cases q <;> rfl

theorem quote_not_mem_of_hexUnit? (q : Quote) {a b c d : Char} {n : Nat}
    (h : Json.hexUnit? a b c d = some n) : q.char ∉ [a, b, c, d] := by
  intro hmem
  simp only [List.mem_cons, List.not_mem_nil, or_false] at hmem
  rcases hmem with rfl | rfl | rfl | rfl <;> simp [Json.hexUnit?, hexValue?_quote] at h

theorem quote_not_mem_of_codePoint? (q : Quote) {ds : List Char} {n : Nat}
    (h : codePoint? ds = some n) : q.char ∉ ds := by
  -- the fold fails at the first character that is no digit, whatever it has read so far
  have hdigits : ∀ (ds : List Char) (m : Nat), q.char ∈ ds →
      ds.foldlM (fun n d => do return n * 16 + (← Json.hexValue? d)) m = none := by
    intro ds
    induction ds with
    | nil => intro m hmem; cases hmem
    | cons d ds ih =>
      intro m hmem
      rw [List.foldlM_cons]
      rcases List.mem_cons.mp hmem with rfl | hmem
      · simp [hexValue?_quote]
      · cases Json.hexValue? d with
        | none => rfl
        | some v => exact ih _ hmem
  intro hmem
  rw [codePoint?, hdigits ds 0 hmem] at h
  cases h

/-- An escape with no quote in it, and with no more code units than it is written with. -/
def Escape.IsNarrow (q : Quote) (cs : List Char) (e : Escape) : Prop :=
  q.char ∉ cs.take e.taken ∧ e.units.length ≤ (Script.units (cs.take e.taken)).length

theorem Escape.isNarrow_of_length_le {q : Quote} {cs : List Char} {e : Escape}
    (hquote : q.char ∉ cs.take e.taken) (hlength : e.units.length ≤ (cs.take e.taken).length) :
    e.IsNarrow q cs :=
  ⟨hquote, Nat.le_trans hlength (length_le_length_units _)⟩

theorem isNarrow_of_unicodeEscape? (q : Quote) {cs : List Char} {e : Escape}
    (h : unicodeEscape? cs = some e) : e.IsNarrow q ('u' :: cs) := by
  have hu : q.char ≠ 'u' := by cases q <;> decide
  unfold unicodeEscape? at h
  split at h
  · next rest =>
    split at h
    · next tail htail =>
      obtain ⟨n, hn, rfl⟩ := Option.map_eq_some_iff.mp h
      obtain ⟨ds, hds⟩ : ∃ ds, rest.takeWhile (· != '\x7d') = ds := ⟨_, rfl⟩
      have hrest : rest = ds ++ '\x7d' :: tail := by
        rw [← htail, ← hds, List.takeWhile_append_dropWhile]
      rw [hds] at hn ⊢
      have htake : ('u' :: '\x7b' :: rest).take (ds.length + 3)
          = 'u' :: '\x7b' :: (ds ++ ['\x7d']) := by
        simp [hrest, List.take_append, List.take_of_length_le]
      have hopen : q.char ≠ '\x7b' := by cases q <;> decide
      have hclose : q.char ≠ '\x7d' := by cases q <;> decide
      refine Escape.isNarrow_of_length_le ?_ ?_
      · rw [htake]
        simpa [hu, hopen, hclose] using quote_not_mem_of_codePoint? q hn
      · rw [htake]
        have hunits := length_codeUnits_le n
        simp only [List.length_cons, List.length_append, List.length_nil]
        omega
    · cases h
  · next a b c d rest _ =>
    obtain ⟨n, hn, rfl⟩ := Option.map_eq_some_iff.mp h
    exact Escape.isNarrow_of_length_le
      (fun hmem => (List.mem_cons.mp hmem).elim hu (quote_not_mem_of_hexUnit? q hn)) (by simp)
  · cases h

theorem isNarrow_of_byteEscape? (q : Quote) {cs : List Char} {e : Escape}
    (h : byteEscape? cs = some e) : e.IsNarrow q ('x' :: cs) := by
  have hx : q.char ≠ 'x' := by cases q <;> decide
  unfold byteEscape? at h
  split at h
  · next a b rest =>
    obtain ⟨n, hn, rfl⟩ := Option.map_eq_some_iff.mp h
    have hdigits := quote_not_mem_of_hexUnit? q hn
    refine Escape.isNarrow_of_length_le (fun hmem => ?_) (by simp)
    rcases List.mem_cons.mp hmem with hmem | hmem
    · exact hx hmem
    · exact hdigits (List.mem_cons_of_mem _ (List.mem_cons_of_mem _ hmem))
  · cases h

/-- An escape is the quote behind the backslash, or else a narrow one. -/
theorem escape?_cases (q : Quote) {cs : List Char} {e : Escape} (h : escape? cs = some e) :
    (∃ rest, cs = q.char :: rest ∧ e = ⟨[q.char.toNat], 1⟩) ∨ e.IsNarrow q cs := by
  unfold escape? at h
  split at h
  · cases h
  next c cs =>
  by_cases hc : c = q.char
  · refine .inl ⟨cs, by rw [hc], ?_⟩
    subst hc
    cases q <;> exact (Option.some.inj h).symm
  refine .inr ?_
  have hone : ∀ {us : List Nat}, us.length ≤ 1 → Escape.IsNarrow q (c :: cs) ⟨us, 1⟩ :=
    fun hus => Escape.isNarrow_of_length_le (by simpa using Ne.symm hc) (by simpa using hus)
  split at h
  · next hu => exact hu ▸ isNarrow_of_unicodeEscape? q h
  split at h
  · next hx => exact hx ▸ isNarrow_of_byteEscape? q h
  split at h
  · cases h
    split
    · next hend =>
      cases cs with
      | nil => simp at hend
      | cons d cs =>
        have hd : d = '\n' := by simpa using (Bool.and_eq_true_iff.mp hend).2
        have hq : q.char ≠ '\n' := by cases q <;> decide
        exact Escape.isNarrow_of_length_le (by simpa [hd, hq] using Ne.symm hc) (by simp)
    · exact hone (by simp)
  split at h
  · split at h
    · cases h
      exact hone (by simp)
    · cases h
  split at h
  · cases h
    exact hone (by simp)
  · cases h
    refine ⟨by simpa using Ne.symm hc, ?_⟩
    exact Nat.le_of_eq (congrArg List.length (units_singleton c).symm)

/-! ## Reading back -/

/-- A character with a backslash before it if it is the quote. -/
def escapeQuote (q : Quote) (c : Char) : List Char :=
  if c = q.char then ['\\', c] else [c]

/-- A character that neither opens an escape nor ends a line. -/
def IsPlain (c : Char) : Prop := c ≠ '\\' ∧ c ≠ '\n' ∧ c ≠ '\r'

instance (c : Char) : Decidable (IsPlain c) :=
  inferInstanceAs (Decidable (c ≠ '\\' ∧ c ≠ '\n' ∧ c ≠ '\r'))

theorem quote_ne_backslash (q : Quote) : '\\' ≠ q.char := by
  cases q <;> decide

theorem escapeQuote_quote (q : Quote) : escapeQuote q q.char = ['\\', q.char] := if_pos rfl

theorem escapeQuote_of_ne {q : Quote} {c : Char} (h : c ≠ q.char) : escapeQuote q c = [c] :=
  if_neg h

/-- Escaping the quotes adds a backslash for each of them. -/
theorem count_flatMap_escapeQuote (q : Quote) (d : Char) : ∀ (cs : List Char),
    (cs.flatMap (escapeQuote q)).count d
      = cs.count d + if d = '\\' then cs.count q.char else 0 := by
  intro cs
  induction cs with
  | nil => simp
  | cons c cs ih =>
    rw [List.flatMap_cons, List.count_append, ih]
    by_cases hc : c = q.char
    · rw [hc, escapeQuote_quote]
      by_cases hd : d = '\\'
      · simp only [hd, if_pos, List.count_cons, List.count_nil, beq_self_eq_true]
        omega
      · have hd' : ('\\' == d) = false := by simpa using Ne.symm hd
        simp only [if_neg hd, List.count_cons, List.count_nil, hd', Bool.false_eq_true, if_false]
        omega
    · have hc' : (c == q.char) = false := by simpa using hc
      rw [escapeQuote_of_ne hc]
      simp only [List.count_cons, List.count_nil, hc', Bool.false_eq_true, if_false, Nat.add_zero]
      omega

theorem length_units_flatMap_escapeQuote (q : Quote) : ∀ (cs : List Char),
    (units (cs.flatMap (escapeQuote q))).length = (units cs).length + cs.count q.char := by
  intro cs
  induction cs with
  | nil => rfl
  | cons c cs ih =>
    rw [List.flatMap_cons, units_append, List.length_append, ih, units_cons, List.length_append,
      List.count_cons]
    by_cases hc : c = q.char
    · have hslash : codeUnits '\\'.toNat = ['\\'.toNat] := rfl
      rw [hc, escapeQuote_quote, units_cons, units_singleton, codeUnits_quote, hslash,
        if_pos (beq_self_eq_true _)]
      simp only [List.length_append, List.length_singleton]
      omega
    · rw [escapeQuote_of_ne hc, units_singleton, if_neg (by simpa using hc)]
      omega

/-- A text with its quotes escaped is read back. -/
theorem bodyUnits?_append (q : Quote) {cs : List Char} (hcs : ∀ c ∈ cs, IsPlain c) :
    bodyUnits? q 0 (cs.flatMap (escapeQuote q) ++ [q.char]) = some (units cs) := by
  induction cs with
  | nil => simp [bodyUnits?, units]
  | cons c cs ih =>
    obtain ⟨⟨hback, hfeed, hreturn⟩, hcs⟩ := List.forall_mem_cons.mp hcs
    rw [List.flatMap_cons, List.append_assoc, units_cons]
    by_cases hc : c = q.char
    · have hescape : ∀ rest, escape? (q.char :: rest) = some ⟨[q.char.toNat], 1⟩ := by
        intro rest; cases q <;> rfl
      rw [hc, escapeQuote_quote, codeUnits_quote, List.cons_append, bodyUnits?,
        if_neg (quote_ne_backslash q), if_pos rfl, List.singleton_append, hescape]
      simp [bodyUnits?, ih hcs]
    · rw [escapeQuote_of_ne hc, List.singleton_append, bodyUnits?, if_neg hc, if_neg hback]
      simp [hfeed, hreturn, ih hcs]

/-- The literal is a text with a backslash before each quote, and nothing else escaped. -/
def IsEscaped (q : Quote) (cs : List Char) (us : List Nat) : Prop :=
  ∃ t, (∀ c ∈ t, IsPlain c) ∧ us = units t ∧ cs = t.flatMap (escapeQuote q) ++ [q.char]

/-- The literal is longer than it would be if only the quotes in its text were escaped. It would
then have a backslash and a quote for each of those, and the quote that closes it. -/
def IsLong (q : Quote) (cs : List Char) (us : List Nat) : Prop :=
  us.length + 2 * cs.count q.char < (units cs).length + us.count q.char.toNat + 1

theorem IsEscaped.length_le {q : Quote} {cs : List Char} {us : List Nat} (h : IsEscaped q cs us) :
    us.length + 2 * cs.count q.char ≤ (units cs).length + us.count q.char.toNat + 1 := by
  obtain ⟨t, -, rfl, rfl⟩ := h
  rw [units_append, List.length_append, length_units_flatMap_escapeQuote, List.count_append,
    count_flatMap_escapeQuote, if_neg (quote_ne_backslash q).symm, count_units, units_singleton,
    codeUnits_quote, List.length_singleton, List.count_singleton_self]
  omega

theorem isEscaped_nil (q : Quote) : IsEscaped q [q.char] [] :=
  ⟨[], by simp, rfl, rfl⟩

/-- An escaped quote in front. -/
theorem isEscaped_or_isLong_quote {q : Quote} {cs : List Char} {us : List Nat}
    (h : IsEscaped q cs us ∨ IsLong q cs us) :
    IsEscaped q ('\\' :: q.char :: cs) (q.char.toNat :: us)
      ∨ IsLong q ('\\' :: q.char :: cs) (q.char.toNat :: us) := by
  rcases h with ⟨t, ht, rfl, rfl⟩ | h
  · refine .inl ⟨q.char :: t, List.forall_mem_cons.mpr ⟨?_, ht⟩, ?_, ?_⟩
    · cases q <;> decide
    · rw [units_cons, codeUnits_quote, List.singleton_append]
    · rw [List.flatMap_cons, escapeQuote_quote]
      rfl
  · refine .inr ?_
    have hslash : codeUnits '\\'.toNat = ['\\'.toNat] := rfl
    have hbeq : ('\\' == q.char) = false := by cases q <;> rfl
    unfold IsLong at h ⊢
    simp only [units_cons, codeUnits_quote, hslash, hbeq, List.count_cons, List.length_append,
      List.length_cons, List.length_nil, beq_self_eq_true, if_true, Bool.false_eq_true, if_false]
    omega

/-- A narrow escape in front makes the literal long. -/
theorem isLong_of_isNarrow {q : Quote} {cs : List Char} {us : List Nat} {e : Escape}
    (he : e.IsNarrow q cs) (h : IsEscaped q (cs.drop e.taken) us ∨ IsLong q (cs.drop e.taken) us) :
    IsLong q ('\\' :: cs) (e.units ++ us) := by
  have hlength : us.length + 2 * (cs.drop e.taken).count q.char
      ≤ (units (cs.drop e.taken)).length + us.count q.char.toNat + 1 :=
    h.elim IsEscaped.length_le Nat.le_of_lt
  -- the backslash is the character too many: what the escape takes is at least as long as its units
  have htake : (cs.take e.taken).count q.char = 0 := List.count_eq_zero.mpr he.1
  have hunits := he.2
  have hslash : codeUnits '\\'.toNat = ['\\'.toNat] := rfl
  unfold IsLong
  rw [← List.take_append_drop e.taken cs, List.count_cons_of_ne (quote_ne_backslash q),
    List.count_append, htake, units_cons, units_append, hslash, List.count_append]
  simp only [List.length_append, List.length_singleton]
  omega

/-- A plain character in front. -/
theorem isEscaped_or_isLong_cons {q : Quote} {c : Char} {cs : List Char} {us : List Nat}
    (hquote : c ≠ q.char) (hc : IsPlain c) (h : IsEscaped q cs us ∨ IsLong q cs us) :
    IsEscaped q (c :: cs) (codeUnits c.toNat ++ us)
      ∨ IsLong q (c :: cs) (codeUnits c.toNat ++ us) := by
  rcases h with ⟨t, ht, rfl, rfl⟩ | h
  · refine .inl ⟨c :: t, List.forall_mem_cons.mpr ⟨hc, ht⟩, (units_cons c t).symm, ?_⟩
    rw [List.flatMap_cons, escapeQuote_of_ne hquote]
    rfl
  · refine .inr ?_
    unfold IsLong at h ⊢
    rw [units_cons, List.length_append, List.length_append, List.count_append,
      List.count_cons_of_ne hquote]
    omega

/-- **A literal is a text with its quotes escaped, or else it is too long for what it means.** -/
theorem bodyUnits?_cases (q : Quote) {cs : List Char} {us : List Nat}
    (h : bodyUnits? q 0 cs = some us) : IsEscaped q cs us ∨ IsLong q cs us := by
  -- an escape jumps over several characters, so the induction is on the length
  induction hn : cs.length using Nat.strongRecOn generalizing cs us with
  | ind n ih =>
    subst hn
    cases cs with
    | nil => cases h
    | cons c cs =>
      rw [bodyUnits?] at h
      split at h
      · next hc =>
        split at h
        · next hempty =>
          cases h
          rw [List.isEmpty_iff.mp hempty, hc]
          exact .inl (isEscaped_nil q)
        · cases h
      next hc =>
      split at h
      · next hback =>
        split at h
        · next e he =>
          obtain ⟨vs, hvs, rfl⟩ := Option.map_eq_some_iff.mp h
          rw [bodyUnits?_eq_drop] at hvs
          have htail := ih _ (by rw [List.length_drop, List.length_cons]; omega) hvs rfl
          rw [hback]
          rcases escape?_cases q he with ⟨rest, rfl, rfl⟩ | hnarrow
          · exact isEscaped_or_isLong_quote htail
          · exact .inr (isLong_of_isNarrow hnarrow htail)
        · cases h
      next hback =>
      split at h
      · cases h
      next hend =>
      obtain ⟨vs, hvs, rfl⟩ := Option.map_eq_some_iff.mp h
      have hplain : IsPlain c := by simpa [IsPlain, hback] using hend
      exact isEscaped_or_isLong_cons hc hplain (ih _ (by simp) hvs rfl)

/-! ## Ways to quote -/

/-- A way to put a text between quotes: which quotes, and whether those in the text are escaped. -/
structure Quoting where
  quote : Quote
  escapes : Bool
  deriving DecidableEq

namespace Quoting

/-- What stands between the quotes. -/
def content (k : Quoting) (text : String) : String :=
  if k.escapes then backslashBefore k.quote.char text else text

/-- The text between quotes. -/
def write (k : Quoting) (text : String) : String :=
  k.quote.mark ++ k.content text ++ k.quote.mark

/-- Whether a text can be read back: it has no backslash and no line end, nor a quote if that is not
escaped. -/
def Keeps (k : Quoting) (text : String) : Prop :=
  ∀ c ∈ text.toList, IsPlain c ∧ (k.escapes = false → c ≠ k.quote.char)

instance (k : Quoting) (text : String) : Decidable (k.Keeps text) :=
  inferInstanceAs
    (Decidable (∀ c ∈ text.toList, IsPlain c ∧ (k.escapes = false → c ≠ k.quote.char)))

/-- The characters between the quotes. -/
def body (k : Quoting) (cs : List Char) : List Char :=
  if k.escapes then cs.flatMap (escapeQuote k.quote) else cs

theorem toList_write (k : Quoting) (text : String) :
    (k.write text).toList = k.quote.char :: (k.body text.toList ++ [k.quote.char]) := by
  unfold write content body Quote.mark
  split
  · simp only [backslashBefore, String.toList_append, String.toList_ofList]
    rfl
  · simp

theorem readsAs_write_iff_body (k : Quoting) (text : String) : ReadsAs (k.write text) text
    ↔ bodyUnits? k.quote 0 (k.body text.toList ++ [k.quote.char]) = some (units text.toList) := by
  have hquote : Quote.ofChar? k.quote.char = some k.quote := by cases k.quote <;> rfl
  rw [ReadsAs, literalUnits?, toList_write]
  simp only [hquote, Option.bind_some]

/-- Between the quotes there is a backslash more for each quote that is escaped. -/
theorem length_units_body (k : Quoting) (cs : List Char) : (units (k.body cs)).length
    = (units cs).length + if k.escapes then cs.count k.quote.char else 0 := by
  unfold body
  split
  · exact length_units_flatMap_escapeQuote k.quote cs
  · rfl

theorem count_quote_body (k : Quoting) (cs : List Char) :
    (k.body cs).count k.quote.char = cs.count k.quote.char := by
  unfold body
  split
  · rw [count_flatMap_escapeQuote, if_neg (quote_ne_backslash k.quote).symm, Nat.add_zero]
  · rfl

/-- What is written is not too long. -/
theorem not_isLong_body (k : Quoting) (cs : List Char) :
    ¬ IsLong k.quote (k.body cs ++ [k.quote.char]) (units cs) := by
  intro hlong
  have hcount : (if k.escapes then cs.count k.quote.char else 0) ≤ cs.count k.quote.char := by
    split <;> simp
  unfold IsLong at hlong
  rw [units_append, List.length_append, length_units_body, List.count_append, count_quote_body,
    count_units, units_singleton, codeUnits_quote, List.length_singleton,
    List.count_singleton_self] at hlong
  omega

theorem body_eq_flatMap {k : Quoting} {cs : List Char}
    (h : ∀ c ∈ cs, k.escapes = false → c ≠ k.quote.char) :
    k.body cs = cs.flatMap (escapeQuote k.quote) := by
  unfold body
  split
  · rfl
  · next hescapes =>
    have hkept : ∀ c ∈ cs, escapeQuote k.quote c = [c] :=
      fun c hc => escapeQuote_of_ne (h c hc (Bool.not_eq_true _ ▸ hescapes))
    exact (flatMap_eq_self hkept).symm

theorem keeps_of_isEscaped {k : Quoting} {text : String}
    (h : IsEscaped k.quote (k.body text.toList ++ [k.quote.char]) (units text.toList)) :
    k.Keeps text := by
  obtain ⟨t, ht, hunits, hbody⟩ := h
  have hbody : k.body text.toList = t.flatMap (escapeQuote k.quote) :=
    List.append_cancel_right hbody
  have hquotes : text.toList.count k.quote.char = t.count k.quote.char := by
    rw [← count_units, hunits, count_units]
  -- without escapes the literal has no character more than its text, so there is no quote to escape
  have hnone : k.escapes = false → t.count k.quote.char = 0 := by
    intro hescapes
    have hlength := congrArg (fun cs => (units cs).length) hbody
    simp only [length_units_body, length_units_flatMap_escapeQuote, hunits, hescapes,
      Bool.false_eq_true, if_false] at hlength
    omega
  -- the two texts have the same characters, as often
  have hcount : ∀ d, text.toList.count d = t.count d := by
    intro d
    have hd := congrArg (List.count d) hbody
    rw [count_flatMap_escapeQuote] at hd
    cases hescapes : k.escapes with
    | true =>
      rw [body, if_pos hescapes, count_flatMap_escapeQuote, hquotes] at hd
      exact Nat.add_right_cancel hd
    | false =>
      rw [body, if_neg (by simp [hescapes]), hnone hescapes, ite_self, Nat.add_zero] at hd
      exact hd
  intro c hc
  have hpos : 0 < t.count c := hcount c ▸ List.count_pos_iff.mpr hc
  refine ⟨ht c (List.count_pos_iff.mp hpos), fun hescapes hquote => ?_⟩
  rw [hquote, hnone hescapes] at hpos
  exact absurd hpos (Nat.lt_irrefl 0)

/-- **A text can be read back exactly if the way it is quoted keeps it.** -/
theorem readsAs_write_iff (k : Quoting) (text : String) :
    ReadsAs (k.write text) text ↔ k.Keeps text := by
  rw [readsAs_write_iff_body]
  constructor
  · intro h
    rcases bodyUnits?_cases k.quote h with hescaped | hlong
    · exact keeps_of_isEscaped hescaped
    · exact absurd hlong (k.not_isLong_body text.toList)
  · intro h
    rw [body_eq_flatMap fun c hc => (h c hc).2]
    exact bodyUnits?_append k.quote fun c hc => (h c hc).1

example : (ReadsAs "\"12\\\" plate\"" "12\" plate" ∧ ReadsAs "'\\u0061\\x62\\u\x7b63\x7d'" "abc") ∧
    ¬ ReadsAs "\"sweet\\sour\"" "sweet\\sour" := by
  decide

end Quoting

end SchemaModels.Script
