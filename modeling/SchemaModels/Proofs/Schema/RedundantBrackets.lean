import Mathlib.Data.List.Infix
import SchemaModels.Proofs.Schema.CurrentTime

/-!
# Redundant brackets

Brackets around a whole default say nothing, and they are removed before it is read. The first
character and the last one are removed as long as they are an opening and a closing bracket, without
a look at the brackets between them. What is right is a matter of pairs, though: only two brackets
that are a pair, with all the rest of the text between them, are redundant (`IsUnwrapped`).

In a text with operands at its ends, `(a) + (b)`, the first bracket and the last one are no pair,
and without them the brackets of the rest no longer pair up. That is the one case in which too much
is removed (`isUnwrapped_stripBrackets_iff`). One round is decided by where the first bracket is
closed. If the last one closes it, what is between them pairs up again; if not, the text falls apart
into two parts with brackets at the ends (`PairsBrackets.inner_or_endsApart`). The rounds after that
cannot mend the pairs (`PairsBrackets.of_stripBracketsUpTo`).
-/

namespace SchemaModels.DefaultValue

open Text

/-! ## Pairs of brackets -/

/-- The brackets of a text pair up: up to each place no more are closed than are opened, and in the
whole text as many. -/
structure PairsBrackets (cs : List Char) : Prop where
  fronts : ∀ front, front <+: cs → front.count ')' ≤ front.count '('
  whole : cs.count ')' = cs.count '('

instance (cs : List Char) : Decidable (PairsBrackets cs) :=
  decidable_of_iff ((∀ front ∈ cs.inits, front.count ')' ≤ front.count '(') ∧
      cs.count ')' = cs.count '(')
    ⟨fun h => ⟨fun front hfront => h.1 front ((List.mem_inits front cs).mpr hfront), h.2⟩,
      fun h => ⟨fun front hfront => h.fronts front ((List.mem_inits front cs).mp hfront), h.whole⟩⟩

theorem count_open_wrapped (mid : List Char) :
    ('(' :: (mid ++ [')'])).count '(' = mid.count '(' + 1 := by
  rw [List.count_cons_self, List.count_append]
  rfl

theorem count_close_wrapped (mid : List Char) :
    ('(' :: (mid ++ [')'])).count ')' = mid.count ')' + 1 := by
  rw [List.count_cons_of_ne (by decide), List.count_append]
  rfl

/-- A pair of brackets may be put around a text. -/
theorem PairsBrackets.wrap {mid : List Char} (h : PairsBrackets mid) :
    PairsBrackets ('(' :: (mid ++ [')'])) where
  fronts := by
    intro front hfront
    rcases List.prefix_cons_iff.mp hfront with rfl | ⟨inner, rfl, hinner⟩
    · exact Nat.le_refl 0
    rcases List.prefix_concat_iff.mp hinner with rfl | hinner
    · rw [count_open_wrapped, count_close_wrapped]
      exact Nat.succ_le_succ (Nat.le_of_eq h.whole)
    · have hle := h.fronts inner hinner
      rw [List.count_cons_self, List.count_cons_of_ne (by decide)]
      omega
  whole := by rw [count_open_wrapped, count_close_wrapped, h.whole]

/-- At a place where all brackets are closed a text falls into two whose brackets pair up. -/
theorem PairsBrackets.parts {front back : List Char} (h : PairsBrackets (front ++ back))
    (hfront : front.count ')' = front.count '(') : PairsBrackets front ∧ PairsBrackets back := by
  refine ⟨⟨fun part hpart => ?_, hfront⟩, ⟨fun part hpart => ?_, ?_⟩⟩
  · exact h.fronts part (hpart.trans (List.prefix_append front back))
  · have hle := h.fronts (front ++ part) ((List.prefix_append_right_inj front).mpr hpart)
    rw [List.count_append, List.count_append] at hle
    omega
  · have hwhole := h.whole
    rw [List.count_append, List.count_append] at hwhole
    omega

/-- Where the brackets do not pair up, but their numbers agree, one is closed too early. -/
theorem exists_front_of_not_pairsBrackets {cs : List Char} (h : ¬ PairsBrackets cs)
    (hwhole : cs.count ')' = cs.count '(') :
    ∃ front back, cs = front ++ back ∧ front.count '(' < front.count ')' := by
  by_contra hno
  refine h ⟨fun front hfront => ?_, hwhole⟩
  obtain ⟨back, rfl⟩ := hfront
  by_contra hlt
  exact hno ⟨front, back, rfl, Nat.lt_of_not_le hlt⟩

/-! ## Redundant brackets -/

/-- The first character and the last one are a pair of brackets. -/
def IsWrapped (cs : List Char) : Prop :=
  ∃ mid, cs = '(' :: (mid ++ [')']) ∧ PairsBrackets mid

/-- The text is what is left of another one without its redundant brackets: nothing but brackets is
removed, as many at the front as at the end; those that stay pair up, and none is redundant. -/
structure IsUnwrapped (whole text : String) : Prop where
  removed : ∃ depth, whole = bracketed depth text
  pairs : PairsBrackets text.toList
  bare : ¬ IsWrapped text.toList

/-- The brackets at the two ends of a text are no pair: each belongs to a part of its own. There may
be brackets around both parts. -/
inductive EndsApart : List Char → Prop where
  | parts {front back : List Char} (hfront : PairsBrackets ('(' :: front))
      (hback : PairsBrackets (back ++ [')'])) : EndsApart ('(' :: (front ++ back ++ [')']))
  | inside {mid : List Char} (h : EndsApart mid) : EndsApart ('(' :: (mid ++ [')']))

/-- **The brackets at the ends are a pair, or they belong to two parts of the text.** -/
theorem PairsBrackets.inner_or_endsApart {mid : List Char}
    (h : PairsBrackets ('(' :: (mid ++ [')']))) :
    PairsBrackets mid ∨ EndsApart ('(' :: (mid ++ [')'])) := by
  by_cases hmid : PairsBrackets mid
  · exact .inl hmid
  have hwhole := h.whole
  rw [count_open_wrapped, count_close_wrapped, Nat.add_right_cancel_iff] at hwhole
  obtain ⟨front, back, rfl, hlt⟩ := exists_front_of_not_pairsBrackets hmid hwhole
  -- the first bracket is closed at the end of this front, or else one would be closed too early
  have happend : '(' :: (front ++ back ++ [')']) = '(' :: front ++ (back ++ [')']) := by simp
  rw [happend] at h
  have hle := h.fronts ('(' :: front) (List.prefix_append _ _)
  have hclosed : ('(' :: front).count ')' = ('(' :: front).count '(' := by
    rw [List.count_cons_self, List.count_cons_of_ne (by decide)] at hle ⊢
    omega
  obtain ⟨hfront, hback⟩ := h.parts hclosed
  exact .inr (.parts hfront hback)

/-! ## What is removed -/

/-- As many brackets are removed at the front as at the end. -/
theorem exists_replicate_stripBracketsUpTo : ∀ (n : Nat) (cs : List Char), ∃ depth,
    cs = List.replicate depth '(' ++ stripBracketsUpTo n cs ++ List.replicate depth ')' := by
  intro n
  induction n with
  | zero => exact fun cs => ⟨0, by simp [stripBracketsUpTo]⟩
  | succ n ih =>
    intro cs
    by_cases h : ∃ mid, cs = '(' :: (mid ++ [')'])
    · obtain ⟨mid, rfl⟩ := h
      obtain ⟨depth, hdepth⟩ := ih mid
      refine ⟨depth + 1, ?_⟩
      rw [stripBracketsUpTo_succ, List.replicate_succ, List.replicate_succ']
      nth_rewrite 1 [hdepth]
      simp
    · exact ⟨0, by simp [stripBracketsUpTo_eq_self h]⟩

/-- With enough rounds no bracket is left at the front together with one at the end. -/
theorem not_between_stripBracketsUpTo : ∀ (n : Nat) {cs : List Char}, cs.length ≤ n →
    ¬ ∃ mid, stripBracketsUpTo n cs = '(' :: (mid ++ [')']) := by
  intro n
  induction n with
  | zero =>
    intro cs hlength
    rw [List.length_eq_zero_iff.mp (Nat.le_zero.mp hlength)]
    simp [stripBracketsUpTo]
  | succ n ih =>
    intro cs hlength
    by_cases h : ∃ mid, cs = '(' :: (mid ++ [')'])
    · obtain ⟨mid, rfl⟩ := h
      rw [stripBracketsUpTo_succ]
      simp only [List.length_cons, List.length_append, List.length_nil] at hlength
      exact ih (by omega)
    · rw [stripBracketsUpTo_eq_self h]
      exact h

/-- Brackets that pair up in what is left pair up in the text. -/
theorem PairsBrackets.of_stripBracketsUpTo : ∀ {n : Nat} {cs : List Char},
    PairsBrackets (stripBracketsUpTo n cs) → PairsBrackets cs := by
  intro n
  induction n with
  | zero => exact fun h => h
  | succ n ih =>
    intro cs h
    by_cases hcs : ∃ mid, cs = '(' :: (mid ++ [')'])
    · obtain ⟨mid, rfl⟩ := hcs
      rw [stripBracketsUpTo_succ] at h
      exact (ih h).wrap
    · rwa [stripBracketsUpTo_eq_self hcs] at h

/-- If the brackets at the ends are no pair, those of what is left do not pair up. -/
theorem EndsApart.not_pairsBrackets {cs : List Char} (h : EndsApart cs) : ∀ {n : Nat},
    cs.length ≤ n → ¬ PairsBrackets (stripBracketsUpTo n cs) := by
  induction h with
  | @parts front back hfront _ =>
    intro n hlength hleft
    obtain ⟨n, rfl⟩ : ∃ m, n = m + 1 := ⟨n - 1, by rw [List.length_cons] at hlength; omega⟩
    rw [stripBracketsUpTo_succ] at hleft
    -- without its first bracket the front part closes one too many
    have hle := hleft.of_stripBracketsUpTo.fronts front (List.prefix_append front back)
    have hwhole := hfront.whole
    rw [List.count_cons_self, List.count_cons_of_ne (by decide)] at hwhole
    omega
  | @inside mid _ ih =>
    intro n hlength
    simp only [List.length_cons, List.length_append, List.length_nil] at hlength
    obtain ⟨n, rfl⟩ : ∃ m, n = m + 1 := ⟨n - 1, by omega⟩
    rw [stripBracketsUpTo_succ]
    exact ih (by omega)

/-- If not, they pair up after each round. -/
theorem PairsBrackets.stripBracketsUpTo_or_endsApart : ∀ (n : Nat) {cs : List Char},
    PairsBrackets cs → PairsBrackets (stripBracketsUpTo n cs) ∨ EndsApart cs := by
  intro n
  induction n with
  | zero => exact fun h => .inl h
  | succ n ih =>
    intro cs h
    by_cases hcs : ∃ mid, cs = '(' :: (mid ++ [')'])
    · obtain ⟨mid, rfl⟩ := hcs
      rw [stripBracketsUpTo_succ]
      rcases h.inner_or_endsApart with hmid | hapart
      · exact (ih hmid).imp id .inside
      · exact .inr hapart
    · rw [stripBracketsUpTo_eq_self hcs]
      exact .inl h

/-! ## The whole text -/

theorem toList_stripBrackets (s : String) :
    (stripBrackets s).toList = stripBracketsUpTo s.length s.toList := by
  rw [stripBrackets, String.toList_ofList]

theorem exists_bracketed_stripBrackets (s : String) :
    ∃ depth, s = bracketed depth (stripBrackets s) := by
  obtain ⟨depth, hdepth⟩ := exists_replicate_stripBracketsUpTo s.length s.toList
  refine ⟨depth, ?_⟩
  rw [bracketed, toList_stripBrackets, ← hdepth, String.ofList_toList]

theorem not_isWrapped_stripBrackets (s : String) : ¬ IsWrapped (stripBrackets s).toList := by
  rintro ⟨mid, hmid, -⟩
  rw [toList_stripBrackets] at hmid
  exact not_between_stripBracketsUpTo s.length (Nat.le_of_eq String.length_toList) ⟨mid, hmid⟩

/-- **Just the redundant brackets are removed from a text, unless the brackets at its two ends
belong to different parts of it.** -/
theorem isUnwrapped_stripBrackets_iff {s : String} (h : PairsBrackets s.toList) :
    IsUnwrapped s (stripBrackets s) ↔ ¬ EndsApart s.toList := by
  constructor
  · intro hright hapart
    have hpairs := hright.pairs
    rw [toList_stripBrackets] at hpairs
    exact hapart.not_pairsBrackets (Nat.le_of_eq String.length_toList) hpairs
  · intro hpair
    have hleft := (h.stripBracketsUpTo_or_endsApart s.length).resolve_right hpair
    exact ⟨exists_bracketed_stripBrackets s, by rwa [toList_stripBrackets],
      not_isWrapped_stripBrackets s⟩

/-- Two pairs of brackets, of which both are redundant, and two of which one is. -/
theorem isUnwrapped_stripBrackets_iff_nested :
    (PairsBrackets "((f(1)+2))".toList ∧ stripBrackets "((f(1)+2))" = "f(1)+2" ∧
      ¬ EndsApart "((f(1)+2))".toList) ∧
    PairsBrackets "((1)+f(2))".toList ∧ EndsApart "((1)+f(2))".toList ∧
      ¬ IsUnwrapped "((1)+f(2))" (stripBrackets "((1)+f(2))") := by
  have hcall : PairsBrackets "((f(1)+2))".toList := by decide +kernel
  have hsum : PairsBrackets "((1)+f(2))".toList := by decide +kernel
  have hstrip : stripBrackets "((f(1)+2))" = "f(1)+2" := by decide +kernel
  have hright : IsUnwrapped "((f(1)+2))" (stripBrackets "((f(1)+2))") :=
    ⟨⟨2, by rw [hstrip]; decide⟩, by rw [hstrip]; decide +kernel, not_isWrapped_stripBrackets _⟩
  have hfront : PairsBrackets ('(' :: "1)".toList) := by decide +kernel
  have hback : PairsBrackets ("+f(2".toList ++ [')']) := by decide +kernel
  have hapart : EndsApart "((1)+f(2))".toList := .inside (.parts hfront hback)
  exact ⟨⟨hcall, hstrip, (isUnwrapped_stripBrackets_iff hcall).mp hright⟩, hsum, hapart,
    fun hright => (isUnwrapped_stripBrackets_iff hsum).mp hright hapart⟩

/-- A difference that is reported in brackets, with brackets around both of its operands: those of
the operands are removed, too. -/
theorem not_isUnwrapped_difference :
    PairsBrackets "((getdate())-(7))".toList ∧
    ¬ IsUnwrapped "((getdate())-(7))" (stripBrackets "((getdate())-(7))") ∧
    ofReported (some (.text "((getdate())-(7))")) "datetime" none .mssql false
      = some (literal "getdate())-(7") := by
  have hstrip : stripBrackets "((getdate())-(7))" = "getdate())-(7" := by decide +kernel
  have hno : ¬ PairsBrackets "getdate())-(7".toList := by decide +kernel
  refine ⟨by decide +kernel, fun hright => hno ?_, by decide +kernel⟩
  rw [← hstrip]
  exact hright.pairs

end SchemaModels.DefaultValue
