import SchemaModels.Model.Context
import SchemaModels.Proofs.Script.Scan
import SchemaModels.Proofs.Text.Search

/-!
# Putting in the name of a model

A module is written with a token for the name of its model, and the name takes the place of the
token at the end, wherever the token stands. A text that the guarded scanner can read has the token
only where the scanner is in a steady state. Neither the token nor an inert name moves the scanner
there, so the text reads the same after the replacement (`isClosed_replace`).
-/

namespace SchemaModels.Script

open Text

/-- The token means nothing to the scanner. -/
theorem isInert_modelToken : IsInert modelToken := by
  decide

theorem modelToken_toList : modelToken.toList = ['#', 'T', 'A', 'B', 'L', 'E', '#'] := rfl

/-- The token between two pieces of which the first ends in a steady state. -/
theorem Reads.token {a b c : Scan} {front back : String} (hfront : Reads a front b)
    (hb : b.mode.isSteady = true) (hback : Reads b back c) :
    Reads a (front ++ modelToken ++ back) c :=
  (hfront.append (isInert_modelToken.reads hb)).append hback

/-- Reading on behind the token from where it stood. -/
theorem foldlM_guardedStep_of_token {s t : Scan} {rest : List Char}
    (h : (modelToken.toList ++ rest).foldlM Scan.guardedStep s = some t) :
    s.mode.isSteady = true ∧ rest.foldlM Scan.guardedStep s = some t := by
  have hs : s.mode.isSteady = true := by
    -- the token begins with the character that is refused anywhere else
    cases hs : s.mode.isSteady with
    | true => rfl
    | false =>
      rw [modelToken_toList, List.cons_append, List.foldlM_cons] at h
      simp [Scan.guardedStep, hs] at h
  refine ⟨hs, ?_⟩
  rw [List.foldlM_append, foldlM_guardedStep_of_isInert hs isInert_modelToken] at h
  exact h

/-- A text reads the same when an inert name takes the place of the token. -/
theorem run_replaceFrom {name : List Char} (hname : ∀ c ∈ name, isInert c = true) :
    ∀ (cs : List Char) {s t : Scan}, cs.foldlM Scan.guardedStep s = some t →
      s.run (replaceFrom modelToken.toList name 0 cs) = some t := by
  intro cs
  induction hn : cs.length using Nat.strongRecOn generalizing cs with
  | ind n ih =>
    subst hn
    intro s t h
    cases cs with
    | nil => exact h
    | cons c cs =>
      by_cases hpre : modelToken.toList <+: c :: cs
      · obtain ⟨rest, hrest⟩ := hpre
        rw [← hrest] at h ⊢
        obtain ⟨hs, hread⟩ := foldlM_guardedStep_of_token h
        have hskip : s.run name = some s := foldlM_step_of_isInert hs hname
        rw [replaceFrom_append_of_ne_nil (by simp [modelToken_toList]), Scan.run,
          List.foldlM_append]
        rw [Scan.run] at hskip
        rw [hskip]
        refine ih rest.length ?_ rest rfl hread
        rw [← hrest, modelToken_toList, List.length_append]
        exact Nat.lt_add_of_pos_left (by decide)
      · rw [replaceFrom_cons_of_not_isPrefix hpre, Scan.run, List.foldlM_cons]
        rw [List.foldlM_cons] at h
        cases hc : s.guardedStep c with
        | none => rw [hc] at h; cases h
        | some u =>
          rw [hc] at h
          rw [Scan.step_of_guardedStep hc]
          exact ih cs.length (by simp) cs rfl h

/-- **A text that reads from code to code is closed under the name of any model.** -/
theorem isClosed_replace {name text : String} (hname : IsInert name)
    (h : Reads (Scan.code []) text (Scan.code [])) : IsClosed (replace modelToken name text) := by
  unfold IsClosed replace
  rw [String.toList_ofList]
  exact run_replaceFrom hname text.toList h

end SchemaModels.Script
