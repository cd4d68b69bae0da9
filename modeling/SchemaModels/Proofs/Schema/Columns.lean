import Mathlib.Data.List.Induction
import SchemaModels.Schema.Table

/-!
# The columns of a table

Only the first column of each name counts (`firstOfEachName`). The columns that are left are some of
those that were there, have different names, and stay as they are when they are sifted again.

Nothing finds them in this way. Reading a table goes through the list and keeps a column unless one
of those kept so far has its name, and the view of the columns keeps those with nothing of the same
name anywhere before them in the list, which is not asked of what was kept, but of the list itself.
Both give the first column of each name. This is shown column by column from the left: one more
column at the end of the list is either kept at the end of the result or dropped, and it is dropped
just if there is a column of its name before it (`firstOfEachName_concat`). Whether that is asked of
the list or of the result makes no difference, since they have the same names
(`hasName_firstOfEachName`).
-/

namespace SchemaModels

/-- The columns without those that repeat an earlier name. -/
def firstOfEachName : List Column → List Column
  | [] => []
  | c :: cs => c :: (firstOfEachName cs).filter (·.name ≠ c.name)

theorem hasName_iff {name : String} {cs : List Column} :
    hasName name cs = true ↔ name ∈ cs.map (·.name) := by
  simp [hasName]

/-! ## The first of each name -/

theorem mem_of_mem_firstOfEachName {c : Column} :
    ∀ {cs : List Column}, c ∈ firstOfEachName cs → c ∈ cs := by
  intro cs
  induction cs with
  | nil => exact id
  | cons d cs ih =>
    intro h
    rcases List.mem_cons.mp h with rfl | h
    · exact List.mem_cons_self
    · exact List.mem_cons_of_mem d (ih (List.mem_filter.mp h).1)

theorem pairwise_firstOfEachName : ∀ (cs : List Column),
    (firstOfEachName cs).Pairwise (·.name ≠ ·.name) := by
  intro cs
  induction cs with
  | nil => exact .nil
  | cons c cs ih =>
    refine List.pairwise_cons.mpr ⟨fun d hd heq => ?_, ih.filter _⟩
    have hne := (List.mem_filter.mp hd).2
    simp [heq] at hne

/-- Columns of different names are the first of each name. -/
theorem firstOfEachName_of_pairwise : ∀ {cs : List Column},
    cs.Pairwise (·.name ≠ ·.name) → firstOfEachName cs = cs := by
  intro cs
  induction cs with
  | nil => intro _; rfl
  | cons c cs ih =>
    intro h
    rw [List.pairwise_cons] at h
    rw [firstOfEachName, ih h.2, List.filter_eq_self.mpr]
    intro d hd
    simpa using (h.1 d hd).symm

/-- The first column of a name stays the first. -/
theorem find?_firstOfEachName (name : String) : ∀ (cs : List Column),
    (firstOfEachName cs).find? (·.name == name) = cs.find? (·.name == name) := by
  intro cs
  induction cs with
  | nil => rfl
  | cons c cs ih =>
    rw [firstOfEachName]
    by_cases hc : c.name = name
    · rw [List.find?_cons_of_pos (by simpa using hc), List.find?_cons_of_pos (by simpa using hc)]
    · rw [List.find?_cons_of_neg (by simpa using hc), List.find?_cons_of_neg (by simpa using hc),
        ← ih, List.find?_filter]
      congr 1
      funext d
      by_cases hd : d.name = name
      · have hne : name ≠ c.name := fun heq => hc heq.symm
        simp [hd, hne]
      · simp [hd]

/-- No name is lost, and none comes up. -/
theorem hasName_firstOfEachName (name : String) (cs : List Column) :
    hasName name (firstOfEachName cs) = hasName name cs := by
  have hfound : ∀ ds : List Column, hasName name ds = (ds.find? (·.name == name)).isSome :=
    fun ds => List.isSome_find?.symm
  rw [hfound, hfound, find?_firstOfEachName]

theorem firstOfEachName_append (cs ds : List Column) : firstOfEachName (cs ++ ds)
    = firstOfEachName cs ++ (firstOfEachName ds).filter (fun d => !hasName d.name cs) := by
  induction cs with
  | nil => exact (List.filter_eq_self.mpr fun _ _ => rfl).symm
  | cons c cs ih =>
    rw [List.cons_append, firstOfEachName, firstOfEachName, ih, List.filter_append,
      List.filter_filter, List.cons_append]
    congr 2
    apply List.filter_congr
    intro d _
    simp [hasName, eq_comm, Bool.beq_eq_decide_eq]

/-- One more column is kept unless its name was there. -/
theorem firstOfEachName_concat (cs : List Column) (c : Column) :
    firstOfEachName (cs ++ [c]) = keepUnseen (firstOfEachName cs) c := by
  rw [firstOfEachName_append, keepUnseen, hasName_firstOfEachName]
  cases h : hasName c.name cs <;> simp [firstOfEachName, h]

/-! ## Reading and viewing -/

/-- Looking at what was kept. -/
theorem foldl_keepUnseen (cs : List Column) : cs.foldl keepUnseen [] = firstOfEachName cs := by
  induction cs using List.reverseRecOn with
  | nil => rfl
  | append_singleton cs c ih =>
    rw [List.foldl_append, ih, firstOfEachName_concat]
    rfl

/-- What is at the end of a list is not looked back at from before. -/
theorem unrepeated_concat (cs : List Column) (c : Column) :
    unrepeated (cs ++ [c]) = unrepeated cs ++ if hasName c.name cs then [] else [c] := by
  have hbefore : cs.zipIdx.filter (fun e => !hasName e.1.name ((cs ++ [c]).take e.2))
      = cs.zipIdx.filter (fun e => !hasName e.1.name (cs.take e.2)) := by
    apply List.filter_congr
    intro e he
    have hplace : e.2 < cs.length := List.snd_lt_of_mem_zipIdx he
    rw [List.take_append_of_le_length (Nat.le_of_lt hplace)]
  rw [unrepeated, List.zipIdx_append, List.filter_append, hbefore, List.map_append, unrepeated,
    List.zipIdx_singleton]
  congr 1
  cases h : hasName c.name cs with
  | true => rw [List.filter_cons_of_neg (by simp [h])]; rfl
  | false => rw [List.filter_cons_of_pos (by simp [h])]; rfl

/-- Looking back at the list. -/
theorem unrepeated_eq (cs : List Column) : unrepeated cs = firstOfEachName cs := by
  induction cs using List.reverseRecOn with
  | nil => rfl
  | append_singleton cs c ih =>
    rw [unrepeated_concat, firstOfEachName_concat, keepUnseen, hasName_firstOfEachName, ih]
    split
    · rw [List.append_nil]
    · rfl

namespace Table

variable {t : Table}

theorem columns_eq (t : Table) : t.columns = firstOfEachName t.fields :=
  unrepeated_eq t.fields

/-- The columns are some of those that were added. -/
theorem mem_fields_of_mem_columns {c : Column} (hc : c ∈ t.columns) : c ∈ t.fields :=
  mem_of_mem_firstOfEachName (t.columns_eq ▸ hc)

/-- No two columns have the same name. -/
theorem pairwise_columns (t : Table) : t.columns.Pairwise (·.name ≠ ·.name) :=
  t.columns_eq ▸ pairwise_firstOfEachName t.fields

end Table
end SchemaModels
