import Mathlib.Data.List.Induction
import SchemaModels.OrderedMap

/-!
# Entries of ordered maps

What a map says about the entries that were put in: its keys are theirs, in the order in which they
first came (`OrderedMap.keys_ofList`), and under a key it has the value that came last
(`OrderedMap.get?_ofList`).
-/

namespace SchemaModels

variable {α : Type}

theorem mem_putEntry {key : String} {value : α} {e : String × α} :
    ∀ {es : List (String × α)}, e ∈ putEntry key value es → e = (key, value) ∨ e ∈ es := by
  intro es
  induction es with
  | nil => intro h; exact .inl (List.mem_singleton.mp h)
  | cons old es ih =>
    obtain ⟨k, v⟩ := old
    intro h
    rw [putEntry] at h
    split at h
    · next hk =>
      subst hk
      exact (List.mem_cons.mp h).imp id (List.mem_cons_of_mem _)
    · rcases List.mem_cons.mp h with rfl | h
      · exact .inr List.mem_cons_self
      · exact (ih h).imp id (List.mem_cons_of_mem _)

/-- A key that is not there yet comes last. -/
theorem putEntry_of_not_mem {key : String} {value : α} : ∀ {es : List (String × α)},
    key ∉ es.map (·.1) → putEntry key value es = es ++ [(key, value)] := by
  intro es
  induction es with
  | nil => intro _; rfl
  | cons e es ih =>
    intro h
    rw [List.map_cons, List.mem_cons, not_or] at h
    rw [putEntry, if_neg (Ne.symm h.1), ih h.2, List.cons_append]

/-- Values may be mapped before they are put in or after. -/
theorem map_putEntry {β : Type} (f : α → β) (key : String) (value : α) :
    ∀ (es : List (String × α)), (putEntry key value es).map (fun e => (e.1, f e.2))
      = putEntry key (f value) (es.map fun e => (e.1, f e.2)) := by
  intro es
  induction es with
  | nil => rfl
  | cons e es ih =>
    rw [putEntry, List.map_cons, putEntry]
    split
    · rfl
    · rw [List.map_cons, ih]

/-- Where no key repeats, an entry is the first with its key. -/
theorem find?_of_mem {e : String × α} : ∀ {es : List (String × α)}, (es.map (·.1)).Nodup → e ∈ es →
    es.find? (·.1 == e.1) = some e := by
  intro es
  induction es with
  | nil => intro _ h; cases h
  | cons x es ih =>
    intro hnodup h
    rw [List.map_cons, List.nodup_cons] at hnodup
    rcases List.mem_cons.mp h with rfl | h
    · exact List.find?_cons_of_pos (by simp)
    · have hne : ¬ (x.1 == e.1) = true := by
        intro heq
        rw [beq_iff_eq.mp heq] at hnodup
        exact hnodup.1 (List.mem_map_of_mem h)
      rw [List.find?_cons_of_neg (by exact hne), ih hnodup.2 h]

/-- One more item is kept unless it was there. -/
theorem eraseDups_concat [DecidableEq α] (l : List α) (a : α) :
    (l ++ [a]).eraseDups = if a ∈ l then l.eraseDups else l.eraseDups ++ [a] := by
  rw [List.eraseDups_append]
  by_cases hmem : a ∈ l
  · simp [hmem, List.removeAll]
  · simp [hmem, List.removeAll, List.eraseDups_cons]

namespace OrderedMap

/-- The value under a key is that of the only entry with the key. -/
theorem get?_eq_some_iff {m : OrderedMap α} {key : String} {value : α} :
    m.get? key = some value ↔ (key, value) ∈ m.entries := by
  constructor
  · intro h
    obtain ⟨⟨k, v⟩, hfound, hv⟩ := Option.map_eq_some_iff.mp h
    have hk : k = key := by simpa using List.find?_some hfound
    cases hk
    cases hv
    exact List.mem_of_find?_eq_some hfound
  · intro h
    rw [get?, find?_of_mem m.nodup h]
    rfl

theorem eq_of_entries_eq {m n : OrderedMap α} (h : m.entries = n.entries) : m = n := by
  obtain ⟨es, hes⟩ := m
  obtain ⟨fs, hfs⟩ := n
  cases h
  rfl

theorem ofList_concat (es : List (String × α)) (e : String × α) :
    ofList (es ++ [e]) = (ofList es).insert e.1 e.2 := by
  rw [ofList, List.foldl_append]
  rfl

/-- The keys are those that were put in, each once, in the order in which they first came. -/
theorem keys_ofList (es : List (String × α)) : (ofList es).keys = (es.map (·.1)).eraseDups := by
  induction es using List.reverseRecOn with
  | nil => rfl
  | append_singleton es e ih =>
    rw [ofList_concat, keys_insert, ih, List.map_append, List.map_singleton, eraseDups_concat]
    simp only [List.mem_eraseDups]

/-- The value under a key is the one that was put in last. -/
theorem get?_ofList (es : List (String × α)) (key : String) :
    (ofList es).get? key = ((es.filter (·.1 = key)).getLast?).map (·.2) := by
  induction es using List.reverseRecOn with
  | nil => rfl
  | append_singleton es e ih =>
    rw [ofList_concat, List.filter_append]
    by_cases hkey : e.1 = key
    · subst hkey
      simp [get?_insert_self]
    · rw [get?_insert_of_ne _ _ (Ne.symm hkey), ih]
      simp [hkey]

/-- Every entry of a map was put in. -/
theorem mem_of_mem_ofList {es : List (String × α)} {e : String × α}
    (h : e ∈ (ofList es).entries) : e ∈ es := by
  have hvalue : (ofList es).get? e.1 = some e.2 := get?_eq_some_iff.mpr h
  rw [get?_ofList] at hvalue
  obtain ⟨⟨key, value⟩, hlast, hsame⟩ := Option.map_eq_some_iff.mp hvalue
  cases hsame
  obtain ⟨hmem, hkey⟩ := List.mem_filter.mp (List.mem_of_getLast? hlast)
  cases of_decide_eq_true hkey
  exact hmem

/-- Every key that was put in has a value, one that was put in with it. -/
theorem exists_get?_ofList {es : List (String × α)} {e : String × α} (h : e ∈ es) :
    ∃ value, (e.1, value) ∈ es ∧ (ofList es).get? e.1 = some value := by
  have hkey : e.1 ∈ (ofList es).keys := by
    rw [keys_ofList, List.mem_eraseDups]
    exact List.mem_map_of_mem h
  obtain ⟨⟨key, value⟩, hentry, hsame⟩ := List.mem_map.mp hkey
  cases hsame
  exact ⟨value, mem_of_mem_ofList hentry, get?_eq_some_iff.mpr hentry⟩

/-- Where no key repeats, the entries are those that were put in. -/
theorem entries_ofList {es : List (String × α)} (h : (es.map (·.1)).Nodup) :
    (ofList es).entries = es := by
  induction es using List.reverseRecOn with
  | nil => rfl
  | append_singleton es e ih =>
    rw [List.map_append, List.nodup_append] at h
    have hfresh : e.1 ∉ (ofList es).entries.map (·.1) := by
      rw [ih h.1]
      intro hmem
      exact h.2.2 e.1 hmem e.1 (by simp) rfl
    have hput : ((ofList es).insert e.1 e.2).entries = (ofList es).entries ++ [e] :=
      putEntry_of_not_mem hfresh
    rw [ofList_concat, hput, ih h.1]

/-- Putting the entries of a map into an empty one gives the map. -/
theorem ofList_entries (m : OrderedMap α) : ofList m.entries = m :=
  eq_of_entries_eq (entries_ofList m.nodup)

/-- Values may be mapped before they are put in or after. -/
theorem map_entries_ofList {β : Type} (f : α → β) (es : List (String × α)) :
    (ofList es).entries.map (fun e => (e.1, f e.2))
      = (ofList (es.map fun e => (e.1, f e.2))).entries := by
  induction es using List.reverseRecOn with
  | nil => rfl
  | append_singleton es e ih =>
    rw [List.map_append, List.map_singleton, ofList_concat, ofList_concat, insert, insert,
      map_putEntry, ih]

end OrderedMap
end SchemaModels
