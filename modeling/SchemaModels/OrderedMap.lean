/-!
# Maps in insertion order

A finite map from texts that remembers the order in which its keys first came. Inserting under a
key that is there already replaces the value and leaves the key where it is.
-/

namespace SchemaModels

/-- Replaces the value under `key`, or appends a new entry. -/
def putEntry {α : Type} (key : String) (value : α) : List (String × α) → List (String × α)
  | [] => [(key, value)]
  | (k, v) :: es => if k = key then (k, value) :: es else (k, v) :: putEntry key value es

/-- The keys after an entry is put: a new key comes last. -/
theorem keys_putEntry {α : Type} (key : String) (value : α) (es : List (String × α)) :
    (putEntry key value es).map (·.1)
      = if key ∈ es.map (·.1) then es.map (·.1) else es.map (·.1) ++ [key] := by
  induction es with
  | nil => simp [putEntry]
  | cons e es ih =>
    obtain ⟨k, v⟩ := e
    by_cases h : k = key
    · simp [putEntry, h]
    · have h' : ¬ key = k := fun hk => h hk.symm
      simp only [putEntry, h, if_false, List.map_cons, ih, List.mem_cons, h', false_or]
      by_cases hm : key ∈ es.map (·.1) <;> simp [hm]

/-- Putting an entry never repeats a key. -/
theorem nodup_putEntry {α : Type} (key : String) (value : α) {es : List (String × α)}
    (h : (es.map (·.1)).Nodup) : ((putEntry key value es).map (·.1)).Nodup := by
  rw [keys_putEntry]
  by_cases hm : key ∈ es.map (·.1)
  · rwa [if_pos hm]
  · rw [if_neg hm, List.nodup_append]
    refine ⟨h, by simp, ?_⟩
    intro a ha b hb
    have hb' : b = key := by simpa using hb
    subst hb'
    exact fun hab => hm (hab ▸ ha)

/-- The entry that was put in is the first with its key. -/
theorem find?_putEntry_self {α : Type} (key : String) (value : α) (es : List (String × α)) :
    (putEntry key value es).find? (·.1 == key) = some (key, value) := by
  induction es with
  | nil => simp [putEntry]
  | cons e es ih =>
    obtain ⟨k, v⟩ := e
    by_cases h : k = key
    · simp [putEntry, h]
    · simp [putEntry, h, ih]

/-- Entries with other keys are not touched. -/
theorem find?_putEntry_of_ne {α : Type} {key other : String} (value : α) (es : List (String × α))
    (h : other ≠ key) : (putEntry key value es).find? (·.1 == other) = es.find? (·.1 == other) := by
  induction es with
  | nil =>
    have hb : (key == other) = false := by simpa using fun hk : key = other => h hk.symm
    simp [putEntry, List.find?, hb]
  | cons e es ih =>
    obtain ⟨k, v⟩ := e
    by_cases hk : k = key
    · subst hk
      have hb : (k == other) = false := by simpa using fun hk : k = other => h hk.symm
      simp [putEntry, List.find?, hb]
    · simp only [putEntry, hk, if_false, List.find?, ih]

/-- A map whose entries are in the order in which their keys were first inserted. -/
structure OrderedMap (α : Type) where
  entries : List (String × α)
  nodup : (entries.map (·.1)).Nodup
  deriving DecidableEq

namespace OrderedMap

variable {α : Type}

/-- The map without entries. -/
def empty : OrderedMap α := ⟨[], by simp⟩

instance : Inhabited (OrderedMap α) := ⟨empty⟩

instance : EmptyCollection (OrderedMap α) := ⟨empty⟩

/-- Sets the value under a key. -/
def insert (m : OrderedMap α) (key : String) (value : α) : OrderedMap α :=
  ⟨putEntry key value m.entries, nodup_putEntry key value m.nodup⟩

/-- The map that results from inserting the entries one after the other. -/
def ofList (es : List (String × α)) : OrderedMap α :=
  es.foldl (fun m e => m.insert e.1 e.2) empty

/-- The value under a key. -/
def get? (m : OrderedMap α) (key : String) : Option α :=
  (m.entries.find? (·.1 == key)).map (·.2)

/-- Whether there are no entries. -/
def isEmpty (m : OrderedMap α) : Bool :=
  m.entries.isEmpty

/-- The keys in order. -/
def keys (m : OrderedMap α) : List String :=
  m.entries.map (·.1)

/-- A new key comes last, and one that is there stays in its place. -/
theorem keys_insert (m : OrderedMap α) (key : String) (value : α) :
    (m.insert key value).keys = if key ∈ m.keys then m.keys else m.keys ++ [key] :=
  keys_putEntry key value m.entries

/-- The value that was put in is found. -/
theorem get?_insert_self (m : OrderedMap α) (key : String) (value : α) :
    (m.insert key value).get? key = some value := by
  obtain ⟨es, h⟩ := m
  simp only [get?, insert]
  rw [find?_putEntry_self]
  rfl

/-- The values under other keys are as before. -/
theorem get?_insert_of_ne (m : OrderedMap α) {key other : String} (value : α) (h : other ≠ key) :
    (m.insert key value).get? other = m.get? other := by
  obtain ⟨es, hes⟩ := m
  simp only [get?, insert]
  rw [find?_putEntry_of_ne value es h]

end OrderedMap
end SchemaModels
