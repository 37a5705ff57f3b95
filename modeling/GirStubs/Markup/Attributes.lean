/-! # Attributes in order

The attributes of an element: pairs of key and value in the order in which the
keys came first, each key once. Setting a key that is there keeps its place and
replaces its value; a new key goes to the end.
-/

namespace GirStubs.Markup

/-- The entries with `key` set to `value`. -/
def setEntry (key value : String) : List (String × String) → List (String × String)
  | [] => [(key, value)]
  | (k, v) :: rest => if k = key then (k, value) :: rest else (k, v) :: setEntry key value rest

theorem mem_keys_setEntry (key value other : String) (entries : List (String × String)) :
    other ∈ (setEntry key value entries).map Prod.fst ↔
      other = key ∨ other ∈ entries.map Prod.fst := by
  induction entries with
  | nil => simp [setEntry]
  | cons entry rest ih =>
    by_cases same : entry.1 = key
    · simp [setEntry, same]
    · simp only [setEntry, same, if_false, List.map_cons, List.mem_cons, ih]
      constructor
      · rintro (h | h | h) <;> simp [h]
      · rintro (h | h | h) <;> simp [h]

theorem nodup_keys_setEntry (key value : String) {entries : List (String × String)}
    (distinct : (entries.map Prod.fst).Nodup) :
    ((setEntry key value entries).map Prod.fst).Nodup := by
  induction entries with
  | nil => simp [setEntry]
  | cons entry rest ih =>
    rw [List.map_cons, List.nodup_cons] at distinct
    by_cases same : entry.1 = key
    · rw [setEntry, if_pos same, List.map_cons, List.nodup_cons]
      exact same ▸ distinct
    · rw [setEntry, if_neg same, List.map_cons, List.nodup_cons, mem_keys_setEntry]
      exact ⟨fun h => h.elim same distinct.1, ih distinct.2⟩

/-- The attributes of an element. -/
structure Attributes where
  /-- Keys and values in the order of the first occurrence of each key. -/
  entries : List (String × String)
  /-- No key stands twice. -/
  distinct : (entries.map Prod.fst).Nodup
  deriving DecidableEq, Repr

namespace Attributes

/-- No attributes. -/
def empty : Attributes := ⟨[], by simp⟩

instance : Inhabited Attributes := ⟨empty⟩

/-- The value of a key. -/
def get? (attributes : Attributes) (key : String) : Option String := attributes.entries.lookup key

/-- The attributes with `key` set to `value`. -/
def set (attributes : Attributes) (key value : String) : Attributes :=
  ⟨setEntry key value attributes.entries, nodup_keys_setEntry key value attributes.distinct⟩

/-- The attributes after setting each pair in order. -/
def ofList (pairs : List (String × String)) : Attributes :=
  pairs.foldl (fun attributes pair => attributes.set pair.1 pair.2) empty

@[simp]
theorem entries_empty : empty.entries = [] := rfl

@[simp]
theorem entries_set (attributes : Attributes) (key value : String) :
    (attributes.set key value).entries = setEntry key value attributes.entries := rfl

@[ext]
theorem ext {first second : Attributes} (h : first.entries = second.entries) : first = second := by
  cases first; cases second; cases h; rfl

theorem lookup_setEntry (key value other : String) (entries : List (String × String)) :
    (setEntry key value entries).lookup other =
      if other = key then some value else entries.lookup other := by
  induction entries with
  | nil => by_cases h : other = key <;> simp [setEntry, h]
  | cons entry rest ih =>
    obtain ⟨k, v⟩ := entry
    by_cases same : k = key <;> by_cases h : other = key
    · simp [setEntry, same, h]
    · simp [setEntry, same, h, List.lookup_cons, beq_false_of_ne h]
    · simp [setEntry, same, h ▸ ih, h, List.lookup_cons, beq_false_of_ne (Ne.symm same)]
    · simp [setEntry, same, h, ih, List.lookup_cons]

/-- A set key is found with its value, and every other key as before. -/
theorem get?_set (attributes : Attributes) (key value other : String) :
    (attributes.set key value).get? other =
      if other = key then some value else attributes.get? other :=
  lookup_setEntry key value other attributes.entries

end Attributes

end GirStubs.Markup
