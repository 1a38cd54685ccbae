/-!
# Tables

A finite map that keeps its keys in the order in which they were first put. A key stands in a
table at most once: `Table` holds the proof.

`get?` is the view through which tables are reasoned about; the lemmas at the end say what each
operation does to it.
-/

namespace Vigil

/-- A finite map from keys to values, oldest key first. -/
structure Table (κ : Type) (ν : Type) where
  entries : List (κ × ν)
  distinct : (entries.map Prod.fst).Nodup

namespace Table

variable {κ ν : Type} [DecidableEq κ]

/-- A table without entries. -/
def empty : Table κ ν where
  entries := []
  distinct := List.nodup_nil

/-- The keys of a table, oldest first. -/
def keys (table : Table κ ν) : List κ :=
  table.entries.map Prod.fst

/-- The number of keys. -/
def size (table : Table κ ν) : Nat :=
  table.entries.length

/-- The value of a key. -/
def get? (table : Table κ ν) (key : κ) : Option ν :=
  (table.entries.find? (·.1 = key)).map Prod.snd

/-- Whether a key has a value. -/
def contains (table : Table κ ν) (key : κ) : Bool :=
  (table.get? key).isSome

/-- Replace the value of every entry with a given key. -/
def replaceIn (key : κ) (value : ν) (entries : List (κ × ν)) : List (κ × ν) :=
  entries.map fun entry => if entry.1 = key then (key, value) else entry

theorem keys_replaceIn (key : κ) (value : ν) (entries : List (κ × ν)) :
    (replaceIn key value entries).map Prod.fst = entries.map Prod.fst := by
  unfold replaceIn
  rw [List.map_map]
  apply List.map_congr_left
  intro entry _
  by_cases same : entry.1 = key <;> simp [same]

/-- Give a key a value. A key that has one already keeps its place. -/
def put (table : Table κ ν) (key : κ) (value : ν) : Table κ ν :=
  if present : key ∈ table.entries.map Prod.fst then
    { entries := replaceIn key value table.entries
      distinct := by
        rw [keys_replaceIn]
        exact table.distinct }
  else
    { entries := table.entries ++ [(key, value)]
      distinct := by
        rw [List.map_append, List.nodup_append]
        refine ⟨table.distinct, by simp, ?_⟩
        intro old listed new added
        simp only [List.map_cons, List.map_nil, List.mem_singleton] at added
        rintro rfl
        exact present (added ▸ listed) }

/-- Take a key away. -/
def erase (table : Table κ ν) (key : κ) : Table κ ν where
  entries := table.entries.filter (·.1 ≠ key)
  distinct := table.distinct.sublist (List.filter_sublist.map Prod.fst)

/-! ## The view of each operation -/

@[simp]
theorem get?_empty (key : κ) : (empty : Table κ ν).get? key = none :=
  rfl

theorem find?_replaceIn_self {key : κ} {value : ν} {entries : List (κ × ν)}
    (present : key ∈ entries.map Prod.fst) :
    (replaceIn key value entries).find? (·.1 = key) = some (key, value) := by
  induction entries with
  | nil => simp at present
  | cons entry rest step =>
    by_cases same : entry.1 = key
    · simp [replaceIn, same]
    · have later : key ∈ rest.map Prod.fst := by
        simpa [Ne.symm same] using present
      simpa [replaceIn, same] using step later

theorem find?_replaceIn_ne {key other : κ} {value : ν} {entries : List (κ × ν)}
    (differ : other ≠ key) :
    (replaceIn key value entries).find? (·.1 = other) = entries.find? (·.1 = other) := by
  induction entries with
  | nil => rfl
  | cons entry rest step =>
    by_cases same : entry.1 = key
    · simpa [replaceIn, same, Ne.symm differ] using step
    · by_cases found : entry.1 = other
      · simp [replaceIn, found, differ]
      · simpa [replaceIn, same, found] using step

theorem get?_eq_none_of_not_mem {table : Table κ ν} {key : κ}
    (missing : key ∉ table.entries.map Prod.fst) : table.get? key = none := by
  simp only [get?, Option.map_eq_none_iff, List.find?_eq_none, decide_eq_true_eq]
  intro entry listed same
  exact missing (List.mem_map.mpr ⟨entry, listed, same⟩)

@[simp]
theorem get?_put_self (table : Table κ ν) (key : κ) (value : ν) :
    (table.put key value).get? key = some value := by
  unfold put
  split
  · next present => simp [get?, find?_replaceIn_self present]
  · next missing =>
    have none := get?_eq_none_of_not_mem missing
    simp only [get?, Option.map_eq_none_iff] at none
    simp [get?, List.find?_append, none]

theorem get?_put_ne (table : Table κ ν) {key other : κ} (value : ν) (differ : other ≠ key) :
    (table.put key value).get? other = table.get? other := by
  unfold put
  split
  · simp [get?, find?_replaceIn_ne differ]
  · simp [get?, List.find?_append, Ne.symm differ]

theorem mem_entries_of_get? {table : Table κ ν} {key : κ} {value : ν}
    (found : table.get? key = some value) : (key, value) ∈ table.entries := by
  rw [get?, Option.map_eq_some_iff] at found
  rcases found with ⟨⟨other, _⟩, stored, rfl⟩
  have same : other = key := by simpa using List.find?_some stored
  rw [← same]
  exact List.mem_of_find?_eq_some stored

theorem get?_of_mem {table : Table κ ν} {key : κ} {value : ν}
    (listed : (key, value) ∈ table.entries) : table.get? key = some value := by
  rcases table with ⟨entries, distinct⟩
  have found : entries.find? (·.1 = key) = some (key, value) := by
    induction entries with
    | nil => cases listed
    | cons entry rest induction =>
        rcases List.nodup_cons.mp distinct with ⟨first, others⟩
        rcases List.mem_cons.mp listed with rfl | later
        · exact List.find?_cons_of_pos (decide_eq_true rfl)
        · have differs : entry.1 ≠ key := by
            rintro rfl
            exact first (List.mem_map.mpr ⟨_, later, rfl⟩)
          rw [List.find?_cons_of_neg (by simpa using differs)]
          exact induction others later
  rw [get?, found]
  rfl

theorem mem_keys {table : Table κ ν} {key : κ} :
    key ∈ table.keys ↔ ∃ value, table.get? key = some value := by
  rw [keys, List.mem_map]
  constructor
  · rintro ⟨⟨_, value⟩, listed, rfl⟩
    exact ⟨value, get?_of_mem listed⟩
  · rintro ⟨value, found⟩
    exact ⟨_, mem_entries_of_get? found, rfl⟩

theorem replaceIn_of_not_mem {key : κ} {entries : List (κ × ν)}
    (missing : key ∉ entries.map Prod.fst) (value : ν) :
    replaceIn key value entries = entries := by
  refine (List.map_congr_left fun entry member => ?_).trans (List.map_id entries)
  refine if_neg fun same => missing ?_
  exact List.mem_map.mpr ⟨entry, member, same⟩

theorem replaceIn_of_mem {key : κ} {value : ν} {entries : List (κ × ν)}
    (distinct : (entries.map Prod.fst).Nodup) (listed : (key, value) ∈ entries) :
    replaceIn key value entries = entries := by
  induction entries with
  | nil => cases listed
  | cons entry rest step =>
    rcases List.nodup_cons.mp distinct with ⟨first, others⟩
    rcases List.mem_cons.mp listed with rfl | later
    · show (if key = key then (key, value) else (key, value)) :: replaceIn key value rest = _
      rw [if_pos rfl, replaceIn_of_not_mem first]
    · have differs : entry.1 ≠ key := by
        rintro rfl
        exact first (List.mem_map.mpr ⟨_, later, rfl⟩)
      show (if entry.1 = key then (key, value) else entry) :: replaceIn key value rest = _
      rw [if_neg differs, step others later]

/-- Giving a key the value that it has changes nothing. -/
theorem put_of_get? {table : Table κ ν} {key : κ} {value : ν}
    (found : table.get? key = some value) : table.put key value = table := by
  have listed := mem_entries_of_get? found
  have present : key ∈ table.entries.map Prod.fst := List.mem_map.mpr ⟨_, listed, rfl⟩
  have unchanged := replaceIn_of_mem table.distinct listed
  rw [put, dif_pos present]
  rcases table with ⟨entries, distinct⟩
  rw [mk.injEq]
  exact unchanged

/-- A new key comes last. -/
theorem entries_put_of_absent {table : Table κ ν} {key : κ} (absent : table.get? key = none)
    (value : ν) : (table.put key value).entries = table.entries ++ [(key, value)] := by
  have missing : key ∉ table.entries.map Prod.fst := by
    intro present
    rcases List.mem_map.mp present with ⟨entry, listed, same⟩
    rw [get?, Option.map_eq_none_iff, List.find?_eq_none] at absent
    exact absent entry listed (decide_eq_true same)
  rw [put, dif_neg missing]

/-- Giving a key a value adds no other entry. -/
theorem mem_entries_put {table : Table κ ν} {key : κ} {value : ν} {entry : κ × ν}
    (member : entry ∈ (table.put key value).entries) :
    entry = (key, value) ∨ entry ∈ table.entries := by
  rw [put] at member
  split at member
  · rcases List.mem_map.mp member with ⟨old, listed, rfl⟩
    split
    · exact .inl rfl
    · exact .inr listed
  · exact (List.mem_append.mp member).symm.imp_left List.mem_singleton.mp

/-- Change every value. -/
def map {μ : Type} (table : Table κ ν) (change : ν → μ) : Table κ μ where
  entries := table.entries.map fun entry => (entry.1, change entry.2)
  distinct := by
    rw [List.map_map]
    exact table.distinct

theorem get?_map {μ : Type} (table : Table κ ν) (change : ν → μ) (key : κ) :
    (table.map change).get? key = (table.get? key).map change := by
  rw [get?, get?, map, List.find?_map, Option.map_map, Option.map_map]
  rfl

@[simp]
theorem get?_erase_self (table : Table κ ν) (key : κ) : (table.erase key).get? key = none := by
  simp [get?, erase]

theorem get?_erase_ne (table : Table κ ν) {key other : κ} (differ : other ≠ key) :
    (table.erase key).get? other = table.get? other := by
  simp only [get?, erase, List.find?_filter]
  congr 2
  funext entry
  by_cases same : entry.1 = other <;> simp [same, differ]

end Table

end Vigil
