/-!
# Keyed lists

Finite maps kept as pairs in the order in which the keys first came.  Keys do not repeat; this is
part of the type.

* `find?_put_self`, `find?_put_of_ne`, `find?_erase_self`, `find?_erase_of_ne`: putting and erasing
  change the answer for their own key only.
-/

namespace JobNode

/-- A finite map in the order in which its keys first came. -/
structure Keyed (κ α : Type) where
  entries : List (κ × α)
  distinct : (entries.map (·.1)).Nodup

namespace Keyed

variable {κ α : Type} [DecidableEq κ]

/-- The map without keys. -/
def empty : Keyed κ α := ⟨[], .nil⟩

instance : Inhabited (Keyed κ α) := ⟨empty⟩

/-- The value of the first pair with the key. -/
def lookup (key : κ) : List (κ × α) → Option α
  | [] => none
  | (k, v) :: rest => if k = key then some v else lookup key rest

/-- Put a pair in the place of the one with its key, or at the end. -/
def putEntry (key : κ) (value : α) : List (κ × α) → List (κ × α)
  | [] => [(key, value)]
  | (k, v) :: rest => if k = key then (key, value) :: rest else (k, v) :: putEntry key value rest

theorem mem_keys_putEntry {key k : κ} {value : α} {entries : List (κ × α)}
    (h : k ∈ (putEntry key value entries).map (·.1)) : k = key ∨ k ∈ entries.map (·.1) := by
  induction entries with
  | nil => exact .inl (by simpa [putEntry] using h)
  | cons head rest ih =>
    obtain ⟨k', v⟩ := head
    rw [putEntry] at h
    split at h
    · rcases List.mem_cons.1 h with h | h
      · exact .inl h
      · exact .inr (List.mem_cons_of_mem _ h)
    · rcases List.mem_cons.1 h with h | h
      · exact .inr (h ▸ List.mem_cons_self)
      · rcases ih h with h | h
        · exact .inl h
        · exact .inr (List.mem_cons_of_mem _ h)

theorem nodup_keys_putEntry (key : κ) (value : α) {entries : List (κ × α)}
    (h : (entries.map (·.1)).Nodup) : ((putEntry key value entries).map (·.1)).Nodup := by
  induction entries with
  | nil => simp [putEntry]
  | cons head rest ih =>
    obtain ⟨k, v⟩ := head
    obtain ⟨first, later⟩ := List.nodup_cons.1 h
    rw [putEntry]
    split
    next eq => exact eq ▸ List.nodup_cons.2 ⟨first, later⟩
    next ne =>
      refine List.nodup_cons.2 ⟨fun mem => ?_, ih later⟩
      rcases mem_keys_putEntry mem with eq | mem
      · exact ne eq
      · exact first mem

/-- The value under a key. -/
def find? (m : Keyed κ α) (key : κ) : Option α := lookup key m.entries

/-- The key has a value. -/
def contains (m : Keyed κ α) (key : κ) : Bool := (m.find? key).isSome

/-- Put a value under a key, in place of the one it had. -/
def put (m : Keyed κ α) (key : κ) (value : α) : Keyed κ α :=
  ⟨putEntry key value m.entries, nodup_keys_putEntry key value m.distinct⟩

/-- Remove a key. -/
def erase (m : Keyed κ α) (key : κ) : Keyed κ α :=
  ⟨m.entries.filter fun e => e.1 ≠ key,
    m.distinct.sublist (List.filter_sublist.map _)⟩

/-- Number of keys. -/
def size (m : Keyed κ α) : Nat := m.entries.length

/-- The values in the order of their keys. -/
def values (m : Keyed κ α) : List α := m.entries.map (·.2)

theorem lookup_putEntry_self (key : κ) (value : α) (entries : List (κ × α)) :
    lookup key (putEntry key value entries) = some value := by
  induction entries with
  | nil => simp [putEntry, lookup]
  | cons head rest ih =>
    obtain ⟨k, v⟩ := head
    rw [putEntry]
    split
    · simp [lookup]
    next ne => simp [lookup, ne, ih]

theorem lookup_putEntry_of_ne {key other : κ} (ne : other ≠ key) (value : α)
    (entries : List (κ × α)) : lookup other (putEntry key value entries) = lookup other entries := by
  induction entries with
  | nil => simp [putEntry, lookup, ne.symm]
  | cons head rest ih =>
    obtain ⟨k, v⟩ := head
    rw [putEntry]
    split
    next eq =>
      subst eq
      simp [lookup, ne.symm]
    · simp [lookup, ih]

theorem lookup_filter_self (key : κ) (entries : List (κ × α)) :
    lookup key (entries.filter fun e => e.1 ≠ key) = none := by
  induction entries with
  | nil => rfl
  | cons head rest ih =>
    obtain ⟨k, v⟩ := head
    by_cases eq : k = key <;> simp_all [lookup]

theorem lookup_filter_of_ne {key other : κ} (ne : other ≠ key) (entries : List (κ × α)) :
    lookup other (entries.filter fun e => e.1 ≠ key) = lookup other entries := by
  induction entries with
  | nil => rfl
  | cons head rest ih =>
    obtain ⟨k, v⟩ := head
    by_cases eq : k = key
    · subst eq
      simpa [lookup, ne.symm] using ih
    · simp_all [lookup]

@[simp]
theorem find?_empty (key : κ) : (empty : Keyed κ α).find? key = none := rfl

@[simp]
theorem find?_put_self (m : Keyed κ α) (key : κ) (value : α) :
    (m.put key value).find? key = some value :=
  lookup_putEntry_self key value m.entries

theorem find?_put_of_ne (m : Keyed κ α) {key other : κ} (ne : other ≠ key) (value : α) :
    (m.put key value).find? other = m.find? other :=
  lookup_putEntry_of_ne ne value m.entries

@[simp]
theorem find?_erase_self (m : Keyed κ α) (key : κ) : (m.erase key).find? key = none :=
  lookup_filter_self key m.entries

theorem find?_erase_of_ne (m : Keyed κ α) {key other : κ} (ne : other ≠ key) :
    (m.erase key).find? other = m.find? other :=
  lookup_filter_of_ne ne m.entries

theorem mem_of_lookup {key : κ} {value : α} {entries : List (κ × α)}
    (found : lookup key entries = some value) : (key, value) ∈ entries := by
  induction entries with
  | nil => cases found
  | cons head rest ih =>
    obtain ⟨k, v⟩ := head
    rw [lookup] at found
    split at found
    next own =>
      cases found
      exact own ▸ List.mem_cons_self
    next => exact List.mem_cons_of_mem _ (ih found)

theorem lookup_of_mem {key : κ} {value : α} {entries : List (κ × α)}
    (distinct : (entries.map (·.1)).Nodup) (mem : (key, value) ∈ entries) :
    lookup key entries = some value := by
  induction entries with
  | nil => cases mem
  | cons head rest ih =>
    obtain ⟨k, v⟩ := head
    obtain ⟨first, later⟩ := List.nodup_cons.1 distinct
    rcases List.mem_cons.1 mem with eq | mem
    · cases eq
      simp [lookup]
    · have other : k ≠ key := by
        rintro rfl
        exact first (List.mem_map.2 ⟨_, mem, rfl⟩)
      simp [lookup, other, ih later mem]

theorem mem_entries_iff {m : Keyed κ α} {key : κ} {value : α} :
    (key, value) ∈ m.entries ↔ m.find? key = some value :=
  ⟨lookup_of_mem m.distinct, mem_of_lookup⟩

end Keyed

end JobNode
