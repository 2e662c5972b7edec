/-!
# Dictionaries

Finite maps from text keys, kept as pairs in increasing order of the key.  The order is part of the
type, so two dictionaries that answer every lookup alike are equal (`Dict.ext_get?`), and a
dictionary is written in one order only.

* `get?_insert_self`, `get?_insert_of_ne`: an insertion changes the answer for its own key only;
* `get?_ofList`: of two pairs with one key the later one counts.
-/

namespace JobNode

/-- The keys of the pairs increase. -/
def KeysIncrease {α : Type} (entries : List (String × α)) : Prop :=
  entries.Pairwise fun a b => a.1 < b.1

/-- A finite map from text keys. -/
structure Dict (α : Type) where
  /-- The pairs, in increasing order of the key. -/
  entries : List (String × α)
  increasing : KeysIncrease entries

namespace Dict

variable {α β : Type}

/-- The dictionary without keys. -/
def empty : Dict α := ⟨[], .nil⟩

instance : Inhabited (Dict α) := ⟨empty⟩

instance [DecidableEq α] : DecidableEq (Dict α) := fun a b =>
  match decEq a.entries b.entries with
  | isTrue h => isTrue (by cases a; cases b; cases h; rfl)
  | isFalse h => isFalse fun e => h (by rw [e])

/-- Put a pair into its place, over any pair with the same key. -/
def insertEntry (key : String) (value : α) : List (String × α) → List (String × α)
  | [] => [(key, value)]
  | (k, v) :: rest =>
    if key < k then (key, value) :: (k, v) :: rest
    else if key = k then (key, value) :: rest
    else (k, v) :: insertEntry key value rest

/-- The value of the first pair with the key. -/
def lookupEntry (key : String) : List (String × α) → Option α
  | [] => none
  | (k, v) :: rest => if k = key then some v else lookupEntry key rest

theorem mem_insertEntry {key : String} {value : α} {entries : List (String × α)}
    {e : String × α} (h : e ∈ insertEntry key value entries) :
    e = (key, value) ∨ e ∈ entries := by
  induction entries with
  | nil => exact .inl (by simpa [insertEntry] using h)
  | cons head rest ih =>
    obtain ⟨k, v⟩ := head
    rw [insertEntry] at h
    split at h
    · exact (List.mem_cons.1 h)
    · split at h
      · rcases List.mem_cons.1 h with h | h
        · exact .inl h
        · exact .inr (List.mem_cons_of_mem _ h)
      · rcases List.mem_cons.1 h with h | h
        · exact .inr (h ▸ List.mem_cons_self)
        · rcases ih h with h | h
          · exact .inl h
          · exact .inr (List.mem_cons_of_mem _ h)

theorem keysIncrease_insertEntry (key : String) (value : α) {entries : List (String × α)}
    (h : KeysIncrease entries) : KeysIncrease (insertEntry key value entries) := by
  induction entries with
  | nil => exact .cons (by simp) .nil
  | cons head rest ih =>
    obtain ⟨k, v⟩ := head
    obtain ⟨first, later⟩ := List.pairwise_cons.1 h
    rw [insertEntry]
    split
    next lt =>
      refine .cons (fun e he => ?_) h
      rcases List.mem_cons.1 he with rfl | he
      · exact lt
      · exact String.lt_trans lt (first e he)
    next nlt =>
      split
      next eq =>
        subst eq
        exact .cons first later
      next ne =>
        refine .cons (fun e he => ?_) (ih later)
        rcases mem_insertEntry he with rfl | he
        · rcases Std.lt_trichotomy key k with h | h | h
          · exact absurd h nlt
          · exact absurd h ne
          · exact h
        · exact first e he

/-- Put a value under a key, in place of the value it had. -/
def insert (key : String) (value : α) (d : Dict α) : Dict α :=
  ⟨insertEntry key value d.entries, keysIncrease_insertEntry key value d.increasing⟩

/-- The value under a key. -/
def get? (d : Dict α) (key : String) : Option α :=
  lookupEntry key d.entries

/-- The key has a value. -/
def contains (d : Dict α) (key : String) : Bool :=
  (d.get? key).isSome

/-- Number of keys. -/
def size (d : Dict α) : Nat :=
  d.entries.length

/-- The keys in increasing order. -/
def keys (d : Dict α) : List String :=
  d.entries.map (·.1)

/-- The pairs in increasing order of the key. -/
def toList (d : Dict α) : List (String × α) :=
  d.entries

/-- The dictionary of a list of pairs; of two pairs with one key the later one counts. -/
def ofList (pairs : List (String × α)) : Dict α :=
  pairs.foldl (fun d p => d.insert p.1 p.2) empty

theorem lookupEntry_insertEntry_self (key : String) (value : α) (entries : List (String × α)) :
    lookupEntry key (insertEntry key value entries) = some value := by
  induction entries with
  | nil => simp [insertEntry, lookupEntry]
  | cons head rest ih =>
    obtain ⟨k, v⟩ := head
    rw [insertEntry]
    split
    · simp [lookupEntry]
    · split
      · simp [lookupEntry]
      next ne => simp [lookupEntry, Ne.symm ne, ih]

theorem lookupEntry_insertEntry_of_ne {key other : String} (ne : other ≠ key) (value : α)
    (entries : List (String × α)) :
    lookupEntry other (insertEntry key value entries) = lookupEntry other entries := by
  induction entries with
  | nil => simp [insertEntry, lookupEntry, ne.symm]
  | cons head rest ih =>
    obtain ⟨k, v⟩ := head
    rw [insertEntry]
    split
    · simp [lookupEntry, ne.symm]
    · split
      next eq =>
        subst eq
        simp [lookupEntry, ne.symm]
      · simp [lookupEntry, ih]

@[simp]
theorem get?_empty (key : String) : (empty : Dict α).get? key = none := rfl

@[simp]
theorem get?_insert_self (d : Dict α) (key : String) (value : α) :
    (d.insert key value).get? key = some value :=
  lookupEntry_insertEntry_self key value d.entries

theorem get?_insert_of_ne (d : Dict α) {key other : String} (ne : other ≠ key) (value : α) :
    (d.insert key value).get? other = d.get? other :=
  lookupEntry_insertEntry_of_ne ne value d.entries

theorem contains_insert {d : Dict α} {name : String} (there : d.contains name) (key : String)
    (value : α) : (d.insert key value).contains name := by
  rw [contains] at there ⊢
  by_cases own : name = key
  · subst own
    rw [get?_insert_self]
    rfl
  · rw [get?_insert_of_ne d own]
    exact there

theorem lookupEntry_eq_none_of_lt {key : String} {entries : List (String × α)}
    (h : ∀ e ∈ entries, key < e.1) : lookupEntry key entries = none := by
  induction entries with
  | nil => rfl
  | cons head rest ih =>
    obtain ⟨k, v⟩ := head
    have lt : key < k := h (k, v) List.mem_cons_self
    have ne : k ≠ key := fun e => String.lt_irrefl key (e ▸ lt)
    simp [lookupEntry, ne, ih fun e he => h e (List.mem_cons_of_mem _ he)]

theorem entries_ext {a b : List (String × α)} (ha : KeysIncrease a) (hb : KeysIncrease b)
    (same : ∀ key, lookupEntry key a = lookupEntry key b) : a = b := by
  induction a generalizing b with
  | nil =>
    cases b with
    | nil => rfl
    | cons head rest => simpa [lookupEntry] using same head.1
  | cons x xs ih =>
    cases b with
    | nil => simpa [lookupEntry] using same x.1
    | cons y ys =>
      obtain ⟨hx, hxs⟩ := List.pairwise_cons.1 ha
      obtain ⟨hy, hys⟩ := List.pairwise_cons.1 hb
      have keys : x.1 = y.1 := by
        rcases Std.lt_trichotomy x.1 y.1 with lt | eq | gt
        · have absent : lookupEntry x.1 (y :: ys) = none :=
            lookupEntry_eq_none_of_lt fun e he => by
              rcases List.mem_cons.1 he with rfl | he
              · exact lt
              · exact String.lt_trans lt (hy e he)
          have found : lookupEntry x.1 (x :: xs) = some x.2 := by simp [lookupEntry]
          rw [same, absent] at found
          cases found
        · exact eq
        · have absent : lookupEntry y.1 (x :: xs) = none :=
            lookupEntry_eq_none_of_lt fun e he => by
              rcases List.mem_cons.1 he with rfl | he
              · exact gt
              · exact String.lt_trans gt (hx e he)
          have found : lookupEntry y.1 (y :: ys) = some y.2 := by simp [lookupEntry]
          rw [← same, absent] at found
          cases found
      have head : x = y := by
        have := same x.1
        simp [lookupEntry, keys] at this
        exact Prod.ext keys this
      subst head
      congr 1
      refine ih hxs hys fun key => ?_
      by_cases h : x.1 = key
      · subst h
        rw [lookupEntry_eq_none_of_lt hx, lookupEntry_eq_none_of_lt hy]
      · simpa [lookupEntry, h] using same key

/-- Dictionaries that answer every lookup alike are equal. -/
theorem ext_get? {a b : Dict α} (same : ∀ key, a.get? key = b.get? key) : a = b := by
  obtain ⟨as, ha⟩ := a
  obtain ⟨bs, hb⟩ := b
  cases entries_ext ha hb same
  rfl

/-! ## Dictionaries of pairs -/

theorem lookupEntry_append (key : String) (front back : List (String × α)) :
    lookupEntry key (front ++ back) = (lookupEntry key front).or (lookupEntry key back) := by
  induction front with
  | nil => rfl
  | cons head rest ih =>
    obtain ⟨k, v⟩ := head
    by_cases own : k = key <;> simp [lookupEntry, own, ih]

theorem get?_foldl_insert (pairs : List (String × α)) (d : Dict α) (key : String) :
    (pairs.foldl (fun d p => d.insert p.1 p.2) d).get? key =
      (lookupEntry key pairs.reverse).or (d.get? key) := by
  induction pairs generalizing d with
  | nil => rfl
  | cons head rest ih =>
    obtain ⟨k, v⟩ := head
    rw [List.foldl_cons, ih, List.reverse_cons, lookupEntry_append, Option.or_assoc]
    by_cases own : k = key
    · subst own
      simp [lookupEntry]
    · simp [lookupEntry, own, get?_insert_of_ne d (Ne.symm own)]

/-- Of two pairs with one key the later one counts. -/
theorem get?_ofList (pairs : List (String × α)) (key : String) :
    (ofList pairs).get? key = lookupEntry key pairs.reverse := by
  rw [ofList, get?_foldl_insert, get?_empty, Option.or_none]

theorem mem_of_lookupEntry {key : String} {value : α} {entries : List (String × α)}
    (found : lookupEntry key entries = some value) : (key, value) ∈ entries := by
  induction entries with
  | nil => cases found
  | cons head rest ih =>
    obtain ⟨k, v⟩ := head
    rw [lookupEntry] at found
    split at found
    next own =>
      cases found
      exact own ▸ List.mem_cons_self
    next => exact List.mem_cons_of_mem _ (ih found)

theorem lookupEntry_of_mem {key : String} {value : α} {entries : List (String × α)}
    (distinct : (entries.map (·.1)).Nodup) (mem : (key, value) ∈ entries) :
    lookupEntry key entries = some value := by
  induction entries with
  | nil => cases mem
  | cons head rest ih =>
    obtain ⟨k, v⟩ := head
    obtain ⟨first, later⟩ := List.nodup_cons.1 distinct
    rcases List.mem_cons.1 mem with eq | mem
    · cases eq
      simp [lookupEntry]
    · have other : k ≠ key := by
        rintro rfl
        exact first (List.mem_map.2 ⟨_, mem, rfl⟩)
      simp [lookupEntry, other, ih later mem]

theorem nodup_keys (d : Dict α) : (d.entries.map (·.1)).Nodup := by
  rw [List.nodup_iff_pairwise_ne, List.pairwise_map]
  refine d.increasing.imp fun {a b} lt eq => ?_
  exact String.lt_irrefl _ (eq ▸ lt)

theorem mem_entries_iff {d : Dict α} {key : String} {value : α} :
    (key, value) ∈ d.entries ↔ d.get? key = some value :=
  ⟨lookupEntry_of_mem d.nodup_keys, mem_of_lookupEntry⟩

/-- With distinct keys every pair counts. -/
theorem mem_entries_ofList {pairs : List (String × α)} (distinct : (pairs.map (·.1)).Nodup)
    {p : String × α} : p ∈ (ofList pairs).entries ↔ p ∈ pairs := by
  have reversed : (pairs.reverse.map (·.1)).Nodup := by
    rw [List.map_reverse]
    exact (List.reverse_perm _).nodup_iff.2 distinct
  obtain ⟨key, value⟩ := p
  have back : (key, value) ∈ pairs ↔ (key, value) ∈ pairs.reverse := List.mem_reverse.symm
  rw [mem_entries_iff, get?_ofList, back]
  exact ⟨mem_of_lookupEntry, lookupEntry_of_mem reversed⟩

theorem entries_ofList_perm {pairs : List (String × α)} (distinct : (pairs.map (·.1)).Nodup) :
    (ofList pairs).entries.Perm pairs := by
  have once {l : List (String × α)} (keys : (l.map (·.1)).Nodup) : l.Nodup := by
    rw [List.nodup_iff_pairwise_ne, List.pairwise_map] at keys
    exact keys.imp fun ne eq => ne (congrArg _ eq)
  exact (List.perm_ext_iff_of_nodup (once (nodup_keys _)) (once distinct)).2
    fun _ => mem_entries_ofList distinct

end Dict

end JobNode
