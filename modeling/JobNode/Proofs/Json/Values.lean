import JobNode.Proofs.Json.Records

/-!
# Values read back

A document stands for a value if it is not nested too deep.  A value comes back from its own document,
and from any other document of its fields, if its objects are maps: each has its fields in increasing
order of their names, as all objects have that are put together field by field.

* `depth`, `Ordered`: how deep a value is nested, and that its objects are maps.
* `Returns`: a document stands for a value as long as it may be nested that deep.
* `returns_of_reordered`: every document of an ordered value does, by induction on the value.
* `Recovers.value`: the decoder of values gets exact, ordered values back.
* `ordered_of_value?`: whatever is read is ordered.
-/

namespace JobNode.Json

mutual

/-- How deep a value is nested. -/
def depth : Json → Nat
  | null => 0
  | bool _ => 0
  | number _ => 0
  | string _ => 0
  | array items => itemsDepth items + 1
  | object fields => fieldsDepth fields + 1

/-- How deep the deepest of some values is nested. -/
def itemsDepth : List Json → Nat
  | [] => 0
  | v :: rest => max v.depth (itemsDepth rest)

/-- How deep the deepest of the values of fields is nested. -/
def fieldsDepth : List (String × Json) → Nat
  | [] => 0
  | (_, v) :: rest => max v.depth (fieldsDepth rest)

end

mutual

/-- All objects in the value have their fields in increasing order of their names. -/
def Ordered : Json → Prop
  | null => True
  | bool _ => True
  | number _ => True
  | string _ => True
  | array items => OrderedItems items
  | object fields => KeysIncrease fields ∧ OrderedFields fields

/-- All values of a list are ordered. -/
def OrderedItems : List Json → Prop
  | [] => True
  | v :: rest => v.Ordered ∧ OrderedItems rest

/-- The values of all fields are ordered. -/
def OrderedFields : List (String × Json) → Prop
  | [] => True
  | (_, v) :: rest => v.Ordered ∧ OrderedFields rest

end

variable {d : Nat} {v w : Json} {vs ws : List Json} {fs gs : List (String × Json)}

theorem fieldsDepth_le_iff : fieldsDepth fs ≤ d ↔ ∀ f ∈ fs, f.2.depth ≤ d := by
  induction fs with
  | nil => simp [fieldsDepth]
  | cons f fs ih => rw [fieldsDepth, Nat.max_le, ih, List.forall_mem_cons]

theorem orderedFields_iff : OrderedFields fs ↔ ∀ f ∈ fs, f.2.Ordered := by
  induction fs with
  | nil => simp [OrderedFields]
  | cons f fs ih => simp [OrderedFields, ih]

/-! ## Documents of values -/

/-- The document of the second value stands for the first, unless it is nested too deep. -/
def Returns (v w : Json) : Prop :=
  ∀ d, w.toTree.value? d = if v.depth ≤ d then some v else none

theorem Returns.some_of_le (returns : Returns v w) (shallow : v.depth ≤ d) :
    w.toTree.value? d = some v := by
  rw [returns d, if_pos shallow]

theorem Returns.none_of_lt (returns : Returns v w) (deep : d < v.depth) :
    w.toTree.value? d = none := by
  rw [returns d, if_neg (Nat.not_le.2 deep)]

/-! ### Arrays -/

theorem items?_treesOfItems (same : ItemsReordered vs ws)
    (each : ∀ v ∈ vs, ∀ w, Reordered v w → Returns v w) :
    Tree.items? d (treesOfItems ws) = if itemsDepth vs ≤ d then some vs else none := by
  induction vs generalizing ws with
  | nil =>
    cases same
    rfl
  | cons v vs ih =>
    cases same with
    | @cons _ w _ ws first rest =>
      have head := each v List.mem_cons_self w first d
      have tail := ih rest fun v mem => each v (List.mem_cons_of_mem _ mem)
      rw [treesOfItems, Tree.items?, head, tail, itemsDepth]
      simp only [Nat.max_le]
      by_cases here : v.depth ≤ d <;> by_cases later : itemsDepth vs ≤ d <;> simp [here, later]

theorem returns_array (same : ItemsReordered vs ws)
    (each : ∀ v ∈ vs, ∀ w, Reordered v w → Returns v w) : Returns (array vs) (array ws) := by
  intro d
  rw [toTree, Tree.value?.eq_def]
  cases d with
  | zero => simp [depth]
  | succ d =>
    simp only [items?_treesOfItems same each, depth, Nat.add_le_add_iff_right]
    split <;> rfl

/-! ### Objects -/

/-- The fields of a map are put together as the entries of a dictionary are. -/
theorem fields?_eq_entries (out : Dict Json) (ts : List (Option String × Tree)) :
    Tree.fields? d out.entries ts =
      (Decode.entries (Decode.value d) out ts).toOption.map Dict.entries := by
  induction ts generalizing out with
  | nil => rfl
  | cons t ts ih =>
    obtain ⟨name?, t⟩ := t
    rw [Tree.fields?.eq_def]
    cases name? with
    | none => rfl
    | some name =>
      cases found : t.value? d with
      | none => simp [Decode.entries, Decode.value, found, bind, Except.bind, Except.toOption]
      | some v =>
        simp only [Decode.entries, Decode.value, found, bind, Except.bind]
        exact ih (out.insert name v)

/-- One value that is nested too deep spoils all entries. -/
theorem entries_of_too_deep {out : Dict Json} {g : String × Json} (mem : g ∈ gs)
    (fails : g.2.toTree.value? d = none) :
    Decode.entries (Decode.value d) out (treesOfFields gs) = .error .malformed := by
  induction gs generalizing out with
  | nil => cases mem
  | cons first gs ih =>
    obtain ⟨name, w⟩ := first
    rw [treesOfFields, Decode.entries, Decode.value]
    cases found : w.toTree.value? d with
    | none => rfl
    | some v =>
      rcases List.mem_cons.1 mem with rfl | mem
      · rw [fails] at found
        cases found
      · exact ih mem

theorem returns_object (increasing : KeysIncrease fs) (same : FieldsReordered fs gs)
    (each : ∀ f ∈ fs, ∀ w, Reordered f.2 w → Returns f.2 w) : Returns (object fs) (object gs) := by
  intro d
  rw [toTree, Tree.value?.eq_def]
  cases d with
  | zero => simp [depth]
  | succ d =>
    simp only [depth, Nat.add_le_add_iff_right]
    by_cases shallow : fieldsDepth fs ≤ d
    · have fields : FieldsReordered
          ((⟨fs, increasing⟩ : Dict Json).entries.map fun e => (e.1, id e.2)) gs := by
        simpa using same
      have read : Decode.entries (Decode.value d) .empty (treesOfFields gs) =
          .ok ⟨fs, increasing⟩ :=
        entries_of_reordered fields fun key v found w eq => by
          have mem : (key, v) ∈ fs := Dict.mem_of_lookupEntry found
          rw [Decode.value,
            (each _ mem w eq).some_of_le (fieldsDepth_le_iff.1 shallow _ mem)]
      have built := fields?_eq_entries (d := d) .empty (treesOfFields gs)
      rw [read] at built
      rw [if_pos shallow]
      exact congrArg (Option.map object) built
    · obtain ⟨f, mem, deep⟩ : ∃ f ∈ fs, d < f.2.depth := by
        simpa [fieldsDepth_le_iff] using shallow
      obtain ⟨w, there, eq⟩ := same.exists_mem mem
      have read : Decode.entries (Decode.value d) .empty (treesOfFields gs) = .error .malformed :=
        entries_of_too_deep there ((each f mem w eq).none_of_lt deep)
      have built := fields?_eq_entries (d := d) .empty (treesOfFields gs)
      rw [read] at built
      rw [if_neg shallow]
      exact congrArg (Option.map object) built

/-! ### All values -/

mutual

theorem returns_of_reordered : (v : Json) → v.Ordered → ∀ w, Reordered v w → Returns v w
  | .null, _, _, .null => fun _ => rfl
  | .bool _, _, _, .bool _ => fun _ => rfl
  | .number _, _, _, .number _ => fun _ => rfl
  | .string _, _, _, .string _ => fun _ => rfl
  | .array vs, ordered, _, .array items => returns_array items (itemsReturn vs ordered)
  | .object fs, ordered, _, .object fields =>
    returns_object ordered.1 fields (fieldsReturn fs ordered.2)

theorem itemsReturn : (vs : List Json) → OrderedItems vs → ∀ v ∈ vs, ∀ w, Reordered v w →
    Returns v w
  | first :: vs, ordered, v, mem => by
    rcases List.mem_cons.1 mem with own | later
    · rw [own]
      exact returns_of_reordered first ordered.1
    · exact itemsReturn vs ordered.2 v later

theorem fieldsReturn : (fs : List (String × Json)) → OrderedFields fs → ∀ f ∈ fs, ∀ w,
    Reordered f.2 w → Returns f.2 w
  | (_, first) :: fs, ordered, f, mem => by
    rcases List.mem_cons.1 mem with own | later
    · rw [own]
      exact returns_of_reordered first ordered.1
    · exact fieldsReturn fs ordered.2 f later

end

/-- An exact, ordered value comes back if it may be nested as deep as it is. -/
theorem Recovers.value (exact : Exact v) (ordered : v.Ordered) (shallow : v.depth ≤ d) :
    Recovers id (Decode.value d) v where
  exact := exact
  decode {w} same := by
    rw [Decode.value, (returns_of_reordered v ordered w same).some_of_le shallow]

/-- An object is as deep as its deepest field, in whatever order its fields were given. -/
theorem depth_ofFields (distinct : (fs.map (·.1)).Nodup) :
    (ofFields fs).depth = fieldsDepth fs + 1 := by
  have same (d : Nat) : fieldsDepth (Dict.ofList fs).entries ≤ d ↔ fieldsDepth fs ≤ d := by
    simp only [fieldsDepth_le_iff, Dict.mem_entries_ofList distinct]
  rw [ofFields_eq, depth]
  exact congrArg (· + 1)
    (Nat.le_antisymm ((same _).2 (Nat.le_refl _)) ((same _).1 (Nat.le_refl _)))

/-! ## What is read -/

theorem orderedFields_insertEntry {name : String} (first : v.Ordered) (rest : OrderedFields fs) :
    OrderedFields (Dict.insertEntry name v fs) := by
  refine orderedFields_iff.2 fun f mem => ?_
  rcases Dict.mem_insertEntry mem with rfl | mem
  · exact first
  · exact orderedFields_iff.1 rest f mem

mutual

/-- Whatever a document stands for, its objects are maps. -/
theorem ordered_of_value? : (t : Tree) → ∀ {d v}, t.value? d = some v → v.Ordered
  | .null, _, _, read => by
    cases read
    trivial
  | .bool _, _, _, read => by
    cases read
    trivial
  | .number n?, _, _, read => by
    obtain ⟨n, -, rfl⟩ := Option.map_eq_some_iff.1 read
    trivial
  | .string s?, _, _, read => by
    obtain ⟨s, -, rfl⟩ := Option.map_eq_some_iff.1 read
    trivial
  | .array ts, d, _, read => by
    cases d with
    | zero => cases read
    | succ d =>
      obtain ⟨vs, items, rfl⟩ := Option.map_eq_some_iff.1 read
      exact orderedItems_of_items? ts items
  | .object ts, d, _, read => by
    cases d with
    | zero => cases read
    | succ d =>
      obtain ⟨fs, fields, rfl⟩ := Option.map_eq_some_iff.1 read
      exact ordered_of_fields? ts .nil trivial fields

theorem orderedItems_of_items? : (ts : List Tree) → ∀ {d vs}, Tree.items? d ts = some vs →
    OrderedItems vs
  | [], _, _, read => by
    cases read
    trivial
  | t :: ts, d, _, read => by
    rw [Tree.items?] at read
    split at read
    next v vs first rest =>
      cases read
      exact ⟨ordered_of_value? t first, orderedItems_of_items? ts rest⟩
    · cases read

theorem ordered_of_fields? : (ts : List (Option String × Tree)) → ∀ {d out fs},
    KeysIncrease out → OrderedFields out → Tree.fields? d out ts = some fs →
    KeysIncrease fs ∧ OrderedFields fs
  | [], _, _, _, increasing, ordered, read => by
    cases read
    exact ⟨increasing, ordered⟩
  | (name?, t) :: ts, d, out, _, increasing, ordered, read => by
    rw [Tree.fields?.eq_def] at read
    simp only at read
    split at read
    next name v first =>
      exact ordered_of_fields? ts (Dict.keysIncrease_insertEntry name v increasing)
        (orderedFields_insertEntry (ordered_of_value? t first) ordered) read
    · cases read

end

end JobNode.Json
