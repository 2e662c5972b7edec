import JobNode.Json.Decode
import JobNode.Proofs.Json.Reading

/-!
# Records read back

An object has its fields in no particular order: a reader finds them by name.  `Reordered` says that
two values are the same up to the order of fields, at any depth.  A pair of an encoder and a decoder
`Yields` what is kept of every value if the decoder reads just that from every such reordering of what
the encoder made of it, and is `Faithful` if this is the value itself.  Such pairs are put together
from strings, lists, dictionaries and records, and what they write can be read from the printed text.

* `Recovers`: the same for one value, where a decoder does not get every value back;
* `Yields.decodeText`: the printed text is decoded to what is kept of the value it was made of;
* `Yields.list`, `Faithful.dict`: lists and dictionaries are read part by part;
* `record_of_reordered`: the fields of a record are found by name;
* `Yields.record`: of a record is kept what is kept of its parts, each found under its name.
-/

namespace JobNode.Json

/-! ## The order of fields -/

mutual

/-- The same value up to the order of the fields of its objects. -/
inductive Reordered : Json → Json → Prop
  | null : Reordered null null
  | bool (b : Bool) : Reordered (bool b) (bool b)
  | number (n : Number) : Reordered (number n) (number n)
  | string (s : String) : Reordered (string s) (string s)
  | array {vs ws : List Json} (items : ItemsReordered vs ws) : Reordered (array vs) (array ws)
  | object {fs gs : List (String × Json)} (fields : FieldsReordered fs gs) :
    Reordered (object fs) (object gs)

/-- The same values one by one. -/
inductive ItemsReordered : List Json → List Json → Prop
  | nil : ItemsReordered [] []
  | cons {v w : Json} {vs ws : List Json} (first : Reordered v w) (rest : ItemsReordered vs ws) :
    ItemsReordered (v :: vs) (w :: ws)

/-- The same fields in some order: the first stands anywhere among the others. -/
inductive FieldsReordered : List (String × Json) → List (String × Json) → Prop
  | nil : FieldsReordered [] []
  | cons {name : String} {v w : Json} {fs before after : List (String × Json)}
    (first : Reordered v w) (rest : FieldsReordered fs (before ++ after)) :
    FieldsReordered ((name, v) :: fs) (before ++ (name, w) :: after)

end

mutual

theorem Reordered.refl : (v : Json) → Reordered v v
  | .null => .null
  | .bool b => .bool b
  | .number n => .number n
  | .string s => .string s
  | .array vs => .array (ItemsReordered.refl vs)
  | .object fs => .object (FieldsReordered.refl fs)

theorem ItemsReordered.refl : (vs : List Json) → ItemsReordered vs vs
  | [] => .nil
  | v :: vs => .cons (Reordered.refl v) (ItemsReordered.refl vs)

theorem FieldsReordered.refl : (fs : List (String × Json)) → FieldsReordered fs fs
  | [] => .nil
  | (name, v) :: fs =>
    @FieldsReordered.cons name v v fs [] fs (Reordered.refl v) (FieldsReordered.refl fs)

end

theorem exactFields_iff {fs : List (String × Json)} : ExactFields fs ↔ ∀ f ∈ fs, Exact f.2 := by
  induction fs with
  | nil => simp [ExactFields]
  | cons f fs ih => simp [ExactFields, ih]

theorem exactItems_iff {vs : List Json} : ExactItems vs ↔ ∀ v ∈ vs, Exact v := by
  induction vs with
  | nil => simp [ExactItems]
  | cons v vs ih => simp [ExactItems, ih]

mutual

theorem Reordered.exact {v w : Json} : Reordered v w → Exact v → Exact w
  | .null, exact => exact
  | .bool _, exact => exact
  | .number _, exact => exact
  | .string _, exact => exact
  | .array items, exact => items.exact exact
  | .object fields, exact => fields.exact exact

theorem ItemsReordered.exact {vs ws : List Json} : ItemsReordered vs ws → ExactItems vs → ExactItems ws
  | .nil, exact => exact
  | .cons first rest, exact => ⟨first.exact exact.1, rest.exact exact.2⟩

theorem FieldsReordered.exact {fs gs : List (String × Json)} :
    FieldsReordered fs gs → ExactFields fs → ExactFields gs
  | .nil, exact => exact
  | .cons first rest, exact => by
    have head := first.exact exact.1
    have tail := exactFields_iff.1 (rest.exact exact.2)
    refine exactFields_iff.2 fun f mem => ?_
    rcases List.mem_append.1 mem with mem | mem
    · exact tail f (List.mem_append_left _ mem)
    · rcases List.mem_cons.1 mem with rfl | mem
      · exact head
      · exact tail f (List.mem_append_right _ mem)

end

namespace FieldsReordered

variable {fs gs : List (String × Json)}

/-- No field is lost. -/
theorem exists_mem (same : FieldsReordered fs gs) {f : String × Json} (mem : f ∈ fs) :
    ∃ w, (f.1, w) ∈ gs ∧ Reordered f.2 w := by
  induction fs generalizing gs with
  | nil => cases mem
  | cons head fs ih =>
    cases same with
    | @cons name v w _ before after first rest =>
      rcases List.mem_cons.1 mem with rfl | mem
      · exact ⟨w, by simp, first⟩
      · obtain ⟨u, found, eq⟩ := ih rest mem
        refine ⟨u, ?_, eq⟩
        rcases List.mem_append.1 found with found | found
        · exact List.mem_append_left _ found
        · exact List.mem_append_right _ (List.mem_cons_of_mem _ found)

/-- No field is made up. -/
theorem exists_of_mem (same : FieldsReordered fs gs) {g : String × Json} (mem : g ∈ gs) :
    ∃ v, (g.1, v) ∈ fs ∧ Reordered v g.2 := by
  induction fs generalizing gs with
  | nil =>
    cases same
    cases mem
  | cons head fs ih =>
    cases same with
    | @cons name v w _ before after first rest =>
      have later (mem : g ∈ before ++ after) :
          ∃ u, (g.1, u) ∈ (name, v) :: fs ∧ Reordered u g.2 := by
        obtain ⟨u, found, eq⟩ := ih rest mem
        exact ⟨u, List.mem_cons_of_mem _ found, eq⟩
      rcases List.mem_append.1 mem with mem | mem
      · exact later (List.mem_append_left _ mem)
      · rcases List.mem_cons.1 mem with rfl | mem
        · exact ⟨v, List.mem_cons_self, first⟩
        · exact later (List.mem_append_right _ mem)

/-- No field is doubled. -/
theorem names_perm (same : FieldsReordered fs gs) : (gs.map (·.1)).Perm (fs.map (·.1)) := by
  induction fs generalizing gs with
  | nil =>
    cases same
    exact .nil
  | cons head fs ih =>
    cases same with
    | @cons name v w _ before after first rest =>
      have shorter := ih rest
      rw [List.map_append] at shorter
      rw [List.map_append, List.map_cons, List.map_cons]
      exact List.perm_middle.trans (shorter.cons name)

theorem perm {hs : List (String × Json)} (same : FieldsReordered fs gs) (order : gs.Perm hs) :
    FieldsReordered fs hs := by
  induction fs generalizing gs hs with
  | nil =>
    cases same
    cases order.nil_eq
    exact .nil
  | cons head fs ih =>
    cases same with
    | @cons name v w _ before after first rest =>
      obtain ⟨front, back, rfl⟩ := List.append_of_mem (order.subset (by simp : (name, w) ∈ _))
      have others := (List.perm_middle.symm.trans (order.trans List.perm_middle)).cons_inv
      exact .cons first (ih rest others)

end FieldsReordered

/-! ## Pairs of an encoder and a decoder -/

/-- From what the encoder made of a value the decoder reads what is kept of it, in whatever order its
fields come. -/
structure Yields {α : Type} (encode : α → Json) (decode : Decoder α) (kept : α → α) : Prop where
  exact : ∀ a, Exact (encode a)
  decode : ∀ {a : α} {v : Json}, Reordered (encode a) v → decode v.toTree = .ok (kept a)

/-- The decoder gets back what the encoder made. -/
def Faithful {α : Type} (encode : α → Json) (decode : Decoder α) : Prop := Yields encode decode id

/-- The decoder gets this value back, in whatever order the fields come. -/
structure Recovers {α : Type} (encode : α → Json) (decode : Decoder α) (a : α) : Prop where
  exact : Exact (encode a)
  decode : ∀ {v : Json}, Reordered (encode a) v → decode v.toTree = .ok a

section

variable {α : Type} {encode : α → Json} {decode : Decoder α} {kept : α → α}

theorem Faithful.recovers (faithful : Faithful encode decode) (a : α) : Recovers encode decode a :=
  ⟨faithful.exact a, faithful.decode⟩

theorem Faithful.of_recovers (all : ∀ a, Recovers encode decode a) : Faithful encode decode :=
  ⟨fun a => (all a).exact, fun {a _} => (all a).decode⟩

/-- A text of what was made is read as the document it is. -/
theorem decodeText_render {a : α} {v : Json} (exact : Exact (encode a))
    (same : Reordered (encode a) v) : Json.decodeText decode v.render = decode v.toTree := by
  rw [Json.decodeText, parse_render (same.exact exact)]

/-- What is printed is decoded. -/
theorem Yields.decodeText (yields : Yields encode decode kept) {a : α} {v : Json}
    (same : Reordered (encode a) v) : decodeText decode v.render = .ok (kept a) := by
  rw [decodeText_render (yields.exact a) same]
  exact yields.decode same

theorem Yields.of_string {toText : α → String}
    (read : ∀ a, decode (.string (some (toText a))) = .ok (kept a)) :
    Yields (fun a => .string (toText a)) decode kept where
  exact _ := trivial
  decode {a v} same := by
    cases same
    exact read a

theorem Faithful.of_string {toText : α → String}
    (read : ∀ a, decode (.string (some (toText a))) = .ok a) :
    Faithful (fun a => .string (toText a)) decode :=
  Yields.of_string read

/-! ### Lists -/

theorem items_treesOfItems (yields : Yields encode decode kept) {as : List α} {ws : List Json}
    (same : ItemsReordered (as.map encode) ws) :
    Decode.items decode (treesOfItems ws) = .ok (as.map kept) := by
  induction as generalizing ws with
  | nil =>
    cases same
    rfl
  | cons a as ih =>
    cases same with
    | cons first rest =>
      simp only [treesOfItems, Decode.items, yields.decode first, ih rest, bind, Except.bind,
        List.map_cons]

theorem Yields.list (yields : Yields encode decode kept) :
    Yields (fun as => array (as.map encode)) (Decode.list decode) (List.map kept) where
  exact as := by
    refine exactItems_iff.2 fun v mem => ?_
    obtain ⟨a, -, rfl⟩ := List.mem_map.1 mem
    exact yields.exact a
  decode {as v} same := by
    cases same with
    | array items => exact items_treesOfItems yields items

/-! ### Dictionaries -/

/-- Fields put into a dictionary one by one, all of them entries of `d`, make it agree with `d` on
their names. -/
theorem entries_treesOfFields {d : Dict α} {gs : List (String × Json)}
    (read : ∀ g ∈ gs, ∃ a, d.get? g.1 = some a ∧ decode g.2.toTree = .ok a) (start : Dict α) :
    ∃ out, Decode.entries decode start (treesOfFields gs) = .ok out ∧
      ∀ key, out.get? key = if key ∈ gs.map (·.1) then d.get? key else start.get? key := by
  induction gs generalizing start with
  | nil => exact ⟨start, rfl, fun key => by simp⟩
  | cons g gs ih =>
    obtain ⟨a, found, value⟩ := read g List.mem_cons_self
    obtain ⟨out, done, agree⟩ := ih (fun g mem => read g (List.mem_cons_of_mem _ mem))
      (start.insert g.1 a)
    refine ⟨out, ?_, fun key => ?_⟩
    · simp only [treesOfFields, Decode.entries, value, done, bind, Except.bind]
    · rw [agree key, List.map_cons]
      by_cases own : key = g.1
      · subst own
        simp [found]
      · simp only [List.mem_cons, own, false_or, Dict.get?_insert_of_ne start own]

/-- The entries of a dictionary, in any order, make the dictionary. -/
theorem entries_of_reordered {d : Dict α} {gs : List (String × Json)}
    (fields : FieldsReordered (d.entries.map fun e => (e.1, encode e.2)) gs)
    (values : ∀ key a, d.get? key = some a → ∀ {v : Json}, Reordered (encode a) v →
      decode v.toTree = .ok a) : Decode.entries decode .empty (treesOfFields gs) = .ok d := by
  have read : ∀ g ∈ gs, ∃ a, d.get? g.1 = some a ∧ decode g.2.toTree = .ok a := by
    intro g mem
    obtain ⟨v, there, eq⟩ := fields.exists_of_mem mem
    obtain ⟨⟨key, a⟩, entry, same⟩ := List.mem_map.1 there
    cases same
    have found := Dict.mem_entries_iff.1 entry
    exact ⟨a, found, values _ a found eq⟩
  obtain ⟨out, done, agree⟩ := entries_treesOfFields read .empty
  have whole : out = d := by
    refine Dict.ext_get? fun key => ?_
    rw [agree key]
    split
    next => rfl
    next absent =>
      have names := fields.names_perm
      rw [Dict.get?_empty]
      cases found : d.get? key with
      | none => rfl
      | some a =>
        have entry := Dict.mem_entries_iff.2 found
        exact absurd (names.mem_iff.2 (by simpa using ⟨a, entry⟩)) absent
  exact whole ▸ done

theorem Recovers.dict {d : Dict α}
    (values : ∀ key a, d.get? key = some a → Recovers encode decode a) :
    Recovers (ofDict encode) (Decode.dict decode) d where
  exact := by
    refine exactFields_iff.2 fun f mem => ?_
    obtain ⟨⟨key, a⟩, entry, rfl⟩ := List.mem_map.1 mem
    exact (values key a (Dict.mem_entries_iff.1 entry)).exact
  decode same := by
    cases same with
    | object fields =>
      exact entries_of_reordered fields fun key a found => (values key a found).decode

theorem Faithful.dict (faithful : Faithful encode decode) :
    Faithful (ofDict encode) (Decode.dict decode) :=
  .of_recovers fun _ => .dict fun _ a _ => faithful.recovers a

/-! ### Records -/

theorem ofFields_eq (fields : List (String × Json)) :
    ofFields fields = object (Dict.ofList fields).entries := by
  have step (d : Dict Json) : fields.foldl (fun out f => Dict.insertEntry f.1 f.2 out) d.entries =
      (fields.foldl (fun d f => d.insert f.1 f.2) d).entries := by
    induction fields generalizing d with
    | nil => rfl
    | cons f fields ih => exact ih (d.insert f.1 f.2)
  exact congrArg object (step .empty)

/-- The order of declaration is one of the orders. -/
theorem reordered_ofFields {fields : List (String × Json)}
    (distinct : (fields.map (·.1)).Nodup) : Reordered (ofFields fields) (object fields) := by
  rw [ofFields_eq]
  exact .object ((FieldsReordered.refl _).perm (Dict.entries_ofList_perm distinct))

/-- Fields with known names, none twice, are all kept. -/
theorem knownFields_treesOfFields {names : List String} {gs : List (String × Json)}
    (known : ∀ g ∈ gs, g.1 ∈ names) (kept : Decode.Fields)
    (distinct : (kept.map (·.1) ++ gs.map (·.1)).Nodup) :
    Decode.knownFields names kept (treesOfFields gs) =
      .ok (kept ++ gs.map fun g => (g.1, g.2.toTree)) := by
  induction gs generalizing kept with
  | nil => simp [treesOfFields, Decode.knownFields]
  | cons g gs ih =>
    have new : Dict.lookupEntry g.1 kept = none := by
      cases found : Dict.lookupEntry g.1 kept with
      | none => rfl
      | some t =>
        have there : g.1 ∈ kept.map (·.1) :=
          List.mem_map.2 ⟨_, Dict.mem_of_lookupEntry found, rfl⟩
        exact absurd rfl ((List.nodup_append.1 distinct).2.2 _ there _ List.mem_cons_self)
    have rest := ih (fun g mem => known g (List.mem_cons_of_mem _ mem))
      (kept ++ [(g.1, g.2.toTree)]) (by simpa using distinct)
    have own : g.1 ∈ names := known g List.mem_cons_self
    rw [treesOfFields, Decode.knownFields]
    simp [own, new, rest]

/-- The fields found in a text hold the part with a name. -/
def Holds (found : Decode.Fields) (name : String) (part : Json) : Prop :=
  ∃ w, Dict.lookupEntry name found = some w.toTree ∧ Reordered part w

theorem Holds.field?_of_decode {found : Decode.Fields} {name : String} {part : Json} {b : α}
    (read : ∀ {v : Json}, Reordered part v → decode v.toTree = .ok b) (holds : Holds found name part) :
    Decode.field? found name decode = .ok (some b) := by
  obtain ⟨w, there, same⟩ := holds
  rw [Decode.field?, there]
  simp only [read same, Except.map]

theorem Holds.field?_of_recovers {found : Decode.Fields} {name : String} {a : α}
    (recovers : Recovers encode decode a) (holds : Holds found name (encode a)) :
    Decode.field? found name decode = .ok (some a) :=
  holds.field?_of_decode recovers.decode

theorem Holds.field?_of_yields {found : Decode.Fields} {name : String} {a : α}
    (yields : Yields encode decode kept) (holds : Holds found name (encode a)) :
    Decode.field? found name decode = .ok (some (kept a)) :=
  holds.field?_of_decode yields.decode

theorem Holds.field? (faithful : Faithful encode decode) {found : Decode.Fields} {name : String}
    {a : α} (holds : Holds found name (encode a)) :
    Decode.field? found name decode = .ok (some a) :=
  holds.field?_of_yields faithful

variable {name : String} {names : List String} {ofFields : Decode.Fields → Except DecodeError α}
  {ofItems : List Tree → Except DecodeError α} {fields : List (String × Json)}

theorem exact_ofFields (distinct : (fields.map (·.1)).Nodup) :
    Exact (.ofFields fields) ↔ ExactFields fields := by
  rw [ofFields_eq]
  simp only [Exact, exactFields_iff, Dict.mem_entries_ofList distinct]

/-- The fields of a record are found in an object that has them in any order. -/
theorem record_of_reordered (distinct : names.Nodup) (named : fields.map (·.1) = names) {v : Json}
    (same : Reordered (.ofFields fields) v) :
    ∃ found, (∀ f ∈ fields, Holds found f.1 f.2) ∧
      ∀ (name : String) (ofFields : Decode.Fields → Except DecodeError α)
        (ofItems : List Tree → Except DecodeError α),
        Decode.record name names ofFields ofItems v.toTree = ofFields found := by
  have once : (fields.map (·.1)).Nodup := named ▸ distinct
  rw [ofFields_eq] at same
  cases same with
  | @object _ gs reordered =>
    have names_once : (gs.map (·.1)).Nodup :=
      reordered.names_perm.nodup_iff.2 (Dict.nodup_keys _)
    have known : ∀ g ∈ gs, g.1 ∈ names := by
      intro g mem
      obtain ⟨part, there, -⟩ := reordered.exists_of_mem mem
      exact named ▸ List.mem_map.2 ⟨_, (Dict.mem_entries_ofList once).1 there, rfl⟩
    have kept := knownFields_treesOfFields known [] (by simpa using names_once)
    rw [List.nil_append] at kept
    refine ⟨gs.map fun g => (g.1, g.2.toTree), fun f mem => ?_, ?_⟩
    · obtain ⟨w, there, eq⟩ := reordered.exists_mem ((Dict.mem_entries_ofList once).2 mem)
      refine ⟨w, Dict.lookupEntry_of_mem ?_ (List.mem_map.2 ⟨_, there, rfl⟩), eq⟩
      rw [List.map_map]
      exact names_once
    · intro name ofFields ofItems
      simp only [toTree, Decode.record, kept, bind, Except.bind]

/-- A record is read from the fields of an object that hold all its parts. -/
theorem Yields.record (distinct : names.Nodup)
    (parts : ∀ a, ∃ fields, encode a = .ofFields fields ∧ fields.map (·.1) = names ∧
      ExactFields fields ∧
        ∀ found, (∀ f ∈ fields, Holds found f.1 f.2) → ofFields found = .ok (kept a)) :
    Yields encode (Decode.record name names ofFields ofItems) kept where
  exact a := by
    obtain ⟨fields, written, named, exact, -⟩ := parts a
    rw [written, exact_ofFields (named ▸ distinct)]
    exact exact
  decode {a v} same := by
    obtain ⟨fields, written, named, -, read⟩ := parts a
    rw [written] at same
    obtain ⟨found, holds, done⟩ := record_of_reordered distinct named same
    rw [done]
    exact read found holds

theorem Faithful.record (distinct : names.Nodup)
    (parts : ∀ a, ∃ fields, encode a = .ofFields fields ∧ fields.map (·.1) = names ∧
      ExactFields fields ∧ ∀ found, (∀ f ∈ fields, Holds found f.1 f.2) → ofFields found = .ok a) :
    Faithful encode (Decode.record name names ofFields ofItems) :=
  Yields.record distinct parts

end

end JobNode.Json
