import JobNode.Params
import JobNode.Proofs.Json.Values
import Mathlib.Algebra.Group.Int.Defs
import Mathlib.Algebra.Group.Nat.Defs

/-!
# Parameters read back

A bag of parameters holds values of any shape, so it comes back from its text as long as their shape
can be told from text: numbers are integers of 64-bit words, objects are maps, and nothing is nested
deeper than a reader goes.

What a bag answers for a name depends on the value under that name only.  A change replaces the
value under one name, so the answers for all other names stay, and a timeout is read as it was put in
until another one replaces it.

* `Plain`: what parameters have to be.
* `Plain.recovers`, `Plain.decodeAt_of_deep`: a bag comes back unless it is nested too deep.
* `agree_of_change`, `value?_of_changeAll`: what one change and what all changes leave alone.
* `timeout_read_back`: durations under a name, and the timeout above all.
-/

namespace JobNode

open Json

namespace Params

/-- All numbers in the bag are integers of 64-bit words, and all objects are maps. -/
structure Plain (p : Params) : Prop where
  exact : ∀ name v, p.value? name = some v → v.Exact
  ordered : ∀ name v, p.value? name = some v → v.Ordered

section Reading

variable {p : Params} {d : Nat} {v : Json}

theorem toJson_eq (p : Params) : p.toJson = ofDict id p.values := by
  simp [toJson, ofDict]

theorem depth_le_of_value? {name : String} (shallow : p.toJson.depth ≤ d + 1)
    (found : p.value? name = some v) : v.depth ≤ d := by
  rw [toJson, Json.depth, Nat.add_le_add_iff_right, fieldsDepth_le_iff] at shallow
  exact shallow _ (Dict.mem_entries_iff.2 found)

theorem Plain.recovers (plain : p.Plain) (shallow : p.toJson.depth ≤ d) :
    Recovers toJson (decodeAt d) p := by
  cases d with
  | zero => simp [toJson, Json.depth] at shallow
  | succ d =>
    have values : Recovers (ofDict id) (Decode.dict (Decode.value d)) p.values :=
      .dict fun name v found => .value (plain.exact name v found) (plain.ordered name v found)
        (depth_le_of_value? shallow found)
    refine ⟨?_, fun {w} same => ?_⟩
    · rw [toJson_eq]
      exact values.exact
    · rw [toJson_eq] at same
      rw [decodeAt, values.decode same]
      rfl

theorem Plain.decodeAt_of_deep (plain : p.Plain) (deep : d < p.toJson.depth)
    (same : Reordered p.toJson v) : decodeAt d v.toTree = .error .malformed := by
  cases d with
  | zero => rfl
  | succ d =>
    rw [toJson, Json.depth, Nat.add_lt_add_iff_right] at deep
    obtain ⟨⟨name, u⟩, mem, deep⟩ : ∃ f ∈ p.values.entries, d < f.2.depth := by
      simpa [fieldsDepth_le_iff] using Nat.not_le.2 deep
    cases same with
    | @object _ gs fields =>
      obtain ⟨w, there, eq⟩ := fields.exists_mem mem
      have ordered := plain.ordered name u (Dict.mem_entries_iff.1 mem)
      have fails := (returns_of_reordered u ordered w eq).none_of_lt deep
      simp only [decodeAt, toTree, Decode.dict]
      rw [entries_of_too_deep there fails]
      rfl

/-- The text of a bag is read as the bag itself, with the parameters in any order, unless a reader
does not go so deep. -/
theorem Plain.parse_render (plain : p.Plain) (same : Reordered p.toJson v) :
    parse v.render = if p.toJson.depth ≤ maxDepth then .ok p else .error .malformed := by
  have exact : p.toJson.Exact := (plain.recovers (Nat.le_refl _)).exact
  rw [parse, decodeText_render exact same, decode]
  split
  next shallow => exact (plain.recovers shallow).decode same
  next deep => exact plain.decodeAt_of_deep (Nat.not_le.1 deep) same

theorem plain_empty : empty.Plain :=
  ⟨fun _ _ => nofun, fun _ _ => nofun⟩

theorem Plain.insert (plain : p.Plain) (exact : v.Exact) (ordered : v.Ordered) (name : String) :
    (p.insert name v).Plain := by
  have held {other : String} {w : Json} (found : (p.insert name v).value? other = some w) :
      w = v ∨ p.value? other = some w := by
    by_cases own : other = name
    · rw [own, value?_insert_self] at found
      exact .inl (Option.some.inj found).symm
    · rw [value?_insert_of_ne p own] at found
      exact .inr found
  refine ⟨fun other w found => ?_, fun other w found => ?_⟩
  · rcases held found with rfl | before
    · exact exact
    · exact plain.exact other w before
  · rcases held found with rfl | before
    · exact ordered
    · exact plain.ordered other w before

theorem Plain.insert_int (plain : p.Plain) {n : Int} (fits : Number.InRange n) (name : String) :
    (p.insert name (.int n)).Plain := by
  have exact : (Json.int n).Exact := fits
  exact plain.insert exact trivial name

/-- A timeout is cut to an integer that a text can hold. -/
theorem Plain.withTimeout (plain : p.Plain) (d : Duration) : (p.withTimeout d).Plain := by
  have fits : timeoutNanos d ≤ Duration.maxWord := Nat.min_le_right _ _
  have range : Number.InRange (timeoutNanos d) := by
    rw [Duration.maxWord] at fits
    exact ⟨by omega, by omega⟩
  exact plain.insert_int range timeoutName

end Reading

/-! ## What a change leaves alone -/

/-- A change of one parameter. -/
inductive Change where
  | value (name : String) (v : Json)
  | data (name : String) (d : Data)
  | timeout (d : Duration)

/-- The name of the parameter that a change is about. -/
def Change.name : Change → String
  | .value name _ => name
  | .data name _ => name
  | .timeout _ => timeoutName

/-- The bag after a change; data that cannot be encoded is refused. -/
def change (p : Params) : Change → Except QueueError Params
  | .value name v => .ok (p.insert name v)
  | .data name d => p.insertData name d
  | .timeout d => .ok (p.withTimeout d)

/-- The bag after one change after another. -/
def changeAll (p : Params) : List Change → Except QueueError Params
  | [] => .ok p
  | c :: later =>
    match p.change c with
    | .ok q => q.changeAll later
    | .error e => .error e

/-- Two bags give the same answers to all questions about a name. -/
structure Agree (p q : Params) (name : String) : Prop where
  value : q.value? name = p.value? name
  contains : q.contains name = p.contains name
  get : ∀ (α : Type) (decode : Decoder α), q.get name decode = p.get name decode
  text : q.text name = p.text name
  duration : q.duration name = p.duration name
  timeout : name = timeoutName → q.timeout = p.timeout

section Changes

variable {p q : Params} {c : Change} {later : List Change} {name : String} {n : Int} {v : Json}

/-- All questions about a name are about the value under it. -/
theorem agree_of_value? (same : q.value? name = p.value? name) : Agree p q name := by
  have required : q.require name = p.require name := by rw [require, require, same]
  have there : q.contains name = p.contains name := congrArg Option.isSome same
  have duration : q.duration name = p.duration name := by
    rw [Params.duration, Params.duration, required]
  refine ⟨same, there, fun α decode => ?_, ?_, duration, ?_⟩
  · rw [get, get, required]
  · rw [text, text, required]
  · rintro rfl
    rw [Params.timeout, Params.timeout, there, duration]

theorem exists_insert_of_change (changed : p.change c = .ok q) : ∃ v, q = p.insert c.name v := by
  cases c with
  | value name v =>
    cases changed
    exact ⟨v, rfl⟩
  | timeout d =>
    cases changed
    exact ⟨_, rfl⟩
  | data name d =>
    rw [change, insertData] at changed
    split at changed
    next v encoded =>
      cases changed
      exact ⟨v, rfl⟩
    next => cases changed

theorem agree_of_change (changed : p.change c = .ok q) (other : name ≠ c.name) :
    Agree p q name := by
  obtain ⟨v, rfl⟩ := exists_insert_of_change changed
  exact agree_of_value? (value?_insert_of_ne p other v)

/-- Induction on the changes: each of them leaves the value alone. -/
theorem value?_of_changeAll (changed : p.changeAll later = .ok q)
    (others : ∀ c ∈ later, name ≠ c.name) : q.value? name = p.value? name := by
  induction later generalizing p with
  | nil =>
    cases changed
    rfl
  | cons c later ih =>
    obtain ⟨other, others⟩ := List.forall_mem_cons.1 others
    rw [changeAll] at changed
    split at changed
    next r first =>
      rw [ih changed others]
      exact (agree_of_change first other).value
    next => cases changed

/-! ## Durations under a name -/

theorem duration_of_int (found : p.value? name = some (.int n)) :
    p.duration name =
      if 0 ≤ n then .ok (.saturating n.toNat)
      else .error (.validation
        ("parameter '" ++ name ++ "' must be a non-negative finite number")) := by
  have required : p.require name = .ok (.number (.int n)) := by rw [require, found, int]
  rw [duration, required]
  by_cases natural : 0 ≤ n
  · simp only [nanosOf, if_pos natural]
  · simp only [nanosOf, if_neg natural]
    rw [String.append_assoc]
    rfl

theorem duration_of_missing (missing : p.value? name = none) :
    p.duration name = .error (.validation ("missing parameter '" ++ name ++ "'")) := by
  rw [duration, require, missing]

theorem duration_of_other (found : p.value? name = some v) (other : ∀ n, v ≠ .number n) :
    p.duration name =
      .error (.validation ("parameter '" ++ name ++ "' is not a number of nanoseconds")) := by
  have required : p.require name = .ok v := by rw [require, found]
  have none : nanosOf v = .error "is not a number of nanoseconds" := by
    cases v with
    | number n => exact absurd rfl (other n)
    | _ => rfl
  rw [duration, required]
  simp only [none]
  rw [String.append_assoc]
  rfl

/-- A number of nanoseconds that fits a 64-bit word is a duration of its own. -/
theorem exists_duration_of_int (found : p.value? name = some (.int n)) (natural : 0 ≤ n)
    (fits : n < 2 ^ 64) : ∃ d, p.duration name = .ok d ∧ (d.nanos : Int) = n := by
  refine ⟨.saturating n.toNat, ?_, ?_⟩
  · rw [duration_of_int found, if_pos natural]
  · have short : n.toNat ≤ Duration.maxNanos := by
      rw [Duration.maxNanos]
      omega
    rw [Duration.nanos_saturating, show n.toNat.min _ = n.toNat from Nat.min_eq_left short,
      Int.toNat_of_nonneg natural]

theorem timeout_eq_none_iff : p.timeout = .ok none ↔ p.value? timeoutName = none := by
  rw [timeout, contains, Dict.contains, value?]
  cases found : p.values.get? timeoutName with
  | none => simp
  | some v =>
    cases duration : p.duration timeoutName <;> simp [Except.map]

/-- A timeout that nothing has replaced is read as it was put in, cut to a 64-bit word. -/
theorem timeout_of_changeAll {d : Duration} (changed : (p.withTimeout d).changeAll later = .ok q)
    (others : ∀ c ∈ later, c.name ≠ timeoutName) :
    ∃ t, q.timeout = .ok (some t) ∧ t.nanos = Nat.min d.nanos (2 ^ 64 - 1) := by
  have put : q.value? timeoutName = some (.int (timeoutNanos d)) := by
    rw [value?_of_changeAll changed fun c mem => (others c mem).symm, withTimeout,
      value?_insert_self]
    rfl
  have fits : timeoutNanos d ≤ 2 ^ 64 - 1 := Nat.min_le_right _ _
  obtain ⟨t, duration, nanos⟩ := exists_duration_of_int put (by omega) (by omega)
  have there : q.contains timeoutName = true := by
    rw [contains, Dict.contains, ← value?, put]
    rfl
  refine ⟨t, ?_, Int.ofNat.inj nanos⟩
  rw [timeout, if_pos there, duration]
  rfl

end Changes

/-- **Durations are read as they were put in.**  A timeout is read as it was put in, cut to a 64-bit
word, whatever was put under other names after it, and a bag with it comes back from its text, in
whatever order the parameters are written, unless it is nested deeper than a reader goes.  An
integer of a 64-bit word is read as that many nanoseconds; a negative integer, a value that is no
number and a missing value are refused.  There is no timeout just if there is no value under its
name.  No change under one name has any effect on an answer for another name. -/
theorem timeout_read_back :
    (∀ (p q : Params) (d : Duration) (later : List Change),
      (∀ c ∈ later, c.name ≠ timeoutName) → (p.withTimeout d).changeAll later = .ok q →
        (∃ t, q.timeout = .ok (some t) ∧ t.nanos = Nat.min d.nanos (2 ^ 64 - 1)) ∧
        (q.Plain → ∀ v, Reordered q.toJson v →
          parse v.render = if q.toJson.depth ≤ maxDepth then .ok q else .error .malformed)) ∧
    (∀ (p : Params) (name : String) (n : Int), p.value? name = some (.int n) →
      (0 ≤ n → n < 2 ^ 64 → ∃ d, p.duration name = .ok d ∧ (d.nanos : Int) = n) ∧
      (n < 0 → p.duration name = .error (.validation
        ("parameter '" ++ name ++ "' must be a non-negative finite number")))) ∧
    (∀ (p : Params) (name : String), p.value? name = none →
      p.duration name = .error (.validation ("missing parameter '" ++ name ++ "'"))) ∧
    (∀ (p : Params) (name : String) (v : Json), p.value? name = some v → (∀ n, v ≠ .number n) →
      p.duration name = .error (.validation
        ("parameter '" ++ name ++ "' is not a number of nanoseconds"))) ∧
    (∀ p : Params, p.timeout = .ok none ↔ p.value? timeoutName = none) ∧
    ∀ (p q : Params) (c : Change) (name : String), p.change c = .ok q → name ≠ c.name →
      Agree p q name := by
  refine ⟨fun p q d later others changed => ⟨timeout_of_changeAll changed others, ?_⟩,
    fun p name n found => ⟨exists_duration_of_int found, fun negative => ?_⟩,
    fun p name missing => duration_of_missing missing,
    fun p name v found other => duration_of_other found other,
    fun p => timeout_eq_none_iff,
    fun p q c name changed other => agree_of_change changed other⟩
  · exact fun plain v same => plain.parse_render same
  · rw [duration_of_int found, if_neg (by omega)]

/-- A bag with the longest timeout, a count past the signed integers and a negative delay. -/
def sampleBag : Params :=
  ((empty.withTimeout .longest).insert "count" (.int 9223372036854775808)).insert "delay"
    (.int (-5))

theorem sampleBag_plain : sampleBag.Plain :=
  ((plain_empty.withTimeout _).insert_int (by decide) _).insert_int (by decide) _

theorem longest_timeout_back :
    (∃ t, sampleBag.timeout = .ok (some t) ∧ t.nanos = 18446744073709551615) ∧
      parse sampleBag.toJson.render = .ok sampleBag ∧
      (∃ d, sampleBag.duration "count" = .ok d ∧ (d.nanos : Int) = 9223372036854775808) ∧
      sampleBag.duration "delay" =
        .error (.validation "parameter 'delay' must be a non-negative finite number") ∧
      (sampleBag.insert "unit" .null).duration "unit" =
        .error (.validation "parameter 'unit' is not a number of nanoseconds") ∧
      sampleBag.duration "unit" = .error (.validation "missing parameter 'unit'") ∧
      sampleBag.timeout ≠ .ok none ∧
      Agree sampleBag (sampleBag.withTimeout .zero) "delay" := by
  obtain ⟨readBack, integers, missing, others, absent, apart⟩ := timeout_read_back
  obtain ⟨read, text⟩ := readBack empty sampleBag .longest
    [.value "count" (.int 9223372036854775808), .value "delay" (.int (-5))] (by decide) rfl
  have shallow : sampleBag.toJson.depth ≤ maxDepth := by decide
  refine ⟨read, ?_, ?_, ?_, ?_, ?_, ?_, ?_⟩
  · rw [text sampleBag_plain _ (.refl _), if_pos shallow]
  · exact (integers sampleBag "count" 9223372036854775808 rfl).1 (by decide) (by decide)
  · exact (integers sampleBag "delay" (-5) rfl).2 (by decide)
  · exact others _ "unit" .null rfl nofun
  · exact missing sampleBag "unit" rfl
  · exact fun none => nomatch (absent sampleBag).1 none
  · exact apart sampleBag _ (.timeout .zero) "delay" rfl (by decide)

/-! ## Bags that are nested too deep -/

/-- Arrays around an empty array. -/
def nested : Nat → Json
  | 0 => .array []
  | n + 1 => .array [nested n]

theorem nested_plain (n : Nat) :
    (nested n).Exact ∧ (nested n).Ordered ∧ (nested n).depth = n + 1 := by
  induction n with
  | zero => exact ⟨trivial, trivial, rfl⟩
  | succ n ih =>
    obtain ⟨exact, ordered, depth⟩ := ih
    refine ⟨⟨exact, trivial⟩, ⟨ordered, trivial⟩, ?_⟩
    rw [nested, Json.depth, itemsDepth, itemsDepth, depth, Nat.max_zero]

/-- A bag with a timeout whose other parameter is nested one level deeper than a reader goes. -/
def deepBag : Params :=
  (empty.insert "deep" (nested 126)).withTimeout (.saturating 5)

/-- A timeout does not come back from the text of a bag that is nested too deep. -/
theorem deepBag_not_read_back :
    deepBag.Plain ∧ deepBag.timeout = .ok (some (.saturating 5)) ∧
      parse deepBag.toJson.render = .error .malformed ∧
      ¬ ∃ q, parse deepBag.toJson.render = .ok q ∧ q.timeout = deepBag.timeout := by
  obtain ⟨exact, ordered, depth⟩ := nested_plain 126
  have plain : deepBag.Plain := (plain_empty.insert exact ordered _).withTimeout _
  have held : deepBag.value? "deep" = some (nested 126) := rfl
  have deep : ¬ deepBag.toJson.depth ≤ maxDepth := by
    intro shallow
    have inner : (nested 126).depth ≤ 126 := depth_le_of_value? shallow held
    omega
  have refused : parse deepBag.toJson.render = .error .malformed := by
    rw [plain.parse_render (.refl _), if_neg deep]
  refine ⟨plain, rfl, refused, ?_⟩
  rintro ⟨q, read, -⟩
  rw [refused] at read
  cases read

end Params

end JobNode
