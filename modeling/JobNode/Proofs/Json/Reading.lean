import JobNode.Json.Printer
import JobNode.Json.Reader
import JobNode.Proofs.Text.Decimal

/-!
# JSON text read back

The reader takes back what the printer writes.  Values with floats are left out: what a float is
printed as is read in two roundings.  Every other value is read back as the document it is, whatever
its strings hold, however deep it is nested and whatever stands behind it.

* `readString_stringChars`: strings, with every character escaped the way it is;
* `readNumeral_intChars`: integers;
* `readTree_toChars`: values, by induction on the value;
* `parse_render`: whole texts.
-/

namespace JobNode.Json

/-! ## Strings -/

theorem hexUnit?_hexDigit {n : Nat} (small : n < 32) :
    hexUnit? '0' '0' (hexDigit (n / 16)) (hexDigit (n % 16)) = some n := by
  have all : ∀ k : Fin 32,
      hexUnit? '0' '0' (hexDigit (k / 16)) (hexDigit (k % 16)) = some k.val := by decide
  exact all ⟨n, small⟩

/-- What a character is written as is read as one part of a string. -/
def ReadAs (c : Char) (part : StringPart) : Prop :=
  (∀ {tail rest : List Char} {parts : List StringPart}, readString tail = some (parts, rest) →
    readString (escapeChar c ++ tail) = some (part :: parts, rest)) ∧
  ∀ {cs : List Char} {parts : List StringPart}, joinParts parts = some cs →
    joinParts (part :: parts) = some (c :: cs)

/-- A character with an escape of one letter. -/
theorem readAs_letter {c letter : Char} (written : escapeChar c = ['\\', letter])
    (other : letter ≠ 'u') (named : escapedChar? letter = some c) : ReadAs c (.char c) := by
  constructor
  · intro tail rest parts read
    rw [written, List.cons_append, List.cons_append, List.nil_append, readString.eq_def]
    simp [other, named, read]
  · intro cs parts join
    rw [joinParts, join, Option.map_some]

/-- A control character written by its number. -/
theorem readAs_unit {c : Char} (control : c.toNat < 32)
    (written : escapeChar c =
      ['\\', 'u', '0', '0', hexDigit (c.toNat / 16), hexDigit (c.toNat % 16)]) :
    ReadAs c (.unit c.toNat) := by
  constructor
  · intro tail rest parts read
    rw [written]
    simp only [List.cons_append, List.nil_append]
    rw [readString.eq_def]
    simp [hexUnit?_hexDigit control, read]
  · intro cs parts join
    have high : isHighSurrogate c.toNat = false := by
      simp only [isHighSurrogate, Bool.and_eq_false_iff, decide_eq_false_iff_not]
      omega
    have low : isLowSurrogate c.toNat = false := by
      simp only [isLowSurrogate, Bool.and_eq_false_iff, decide_eq_false_iff_not]
      omega
    rw [joinParts.eq_def]
    simp [high, low, join]

/-- A character that stands for itself. -/
theorem readAs_self {c : Char} (quote : c ≠ '"') (slash : c ≠ '\\') (plain : ¬ c.toNat < 32)
    (written : escapeChar c = [c]) : ReadAs c (.char c) := by
  constructor
  · intro tail rest parts read
    rw [written, List.cons_append, List.nil_append, readString.eq_def]
    simp [quote, slash, plain, read]
  · intro cs parts join
    rw [joinParts, join, Option.map_some]

theorem exists_readAs (c : Char) : ∃ part, ReadAs c part := by
  by_cases quote : c = '"'
  · subst quote
    exact ⟨_, readAs_letter rfl (by decide) rfl⟩
  by_cases slash : c = '\\'
  · subst slash
    exact ⟨_, readAs_letter rfl (by decide) rfl⟩
  by_cases line : c = '\n'
  · subst line
    exact ⟨_, readAs_letter rfl (by decide) rfl⟩
  by_cases carriage : c = '\r'
  · subst carriage
    exact ⟨_, readAs_letter rfl (by decide) rfl⟩
  by_cases tab : c = '\t'
  · subst tab
    exact ⟨_, readAs_letter rfl (by decide) rfl⟩
  by_cases back : c = '\x08'
  · subst back
    exact ⟨_, readAs_letter rfl (by decide) rfl⟩
  by_cases feed : c = '\x0c'
  · subst feed
    exact ⟨_, readAs_letter rfl (by decide) rfl⟩
  by_cases control : c.toNat < 32
  · exact ⟨_, readAs_unit control
      (by simp [escapeChar, quote, slash, line, carriage, tab, back, feed, control])⟩
  · exact ⟨_, readAs_self quote slash control
      (by simp [escapeChar, quote, slash, line, carriage, tab, back, feed, control])⟩

theorem readString_escaped (cs rest : List Char) :
    ∃ parts, readString (cs.flatMap escapeChar ++ '"' :: rest) = some (parts, rest) ∧
      joinParts parts = some cs := by
  induction cs with
  | nil =>
    refine ⟨[], ?_, rfl⟩
    rw [List.flatMap_nil, List.nil_append, readString.eq_def]
    simp
  | cons c cs ih =>
    obtain ⟨parts, read, join⟩ := ih
    obtain ⟨part, front, back⟩ := exists_readAs c
    refine ⟨part :: parts, ?_, back join⟩
    rw [List.flatMap_cons, List.append_assoc]
    exact front read

/-- A string is read back, whatever its characters. -/
theorem readString_stringChars (s : String) (rest : List Char) :
    ∃ parts, readString (s.toList.flatMap escapeChar ++ '"' :: rest) = some (parts, rest) ∧
      joinString parts = some s := by
  obtain ⟨parts, read, join⟩ := readString_escaped s.toList rest
  refine ⟨parts, read, ?_⟩
  rw [joinString, join, Option.map_some, String.ofList_toList]

/-! ## Integers -/

/-- The text does not go on with what could belong to a numeral. -/
def Ends (rest : List Char) : Prop :=
  Decimal.Stops rest ∧ ∀ c ∈ rest.head?, c ≠ '.' ∧ c ≠ 'e' ∧ c ≠ 'E'

theorem ends_nil : Ends [] := ⟨Decimal.stops_nil, fun _ head => nomatch head⟩

theorem ends_cons {c : Char} (other : Decimal.isDigit c = false)
    (marks : c ≠ '.' ∧ c ≠ 'e' ∧ c ≠ 'E') (rest : List Char) : Ends (c :: rest) := by
  refine ⟨Decimal.stops_cons other rest, fun d head => ?_⟩
  cases head
  exact marks

theorem readUnsigned_digits (negative : Bool) (n : Nat) {rest : List Char} (ends : Ends rest) :
    readUnsigned negative (Decimal.digits n ++ rest) =
      some (⟨negative, Decimal.digits n, none, none⟩, rest) := by
  obtain ⟨stops, marks⟩ := ends
  have all := Decimal.all_isDigit_digits n
  have span : spanDigits (Decimal.digits n ++ rest) = (Decimal.digits n, rest) := by
    rw [spanDigits, Decimal.takeWhile_of_stops all stops, Decimal.dropWhile_of_stops all stops]
  have whole : readWhole (Decimal.digits n ++ rest) = some (Decimal.digits n, rest) := by
    rw [readWhole, span]
    split
    next eq =>
      injection eq with none
      exact absurd none (Decimal.digits_ne_nil n)
    next eq =>
      injection eq with zero
      exact absurd zero (Decimal.digits_ne_zero_cons n _ _)
    next eq => rw [eq]
  have fraction : readFraction rest = some (none, rest) := by
    unfold readFraction
    split
    next => exact absurd rfl (marks _ rfl).1
    next => rfl
  have exponent : readExponent rest = some (none, rest) := by
    cases rest with
    | nil => rfl
    | cons c rest =>
      have ⟨_, small, capital⟩ := marks c rfl
      simp [readExponent, small, capital]
  simp [readUnsigned, whole, fraction, exponent]

theorem readNumeral_intChars (n : Int) {rest : List Char} (ends : Ends rest) :
    readNumeral (Decimal.intChars n ++ rest) =
      some (⟨decide (n < 0), Decimal.digits n.natAbs, none, none⟩, rest) := by
  have read (negative : Bool) := readUnsigned_digits negative n.natAbs ends
  unfold Decimal.intChars
  by_cases negative : n < 0
  · rw [if_pos negative, List.cons_append]
    simp only [readNumeral, read, negative, decide_true]
  · rw [if_neg negative]
    obtain ⟨d, ds, eq⟩ : ∃ d ds, Decimal.digits n.natAbs = d :: ds :=
      List.exists_cons_of_ne_nil (Decimal.digits_ne_nil _)
    have digit : Decimal.isDigit d = true := by
      have all := Decimal.all_isDigit_digits n.natAbs
      rw [eq, List.all_cons, Bool.and_eq_true] at all
      exact all.1
    have minus : d ≠ '-' := Decimal.ne_of_isDigit digit (by decide)
    have plain := read false
    rw [eq, List.cons_append] at plain ⊢
    unfold readNumeral
    split
    next other =>
      injection other with same
      exact absurd same minus
    next => simp [plain, negative]

/-- An integer that fits into a 64-bit word is the value of its numeral. -/
theorem value?_intChars {n : Int} (fits : Number.InRange n) :
    Numeral.value? ⟨decide (n < 0), Decimal.digits n.natAbs, none, none⟩ = some (.int n) := by
  obtain ⟨low, high⟩ := fits
  unfold Numeral.value?
  simp only [Decimal.ofDigits_digits]
  by_cases negative : n < 0
  · have value : -(n.natAbs : Int) = n := by omega
    have size : 0 < n.natAbs ∧ n.natAbs ≤ 9223372036854775808 := by omega
    simp only [negative, decide_true, if_true, size, and_self, value]
  · have value : (n.natAbs : Int) = n := by omega
    have size : n.natAbs ≤ Numeral.maxWord := by
      unfold Numeral.maxWord
      omega
    simp [negative, size, value]

/-! ## Values -/

mutual

/-- All numbers in the value are integers of 64-bit words. -/
def Exact : Json → Prop
  | null => True
  | bool _ => True
  | number (.int n) => Number.InRange n
  | number (.float _) => False
  | string _ => True
  | array items => ExactItems items
  | object fields => ExactFields fields

/-- All values of a list are exact. -/
def ExactItems : List Json → Prop
  | [] => True
  | v :: rest => Exact v ∧ ExactItems rest

/-- The values of all fields are exact. -/
def ExactFields : List (String × Json) → Prop
  | [] => True
  | (_, v) :: rest => Exact v ∧ ExactFields rest

end

theorem skipSpace_cons {c : Char} (solid : isSpace c = false) (rest : List Char) :
    skipSpace (c :: rest) = c :: rest := by
  simp [skipSpace, solid]

theorem exists_intChars (n : Int) :
    ∃ c cs, Decimal.intChars n = c :: cs ∧ (c = '-' ∨ Decimal.isDigit c = true) := by
  unfold Decimal.intChars
  split
  · exact ⟨_, _, rfl, .inl rfl⟩
  · obtain ⟨d, ds, eq⟩ := List.exists_cons_of_ne_nil (Decimal.digits_ne_nil n.natAbs)
    have all := Decimal.all_isDigit_digits n.natAbs
    rw [eq, List.all_cons, Bool.and_eq_true] at all
    exact ⟨d, ds, eq, .inr all.1⟩

/-- What a numeral starts with starts nothing else. -/
theorem starts_numeral {c : Char} (start : c = '-' ∨ Decimal.isDigit c = true) {d : Char}
    (other : d ∈ [' ', '\n', '\t', '\r', 'n', 't', 'f', '"', '[', '{', ']']) : c ≠ d := by
  rcases start with rfl | digit
  · rintro rfl
    exact absurd other (by decide)
  · have none : [' ', '\n', '\t', '\r', 'n', 't', 'f', '"', '[', '{', ']'].all
        (fun c => !Decimal.isDigit c) = true := by decide
    refine Decimal.ne_of_isDigit digit ?_
    simpa using List.all_eq_true.1 none d other

theorem solid_numeral {c : Char} (start : c = '-' ∨ Decimal.isDigit c = true) :
    isSpace c = false := by
  have other := @starts_numeral c start
  simp only [isSpace, Bool.or_eq_false_iff, decide_eq_false_iff_not]
  exact ⟨⟨⟨other (by decide), other (by decide)⟩, other (by decide)⟩, other (by decide)⟩

/-- A value starts with a character that is neither space nor the end of an array. -/
theorem exists_toChars {v : Json} (exact : Exact v) :
    ∃ c cs, v.toChars = c :: cs ∧ isSpace c = false ∧ c ≠ ']' := by
  cases v with
  | null => exact ⟨_, _, rfl, by decide, by decide⟩
  | bool b => cases b <;> exact ⟨_, _, rfl, by decide, by decide⟩
  | number n =>
    cases n with
    | float x => exact exact.elim
    | int n =>
      obtain ⟨c, cs, eq, start⟩ := exists_intChars n
      exact ⟨c, cs, eq, solid_numeral start, starts_numeral start (by decide)⟩
  | string s => exact ⟨_, _, rfl, by decide, by decide⟩
  | array items => cases items <;> exact ⟨_, _, rfl, by decide, by decide⟩
  | object fields =>
    cases fields with
    | nil => exact ⟨_, _, rfl, by decide, by decide⟩
    | cons f fs => exact ⟨_, _, rfl, by decide, by decide⟩

/-- A value is read back in as many steps as it has characters, whatever follows it. -/
def ReadsBack (v : Json) : Prop :=
  ∀ (fuel : Nat) (rest : List Char), v.toChars.length ≤ fuel → Ends rest →
    readTree fuel (v.toChars ++ rest) = some (v.toTree, rest)

theorem ends_itemsChars (vs : List Json) (rest : List Char) : Ends (itemsChars vs ++ rest) := by
  cases vs <;> exact ends_cons (by decide) (by decide) _

theorem ends_fieldsChars (fs : List (String × Json)) (rest : List Char) :
    Ends (fieldsChars fs ++ rest) := by
  cases fs <;> exact ends_cons (by decide) (by decide) _

theorem toChars_pos {v : Json} (exact : Exact v) : 0 < v.toChars.length := by
  obtain ⟨c, cs, eq, -⟩ := exists_toChars exact
  rw [eq]
  exact Nat.succ_pos _

theorem ReadsBack.of_succ {v : Json} (exact : Exact v)
    (read : ∀ (fuel : Nat) (rest : List Char), v.toChars.length ≤ fuel + 1 → Ends rest →
      readTree (fuel + 1) (v.toChars ++ rest) = some (v.toTree, rest)) : ReadsBack v := by
  intro fuel rest enough ends
  cases fuel with
  | zero => exact absurd (toChars_pos exact) (Nat.not_lt.2 enough)
  | succ fuel => exact read fuel rest enough ends

theorem readsBack_word {v : Json} (exact : Exact v)
    (read : ∀ (fuel : Nat) (rest : List Char),
      readTree (fuel + 1) (v.toChars ++ rest) = some (v.toTree, rest)) : ReadsBack v :=
  ReadsBack.of_succ exact fun fuel rest _ _ => read fuel rest

theorem readsBack_int {n : Int} (fits : Number.InRange n) : ReadsBack (int n) := by
  refine ReadsBack.of_succ fits fun fuel rest enough ends => ?_
  obtain ⟨c, cs, eq, start⟩ := exists_intChars n
  have other := @starts_numeral c start
  have read := readNumeral_intChars n ends
  have written : (int n).toChars = c :: cs := eq
  rw [eq, List.cons_append] at read
  rw [written, List.cons_append, readTree, skipSpace_cons (solid_numeral start)]
  dsimp only
  rw [if_neg (other (by decide)), if_neg (other (by decide)), if_neg (other (by decide)),
    if_neg (other (by decide)), if_neg (other (by decide)), if_neg (other (by decide)), read,
    Option.map_some, value?_intChars fits]
  rfl

theorem readsBack_string (s : String) : ReadsBack (string s) := by
  refine ReadsBack.of_succ trivial fun fuel rest enough ends => ?_
  obtain ⟨parts, read, join⟩ := readString_stringChars s rest
  simp only [toChars, stringChars, List.cons_append, List.append_assoc, List.nil_append]
  rw [readTree, skipSpace_cons (by decide)]
  simp [read, join, toTree]

/-- Values and what stands behind the first of them are read back. -/
def ItemsReadBack (v : Json) (vs : List Json) : Prop :=
  ∀ (fuel : Nat) (rest : List Char), v.toChars.length + (itemsChars vs).length ≤ fuel →
    readItems fuel (v.toChars ++ (itemsChars vs ++ rest)) = some (treesOfItems (v :: vs), rest)

theorem itemsReadBack_nil {v : Json} (first : ReadsBack v) : ItemsReadBack v [] := by
  intro fuel rest enough
  have mark : (itemsChars []).length = 1 := rfl
  cases fuel with
  | zero => exact absurd enough (by omega)
  | succ fuel =>
    rw [readItems, first fuel _ (by omega) (ends_itemsChars [] rest)]
    rfl

theorem itemsReadBack_cons {v w : Json} {vs : List Json} (exact : Exact v) (first : ReadsBack v)
    (others : ItemsReadBack w vs) : ItemsReadBack v (w :: vs) := by
  intro fuel rest enough
  have some := toChars_pos exact
  have length : (itemsChars (w :: vs)).length = w.toChars.length + (itemsChars vs).length + 1 := by
    simp [itemsChars]
  cases fuel with
  | zero => exact absurd enough (by omega)
  | succ fuel =>
    have read := others fuel rest (by omega)
    rw [readItems, first fuel _ (by omega) (ends_itemsChars (w :: vs) rest), itemsChars,
      List.cons_append, List.cons_append, List.append_assoc]
    simp only [skipSpace_cons (by decide : isSpace ',' = false), read]
    rfl

theorem readsBack_array {v : Json} {vs : List Json} (exact : Exact (array (v :: vs)))
    (items : ItemsReadBack v vs) : ReadsBack (array (v :: vs)) := by
  refine ReadsBack.of_succ exact fun fuel rest enough ends => ?_
  obtain ⟨c, cs, eq, solid, other⟩ := exists_toChars exact.1
  have length : (array (v :: vs)).toChars.length =
      v.toChars.length + (itemsChars vs).length + 1 := by
    simp [toChars]
  have read := items fuel rest (by omega)
  rw [toChars, List.cons_append, List.cons_append, List.append_assoc, readTree,
    skipSpace_cons (by decide)]
  rw [eq, List.cons_append] at read ⊢
  simp [skipSpace_cons solid, other, read, toTree]

/-- Fields and what stands behind the first of them are read back. -/
def FieldsReadBack (name : String) (v : Json) (fs : List (String × Json)) : Prop :=
  ∀ (fuel : Nat) (rest : List Char), v.toChars.length + (fieldsChars fs).length ≤ fuel →
    readFields fuel (stringChars name ++ ':' :: (v.toChars ++ (fieldsChars fs ++ rest))) =
      some (treesOfFields ((name, v) :: fs), rest)

/-- A field is read up to the mark behind its value, and then the fields behind a comma. -/
theorem readFields_comma (fuel : Nat) (name : String) {cs rest others : List Char} {t : Tree}
    (value : readTree fuel cs = some (t, rest)) (mark : skipSpace rest = ',' :: others) :
    readFields (fuel + 1) (stringChars name ++ ':' :: cs) =
      (readFields fuel others).map fun r => ((some name, t) :: r.1, r.2) := by
  obtain ⟨parts, read, join⟩ := readString_stringChars name (':' :: cs)
  simp only [stringChars, List.cons_append, List.append_assoc, List.nil_append]
  rw [readFields, skipSpace_cons (by decide)]
  simp only [read, skipSpace_cons (by decide : isSpace ':' = false), value, mark, join]

/-- The last field is read up to the end of the object. -/
theorem readFields_brace (fuel : Nat) (name : String) {cs rest others : List Char} {t : Tree}
    (value : readTree fuel cs = some (t, rest)) (mark : skipSpace rest = '}' :: others) :
    readFields (fuel + 1) (stringChars name ++ ':' :: cs) = some ([(some name, t)], others) := by
  obtain ⟨parts, read, join⟩ := readString_stringChars name (':' :: cs)
  simp only [stringChars, List.cons_append, List.append_assoc, List.nil_append]
  rw [readFields, skipSpace_cons (by decide)]
  simp only [read, skipSpace_cons (by decide : isSpace ':' = false), value, mark, join]

theorem fieldsReadBack_nil {name : String} {v : Json} (first : ReadsBack v) :
    FieldsReadBack name v [] := by
  intro fuel rest enough
  have mark : (fieldsChars []).length = 1 := rfl
  cases fuel with
  | zero => exact absurd enough (by omega)
  | succ fuel =>
    have value := first fuel _ (by omega) (ends_fieldsChars [] rest)
    have mark : skipSpace (fieldsChars [] ++ rest) = '}' :: rest := skipSpace_cons (by decide) _
    rw [readFields_brace fuel name value mark]
    rfl

theorem fieldsReadBack_cons {name other : String} {v w : Json} {fs : List (String × Json)}
    (exact : Exact v) (first : ReadsBack v) (others : FieldsReadBack other w fs) :
    FieldsReadBack name v ((other, w) :: fs) := by
  intro fuel rest enough
  have some := toChars_pos exact
  have length : w.toChars.length + (fieldsChars fs).length + 1 ≤
      (fieldsChars ((other, w) :: fs)).length := by
    simp only [fieldsChars, List.length_append, List.length_cons]
    omega
  cases fuel with
  | zero => exact absurd enough (by omega)
  | succ fuel =>
    have read := others fuel rest (by omega)
    have value := first fuel _ (by omega) (ends_fieldsChars ((other, w) :: fs) rest)
    have mark : skipSpace (fieldsChars ((other, w) :: fs) ++ rest) =
        ',' :: (stringChars other ++ ':' :: (w.toChars ++ (fieldsChars fs ++ rest))) := by
      simp only [fieldsChars, List.cons_append, List.append_assoc]
      exact skipSpace_cons (by decide) _
    rw [readFields_comma fuel name value mark, read]
    rfl

theorem readsBack_object {name : String} {v : Json} {fs : List (String × Json)}
    (exact : Exact (object ((name, v) :: fs))) (fields : FieldsReadBack name v fs) :
    ReadsBack (object ((name, v) :: fs)) := by
  refine ReadsBack.of_succ exact fun fuel rest enough ends => ?_
  have length : v.toChars.length + (fieldsChars fs).length + 1 ≤
      (object ((name, v) :: fs)).toChars.length := by
    simp only [toChars, List.length_append, List.length_cons]
    omega
  have read := fields fuel rest (by omega)
  rw [toChars]
  simp only [List.append_assoc, List.cons_append]
  rw [readTree, skipSpace_cons (by decide)]
  simp only [stringChars, List.append_assoc, List.cons_append, List.nil_append] at read ⊢
  simp [skipSpace_cons (by decide : isSpace '"' = false), read, toTree]

mutual

/-- A value is read back as the document it is. -/
theorem readTree_toChars : (v : Json) → Exact v → ReadsBack v
  | null, exact => readsBack_word exact fun _ _ => rfl
  | bool true, exact => readsBack_word exact fun _ _ => rfl
  | bool false, exact => readsBack_word exact fun _ _ => rfl
  | number (.int _), fits => readsBack_int fits
  | string s, _ => readsBack_string s
  | array [], exact => readsBack_word exact fun _ _ => rfl
  | array (v :: vs), exact =>
    readsBack_array exact (readItems_chars vs exact.2 exact.1 (readTree_toChars v exact.1))
  | object [], exact => readsBack_word exact fun _ _ => rfl
  | object ((name, v) :: fs), exact =>
    readsBack_object exact (readFields_chars fs exact.2 name exact.1 (readTree_toChars v exact.1))

theorem readItems_chars : (vs : List Json) → ExactItems vs → {v : Json} → Exact v → ReadsBack v →
    ItemsReadBack v vs
  | [], _, _, _, first => itemsReadBack_nil first
  | w :: ws, others, _, exact, first =>
    itemsReadBack_cons exact first
      (readItems_chars ws others.2 others.1 (readTree_toChars w others.1))

theorem readFields_chars : (fs : List (String × Json)) → ExactFields fs → (name : String) →
    {v : Json} → Exact v → ReadsBack v → FieldsReadBack name v fs
  | [], _, _, _, _, first => fieldsReadBack_nil first
  | (other, w) :: ws, others, _, _, exact, first =>
    fieldsReadBack_cons exact first
      (readFields_chars ws others.2 other others.1 (readTree_toChars w others.1))

end

/-- **A text is read back.**  Whatever is printed without a float is read as the document it is. -/
theorem parse_render {v : Json} (exact : Exact v) : Tree.parse v.render = some v.toTree := by
  have read := readTree_toChars v exact (2 * v.toChars.length + 1) [] (by omega) ends_nil
  rw [List.append_nil] at read
  rw [Tree.parse, render, String.toList_ofList, Tree.parseChars, read]
  rfl

end JobNode.Json
