import JobNode.Job.Key
import JobNode.Proofs.Job.Record

/-!
# Which texts are account identifiers

An account identifier is written as forty hexadecimal digits of either case, bare or after a prefix.
The digits spell its bytes, so that two texts name one account just if they have the same digits up
to case, and the texts that are written for accounts are in the order of their bytes.

* `Hex.decodeChars_eq_ok_iff`: characters are read as bytes just if they spell them.
* `Hex.encodeChars_lt_iff`: digits are in the order of the bytes that they are written for.
* `AccountId.parse_eq_ok_iff`: a text is read as an identifier just if it names it.
* `AccountId.texts_as_bytes`: what becomes of every text, and how texts and bytes agree.
-/

namespace JobNode

/-! ## Digits and the bytes they spell -/

namespace Hex

/-- The character is the digit of the value, in lower or in upper case. -/
def Shows (c : Char) (value : Nat) : Prop :=
  "0123456789abcdef".toList[value]? = some c ∨ "0123456789ABCDEF".toList[value]? = some c

instance (c : Char) (value : Nat) : Decidable (Shows c value) := inferInstanceAs (Decidable (_ ∨ _))

/-- The characters are the digits of the bytes, two for each byte and the high half first. -/
inductive Spells : List Char → List UInt8 → Prop where
  | nil : Spells [] []
  | cons {high low : Char} {byte : UInt8} {cs : List Char} {bytes : List UInt8}
    (upper : Shows high (byte.toNat / 16)) (lower : Shows low (byte.toNat % 16))
    (rest : Spells cs bytes) : Spells (high :: low :: cs) (byte :: bytes)

variable {c : Char} {value position : Nat} {cs : List Char} {bytes others : List UInt8}

theorem Shows.lt (shows : Shows c value) : value < 16 := by
  rcases shows with lower | upper
  · exact (List.getElem?_eq_some_iff.1 lower).1
  · exact (List.getElem?_eq_some_iff.1 upper).1

/-- What is true of the sixteen digits in lower case, and of those in upper case. -/
theorem Shows.of_tables {motive : Char → Nat → Prop}
    (lower : ∀ v : Fin 16, motive ("0123456789abcdef".toList.getD v ' ') v)
    (upper : ∀ v : Fin 16, motive ("0123456789ABCDEF".toList.getD v ' ') v)
    (shows : Shows c value) : motive c value := by
  have bound : value < 16 := shows.lt
  rcases shows with here | here
  · have at_ := lower ⟨value, bound⟩
    rwa [List.getD_eq_getElem?_getD, here] at at_
  · have at_ := upper ⟨value, bound⟩
    rwa [List.getD_eq_getElem?_getD, here] at at_

theorem digitValue?_lt (read : digitValue? c = some value) : c.toNat < 103 ∧ value < 16 := by
  unfold digitValue? at read
  dsimp only at read
  split at read
  · cases read
    omega
  · split at read
    · cases read
      omega
    · split at read
      · cases read
        omega
      · cases read

theorem digitValue?_eq_some_iff : digitValue? c = some value ↔ Shows c value := by
  constructor
  · intro read
    obtain ⟨ascii, small⟩ := digitValue?_lt read
    have table : ∀ n : Fin 103, ∀ v : Fin 16,
        digitValue? (Char.ofNat n) = some v.val → Shows (Char.ofNat n) v := by decide
    have shows := table ⟨c.toNat, ascii⟩ ⟨value, small⟩
    rw [Char.ofNat_toNat] at shows
    exact shows read
  · exact Shows.of_tables (motive := fun c v => digitValue? c = some v) (by decide) (by decide)

/-- In lower case a digit is the one that is written. -/
theorem Shows.toLower (shows : Shows c value) : c.toLower = digit value :=
  shows.of_tables (motive := fun c v => c.toLower = digit v) (by decide) (by decide)

theorem Shows.utf8Size (shows : Shows c value) : c.utf8Size = 1 :=
  shows.of_tables (motive := fun c _ => c.utf8Size = 1) (by decide) (by decide)

/-- Two digits are read as the byte with these halves. -/
theorem toUInt8_eq_iff {high low : Nat} {byte : UInt8} (hh : high < 16) (hl : low < 16) :
    (16 * high + low).toUInt8 = byte ↔ high = byte.toNat / 16 ∧ low = byte.toNat % 16 := by
  have value : ((16 * high + low).toUInt8).toNat = 16 * high + low := by
    rw [Nat.toUInt8, UInt8.toNat_ofNat']
    exact Nat.mod_eq_of_lt (by omega)
  rw [← UInt8.toNat_inj, value]
  omega

theorem decodePairs_eq_ok_iff : decodePairs position cs = .ok bytes ↔ Spells cs bytes := by
  constructor
  · intro read
    fun_induction decodePairs position cs generalizing bytes with
    | case1 =>
      cases read
      exact .nil
    | case2 => cases read
    | case3 => cases read
    | case4 => cases read
    | case5 position high low rest front back lower upper tail tailRead ih =>
      cases read
      rw [digitValue?_eq_some_iff] at lower upper
      obtain ⟨half, half'⟩ := (toUInt8_eq_iff upper.lt lower.lt).1 rfl
      refine .cons ?_ ?_ (ih tailRead)
      · rwa [← half]
      · rwa [← half']
    | case6 => cases read
  · intro spells
    induction spells generalizing position with
    | nil => rfl
    | @cons high low byte cs bytes upper lower rest ih =>
      have value := digitValue?_eq_some_iff.2 upper
      have value' := digitValue?_eq_some_iff.2 lower
      have joined : (16 * (byte.toNat / 16) + byte.toNat % 16).toUInt8 = byte :=
        (toUInt8_eq_iff upper.lt lower.lt).2 ⟨rfl, rfl⟩
      rw [decodePairs, value, value']
      simp only [ih, joined]

theorem Spells.length_eq (spells : Spells cs bytes) : cs.length = 2 * bytes.length := by
  induction spells with
  | nil => rfl
  | cons _ _ _ ih =>
    rw [List.length_cons, List.length_cons, List.length_cons, ih]
    omega

theorem Spells.byteLength_eq (spells : Spells cs bytes) : byteLength cs = 2 * bytes.length := by
  induction spells with
  | nil => rfl
  | cons upper lower _ ih =>
    rw [byteLength_cons, byteLength_cons, upper.utf8Size, lower.utf8Size, ih, List.length_cons]
    omega

theorem Spells.exists_shows (spells : Spells cs bytes) : ∀ c ∈ cs, ∃ value, Shows c value := by
  induction spells with
  | nil => exact fun c mem => absurd mem List.not_mem_nil
  | cons upper lower _ ih =>
    rw [List.forall_mem_cons, List.forall_mem_cons]
    exact ⟨⟨_, upper⟩, ⟨_, lower⟩, ih⟩

/-- Every even number of digits spells bytes. -/
theorem exists_spells {n : Nat} (length : cs.length = 2 * n)
    (digital : ∀ c ∈ cs, ∃ value, Shows c value) : ∃ bytes, bytes.length = n ∧ Spells cs bytes := by
  induction n generalizing cs with
  | zero =>
    rw [List.eq_nil_of_length_eq_zero length]
    exact ⟨[], rfl, .nil⟩
  | succ n ih =>
    rcases cs with _ | ⟨high, _ | ⟨low, rest⟩⟩
    · cases length
    · cases length
    · rw [List.forall_mem_cons, List.forall_mem_cons] at digital
      obtain ⟨⟨front, upper⟩, ⟨back, lower⟩, digital⟩ := digital
      simp only [List.length_cons] at length
      obtain ⟨bytes, count, spells⟩ := ih (by omega) digital
      obtain ⟨half, half'⟩ := (toUInt8_eq_iff upper.lt lower.lt).1 rfl
      refine ⟨(16 * front + back).toUInt8 :: bytes, by rw [List.length_cons, count], ?_⟩
      rw [half] at upper
      rw [half'] at lower
      exact .cons upper lower spells

theorem decodeChars_eq_ok_iff : decodeChars cs = .ok bytes ↔ Spells cs bytes := by
  unfold decodeChars
  split
  next odd =>
    constructor
    · intro read
      cases read
    · intro spells
      have even := spells.byteLength_eq
      omega
  · exact decodePairs_eq_ok_iff

/-- In lower case the digits are those that are written. -/
theorem Spells.map_toLower (spells : Spells cs bytes) :
    cs.map Char.toLower = encodeChars bytes := by
  induction spells with
  | nil => rfl
  | cons upper lower _ ih =>
    rw [List.map_cons, List.map_cons, upper.toLower, lower.toLower, ih]
    rfl

theorem encodeChars_inj : encodeChars bytes = encodeChars others ↔ bytes = others := by
  refine ⟨fun same => ?_, congrArg encodeChars⟩
  have read := decodeChars_encodeChars bytes
  rw [same, decodeChars_encodeChars] at read
  injection read with eq
  exact eq.symm

/-! ### Order -/

theorem digit_lt_digit_iff {m n : Nat} (hm : m < 16) (hn : n < 16) :
    digit m < digit n ↔ m < n := by
  have table : ∀ i j : Fin 16, digit i < digit j ↔ i.val < j.val := by decide
  exact table ⟨m, hm⟩ ⟨n, hn⟩

theorem digit_eq_digit_iff {m n : Nat} (hm : m < 16) (hn : n < 16) :
    digit m = digit n ↔ m = n := by
  have table : ∀ i j : Fin 16, digit i = digit j ↔ i.val = j.val := by decide
  exact table ⟨m, hm⟩ ⟨n, hn⟩

/-- Digits are in the order of the bytes that they are written for. -/
theorem encodeChars_lt_iff :
    encodeChars bytes < encodeChars others ↔
      List.lex bytes others (fun x y => x.toNat < y.toNat) = true := by
  induction bytes generalizing others with
  | nil =>
    cases others with
    | nil => decide
    | cons y others =>
      refine iff_of_true ?_ rfl
      exact List.nil_lt_cons _ _
  | cons x bytes ih =>
    cases others with
    | nil =>
      refine iff_of_false ?_ Bool.false_ne_true
      exact List.not_lt_nil _
    | cons y others =>
      have ⟨hx, hx'⟩ := halves x
      have ⟨hy, hy'⟩ := halves y
      have same : x = y ↔ x.toNat = y.toNat := UInt8.toNat_inj.symm
      have split (b : UInt8) (bs : List UInt8) : encodeChars (b :: bs) =
          digit (b.toNat / 16) :: digit (b.toNat % 16) :: encodeChars bs := rfl
      rw [split, split, List.cons_lt_cons_iff, List.cons_lt_cons_iff, digit_lt_digit_iff hx hy,
        digit_eq_digit_iff hx hy, digit_lt_digit_iff hx' hy', digit_eq_digit_iff hx' hy', ih]
      simp only [List.lex, Bool.or_eq_true, Bool.and_eq_true, decide_eq_true_eq, beq_iff_eq, same]
      generalize List.lex bytes others _ = rest
      -- a byte is smaller if its high half is, or if its low half is and the high halves agree
      cases rest <;> simp only [Bool.false_eq_true, and_true, and_false, or_false] <;> omega

end Hex

/-! ## What is read -/

/-- Other errors leave the results alone. -/
theorem mapError_eq_ok_iff {ε δ α : Type} {f : ε → δ} {x : Except ε α} {a : α} :
    x.mapError f = .ok a ↔ x = .ok a := by
  cases x with
  | error e => exact iff_of_false nofun nofun
  | ok b =>
    constructor
    · rintro ⟨⟩
      rfl
    · rintro ⟨⟩
      rfl

/-- A string is read as its parser reads it. -/
theorem Json.Decode.parsed_string_eq_ok_iff {α : Type} {parse : String → Except String α}
    {s : String} {a : α} : parsed parse (.string (some s)) = .ok a ↔ parse s = .ok a := by
  unfold parsed string
  cases outcome : parse s with
  | error reason =>
    simp only [bind, Except.bind, outcome]
    constructor
    · rintro ⟨⟩
    · rintro ⟨⟩
  | ok b =>
    simp only [bind, Except.bind, outcome, Except.ok.injEq]

/-! ## Texts of account identifiers -/

namespace AccountId

/-- What may stand before the digits. -/
def marks : List (List Char) := [[], ['0', 'x'], ['0', 'X']]

/-- The text is forty digits, bare or after a prefix. -/
def IsWritten (s : String) : Prop :=
  ∃ mark ∈ marks, ∃ digits, s.toList = mark ++ digits ∧ digits.length = 40 ∧
    ∀ c ∈ digits, ∃ value, Hex.Shows c value

/-- The text is the digits of the bytes of the account, bare or after a prefix. -/
def Names (s : String) (a : AccountId) : Prop :=
  ∃ mark ∈ marks, ∃ digits, s.toList = mark ++ digits ∧ Hex.Spells digits a.bytes

/-- The text without a prefix, in lower case. -/
def plain (s : String) : List Char := (dropMark s.toList).map Char.toLower

variable {s t : String} {a b : AccountId}

/-- No digits begin like a prefix. -/
theorem dropMark_digits {digits : List Char} (digital : ∀ c ∈ digits, ∃ value, Hex.Shows c value) :
    dropMark digits = digits := by
  unfold dropMark
  split
  next rest =>
    obtain ⟨value, shows⟩ := digital 'x' (by simp)
    rw [← Hex.digitValue?_eq_some_iff] at shows
    cases shows
  next rest =>
    obtain ⟨value, shows⟩ := digital 'X' (by simp)
    rw [← Hex.digitValue?_eq_some_iff] at shows
    cases shows
  · rfl

theorem dropMark_marked {mark digits : List Char} (known : mark ∈ marks)
    (digital : ∀ c ∈ digits, ∃ value, Hex.Shows c value) : dropMark (mark ++ digits) = digits := by
  unfold marks at known
  rw [List.mem_cons, List.mem_cons, List.mem_singleton] at known
  rcases known with rfl | rfl | rfl
  · exact dropMark_digits digital
  · rfl
  · rfl

/-- What is dropped is a prefix. -/
theorem exists_mark (cs : List Char) : ∃ mark ∈ marks, cs = mark ++ dropMark cs := by
  unfold dropMark marks
  split
  · exact ⟨['0', 'x'], by simp, rfl⟩
  · exact ⟨['0', 'X'], by simp, rfl⟩
  · exact ⟨[], by simp, rfl⟩

theorem Names.spells (names : Names s a) : Hex.Spells (dropMark s.toList) a.bytes := by
  obtain ⟨mark, known, digits, text, spells⟩ := names
  rw [text, dropMark_marked known spells.exists_shows]
  exact spells

theorem parse_eq_ok_iff : parse s = .ok a ↔ Names s a := by
  constructor
  · intro read
    obtain ⟨mark, known, text⟩ := exists_mark s.toList
    unfold parse at read
    split at read
    · cases read
    next bytes decoded =>
      split at read
      · cases read
        exact ⟨mark, known, _, text, Hex.decodeChars_eq_ok_iff.1 decoded⟩
      · cases read
  · intro names
    have decoded := Hex.decodeChars_eq_ok_iff.2 names.spells
    have length : a.bytes.length = size := a.length_eq
    rw [parse, decoded]
    simp only [length, dif_pos]

theorem read_eq_ok_iff : read s = .ok a ↔ Names s a := by
  rw [← parse_eq_ok_iff, read]
  exact mapError_eq_ok_iff

theorem isWritten_iff : IsWritten s ↔ ∃ a, Names s a := by
  constructor
  · rintro ⟨mark, known, digits, text, length, digital⟩
    obtain ⟨bytes, count, spells⟩ := Hex.exists_spells (n := 20) length digital
    exact ⟨⟨bytes, count⟩, mark, known, digits, text, spells⟩
  · rintro ⟨a, mark, known, digits, text, spells⟩
    refine ⟨mark, known, digits, text, ?_, spells.exists_shows⟩
    rw [spells.length_eq, a.length_eq]

/-- A text that names an account is what is written for it, but for the prefix and the case. -/
theorem Names.plain_eq (names : Names s a) : plain s = Hex.encodeChars a.bytes :=
  names.spells.map_toLower

theorem Names.eq_iff (first : Names s a) (second : Names t b) : a = b ↔ plain s = plain t := by
  rw [first.plain_eq, second.plain_eq, Hex.encodeChars_inj]
  constructor
  · rintro rfl
    rfl
  · intro same
    cases a
    cases b
    cases same
    rfl

theorem Names.toText_eq (names : Names s a) : a.toText = "0x" ++ String.ofList (plain s) := by
  rw [names.plain_eq]
  rfl

/-- A refusal keeps the text. -/
theorem exists_message_of_refused {e : ParseError} (refused : parse s = .error e) :
    ∃ cause, e.message = "invalid account id '" ++ s ++ "': " ++ cause := by
  unfold parse at refused
  split at refused
  next cause _ =>
    cases refused
    exact ⟨cause.message, rfl⟩
  next bytes _ =>
    split at refused
    · cases refused
    · cases refused
      have opening : "': expected " = "': " ++ "expected " := rfl
      refine ⟨"expected " ++ Decimal.ofNat size ++ " bytes, got " ++ Decimal.ofNat bytes.length, ?_⟩
      unfold ParseError.message
      dsimp only
      generalize Decimal.ofNat size = wanted
      generalize Decimal.ofNat bytes.length = given
      rw [opening]
      simp only [String.append_assoc]

/-- A string in a document names the account that its text names. -/
theorem decodeText_string :
    Json.decodeText Json.Decode.account (Json.string s).render = .ok a ↔ Names s a := by
  have exact : Json.Exact (Json.string s) := trivial
  rw [← parse_eq_ok_iff, Json.decodeText, Json.parse_render exact]
  change Json.Decode.account (.string (some s)) = .ok a ↔ _
  rw [Json.Decode.account, Json.Decode.parsed_string_eq_ok_iff, mapError_eq_ok_iff]

theorem toText_lt_iff : a.toText < b.toText ↔ a.lt b = true := by
  change a.toText.toList < b.toText.toList ↔ _
  rw [toList_toText, toList_toText, List.cons_lt_cons_self, List.cons_lt_cons_self]
  exact Hex.encodeChars_lt_iff

/-- **Texts and bytes of account identifiers agree.**  A text is read just if it is forty digits of
either case, bare or after a prefix, and then as the bytes that the digits spell; every other text
is refused as not valid.  Texts name one account just if they are equal without prefix and in lower
case, which is how the account is written.  What is written is read back, from a document too, where
a string is read as its text is.  Accounts are in the order of what is written for them. -/
theorem texts_as_bytes :
    (∀ s, (∃ a, read s = .ok a) ↔ IsWritten s) ∧
    (∀ s a, read s = .ok a ↔ Names s a) ∧
    (∀ s, IsWritten s ∨
      ∃ cause, read s = .error (.validation ("invalid account id '" ++ s ++ "': " ++ cause))) ∧
    (∀ s t a b, read s = .ok a → read t = .ok b → (a = b ↔ plain s = plain t)) ∧
    (∀ s a, read s = .ok a → a.toText = "0x" ++ String.ofList (plain s)) ∧
    (∀ a : AccountId, read a.toText = .ok a ∧
      Json.decodeText Json.Decode.account a.toJson.render = .ok a) ∧
    (∀ s a, Json.decodeText Json.Decode.account (Json.string s).render = .ok a ↔
      read s = .ok a) ∧
    (∀ a b : AccountId, a.lt b = true ↔ a.toText < b.toText) ∧
    (∀ accounts : List AccountId,
      (accounts.mergeSort fun a b => !b.lt a).map toText =
        (accounts.map toText).mergeSort fun s t => decide (s ≤ t)) := by
  refine ⟨fun s => ?_, fun s a => read_eq_ok_iff, fun s => ?_, fun s t a b first second => ?_,
    fun s a accepted => ?_, fun a => ⟨?_, ?_⟩, fun s a => ?_, fun a b => toText_lt_iff.symm,
    fun accounts => ?_⟩
  · rw [isWritten_iff]
    exact exists_congr fun a => read_eq_ok_iff
  · cases parsed : parse s with
    | ok a => exact .inl (isWritten_iff.2 ⟨a, parse_eq_ok_iff.1 parsed⟩)
    | error e =>
      obtain ⟨cause, message⟩ := exists_message_of_refused parsed
      refine .inr ⟨cause, ?_⟩
      rw [read, parsed, ← message]
      rfl
  · exact (read_eq_ok_iff.1 first).eq_iff (read_eq_ok_iff.1 second)
  · exact (read_eq_ok_iff.1 accepted).toText_eq
  · exact read_eq_ok_iff.2 (parse_eq_ok_iff.1 (parse_toText a))
  · exact decodeText_string.2 (parse_eq_ok_iff.1 (parse_toText a))
  · rw [decodeText_string, read_eq_ok_iff]
  · refine List.map_mergeSort fun a _ b _ => ?_
    rw [Bool.eq_iff_iff, decide_eq_true_iff, Bool.not_eq_true', ← Bool.not_eq_true, ← toText_lt_iff]
    exact String.not_lt

/-- The bytes of an account that is named in several ways. -/
def sampleNamed : AccountId :=
  ⟨[0xab, 0xcd, 0xef, 0x01, 0x23, 0x45, 0x67, 0x89, 0xab, 0xcd, 0xef, 0x01, 0x23, 0x45, 0x67, 0x89,
    0xab, 0xcd, 0xef, 0x01], rfl⟩

/-- Two texts of one account, and how it is written. -/
theorem sampleNamed_as_bytes :
    read "0XABCDEF0123456789ABCDEF0123456789ABCDEF01" = .ok sampleNamed ∧
      read "abcdef0123456789ABCDEF0123456789aBcDeF01" = .ok sampleNamed ∧
      plain "0XABCDEF0123456789ABCDEF0123456789ABCDEF01" =
        plain "abcdef0123456789ABCDEF0123456789aBcDeF01" ∧
      sampleNamed.toText =
        "0x" ++ String.ofList (plain "0XABCDEF0123456789ABCDEF0123456789ABCDEF01") := by
  have marked : read "0XABCDEF0123456789ABCDEF0123456789ABCDEF01" = .ok sampleNamed := by rfl
  have bare : read "abcdef0123456789ABCDEF0123456789aBcDeF01" = .ok sampleNamed := by rfl
  obtain ⟨-, -, -, same, written, -⟩ := texts_as_bytes
  exact ⟨marked, bare, (same _ _ _ _ marked bare).1 rfl, written _ _ marked⟩

end AccountId

end JobNode
