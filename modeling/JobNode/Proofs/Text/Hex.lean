import JobNode.AccountId
import JobNode.Job.Basic
import JobNode.Text.Hex

/-!
# Hexadecimal names read back

Bytes, account identifiers and job identifiers are read back from the text they are written as.  So
no two of them share a text, and a table may be keyed by the texts.

* `Hex.decode_encode`, `AccountId.parse_toText`, `Uuid.parse_toText`: reading undoes writing;
* `AccountId.toText_inj`, `JobId.toText_inj`: different names have different texts.
-/

namespace JobNode

/-! ## Bytes -/

namespace Hex

theorem digitValue?_digit {n : Nat} (small : n < 16) : digitValue? (digit n) = some n := by
  have all : ∀ k : Fin 16, digitValue? (digit k) = some k.val := by decide
  exact all ⟨n, small⟩

theorem utf8Size_digit {n : Nat} (small : n < 16) : (digit n).utf8Size = 1 := by
  have all : ∀ k : Fin 16, (digit k).utf8Size = 1 := by decide
  exact all ⟨n, small⟩

theorem byteLength_cons (c : Char) (cs : List Char) :
    byteLength (c :: cs) = c.utf8Size + byteLength cs := by
  have shift (n : Nat) : cs.foldl (fun n c => n + c.utf8Size) n = n + byteLength cs := by
    unfold byteLength
    induction cs generalizing n with
    | nil => rfl
    | cons d ds ih =>
      rw [List.foldl_cons, List.foldl_cons, ih (n + d.utf8Size), ih (0 + d.utf8Size)]
      omega
  rw [byteLength, List.foldl_cons, shift]
  omega

theorem halves (b : UInt8) : b.toNat / 16 < 16 ∧ b.toNat % 16 < 16 := by
  have := b.toNat_lt
  omega

theorem byteLength_encodeChars (bytes : List UInt8) :
    byteLength (encodeChars bytes) = 2 * bytes.length := by
  induction bytes with
  | nil => rfl
  | cons b bytes ih =>
    have ⟨high, low⟩ := halves b
    rw [encodeChars, List.flatMap_cons, encodeByte, List.cons_append, List.cons_append,
      List.nil_append, byteLength_cons, byteLength_cons, utf8Size_digit high, utf8Size_digit low]
    rw [encodeChars] at ih
    rw [ih, List.length_cons]
    omega

theorem decodePairs_encodeChars (position : Nat) (bytes : List UInt8) :
    decodePairs position (encodeChars bytes) = .ok bytes := by
  induction bytes generalizing position with
  | nil => rfl
  | cons b bytes ih =>
    have ⟨high, low⟩ := halves b
    have joined : (16 * (b.toNat / 16) + b.toNat % 16).toUInt8 = b := by
      rw [Nat.div_add_mod]
      exact UInt8.ofNat_toNat
    have rest := ih (position + 2)
    rw [encodeChars] at rest ⊢
    rw [List.flatMap_cons, encodeByte, List.cons_append, List.cons_append, List.nil_append,
      decodePairs, digitValue?_digit high, digitValue?_digit low]
    simp only [rest, joined]

theorem decodeChars_encodeChars (bytes : List UInt8) :
    decodeChars (encodeChars bytes) = .ok bytes := by
  have even : ¬ byteLength (encodeChars bytes) % 2 = 1 := by
    rw [byteLength_encodeChars]
    omega
  rw [decodeChars, if_neg even, decodePairs_encodeChars]

theorem decode_encode (bytes : List UInt8) : decode (encode bytes) = .ok bytes := by
  rw [decode, encode, String.toList_ofList, decodeChars_encodeChars]

end Hex

/-! ## Account identifiers -/

namespace AccountId

theorem toList_toText (a : AccountId) : a.toText.toList = '0' :: 'x' :: Hex.encodeChars a.bytes := by
  rw [toText, Hex.encode, String.toList_append, String.toList_ofList]
  simp

theorem parse_toText (a : AccountId) : parse a.toText = .ok a := by
  have length : a.bytes.length = size := a.length_eq
  rw [parse, toList_toText, dropMark, Hex.decodeChars_encodeChars]
  simp only [length, dif_pos]

theorem toText_inj {a b : AccountId} : a.toText = b.toText ↔ a = b := by
  constructor
  · intro same
    have read := parse_toText a
    rw [same, parse_toText] at read
    injection read with eq
    exact eq.symm
  · exact congrArg toText

end AccountId

/-! ## Identifiers of 128 bits -/

namespace Uuid

theorem length_fixedHex (width n : Nat) : (fixedHex width n).length = width := by
  induction width generalizing n with
  | zero => rfl
  | succ width ih => simp [fixedHex, ih]

theorem number?_fixedHex (width n : Nat) :
    Hex.number? (fixedHex width n) = some (n % Nat.pow 16 width) := by
  induction width generalizing n with
  | zero => simp [fixedHex, Hex.number?, Nat.mod_one]
  | succ width ih =>
    have front := ih (n / 16)
    have last : n % 16 < 16 := Nat.mod_lt n (by decide)
    have power : Nat.pow 16 (width + 1) = 16 * Nat.pow 16 width := Nat.mul_comm _ _
    have joined : 16 * (n / 16 % Nat.pow 16 width) + n % 16 = n % Nat.pow 16 (width + 1) := by
      rw [power, Nat.mod_mul]
      omega
    rw [Hex.number?] at front ⊢
    rw [fixedHex, List.foldlM_append, front]
    simp only [bind, Option.bind_some, List.foldlM_cons, List.foldlM_nil, pure,
      Hex.digitValue?_digit last, Option.map_some, joined]

/-- Groups are taken apart where they were put together. -/
theorem ungroup?_group {lengths : List Nat} {cs : List Char} (some : lengths ≠ [])
    (whole : cs.length = lengths.foldr (· + ·) 0) : ungroup? lengths (group lengths cs) = .some cs := by
  induction lengths generalizing cs with
  | nil => exact absurd rfl some
  | cons n ns ih =>
    cases ns with
    | nil =>
      have width : cs.length = n := by simpa using whole
      rw [group, ungroup?, if_pos width]
    | cons m ns =>
      rw [List.foldr_cons] at whole
      have left : (cs.drop n).length = (m :: ns).foldr (· + ·) 0 := by
        rw [List.length_drop]
        omega
      have rest := ih (by simp) left
      have width : (cs.take n).length = n := by
        rw [List.length_take]
        omega
      have past : (cs.take n ++ '-' :: group (m :: ns) (cs.drop n)).drop n =
          '-' :: group (m :: ns) (cs.drop n) := by
        rw [List.drop_append_of_le_length (by omega), List.drop_of_length_le (by omega),
          List.nil_append]
      have front : (cs.take n ++ '-' :: group (m :: ns) (cs.drop n)).take n = cs.take n := by
        rw [List.take_append_of_le_length (by omega), List.take_of_length_le (by omega)]
      rw [group, ungroup?, past]
      · simp [rest, front]
      · simp
      · simp

theorem length_group {lengths : List Nat} {cs : List Char} (some : lengths ≠ [])
    (whole : cs.length = lengths.foldr (· + ·) 0) :
    (group lengths cs).length + 1 = cs.length + lengths.length := by
  induction lengths generalizing cs with
  | nil => exact absurd rfl some
  | cons n ns ih =>
    cases ns with
    | nil => rfl
    | cons m ns =>
      rw [List.foldr_cons] at whole
      have left : (cs.drop n).length = (m :: ns).foldr (· + ·) 0 := by
        rw [List.length_drop]
        omega
      have rest := ih (by simp) left
      rw [group, List.length_append, List.length_take, List.length_cons]
      · simp only [List.length_cons] at rest ⊢
        omega
      · simp

theorem ofDigits?_fixedHex (u : Uuid) : ofDigits? (fixedHex 32 u.value) = some u := by
  have small : u.value < Nat.pow 16 32 := u.value_lt
  have same : ofNat u.value = u := by
    have value : u.value % count = u.value := Nat.mod_eq_of_lt u.value_lt
    cases u
    simp only [ofNat, value]
  rw [ofDigits?, length_fixedHex, if_pos rfl, number?_fixedHex, Nat.mod_eq_of_lt small,
    Option.map_some, same]

theorem parse_toText (u : Uuid) : parse u.toText = .ok u := by
  have whole : (fixedHex 32 u.value).length = groupLengths.foldr (· + ·) 0 :=
    length_fixedHex 32 u.value
  -- with its hyphens the text is too long for plain digits
  have plain : ofDigits? u.toChars = none := by
    have length := length_group (by decide) whole
    rw [whole] at length
    have other : (group groupLengths (fixedHex 32 u.value)).length ≠ 32 := by
      have : groupLengths.foldr (· + ·) 0 + groupLengths.length = 37 := rfl
      omega
    rw [toChars, ofDigits?, if_neg other]
  have grouped : ofGroups? u.toChars = some u := by
    rw [toChars, ofGroups?, ungroup?_group (by decide) whole, Option.bind_some,
      ofDigits?_fixedHex]
  rw [parse, toText, String.toList_ofList, ofChars?, plain, grouped]

theorem toText_inj {u v : Uuid} : u.toText = v.toText ↔ u = v := by
  constructor
  · intro same
    have read := parse_toText u
    rw [same, parse_toText] at read
    injection read with eq
    exact eq.symm
  · exact congrArg toText

end Uuid

/-! ## Job identifiers -/

namespace JobId

theorem parse_toText (id : JobId) : parse id.toText = .ok id := by
  rw [parse, toText, Uuid.parse_toText]

theorem toText_inj {a b : JobId} : a.toText = b.toText ↔ a = b := by
  constructor
  · intro same
    have uuids : a.uuid = b.uuid := Uuid.toText_inj.1 same
    cases a
    cases b
    cases uuids
    rfl
  · exact congrArg toText

end JobId

end JobNode
