import JobNode.Proofs.Text.Decimal
import JobNode.Webhook.Sender
import Mathlib.Data.List.Dedup
import Mathlib.Data.List.Induction

/-!
# All headers or none

A webhook is built with all of its headers or not at all.  Of headers whose names differ in case
only, the last one counts.  The first header that is not good is reported, whatever the address; but
a good one for which there is no room leaves nothing to report.  How much room there is, is left open.

* `Headers.Taken`: headers that are good and find room.
* `Headers.reads_iff`: what becomes of headers.
* `Webhook.all_headers_or_none`: what becomes of a webhook, and what its headers say.
-/

namespace JobNode

namespace Dict

variable {α : Type} {key : String} {entries : List (String × α)}

theorem lookupEntry_eq_none_iff : lookupEntry key entries = none ↔ ∀ e ∈ entries, e.1 ≠ key := by
  induction entries with
  | nil => simp [lookupEntry]
  | cons head rest ih =>
    obtain ⟨k, v⟩ := head
    by_cases own : k = key <;> simp [lookupEntry, own, ih]

/-- A dictionary of pairs has as many entries as the pairs have keys. -/
theorem size_ofList (pairs : List (String × α)) :
    (ofList pairs).size = (pairs.map (·.1)).dedup.length := by
  have keys : ((ofList pairs).entries.map (·.1)).Perm (pairs.map (·.1)).dedup := by
    refine (List.perm_ext_iff_of_nodup (nodup_keys _) (List.nodup_dedup _)).2 fun key => ?_
    have absent : key ∉ (ofList pairs).entries.map (·.1) ↔ key ∉ pairs.map (·.1) := by
      have none : lookupEntry key (ofList pairs).entries = none ↔
          lookupEntry key pairs.reverse = none := by
        rw [← get?_ofList, get?]
      rw [lookupEntry_eq_none_iff, lookupEntry_eq_none_iff] at none
      simpa only [List.mem_map, List.mem_reverse, not_exists, not_and] using none
    rw [List.mem_dedup]
    exact not_iff_not.1 absent
  rw [size, ← keys.length_eq, List.length_map]

end Dict

namespace Headers

variable {room : Room} {pairs before after : List (String × String)} {p : String × String}
  {e : HeaderError}

/-! ## What becomes of headers -/

/-- Names and values of headers, the names in lower case. -/
def lowered (pairs : List (String × String)) : List (String × String) :=
  pairs.map fun p => (Text.lowerAscii p.1, p.2)

/-- The names of headers in lower case, the latest first. -/
def names (pairs : List (String × String)) : List String :=
  ((lowered pairs).map (·.1)).reverse

theorem names_concat (pairs : List (String × String)) (p : String × String) :
    names (pairs ++ [p]) = Text.lowerAscii p.1 :: names pairs := by
  simp [names, lowered]

/-- The header can be sent. -/
def Good (p : String × String) : Prop := isName p.1 = true ∧ isValue p.2 = true

/-- What is wrong with a header, its name being judged before its value. -/
inductive Bad : String × String → HeaderError → Prop
  | name {name value : String} (bad : isName name = false) : Bad (name, value) (.badName name)
  | value {name value : String} (good : isName name = true) (bad : isValue value = false) :
    Bad (name, value) (.badValue (Text.lowerAscii name))

/-- The headers are good, and each of them finds room after those before it. -/
structure Taken (room : Room) (pairs : List (String × String)) : Prop where
  good : ∀ p ∈ pairs, Good p
  fits : ∀ before p after, pairs = before ++ p :: after → room (names (before ++ [p])) = true

/-- What becomes of headers. -/
inductive Reads (room : Room) (pairs : List (String × String)) :
    Option (Except HeaderError (Dict String)) → Prop
  | all (taken : Taken room pairs) : Reads room pairs (some (.ok (.ofList (lowered pairs))))
  | refused {before after : List (String × String)} {p : String × String} {e : HeaderError}
    (split : pairs = before ++ p :: after) (taken : Taken room before) (bad : Bad p e) :
    Reads room pairs (some (.error e))
  | full {before after : List (String × String)} {p : String × String}
    (split : pairs = before ++ p :: after) (taken : Taken room before) (good : Good p)
    (full : room (names (before ++ [p])) = false) : Reads room pairs none

theorem good_or_bad (p : String × String) : Good p ∨ ∃ e, Bad p e := by
  obtain ⟨name, value⟩ := p
  cases ofName : isName name with
  | false => exact .inr ⟨_, .name ofName⟩
  | true =>
    cases ofValue : isValue value with
    | false => exact .inr ⟨_, .value ofName ofValue⟩
    | true => exact .inl ⟨ofName, ofValue⟩

theorem taken_nil : Taken room [] where
  good _ mem := nomatch mem
  fits before p after split := by simp at split

theorem taken_concat :
    Taken room (pairs ++ [p]) ↔
      Taken room pairs ∧ Good p ∧ room (names (pairs ++ [p])) = true := by
  constructor
  · intro taken
    have inner : Taken room pairs :=
      { good := fun q mem => taken.good q (List.mem_append_left _ mem)
        fits := fun before q after split =>
          taken.fits before q (after ++ [p]) (by rw [split, List.append_assoc, List.cons_append]) }
    exact ⟨inner, taken.good p (List.mem_append_right _ List.mem_cons_self),
      taken.fits pairs p [] rfl⟩
  · rintro ⟨taken, good, fits⟩
    refine ⟨fun q mem => ?_, fun before q after split => ?_⟩
    · rcases List.mem_append.1 mem with early | last
      · exact taken.good q early
      · exact List.mem_singleton.1 last ▸ good
    · rcases List.eq_nil_or_concat after with rfl | ⟨after, last, rfl⟩
      · exact split ▸ fits
      · rw [List.concat_eq_append, ← List.cons_append, ← List.append_assoc] at split
        exact taken.fits before q after (List.append_inj' split rfl).1

/-- Where there is always room, good headers are taken. -/
theorem taken_of_room (ample : ∀ names, room names = true) :
    Taken room pairs ↔ ∀ p ∈ pairs, Good p :=
  ⟨Taken.good, fun good => ⟨good, fun _ _ _ _ => ample _⟩⟩

theorem ofList_lowered_concat (pairs : List (String × String)) (p : String × String) :
    Dict.ofList (lowered (pairs ++ [p])) =
      (Dict.ofList (lowered pairs)).insert (Text.lowerAscii p.1) p.2 := by
  rw [lowered, List.map_append, Dict.ofList, List.foldl_append]
  rfl

/-- Headers that are taken leave the others as they are. -/
theorem Taken.ofList_append (taken : Taken room before) (after : List (String × String)) :
    ofList room (before ++ after) = add room (names before) (.ofList (lowered before)) after := by
  induction before using List.reverseRecOn generalizing after with
  | nil => rfl
  | append_singleton before p ih =>
    obtain ⟨taken, ⟨name, value⟩, fits⟩ := taken_concat.1 taken
    rw [names_concat] at fits ⊢
    rw [List.append_assoc, List.singleton_append, ih taken, ofList_lowered_concat, add]
    simp only [name, value, fits, if_true]

theorem add_of_bad {past : List String} {headers : Dict String} (bad : Bad p e) :
    add room past headers (p :: after) = some (.error e) := by
  cases bad with
  | name bad => simp only [add, bad, Bool.false_eq_true, if_false]
  | value good bad => simp only [add, good, bad, Bool.false_eq_true, if_true, if_false]

theorem exists_reads (room : Room) (pairs : List (String × String)) :
    ∃ result, Reads room pairs result := by
  induction pairs using List.reverseRecOn with
  | nil => exact ⟨_, .all taken_nil⟩
  | append_singleton pairs p ih =>
    have longer {before after : List (String × String)} {q : String × String}
        (split : pairs = before ++ q :: after) :
        pairs ++ [p] = before ++ q :: (after ++ [p]) := by
      rw [split, List.append_assoc, List.cons_append]
    obtain ⟨_, taken | ⟨split, taken, bad⟩ | ⟨split, taken, good, full⟩⟩ := ih
    · rcases good_or_bad p with good | ⟨e, bad⟩
      · cases fits : room (names (pairs ++ [p])) with
        | true => exact ⟨_, .all (taken_concat.2 ⟨taken, good, fits⟩)⟩
        | false => exact ⟨_, .full rfl taken good fits⟩
      · exact ⟨_, .refused rfl taken bad⟩
    · exact ⟨_, .refused (longer split) taken bad⟩
    · exact ⟨_, .full (longer split) taken good full⟩

theorem reads_iff {result : Option (Except HeaderError (Dict String))} :
    Reads room pairs result ↔ result = ofList room pairs := by
  have unique {result : Option (Except HeaderError (Dict String))}
      (reads : Reads room pairs result) : result = ofList room pairs := by
    cases reads with
    | all taken =>
      have whole := taken.ofList_append []
      rw [List.append_nil] at whole
      exact whole.symm
    | refused split taken bad => rw [split, taken.ofList_append, add_of_bad bad]
    | full split taken good full =>
      obtain ⟨name, value⟩ := good
      rw [names_concat] at full
      rw [split, taken.ofList_append, add]
      simp only [name, value, full, Bool.false_eq_true, if_true, if_false]
  refine ⟨unique, ?_⟩
  rintro rfl
  obtain ⟨result, reads⟩ := exists_reads room pairs
  exact unique reads ▸ reads

/-! ## What headers say -/

/-- The last header with the name, in letters of whatever case, has the value. -/
def Gives (pairs : List (String × String)) (name value : String) : Prop :=
  ∃ before own after, pairs = before ++ (own, value) :: after ∧
    Text.lowerAscii own = Text.lowerAscii name ∧
    ∀ p ∈ after, Text.lowerAscii p.1 ≠ Text.lowerAscii name

/-- None of the headers has the name, in letters of whatever case. -/
def Silent (pairs : List (String × String)) (name : String) : Prop :=
  ∀ p ∈ pairs, Text.lowerAscii p.1 ≠ Text.lowerAscii name

variable {name value : String}

theorem silent_or_gives (pairs : List (String × String)) (name : String) :
    Silent pairs name ∨ ∃ value, Gives pairs name value := by
  induction pairs using List.reverseRecOn with
  | nil => exact .inl (List.forall_mem_nil _)
  | append_singleton pairs p ih =>
    by_cases own : Text.lowerAscii p.1 = Text.lowerAscii name
    · exact .inr ⟨p.2, pairs, p.1, [], rfl, own, List.forall_mem_nil _⟩
    · have still {others : List (String × String)} (silent : Silent others name) :
          Silent (others ++ [p]) name := by
        intro q mem
        rcases List.mem_append.1 mem with early | last
        · exact silent q early
        · exact List.mem_singleton.1 last ▸ own
      rcases ih with silent | ⟨value, before, own, after, split, same, silent⟩
      · exact .inl (still silent)
      · refine .inr ⟨value, before, own, after ++ [p], ?_, same, still silent⟩
        rw [split, List.append_assoc, List.cons_append]

theorem Silent.get? (silent : Silent pairs name) :
    (Dict.ofList (lowered pairs)).get? (Text.lowerAscii name) = none := by
  rw [Dict.get?_ofList, Dict.lookupEntry_eq_none_iff]
  intro e mem
  obtain ⟨p, given, rfl⟩ := List.mem_map.1 (List.mem_reverse.1 mem)
  exact silent p given

theorem Gives.get? (gives : Gives pairs name value) :
    (Dict.ofList (lowered pairs)).get? (Text.lowerAscii name) = some value := by
  obtain ⟨before, own, after, rfl, same, silent⟩ := gives
  have later := Silent.get? silent
  rw [Dict.get?_ofList] at later ⊢
  rw [lowered, List.map_append, List.map_cons, List.reverse_append, List.reverse_cons,
    List.append_assoc, Dict.lookupEntry_append]
  rw [lowered] at later
  simp only [later, Option.none_or, List.singleton_append, Dict.lookupEntry, same, if_true]

theorem gives_iff :
    (Dict.ofList (lowered pairs)).get? (Text.lowerAscii name) = some value ↔
      Gives pairs name value := by
  refine ⟨fun found => ?_, Gives.get?⟩
  rcases silent_or_gives pairs name with silent | ⟨other, gives⟩
  · cases silent.get?.symm.trans found
  · cases gives.get?.symm.trans found
    exact gives

theorem silent_iff :
    (Dict.ofList (lowered pairs)).get? (Text.lowerAscii name) = none ↔ Silent pairs name := by
  refine ⟨fun absent => ?_, Silent.get?⟩
  rcases silent_or_gives pairs name with silent | ⟨value, gives⟩
  · exact silent
  · cases gives.get?.symm.trans absent

/-! ## Headers with numbers for names -/

/-- Headers without values that have numbers for names, in five digits. -/
def numbered (numbers : List Nat) : List (String × String) :=
  numbers.map fun n => (String.ofList (Decimal.fixed 5 n), "")

theorem numbered_append (front back : List Nat) :
    numbered (front ++ back) = numbered front ++ numbered back := List.map_append

theorem isNameChar_of_isDigit {c : Char} (digit : Decimal.isDigit c = true) :
    isNameChar c = true := by
  have isDigit : c.isDigit = true := by
    simpa [Char.isDigit, Decimal.isDigit, UInt32.le_iff_toNat_le] using digit
  rw [isNameChar, Char.isAlphanum, isDigit, Bool.or_true, Bool.true_or]

theorem toLower_of_isDigit {c : Char} (digit : Decimal.isDigit c = true) : c.toLower = c := by
  have bounds : 48 ≤ c.toNat ∧ c.toNat ≤ 57 := by simpa [Decimal.isDigit] using digit
  have notUpper : ¬ (c.val ≥ 'A'.val ∧ c.val ≤ 'Z'.val) := fun upper => by
    have least : 65 ≤ c.toNat := UInt32.le_iff_toNat_le.1 upper.1
    omega
  exact dif_neg notUpper

theorem lowerAscii_fixed (width n : Nat) :
    Text.lowerAscii (String.ofList (Decimal.fixed width n)) =
      String.ofList (Decimal.fixed width n) := by
  have digits := List.all_eq_true.1 (Decimal.all_isDigit_fixed width n)
  rw [Text.lowerAscii, String.toList_ofList,
    List.map_congr_left fun c mem => toLower_of_isDigit (digits c mem), List.map_id']

theorem good_numbered (numbers : List Nat) : ∀ p ∈ numbered numbers, Good p := by
  intro p mem
  obtain ⟨n, -, rfl⟩ := List.mem_map.1 mem
  have digits := List.all_eq_true.1 (Decimal.all_isDigit_fixed 5 n)
  have length : (String.ofList (Decimal.fixed 5 n)).length = 5 := by
    rw [String.length_ofList, Decimal.length_fixed]
  have notEmpty : (String.ofList (Decimal.fixed 5 n)).isEmpty = false := by
    rw [Bool.eq_false_iff, ne_eq, String.isEmpty_iff]
    intro empty
    rw [empty] at length
    cases length
  have allowed : (Decimal.fixed 5 n).all isNameChar = true :=
    List.all_eq_true.2 fun c mem => isNameChar_of_isDigit (digits c mem)
  refine ⟨?_, rfl⟩
  rw [isName, notEmpty, String.toList_ofList, allowed, length]
  rfl

theorem names_numbered (numbers : List Nat) :
    names (numbered numbers) =
      (numbers.map fun n => String.ofList (Decimal.fixed 5 n)).reverse := by
  rw [names, lowered, numbered, List.map_map, List.map_map]
  exact congrArg _ (List.map_congr_left fun n _ => lowerAscii_fixed 5 n)

theorem nodup_names_numbered {numbers : List Nat} (distinct : numbers.Nodup)
    (small : ∀ n ∈ numbers, n < 100000) : (names (numbered numbers)).Nodup := by
  rw [names_numbered, List.nodup_reverse]
  refine distinct.map_on ?_
  intro m inM n inN texts
  have digits := congrArg Decimal.ofDigits (String.ofList_injective texts)
  have power : Nat.pow 10 5 = 100000 := rfl
  rw [Decimal.ofDigits_fixed, Decimal.ofDigits_fixed, power, Nat.mod_eq_of_lt (small m inM),
    Nat.mod_eq_of_lt (small n inN)] at digits
  exact digits

/-! ## Room for so many names -/

variable {most : Nat}

/-- Headers that are good fit where they are few. -/
theorem taken_of_length_le (good : ∀ p ∈ pairs, Good p) (few : pairs.length ≤ most) :
    Taken (.upTo most) pairs where
  good := good
  fits before p after split := by
    have short : (names before).length < most := by
      rw [split, List.length_append, List.length_cons] at few
      rw [names, List.length_reverse, List.length_map, lowered, List.length_map]
      omega
    rw [names_concat, Room.upTo, decide_eq_true short, Bool.true_or]

/-- So many names leave no room for another one. -/
theorem upTo_of_nodup {name : String} {past : List String} (distinct : past.Nodup)
    (many : past.length = most) : Room.upTo most (name :: past) = false := by
  have size : (Dict.ofList (past.map fun name => (name, ()))).size = most := by
    rw [Dict.size_ofList, List.map_map]
    change (past.map id).dedup.length = most
    rw [List.map_id, distinct.dedup, many]
  rw [Room.upTo, size, many, decide_eq_false (Nat.lt_irrefl most)]
  rfl

end Headers

namespace Webhook

/-! ## Webhooks -/

open Headers

/-- The value of a header, whose name may be given in letters of either case. -/
def header? (w : Webhook) (name : String) : Option String := w.headers.get? (Text.lowerAscii name)

/-- How a header that cannot be sent is reported. -/
inductive Reports : String × String → Error → Prop
  | name {name value : String} (bad : isName name = false) :
    Reports (name, value) (.configuration
      ("invalid webhook header name '" ++ name ++ "': invalid HTTP header name"))
  | value {name value : String} (good : isName name = true) (bad : isValue value = false) :
    Reports (name, value) (.configuration ("invalid webhook header value for '" ++
      Text.lowerAscii name ++ "': failed to parse header value"))

theorem reports_iff {p : String × String} {error : Error} :
    Reports p error ↔ ∃ e, Bad p e ∧ error = .configuration e.message := by
  constructor
  · intro reports
    cases reports with
    | name bad => exact ⟨_, .name bad, rfl⟩
    | value good bad => exact ⟨_, .value good bad, rfl⟩
  · rintro ⟨e, bad, rfl⟩
    cases bad with
    | name bad => exact .name bad
    | value good bad => exact .value good bad

variable {room : Room} {settings : WebhookSettings}

theorem create_eq_ok_iff {w : Webhook} :
    create room settings = some (.ok w) ↔
      Taken room settings.headers ∧ w = ⟨settings, .ofList (lowered settings.headers)⟩ := by
  constructor
  · intro built
    obtain ⟨result, read, built⟩ := Option.map_eq_some_iff.1 built
    cases result with
    | error e => cases built
    | ok headers =>
      cases built
      cases reads_iff.2 read.symm with
      | all taken => exact ⟨taken, rfl⟩
  · rintro ⟨taken, rfl⟩
    rw [create, ← reads_iff.1 (.all taken)]
    rfl

theorem create_eq_error_iff {error : Error} :
    create room settings = some (.error error) ↔ ∃ before p after,
      settings.headers = before ++ p :: after ∧ Taken room before ∧ Reports p error := by
  constructor
  · intro built
    obtain ⟨result, read, built⟩ := Option.map_eq_some_iff.1 built
    cases result with
    | ok headers => cases built
    | error e =>
      cases built
      cases reads_iff.2 read.symm with
      | refused split taken bad => exact ⟨_, _, _, split, taken, reports_iff.2 ⟨e, bad, rfl⟩⟩
  · rintro ⟨before, p, after, split, taken, reports⟩
    obtain ⟨e, bad, rfl⟩ := reports_iff.1 reports
    rw [create, ← reads_iff.1 (.refused split taken bad)]
    rfl

theorem create_eq_none_iff :
    create room settings = none ↔ ∃ before p after,
      settings.headers = before ++ p :: after ∧ Taken room before ∧ Good p ∧
        room (names (before ++ [p])) = false := by
  rw [create, Option.map_eq_none_iff]
  constructor
  · intro read
    cases reads_iff.2 read.symm with
    | full split taken good full => exact ⟨_, _, _, split, taken, good, full⟩
  · rintro ⟨before, p, after, split, taken, good, full⟩
    exact (reads_iff.1 (.full split taken good full)).symm

/-- Whatever room a request has, a webhook is built when all of its headers are good and find room,
whatever the address.  It then has the headers of the list and no others, of headers with one name
the last.  The first header that is not good is reported, and nothing can be reported when a good one
before finds no room.  Where there is always room, the headers need only be good. -/
theorem all_headers_or_none (room : Room) (settings : WebhookSettings) :
    ((∃ w, create room settings = some (.ok w)) ↔ Taken room settings.headers) ∧
    (∀ w, create room settings = some (.ok w) → w.settings = settings ∧
      ∀ name, (∀ value, w.header? name = some value ↔ Gives settings.headers name value) ∧
        (w.header? name = none ↔ Silent settings.headers name)) ∧
    (∀ error, create room settings = some (.error error) ↔ ∃ before p after,
      settings.headers = before ++ p :: after ∧ Taken room before ∧ Reports p error) ∧
    (create room settings = none ↔ ∃ before p after,
      settings.headers = before ++ p :: after ∧ Taken room before ∧ Good p ∧
        room (names (before ++ [p])) = false) ∧
    ((∀ names, room names = true) →
      ((∃ w, create room settings = some (.ok w)) ↔ ∀ p ∈ settings.headers, Good p)) := by
  have built : (∃ w, create room settings = some (.ok w)) ↔ Taken room settings.headers := by
    refine ⟨?_, fun taken => ⟨_, create_eq_ok_iff.2 ⟨taken, rfl⟩⟩⟩
    rintro ⟨w, built⟩
    exact (create_eq_ok_iff.1 built).1
  refine ⟨built, fun w made => ?_, fun error => create_eq_error_iff, create_eq_none_iff,
    fun ample => built.trans (taken_of_room ample)⟩
  obtain ⟨-, rfl⟩ := create_eq_ok_iff.1 made
  exact ⟨rfl, fun name => ⟨fun value => gives_iff, silent_iff⟩⟩

theorem create_numbered {most : Nat} {numbers : List Nat} (distinct : numbers.Nodup)
    (small : ∀ n ∈ numbers, n < 100000) (many : numbers.length = most) (n : Nat) :
    create (.upTo most) { headers := numbered (numbers ++ [n]) } = none := by
  have few : (numbered numbers).length = most := by rw [numbered, List.length_map, many]
  have count : (names (numbered numbers)).length = most := by
    rw [names_numbered, List.length_reverse, List.length_map, many]
  have full :
      Room.upTo most (Text.lowerAscii (String.ofList (Decimal.fixed 5 n)) :: names (numbered numbers)) =
        false :=
    upTo_of_nodup (nodup_names_numbered distinct small) count
  refine create_eq_none_iff.2 ⟨numbered numbers, (String.ofList (Decimal.fixed 5 n), ""), [],
    numbered_append numbers [n], taken_of_length_le (good_numbered numbers) (Nat.le_of_eq few),
    good_numbered [n] _ List.mem_cons_self, ?_⟩
  rw [names_concat]
  exact full

/-- One header too many, with the number of each in five digits as its name, from the last one to
the first. -/
def crowded : WebhookSettings := { headers := numbered (List.range 24577).reverse }

/-- All headers may be good, and the webhook is not built. -/
theorem create_crowded : (∀ p ∈ crowded.headers, Good p) ∧ create .usual crowded = none := by
  have lastZero : (List.range 24577).reverse =
      ((List.range 24576).map Nat.succ).reverse ++ [0] := by
    rw [List.range_succ_eq_map, List.reverse_cons]
  have distinct : ((List.range 24576).map Nat.succ).reverse.Nodup :=
    List.nodup_reverse.2 (List.nodup_range.map fun _ _ => Nat.succ.inj)
  have small : ∀ n ∈ ((List.range 24576).map Nat.succ).reverse, n < 100000 := by
    simp only [List.mem_reverse, List.mem_map, List.mem_range, forall_exists_index, and_imp]
    rintro _ m less rfl
    omega
  have many : ((List.range 24576).map Nat.succ).reverse.length = 24576 := by
    rw [List.length_reverse, List.length_map, List.length_range]
  have headers : crowded.headers = numbered (List.range 24577).reverse := by
    rw [crowded]
  refine ⟨headers ▸ good_numbered _, ?_⟩
  rw [crowded, lastZero]
  exact create_numbered distinct small many 0

end Webhook

end JobNode
