import JobNode.Proofs.Store.Backoff
import JobNode.Proofs.Text.Decimal

/-!
# Which errors are taken for locks

The database gives its result codes in decimal, with the code of the kind of error in the low eight
bits and what is special about it above them.  A write is tried again after an error whose code is 5
or 6 and nothing more, and after an error whose text speaks of a locked or busy database.

* `Text.contains_lowerAscii_iff`: searching the lower-case text finds a phrase in whatever case.
* `StorageError.isContention_engine_iff`: which errors of the database are taken for locks.
* `Backoff.Follows.again_iff`: after which attempts there is another one.
* `Backoff.locks_tried_again`: after which errors of the database there is another attempt.
-/

namespace JobNode

/-! ## Phrases -/

namespace Text

/-- Some characters of the text read as the phrase, in whatever case. -/
def Mentions (text phrase : String) : Prop :=
  ∃ before part after, text.toList = before ++ part ++ after ∧
    part.map Char.toLower = phrase.toList

theorem containsChars_iff {part cs : List Char} : containsChars part cs = true ↔ part <:+: cs := by
  induction cs with
  | nil => rw [containsChars, List.isEmpty_iff, List.infix_nil]
  | cons c rest ih =>
    rw [containsChars, Bool.or_eq_true, List.isPrefixOf_iff_prefix, ih, List.infix_cons_iff]

theorem contains_lowerAscii_iff {text phrase : String} :
    contains (lowerAscii text) phrase = true ↔ Mentions text phrase := by
  rw [contains, containsChars_iff, lowerAscii, String.toList_ofList]
  constructor
  · rintro ⟨before, after, lowered⟩
    obtain ⟨front, back, text, left, -⟩ := List.map_eq_append_iff.1 lowered.symm
    obtain ⟨before', part, split, -, phrase⟩ := List.map_eq_append_iff.1 left
    exact ⟨before', part, back, by rw [text, split], phrase⟩
  · rintro ⟨before, part, after, text, phrase⟩
    refine ⟨before.map Char.toLower, after.map Char.toLower, ?_⟩
    rw [text, List.map_append, List.map_append, phrase]

end Text

namespace Decimal

theorem ofNat_eq_iff {m n : Nat} : ofNat m = ofNat n ↔ m = n := by
  refine ⟨fun same => ?_, congrArg ofNat⟩
  have digits := congrArg String.toList same
  rw [ofNat, ofNat, String.toList_ofList, String.toList_ofList] at digits
  rw [← ofDigits_digits m, digits, ofDigits_digits]

end Decimal

/-! ## Errors -/

namespace StorageError

/-- The kind of error that a result code stands for. -/
def baseCode (code : Nat) : Nat := code % 256

/-- The text says that the database is locked or busy. -/
def SpeaksOfLock (text : String) : Prop :=
  Text.Mentions text "database is locked" ∨ Text.Mentions text "database is busy"

variable {code : Nat} {text : String}

theorem mentionsLock_iff : mentionsLock text = true ↔ SpeaksOfLock text := by
  rw [mentionsLock, Bool.or_eq_true, Text.contains_lowerAscii_iff,
    Text.contains_lowerAscii_iff, SpeaksOfLock]

theorem isContention_engine_iff :
    (engine (some (Decimal.ofNat code)) text).isContention = true ↔
      code = 5 ∨ code = 6 ∨ SpeaksOfLock text := by
  have five : Decimal.ofNat 5 = "5" := by
    rw [Decimal.ofNat, Decimal.digits]
    rfl
  have six : Decimal.ofNat 6 = "6" := by
    rw [Decimal.ofNat, Decimal.digits]
    rfl
  have busy : some (Decimal.ofNat code) = some "5" ↔ code = 5 := by
    rw [Option.some_inj, ← five, Decimal.ofNat_eq_iff]
  have locked : some (Decimal.ofNat code) = some "6" ↔ code = 6 := by
    rw [Option.some_inj, ← six, Decimal.ofNat_eq_iff]
  rw [isContention, Bool.or_eq_true, Bool.or_eq_true, beq_iff_eq, beq_iff_eq, busy, locked,
    mentionsLock_iff, or_assoc]

theorem isContention_engine_none_iff :
    (engine none text).isContention = true ↔ SpeaksOfLock text := by
  have busy : (none == some "5") = false := rfl
  have locked : (none == some "6") = false := rfl
  rw [isContention, busy, locked, Bool.false_or, Bool.false_or, mentionsLock_iff]

end StorageError

/-! ## Attempts -/

namespace Backoff

variable {b : Backoff} {α : Type} {draw : Nat → Nat} {op : Nat → Except Error α} {r : Run α}

theorem Follows.attempts (follows : Follows b draw op b.retries 0 r) :
    r.attempts = r.delays.length + 1 := by
  rw [Run.attempts, follows.moments, countP_alternating]

/-- After an attempt that leaves retries there is another one just if it met a lock. -/
theorem Follows.again_iff (follows : Follows b draw op b.retries 0 r) {i : Nat}
    (made : i < r.attempts) (left : i < b.retries) :
    i + 1 < r.attempts ↔ metLock (op i) = true := by
  rw [follows.attempts] at made ⊢
  constructor
  · intro more
    have locked := follows.locked i (Nat.lt_of_succ_lt_succ more)
    rwa [Nat.zero_add] at locked
  · intro locked
    by_contra last
    have ends : r.delays.length = i := by omega
    rcases follows.stopped with all | stopped
    · omega
    · rw [Nat.zero_add, ends, locked] at stopped
      cases stopped

/-- **A write is tried again after what is taken for a lock.**  Where the delays can be computed the
attempts come to an end with a result.  After an error of the database, with retries left, there is
another attempt just if its code is that of a busy or locked database with nothing above the low
eight bits, or if its text speaks of a locked or busy database; an error without a code counts by
its text alone.  After an error that is not of the database there is none. -/
theorem locks_tried_again (computed : ∀ i < b.retries, (b.delay? i (draw i)).isSome) :
    ∃ r, b.run draw op = some r ∧ 0 < r.attempts ∧
      ∀ i e, i < r.attempts → i < b.retries → op i = .error e →
        (∀ code text, e = .storage (.engine (some (Decimal.ofNat code)) text) →
          (StorageError.baseCode code = 5 ∨ StorageError.baseCode code = 6 →
            (i + 1 < r.attempts ↔
              code = StorageError.baseCode code ∨ StorageError.SpeaksOfLock text)) ∧
          (StorageError.baseCode code ≠ 5 → StorageError.baseCode code ≠ 6 →
            (i + 1 < r.attempts ↔ StorageError.SpeaksOfLock text))) ∧
        (∀ text, e = .storage (.engine none text) →
          (i + 1 < r.attempts ↔ StorageError.SpeaksOfLock text)) ∧
        ((∀ cause, e ≠ .storage cause) → r.attempts = i + 1) := by
  have fromZero : ∀ i < b.retries, (b.delay? (0 + i) (draw (0 + i))).isSome := by
    intro i below
    rw [Nat.zero_add]
    exact computed i below
  obtain ⟨r, run, follows⟩ := @follows_runFrom b α draw op b.retries 0 fromZero
  have some : 0 < r.attempts := by
    rw [follows.attempts]
    exact Nat.succ_pos _
  refine ⟨r, run, some, fun i e made left outcome => ?_⟩
  have again : i + 1 < r.attempts ↔ e.isContention = true := by
    rw [follows.again_iff made left, outcome]
    rfl
  refine ⟨fun code text engine => ?_, fun text engine => ?_, fun other => ?_⟩
  · subst engine
    have taken := again.trans StorageError.isContention_engine_iff
    unfold StorageError.baseCode
    constructor
    · intro lock
      rw [taken, ← or_assoc]
      refine or_congr_left ⟨?_, ?_⟩
      · rintro (rfl | rfl) <;> rfl
      · intro plain
        omega
    · intro notBusy notLocked
      rw [taken, ← or_assoc]
      refine or_iff_right ?_
      rintro (rfl | rfl)
      · exact notBusy rfl
      · exact notLocked rfl
  · subst engine
    exact again.trans StorageError.isContention_engine_none_iff
  · have no : e.isContention = false := by
      cases e with
      | storage cause => exact absurd rfl (other cause)
      | _ => rfl
    rw [no] at again
    have last : ¬ i + 1 < r.attempts := fun more => Bool.false_ne_true (again.1 more)
    omega

/-- A lock that another connection to the same cache holds. -/
def sharedCacheLock : Error :=
  .storage (.engine (some (Decimal.ofNat 262)) "database table is locked: jobs")

/-- A write that meets a busy database, which says so in capitals, and then a lock of the cache. -/
def sampleLocks : Nat → Except Error Unit
  | 0 => .error (.storage (.engine (some (Decimal.ofNat 517)) "DATABASE IS LOCKED"))
  | 1 => .error sharedCacheLock
  | _ => .ok ()

theorem speaks_in_capitals : StorageError.SpeaksOfLock "DATABASE IS LOCKED" :=
  StorageError.mentionsLock_iff.1 (by decide +kernel)

theorem sharedCacheLock_speaks_not :
    ¬ StorageError.SpeaksOfLock "database table is locked: jobs" := by
  rw [← StorageError.mentionsLock_iff]
  decide +kernel

theorem sampleLocks_tried_again :
    (∀ i < jobSave.retries, (jobSave.delay? i 0).isSome) ∧
      ∃ r, jobSave.run (fun _ => 0) sampleLocks = some r ∧ r.attempts = 2 := by
  have computed : ∀ i < jobSave.retries, (jobSave.delay? i 0).isSome := by decide +kernel
  obtain ⟨r, run, first, after⟩ := @locks_tried_again jobSave Unit (fun _ => 0) sampleLocks computed
  have again := ((after 0 _ first (by decide) rfl).1 517 _ rfl).1 (.inl rfl)
  have second := again.2 (.inr speaks_in_capitals)
  have ends := ((after 1 _ second (by decide) rfl).1 262 _ rfl).1 (.inr rfl)
  have last : ¬ 2 < r.attempts := by
    intro third
    rcases ends.1 third with plain | speaks
    · cases plain
    · exact sharedCacheLock_speaks_not speaks
  exact ⟨computed, r, run, by omega⟩

/-- A lock of a shared cache is an error of the kind of locked databases, and yet a write that meets
it is not tried again, with all retries left. -/
theorem shared_cache_lock_not_tried_again :
    StorageError.baseCode 262 = 6 ∧ 0 < jobSave.retries ∧
      ∃ r : Run Unit, jobSave.run (fun _ => 0) (fun _ => .error sharedCacheLock) = some r ∧
        r.attempts = 1 := by
  have no : ¬ sharedCacheLock.isContention = true := by
    refine mt StorageError.isContention_engine_iff.1 ?_
    rintro (five | six | speaks)
    · cases five
    · cases six
    · exact sharedCacheLock_speaks_not speaks
  refine ⟨rfl, by decide, ⟨[.attempt], .error sharedCacheLock⟩, ?_, rfl⟩
  rw [run, jobSave, runFrom]
  exact if_neg no

end Backoff

end JobNode
