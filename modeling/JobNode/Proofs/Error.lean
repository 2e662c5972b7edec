import JobNode.Error

/-!
# Errors that happen together

Errors are combined two at a time, by whoever comes to know of both.  What comes of it is one error
with all of them as members, from left to right and without nesting, so that it makes no difference
in which order they were combined.

* `Error.append_assoc`: the law of `append`.
* `Error.Combination`: errors combined two at a time, in any order.
* `Error.regroups`: the result depends on the errors alone.
-/

namespace JobNode.Error

/-- The error stands for others. -/
def isMultiple : Error → Bool
  | multiple _ => true
  | _ => false

theorem members_of_single {e : Error} (single : e.isMultiple = false) : e.members = [e] := by
  cases e with
  | multiple es => cases single
  | storage | migration | serialization | invalidTransition | notFound | validation | configuration
  | workFailure | jobFailed | notification | queue | io | other => rfl

theorem append_assoc (a b c : Error) : (a.append b).append c = a.append (b.append c) := by
  unfold append
  exact congrArg multiple (List.append_assoc _ _ _)

theorem message_multiple (es : List Error) :
    (multiple es).message = String.intercalate "; " (es.map message) := by
  rw [← messages_eq_map]
  rfl

/-- Errors combined two at a time. -/
inductive Combination where
  | one (e : Error)
  | both (first second : Combination)

namespace Combination

/-- Something is combined. -/
def isBoth : Combination → Bool
  | one _ => false
  | both _ _ => true

/-- What comes of a combination. -/
def result : Combination → Error
  | one e => e
  | both first second => first.result.append second.result

/-- The errors that are combined, from left to right. -/
def parts : Combination → List Error
  | one e => [e]
  | both first second => first.parts ++ second.parts

theorem members_result (c : Combination) : c.result.members = c.parts.flatMap members := by
  induction c with
  | one e => rw [result, parts, List.flatMap_singleton]
  | both first second firstIh secondIh =>
    rw [result, members_append, parts, List.flatMap_append, firstIh, secondIh]

/-- Every part gives its own members, and keeps its place. -/
theorem result_of_isBoth {c : Combination} (combined : c.isBoth) :
    c.result = .multiple (c.parts.flatMap members) := by
  cases c with
  | one e => cases combined
  | both first second => rw [← members_result, result, append, members]

theorem flatMap_members_of_single {es : List Error} (single : ∀ e ∈ es, e.isMultiple = false) :
    es.flatMap members = es := by
  induction es with
  | nil => rfl
  | cons e rest ih =>
    obtain ⟨first, others⟩ := List.forall_mem_cons.1 single
    rw [List.flatMap_cons, members_of_single first, ih others]
    rfl

end Combination

/-- **Combining errors is independent of bracketing.**  Two errors combine to one whose members are
those of the first and then those of the second, and a third may join either of them before.  So two
combinations of the same errors in the same order come to the same, whichever were combined first.
When none of the errors stands for others, the result has exactly them as members, from left to right
and without nesting, its text is theirs with `; ` in between, and it is never the error for something
that does not exist. -/
theorem regroups :
    (∀ a b : Error, a.append b = .multiple (a.members ++ b.members)) ∧
    (∀ es, (multiple es).members = es) ∧
    (∀ e : Error, e.isMultiple = false → e.members = [e]) ∧
    (∀ a b c : Error, (a.append b).append c = a.append (b.append c)) ∧
    (∀ c d : Combination, c.isBoth → d.isBoth → c.parts = d.parts → c.result = d.result) ∧
    ∀ c : Combination, c.isBoth → (∀ e ∈ c.parts, e.isMultiple = false) →
      c.result = .multiple c.parts ∧
      (∀ e ∈ c.result.members, e.isMultiple = false) ∧
      c.result.message = String.intercalate "; " (c.parts.map message) ∧
      c.result.isNotFound = false := by
  refine ⟨fun _ _ => rfl, fun _ => rfl, fun _ => members_of_single, append_assoc,
    fun c d both both' same => ?_, fun c both single => ?_⟩
  · rw [Combination.result_of_isBoth both, Combination.result_of_isBoth both', same]
  · have flat := Combination.flatMap_members_of_single single
    have result : c.result = .multiple c.parts := by
      rw [Combination.result_of_isBoth both, flat]
    refine ⟨result, ?_, ?_, ?_⟩
    · rw [Combination.members_result, flat]
      exact single
    · rw [result, message_multiple]
    · rw [result]
      rfl

/-- Four errors, one of them for something that does not exist, combined in two pairs. -/
def sampleCombination : Combination :=
  .both (.both (.one (.validation "a")) (.one (.other "b")))
    (.both (.one (.notFound "Job" "c")) (.one (.other "d")))

theorem sampleCombination_regroups :
    sampleCombination.isBoth ∧ (∀ e ∈ sampleCombination.parts, e.isMultiple = false) ∧
      sampleCombination.result.message =
        "Validation error: a; b; Entity not found: Job with id c; d" ∧
      sampleCombination.result.isNotFound = false := by
  have single : ∀ e ∈ sampleCombination.parts, e.isMultiple = false := by
    simp [sampleCombination, Combination.parts, isMultiple]
  obtain ⟨-, -, text, kind⟩ := regroups.2.2.2.2.2 sampleCombination rfl single
  refine ⟨rfl, single, text.trans ?_, kind⟩
  decide +kernel

end JobNode.Error
