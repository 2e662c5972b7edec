import JobNode.Proofs.Job.Record
import JobNode.Proofs.Params
import JobNode.Queue.Submission

/-!
# Submissions read back

A submission that waits in a broker is kept as text.  Its bag of parameters holds values of any shape,
so it comes back whole as long as their shape can be told from text: numbers are integers of 64-bit
words, objects are maps, and nothing is nested deeper than a reader goes.  Its times come back as the
instants that their texts show.

* `depth_toJson`, `exact_toJson`: a submission is as plain as its bag, which stands one level below.
* `Submission.written`: the submission that a text shows.
* `Submission.parse_written`: it comes back unless the bag is nested too deep.
-/

namespace JobNode

open Json

namespace Submission

variable {s : Submission} {v : Json}

/-- The parts of a submission under their names. -/
def fields (s : Submission) : List (String × Json) :=
  [("id", .ofUuid s.id.uuid), ("name", .string s.task), ("params", s.params.toJson),
    ("created_at", .ofInstant s.createdAt), ("valid_until", .ofInstant s.validUntil)]

theorem toJson_eq (s : Submission) : s.toJson = .ofFields s.fields := rfl

theorem names_fields (s : Submission) : s.fields.map (·.1) = fieldNames := rfl

theorem nodup_fieldNames : fieldNames.Nodup := by decide

theorem faithful_uuid : Faithful ofUuid Decode.uuid :=
  Faithful.of_string fun u => by simp only [Decode.uuid, Uuid.parse_toText]

/-- The parameters stand one level below the submission, and nothing else is nested. -/
theorem depth_toJson (s : Submission) : s.toJson.depth = s.params.toJson.depth + 1 := by
  rw [toJson_eq, depth_ofFields (s.names_fields ▸ nodup_fieldNames)]
  simp [fields, fieldsDepth, Json.depth, ofUuid, ofInstant]

theorem exact_toJson (plain : s.params.Plain) : s.toJson.Exact := by
  rw [toJson_eq, exact_ofFields (s.names_fields ▸ nodup_fieldNames)]
  refine ⟨trivial, trivial, ?_, trivial, trivial, trivial⟩
  exact exactFields_iff.2 fun f mem => plain.exact f.1 f.2 (Dict.mem_entries_iff.1 mem)

/-- The submission that its text shows. -/
def written (s : Submission) : Submission :=
  { s with createdAt := s.createdAt.written, validUntil := s.validUntil.written }

/-- The times of a submission have texts of their own. -/
def Regular (s : Submission) : Prop := s.createdAt.Regular ∧ s.validUntil.Regular

instance (s : Submission) : Decidable s.Regular := inferInstanceAs (Decidable (_ ∧ _))

theorem written_eq_self_iff : s.written = s ↔ s.Regular := by
  cases s
  simp [written, Regular, Instant.written_eq_self_iff]

/-- The text is read part by part; the bag has one level less than a reader goes. -/
theorem parse_render (plain : s.params.Plain) (same : Reordered s.toJson v) :
    parse v.render = if s.toJson.depth ≤ maxDepth then .ok s.written else .error .malformed := by
  have limit : s.toJson.depth ≤ maxDepth ↔ s.params.toJson.depth ≤ maxDepth - 1 := by
    rw [depth_toJson]
    exact Nat.add_one_le_iff.trans (Nat.lt_iff_le_pred (by decide))
  rw [parse, decodeText_render (exact_toJson plain) same]
  obtain ⟨found, holds, read⟩ := record_of_reordered nodup_fieldNames s.names_fields same
  rw [decode, read]
  simp only [fields, List.forall_mem_cons] at holds
  obtain ⟨id, task, params, createdAt, validUntil, -⟩ := holds
  simp only [createdAt.field?_of_yields yields_instant, id.field? faithful_uuid,
    task.field? faithful_string, bind, Except.bind]
  by_cases shallow : s.toJson.depth ≤ maxDepth
  · rw [if_pos shallow]
    have bag := params.field?_of_recovers (plain.recovers (limit.1 shallow))
    simp only [decodeParams, bag, validUntil.field?_of_yields yields_instant, Decode.require, written]
  · rw [if_neg shallow]
    obtain ⟨w, there, eq⟩ := params
    have refused := plain.decodeAt_of_deep (Nat.not_le.1 (mt limit.2 shallow)) eq
    simp only [Decode.field?, there, decodeParams, refused, Except.map]

/-- **A submission comes back from its text.**  Whatever its identifier, its name and its times, and
whatever the parameters are, the text in which it is written is read as the submission that it shows,
with the fields of all objects in any order: the same but for the times, so every question to the bag
has the same answer as before.  This is the submission itself just if neither time has the fraction of
a leap second within a minute.  A bag that is nested too deep is refused; the submission around it
counts as a level. -/
theorem parse_written (plain : s.params.Plain) (same : Reordered s.toJson v) :
    parse v.render =
        (if s.params.toJson.depth + 1 ≤ maxDepth then .ok s.written else .error .malformed) ∧
      s.written.params = s.params ∧ (s.written = s ↔ s.Regular) :=
  ⟨s.depth_toJson ▸ parse_render plain same, rfl, written_eq_self_iff⟩

/-- Parameters of every kind: both ends of the integers, text that has to be escaped, and nesting. -/
def sampleParams : List (String × Json) :=
  [("range", .array [.int (-9223372036854775808), .int 18446744073709551615]),
    ("note", .string "say \"hi\"\n☃"),
    ("tree", .object [("flag", .bool true), ("leaf", .array [.object [("none", .null)]])])]

def sampleSubmission : Submission := ⟨⟨.ofNat 7⟩, "anchor", .ofList sampleParams, .epoch, .epoch⟩

theorem sampleSubmission_back :
    sampleSubmission.params.Plain ∧
      parse sampleSubmission.toText = .ok sampleSubmission ∧
      parse (object sampleSubmission.fields).render = .ok sampleSubmission := by
  have once : (sampleParams.map (·.1)).Nodup := by decide
  have all {name : String} {v : Json} (found : sampleSubmission.params.value? name = some v) :
      (name, v) ∈ sampleParams :=
    (Dict.mem_entries_ofList once).1 (Dict.mem_entries_iff.2 found)
  have plain : sampleSubmission.params.Plain := by
    refine ⟨fun name v found => ?_, fun name v found => ?_⟩
    · have mem := all found
      simp only [sampleParams, List.mem_cons, Prod.mk.injEq, List.not_mem_nil, or_false] at mem
      rcases mem with ⟨-, rfl⟩ | ⟨-, rfl⟩ | ⟨-, rfl⟩ <;>
        simp [Exact, ExactItems, ExactFields, Json.int, Number.InRange]
    · have mem := all found
      simp only [sampleParams, List.mem_cons, Prod.mk.injEq, List.not_mem_nil, or_false] at mem
      -- each of them is what its own document stands for
      have ordered {v : Json} (read : v.toTree.value? 3 = some v) : v.Ordered :=
        ordered_of_value? v.toTree read
      rcases mem with ⟨-, rfl⟩ | ⟨-, rfl⟩ | ⟨-, rfl⟩ <;> exact ordered rfl
  have shallow : sampleSubmission.params.toJson.depth + 1 ≤ maxDepth := by decide
  have regular : sampleSubmission.Regular := by decide
  have back {v : Json} (same : Reordered sampleSubmission.toJson v) :
      parse v.render = .ok sampleSubmission := by
    obtain ⟨read, -, itself⟩ := parse_written plain same
    rw [read, if_pos shallow, itself.2 regular]
  exact ⟨plain, back (.refl _), back (reordered_ofFields (by decide))⟩

/-- A submission created within a minute, at a time with the fraction of a leap second. -/
def sampleLeap : Submission :=
  ⟨⟨.ofNat 7⟩, "anchor", .empty, .sampleStray, .epoch⟩

/-- A bag that is nested just as deep as a reader goes. -/
def fullBag : Params := Params.empty.insert "deep" (Params.nested 125)

/-- The first submission comes back with another time.  And a bag that is read back by itself is
refused within a submission. -/
theorem sampleLeap_not_back :
    (∃ back, parse sampleLeap.toText = .ok back ∧ back ≠ sampleLeap ∧
      back.createdAt = .sampleShown) ∧
    Params.parse fullBag.toJson.render = .ok fullBag ∧
      parse { sampleLeap with params := fullBag }.toText = .error .malformed := by
  obtain ⟨exact, ordered, depth⟩ := Params.nested_plain 125
  have plain : fullBag.Plain := Params.plain_empty.insert exact ordered _
  have full : fullBag.toJson.depth = maxDepth := by
    change max (Params.nested 125).depth 0 + 1 = maxDepth
    rw [depth]
    rfl
  refine ⟨⟨sampleLeap.written, ?_, ?_, rfl⟩, ?_, ?_⟩
  · exact (parse_render Params.plain_empty (.refl _)).trans (if_pos (by decide))
  · exact mt written_eq_self_iff.1 (by decide)
  · rw [plain.parse_render (.refl _), if_pos (Nat.le_of_eq full)]
  · refine (parse_render plain (.refl _)).trans (if_neg ?_)
    rw [depth_toJson]
    change ¬ fullBag.toJson.depth + 1 ≤ maxDepth
    omega

end Submission

end JobNode
