import JobNode.Job.Key
import JobNode.Job.Record
import JobNode.Proofs.Instant.Text
import JobNode.Proofs.Json.Records
import JobNode.Proofs.Text.Hex
import JobNode.Store.Row

/-!
# Job records read back

A job is read back from its record: identifiers, bytes of values, times to the nanosecond as their
texts show them, and strings of any characters.  The fields of the record, and the entries of its two
maps, may stand in any order in the text.

* `Job.written`, `Job.Regular`: the job that a record shows, and the jobs it shows as they are;
* `Job.yields_written`: the record of a job is read back as the job it shows;
* `StatusReport.yields_written`: so is the report of its status from the record of the report;
* `Row.job_of_record`: so is the row of the table a job is kept in.
-/

namespace JobNode

open Json

/-! ## Parts -/

namespace Json

theorem faithful_string : Faithful Json.string Decode.string :=
  Faithful.of_string fun _ => rfl

theorem yields_instant : Yields ofInstant Decode.instant Instant.written :=
  Yields.of_string fun t => by simp only [Decode.instant, Instant.parse_toText]

theorem ofInstant_written (t : Instant) : ofInstant t.written = ofInstant t :=
  congrArg Json.string t.toText_written

theorem faithful_bytes : Faithful ofBytes Decode.bytes :=
  Faithful.of_string fun bytes => by
    have read : (Hex.decode (Hex.encode bytes)).mapError Hex.DecodeError.message = .ok bytes := by
      rw [Hex.decode_encode]
      rfl
    simp [Decode.bytes, Decode.parsed, Decode.string, read, bind, Except.bind]

end Json

theorem JobId.faithful : Faithful JobId.toJson JobId.decode :=
  Faithful.of_string fun id => by
    simp only [JobId.decode, Decode.uuid, Uuid.parse_toText, Except.map]

theorem AccountId.faithful : Faithful AccountId.toJson Decode.account :=
  Faithful.of_string fun a => by
    have read : (AccountId.parse a.toText).mapError (fun e => "Validation error: " ++ e.message) =
        .ok a := by
      rw [AccountId.parse_toText]
      rfl
    simp [Decode.account, Decode.parsed, Decode.string, read, bind, Except.bind]

theorem Status.faithful : Faithful Status.toJson Decode.status :=
  Faithful.of_string fun st => by
    simp only [Decode.status, Decode.variant, Decode.variant.pick, Status.ofText?_toText]

/-! ## Log entries and values -/

namespace LogEntry

/-- The entry that its record shows. -/
def written (e : LogEntry) : LogEntry := { e with createdAt := e.createdAt.written }

theorem yields_written : Yields LogEntry.toJson LogEntry.decode written := by
  refine Yields.record (by decide) fun e => ⟨_, rfl, rfl, ?_, fun found holds => ?_⟩
  · exact ⟨trivial, trivial, trivial, trivial⟩
  · simp only [List.forall_mem_cons] at holds
    obtain ⟨taskName, message, createdAt, -⟩ := holds
    simp only [createdAt.field?_of_yields yields_instant, message.field? faithful_string,
      taskName.field? faithful_string, Decode.require, bind, Except.bind, written]

theorem toJson_written (e : LogEntry) : e.written.toJson = e.toJson := by
  simp only [toJson, written, ofInstant_written]

theorem written_eq_self_iff {e : LogEntry} : e.written = e ↔ e.createdAt.Regular := by
  cases e
  simp [written, Instant.written_eq_self_iff]

theorem map_written_eq_self_iff {es : List LogEntry} :
    es.map written = es ↔ ∀ e ∈ es, e.createdAt.Regular := by
  have same := List.map_inj_left (l := es) (f := written) (g := id)
  simpa only [List.map_id, id_eq, written_eq_self_iff] using same

end LogEntry

theorem StoredValue.faithful : Faithful StoredValue.toJson StoredValue.decode := by
  refine Faithful.record (by decide) fun v => ⟨_, rfl, rfl, ?_, fun found holds => ?_⟩
  · exact ⟨trivial, trivial, trivial⟩
  · simp only [List.forall_mem_cons] at holds
    obtain ⟨key, bytes, -⟩ := holds
    simp only [key.field? faithful_string, bytes.field? faithful_bytes, Decode.require, bind,
      Except.bind]

/-! ## Jobs -/

namespace Job

/-- The job that its record shows: the times are those that their texts show. -/
def written (job : Job) : Job :=
  { job with logs := job.logs.map LogEntry.written, createdAt := job.createdAt.written }

/-- The times of a job all have texts of their own. -/
def Regular (job : Job) : Prop :=
  job.createdAt.Regular ∧ ∀ e ∈ job.logs, e.createdAt.Regular

instance (job : Job) : Decidable job.Regular := inferInstanceAs (Decidable (_ ∧ _))

@[simp]
theorem key_written (job : Job) : job.written.key = job.key := rfl

theorem yields_written : Yields Job.toJson Job.decode written := by
  refine Yields.record (by decide) fun job => ⟨_, rfl, rfl, ?_, fun found holds => ?_⟩
  · exact ⟨trivial, trivial, trivial, trivial, Status.faithful.dict.exact job.taskStatus,
      StoredValue.faithful.dict.exact job.values, LogEntry.yields_written.list.exact job.logs,
      trivial, trivial⟩
  · simp only [List.forall_mem_cons] at holds
    obtain ⟨id, account, description, status, taskStatus, values, logs, createdAt, -⟩ := holds
    simp only [ofFields, createdAt.field?_of_yields yields_instant,
      description.field? faithful_string, account.field? AccountId.faithful,
      id.field? JobId.faithful, logs.field?_of_yields LogEntry.yields_written.list,
      status.field? Status.faithful, taskStatus.field? Status.faithful.dict,
      values.field? StoredValue.faithful.dict, Decode.require, bind, Except.bind,
      Option.getD_some, written]

theorem parse_toText (job : Job) : parse job.toText = .ok job.written :=
  yields_written.decodeText (Reordered.refl _)

/-- The job that a record shows has the same record. -/
theorem toText_written (job : Job) : job.written.toText = job.toText := by
  have logs : (job.logs.map LogEntry.written).map LogEntry.toJson = job.logs.map LogEntry.toJson := by
    rw [List.map_map]
    exact List.map_congr_left fun e _ => e.toJson_written
  have same : job.written.toJson = job.toJson := by
    simp only [toJson, written, ofInstant_written, logs]
  exact congrArg Json.render same

theorem written_eq_self_iff {job : Job} : job.written = job ↔ job.Regular := by
  cases job
  simp [written, Regular, LogEntry.map_written_eq_self_iff, Instant.written_eq_self_iff, and_comm]

/-- A job created within a minute, at a time with the fraction of a leap second. -/
def sampleLeap : Job :=
  .create ⟨.ofNat 1⟩ .zero "mint" .sampleStray

/-- The job that its record shows. -/
def sampleLater : Job :=
  .create ⟨.ofNat 1⟩ .zero "mint" .sampleShown

theorem written_sampleLeap : sampleLeap.written = sampleLater ∧ sampleLater ≠ sampleLeap := by decide

end Job

/-! ## Reports -/

namespace StatusReport

/-- The report that its record shows. -/
def written (r : StatusReport) : StatusReport := { r with lastUpdated := r.lastUpdated.written }

theorem yields_written : Yields StatusReport.toJson StatusReport.decode written := by
  refine Yields.record (by decide) fun r => ⟨_, rfl, rfl, ?_, fun found holds => ?_⟩
  · exact ⟨trivial, trivial, trivial, trivial, trivial⟩
  · simp only [List.forall_mem_cons] at holds
    obtain ⟨jobId, status, message, lastUpdated, -⟩ := holds
    simp only [jobId.field? JobId.faithful, lastUpdated.field?_of_yields yields_instant,
      message.field? faithful_string, status.field? Status.faithful, Decode.require, bind,
      Except.bind, written]

theorem written_eq_self_iff {r : StatusReport} : r.written = r ↔ r.lastUpdated.Regular := by
  cases r
  simp [written, Instant.written_eq_self_iff]

end StatusReport

/-! ## Rows -/

namespace Row

/-- **A row holds the job that its record shows.**  Every job is read back from the record in its row,
and from any other text of that record: the fields, and the entries of the two maps, may have been
written in any order.  What is read has the same record.  It is the job itself, if no time of the job
has the fraction of a leap second within a minute; such a time comes back as the instant that its text
shows. -/
theorem job_of_record (job : Job) (now : Instant) :
    (ofJob job now).job = .ok job.written ∧
      (∀ {v : Json}, Reordered job.toJson v →
        { ofJob job now with data := v.render : Row }.job = .ok job.written) ∧
      job.written.toText = job.toText ∧ (job.written = job ↔ job.Regular) := by
  have read {v : Json} (same : Reordered job.toJson v) :
      { ofJob job now with data := v.render : Row }.job = .ok job.written := by
    have parsed : Job.parse v.render = .ok job.written := Job.yields_written.decodeText same
    rw [Row.job, parsed]
    rfl
  exact ⟨read (Reordered.refl _), read, job.toText_written, Job.written_eq_self_iff⟩

/-- A job with text that has to be escaped, created in a leap second. -/
def sampleJob : Job where
  id := default
  account := default
  description := "say \"hi\"\n"
  status := .failed
  taskStatus := .ofList [("store", .success), ("sign", .failed)]
  values := .ofList [("clé", ⟨"key", [0, 127, 255]⟩)]
  logs := [⟨"sign", "\\ \t ☃", .epoch⟩]
  createdAt := .sampleLeap

/-- Its record with the fields in order of declaration. -/
def sampleRecord : Json :=
  .object
    [("id", sampleJob.id.toJson), ("did", sampleJob.account.toJson),
      ("description", .string sampleJob.description), ("status", sampleJob.status.toJson),
      ("task_status", .ofDict Status.toJson sampleJob.taskStatus),
      ("values", .ofDict StoredValue.toJson sampleJob.values),
      ("logs", .array (sampleJob.logs.map LogEntry.toJson)),
      ("created_at", .ofInstant sampleJob.createdAt)]

theorem sampleRecord_read :
    Reordered sampleJob.toJson sampleRecord ∧
      { ofJob sampleJob .epoch with data := sampleRecord.render : Row }.job = .ok sampleJob := by
  have declared : Reordered sampleJob.toJson sampleRecord := reordered_ofFields (by decide)
  obtain ⟨-, read, -, itself⟩ := job_of_record sampleJob .epoch
  have back := read declared
  rw [itself.2 (by decide)] at back
  exact ⟨declared, back⟩

/-- A record whose time is spelled with an offset. -/
def sampleOffset : String :=
  "\x7b\"id\":\"00000000-0000-0000-0000-000000000001\"," ++
    "\"did\":\"0x0000000000000000000000000000000000000000\",\"description\":\"mint\"," ++
    "\"status\":\"pending\",\"created_at\":\"1970-01-01T00:00:00+00:00\"\x7d"

/-- A job created within a minute, in a leap second as it were, comes back as another one; and a time
that is spelled with an offset is written otherwise. -/
theorem sampleLeap_changed :
    (ofJob .sampleLeap .epoch).job = .ok .sampleLater ∧ Job.sampleLater ≠ .sampleLeap ∧
      (Job.parse sampleOffset).toOption = some (.create ⟨.ofNat 1⟩ .zero "mint" .epoch) ∧
      Instant.toText .epoch = "1970-01-01T00:00:00Z" := by
  obtain ⟨shown, other⟩ := Job.written_sampleLeap
  refine ⟨?_, other, by decide +kernel, by decide⟩
  rw [job, ofJob, Job.parse_toText, shown]
  rfl

end Row

end JobNode
