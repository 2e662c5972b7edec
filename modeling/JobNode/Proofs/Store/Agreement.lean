import JobNode.Proofs.Store.Mirror
import JobNode.Store.Basic
import Mathlib.Data.List.Nodup

/-!
# Stores that agree on a job

What a store answers for a job depends on the record of that job alone.  In a table this is the row
that is filed under the texts of its key, wherever it stands among the others.

* `Table.row?_eq_some_iff`: the row of a job.
* `Store.Agree`, `Store.get_of_agree`: stores that are the same as far as one job is concerned.
* `Store.agree_of_save`: saving a job leaves all others as they are.
-/

namespace JobNode

namespace Table

variable {t : Table} {row other : Row} {key : JobKey}

/-- The row of a job is the one that is filed under the texts of its key. -/
theorem row?_eq_some_iff :
    t.row? key.account.toText key.id.toText = some row ↔ row ∈ t.rows ∧ row.key = key.texts := by
  have own (r : Row) : (r.accountId = key.account.toText ∧ r.jobId = key.id.toText) ↔
      r.key = key.texts := by
    rw [Row.key, JobKey.texts, Prod.mk.injEq]
  rw [row?]
  constructor
  · intro found
    exact ⟨List.mem_of_find?_eq_some found, (own row).1 (by simpa using List.find?_some found)⟩
  · rintro ⟨mem, filed⟩
    cases found : t.rows.find? fun r =>
        decide (r.accountId = key.account.toText ∧ r.jobId = key.id.toText) with
    | none =>
      have absent := List.find?_eq_none.1 found row mem
      exact absurd ((own row).2 filed) (by simpa using absent)
    | some r =>
      have filed' : r.key = key.texts := (own r).1 (by simpa using List.find?_some found)
      rw [List.inj_on_of_nodup_map t.distinct (List.mem_of_find?_eq_some found) mem
        (filed'.trans filed.symm)]

/-- An upsert leaves the rows with other keys alone. -/
theorem mem_upsertRow_iff (ne : row.key ≠ other.key) {rows : List Row} :
    row ∈ upsertRow other rows ↔ row ∈ rows := by
  have apart {r : Row} (same : r.key = other.key) : row ≠ r := fun eq => ne (eq ▸ same)
  induction rows with
  | nil =>
    rw [upsertRow, List.mem_singleton]
    exact ⟨fun eq => absurd eq (apart rfl), fun none => absurd none List.not_mem_nil⟩
  | cons first rest ih =>
    rw [upsertRow]
    split
    next own =>
      rw [List.mem_cons, List.mem_cons]
      exact or_congr_left
        ⟨fun eq => absurd eq (apart ((key_update first other).trans own)),
          fun eq => absurd eq (apart own)⟩
    next =>
      rw [List.mem_cons, List.mem_cons]
      exact or_congr_right ih

end Table

namespace Store

/-- Two stores are the same as far as one job is concerned, whatever else they hold. -/
def Agree (key : JobKey) : Store → Store → Prop
  | memory m, memory m' => m.get? key = m'.get? key
  | database t isOpen, database t' isOpen' =>
    isOpen = isOpen' ∧ ∀ row : Row, row.key = key.texts → (row ∈ t.rows ↔ row ∈ t'.rows)
  | memory _, database _ _ | database _ _, memory _ => False

variable {s s' : Store} {key : JobKey} {job : Job} {now : Instant}

theorem get_of_agree (agree : Agree key s s') : s.get key = s'.get key := by
  cases s with
  | memory m =>
    cases s' with
    | memory m' =>
      have same : m.get? key = m'.get? key := agree
      rw [get, get, same]
    | database => cases agree
  | database t isOpen =>
    cases s' with
    | memory => cases agree
    | database t' isOpen' =>
      obtain ⟨rfl, same⟩ := agree
      have rows : t.row? key.account.toText key.id.toText =
          t'.row? key.account.toText key.id.toText := by
        refine Option.ext fun row => ?_
        rw [Table.row?_eq_some_iff, Table.row?_eq_some_iff]
        exact and_congr_left fun filed => same row filed
      have found : t.get? key = t'.get? key := congrArg _ rows
      cases isOpen with
      | false => rfl
      | true => rw [get, get, found]

/-- Saving a job has no effect on any other job. -/
theorem agree_of_save (saved : s.save job now = .ok s') (other : key ≠ job.key) :
    Agree key s s' := by
  cases s with
  | memory m =>
    cases saved
    exact (m.get?_save_of_ne job other).symm
  | database t isOpen =>
    cases isOpen with
    | false => cases saved
    | true =>
      cases saved
      refine ⟨rfl, fun row filed => (Table.mem_upsertRow_iff fun same => other ?_).symm⟩
      exact JobKey.texts_inj.1 (filed.symm.trans same)

end Store

end JobNode
