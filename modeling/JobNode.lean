import JobNode.Main
import JobNode.Proofs.AccountId
import JobNode.Proofs.Error
import JobNode.Proofs.Job.Record
import JobNode.Proofs.Log.Control
import JobNode.Proofs.Manager.Announcements
import JobNode.Proofs.Manager.Causes
import JobNode.Proofs.Manager.Deliveries
import JobNode.Proofs.Manager.Independence
import JobNode.Proofs.Manager.SequentialUpdates
import JobNode.Proofs.Manager.StatusOutcome
import JobNode.Proofs.Manager.Turns
import JobNode.Proofs.Node
import JobNode.Proofs.Queue.Collecting
import JobNode.Proofs.Queue.Lifecycle
import JobNode.Proofs.Queue.Order
import JobNode.Proofs.Queue.Rounds
import JobNode.Proofs.Queue.Slots
import JobNode.Proofs.Queue.Startup
import JobNode.Proofs.Queue.Stopping
import JobNode.Proofs.Queue.Submission
import JobNode.Proofs.Queue.Validity
import JobNode.Proofs.Schedule.Waiting
import JobNode.Proofs.Settings.Environment
import JobNode.Proofs.Store.Contention
import JobNode.Proofs.Store.Listing
import JobNode.Proofs.Webhook.Headers
import JobNode.Schedule.NodeTrial
import JobNode.Schedule.SampleTasks
