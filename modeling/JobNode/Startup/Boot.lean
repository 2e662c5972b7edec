import JobNode.Environment.File
import JobNode.Manager.StatusTask
import JobNode.Queue.Server
import JobNode.Settings.Environment
import JobNode.Startup.Database
import JobNode.Startup.Log
import JobNode.Webhook.Sender

/-!
# Starting the node

The node starts in a fixed order: the environment file, the settings, the log, the database, the
webhook, and the queue with its one task.  The first step that fails ends the start; what the steps
before it have made stays.  A start that cannot even report an error ends without a result.

Two signals stop a node that runs, and one makes it read its log filter again.
-/

namespace JobNode.Startup

/-- What the node finds when it starts. -/
structure Surroundings where
  environment : String → Option String
  /-- The text of the environment file, if there is one. -/
  environmentFile : Option String
  files : Files

namespace Surroundings

/-- The variables of the environment, and of the environment file where it has none. -/
def lookup (s : Surroundings) (name : String) : Option String :=
  match s.environmentFile with
  | some text => Environment.extend s.environment text name
  | none => s.environment name

end Surroundings

/-- The variables that the start looks at. -/
def variableNames : List String :=
  Settings.Variable.all.map Settings.Variable.name ++ [Log.variableName]

/-- The tasks of the node. -/
inductive NodeTask where
  | jobStatus
  deriving DecidableEq

/-- A node that is ready to run. -/
structure Ready where
  settings : Settings
  log : Log.Control
  webhook : Webhook
  queue : Server NodeTask

/-- The queue of a node, with its one task. -/
def openQueue (settings : QueueSettings) : Except Error (Server NodeTask) :=
  let name := Manager.StatusTask.name
  ((Server.create settings).register name name .jobStatus).mapError .queue

/-- Start the node: the files at the end, and the node or the first error, if there is one to
report. -/
def boot (s : Surroundings) : Files × Option (Except Error Ready) :=
  match Settings.ofLookup s.lookup with
  | .error e => (s.files, some (.error e.toError))
  | .ok settings =>
    match openLog ⟨none, settings.logDirectory⟩ (s.lookup Log.variableName) false s.files with
    | (files, .error e) => (files, some (.error e))
    | (files, .ok log) =>
      match openDatabase settings.databaseUrl files with
      | (files, .error e) => (files, some (.error e))
      | (files, .ok ()) =>
        match Webhook.create .usual settings.webhook with
        | none => (files, none)
        | some (.error e) => (files, some (.error e))
        | some (.ok webhook) =>
          (files, some ((openQueue settings.queue).map fun queue => ⟨settings, log, webhook, queue⟩))

/-! ## Signals -/

/-- A signal from outside. -/
inductive Signal where
  | terminate
  | interrupt
  | hangup
  deriving DecidableEq, Repr

namespace Signal

/-- The signal stops the node. -/
def stops : Signal → Bool
  | terminate | interrupt => true
  | hangup => false

/-- The signals that have arrived stop the node. -/
def anyStops (received : List Signal) : Bool := received.any stops

end Signal

end JobNode.Startup
