import JobNode.Settings.Basic
import JobNode.Text.Basic

/-!
# Settings from the environment

Nine variables override the defaults.  White space around a value does not count, and a value of
nothing but white space leaves its setting alone.  A value that cannot be read is refused, never
replaced by the default; of several such values the first in reading order is reported.
-/

namespace JobNode.Settings

/-- The variables that settings are read from. -/
inductive Variable where
  | databaseUrl
  | logDirectory
  | workers
  | idleWait
  | taskValidity
  | pollInterval
  | notificationTimeout
  | webhookUrl
  | webhookTimeout
  deriving DecidableEq

namespace Variable

/-- The variables in the order they are read in. -/
def all : List Variable :=
  [databaseUrl, logDirectory, workers, idleWait, taskValidity, pollInterval, notificationTimeout,
    webhookUrl, webhookTimeout]

/-- The name of a variable. -/
def name : Variable → String
  | databaseUrl => "DATABASE_URL"
  | logDirectory => "LOG_DIR"
  | workers => "QUEUE_NUM_WORKERS"
  | idleWait => "QUEUE_WORKER_WAIT_MS"
  | taskValidity => "TASK_VALID_DURATION"
  | pollInterval => "JOB_WAIT_POLL_INTERVAL"
  | notificationTimeout => "NOTIFICATION_TIMEOUT"
  | webhookUrl => "WEBHOOK_URL"
  | webhookTimeout => "WEBHOOK_TIMEOUT_SECS"

/-- The number that the value of a variable spells, if a 64-bit word holds it. -/
def number (v : Variable) (text : String) : Except SettingsError Nat :=
  match Decimal.number? text with
  | some n => if n ≤ Duration.maxWord then .ok n else .error (.badNumber v.name text)
  | none => .error (.badNumber v.name text)

/-- The duration that the value of a variable spells. -/
def duration (text : String) : Except SettingsError Duration :=
  (Duration.parse text).mapError .badDuration

/-- The settings with the value of a variable in its place.  The validity of tasks holds for the
queue and for jobs. -/
def set (v : Variable) (text : String) (s : Settings) : Except SettingsError Settings :=
  match v with
  | databaseUrl => .ok { s with databaseUrl := text }
  | logDirectory => .ok { s with logDirectory := some text }
  | workers => (v.number text).map fun n => { s with queue := { s.queue with workers := n } }
  | idleWait =>
    (v.number text).map fun n => { s with queue := { s.queue with idleWaitMillis := n } }
  | taskValidity =>
    (duration text).map fun d =>
      { s with
        queue := { s.queue with taskValidity := d }
        jobs := { s.jobs with taskValidity := d } }
  | pollInterval =>
    (duration text).map fun d => { s with jobs := { s.jobs with pollInterval := d } }
  | notificationTimeout =>
    (duration text).map fun d => { s with jobs := { s.jobs with notificationTimeout := d } }
  | webhookUrl => .ok { s with webhook := { s.webhook with url := text } }
  | webhookTimeout =>
    (v.number text).map fun n => { s with webhook := { s.webhook with timeoutSecs := n } }

end Variable

/-- The value of a variable without surrounding white space, if anything is left of it. -/
def givenValue? (lookup : String → Option String) (v : Variable) : Option String :=
  ((lookup v.name).map Text.trim).filter fun text => ¬ text.isEmpty

/-- Put the values of variables into their settings, one variable after the other. -/
def override (lookup : String → Option String) : List Variable → Settings →
    Except SettingsError Settings
  | [], s => .ok s
  | v :: rest, s =>
    match givenValue? lookup v with
    | none => override lookup rest s
    | some text =>
      match v.set text s with
      | .ok s => override lookup rest s
      | .error e => .error e

/-- The settings that an environment asks for. -/
def ofLookup (lookup : String → Option String) : Except SettingsError Settings :=
  match override lookup Variable.all {} with
  | .error e => .error e
  | .ok s =>
    match s.check with
    | .ok () => .ok s
    | .error e => .error e

end JobNode.Settings
