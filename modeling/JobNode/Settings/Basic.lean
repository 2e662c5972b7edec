import JobNode.Error
import JobNode.Queue.Settings
import JobNode.Webhook.Settings

/-!
# Settings of the node

All settings have defaults.  `Settings.check` refuses the combinations that the node cannot run
with, and reports the first fault it meets.
-/

namespace JobNode

/-- How jobs are run. -/
structure JobSettings where
  /-- How long tasks started for a job stay valid. -/
  taskValidity : Duration := .ofSecs 3600
  /-- Time between two looks at a job that is waited for. -/
  pollInterval : Duration := .ofMillis 10
  /-- How long the delivery of one message may take. -/
  notificationTimeout : Duration := .ofSecs 30
  /-- Number of messages that may be on their way at once. -/
  maxInflight : Nat := 64
  deriving DecidableEq

/-- Everything the node needs to start. -/
structure Settings where
  databaseUrl : String := "sqlite:anchord.db?mode=rwc"
  /-- Where log files go; there are none without it. -/
  logDirectory : Option String := none
  jobs : JobSettings := {}
  queue : QueueSettings := {}
  webhook : WebhookSettings := {}
  deriving DecidableEq

/-- Why settings are refused. -/
inductive SettingsError where
  | badNumber (variableName text : String)
  | badDuration (cause : Duration.ParseError)
  | emptyDatabaseUrl
  | zeroPollInterval
  | zeroInflight
  | badQueue (cause : QueueError)
  deriving DecidableEq

namespace SettingsError

/-- A value that cannot be read is a validation error, a combination that cannot work one of the
configuration. -/
def toError : SettingsError → Error
  | badNumber variableName text =>
    .validation (variableName ++ " must be a non-negative integer, got '" ++ text ++ "'")
  | badDuration cause => .validation cause.message
  | emptyDatabaseUrl => .configuration "database_url must not be empty"
  | zeroPollInterval => .configuration "wait_poll_interval must be greater than zero"
  | zeroInflight => .configuration "max_inflight_notifications must be greater than zero"
  | badQueue cause => .configuration cause.message

end SettingsError

instance : Inhabited JobSettings := ⟨{}⟩

namespace Settings

instance : Inhabited Settings := ⟨{}⟩

/-- Refuse settings that the node cannot run with. -/
def check (s : Settings) : Except SettingsError Unit :=
  if s.databaseUrl.isEmpty then .error .emptyDatabaseUrl
  else if s.jobs.pollInterval.isZero then .error .zeroPollInterval
  else if s.jobs.maxInflight = 0 then .error .zeroInflight
  else s.queue.check.mapError .badQueue

end Settings

/-! ## Written form -/

open Json

namespace JobSettings

/-- The names of the fields, in order of declaration. -/
def fieldNames : List String :=
  ["task_valid_duration", "wait_poll_interval", "notification_timeout",
    "max_inflight_notifications"]

/-- The settings of jobs. -/
def decode : Decoder JobSettings :=
  Decode.record "JobSettings" fieldNames
    (fun fields => do
      let maxInflight ← Decode.field? fields "max_inflight_notifications" Decode.count
      let notificationTimeout ← Decode.field? fields "notification_timeout" Decode.duration
      let taskValidity ← Decode.field? fields "task_valid_duration" Decode.duration
      let pollInterval ← Decode.field? fields "wait_poll_interval" Decode.duration
      let taskValidity ← Decode.require "task_valid_duration" taskValidity
      let pollInterval ← Decode.require "wait_poll_interval" pollInterval
      let notificationTimeout ← Decode.require "notification_timeout" notificationTimeout
      let maxInflight ← Decode.require "max_inflight_notifications" maxInflight
      .ok { taskValidity, pollInterval, notificationTimeout, maxInflight })
    (fun ts => do
      let taskValidity ← Decode.item "JobSettings" 4 ts 0 Decode.duration
      let pollInterval ← Decode.item "JobSettings" 4 ts 1 Decode.duration
      let notificationTimeout ← Decode.item "JobSettings" 4 ts 2 Decode.duration
      let maxInflight ← Decode.item "JobSettings" 4 ts 3 Decode.count
      .ok { taskValidity, pollInterval, notificationTimeout, maxInflight })

end JobSettings

namespace Settings

/-- The names of the fields, in order of declaration. -/
def fieldNames : List String := ["database_url", "log_dir", "jobs", "queue", "webhook"]

/-- The settings of a node; only the log directory may be missing. -/
def decode : Decoder Settings :=
  Decode.record "Settings" fieldNames
    (fun fields => do
      let databaseUrl ← Decode.field? fields "database_url" Decode.string
      let jobs ← Decode.field? fields "jobs" JobSettings.decode
      let logDirectory ← Decode.field? fields "log_dir" (Decode.optional Decode.string)
      let queue ← Decode.field? fields "queue" QueueSettings.decode
      let webhook ← Decode.field? fields "webhook" WebhookSettings.decode
      let databaseUrl ← Decode.require "database_url" databaseUrl
      let jobs ← Decode.require "jobs" jobs
      let queue ← Decode.require "queue" queue
      let webhook ← Decode.require "webhook" webhook
      .ok { databaseUrl, logDirectory := logDirectory.getD none, jobs, queue, webhook })
    (fun ts => do
      let databaseUrl ← Decode.item "Settings" 5 ts 0 Decode.string
      let logDirectory ← Decode.item "Settings" 5 ts 1 (Decode.optional Decode.string)
      let jobs ← Decode.item "Settings" 5 ts 2 JobSettings.decode
      let queue ← Decode.item "Settings" 5 ts 3 QueueSettings.decode
      let webhook ← Decode.item "Settings" 5 ts 4 WebhookSettings.decode
      .ok { databaseUrl, logDirectory, jobs, queue, webhook })

end Settings

end JobNode
