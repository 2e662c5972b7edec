import JobNode.Log.Control
import JobNode.Startup.Files

/-!
# Setting up the log

The log is set up once in the life of a process.  A directive that was asked for has to be good,
and so does the directory for log files; without a directive the environment decides, and the
default where the environment has none that can be read.
-/

namespace JobNode.Startup

/-- How the log is to be set up. -/
structure LogSettings where
  /-- The filter that is asked for. -/
  directive : Option String := none
  /-- Where log files go; there are none without it. -/
  directory : Option String := none

/-- The log was set up before. -/
def alreadySetUp : Error :=
  .other
    ("Failed to set global default subscriber: " ++
      "a global default trace dispatcher has already been set")

/-- The filter of the environment, or the default one. -/
def environmentFilter (environment : Option String) : Log.Filter :=
  match environment.map Log.Filter.parse with
  | some (.ok filter) => filter
  | _ =>
    match Log.Filter.parse Log.defaultDirective with
    | .ok filter => filter
    | .error _ => .ofDirectives []

/-- The filter that the log starts with. -/
def firstFilter (settings : LogSettings) (environment : Option String) :
    Except Error Log.Filter :=
  match settings.directive with
  | some directive => (Log.Filter.parse directive).mapError Log.FilterError.toError
  | none => .ok (environmentFilter environment)

/-- Make the directory for log files, if there is to be one. -/
def openLogDirectory (settings : LogSettings) (files : Files) : Files × Except Error Unit :=
  match settings.directory with
  | some path =>
    let (files, result) := files.createDirectory path
    (files, result.mapError fun e => .io e.message)
  | none => (files, .ok ())

/-- Set up the log of a process that may have a log already: the files after it, and the log or the
error. -/
def openLog (settings : LogSettings) (environment : Option String) (isSetUp : Bool)
    (files : Files) : Files × Except Error Log.Control :=
  match firstFilter settings environment with
  | .error e => (files, .error e)
  | .ok filter =>
    let (files, result) := openLogDirectory settings files
    (files, do
      result
      if isSetUp then .error alreadySetUp else .ok ⟨filter, false⟩)

end JobNode.Startup
