import SharedSecurity.Telemetry.Filter
import SharedSecurity.Text.Quoted

/-!
# A logging session

A process installs one log subscriber and keeps it to its end.

* `LogEntry` — an event as it is handed to the log, and `LogEntry.ofSubsystem`,
  `LogEntry.ofChannel`, the entries a host makes.
* `Session.start` — installs a subscriber; only the first one that can be configured is installed.
* `Session.log` — writes an entry if the subscriber lets it through and has a console.
* `Session.run` — starts subscribers, writes entries, and closes what was started.
-/

set_option autoImplicit false
namespace SharedSecurity

/-- The value of a field of a log entry. -/
inductive LogValue where
  /-- A number. -/
  | number (value : Nat)
  /-- A truth value. -/
  | bool (value : Bool)
  /-- A text that is shown between quotes. -/
  | quoted (value : String)
  /-- A text that is shown as it is. -/
  | plain (value : String)
deriving DecidableEq

/-- How a value is shown in a plain line. -/
def LogValue.text : LogValue → String
  | .number value => toString value
  | .bool value => if value then "true" else "false"
  | .quoted value => Text.quoted value
  | .plain value => value

/-- An event as it is handed to the log. -/
structure LogEntry where
  /-- How grave it is. -/
  level : Level
  /-- Where it comes from. -/
  target : String
  /-- What happened. -/
  message : String
  /-- More about it. -/
  fields : List (String × LogValue)
deriving DecidableEq

namespace LogEntry

/-- The plain line of an entry. -/
def line (entry : LogEntry) : String :=
  let fields := entry.fields.map fun (name, value) => " " ++ name ++ "=" ++ value.text
  entry.level.name ++ " " ++ entry.target ++ ": " ++ entry.message ++ String.join fields

/-- An entry of a host about one of its subsystems. -/
def ofSubsystem (target : String) (level : Level) (subsystem message : String)
    (fields : List (String × LogValue)) : LogEntry :=
  ⟨level, target, message, ("subsystem", .quoted subsystem) :: fields⟩

/-- An entry of a host about a channel of a chain. -/
def ofChannel (target : String) (level : Level) (subsystem message chain channel : String)
    (fields : List (String × LogValue)) : LogEntry :=
  ofSubsystem target level subsystem message
    (("chain_id", .plain chain) :: ("channel_id", .plain channel) :: fields)

end LogEntry

/-- A line of the log. -/
inductive LogLine where
  /-- As text. -/
  | plain (text : String)
  /-- As a JSON object. -/
  | object (entry : LogEntry)

/-- Why logging could not be started. -/
inductive StartError where
  /-- The filter cannot be read. -/
  | config
  /-- A subscriber is installed. -/
  | alreadyInstalled
deriving DecidableEq

/-- The wording of the refusal of a second subscriber. -/
def StartError.message : StartError → String
  | .config => "Invalid configuration"
  | .alreadyInstalled =>
    "Failed to initialize logging: a global default trace dispatcher has already been set"

/-- A subscriber of the log. -/
structure Subscriber where
  /-- What is let through. -/
  filter : Filter
  /-- Whether anything is written. -/
  console : Bool
  /-- Whether lines are JSON objects. -/
  json : Bool

/-- What a subscriber writes of an entry. -/
def Subscriber.lines (subscriber : Subscriber) (entry : LogEntry) : List LogLine :=
  if subscriber.console && subscriber.filter.enables entry.level entry.target then
    [if subscriber.json then .object entry else .plain entry.line]
  else []

/-- The log of a process so far. -/
structure Session where
  /-- The installed subscriber. -/
  subscriber : Option Subscriber := none
  /-- The lines written. -/
  written : List LogLine := []

namespace Session

/-- The session after an entry. -/
def log (session : Session) (entry : LogEntry) : Session :=
  match session.subscriber with
  | none => session
  | some subscriber => { session with written := session.written ++ subscriber.lines entry }

/-- The entry that says that logging has begun. -/
def startEntry (config : TelemetryConfig) : LogEntry where
  level := .info
  target := "ccv_telemetry::logging"
  message := "Structured logging initialized"
  fields := [("service", .plain config.fullServiceName), ("json_logs", .bool config.jsonLogs)]

/-- The entry that says that a service lets go of its log. -/
def closeEntry (serviceName : String) : LogEntry where
  level := .info
  target := "ccv_telemetry"
  message := "Shutting down telemetry..."
  fields := [("service", .plain serviceName)]

/-- Starts logging and tells the full name of the service. -/
def start (env : Environment) (session : Session) (config : TelemetryConfig) :
    Except StartError String × Session :=
  match Filter.ofEnvironment? env config with
  | none => (.error .config, session)
  | some filter =>
    match session.subscriber with
    | some _ => (.error .alreadyInstalled, session)
    | none =>
      let subscriber : Subscriber := ⟨filter, config.consoleOutput, config.jsonLogs⟩
      (.ok config.fullServiceName,
        { session with subscriber := some subscriber }.log (startEntry config))

/-- Starts logging for one configuration after the other. -/
def startAll (env : Environment) :
    List TelemetryConfig → Session → List (Except StartError String) × Session
  | [], session => ([], session)
  | config :: rest, session =>
    let (result, session) := start env session config
    let (results, session) := startAll env rest session
    (result :: results, session)

/-- The names of the services that were started. -/
def started (results : List (Except StartError String)) : List String :=
  results.filterMap Except.toOption

/-- Starts logging for each configuration, writes the entries, and lets go of what was started, in
order. -/
def run (env : Environment) (configs : List TelemetryConfig) (entries : List LogEntry) :
    List (Except StartError String) × List LogLine :=
  let (results, session) := startAll env configs {}
  let session := entries.foldl log session
  let session := ((started results).map closeEntry).foldl log session
  (results, session.written)

end Session
end SharedSecurity
