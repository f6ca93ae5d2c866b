import SharedSecurity.Text.Blank

/-!
# Telemetry configuration

What is logged, where and under which name.  `TelemetryConfig.ofEnvironment` reads it from the
environment of the process.
-/

set_option autoImplicit false
namespace SharedSecurity

/-- The variables of a process: the value of each that is set. -/
abbrev Environment := String → Option String

/-- How logs are written. -/
structure TelemetryConfig where
  /-- The name of the service. -/
  serviceName : String := "ccv-provider"
  /-- Which events are logged: a level, or a list of directives. -/
  logLevel : String := "info"
  /-- Whether anything is written to the console. -/
  consoleOutput : Bool := true
  /-- Whether log lines are JSON objects. -/
  jsonLogs : Bool := false
  /-- The network the service runs on. -/
  network : String := "testnet"
deriving DecidableEq

namespace TelemetryConfig

/-- The service's name with its network. -/
def fullServiceName (config : TelemetryConfig) : String :=
  config.serviceName ++ "-" ++ config.network

/-- A letter `A` to `Z` in lower case; any other character as it is. -/
def lowerAscii (c : Char) : Char :=
  if 'A' ≤ c ∧ c ≤ 'Z' then Char.ofNat (c.toNat + 32) else c

/-- Whether the value of a variable switches something on: `true`, `1`, `yes` or `on` in any case,
with or without blanks around. -/
def isOn (value : String) : Bool :=
  ["true", "1", "yes", "on"].contains
    (String.ofList ((Text.trimBlank value.toList).map lowerAscii))

/-- The configuration a process is given by its environment.  In a container, which shows by a
variable being set, logs are JSON unless the environment says otherwise. -/
def ofEnvironment (env : Environment) : TelemetryConfig :=
  let defaults : TelemetryConfig := {}
  let inContainer :=
    (env "KUBERNETES_SERVICE_HOST").isSome || (env "DOCKER_CONTAINER").isSome
  { serviceName := (env "CCV_SERVICE_NAME").getD defaults.serviceName
    logLevel := ((env "CCV_LOG_LEVEL").orElse fun _ => env "RUST_LOG").getD defaults.logLevel
    consoleOutput := ((env "CCV_CONSOLE_OUTPUT").map isOn).getD true
    jsonLogs := ((env "CCV_JSON_LOGS").map isOn).getD inContainer
    network := (env "CCV_NETWORK").getD defaults.network }

end TelemetryConfig
end SharedSecurity
