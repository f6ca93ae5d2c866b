import SharedSecurity.Identifier

/-!
# Provider configuration
-/

set_option autoImplicit false
namespace SharedSecurity

/-- How a provider is set up. -/
structure ProviderConfig where
  /-- The port the provider binds. -/
  port : PortId := .provider
  /-- Whether a channel must be initializing before it may be verified. -/
  requireInitializing : Bool := false
  /-- Whether each block boundary records the height of the validator set that ends there. -/
  recordHeights : Bool := true
deriving DecidableEq

/-- Why a configuration document is refused. -/
inductive ConfigError where
  /-- The text is no configuration document. -/
  | unreadable
  /-- The port has an empty name. -/
  | emptyPort
deriving DecidableEq

/-- The wording of the refusal of a readable document. -/
def ConfigError.message : ConfigError → String
  | .unreadable => "Invalid provider config"
  | .emptyPort => "Provider port id must not be empty"

/-- A configuration whose port has a name. -/
def ProviderConfig.validate (config : ProviderConfig) : Except ConfigError ProviderConfig :=
  if config.port.name = "" then .error .emptyPort else .ok config

end SharedSecurity
