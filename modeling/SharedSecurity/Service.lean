import SharedSecurity.Config
import SharedSecurity.Transport

/-!
# A provider

What makes up a provider apart from the state in its store.  Two providers on one store may differ
in how they are set up and in what the transport tells and grants them.
-/

set_option autoImplicit false
namespace SharedSecurity

/-- A provider: its configuration and its ties to the transport. -/
structure Service where
  /-- How it is set up. -/
  config : ProviderConfig := {}
  /-- What the transport reports. -/
  lookup : Lookup
  /-- What becomes of close requests. -/
  closer : Closer
  /-- The tickets it holds. -/
  capabilities : Capabilities

end SharedSecurity
