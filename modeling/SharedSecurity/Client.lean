import SharedSecurity.Identifier

/-!
# Light clients

A connection is built on a light client that tracks the chain at the other end.  Channels to
consumer chains may be built on Tendermint clients only.
-/

set_option autoImplicit false
namespace SharedSecurity

/-- The implementation of a light client. -/
inductive ClientType where
  /-- A Tendermint client, the only kind a consumer's channel may be built on. -/
  | tendermint
  /-- Any other kind, by its name. -/
  | other (name : String)
deriving DecidableEq

/-- The name of a client type in messages. -/
def ClientType.name : ClientType → String
  | .tendermint => "07-tendermint"
  | .other name => name

/-- The verified state of a light client. -/
structure LightClient where
  /-- Its implementation. -/
  clientType : ClientType
  /-- The chain it tracks. -/
  chain : ChainId
deriving DecidableEq

end SharedSecurity
