import SharedSecurity.Stored

/-!
# Queues of slash acknowledgements

For each chain a queue of uninterpreted tokens: what comes in is added at the end, and the whole
queue is handed out at once.

* `SlashQueue.append`, `SlashQueue.pending`, `SlashQueue.drain` — one chain's queue.
* `SlashQueue.sweep` — hands out every queue that holds something, in the order of the chains.
-/

set_option autoImplicit false
namespace SharedSecurity
namespace SlashQueue

variable {β : Type}

/-- What a stored queue is called in errors. -/
def queueKind : String := "slash acks"

/-- The tokens queued for a chain, oldest first. -/
def pending (chain : ChainId) : Transition (List String) := do
  let tokens ← Stored.record? Codec.tokens queueKind (.slashQueueOf chain)
  pure (tokens.getD [])

/-- Adds a token to the end of a chain's queue. -/
def append (chain : ChainId) (token : String) : Transition Unit := do
  let tokens ← pending chain
  Stored.putRecord Codec.tokens (.slashQueueOf chain) (tokens ++ [token])
  Transition.measure (.slashAck chain.name)

/-- Hands out a chain's queue and empties it. -/
def drain (chain : ChainId) : Transition (List String) := do
  let tokens ← pending chain
  if !tokens.isEmpty then
    Stored.delete (.slashQueueOf chain)
    Transition.report (.slashQueueDrained chain tokens.length)
  pure tokens

/-- The chain and tokens in a listed queue; nothing if the queue is empty. -/
def decodeQueue (listed : Bytes × Bytes) :
    Except ProviderError (Option (ChainId × List String)) := do
  let chain ← Stored.nameOfKey .slashQueue queueKind listed.1
  let tokens ← Codec.tokens.read queueKind listed.2
  .ok (if tokens.isEmpty then none else some (⟨chain⟩, tokens))

/-- Goes through the queues that hold something, in the order of the chains. -/
def visit (start : β) (see : ChainId × List String → β → ForInStep β) : Transition β :=
  Stored.visit .slashQueue decodeQueue start see

/-- The chains whose queue holds something, in order. -/
def chains : Transition (List ChainId) := visit [] fun queue seen => Stored.noteAll queue.1 seen

/-- Hands out one chain's queue together with the chain. -/
def drainWithChain (chain : ChainId) : Transition (ChainId × List String) := do
  let tokens ← drain chain
  pure (chain, tokens)

/-- Hands out every queue that holds something. -/
def sweep : Transition (List (ChainId × List String)) := do
  let waiting ← chains
  waiting.mapM drainWithChain

end SlashQueue
end SharedSecurity
