import SharedSecurity.Store

/-!
# A store that may fail

`UnreliableStore` holds contents like the plain store, but each request may meet a fault.  Which
requests fail may depend on how many were made before.  A request that fails changes nothing but
that count; in particular a batch with a fault makes none of its writes.

`FaultTable` lists faults by what is done at which key.  A batch then fails with the first fault
among its writes.
-/

set_option autoImplicit false
namespace SharedSecurity

/-- A store some of whose requests fail. -/
structure UnreliableStore where
  /-- What is held. -/
  contents : Store
  /-- The fault that a request meets after a count of earlier ones. -/
  faultOf : Nat → Request → Option StoreFault
  /-- How many requests were made. -/
  requests : Nat := 0

instance : KeyValueStore UnreliableStore where
  answer request store :=
    let counted := { store with requests := store.requests + 1 }
    match store.faultOf store.requests request with
    | some fault => (.error fault, counted)
    | none =>
      let (answer, contents) := KeyValueStore.answer request store.contents
      (answer, { counted with contents })

/-- What a listed fault spoils. -/
inductive FaultKind where
  /-- Reading a key. -/
  | get
  /-- Holding a value under a key. -/
  | put
  /-- Dropping a key. -/
  | delete
  /-- Listing what is under a stem. -/
  | scan
deriving DecidableEq

/-- Faults by what is done and at which key or stem. -/
abbrev FaultTable := List ((FaultKind × Bytes) × StoreFault)

namespace FaultTable

/-- The fault listed for a write. -/
def ofWrite (table : FaultTable) : Write → Option StoreFault
  | .put key _ => table.lookup (.put, key)
  | .delete key => table.lookup (.delete, key)

/-- The fault listed for a request. -/
def ofRequest (table : FaultTable) : Request → Option StoreFault
  | .get key => table.lookup (.get, key)
  | .scan stem => table.lookup (.scan, stem)
  | .write change => table.ofWrite change
  | .batch changes => changes.findSome? table.ofWrite

/-- A store whose faults are those of a table, whenever they are met. -/
def store (table : FaultTable) (contents : Store) : UnreliableStore where
  contents
  faultOf _ request := table.ofRequest request

end FaultTable
end SharedSecurity
