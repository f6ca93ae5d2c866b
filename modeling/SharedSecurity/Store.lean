import SharedSecurity.SortedMap

/-!
# Key–value stores

All of a provider's state is in one store of byte strings under byte-string keys.

* `Request`, `Request.Answer` — what a store can be asked and what it answers: read a key, list the
  entries under a stem, make one write, or make several writes as one.
* `KeyValueStore σ` — a store whose state has type `σ`.  Any request may fail with a `StoreFault`,
  and answering may change the state.
* `Store` — the plain store: a sorted map that never fails; `Store.changes` tells two of its states
  apart.
-/

set_option autoImplicit false
namespace SharedSecurity

/-- Why a store could not answer. -/
inductive StoreFault where
  /-- Reading or writing failed. -/
  | io (detail : String)
  /-- The stored data is damaged. -/
  | corruption (detail : String)
deriving DecidableEq

/-- The wording of a store fault. -/
def StoreFault.message : StoreFault → String
  | .io detail => s!"KV store I/O error: {detail}"
  | .corruption detail => s!"KV store corruption: {detail}"

/-- A change at one key. -/
inductive Write where
  /-- Hold a value under the key. -/
  | put (key value : Bytes)
  /-- Hold nothing under the key. -/
  | delete (key : Bytes)
deriving DecidableEq

/-- The key a write changes. -/
def Write.key : Write → Bytes
  | .put key _ => key
  | .delete key => key

/-- What a write leaves under its key. -/
def Write.value? : Write → Option Bytes
  | .put _ value => some value
  | .delete _ => none

/-- What a store can be asked. -/
inductive Request where
  /-- The value under a key. -/
  | get (key : Bytes)
  /-- The entries whose key begins with a stem, in key order. -/
  | scan (stem : Bytes)
  /-- Make one write. -/
  | write (change : Write)
  /-- Make several writes, all or none. -/
  | batch (changes : List Write)

/-- The type of a store's answer to a request. -/
@[reducible] def Request.Answer : Request → Type
  | .get _ => Option Bytes
  | .scan _ => List (Bytes × Bytes)
  | .write _ => Unit
  | .batch _ => Unit

/-- A store with states of type `σ`. -/
class KeyValueStore (σ : Type) where
  /-- The answer to a request, and the state after it. -/
  answer : (request : Request) → σ → Except StoreFault request.Answer × σ

/-! ## The plain store -/

/-- The plain store: values under keys, in key order. -/
abbrev Store := SortedMap Bytes Bytes

namespace Store

/-- The store after a write. -/
def apply (store : Store) : Write → Store
  | .put key value => store.insert key value
  | .delete key => store.erase key

/-- The store after several writes, made in order. -/
def applyAll (store : Store) (changes : List Write) : Store := changes.foldl apply store

/-- What is different in the second of two stores, in key order: each key with what it holds
there. -/
def changes (before after : Store) : List (Bytes × Option Bytes) :=
  let keys := (SortedMap.ofList (before.entries ++ after.entries)).keys
  (keys.filter fun key => before.get? key != after.get? key).map fun key => (key, after.get? key)

end Store

instance : KeyValueStore Store where
  answer
    | .get key, store => (.ok (store.get? key), store)
    | .scan stem, store => (.ok (store.under stem), store)
    | .write change, store => (.ok (), store.apply change)
    | .batch changes, store => (.ok (), store.applyAll changes)

end SharedSecurity
