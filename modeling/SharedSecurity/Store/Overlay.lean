import SharedSecurity.Store

/-!
# A write overlay

`Overlay σ` lays the writes of one transition over a backing store of states `σ`.  It is a store
itself, so overlays nest.

* Reads see the overlay's own writes first and ask the backing store only for the rest.
* Writes stay in the overlay and cannot fail.
* `Overlay.commit` makes all of them in the backing store by one batch, in key order.  An overlay
  that is not committed has asked its backing store for reads alone.
-/

set_option autoImplicit false
namespace SharedSecurity

/-- The writes of a transition: what each changed key is to hold, `none` for nothing. -/
abbrev PendingWrites := SortedMap Bytes (Option Bytes)

namespace PendingWrites

/-- The pending writes after one more. -/
def record (pending : PendingWrites) (change : Write) : PendingWrites :=
  pending.insert change.key change.value?

/-- The write that leaves a key with the given value. -/
def toWrite : Bytes × Option Bytes → Write
  | (key, some value) => .put key value
  | (key, none) => .delete key

/-- The pending writes, in key order. -/
def operations (pending : PendingWrites) : List Write := pending.entries.map toWrite

end PendingWrites

/-- A backing store with the writes of a transition laid over it. -/
structure Overlay (σ : Type) where
  /-- The store below. -/
  backing : σ
  /-- The writes that have not reached it. -/
  pending : PendingWrites

namespace Overlay

variable {σ : Type}

/-- An overlay without writes. -/
def ofStore (backing : σ) : Overlay σ := ⟨backing, .empty⟩

/-- The pending writes as operations, in key order. -/
def operations (overlay : Overlay σ) : List Write := overlay.pending.operations

/-- A listing of the backing store with the pending writes under the same stem made in it. -/
def merge (pending : PendingWrites) (stem : Bytes) (listed : List (Bytes × Bytes)) :
    List (Bytes × Bytes) :=
  (Store.applyAll (.ofList listed) ((pending.under stem).map PendingWrites.toWrite)).entries

/-- The overlay with its backing store in another state. -/
def withBacking (overlay : Overlay σ) (backing : σ) : Overlay σ := { overlay with backing }

/-- The overlay after one more write. -/
def record (overlay : Overlay σ) (change : Write) : Overlay σ :=
  { overlay with pending := overlay.pending.record change }

instance [KeyValueStore σ] : KeyValueStore (Overlay σ) where
  answer
    | .get key, overlay =>
      match overlay.pending.get? key with
      | some value => (.ok value, overlay)
      | none =>
        let (value, backing) := KeyValueStore.answer (.get key) overlay.backing
        (value, overlay.withBacking backing)
    | .scan stem, overlay =>
      let (listed, backing) := KeyValueStore.answer (.scan stem) overlay.backing
      (listed.map (merge overlay.pending stem), overlay.withBacking backing)
    | .write change, overlay => (.ok (), overlay.record change)
    | .batch changes, overlay => (.ok (), changes.foldl record overlay)

/-- Makes the pending writes in the backing store, all or none; without writes nothing is asked of
it. -/
def commit [KeyValueStore σ] (overlay : Overlay σ) : Except StoreFault Unit × σ :=
  if overlay.pending.isEmpty then (.ok (), overlay.backing)
  else KeyValueStore.answer (.batch overlay.operations) overlay.backing

end Overlay
end SharedSecurity
