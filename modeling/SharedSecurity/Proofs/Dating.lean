import SharedSecurity.Proofs.BoundChains

/-!
# Versions on record

Entries carry the version that was current when they were created, and buckets are named after it.
So if the current version has never been outside a range, neither has any version on an entry or a
bucket.  Apart from loading a genesis and ending a block every call keeps that true, and it does so
on any store, whether it succeeds or not and whatever lengths the records have: what an
acknowledgement writes back has the version that was read.

## What is here

* `Transition.Keeps` — an invariant of stores that a transition keeps, with a property of the value
  that it tells; rules for sequences, loops, and transitions that only read or write elsewhere.
* `Store.Dated` — the current version and all those on entries and buckets are in a range.
* `Codec.version_of_decode_encode` — a stored entry is read with its version.
* `Unbonding.keeps_create`, `Unbonding.keeps_acknowledge`, `Service.keeps_perform` — **calls keep
  stores dated.**
-/

set_option autoImplicit false
namespace SharedSecurity

open Transition
open Unbonding renaming entry? → findEntry

/-! ## What a transition keeps -/

namespace Transition

variable {α β : Type} {I : Store → Prop} {P : α → Prop} {Q : β → Prop}

/-- On a store with the invariant the transition leaves one, even if it fails, and a value that it
tells has the property. -/
def Keeps (t : Transition α) (I : Store → Prop) (P : α → Prop) : Prop :=
  ∀ store, I store → I (t.run store).store ∧ ∀ value, t.Tells store value → P value

theorem keeps_ofExcept {result : Except ProviderError α}
    (h : ∀ value, result = .ok value → P value) : (ofExcept result).Keeps I P :=
  fun _ hstore => ⟨hstore, h⟩

theorem keeps_pure {value : α} (h : P value) : (pure value : Transition α).Keeps I P := by
  refine keeps_ofExcept ?_
  rintro _ ⟨⟩
  exact h

theorem keeps_fail (error : ProviderError) : (fail error : Transition α).Keeps I P :=
  keeps_ofExcept nofun

/-- A sequence keeps what both parts keep, the second for every value that the first may tell. -/
theorem Keeps.bind {t : Transition α} {next : α → Transition β} (ht : t.Keeps I P)
    (hnext : ∀ value, P value → (next value).Keeps I Q) : (t >>= next).Keeps I Q := by
  intro store hstore
  obtain ⟨hafter, hvalue⟩ := ht store hstore
  constructor
  · rw [run_bind, Outcome.andThen]
    cases hresult : (t.run store).result with
    | error error => exact hafter
    | ok value => exact (hnext value (hvalue value hresult) _ hafter).1
  · intro other htells
    obtain ⟨value, hfirst, hsecond⟩ := tells_bind.1 htells
    exact (hnext value (hvalue value hfirst) _ hafter).2 other hsecond

theorem Keeps.forM {f : α → Transition Unit} {xs : List α}
    (h : ∀ x ∈ xs, (f x).Keeps I fun _ => True) : (xs.forM f).Keeps I fun _ => True := by
  induction xs with
  | nil => exact keeps_pure trivial
  | cons x xs ih =>
    obtain ⟨hx, hxs⟩ := List.forall_mem_cons.1 h
    exact hx.bind fun _ _ => ih hxs

theorem Keeps.mapM {f : α → Transition β} {xs : List α} (h : ∀ x ∈ xs, (f x).Keeps I Q) :
    (xs.mapM f).Keeps I fun ys => ∀ y ∈ ys, Q y := by
  induction xs with
  | nil => exact keeps_pure nofun
  | cons x xs ih =>
    obtain ⟨hx, hxs⟩ := List.forall_mem_cons.1 h
    rw [List.mapM_cons]
    refine hx.bind fun y hy => (ih hxs).bind fun ys hys => keeps_pure ?_
    exact List.forall_mem_cons.2 ⟨hy, hys⟩

/-- A transition that only reads keeps every invariant. -/
theorem Keeps.of_reads {t : Transition α} (ht : t.WritesWithin fun _ => False)
    (hvalue : ∀ store, I store → ∀ value, t.Tells store value → P value) : t.Keeps I P := by
  intro store hstore
  rw [store_run_of_reads ht]
  exact ⟨hstore, hvalue store hstore⟩

theorem keeps_reads {t : Transition α} (ht : t.WritesWithin fun _ => False) :
    t.Keeps I fun _ => True :=
  .of_reads ht fun _ _ _ _ => trivial

end Transition

/-- What checks find, if they all succeed, has a property that each of them establishes. -/
theorem forall_of_mapM_eq_ok {α β ε : Type} {f : α → Except ε β} {P : β → Prop} {xs : List α}
    {ys : List β} (hf : ∀ x ∈ xs, ∀ y, f x = .ok y → P y) (h : xs.mapM f = .ok ys) :
    ∀ y ∈ ys, P y := by
  induction xs generalizing ys with
  | nil =>
    cases h
    exact nofun
  | cons x xs ih =>
    obtain ⟨hx, hxs⟩ := List.forall_mem_cons.1 hf
    rw [List.mapM_cons] at h
    obtain ⟨y, hy, h⟩ := bind_eq_ok_iff.1 h
    obtain ⟨rest, hrest, h⟩ := bind_eq_ok_iff.1 h
    cases h
    exact List.forall_mem_cons.2 ⟨hx y hy, ih hxs hrest⟩

/-! ## Records with a version -/

/-- A version is in a range. -/
def Versioning.Between (first last : Nat) (version : Version) : Prop :=
  first ≤ version.toNat ∧ version.toNat ≤ last

/-- The version that a record carries or is named after, if there is one, is in a range. -/
def Key.Dated (first last : Nat) : (key : Key) → key.Record → Prop
  | entry _, record => Versioning.Between first last record.version
  | bucket _ number, _ => Versioning.Between first last number
  | _, _ => True

/-- The current version, and that of every entry and bucket, is in a range. -/
structure Store.Dated (first last : Nat) (store : Store) : Prop where
  /-- Everything in the store is a record under its key, with a version in the range if any. -/
  records : ∀ bytes value, store.get? bytes = some value → ∃ key : Key, ∃ record : key.Record,
    bytes = key.bytes ∧ value = key.encode record ∧ key.Dated first last record
  /-- The current version is in the range. -/
  version : Versioning.Between first last store.version

namespace Store

variable {first last : Nat} {store : Store}

theorem Dated.typed (h : store.Dated first last) : store.Typed := by
  intro bytes value hvalue
  obtain ⟨key, record, hbytes, hrecord, -⟩ := h.records bytes value hvalue
  exact ⟨key, record, hbytes, hrecord⟩

theorem Dated.record (h : store.Dated first last) {key : Key} {value : Bytes}
    (hvalue : store.get? key.bytes = some value) :
    ∃ record : key.Record, value = key.encode record ∧ key.Dated first last record := by
  obtain ⟨other, record, hbytes, hrecord⟩ := h.records _ _ hvalue
  obtain rfl := Key.bytes_injective hbytes
  exact ⟨record, hrecord⟩

/-- A later end of the range does no harm. -/
theorem Dated.mono (h : store.Dated first last) {later : Nat} (hlater : last ≤ later) :
    store.Dated first later := by
  have hbetween {version : Version} (hversion : Versioning.Between first last version) :
      Versioning.Between first later version := ⟨hversion.1, Nat.le_trans hversion.2 hlater⟩
  refine ⟨fun bytes value hvalue => ?_, hbetween h.version⟩
  obtain ⟨key, record, hbytes, hrecord, hdated⟩ := h.records bytes value hvalue
  refine ⟨key, record, hbytes, hrecord, ?_⟩
  cases key with
  | entry => exact hbetween hdated
  | bucket => exact hbetween hdated
  | _ => trivial

/-- A write of a record with a version in the range keeps a store dated, if the current version is
in the range after it. -/
theorem Dated.apply (h : store.Dated first last) {change : Write} {key : Key}
    (hkey : change.key = key.bytes)
    (hput : ∀ value, change.value? = some value →
      ∃ record : key.Record, value = key.encode record ∧ key.Dated first last record)
    (hversion : Versioning.Between first last (store.apply change).version) :
    (store.apply change).Dated first last := by
  refine ⟨fun bytes value hvalue => ?_, hversion⟩
  rw [get?_apply] at hvalue
  by_cases hbytes : bytes = change.key
  · rw [if_pos hbytes] at hvalue
    obtain ⟨record, hrecord⟩ := hput value hvalue
    exact ⟨key, record, hbytes.trans hkey, hrecord⟩
  · rw [if_neg hbytes] at hvalue
    exact h.records bytes value hvalue

/-- A write under another key leaves the current version alone. -/
theorem version_apply_of_ne (store : Store) {change : Write} {key : Key}
    (hkey : change.key = key.bytes) (hother : key ≠ .version) :
    (store.apply change).version = store.version := by
  have hget : (store.apply change).get? Key.version.bytes = store.get? Key.version.bytes := by
    rw [get?_apply, if_neg]
    rw [hkey]
    exact fun heq => hother (Key.bytes_injective heq).symm
  rw [version, version, record?_congr hget]

/-- A write under another key keeps a store dated. -/
theorem Dated.apply_of_ne (h : store.Dated first last) {change : Write} {key : Key}
    (hkey : change.key = key.bytes) (hother : key ≠ .version)
    (hput : ∀ value, change.value? = some value →
      ∃ record : key.Record, value = key.encode record ∧ key.Dated first last record) :
    (store.apply change).Dated first last := by
  refine h.apply hkey hput ?_
  rw [version_apply_of_ne store hkey hother]
  exact h.version

theorem Dated.hold (h : store.Dated first last) {key : Key} {record : key.Record}
    (hother : key ≠ .version) (hrecord : key.Dated first last record) :
    (store.hold key record).Dated first last := by
  let change : Write := .put key.bytes (key.encode record)
  have hafter : (store.apply change).Dated first last := by
    refine h.apply_of_ne rfl hother ?_
    rintro _ ⟨⟩
    exact ⟨record, rfl, hrecord⟩
  exact hafter

theorem version_hold (store : Store) (version : Version) :
    (store.hold .version version).version = version := by
  have hheld : (store.hold .version version).record? .version = some version :=
    record?_hold_self store trivial
  exact congrArg (Option.getD · 0) hheld

/-- A store stays dated when the current version is set within the range. -/
theorem Dated.hold_version (h : store.Dated first last) {version : Version}
    (hversion : Versioning.Between first last version) :
    (store.hold .version version).Dated first last := by
  let change : Write := .put Key.version.bytes (Key.version.encode version)
  have hkey : change.key = Key.version.bytes := rfl
  have hset : (store.apply change).version = version := store.version_hold version
  have hafter : (store.apply change).Dated first last := by
    refine h.apply hkey ?_ (hset.symm ▸ hversion)
    rintro _ ⟨⟩
    exact ⟨version, rfl, trivial⟩
  exact hafter

variable {P : Key → Prop}

/-- A write of a record that carries no version keeps a store dated. -/
theorem Dated.apply_within (h : store.Dated first last) (hversion : ¬ P .version)
    (hdated : ∀ key, P key → ∀ record, key.Dated first last record) {change : Write}
    (hchange : change.Within P) : (store.apply change).Dated first last := by
  obtain ⟨key, hkey, hbytes, hput⟩ := hchange
  refine h.apply_of_ne hbytes (fun heq => hversion (heq ▸ hkey)) fun value hvalue => ?_
  obtain ⟨record, hrecord⟩ := hput value hvalue
  exact ⟨record, hrecord, hdated key hkey record⟩

theorem Dated.applyAll_within (h : store.Dated first last) (hversion : ¬ P .version)
    (hdated : ∀ key, P key → ∀ record, key.Dated first last record) {changes : List Write}
    (hchanges : ∀ change ∈ changes, change.Within P) :
    (store.applyAll changes).Dated first last := by
  induction changes generalizing store with
  | nil => exact h
  | cons change changes ih =>
    obtain ⟨hchange, hrest⟩ := List.forall_mem_cons.1 hchanges
    exact ih (h.apply_within hversion hdated hchange) hrest

end Store

/-! ## What keeps stores dated -/

namespace Transition

variable {α : Type} {first last : Nat} {P : Key → Prop}

/-- Putting a record with a version in the range. -/
theorem keeps_put {key : Key} {record : key.Record} (hother : key ≠ .version)
    (h : key.Dated first last record) :
    (put key.bytes (key.encode record)).Keeps (Store.Dated first last) fun _ => True := by
  intro store hstore
  exact ⟨hstore.hold hother h, fun _ _ => trivial⟩

/-- Removing a record. -/
theorem keeps_delete {key : Key} (hother : key ≠ .version) :
    (delete key.bytes).Keeps (Store.Dated first last) fun _ => True := by
  intro store hstore
  have hafter : (store.apply (.delete key.bytes)).Dated first last :=
    hstore.apply_of_ne rfl hother nofun
  exact ⟨hafter, fun _ _ => trivial⟩

/-- Writes of records that carry no version. -/
theorem keeps_of_within {t : Transition α} (ht : t.WritesWithin P) (hversion : ¬ P .version)
    (hdated : ∀ key, P key → ∀ record, key.Dated first last record) :
    t.Keeps (Store.Dated first last) fun _ => True := by
  suffices hrun : ∀ store : Store, store.Dated first last →
      (t.run store).store.Dated first last from
    fun store hstore => ⟨hrun store hstore, fun _ _ => trivial⟩
  induction t with
  | done result => exact fun _ => id
  | emit output next ih => exact ih ht
  | ask question next ih =>
    intro store hstore
    cases question with
    | get sought => exact ih _ (ht.2 _) store hstore
    | scan stem => exact ih _ (ht.2 _) store hstore
    | write change => exact ih () (ht.2 ()) _ (hstore.apply_within hversion hdated ht.1)
    | batch changes => exact ih () (ht.2 ()) _ (hstore.applyAll_within hversion hdated ht.1)

end Transition

/-! ## Stored entries -/

namespace Codec

theorem decode_word_encode (word : UInt64) (rest : Bytes) :
    Codec.word.decode (Codec.word.encode word ++ rest) = .ok (word, rest) :=
  lawful_word.decode_iff.2 ⟨trivial, rfl⟩

/-- **A stored entry is read with its version**, even if what follows in it is read otherwise: the
fields before have a fixed width. -/
theorem version_of_decode_encode {stored read : UnbondingEntry} {rest : Bytes}
    (h : unbondingEntry.decode (unbondingEntry.encode stored) = .ok (read, rest)) :
    read.version = stored.version := by
  let tail (entry : UnbondingEntry) : Bytes := (list chainId).encode entry.outstanding
  have hbytes : word.encode stored.id ++ (word.encode stored.version ++ tail stored) =
      word.encode read.id ++ (word.encode read.version ++ (tail read ++ rest)) := by
    have hform := (lawful_unbondingEntry.decode_iff.1 h).2
    simpa only [unbondingEntry, map, pair, List.append_assoc] using hform
  have hid := decode_word_encode stored.id (word.encode stored.version ++ tail stored)
  rw [hbytes, decode_word_encode] at hid
  have hafter := (Prod.mk.inj (Except.ok.inj hid)).2
  have hversion := decode_word_encode stored.version (tail stored)
  rw [← hafter, decode_word_encode] at hversion
  exact (Prod.mk.inj (Except.ok.inj hversion)).1

end Codec

/-- A record is read if its key holds bytes that are one. -/
theorem Stored.tells_read?_some {α : Type} {decode : Bytes → Except ProviderError α} {key : Key}
    {store : Store} {value : α} : (read? decode key).Tells store (some value) ↔
      ∃ bytes, store.get? key.bytes = some bytes ∧ decode bytes = .ok value := by
  rw [read?, tells_bind_of_run (run_get? _ store)]
  cases store.get? key.bytes with
  | none =>
    rw [Tells, run_pure]
    simp
  | some bytes =>
    rw [Tells, run_ofExcept]
    cases hdecode : decode bytes <;> simp [Except.map, hdecode]

namespace Unbonding

variable {first last : Nat} {chain : ChainId} {version : Version}

/-- An entry that is read has a version in the range. -/
theorem between_of_tells_entry {store : Store} (h : store.Dated first last) {id : EntryId}
    {entry : UnbondingEntry} (htells : (findEntry id).Tells store (some entry)) :
    Versioning.Between first last entry.version := by
  obtain ⟨bytes, hget, hread⟩ := Stored.tells_read?_some.1 htells
  obtain ⟨stored, rfl, hdated⟩ := h.record hget
  obtain ⟨rest, hdecode⟩ := Codec.read_eq_ok_iff.1 hread
  rw [Codec.version_of_decode_encode hdecode]
  exact hdated

end Unbonding

/-! ## The provider's functions -/

section

variable {first last : Nat} {version : Version}

/-- The current version is in the range. -/
theorem Versioning.keeps_current :
    current.Keeps (Store.Dated first last) (Between first last) := by
  refine .of_reads within_current fun store hstore version htells => ?_
  have hcurrent := run_current (hstore.typed.sound .version fun _ => trivial)
  obtain rfl := (tells_iff hcurrent).1 htells
  exact hstore.version

namespace Unbonding

theorem keeps_addToBucket (id : EntryId) (h : Versioning.Between first last version)
    (chain : ChainId) :
    (addToBucket id version chain).Keeps (Store.Dated first last) fun _ => True :=
  (keeps_reads (within_bucket chain version)).bind fun _ _ =>
    keeps_put (nofun : Key.bucket chain version ≠ .version) h

/-- The gate is closed with a version in the range. -/
theorem keeps_gate (id : EntryId) (h : Versioning.Between first last version)
    (chains : List ChainId) :
    (gate id version chains).Keeps (Store.Dated first last) fun _ => True := by
  have hentry : (Key.entry id).Dated first last ⟨id, version, chains⟩ := h
  exact (Keeps.forM fun chain _ => keeps_addToBucket id h chain).bind fun _ _ =>
    (keeps_put (nofun : Key.entry id ≠ .version) hentry).bind fun _ _ => keeps_reads trivial

/-- **A creation keeps a store dated**: the version it writes is the current one. -/
theorem keeps_create (id : EntryId) :
    (create id).Keeps (Store.Dated first last) fun _ => True := by
  refine (keeps_reads (within_contains _)).bind fun stored _ => ?_
  show Keeps (if stored = true then _ else _) _ _
  split
  · exact keeps_fail _
  · refine Versioning.keeps_current.bind fun version hversion =>
      (keeps_reads Registry.within_boundChains).bind fun chains _ => ?_
    show Keeps (if chains.isEmpty = true then _ else _) _ _
    split
    · exact keeps_reads trivial
    · exact keeps_gate id hversion chains

/-- The entries of a bucket are read with versions in the range. -/
theorem keeps_entriesInBucket (chain : ChainId) (version : Version) :
    (entriesInBucket chain version).Keeps (Store.Dated first last)
      fun entries => ∀ entry ∈ entries, Versioning.Between first last entry.version := by
  refine (keeps_reads (within_bucket chain version)).bind fun ids _ => .mapM fun id _ => ?_
  have hentry : (findEntry id).Keeps (Store.Dated first last)
      fun found => ∀ entry ∈ found, Versioning.Between first last entry.version := by
    refine .of_reads (Stored.within_read? _ _) fun store hstore found htells entry hfound => ?_
    obtain rfl := Option.mem_def.1 hfound
    exact between_of_tells_entry hstore htells
  refine hentry.bind fun found hfound => ?_
  cases found with
  | none => exact keeps_fail _
  | some entry => exact keeps_pure (hfound entry rfl)

theorem keeps_settleEntry {entry : UnbondingEntry}
    (h : Versioning.Between first last entry.version) :
    (settleEntry entry).Keeps (Store.Dated first last) fun _ => True := by
  rw [settleEntry]
  split
  · exact keeps_delete (by simp)
  · exact keeps_put (by simp : Key.entry entry.id ≠ .version) h

/-- **An acknowledgement keeps a store dated**: it writes back entries with the versions that it
has read. -/
theorem keeps_acknowledge (chain : ChainId) (version : Version) :
    (acknowledge chain version).Keeps (Store.Dated first last) fun _ => True := by
  refine (keeps_entriesInBucket chain version).bind fun entries hentries => ?_
  show Keeps (if entries.isEmpty = true then _ else _) _ _
  split
  · exact keeps_pure trivial
  · have hcheck : ∀ acknowledged, entries.mapM (acknowledgeEntry chain version) = .ok acknowledged →
        ∀ entry ∈ acknowledged, Versioning.Between first last entry.version := by
      refine fun _ => forall_of_mapM_eq_ok fun entry hentry left hleft => ?_
      rw [acknowledgeEntry] at hleft
      split at hleft
      · cases hleft
        exact hentries entry hentry
      · cases hleft
    refine (keeps_ofExcept hcheck).bind fun acknowledged hacknowledged => ?_
    exact (Keeps.forM fun entry hentry => keeps_settleEntry (hacknowledged entry hentry)).bind
      fun _ _ => (keeps_delete (nofun : Key.bucket chain version ≠ .version)).bind
        fun _ _ => keeps_reads trivial

end Unbonding

/-- **Calls keep stores dated**, except for those that set the current version. -/
theorem Service.keeps_perform (service : Service) {operation : Operation}
    (hgenesis : ∀ genesis, operation ≠ .initGenesis genesis)
    (hblock : ∀ height, operation ≠ .endBlock height) :
    (service.perform operation).Keeps (Store.Dated first last) fun _ => True := by
  cases operation with
  | initGenesis genesis => exact absurd rfl (hgenesis genesis)
  | endBlock height => exact absurd rfl (hblock height)
  | unbondingCreated notice =>
    refine .bind (keeps_reads ?_) fun _ _ => Unbonding.keeps_create notice.id
    trivial
  | acknowledgePacket channel ack =>
    refine (keeps_reads (Registry.within_chainOf channel)).bind fun found _ => ?_
    cases found with
    | none => exact keeps_fail _
    | some chain =>
      have happend : (ack.slashAcks.forM (SlashQueue.append chain)).WritesWithin
          (· = .slashQueueOf chain) :=
        .forM fun token _ => SlashQueue.within_append (P := (· = .slashQueueOf chain)) rfl token
      refine (Unbonding.keeps_acknowledge chain ack.version).bind fun completed _ =>
        (keeps_of_within happend nofun ?_).bind fun _ _ => keeps_pure trivial
      rintro _ rfl _
      trivial
  | _ =>
    refine keeps_of_within (service.perform_within _) ?_ fun key hkey _ => ?_
    · simp [Operation.footprint]
    · cases key <;> first
        | exact True.intro
        | simp [Operation.footprint] at hkey

end
end SharedSecurity
