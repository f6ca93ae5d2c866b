import SharedSecurity.Proofs.BoundChains
import SharedSecurity.Proofs.History

/-!
# What the unbonding gate does to a store

The gate writes in loops: a creation adds to one bucket after the other, an acknowledgement settles
one entry after the other and then drops the bucket.  Each step of such a loop touches one record
(`Transition.Replaces`) and the steps touch different ones, so the loop is a change at all of them
at once.  This gives one law for each of the two operations.

* `Unbonding.create_cases` — a creation is refused, stores nothing, or leaves `Store.Gated`.
* `Unbonding.run_acknowledge` — an acknowledgement leaves `Store.Acknowledged` and tells exactly the
  ids of the entries that are gone.  It needs what the buckets say of the entries to be true.
-/

set_option autoImplicit false
namespace SharedSecurity

open Transition

/-! ## Changes at one record -/

namespace Transition

variable {α β : Type}

/-- The transition changes the record under one key, in the way given, and nothing else. -/
structure Replaces (t : Transition Unit) (key : Key)
    (change : Option key.Record → Option key.Record) : Prop where
  /-- It writes at no other key. -/
  within : t.WritesWithin (· = key)
  /-- It succeeds. -/
  ok : ∀ {store : Store}, store.WellFormed → t.Short store → (t.run store).result = .ok ()
  /-- It leaves the changed record. -/
  record : ∀ {store : Store}, store.WellFormed → t.Short store →
    (t.run store).store.record? key = change (store.record? key)

/-- Putting a record. -/
theorem replaces_put (key : Key) (record : key.Record) :
    (put key.bytes (key.encode record)).Replaces key fun _ => some record where
  within := WritesWithin.put (P := (· = key)) key rfl record
  ok _ _ := rfl
  record _ hshort := Store.record?_hold_self _ (key.holds_of_length (short_put.1 hshort))

/-- Removing a record. -/
theorem replaces_delete (key : Key) : (delete key.bytes).Replaces key fun _ => none where
  within := WritesWithin.delete (P := (· = key)) rfl
  ok _ _ := rfl
  record _ _ := Store.record?_drop_self _ key

/-- **A loop of changes at different records** is a change at all of them. -/
theorem Replaces.forM {f : α → Transition Unit} {keyOf : α → Key}
    {change : (x : α) → Option (keyOf x).Record → Option (keyOf x).Record}
    (hf : ∀ x, (f x).Replaces (keyOf x) (change x)) {xs : List α} {store : Store}
    (hstore : store.WellFormed) (hshort : (xs.forM f).Short store) :
    ((xs.forM f).run store).result = .ok () ∧ ((xs.map keyOf).Nodup → ∀ x ∈ xs,
      ((xs.forM f).run store).store.record? (keyOf x) = change x (store.record? (keyOf x))) := by
  induction xs generalizing store with
  | nil => exact ⟨rfl, fun _ => nofun⟩
  | cons x xs ih =>
    have hbind : (x :: xs).forM f = f x >>= fun _ => xs.forM f := rfl
    rw [hbind] at hshort ⊢
    obtain ⟨hfirst, hrest⟩ := short_bind.1 hshort
    have hok := (hf x).ok hstore hfirst
    obtain ⟨hdone, hrecords⟩ := ih (wellFormed_run (hf x).within hfirst hstore) (hrest () hok)
    rw [run_bind_of_result hok]
    refine ⟨hdone, fun hnodup y hy => ?_⟩
    obtain ⟨hx, hxs⟩ := List.nodup_cons.1 hnodup
    rcases List.mem_cons.1 hy with rfl | hy
    · -- the rest of the loop is at other keys
      have hwithin : (xs.forM f).WritesWithin fun key => ∃ z ∈ xs, key = keyOf z :=
        .forM fun z hz => (hf z).within.mono fun key hkey => ⟨z, hz, hkey⟩
      have hother : ¬ ∃ z ∈ xs, keyOf y = keyOf z := fun ⟨z, hz, heq⟩ =>
        hx (List.mem_map.2 ⟨z, hz, heq.symm⟩)
      have hkeep := get?_run hwithin hother ((f y).run store).store
      exact (Store.record?_congr hkeep).trans ((hf y).record hstore hfirst)
    · have hne : keyOf y ≠ keyOf x := fun heq => hx (heq ▸ List.mem_map_of_mem hy)
      have hkeep := Store.record?_congr (get?_run (hf x).within hne store)
      exact (hrecords hxs y hy).trans (congrArg (change y) hkeep)

/-- A loop that only reads. -/
theorem run_mapM {f : α → Transition β} {g : α → β} {store : Store} {xs : List α}
    (h : ∀ x ∈ xs, (f x).run store = ⟨.ok (g x), store, []⟩) :
    (xs.mapM f).run store = ⟨.ok (xs.map g), store, []⟩ := by
  induction xs with
  | nil => rfl
  | cons x xs ih =>
    obtain ⟨hx, hxs⟩ := List.forall_mem_cons.1 h
    rw [List.mapM_cons, run_bind_ok hx, run_bind_ok (ih hxs)]
    rfl

end Transition

/-- A loop of checks that all succeed. -/
theorem mapM_eq_ok {α β ε : Type} {f : α → Except ε β} {g : α → β} {xs : List α}
    (h : ∀ x ∈ xs, f x = .ok (g x)) : xs.mapM f = .ok (xs.map g) := by
  induction xs with
  | nil => rfl
  | cons x xs ih =>
    obtain ⟨hx, hxs⟩ := List.forall_mem_cons.1 h
    rw [List.mapM_cons, hx, ih hxs]
    rfl

/-! ## The steps of the gate -/

namespace Unbonding

/-- An id is added to a bucket. -/
theorem replaces_addToBucket (id : EntryId) (version : Version) (chain : ChainId) :
    (addToBucket id version chain).Replaces (.bucket chain version)
      fun ids => some (ids.getD [] ++ [id]) where
  within := within_addToBucket (P := (· = .bucket chain version)) id rfl
  ok hstore _ := by
    rw [addToBucket, run_bind_ok (run_bucket (hstore.sound _))]
    rfl
  record {store} hstore hshort := by
    have hbucket := run_bucket (hstore.sound (.bucket chain version))
    have hput := hshort.after hbucket
    rw [addToBucket, run_bind_ok hbucket]
    exact (replaces_put (.bucket chain version) _).record hstore hput

/-- An entry is settled. -/
theorem replaces_settleEntry (entry : UnbondingEntry) :
    (settleEntry entry).Replaces (.entry entry.id)
      fun _ => if entry.isFullyAcknowledged then none else some entry := by
  rw [settleEntry]
  by_cases h : entry.isFullyAcknowledged = true
  · rw [if_pos h, if_pos h]
    exact replaces_delete (.entry entry.id)
  · rw [if_neg h, if_neg h]
    exact replaces_put (.entry entry.id) entry

end Unbonding

/-- A token is added to a queue. -/
theorem SlashQueue.replaces_append (chain : ChainId) (token : String) :
    (append chain token).Replaces (.slashQueueOf chain)
      fun tokens => some (tokens.getD [] ++ [token]) where
  within := within_append (P := (· = .slashQueueOf chain)) rfl token
  ok hstore _ := by
    rw [append, run_bind_ok (run_pending (hstore.sound _))]
    rfl
  record {store} hstore hshort := by
    have hpending := run_pending (hstore.sound (.slashQueueOf chain))
    have hput := (short_bind.1 (hshort.after hpending)).1
    rw [append, run_bind_ok hpending]
    exact (replaces_put (.slashQueueOf chain) _).record hstore hput

/-! ## Creation -/

/-- What a creation leaves: the entry waits for every bound chain to acknowledge the version, and is
last in the bucket of each. -/
structure Store.Gated (before : Store) (id : EntryId) (after : Store) : Prop where
  /-- The entry is held. -/
  held : after.held? id = some ⟨id, before.version, before.boundChains⟩
  /-- Other entries are as they were. -/
  held_of_ne : ∀ other, other ≠ id → after.held? other = before.held? other
  /-- The id is last in the bucket of each bound chain. -/
  bucket : ∀ chain ∈ before.boundChains, after.bucket? chain before.version =
    some (before.waiting chain before.version ++ [id])
  /-- Other buckets are as they were. -/
  bucket_of_ne : ∀ chain version, (chain ∈ before.boundChains → version ≠ before.version) →
    after.bucket? chain version = before.bucket? chain version

namespace Unbonding

theorem within_gate (id : EntryId) (version : Version) (chains : List ChainId) :
    (gate id version chains).WritesWithin
      fun key => key = .entry id ∨ ∃ chain ∈ chains, key = .bucket chain version :=
  .bind (.forM fun chain hchain => within_addToBucket id (.inr ⟨chain, hchain, rfl⟩)) fun _ =>
    .bind (WritesWithin.put (.entry id) (.inl rfl) ⟨id, version, chains⟩) fun _ => trivial

/-- The gate closes on an entry. -/
theorem run_gate (id : EntryId) {store : Store} (hstore : store.WellFormed)
    (hshort : (gate id store.version store.boundChains).Short store) :
    ((gate id store.version store.boundChains).run store).result = .ok () ∧
      store.Gated id ((gate id store.version store.boundChains).run store).store := by
  have hwithin := within_gate id store.version store.boundChains
  have hloop := (short_bind.1 hshort).1
  obtain ⟨hok, hbuckets⟩ := Replaces.forM (replaces_addToBucket id store.version) hstore hloop
  have hput := (short_bind.1 ((short_bind.1 hshort).2 () hok)).1
  have hrun : ((gate id store.version store.boundChains).run store).result = .ok () ∧
      ((gate id store.version store.boundChains).run store).store =
        ((store.boundChains.forM (addToBucket id store.version)).run store).store.hold (.entry id)
          ⟨id, store.version, store.boundChains⟩ := by
    rw [gate, run_bind_of_result hok]
    exact ⟨rfl, rfl⟩
  refine ⟨hrun.1, ?_, fun other hother => ?_, fun chain hchain => ?_,
    fun chain version hother => ?_⟩
  · rw [hrun.2]
    exact Store.record?_hold_self _ (Key.holds_of_length (.entry id) (short_put.1 hput))
  · refine Store.record?_congr (get?_run hwithin ?_ store)
    rintro (heq | ⟨chain, -, heq⟩)
    · exact hother (Key.entry.inj heq)
    · cases heq
  · rw [hrun.2]
    have hdistinct : (store.boundChains.map fun chain => Key.bucket chain store.version).Nodup :=
      List.pairwise_map.2 (store.nodup_boundChains.imp fun hne heq => hne (Key.bucket.inj heq).1)
    have hne : Key.bucket chain store.version ≠ .entry id := nofun
    exact (Store.record?_hold_of_ne _ hne _).trans (hbuckets hdistinct chain hchain)
  · refine Store.record?_congr (get?_run hwithin ?_ store)
    rintro (heq | ⟨bound, hbound, heq⟩)
    · cases heq
    · obtain ⟨rfl, rfl⟩ := Key.bucket.inj heq
      exact hother hbound rfl

/-- A creation asks first whether an entry is held under the id. -/
theorem run_create (id : EntryId) {store : Store} (hstore : store.WellFormed) :
    (create id).run store = match store.held? id with
      | some _ => ⟨.error (.duplicateEntry id), store, []⟩
      | none =>
        (if store.boundChains.isEmpty then report (.unbondingUngated id)
          else gate id store.version store.boundChains).run store := by
  have hcontains := run_contains (hstore.sound (.entry id))
  have hversion := Versioning.run_current (hstore.sound .version)
  have hchains := Registry.run_boundChains hstore.typed
  rw [create, run_bind_ok hcontains, Outcome.prepend_nil]
  show Transition.run (if (store.held? id).isSome = true then _ else _) store = _
  cases store.held? id with
  | some entry => rfl
  | none =>
    show ((Versioning.current >>= _).run store) = _
    rw [run_bind_ok hversion, run_bind_ok hchains]
    rfl

/-- What a creation of a new entry writes with chains bound is what the gate writes. -/
theorem short_gate {id : EntryId} {store : Store} (hstore : store.WellFormed)
    (hheld : store.held? id = none) (hne : store.boundChains ≠ [])
    (hshort : (create id).Short store) :
    (gate id store.version store.boundChains).Short store := by
  have hcontains := run_contains (hstore.sound (.entry id))
  rw [show store.record? (.entry id) = none from hheld] at hcontains
  have hversion := Versioning.run_current (hstore.sound .version)
  have hchains := Registry.run_boundChains hstore.typed
  have hrest := ((hshort.after hcontains).after hversion).after hchains
  rwa [if_neg fun hnil => hne (List.isEmpty_iff.1 hnil)] at hrest

/-- **All that a creation can do.**  It is refused if an entry is held under the id; else it stores
nothing if no chain is bound; else the gate closes on the entry. -/
theorem create_cases (id : EntryId) {store : Store} (hstore : store.WellFormed)
    (hshort : (create id).Short store) :
    ((store.held? id).isSome ∧
        (create id).run store = ⟨.error (.duplicateEntry id), store, []⟩) ∨
      (store.held? id = none ∧ ((create id).run store).result = .ok () ∧
        ((store.boundChains = [] ∧ ((create id).run store).store = store) ∨
          (store.boundChains ≠ [] ∧ store.Gated id ((create id).run store).store))) := by
  have hrun := run_create id hstore
  cases hheld : store.held? id with
  | some entry =>
    rw [hheld] at hrun
    exact .inl ⟨rfl, hrun⟩
  | none =>
    rw [hheld] at hrun
    refine .inr ⟨rfl, ?_⟩
    rw [hrun]
    by_cases hempty : store.boundChains = []
    · rw [hempty]
      exact ⟨rfl, .inl ⟨rfl, rfl⟩⟩
    · simp only [if_neg fun hnil => hempty (List.isEmpty_iff.1 hnil)]
      obtain ⟨hresult, hgated⟩ := run_gate id hstore (short_gate hstore hheld hempty hshort)
      exact ⟨hresult, .inr ⟨hempty, hgated⟩⟩

end Unbonding

/-! ## Acknowledgement -/

/-- What is left of an entry once a chain has acknowledged; nothing if it waits for no other. -/
def UnbondingEntry.left? (entry : UnbondingEntry) (chain : ChainId) : Option UnbondingEntry :=
  if (entry.acknowledge chain).isFullyAcknowledged then none else some (entry.acknowledge chain)

theorem UnbondingEntry.isAwaiting_iff {entry : UnbondingEntry} {chain : ChainId} :
    entry.isAwaiting chain = true ↔ chain ∈ entry.outstanding :=
  List.contains_iff_mem

theorem UnbondingEntry.isNone_left? (entry : UnbondingEntry) (chain : ChainId) :
    (entry.left? chain).isNone = (entry.acknowledge chain).isFullyAcknowledged := by
  rw [left?]
  cases (entry.acknowledge chain).isFullyAcknowledged <;> rfl

namespace Store

/-- What a bucket says is true: each of its ids is there once, and the entry held under it awaits
the chain. -/
structure Backed (store : Store) (chain : ChainId) (version : Version) : Prop where
  /-- No id is there twice. -/
  nodup : (store.waiting chain version).Nodup
  /-- Each id is that of a held entry that awaits the chain. -/
  held : ∀ id ∈ store.waiting chain version, ∃ entry, store.held? id = some entry ∧
    entry.id = id ∧ chain ∈ entry.outstanding

/-- What an acknowledgement leaves: the chain is gone from every entry in the bucket, the entries
that waited for no other are gone, and so is the bucket. -/
structure Acknowledged (before : Store) (chain : ChainId) (version : Version)
    (after : Store) : Prop where
  /-- The entries in the bucket lose the chain. -/
  held : ∀ id ∈ before.waiting chain version,
    after.held? id = (before.held? id).bind fun entry => entry.left? chain
  /-- Other entries are as they were. -/
  held_of_not_mem : ∀ id, id ∉ before.waiting chain version → after.held? id = before.held? id
  /-- The bucket is gone. -/
  bucket : after.bucket? chain version = none
  /-- Other buckets are as they were. -/
  bucket_of_ne : ∀ other number, (other = chain → number ≠ version) →
    after.bucket? other number = before.bucket? other number

/-- If no bucket is recorded as empty, one that nobody is in is not recorded at all. -/
theorem bucket?_eq_none {store : Store} {chain : ChainId} {version : Version}
    (h : store.bucket? chain version ≠ some []) (hempty : store.waiting chain version = []) :
    store.bucket? chain version = none := by
  rw [waiting] at hempty
  cases hfound : store.bucket? chain version with
  | none => rfl
  | some ids =>
    rw [hfound] at hempty h
    exact absurd (congrArg some hempty) h

/-- The entry held under an id that is known to have one. -/
def entryOf (store : Store) (id : EntryId) : UnbondingEntry := (store.held? id).getD ⟨id, 0, []⟩

/-- The entries of a bucket without its chain. -/
def settled (store : Store) (chain : ChainId) (version : Version) : List UnbondingEntry :=
  (store.waiting chain version).map fun id => (store.entryOf id).acknowledge chain

namespace Backed

variable {store : Store} {chain : ChainId} {version : Version}

theorem held?_eq (h : store.Backed chain version) {id : EntryId}
    (hid : id ∈ store.waiting chain version) : store.held? id = some (store.entryOf id) := by
  obtain ⟨entry, hentry, -⟩ := h.held id hid
  rw [entryOf, hentry]
  rfl

theorem id_entryOf (h : store.Backed chain version) {id : EntryId}
    (hid : id ∈ store.waiting chain version) : (store.entryOf id).id = id := by
  obtain ⟨entry, hentry, hsame, -⟩ := h.held id hid
  rw [entryOf, hentry]
  exact hsame

theorem mem_outstanding (h : store.Backed chain version) {id : EntryId}
    (hid : id ∈ store.waiting chain version) : chain ∈ (store.entryOf id).outstanding := by
  obtain ⟨entry, hentry, -, hawaits⟩ := h.held id hid
  rw [entryOf, hentry]
  exact hawaits

theorem ids_settled (h : store.Backed chain version) :
    (store.settled chain version).map UnbondingEntry.id = store.waiting chain version := by
  rw [settled, List.map_map]
  refine (List.map_congr_left fun id hid => ?_).trans (List.map_id _)
  exact h.id_entryOf hid

theorem completedIds_settled (h : store.Backed chain version) :
    Unbonding.completedIds (store.settled chain version) =
      (store.waiting chain version).filter fun id =>
        ((store.entryOf id).acknowledge chain).isFullyAcknowledged := by
  rw [Unbonding.completedIds, settled, List.filter_map, List.map_map]
  refine (List.map_congr_left fun id hid => ?_).trans (List.map_id _)
  exact h.id_entryOf (List.mem_filter.1 hid).1

/-- The checks of an acknowledgement succeed. -/
theorem mapM_acknowledgeEntry (h : store.Backed chain version) :
    ((store.waiting chain version).map store.entryOf).mapM
        (Unbonding.acknowledgeEntry chain version) =
      .ok (store.settled chain version) := by
  have hall : ∀ entry ∈ (store.waiting chain version).map store.entryOf,
      Unbonding.acknowledgeEntry chain version entry = .ok (entry.acknowledge chain) := by
    intro entry hentry
    obtain ⟨id, hid, rfl⟩ := List.mem_map.1 hentry
    have hawaits := UnbondingEntry.isAwaiting_iff.2 (h.mem_outstanding hid)
    rw [Unbonding.acknowledgeEntry, if_pos hawaits]
  rw [mapM_eq_ok hall, List.map_map]
  rfl

end Backed
end Store

namespace Unbonding

variable {store : Store} {chain : ChainId} {version : Version}

/-- The entries of a bucket can be read. -/
theorem run_entriesInBucket (hstore : store.WellFormed) (h : store.Backed chain version) :
    (entriesInBucket chain version).run store =
      ⟨.ok ((store.waiting chain version).map store.entryOf), store, []⟩ := by
  rw [entriesInBucket, run_bind_ok (run_bucket (hstore.sound _)), Outcome.prepend_nil]
  refine run_mapM fun id hid => ?_
  rw [entryInBucket, run_bind_ok (run_entry (hstore.sound _)), h.held?_eq hid]
  rfl

theorem within_settle (chain : ChainId) (version : Version) (entries : List UnbondingEntry) :
    (settle chain version entries).WritesWithin
      fun key => (∃ entry ∈ entries, key = .entry entry.id) ∨ key = .bucket chain version :=
  .bind (.forM fun entry hentry => within_settleEntry (.inl ⟨entry, hentry, rfl⟩)) fun _ =>
    .bind (WritesWithin.delete (.inr rfl)) fun _ => trivial

/-- Settling entries with different ids. -/
theorem run_settle (hstore : store.WellFormed) {entries : List UnbondingEntry}
    (hids : (entries.map UnbondingEntry.id).Nodup)
    (hshort : (settle chain version entries).Short store) :
    ((settle chain version entries).run store).result = .ok (completedIds entries) ∧
      (∀ entry ∈ entries, ((settle chain version entries).run store).store.held? entry.id =
        if entry.isFullyAcknowledged then none else some entry) ∧
      ((settle chain version entries).run store).store.bucket? chain version = none := by
  obtain ⟨hok, hsettled⟩ := Replaces.forM replaces_settleEntry hstore (short_bind.1 hshort).1
  have hrun : ((settle chain version entries).run store).result = .ok (completedIds entries) ∧
      ((settle chain version entries).run store).store =
        ((entries.forM settleEntry).run store).store.drop (.bucket chain version) := by
    rw [settle, run_bind_of_result hok]
    exact ⟨rfl, rfl⟩
  refine ⟨hrun.1, fun entry hentry => ?_, ?_⟩
  · have hdistinct : (entries.map fun entry => Key.entry entry.id).Nodup := by
      have hdifferent : entries.Pairwise fun a b => a.id ≠ b.id := List.pairwise_map.1 hids
      exact List.pairwise_map.2 (hdifferent.imp fun hne heq => hne (Key.entry.inj heq))
    have hne : Key.entry entry.id ≠ .bucket chain version := nofun
    rw [hrun.2]
    exact (Store.record?_drop_of_ne _ hne).trans (hsettled hdistinct entry hentry)
  · rw [hrun.2]
    exact Store.record?_drop_self _ _

/-- Settling the entries of a bucket, each without the chain, acknowledges for that chain. -/
theorem acknowledged_settle (hstore : store.WellFormed) (h : store.Backed chain version)
    (hshort : (settle chain version (store.settled chain version)).Short store) :
    store.Acknowledged chain version
      ((settle chain version (store.settled chain version)).run store).store := by
  obtain ⟨-, hheld, hgone⟩ := run_settle hstore (h.ids_settled.symm ▸ h.nodup) hshort
  have hwithin := within_settle chain version (store.settled chain version)
  refine ⟨fun id hid => ?_, fun id hid => ?_, hgone, fun other number hother => ?_⟩
  · have hentry := hheld _ (List.mem_map_of_mem hid)
    rw [show ((store.entryOf id).acknowledge chain).id = id from h.id_entryOf hid] at hentry
    rw [hentry, h.held?_eq hid]
    rfl
  · refine Store.record?_congr (get?_run hwithin ?_ store)
    rintro (⟨entry, hentry, heq⟩ | heq)
    · refine hid ?_
      rw [← h.ids_settled, Key.entry.inj heq]
      exact List.mem_map_of_mem hentry
    · cases heq
  · refine Store.record?_congr (get?_run hwithin ?_ store)
    rintro (⟨entry, -, heq⟩ | heq)
    · cases heq
    · obtain ⟨rfl, rfl⟩ := Key.bucket.inj heq
      exact hother rfl rfl

/-- **What an acknowledgement does**, on a bucket that says what is true: it leaves the entries
without the chain, and tells the ids of those that are gone. -/
theorem run_acknowledge (hstore : store.WellFormed) (h : store.Backed chain version)
    (hbucket : store.bucket? chain version ≠ some [])
    (hshort : (acknowledge chain version).Short store) :
    ((acknowledge chain version).run store).result =
        .ok ((store.waiting chain version).filter fun id =>
          (((acknowledge chain version).run store).store.held? id).isNone) ∧
      store.Acknowledged chain version ((acknowledge chain version).run store).store := by
  have hentries := run_entriesInBucket hstore h
  have hrest := hshort.after hentries
  rw [acknowledge, run_bind_ok hentries, Outcome.prepend_nil]
  by_cases hempty : store.waiting chain version = []
  · have hnone := Store.bucket?_eq_none hbucket hempty
    simp only [hempty, List.map_nil, List.isEmpty_nil, if_true, run_pure, List.filter_nil]
    exact ⟨trivial, fun id hid => absurd hid (by rw [hempty]; exact List.not_mem_nil),
      fun _ _ => rfl, hnone, fun _ _ _ => rfl⟩
  · have hsome : ¬ ((store.waiting chain version).map store.entryOf).isEmpty = true := fun hnil =>
      hempty (List.map_eq_nil_iff.1 (List.isEmpty_iff.1 hnil))
    have hchecks := h.mapM_acknowledgeEntry
    rw [if_neg hsome] at hrest ⊢
    rw [hchecks] at hrest ⊢
    have hsettle := hrest.after (run_ofExcept (.ok (store.settled chain version)) store)
    rw [run_bind_ok (run_ofExcept (.ok (store.settled chain version)) store), Outcome.prepend_nil]
    have hleft := acknowledged_settle hstore h hsettle
    obtain ⟨hresult, -⟩ := run_settle hstore (h.ids_settled.symm ▸ h.nodup) hsettle
    refine ⟨?_, hleft⟩
    rw [hresult, h.completedIds_settled]
    refine congrArg Except.ok (List.filter_congr fun id hid => ?_)
    rw [hleft.held id hid, h.held?_eq hid, Option.bind_some, UnbondingEntry.isNone_left?]

end Unbonding

/-- What an acknowledgement leaves is about entries and buckets only. -/
theorem Store.Acknowledged.congr {before middle after : Store} {chain : ChainId} {version : Version}
    (h : before.Acknowledged chain version middle)
    (hheld : ∀ id, after.held? id = middle.held? id)
    (hbucket : ∀ chain version, after.bucket? chain version = middle.bucket? chain version) :
    before.Acknowledged chain version after where
  held id hid := by
    rw [hheld]
    exact h.held id hid
  held_of_not_mem id hid := by
    rw [hheld]
    exact h.held_of_not_mem id hid
  bucket := by
    rw [hbucket]
    exact h.bucket
  bucket_of_ne other number hother := by
    rw [hbucket]
    exact h.bucket_of_ne other number hother

/-- **All that an acknowledgement on a channel can do**, if buckets say what is true.  It is refused
on a channel that is not bound; else the chain of the channel acknowledges, and the tokens that come
with it make no difference to that. -/
theorem Service.acknowledgePacket_cases (service : Service) (channel : ChannelId)
    (ack : MaturityAcknowledgement) {store : Store} (hstore : store.WellFormed)
    (hbacked : ∀ chain version, store.Backed chain version)
    (hbucket : ∀ chain version, store.bucket? chain version ≠ some [])
    (hshort : (service.acknowledgePacket channel ack).Short store) :
    (store.chain? channel = none ∧ (service.acknowledgePacket channel ack).run store =
        ⟨.error (.channelNotFound channel), store, []⟩) ∨
      ∃ chain, store.chain? channel = some chain ∧
        ((service.acknowledgePacket channel ack).run store).result =
          .ok ((store.waiting chain ack.version).filter fun id =>
            (((service.acknowledgePacket channel ack).run store).store.held? id).isNone) ∧
        store.Acknowledged chain ack.version
          ((service.acknowledgePacket channel ack).run store).store := by
  have hchain := Registry.run_chainOf (hstore.sound (.chainOf channel))
  have hrest := hshort.after hchain
  rw [acknowledgePacket, run_bind_ok hchain, Outcome.prepend_nil]
  cases hfound : store.chain? channel with
  | none => exact .inl ⟨rfl, rfl⟩
  | some chain =>
    rw [hfound] at hrest
    obtain ⟨hfirst, hthen⟩ := short_bind.1 hrest
    obtain ⟨hresult, hleft⟩ :=
      Unbonding.run_acknowledge hstore (hbacked chain _) (hbucket chain _) hfirst
    have htokens := (short_bind.1 (hthen _ hresult)).1
    have hwell := wellFormed_run (Unbonding.within_acknowledge (P := fun _ => True) chain
      (fun _ => trivial) trivial) hfirst hstore
    obtain ⟨hok, -⟩ := Replaces.forM (SlashQueue.replaces_append chain) hwell htokens
    have hwithin : (ack.slashAcks.forM (SlashQueue.append chain)).WritesWithin
        (· = .slashQueueOf chain) :=
      .forM fun token _ => SlashQueue.within_append (P := (· = .slashQueueOf chain)) rfl token
    right
    refine ⟨chain, rfl, ?_⟩
    show ((Unbonding.acknowledge chain ack.version >>= fun completed =>
        ack.slashAcks.forM (SlashQueue.append chain) >>= fun _ => pure completed).run
          store).result = _ ∧ _
    rw [run_bind_of_result hresult, run_bind_of_result hok]
    have hheld (id : EntryId) := Store.record?_congr (get?_run hwithin
      (nofun : Key.entry id ≠ .slashQueueOf chain)
      ((Unbonding.acknowledge chain ack.version).run store).store)
    have hbuckets (other : ChainId) (version : Version) := Store.record?_congr (get?_run hwithin
      (nofun : Key.bucket other version ≠ .slashQueueOf chain)
      ((Unbonding.acknowledge chain ack.version).run store).store)
    refine ⟨congrArg Except.ok (List.filter_congr fun id _ => ?_), hleft.congr hheld hbuckets⟩
    exact congrArg Option.isNone (hheld id).symm

/-! ## What a call does to the gate -/

/-- All that a call made directly can do to entries and buckets. -/
inductive GateStep (store : Store) : Call → Store → Prop
  /-- A creation closes the gate on an entry. -/
  | gated {service : Service} {notice : UnbondingNotice} {after : Store}
      (tells : (service.unbondingCreated notice).Tells store ())
      (free : store.held? notice.id = none) (chains : store.boundChains ≠ [])
      (left : store.Gated notice.id after) :
      GateStep store ⟨service, .unbondingCreated notice⟩ after
  /-- A chain acknowledges on its channel. -/
  | acknowledged {service : Service} {channel : ChannelId} {ack : MaturityAcknowledgement}
      {chain : ChainId} {after : Store} (bound : store.chain? channel = some chain)
      (tells : (service.acknowledgePacket channel ack).Tells store
        ((store.waiting chain ack.version).filter fun id => (after.held? id).isNone))
      (left : store.Acknowledged chain ack.version after) :
      GateStep store ⟨service, .acknowledgePacket channel ack⟩ after
  /-- Nothing happens: if it is a creation it is refused or no chain is bound, and if it is an
  acknowledgement it is refused. -/
  | idle {call : Call} {after : Store} (held : ∀ id, after.held? id = store.held? id)
      (bucket : ∀ chain version, after.bucket? chain version = store.bucket? chain version)
      (created : ∀ service notice, call = ⟨service, .unbondingCreated notice⟩ →
        (service.unbondingCreated notice).Tells store () →
          store.held? notice.id = none ∧ store.boundChains = [])
      (refused : ∀ service channel ack, call = ⟨service, .acknowledgePacket channel ack⟩ →
        ∀ ids, ¬ (service.acknowledgePacket channel ack).Tells store ids) :
      GateStep store call after

/-- The keys of the gate. -/
def Key.IsGate : Key → Prop
  | entry _ => True
  | bucket _ _ => True
  | _ => False

/-- Only creations and acknowledgements write at the keys of the gate. -/
theorem Operation.not_footprint_of_isGate {operation : Operation}
    (hcreated : ∀ notice, operation ≠ .unbondingCreated notice)
    (hack : ∀ channel ack, operation ≠ .acknowledgePacket channel ack) {key : Key}
    (hkey : key.IsGate) : ¬ operation.footprint key := by
  cases operation with
  | unbondingCreated notice => exact absurd rfl (hcreated notice)
  | acknowledgePacket channel ack => exact absurd rfl (hack channel ack)
  | _ =>
    intro hwrite
    cases key <;> first
      | exact hkey
      | simp [footprint] at hwrite

namespace Call

variable {store : Store}

/-- A call that is neither a creation nor an acknowledgement. -/
theorem gateStep_of_other (call : Call)
    (hcreated : ∀ notice, call.operation ≠ .unbondingCreated notice)
    (hack : ∀ channel ack, call.operation ≠ .acknowledgePacket channel ack) :
    GateStep store call (call.after store) := by
  have hkeep (key : Key) (hkey : key.IsGate) :
      (call.after store).record? key = store.record? key :=
    call.record?_after (Operation.not_footprint_of_isGate hcreated hack hkey) store
  refine .idle (fun id => hkeep (.entry id) trivial)
    (fun chain version => hkeep (.bucket chain version) trivial) ?_ ?_
  · rintro service notice rfl
    exact absurd rfl (hcreated notice)
  · rintro service channel ack rfl
    exact absurd rfl (hack channel ack)

theorem gateStep_of_created (service : Service) (notice : UnbondingNotice)
    (hstore : store.WellFormed) (hshort : (service.unbondingCreated notice).Short store) :
    GateStep store ⟨service, .unbondingCreated notice⟩
      (Call.after ⟨service, .unbondingCreated notice⟩ store) := by
  have hreport := run_report
    (.unbondingAnnounced notice.id notice.validator notice.creationHeight) store
  have hrun : (service.unbondingCreated notice).run store =
      ((Unbonding.create notice.id).run store).prepend _ := run_bind_ok hreport
  have hresult : ((service.unbondingCreated notice).run store).result =
      ((Unbonding.create notice.id).run store).result := by
    rw [hrun]
    rfl
  have hafter : Call.after ⟨service, .unbondingCreated notice⟩ store =
      ((Unbonding.create notice.id).run store).store := by
    show ((service.unbondingCreated notice).run store).store = _
    rw [hrun]
    rfl
  rw [hafter]
  rcases Unbonding.create_cases notice.id hstore (hshort.after hreport) with
    ⟨-, hrefused⟩ | ⟨hfree, hok, ⟨hchains, hsame⟩ | ⟨hchains, hgated⟩⟩
  · rw [hrefused]
    refine .idle (fun _ => rfl) (fun _ _ => rfl) ?_ nofun
    rintro _ _ ⟨⟩ htells
    rw [Tells, hresult, hrefused] at htells
    cases htells
  · rw [hsame]
    refine .idle (fun _ => rfl) (fun _ _ => rfl) ?_ nofun
    rintro _ _ ⟨⟩ -
    exact ⟨hfree, hchains⟩
  · exact .gated (hresult.trans hok) hfree hchains hgated

theorem gateStep_of_acknowledged (service : Service) (channel : ChannelId)
    (ack : MaturityAcknowledgement) (hstore : store.WellFormed)
    (hbacked : ∀ chain version, store.Backed chain version)
    (hbucket : ∀ chain version, store.bucket? chain version ≠ some [])
    (hshort : (service.acknowledgePacket channel ack).Short store) :
    GateStep store ⟨service, .acknowledgePacket channel ack⟩
      (Call.after ⟨service, .acknowledgePacket channel ack⟩ store) := by
  rcases service.acknowledgePacket_cases channel ack hstore hbacked hbucket hshort with
    ⟨-, hrefused⟩ | ⟨chain, hbound, hresult, hleft⟩
  · have hafter : Call.after ⟨service, .acknowledgePacket channel ack⟩ store = store :=
      congrArg Outcome.store hrefused
    rw [hafter]
    refine .idle (fun _ => rfl) (fun _ _ => rfl) nofun ?_
    rintro _ _ _ ⟨⟩ ids htells
    rw [Tells, hrefused] at htells
    cases htells
  · exact .acknowledged hbound hresult hleft

/-- **What a call does to the gate**, if buckets say what is true. -/
theorem gateStep (call : Call) (hstore : store.WellFormed)
    (hbacked : ∀ chain version, store.Backed chain version)
    (hbucket : ∀ chain version, store.bucket? chain version ≠ some [])
    (hshort : call.transition.Short store) : GateStep store call (call.after store) := by
  obtain ⟨service, operation⟩ := call
  cases operation with
  | unbondingCreated notice => exact gateStep_of_created service notice hstore hshort
  | acknowledgePacket channel ack =>
    exact gateStep_of_acknowledged service channel ack hstore hbacked hbucket hshort
  | _ => exact gateStep_of_other _ (fun _ => nofun) fun _ _ => nofun

end Call
end SharedSecurity
