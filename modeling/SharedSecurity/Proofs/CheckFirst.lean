import SharedSecurity.Proofs.Failures
import SharedSecurity.Proofs.Outputs

/-!
# Check first, write later

A transition that is run directly leaves what it wrote before an error.  What saves the store is the
order of the work: everything that can be found wrong is found before the first write.  For the two
operations that go through many records this does not hang on what the records are, so nothing is
assumed of the store here.  Its bytes may be anything.

* `Transition.RejectsPurely` — on a given store an error leaves nothing behind, with the rule for a
  sequence that begins with reading.
* `Unbonding.rejectsPurely_acknowledge` — every entry in a bucket is read and checked before the
  first of them is settled.
* `SlashQueue.sweep_cases` — a sweep lists and decodes every queue before it removes the first.  It
  reads each of them a second time, and finds what the listing has found.
* `CheckedFirst`, `checkedFirst` — **both operations on any store**: an error leaves every byte as
  it was, and what a success has removed.
-/

set_option autoImplicit false
namespace SharedSecurity

open Transition

/-! ## Pure rejection -/

namespace Transition

variable {α β : Type} {t : Transition α} {next : α → Transition β} {store : Store} {value : α}

/-- On the store, an error of the transition leaves the store as it was. -/
def RejectsPurely (t : Transition α) (store : Store) : Prop :=
  ∀ error, (t.run store).result = .error error → (t.run store).store = store

theorem rejectsPurely_of_tells (h : t.Tells store value) : t.RejectsPurely store := by
  intro error herror
  rw [h] at herror
  cases herror

theorem rejectsPurely_of_reads (ht : t.WritesWithin fun _ => False) (store : Store) :
    t.RejectsPurely store :=
  fun _ _ => store_run_of_reads ht store

/-- After a part that only reads, a sequence rejects as its second part does. -/
theorem RejectsPurely.bind (ht : t.WritesWithin fun _ => False)
    (hnext : ∀ value, t.Tells store value → (next value).RejectsPurely store) :
    (t >>= next).RejectsPurely store := by
  intro error herror
  have hkeep := store_run_of_reads ht store
  rw [run_bind, Outcome.andThen] at herror ⊢
  cases hresult : (t.run store).result with
  | ok value =>
    rw [hresult, hkeep] at herror
    simp only [hkeep]
    exact hnext value hresult error herror
  | error other => exact hkeep

/-- A transition that cannot fail succeeds on every plain store. -/
theorem exists_tells_of_failsBy (ht : t.FailsBy fun _ => False) (store : Store) :
    ∃ value, t.Tells store value := by
  induction t generalizing store with
  | done result => cases result with
    | ok value => exact ⟨value, rfl⟩
    | error error => exact ht.elim
  | emit output rest ih => exact ih ht store
  | ask question rest ih => cases question <;> exact ih _ (ht _) _

theorem rejectsPurely_of_failsBy (ht : t.FailsBy fun _ => False) (store : Store) :
    t.RejectsPurely store := by
  obtain ⟨value, htells⟩ := exists_tells_of_failsBy ht store
  exact rejectsPurely_of_tells htells

/-- A loop over steps that cannot fail cannot fail. -/
theorem FailsBy.forM {E : ProviderError → Prop} {f : α → Transition Unit} {values : List α}
    (h : ∀ value ∈ values, (f value).FailsBy E) : (values.forM f).FailsBy E := by
  induction values with
  | nil => trivial
  | cons value values ih =>
    obtain ⟨hvalue, hvalues⟩ := List.forall_mem_cons.1 h
    exact .bind hvalue fun _ => ih hvalues

/-- A loop that collects results collects as many as it has steps. -/
theorem length_of_tells_mapM {f : α → Transition β} {values : List α} {results : List β}
    (h : (values.mapM f).Tells store results) : results.length = values.length := by
  induction values generalizing store results with
  | nil =>
    rw [← (tells_iff (run_pure [] store)).1 h]
    rfl
  | cons value values ih =>
    rw [List.mapM_cons, tells_bind] at h
    obtain ⟨first, -, hrest⟩ := h
    obtain ⟨rest, hvalues, hpure⟩ := tells_bind.1 hrest
    rw [← (tells_iff (run_pure (first :: rest) _)).1 hpure, List.length_cons, ih hvalues,
      List.length_cons]

end Transition

/-! ## Acknowledgement -/

namespace Unbonding

theorem failsBy_settleEntry (entry : UnbondingEntry) {E : ProviderError → Prop} :
    (settleEntry entry).FailsBy E := by
  rw [settleEntry]
  split <;> exact fun _ => trivial

theorem failsBy_settle (chain : ChainId) (version : Version) (entries : List UnbondingEntry)
    {E : ProviderError → Prop} : (settle chain version entries).FailsBy E :=
  .bind (.forM fun entry _ => failsBy_settleEntry entry) fun _ _ => trivial

/-- **An acknowledgement that is refused has written nothing**, whatever is in the store. -/
theorem rejectsPurely_acknowledge (chain : ChainId) (version : Version) (store : Store) :
    (acknowledge chain version).RejectsPurely store :=
  .bind (within_entriesInBucket chain version) fun entries _ => by
    show RejectsPurely (if entries.isEmpty = true then _ else _) store
    split
    · exact rejectsPurely_of_tells rfl
    · exact .bind trivial fun acknowledged _ =>
        rejectsPurely_of_failsBy (failsBy_settle chain version acknowledged) store

/-- Settling the entries of a bucket ends with the removal of the bucket. -/
theorem get?_settle (chain : ChainId) (version : Version) (entries : List UnbondingEntry)
    (store : Store) : ((settle chain version entries).run store).store.get?
      (Key.bucket chain version).bytes = none := by
  have hloop : (entries.forM settleEntry).FailsBy fun _ => False :=
    .forM fun entry _ => failsBy_settleEntry entry
  obtain ⟨⟨⟩, hok⟩ := exists_tells_of_failsBy hloop store
  rw [settle, run_bind_of_result hok]
  exact Store.get?_drop_self _ (.bucket chain version)

/-- **What an acknowledgement that succeeds has done to its bucket**: it has removed it, or nobody
was in it, and then nothing was changed. -/
theorem bucket_of_tells_acknowledge {chain : ChainId} {version : Version} {store : Store}
    {ids : List EntryId} (h : (acknowledge chain version).Tells store ids) :
    ((acknowledge chain version).run store).store.get? (Key.bucket chain version).bytes = none ∨
      ((bucket chain version).Tells store [] ∧
        ((acknowledge chain version).run store).store = store) := by
  rw [acknowledge] at h ⊢
  obtain ⟨entries, hentries, hrest⟩ := tells_bind.1 h
  have hread : ((entriesInBucket chain version).run store).store = store :=
    store_run_of_reads (within_entriesInBucket chain version) store
  rw [run_bind_of_result hentries, hread]
  rw [hread] at hrest
  cases entries with
  | nil =>
    right
    refine ⟨?_, rfl⟩
    obtain ⟨waiting, hbucket, hmapM⟩ := tells_bind.1 hentries
    rw [List.eq_nil_of_length_eq_zero (length_of_tells_mapM hmapM).symm] at hbucket
    exact hbucket
  | cons entry entries =>
    left
    obtain ⟨acknowledged, hchecked, -⟩ := tells_ofExcept_bind.1 hrest
    show ((ofExcept _ >>= settle chain version).run store).store.get? _ = none
    rw [hchecked, run_bind_ok (run_ofExcept (.ok acknowledged) store)]
    exact get?_settle chain version acknowledged store

end Unbonding

/-! ## The sweep -/

namespace SlashQueue

variable {store : Store}

/-- **All that a sweep can do**, whatever is in the store: it is refused with nothing written, or
every entry under the stem could be decoded, and what the queues hold is handed out and removed. -/
theorem sweep_cases (store : Store) :
    (∃ error, (sweep.run store).result = .error error ∧ (sweep.run store).store = store) ∨
      ((∀ entry ∈ store.under KeyFamily.slashQueue.stem, ∃ found, decodeQueue entry = .ok found) ∧
        ∃ outputs, sweep.run store =
          ⟨.ok (store.queuedChains.map fun chain => (chain, store.queue chain)),
            store.dropAll (store.queuedChains.map .slashQueueOf), outputs⟩) := by
  have hread : (chains.run store).store = store := store_run_of_reads (Stored.within_visit ..) store
  cases hresult : (chains.run store).result with
  | error error =>
    left
    rw [sweep, run_bind, Outcome.andThen, hresult]
    exact ⟨error, rfl, hread⟩
  | ok waiting =>
    have hvisit : chains.Tells store waiting := hresult
    rw [chains, visit, Stored.visit, tells_bind_of_run (run_scan _ store)] at hvisit
    have hdecoded := Stored.exists_of_visitList_noteAll hvisit
    exact .inr ⟨hdecoded, run_sweep_of_decoded hdecoded⟩

theorem rejectsPurely_sweep (store : Store) : sweep.RejectsPurely store := by
  rcases sweep_cases store with ⟨-, -, hkeep⟩ | ⟨-, outputs, hrun⟩
  · exact fun _ _ => hkeep
  · exact rejectsPurely_of_tells (congrArg Outcome.result hrun)

/-- What a sweep that succeeds has to do with the store before and after it. -/
structure Swept (before : Store) (handed : List (ChainId × List String)) (after : Store) :
    Prop where
  /-- Whatever was found under the stem of the queues is the queue of a chain. -/
  found : ∀ key value, before.get? key = some value →
    KeyFamily.slashQueue.stem.isPrefixOf key = true →
      ∃ chain tokens, key = (Key.slashQueueOf chain).bytes ∧
        before.record? (.slashQueueOf chain) = some tokens
  /-- Handed out is what those queues hold, if they hold something. -/
  mem_iff : ∀ chain tokens, (chain, tokens) ∈ handed ↔
    tokens ≠ [] ∧ before.record? (.slashQueueOf chain) = some tokens
  /-- No queue is handed out twice: the chains ascend strictly. -/
  ascending : (handed.map Prod.fst).Pairwise ChainId.Before
  /-- The keys of what is handed out are gone, and every other key is as it was. -/
  get?_after : ∀ key, after.get? key =
    if key ∈ handed.map (fun queue => (Key.slashQueueOf queue.1).bytes) then none
    else before.get? key

theorem swept_of_tells {handed : List (ChainId × List String)} (h : sweep.Tells store handed) :
    Swept store handed (sweep.run store).store := by
  rcases sweep_cases store with ⟨error, herror, -⟩ | ⟨hdecoded, outputs, hrun⟩
  · rw [h] at herror
    cases herror
  · obtain rfl := (tells_iff hrun).1 h
    rw [hrun]
    constructor
    case found =>
      intro key value hvalue hstem
      obtain ⟨found, hfound⟩ := hdecoded _ (SortedMap.mem_under_iff.2 ⟨hvalue, hstem⟩)
      obtain ⟨chain, tokens, hkey, hread, -⟩ := decodeQueue_eq_ok_iff.1 hfound
      have hchain : key = (Key.slashQueueOf chain).bytes := hkey
      exact ⟨chain, tokens, hchain,
        Store.record?_queue_eq_some_iff.2 ⟨value, hchain ▸ hvalue, hread⟩⟩
    case mem_iff =>
      intro chain tokens
      rw [List.mem_map]
      constructor
      · rintro ⟨queued, hqueued, heq⟩
        obtain ⟨rfl, rfl⟩ := Prod.mk.inj heq
        have hne := Store.mem_queuedChains.1 hqueued
        exact ⟨hne, Store.record?_of_queue_ne_nil hne⟩
      · rintro ⟨hne, hrecord⟩
        have hqueue : store.queue chain = tokens := congrArg (Option.getD · []) hrecord
        exact ⟨chain, Store.mem_queuedChains.2 (hqueue ▸ hne), congrArg (chain, ·) hqueue⟩
    case ascending =>
      rw [List.map_map]
      exact (List.map_id _).symm ▸ store.sorted_queuedChains
    case get?_after =>
      intro key
      rw [Store.get?_dropAll, List.map_map, List.map_map]
      rfl

end SlashQueue

/-! ## Both operations on any store -/

/-- What holds of the two operations that go through many records, on a store of any contents. -/
structure CheckedFirst (store : Store) : Prop where
  /-- An acknowledgement that fails has changed nothing. -/
  refusedAcknowledgement : ∀ chain version error,
    ((Unbonding.acknowledge chain version).run store).result = .error error →
      ((Unbonding.acknowledge chain version).run store).store = store
  /-- One that succeeds has removed the bucket; or the bucket was empty, and nothing has changed. -/
  acknowledgement : ∀ chain version ids, (Unbonding.acknowledge chain version).Tells store ids →
    ((Unbonding.acknowledge chain version).run store).store.get?
        (Key.bucket chain version).bytes = none ∨
      ((Unbonding.bucket chain version).Tells store [] ∧
        ((Unbonding.acknowledge chain version).run store).store = store)
  /-- A sweep that fails has changed nothing. -/
  refusedSweep : ∀ (service : Service) error, (service.sweep.run store).result = .error error →
    (service.sweep.run store).store = store
  /-- One that succeeds has handed out every queue that holds something, and removed those. -/
  sweep : ∀ (service : Service) handed, service.sweep.Tells store handed →
    SlashQueue.Swept store handed (service.sweep.run store).store

/-- **Everything is checked before the first write**, on a store of whatever contents: keys of no
family, keys that are no text, records of another form, buckets with ids that repeat or that no
entry has. -/
theorem checkedFirst (store : Store) : CheckedFirst store where
  refusedAcknowledgement chain version := Unbonding.rejectsPurely_acknowledge chain version store
  acknowledgement _ _ _ := Unbonding.bucket_of_tells_acknowledge
  refusedSweep _ := SlashQueue.rejectsPurely_sweep store
  sweep _ _ := SlashQueue.swept_of_tells

end SharedSecurity
