import SharedSecurity.Proofs.Gating

/-!
# Queues of slash acknowledgements

A queue is one record that is written anew by every append and removed by every draining, and a
sweep finds the queues by a listing and then drains them one after the other by their chains.  This
file says what each of these does to the queues.

* `MaturityAcknowledgement.creditTo` — what an acknowledgement packet does for the chain it comes
  from; a packet on a bound channel does nothing else.
* `SlashQueue.run_appendAll`, `SlashQueue.run_drain`, `Store.drained` — the changes to a single
  queue, and `MaturityAcknowledgement.record?_creditTo`, those of a packet.
* `Store.queuedChains`, `SlashQueue.run_chains_of_decoded` — the listing, as a function of the
  store.
* `SlashQueue.run_sweep_of_decoded`, `SlashQueue.run_sweep` — **what a sweep hands out, and that it
  leaves no queue behind**: on any store whose queues can be decoded, and so on what the provider
  wrote.
-/

set_option autoImplicit false
namespace SharedSecurity

open Transition

/-! ## Packets -/

/-- What an acknowledgement does for a chain: the chain acknowledges the version, and the tokens
join the chain's queue. -/
def MaturityAcknowledgement.creditTo (ack : MaturityAcknowledgement) (chain : ChainId) :
    Transition (List EntryId) := do
  let completed ← Unbonding.acknowledge chain ack.version
  ack.slashAcks.forM (SlashQueue.append chain)
  pure completed

namespace Service

variable {store : Store} {channel : ChannelId}

/-- A packet on a bound channel is credited to the chain of the channel. -/
theorem run_acknowledgePacket (service : Service) (ack : MaturityAcknowledgement)
    (h : store.Typed) {chain : ChainId} (hbound : store.chain? channel = some chain) :
    (service.acknowledgePacket channel ack).run store = (ack.creditTo chain).run store := by
  have hchain := Registry.run_chainOf (h.sound (.chainOf channel) fun _ => trivial)
  rw [acknowledgePacket, run_bind_ok hchain, Outcome.prepend_nil, hbound]
  rfl

/-- What a packet on a bound channel writes is what crediting it writes. -/
theorem short_creditTo (service : Service) {ack : MaturityAcknowledgement} (h : store.Typed)
    {chain : ChainId} (hbound : store.chain? channel = some chain)
    (hshort : (service.acknowledgePacket channel ack).Short store) :
    (ack.creditTo chain).Short store := by
  have hchain := Registry.run_chainOf (h.sound (.chainOf channel) fun _ => trivial)
  have hrest := Short.after hshort hchain
  rw [hbound] at hrest
  exact hrest

/-- A packet on a channel that is not bound is refused. -/
theorem run_acknowledgePacket_of_unbound (service : Service) (ack : MaturityAcknowledgement)
    (h : store.Typed) (hbound : store.chain? channel = none) :
    (service.acknowledgePacket channel ack).run store =
      ⟨.error (.channelNotFound channel), store, []⟩ := by
  have hchain := Registry.run_chainOf (h.sound (.chainOf channel) fun _ => trivial)
  rw [acknowledgePacket, run_bind_ok hchain, Outcome.prepend_nil, hbound]
  rfl

end Service

/-! ## One queue -/

/-- The tokens queued for a chain. -/
def Store.queue (store : Store) (chain : ChainId) : List String :=
  (store.record? (.slashQueueOf chain)).getD []

theorem Store.queue_congr {before after : Store} {chain : ChainId}
    (h : after.record? (.slashQueueOf chain) = before.record? (.slashQueueOf chain)) :
    after.queue chain = before.queue chain := by
  rw [queue, queue, h]

namespace Transition

variable {α : Type}

/-- **A loop of changes at one record** is all the changes, one after the other. -/
theorem Replaces.forM_same {f : α → Transition Unit} {key : Key}
    {change : α → Option key.Record → Option key.Record}
    (hf : ∀ x, (f x).Replaces key (change x)) {xs : List α} {store : Store}
    (hstore : store.WellFormed) (hshort : (xs.forM f).Short store) :
    ((xs.forM f).run store).result = .ok () ∧ ((xs.forM f).run store).store.record? key =
      xs.foldl (fun record x => change x record) (store.record? key) := by
  induction xs generalizing store with
  | nil => exact ⟨rfl, rfl⟩
  | cons x xs ih =>
    have hbind : (x :: xs).forM f = f x >>= fun _ => xs.forM f := rfl
    rw [hbind] at hshort ⊢
    obtain ⟨hfirst, hrest⟩ := short_bind.1 hshort
    have hok := (hf x).ok hstore hfirst
    obtain ⟨hdone, hrecord⟩ := ih (wellFormed_run (hf x).within hfirst hstore) (hrest () hok)
    rw [run_bind_of_result hok]
    refine ⟨hdone, hrecord.trans ?_⟩
    rw [(hf x).record hstore hfirst, List.foldl_cons]

end Transition

namespace SlashQueue

variable {store : Store} {chain : ChainId}

theorem within_appendAll (chain : ChainId) (tokens : List String) :
    (tokens.forM (append chain)).WritesWithin (· = .slashQueueOf chain) :=
  .forM fun token _ => within_append (P := (· = .slashQueueOf chain)) rfl token

/-- Appending token after token adds them all, in order. -/
theorem foldl_append (tokens : List String) (queue : Option (List String)) :
    tokens.foldl (fun queue token => some (queue.getD [] ++ [token])) queue =
      if tokens.isEmpty then queue else some (queue.getD [] ++ tokens) := by
  induction tokens generalizing queue with
  | nil => rfl
  | cons token rest ih =>
    rw [List.foldl_cons, ih]
    cases rest <;> simp

/-- **Tokens are added to the end of a queue.** -/
theorem run_appendAll (hstore : store.WellFormed) {tokens : List String}
    (hshort : (tokens.forM (append chain)).Short store) :
    ((tokens.forM (append chain)).run store).result = .ok () ∧
      ((tokens.forM (append chain)).run store).store.record? (.slashQueueOf chain) =
        if tokens.isEmpty then store.record? (.slashQueueOf chain)
        else some (store.queue chain ++ tokens) := by
  obtain ⟨hok, hrecord⟩ := Replaces.forM_same (replaces_append chain) hstore hshort
  exact ⟨hok, hrecord.trans (foldl_append tokens _)⟩

end SlashQueue

/-- An acknowledgement of a version leaves the queues alone. -/
theorem Unbonding.record?_acknowledge_queue (chain other : ChainId) (version : Version)
    (store : Store) : ((acknowledge chain version).run store).store.record? (.slashQueueOf other) =
      store.record? (.slashQueueOf other) := by
  have hwithin : (acknowledge chain version).WritesWithin fun key => key ≠ .slashQueueOf other :=
    within_acknowledge chain (fun _ => nofun) nofun
  exact Store.record?_congr (get?_run hwithin (fun hne => hne rfl) store)

namespace MaturityAcknowledgement

variable {store : Store}

/-- What is written for a chain: entries, and the bucket and the queue of the chain. -/
theorem within_creditTo (ack : MaturityAcknowledgement) (chain : ChainId) :
    (ack.creditTo chain).WritesWithin fun key =>
      (∃ id, key = .entry id) ∨ key = .bucket chain ack.version ∨ key = .slashQueueOf chain :=
  .bind (Unbonding.within_acknowledge chain (fun id => .inl ⟨id, rfl⟩) (.inr (.inl rfl))) fun _ =>
    .bind ((SlashQueue.within_appendAll chain ack.slashAcks).mono fun _ hkey => .inr (.inr hkey))
      fun _ => trivial

/-- **What an acknowledgement does to the queue of its chain**: nothing if it fails, and else its
tokens join the queue. -/
theorem record?_creditTo (ack : MaturityAcknowledgement) (chain : ChainId)
    (hstore : store.WellFormed) (hshort : (ack.creditTo chain).Short store) :
    (∃ error, ((ack.creditTo chain).run store).result = .error error ∧
        ((ack.creditTo chain).run store).store.record? (.slashQueueOf chain) =
          store.record? (.slashQueueOf chain)) ∨
      ∃ completed, ((ack.creditTo chain).run store).result = .ok completed ∧
        ((ack.creditTo chain).run store).store.record? (.slashQueueOf chain) =
          if ack.slashAcks.isEmpty then store.record? (.slashQueueOf chain)
          else some (store.queue chain ++ ack.slashAcks) := by
  have hwithin : (Unbonding.acknowledge chain ack.version).WritesWithin fun _ => True :=
    Unbonding.within_acknowledge chain (fun _ => trivial) trivial
  have hkeep := Unbonding.record?_acknowledge_queue chain chain ack.version store
  rw [creditTo] at hshort ⊢
  obtain ⟨hfirst, hrest⟩ := short_bind.1 hshort
  have hbetween := wellFormed_run hwithin hfirst hstore
  cases hresult : ((Unbonding.acknowledge chain ack.version).run store).result with
  | error error =>
    rw [run_bind, Outcome.andThen, hresult]
    exact .inl ⟨error, rfl, hkeep⟩
  | ok completed =>
    have happend := (short_bind.1 (hrest completed hresult)).1
    obtain ⟨hok, hrecord⟩ := SlashQueue.run_appendAll hbetween happend
    rw [run_bind_of_result hresult, run_bind_of_result hok]
    refine .inr ⟨completed, rfl, ?_⟩
    rw [← hkeep, ← Store.queue_congr hkeep]
    exact hrecord

end MaturityAcknowledgement

namespace Store

variable {store : Store}

theorem queue_drop (store : Store) (chain other : ChainId) :
    (store.drop (.slashQueueOf chain)).queue other =
      if other = chain then [] else store.queue other := by
  by_cases hother : other = chain
  · rw [if_pos hother, hother, queue, record?_drop_self]
    rfl
  · have hkey : Key.slashQueueOf other ≠ .slashQueueOf chain :=
      fun heq => hother (Key.slashQueueOf.inj heq)
    rw [if_neg hother, queue_congr (record?_drop_of_ne store hkey)]

/-- The store after the queue of a chain is handed out. -/
def drained (store : Store) (chain : ChainId) : Store :=
  if (store.queue chain).isEmpty then store else store.drop (.slashQueueOf chain)

theorem queue_drained (store : Store) (chain other : ChainId) :
    (store.drained chain).queue other = if other = chain then [] else store.queue other := by
  rw [drained]
  split
  · next hempty =>
    split
    · next hother => rw [hother, List.isEmpty_iff.1 hempty]
    · rfl
  · exact store.queue_drop chain other

end Store

namespace SlashQueue

variable {store : Store}

/-- **A queue is handed out as a whole.** -/
theorem run_drain (hstore : store.WellFormed) (chain : ChainId) : ∃ outputs,
    (drain chain).run store = ⟨.ok (store.queue chain), store.drained chain, outputs⟩ := by
  have hpending : (pending chain).run store = ⟨.ok (store.queue chain), store, []⟩ :=
    run_pending (hstore.sound (.slashQueueOf chain))
  rw [drain, run_bind_ok hpending, Store.drained]
  cases store.queue chain with
  | nil => exact ⟨_, rfl⟩
  | cons token rest => exact ⟨_, rfl⟩

end SlashQueue

/-! ## Queues on any store

The laws up to the sweep need nothing of the rest of the store: its bytes may be anything. -/

namespace Store

variable {store : Store} {chain : ChainId}

/-- The tokens recorded for a chain are what the bytes under its key are decoded to. -/
theorem record?_queue_eq_some_iff {tokens : List String} :
    store.record? (.slashQueueOf chain) = some tokens ↔
      ∃ value, store.get? (Key.slashQueueOf chain).bytes = some value ∧
        Codec.tokens.read SlashQueue.queueKind value = .ok tokens := by
  have hfront (value : Bytes) : Key.front? Codec.tokens value = some tokens ↔
      Codec.tokens.read SlashQueue.queueKind value = .ok tokens := by
    rw [Codec.read_eq_ok_iff, Key.front?]
    cases Codec.tokens.decode value <;> simp [Prod.ext_iff]
  rw [record?, Option.bind_eq_some_iff]
  exact exists_congr fun value => and_congr_right fun _ => hfront value

/-- A queue that holds something is recorded. -/
theorem record?_of_queue_ne_nil (h : store.queue chain ≠ []) :
    store.record? (.slashQueueOf chain) = some (store.queue chain) := by
  rw [queue] at h ⊢
  cases hrecord : store.record? (.slashQueueOf chain) with
  | none =>
    rw [hrecord] at h
    exact absurd rfl h
  | some tokens => rfl

/-- The store after the records of several keys are removed. -/
def dropAll (store : Store) (keys : List Key) : Store := keys.foldl drop store

theorem get?_dropAll (store : Store) (keys : List Key) (key : Bytes) :
    (store.dropAll keys).get? key =
      if key ∈ keys.map Key.bytes then none else store.get? key := by
  induction keys generalizing store with
  | nil => rfl
  | cons first rest ih =>
    rw [dropAll, List.foldl_cons, ← dropAll, ih, drop, SortedMap.get?_erase]
    by_cases hrest : key ∈ rest.map Key.bytes <;> by_cases hfirst : key = first.bytes <;>
      simp [hrest, hfirst]

theorem queue_dropAll (store : Store) (chains : List ChainId) (chain : ChainId) :
    (store.dropAll (chains.map .slashQueueOf)).queue chain =
      if chain ∈ chains then [] else store.queue chain := by
  induction chains generalizing store with
  | nil => rfl
  | cons first rest ih =>
    rw [List.map_cons, dropAll, List.foldl_cons, ← dropAll, ih, queue_drop]
    by_cases hrest : chain ∈ rest <;> by_cases hfirst : chain = first <;> simp [hrest, hfirst]

end Store

namespace SlashQueue

variable {store : Store} {chain : ChainId} {tokens : List String}

/-- A queue that holds something can be handed out. -/
theorem run_drain_of_ne_nil (h : store.queue chain ≠ []) :
    (drain chain).run store = ⟨.ok (store.queue chain), store.drop (.slashQueueOf chain),
      [.log (.slashQueueDrained chain (store.queue chain).length)]⟩ := by
  obtain ⟨value, hvalue, hread⟩ :=
    Store.record?_queue_eq_some_iff.1 (Store.record?_of_queue_ne_nil h)
  have hpending : (pending chain).run store = ⟨.ok (store.queue chain), store, []⟩ := by
    rw [pending, Stored.record?, Stored.read?, bind_assoc, run_bind_ok (run_get? _ store), hvalue]
    simp only [hread]
    rfl
  rw [drain, run_bind_ok hpending]
  cases hqueue : store.queue chain with
  | nil => exact absurd hqueue h
  | cons token rest => rfl

/-- **What can be decoded of a listing**: keys of chains, with bytes that are tokens. -/
theorem decodeQueue_eq_ok_iff {entry : Bytes × Bytes} {found : Option (ChainId × List String)} :
    decodeQueue entry = .ok found ↔ ∃ chain tokens, entry.1 = (Key.slashQueueOf chain).bytes ∧
      Codec.tokens.read queueKind entry.2 = .ok tokens ∧
      found = if tokens.isEmpty then none else some (chain, tokens) := by
  rw [decodeQueue, bind_eq_ok_iff]
  constructor
  · rintro ⟨name, hname, hrest⟩
    obtain ⟨tokens, hread, hfound⟩ := bind_eq_ok_iff.1 hrest
    refine ⟨⟨name⟩, tokens, ?_, hread, (Except.ok.inj hfound).symm⟩
    rw [Stored.nameOfKey] at hname
    split at hname
    · next found hfound =>
      cases hname
      exact KeyFamily.name?_eq_some_iff.1 hfound
    · cases hname
  · rintro ⟨chain, tokens, hkey, hread, rfl⟩
    refine ⟨chain.name, ?_, bind_eq_ok_iff.2 ⟨tokens, hread, rfl⟩⟩
    rw [hkey]
    exact Stored.nameOfKey_key .slashQueue queueKind chain.name

/-- The chain and tokens in a listed entry, if it is a queue that holds something. -/
def listedQueue? (entry : Bytes × Bytes) : Option (ChainId × List String) :=
  match decodeQueue entry with
  | .ok found => found
  | .error _ => none

theorem listedQueue?_eq_some_iff {entry : Bytes × Bytes} :
    listedQueue? entry = some (chain, tokens) ↔ tokens ≠ [] ∧
      entry.1 = (Key.slashQueueOf chain).bytes ∧
      Codec.tokens.read queueKind entry.2 = .ok tokens := by
  have hdecoded : listedQueue? entry = some (chain, tokens) ↔
      decodeQueue entry = .ok (some (chain, tokens)) := by
    rw [listedQueue?]
    cases decodeQueue entry <;> simp
  rw [hdecoded, decodeQueue_eq_ok_iff]
  constructor
  · rintro ⟨found, others, hkey, hread, hsome⟩
    split at hsome
    · cases hsome
    · next hne =>
      cases hsome
      exact ⟨fun hnil => hne (List.isEmpty_iff.2 hnil), hkey, hread⟩
  · rintro ⟨hne, hkey, hread⟩
    exact ⟨chain, tokens, hkey, hread, (if_neg fun hnil => hne (List.isEmpty_iff.1 hnil)).symm⟩

end SlashQueue

namespace Store

variable {store : Store} {chain : ChainId}

/-- The chains whose queue holds something, in byte order. -/
def queuedChains (store : Store) : List ChainId :=
  ((store.under KeyFamily.slashQueue.stem).filterMap SlashQueue.listedQueue?).map Prod.fst

/-- **The listed chains are those whose queue holds something.** -/
theorem mem_queuedChains : chain ∈ store.queuedChains ↔ store.queue chain ≠ [] := by
  rw [queuedChains, List.mem_map]
  simp only [List.mem_filterMap]
  constructor
  · rintro ⟨⟨_, tokens⟩, ⟨⟨key, value⟩, hentry, hqueue⟩, rfl⟩
    obtain ⟨hne, rfl, hread⟩ := SlashQueue.listedQueue?_eq_some_iff.1 hqueue
    have hvalue := (SortedMap.mem_under_iff.1 hentry).1
    rw [queue, record?_queue_eq_some_iff.2 ⟨value, hvalue, hread⟩]
    exact hne
  · intro hne
    obtain ⟨value, hvalue, hread⟩ := record?_queue_eq_some_iff.1 (record?_of_queue_ne_nil hne)
    refine ⟨(chain, store.queue chain), ⟨((Key.slashQueueOf chain).bytes, value),
      SortedMap.mem_under_iff.2 ⟨hvalue, ?_⟩,
      SlashQueue.listedQueue?_eq_some_iff.2 ⟨hne, rfl, hread⟩⟩, rfl⟩
    rw [Key.stem_isPrefixOf_bytes]
    rfl

/-- The chains with a queue are listed in byte order. -/
theorem sorted_queuedChains (store : Store) : store.queuedChains.Pairwise ChainId.Before :=
  List.pairwise_map.2 (sorted_listing Prod.fst fun _ _ _ hqueue =>
    (SlashQueue.listedQueue?_eq_some_iff.1 hqueue).2.1)

theorem nodup_queuedChains (store : Store) : store.queuedChains.Nodup :=
  store.sorted_queuedChains.imp ChainId.Before.ne

end Store

namespace SlashQueue

variable {store : Store}

/-- The chains with a queue can be listed if every entry can be decoded. -/
theorem run_chains_of_decoded (h : ∀ entry ∈ store.under KeyFamily.slashQueue.stem,
    ∃ found, decodeQueue entry = .ok found) :
    chains.run store = ⟨.ok store.queuedChains, store, []⟩ := by
  have hnoted : ∀ entry ∈ store.under KeyFamily.slashQueue.stem, ∃ found,
      decodeQueue entry = .ok found ∧
        found.map Prod.fst = (listedQueue? entry).map Prod.fst := by
    intro entry hentry
    obtain ⟨found, hfound⟩ := h entry hentry
    exact ⟨found, hfound, by rw [listedQueue?, hfound]⟩
  have hvisit := Stored.visitList_noteAll Prod.fst hnoted []
  rw [chains, visit, Stored.visit, run_bind_ok (run_scan _ store), hvisit, Store.queuedChains,
    List.map_filterMap]
  rfl

/-- **Draining different chains** one after the other hands out the queue of each. -/
theorem run_drainAll {waiting : List ChainId} (hnodup : waiting.Nodup)
    (hqueues : ∀ chain ∈ waiting, store.queue chain ≠ []) :
    ∃ outputs, (waiting.mapM drainWithChain).run store =
      ⟨.ok (waiting.map fun chain => (chain, store.queue chain)),
        store.dropAll (waiting.map .slashQueueOf), outputs⟩ := by
  induction waiting generalizing store with
  | nil => exact ⟨[], rfl⟩
  | cons first rest ih =>
    obtain ⟨hfirst, hrest⟩ := List.nodup_cons.1 hnodup
    obtain ⟨hqueue, hothers⟩ := List.forall_mem_cons.1 hqueues
    -- the chains that come later are other chains, so their queues are still as they were
    have hkept : ∀ chain ∈ rest,
        (store.drop (.slashQueueOf first)).queue chain = store.queue chain := by
      intro chain hchain
      rw [Store.queue_drop, if_neg]
      rintro rfl
      exact hfirst hchain
    obtain ⟨outputs, hdrains⟩ := ih hrest fun chain hchain =>
      (hkept chain hchain).symm ▸ hothers chain hchain
    have hone : (drainWithChain first).run store = ⟨.ok (first, store.queue first),
        store.drop (.slashQueueOf first),
        [.log (.slashQueueDrained first (store.queue first).length)]⟩ := by
      rw [drainWithChain, run_bind_ok (run_drain_of_ne_nil hqueue)]
      rfl
    have hsame : rest.map (fun chain => (chain, (store.drop (.slashQueueOf first)).queue chain)) =
        rest.map fun chain => (chain, store.queue chain) :=
      List.map_congr_left fun chain hchain => by rw [hkept chain hchain]
    rw [List.mapM_cons, run_bind_ok hone, run_bind_ok hdrains, hsame]
    exact ⟨_, rfl⟩

/-- **A sweep of what can be decoded** hands out every queue that holds something, in the order of
the chains, and removes those. -/
theorem run_sweep_of_decoded (h : ∀ entry ∈ store.under KeyFamily.slashQueue.stem,
    ∃ found, decodeQueue entry = .ok found) :
    ∃ outputs, sweep.run store =
      ⟨.ok (store.queuedChains.map fun chain => (chain, store.queue chain)),
        store.dropAll (store.queuedChains.map .slashQueueOf), outputs⟩ := by
  obtain ⟨outputs, hdrains⟩ := run_drainAll store.nodup_queuedChains
    fun chain hchain => Store.mem_queuedChains.1 hchain
  rw [sweep, run_bind_ok (run_chains_of_decoded h), hdrains]
  exact ⟨_, rfl⟩

/-! ## The sweep -/

/-- What the provider wrote can be decoded. -/
theorem exists_decodeQueue (hstore : store.WellFormed) :
    ∀ entry ∈ store.under KeyFamily.slashQueue.stem, ∃ found, decodeQueue entry = .ok found := by
  intro entry hentry
  obtain ⟨key, hfamily, tokens, hholds, rfl⟩ := hstore.listed hentry
  cases key <;> cases hfamily
  exact ⟨_, decodeQueue_eq_ok_iff.2
    ⟨_, tokens, rfl, Codec.lawful_tokens.read_encode queueKind hholds, rfl⟩⟩

/-- **A sweep hands out every queue that holds something**, in the order of the chains, and leaves
none behind. -/
theorem run_sweep (hstore : store.WellFormed) :
    ∃ after outputs, sweep.run store =
        ⟨.ok (store.queuedChains.map fun chain => (chain, store.queue chain)), after, outputs⟩ ∧
      ∀ chain, after.queue chain = [] := by
  obtain ⟨outputs, hrun⟩ := run_sweep_of_decoded (exists_decodeQueue hstore)
  refine ⟨_, outputs, hrun, fun chain => ?_⟩
  rw [Store.queue_dropAll]
  split
  · rfl
  · next hchain => exact not_not.1 fun hne => hchain (Store.mem_queuedChains.2 hne)

end SlashQueue
end SharedSecurity
