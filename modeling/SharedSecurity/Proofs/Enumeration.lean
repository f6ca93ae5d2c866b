import SharedSecurity.Proofs.BucketOrder
import SharedSecurity.Proofs.Genesis
import SharedSecurity.Proofs.Queues

/-!
# Listings and single reads

What is recorded can be asked for one by one, or gone through as a listing.  A listing is a scan of
a family of keys, with names read back from the keys; a single read makes the key and looks it up.
That both tell the same is needed on the store itself and on an overlay, where a scan merges what is
below with what is pending.

* `Store.mem_listing_iff`, `Store.sorted_listed` — what a decoded scan lists, on any store, in terms
  of single keys.
* `Transition.TellsOn`, `Transition.tellsOn_iff` — what a transition ends with on a store of any
  kind, and that on one that does not fail it is what it ends with on the contents.
* `Transition.PassesThrough` — the stores in the middle of a run, which hold what finished runs do.
* `Stored.Shows` — a way through a listing shows all of it, and to a visitor that stops as much as
  it asks for.
* `Enumerated`, `QueuesEnumerated`, `enumerated_after` — **listings agree with single reads**, on
  the store after any run and on an overlay of it in the middle of a transition.  Names are stored
  without their length, so only the queues need values that fit in memory.
-/

set_option autoImplicit false
namespace SharedSecurity

open Transition

/-! ## Scans and single keys -/

namespace Stored

variable {α : Type}

/-- What there is to see in an entry, if it can be decoded. -/
def seen? (decode : Bytes × Bytes → Except ProviderError (Option α)) (entry : Bytes × Bytes) :
    Option α :=
  match decode entry with
  | .ok found => found
  | .error _ => none

theorem seen?_eq_some_iff {decode : Bytes × Bytes → Except ProviderError (Option α)}
    {entry : Bytes × Bytes} {item : α} :
    seen? decode entry = some item ↔ decode entry = .ok (some item) := by
  rw [seen?]
  cases decode entry <;> simp

/-- The name in a listed key is the one that the key is made from. -/
theorem nameOfKey_eq_ok_iff {family : KeyFamily} {what name : String} {key : Bytes} :
    nameOfKey family what key = .ok name ↔ key = family.key (Utf8.encode name) := by
  rw [nameOfKey, ← KeyFamily.name?_eq_some_iff]
  cases family.name? key <;> simp

/-- The name in a listed value is the text that the value is. -/
theorem nameOfValue_eq_ok_iff {what name : String} {value : Bytes} :
    nameOfValue what value = .ok name ↔ Utf8.decode? value = some name := by
  rw [nameOfValue]
  cases Utf8.decode? value <;> simp

end Stored

namespace Store

variable {α : Type} {store : Store} {family : KeyFamily}
  {decode : Bytes × Bytes → Except ProviderError (Option α)}

/-- What is seen in a scan of a family. -/
def listing (store : Store) (family : KeyFamily)
    (decode : Bytes × Bytes → Except ProviderError (Option α)) : List α :=
  (store.under family.stem).filterMap (Stored.seen? decode)

/-- **An item is listed if the key it is about holds the record it tells**, and it is to be seen. -/
theorem mem_listing_iff {item : α} {key : Key} {record : key.Record} {Visible : Prop}
    (hkey : key.family = some family)
    (hdecode : ∀ entry, decode entry = .ok (some item) ↔
      entry.1 = key.bytes ∧ key.decode? entry.2 = some record ∧ Visible) :
    item ∈ store.listing family decode ↔ store.record? key = some record ∧ Visible := by
  simp only [listing, List.mem_filterMap, Stored.seen?_eq_some_iff, hdecode, record?,
    Option.bind_eq_some_iff]
  constructor
  · rintro ⟨⟨_, value⟩, hentry, rfl, hrecord, hvisible⟩
    exact ⟨⟨value, (SortedMap.mem_under_iff.1 hentry).1, hrecord⟩, hvisible⟩
  · rintro ⟨⟨value, hvalue, hrecord⟩, hvisible⟩
    refine ⟨(key.bytes, value), SortedMap.mem_under_iff.2 ⟨hvalue, ?_⟩, rfl, hrecord, hvisible⟩
    rw [Key.stem_isPrefixOf_bytes, hkey]
    exact beq_self_eq_true _

/-- What is listed is in the order of the names in the keys. -/
theorem sorted_listed (nameOf : α → Bytes)
    (hdecode : ∀ entry item, decode entry = .ok (some item) → entry.1 = family.key (nameOf item)) :
    (store.listing family decode).Pairwise
      fun a b => Bytes.order (nameOf a) (nameOf b) = .lt := by
  rw [listing, List.pairwise_filterMap]
  refine (SortedMap.sorted_under store _).imp
    fun {entry other} hbefore item hitem later hlater => ?_
  have horder : Bytes.order entry.1 other.1 = .lt := hbefore
  rw [hdecode entry item (Stored.seen?_eq_some_iff.1 hitem),
    hdecode other later (Stored.seen?_eq_some_iff.1 hlater)] at horder
  exact (Bytes.order_append_left _ _ _).symm.trans horder

end Store

/-! ## Stores of any kind -/

namespace Transition

variable {α σ : Type} [KeyValueStore σ]

/-- A transition made on a store, of whatever kind, ends with the value. -/
def TellsOn (t : Transition α) (store : σ) (value : α) : Prop :=
  (t.run store).result = .ok value

instance [DecidableEq α] (t : Transition α) (store : σ) (value : α) :
    Decidable (t.TellsOn store value) :=
  inferInstanceAs (Decidable ((t.run store).result = .ok value))

/-- On a store that does not fail, a transition tells what it tells on the contents. -/
theorem tellsOn_iff [Contents σ] [FaithfulStore σ] [ReliableStore σ] {t : Transition α} {store : σ}
    {value : α} : t.TellsOn store value ↔ t.Tells (contents store) value := by
  rw [TellsOn, Tells, ← run_contents_of_reliable t store]
  rfl

/-- A request that is answered tells its answer. -/
theorem run_request {question : Request} {store after : σ} {answer : question.Answer}
    (h : KeyValueStore.answer question store = (.ok answer, after)) :
    (request question).run store = ⟨.ok answer, after, []⟩ := by
  simp only [request, run, h]

/-- A run on a store passes through another: it starts there, or is there after an answer. -/
inductive PassesThrough : Transition α → σ → σ → Prop
  | start (t : Transition α) (store : σ) : PassesThrough t store store
  | output {output : Output} {rest : Transition α} {store between : σ}
    (h : PassesThrough rest store between) : PassesThrough (emit output rest) store between
  | answer {question : Request} {next : question.Answer → Transition α} {store after between : σ}
    {answer : question.Answer} (hanswer : KeyValueStore.answer question store = (.ok answer, after))
    (h : PassesThrough (next answer) after between) :
    PassesThrough (ask question next) store between
  | fault {question : Request} {next : question.Answer → Transition α} {store after : σ}
    {fault : StoreFault} (hfault : KeyValueStore.answer question store = (.error fault, after)) :
    PassesThrough (ask question next) store after

namespace PassesThrough

/-- On a store that does not fail, a run passes through what it passes through on the contents. -/
theorem contents [Contents σ] [FaithfulStore σ] [ReliableStore σ] {t : Transition α}
    {store between : σ} (h : t.PassesThrough store between) :
    t.PassesThrough (contents store) (contents between) := by
  induction h with
  | start t store => exact .start t _
  | output _ ih => exact .output ih
  | @answer question _ store _ _ _ hanswer _ ih =>
    obtain ⟨answer, after, hstore, hplain⟩ := answer_contents question store
    cases hanswer.symm.trans hstore
    exact .answer hplain ih
  | @fault question _ store _ _ hfault =>
    obtain ⟨answer, after, hstore, -⟩ := answer_contents question store
    cases hfault.symm.trans hstore

variable {t : Transition α} {store between : Store}

/-- In the middle of a run a store is typed. -/
theorem typed {P : Key → Prop} (h : t.PassesThrough store between) (ht : t.WritesWithin P)
    (htyped : store.Typed) : between.Typed := by
  induction h with
  | start => exact htyped
  | output _ ih => exact ih ht htyped
  | @answer question _ store after _ answer hanswer _ ih =>
    have hstep := typed_run (t := request question) ⟨ht.1, fun _ => trivial⟩ htyped
    rw [run_request hanswer] at hstep
    exact ih (ht.2 answer) hstep
  | @fault question _ _ _ _ hfault => cases question <;> cases hfault

/-- In the middle of a short run values are short. -/
theorem shortValues (h : t.PassesThrough store between) (ht : t.Short store)
    (hshort : store.ShortValues) : between.ShortValues := by
  induction h with
  | start => exact hshort
  | output _ ih => exact ih ht hshort
  | @answer question _ store after _ answer hanswer _ ih =>
    obtain ⟨hquestion, hnext⟩ := (short_ask hanswer).1 ht
    have hstep := shortValues_run (t := request question)
      ((short_ask hanswer).2 ⟨hquestion, short_done _ _⟩) hshort
    rw [run_request hanswer] at hstep
    exact ih hnext hstep
  | @fault question _ _ _ _ hfault => cases question <;> cases hfault

end PassesThrough
end Transition

/-- The overlay after calls made on it, one after the other. -/
def Overlay.afterCalls {σ : Type} [KeyValueStore σ] (overlay : Overlay σ) (calls : History) :
    Overlay σ :=
  calls.foldl (fun overlay call => (call.transition.run overlay).store) overlay

/-- An overlay shows its calls made directly on what it showed before. -/
theorem Overlay.contents_afterCalls {σ : Type} [KeyValueStore σ] [Contents σ] [FaithfulStore σ]
    [ReliableStore σ] (overlay : Overlay σ) (calls : History) :
    contents (overlay.afterCalls calls) = History.afterFrom (contents overlay) calls := by
  induction calls generalizing overlay with
  | nil => rfl
  | cons call rest ih =>
    have hcall := run_contents_of_reliable call.transition overlay
    exact (ih _).trans (congrArg (History.afterFrom · rest) (congrArg Outcome.store hcall))

/-! ## Visitors -/

/-- A way to go through a listing, with what a visitor has seen before and how it goes on. -/
abbrev Stored.Visit (α : Type) := ∀ {β : Type}, β → (α → β → ForInStep β) → Transition β

/-- Going through a listing on a store shows the list. -/
structure Stored.Shows {α σ : Type} [KeyValueStore σ] (visit : Visit α) (store : σ)
    (listed : List α) : Prop where
  /-- Any visitor is shown the list until it stops. -/
  shown : ∀ {β : Type} (start : β) (see : α → β → ForInStep β),
    (visit start see).TellsOn store (showTo see listed start)
  /-- One that never stops is shown all of it. -/
  complete : (visit [] noteAll).TellsOn store listed
  /-- One that stops at some call is shown as many. -/
  stopped : ∀ limit, 0 < limit → (visit [] (noteUpTo limit)).TellsOn store (listed.take limit)

/-- A listing that can be decoded is shown. -/
theorem Stored.shows_listing {α σ : Type} [KeyValueStore σ] [Contents σ] [FaithfulStore σ]
    [ReliableStore σ] {store : σ} {family : KeyFamily}
    {decode : Bytes × Bytes → Except ProviderError (Option α)}
    (h : ∀ entry ∈ (contents store).under family.stem, ∃ found, decode entry = .ok found) :
    Shows (fun start see => visit family decode start see) store
      ((contents store).listing family decode) := by
  have hdecode : ∀ entry ∈ (contents store).under family.stem,
      decode entry = .ok (seen? decode entry) := by
    intro entry hentry
    obtain ⟨found, hfound⟩ := h entry hentry
    rw [seen?, hfound]
  have hshown {β : Type} (start : β) (see : α → β → ForInStep β) :
      (visit family decode start see).TellsOn store
        (showTo see ((contents store).listing family decode) start) := by
    rw [tellsOn_iff, visit, tells_bind_of_run (run_scan _ _)]
    exact visitList_eq_ok see hdecode start
  refine ⟨hshown, ?_, fun limit hlimit => ?_⟩
  · have hall := hshown [] noteAll
    rwa [showTo_noteAll, List.nil_append] at hall
  · have hfirst := hshown [] (noteUpTo limit)
    rwa [showTo_noteUpTo _ hlimit, List.nil_append] at hfirst

/-! ## What the listings hold -/

/-- Channels come in the byte order of their names. -/
def ChannelId.Before (a b : ChannelId) : Prop := Bytes.order a.bytes b.bytes = .lt

namespace Registry

/-- A listed entry is a binding if its key is the chain's and its value is the channel's name. -/
theorem decodeBinding_eq_ok_iff {entry : Bytes × Bytes} {chain : ChainId} {channel : ChannelId} :
    decodeBinding entry = .ok (some (chain, channel)) ↔ entry.1 = (Key.channelOf chain).bytes ∧
      (Key.channelOf chain).decode? entry.2 = some channel ∧ True := by
  obtain ⟨chain⟩ := chain
  obtain ⟨channel⟩ := channel
  simp [decodeBinding, bind_eq_ok_iff, Stored.nameOfKey_eq_ok_iff, Stored.nameOfValue_eq_ok_iff,
    Key.decode?, Key.bytes, ChainId.bytes]

/-- The same for a binding by its channel. -/
theorem decodeReverse_eq_ok_iff {entry : Bytes × Bytes} {channel : ChannelId} {chain : ChainId} :
    decodeReverse entry = .ok (some (channel, chain)) ↔ entry.1 = (Key.chainOf channel).bytes ∧
      (Key.chainOf channel).decode? entry.2 = some chain ∧ True := by
  obtain ⟨chain⟩ := chain
  obtain ⟨channel⟩ := channel
  simp [decodeReverse, bind_eq_ok_iff, Stored.nameOfKey_eq_ok_iff, Stored.nameOfValue_eq_ok_iff,
    Key.decode?, Key.bytes, ChannelId.bytes]

variable {store : Store}

/-- On a typed store the bindings can be listed by chain. -/
theorem exists_decodeBinding (h : store.Typed) :
    ∀ entry ∈ store.under KeyFamily.channelOfChain.stem, ∃ found,
      decodeBinding entry = .ok found := by
  intro entry hentry
  obtain ⟨chain, channel, rfl⟩ := h.entry_of_binding hentry
  exact ⟨_, decodeBinding_encode chain channel⟩

/-- They can be listed by channel. -/
theorem exists_decodeReverse (h : store.Typed) :
    ∀ entry ∈ store.under KeyFamily.chainOfChannel.stem, ∃ found,
      decodeReverse entry = .ok found := by
  intro entry hentry
  obtain ⟨key, hfamily, record, rfl⟩ := h.listed hentry
  cases key <;> cases hfamily
  exact ⟨_, decodeReverse_eq_ok_iff.2 ⟨rfl, Key.decode?_encode (.chainOf _) trivial, trivial⟩⟩

theorem tells_genesis (h : store.Typed) {chain : ChainId} {found : Option Bytes} :
    (genesis? chain).Tells store found ↔ store.genesis? chain = found := by
  rw [← h.get?_genesisOf]
  exact tells_iff (run_get? _ store)

end Registry

/-- A listed entry is a queue to be seen if its key is the chain's and its value is tokens. -/
theorem SlashQueue.decodeQueue_eq_ok_some_iff {entry : Bytes × Bytes} {chain : ChainId}
    {tokens : List String} :
    decodeQueue entry = .ok (some (chain, tokens)) ↔ entry.1 = (Key.slashQueueOf chain).bytes ∧
      (Key.slashQueueOf chain).decode? entry.2 = some tokens ∧ tokens ≠ [] := by
  have hfront : (Key.slashQueueOf chain).decode? entry.2 = some tokens ↔
      Codec.tokens.read queueKind entry.2 = .ok tokens := by
    rw [Codec.read_eq_ok_iff, Key.decode?, Key.front?]
    cases Codec.tokens.decode entry.2 <;> simp [Prod.ext_iff]
  have hseen : Stored.seen? decodeQueue entry = listedQueue? entry := by
    rw [Stored.seen?, listedQueue?]
    cases decodeQueue entry <;> rfl
  rw [hfront, ← Stored.seen?_eq_some_iff, hseen, listedQueue?_eq_some_iff]
  tauto

/-! ## Agreement -/

/-- The listings of bindings and registrations that a store gives agree with what it tells when it
is asked for one record. -/
structure Enumerated {σ : Type} [KeyValueStore σ] [Contents σ] (store : σ) : Prop where
  /-- The bound chains ascend strictly, and are those that a channel is told for. -/
  boundChains : ∃ listed, Registry.boundChains.TellsOn store listed ∧
    listed.Pairwise ChainId.Before ∧ ∀ chain, chain ∈ listed ↔
      ∃ channel, (Registry.channelOf chain).TellsOn store (some channel)
  /-- Going through the bound chains shows each with its channel, in order of the chains. -/
  byChain : ∃ listed, Stored.Shows Registry.visitChains store listed ∧
    (listed.Pairwise fun a b => a.1.Before b.1) ∧ ∀ chain channel, (chain, channel) ∈ listed ↔
      (Registry.channelOf chain).TellsOn store (some channel)
  /-- Going through the bound channels shows each with its chain, in order of the channels. -/
  byChannel : ∃ listed, Stored.Shows Registry.visitChannels store listed ∧
    (listed.Pairwise fun a b => a.1.Before b.1) ∧ ∀ channel chain, (channel, chain) ∈ listed ↔
      (Registry.chainOf channel).TellsOn store (some chain)
  /-- The registrations ascend strictly, and are those of the chains that a client is told for, with
  that client and the genesis record that is told, or none.  What is told is what stands under the
  key of the record, byte for byte. -/
  registrations : ∃ listed, Registry.registrations.TellsOn store listed ∧
    (listed.Pairwise fun a b => a.chain.Before b.chain) ∧ ∀ registration, registration ∈ listed ↔
      (Registry.client? registration.chain).TellsOn store (some registration.client) ∧
        ∃ genesis, (Registry.genesis? registration.chain).TellsOn store genesis ∧
          (contents store).get? (Key.genesisOf registration.chain).bytes = genesis ∧
            registration.genesis = genesis.getD []

/-- Going through the queues shows those that hold something, each as it is told when it is asked
for, in order of the chains. -/
def QueuesEnumerated {σ : Type} [KeyValueStore σ] (store : σ) : Prop :=
  ∃ listed, Stored.Shows SlashQueue.visit store listed ∧
    (listed.Pairwise fun a b => a.1.Before b.1) ∧ ∀ chain tokens, (chain, tokens) ∈ listed ↔
      (SlashQueue.pending chain).TellsOn store tokens ∧ tokens ≠ []

section

variable {σ : Type} [KeyValueStore σ] [Contents σ] [FaithfulStore σ] [ReliableStore σ] {store : σ}

/-- **Listings agree with single reads** on every store that does not fail and shows records under
their keys. -/
theorem enumerated_of_typed (htyped : (contents store).Typed) : Enumerated store := by
  constructor
  case boundChains =>
    refine ⟨(contents store).boundChains, ?_, Store.sorted_boundChains _, fun chain => ?_⟩
    · exact tellsOn_iff.2 ((tells_iff (Registry.run_boundChains htyped)).2 rfl)
    · simp only [tellsOn_iff, Registry.tells_channelOf htyped]
      rw [Store.mem_boundChains htyped, Option.isSome_iff_exists]
  case byChain =>
    refine ⟨_, Stored.shows_listing (Registry.exists_decodeBinding htyped),
      Store.sorted_listed (fun item : ChainId × ChannelId => item.1.bytes) ?_,
      fun chain channel => ?_⟩
    · exact fun entry item hitem => (Registry.decodeBinding_eq_ok_iff.1 hitem).1
    · rw [tellsOn_iff, Registry.tells_channelOf htyped, Store.mem_listing_iff rfl
        fun _ => Registry.decodeBinding_eq_ok_iff]
      exact and_iff_left trivial
  case byChannel =>
    refine ⟨_, Stored.shows_listing (Registry.exists_decodeReverse htyped),
      Store.sorted_listed (fun item : ChannelId × ChainId => item.1.bytes) ?_,
      fun channel chain => ?_⟩
    · exact fun entry item hitem => (Registry.decodeReverse_eq_ok_iff.1 hitem).1
    · rw [tellsOn_iff, Registry.tells_chainOf htyped, Store.mem_listing_iff rfl
        fun _ => Registry.decodeReverse_eq_ok_iff]
      exact and_iff_left trivial
  case registrations =>
    refine ⟨(contents store).registrations, ?_, Store.sorted_registrations _,
      fun registration => ?_⟩
    · exact tellsOn_iff.2 ((tells_iff (Registry.run_registrations htyped)).2 rfl)
    · simp only [tellsOn_iff, Registry.tells_client htyped, Registry.tells_genesis htyped,
        htyped.get?_genesisOf]
      rw [Store.mem_registrations htyped, exists_eq_left', eq_comm (b := registration.genesis)]
      exact and_congr_right fun _ => (and_iff_right rfl).symm

/-- The same for the queues, where the queues can also be read back. -/
theorem queuesEnumerated_of_wellFormed (h : (contents store).WellFormed) :
    QueuesEnumerated store := by
  refine ⟨_, Stored.shows_listing (SlashQueue.exists_decodeQueue h),
    Store.sorted_listed (fun item : ChainId × List String => item.1.bytes) ?_,
    fun chain tokens => ?_⟩
  · exact fun entry item hitem => (SlashQueue.decodeQueue_eq_ok_some_iff.1 hitem).1
  · have hpending := SlashQueue.run_pending (h.sound (.slashQueueOf chain))
    rw [tellsOn_iff, tells_iff hpending, Store.mem_listing_iff rfl
      fun _ => SlashQueue.decodeQueue_eq_ok_some_iff]
    refine and_congr_left fun hne => ?_
    cases (contents store).record? (.slashQueueOf chain) <;> simp [hne.symm]

end

/-- **Listings agree with single reads**, on the store after every run and any further calls, and on
an overlay of the store after the run on which those calls are made, at every point of yet another
call: for the bindings and registrations whatever the calls are, for the queues if their lists and
strings fit in memory. -/
theorem enumerated_after (run : Run Call) (calls : History) :
    Enumerated (History.afterFrom run.after calls) ∧
      (History.Short (run.committed ++ calls) →
        QueuesEnumerated (History.afterFrom run.after calls)) ∧
      ∀ (call : Call) (overlay : Overlay Store),
        call.transition.PassesThrough ((Overlay.ofStore run.after).afterCalls calls) overlay →
          Enumerated overlay ∧
            (History.Short (run.committed ++ calls ++ [call]) → QueuesEnumerated overlay) := by
  have hafter : History.afterFrom run.after calls = History.after (run.committed ++ calls) := by
    rw [run.after_eq, History.after, ← History.afterFrom_append]
    rfl
  have hoverlay : contents ((Overlay.ofStore run.after).afterCalls calls) =
      History.after (run.committed ++ calls) :=
    (Overlay.contents_afterCalls _ calls).trans hafter
  have htyped := History.typed_after (run.committed ++ calls)
  rw [hafter]
  refine ⟨enumerated_of_typed htyped, fun hshort => ?_, fun call overlay hpasses => ?_⟩
  · exact queuesEnumerated_of_wellFormed (History.wellFormed_after hshort)
  have hshown := hpasses.contents
  rw [hoverlay] at hshown
  have htyped := hshown.typed (call.service.perform_within call.operation) htyped
  refine ⟨enumerated_of_typed htyped, fun hshort => ?_⟩
  obtain ⟨hpast, hcall⟩ := History.short_snoc.1 hshort
  have hvalues := hshown.shortValues hcall (History.wellFormed_after hpast).short
  exact queuesEnumerated_of_wellFormed ⟨htyped, hvalues⟩

/-- A chain is registered, and a packet on the channel of another brings a token. -/
def registeredAndAcknowledged : History :=
  [⟨Unbonding.twoChains, .registerConsumer ⟨⟨"foo"⟩, ⟨"client-1"⟩, [1]⟩⟩,
    ⟨Unbonding.twoChains, .acknowledgePacket ⟨"ch-0"⟩ ⟨0, ["late"]⟩⟩]

/-- The overlay on which this was done, when the first of its two queues has been removed. -/
def partlySwept : Overlay Store :=
  ((Overlay.ofStore Unbonding.halfAcknowledged.after).afterCalls registeredAndAcknowledged).record
    (.delete (Key.slashQueueOf ⟨"bar"⟩).bytes)

/-- In the middle of a sweep the queues are those that it has not come to, and the registration is
listed with the genesis record it was made with. -/
theorem enumerated_after_partlySwept :
    Transition.PassesThrough (Call.transition ⟨Unbonding.twoChains, .sweep⟩)
      ((Overlay.ofStore Unbonding.halfAcknowledged.after).afterCalls registeredAndAcknowledged)
      partlySwept ∧
    History.Short (Unbonding.halfAcknowledged.committed ++ registeredAndAcknowledged ++
      [⟨Unbonding.twoChains, .sweep⟩]) ∧
    Enumerated partlySwept ∧ QueuesEnumerated partlySwept ∧
    (SlashQueue.visit [] Stored.noteAll).TellsOn partlySwept [(⟨"foo"⟩, ["token"])] ∧
    Registry.registrations.TellsOn partlySwept [⟨⟨"foo"⟩, ⟨"client-1"⟩, [1]⟩] ∧
    (contents partlySwept).genesis? ⟨"foo"⟩ = some [1] := by
  have hshort : History.Short (Unbonding.halfAcknowledged.committed ++ registeredAndAcknowledged ++
      [⟨Unbonding.twoChains, .sweep⟩]) := by
    decide +kernel
  have hpasses : Transition.PassesThrough (Call.transition ⟨Unbonding.twoChains, .sweep⟩)
      ((Overlay.ofStore Unbonding.halfAcknowledged.after).afterCalls registeredAndAcknowledged)
      partlySwept := .answer rfl (.answer rfl (.answer rfl (.start _ _)))
  obtain ⟨hlistings, hqueues⟩ :=
    (enumerated_after Unbonding.halfAcknowledged registeredAndAcknowledged).2.2 _ _ hpasses
  refine ⟨hpasses, hshort, hlistings, hqueues hshort, ?_, ?_, ?_⟩ <;> decide +kernel

end SharedSecurity
