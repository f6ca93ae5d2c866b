import SharedSecurity.Proofs.Mirror
import SharedSecurity.Proofs.Queues
import SharedSecurity.Proofs.Transactions

/-!
# Consumer chains do not disturb each other

A confirm or an acknowledgement is about one chain, the one that the transport resolves its channel
to.  Nearly all that such a call reads and writes is about that chain alone: its binding, its
buckets, its queue, and the status of its channels.  The exception are the entries, which chains
share, and from which every chain takes itself out as it acknowledges.  But an entry is the set of
the chains whose buckets mention it, so there is nothing in the entries that the buckets do not say.

* `Key.OwnedBy`, `Store.AgreesOn` — what is about one chain, and stores that are the same in that.
* `Call.Step.record?_after` — a call leaves what is about other chains alone.
* `Call.Step.locality` — a call does the same in stores that agree on its chain.
* `Store.Completes` — which entries are gone, and `Call.Step.completes` that a call tells just those.
* `History.lockstep` — hence two interleavings are the same for every single chain.
* `Store.eq_of_agreesOn` — stores that agree on every chain hold the same entries.
* `History.SameEffect`, `History.sameEffect_after` — **calls of different chains commute.**
-/

set_option autoImplicit false
namespace SharedSecurity

open Transition

/-! ## What is about one chain -/

/-- The chain that a call is about, for a confirm or an acknowledgement: the one that the transport
resolves the channel to. -/
def Call.chain? : Call → Option ChainId
  | ⟨service, .openConfirm _ channel⟩ => (Handshake.resolveChain service channel).toOption
  | ⟨service, .acknowledgePacket channel _⟩ => (Handshake.resolveChain service channel).toOption
  | _ => none

/-- The keys that are about one chain only. -/
inductive Key.OwnedBy (service : Service) (chain : ChainId) : Key → Prop where
  /-- Its channel. -/
  | channelOf : OwnedBy service chain (.channelOf chain)
  /-- The height at which it was bound. -/
  | initHeightOf : OwnedBy service chain (.initHeightOf chain)
  /-- Its buckets. -/
  | bucket (version : Version) : OwnedBy service chain (.bucket chain version)
  /-- Its queue. -/
  | slashQueueOf : OwnedBy service chain (.slashQueueOf chain)
  /-- The chain of a channel that resolves to it. -/
  | chainOf {channel : ChannelId} (h : Handshake.resolveChain service channel = .ok chain) :
    OwnedBy service chain (.chainOf channel)
  /-- The status of a channel that resolves to it. -/
  | statusOf {channel : ChannelId} (h : Handshake.resolveChain service channel = .ok chain) :
    OwnedBy service chain (.statusOf channel)

/-- What is about a chain is about no other. -/
theorem Key.OwnedBy.unique {service : Service} {chain other : ChainId} {key : Key}
    (h : key.OwnedBy service chain) (hother : key.OwnedBy service other) : chain = other := by
  cases h with
  | channelOf => cases hother; rfl
  | initHeightOf => cases hother; rfl
  | bucket => cases hother; rfl
  | slashQueueOf => cases hother; rfl
  | chainOf h =>
    cases hother with
    | chainOf hother => exact Except.ok.inj (h.symm.trans hother)
  | statusOf h =>
    cases hother with
    | statusOf hother => exact Except.ok.inj (h.symm.trans hother)

namespace Store

/-- Two stores have the same records about a chain. -/
def AgreesOn (service : Service) (chain : ChainId) (first second : Store) : Prop :=
  ∀ key : Key, key.OwnedBy service chain → first.record? key = second.record? key

namespace AgreesOn

variable {service : Service} {chain : ChainId} {first second third : Store}

theorem refl (store : Store) : AgreesOn service chain store store := fun _ _ => rfl

theorem symm (h : AgreesOn service chain first second) : AgreesOn service chain second first :=
  fun key hkey => (h key hkey).symm

theorem trans (h : AgreesOn service chain first second)
    (hnext : AgreesOn service chain second third) : AgreesOn service chain first third :=
  fun key hkey => (h key hkey).trans (hnext key hkey)

/-- Stores still agree when the same record is written to both. -/
theorem hold (h : AgreesOn service chain first second) (key : Key) (record : key.Record) :
    AgreesOn service chain (first.hold key record) (second.hold key record) := by
  intro other hother
  by_cases hkey : other = key
  · subst hkey
    rw [record?, record?, get?_hold_self, get?_hold_self]
  · rw [record?_hold_of_ne first hkey, record?_hold_of_ne second hkey]
    exact h other hother

end AgreesOn

/-- What is known of every store that a provider leaves. -/
structure Intact (service : Service) (store : Store) : Prop where
  /-- Every record can be read. -/
  wellFormed : store.WellFormed
  /-- The bindings are in order. -/
  bound : store.Bound service
  /-- Buckets and entries are in step. -/
  mirrored : store.Mirrored

/-- Every call on the transport keeps a store intact. -/
theorem Intact.after_call {service : Service} {store : Store} (h : store.Intact service)
    (call : Call) (hcall : call.service.SharesTransport service)
    (hshort : call.transition.Short store) : (call.after store).Intact service where
  wellFormed :=
    wellFormed_run (call.service.perform_within call.operation) hshort h.wellFormed
  bound := h.bound.after_call h.wellFormed.typed call hcall
  mirrored := h.mirrored.after_call h.wellFormed call hshort

end Store

/-! ## A confirm -/

namespace Store

variable {service : Service} {store : Store} {chain : ChainId} {channel : ChannelId}

/-- The store after a channel that resolves to a chain is confirmed. -/
def confirmed (store : Store) (chain : ChainId) (channel : ChannelId) (height : Height) : Store :=
  match store.channel? chain with
  | none => store.bind chain channel height
  | some existing => if existing = channel then store else store.mark channel .invalid

/-- What a confirm of a channel comes to, by the channel that its chain has. -/
def confirmVerdict (chain : ChainId) (channel : ChannelId) :
    Option ChannelId → Except ProviderError Unit
  | none => .ok ()
  | some existing =>
    if existing = channel then .ok ()
    else .error (.duplicateRegistration chain existing channel)

theorem run_openConfirm (provider : Service)
    (hresolve : Handshake.resolveChain provider channel = .ok chain) (height : Height)
    (h : store.Typed) :
    ((provider.openConfirm height channel).run store).result =
        confirmVerdict chain channel (store.channel? chain) ∧
      ((provider.openConfirm height channel).run store).store =
        store.confirmed chain channel height := by
  rw [Service.openConfirm, confirmed]
  obtain ⟨outputs, ⟨hfree, hrun⟩ | ⟨hsame, hrun⟩ | ⟨existing, hfound, hne, hrun⟩⟩ :=
    Handshake.run_bind_cases hresolve height h
  · rw [run_bind_ok hrun, hfree]
    exact ⟨rfl, rfl⟩
  · rw [run_bind_ok hrun, hsame, confirmVerdict, if_pos rfl]
    exact ⟨rfl, (if_pos rfl).symm⟩
  · rw [run_bind_error hrun, hfound, confirmVerdict, if_neg hne]
    exact ⟨rfl, (if_neg hne).symm⟩

/-- A confirm only writes what is about the chain of the channel. -/
theorem record?_confirmed_of_not_owned
    (hresolve : Handshake.resolveChain service channel = .ok chain) (height : Height) {key : Key}
    (hkey : ¬ key.OwnedBy service chain) :
    (store.confirmed chain channel height).record? key = store.record? key := by
  have hchannel : key ≠ .channelOf chain := by
    rintro rfl
    exact hkey .channelOf
  have hchain : key ≠ .chainOf channel := by
    rintro rfl
    exact hkey (.chainOf hresolve)
  have hheight : key ≠ .initHeightOf chain := by
    rintro rfl
    exact hkey .initHeightOf
  have hstatus : key ≠ .statusOf channel := by
    rintro rfl
    exact hkey (.statusOf hresolve)
  rw [confirmed]
  split
  · rw [bind, mark, record?_hold_of_ne _ hstatus, record?_hold_of_ne _ hheight,
      record?_hold_of_ne _ hchain, record?_hold_of_ne _ hchannel]
  · split
    · rfl
    · exact record?_hold_of_ne store hstatus _

/-- Stores that agree on a chain still do after a confirm. -/
theorem AgreesOn.confirmed {first second : Store} (h : AgreesOn service chain first second)
    (channel : ChannelId) (height : Height) : AgreesOn service chain
      (first.confirmed chain channel height) (second.confirmed chain channel height) := by
  have hchannel : first.channel? chain = second.channel? chain := h _ .channelOf
  rw [Store.confirmed, Store.confirmed, hchannel]
  split
  · exact (((h.hold _ _).hold _ _).hold _ _).hold _ _
  · split
    · exact h
    · exact h.hold _ _

end Store

/-! ## An acknowledgement -/

namespace Store

/-- What an acknowledgement that is credited to a chain leaves. -/
structure Credited (before : Store) (ack : MaturityAcknowledgement) (chain : ChainId)
    (after : Store) : Prop where
  /-- The chain has acknowledged the version. -/
  acknowledged : before.Acknowledged chain ack.version after
  /-- The tokens have joined the queue of the chain. -/
  queue : after.record? (.slashQueueOf chain) =
    if ack.slashAcks.isEmpty then before.record? (.slashQueueOf chain)
    else some (before.queue chain ++ ack.slashAcks)
  /-- All else but the entries is as it was. -/
  frame : ∀ key, (∀ id, key ≠ .entry id) → key ≠ .bucket chain ack.version →
    key ≠ .slashQueueOf chain → after.record? key = before.record? key

variable {service : Service} {chain : ChainId}

/-- An acknowledgement on a bound channel succeeds, and tells the ids of the entries that are
gone. -/
theorem Intact.credited {store : Store} (h : store.Intact service) (provider : Service)
    {channel : ChannelId} (ack : MaturityAcknowledgement)
    (hbound : store.chain? channel = some chain)
    (hshort : (provider.acknowledgePacket channel ack).Short store) :
    ((provider.acknowledgePacket channel ack).run store).result =
        .ok ((store.waiting chain ack.version).filter fun id =>
          (((provider.acknowledgePacket channel ack).run store).store.held? id).isNone) ∧
      store.Credited ack chain ((provider.acknowledgePacket channel ack).run store).store := by
  have hwell := h.wellFormed
  have hcredit := provider.short_creditTo hwell.typed hbound hshort
  have hrun := provider.run_acknowledgePacket ack hwell.typed hbound
  rcases provider.acknowledgePacket_cases channel ack hwell h.mirrored.backed
    h.mirrored.bucket_ne_nil hshort with ⟨hfree, -⟩ | ⟨credited, hcredited, hresult, hleft⟩
  · rw [hbound] at hfree
    cases hfree
  · rw [hbound] at hcredited
    obtain rfl := Option.some.inj hcredited
    refine ⟨hresult, hleft, ?_, fun key hentry hbucket hqueue => ?_⟩
    · rw [hrun] at hresult ⊢
      rcases ack.record?_creditTo chain hwell hcredit with ⟨error, herror, -⟩ | ⟨_, -, hrecord⟩
      · rw [herror] at hresult
        cases hresult
      · exact hrecord
    · rw [hrun]
      refine record?_congr (get?_run (ack.within_creditTo chain) ?_ store)
      rintro (⟨id, hid⟩ | hother | hother)
      · exact hentry id hid
      · exact hbucket hother
      · exact hqueue hother

/-- Stores that agree on a chain still do after an acknowledgement that is credited to it. -/
theorem Credited.agreesOn {first second firstAfter secondAfter : Store}
    {ack : MaturityAcknowledgement} (hfirst : first.Credited ack chain firstAfter)
    (hsecond : second.Credited ack chain secondAfter) (h : AgreesOn service chain first second) :
    AgreesOn service chain firstAfter secondAfter := by
  -- what is neither a bucket nor a queue is not written at all
  have hother (key : Key) (hkey : key.OwnedBy service chain) (hentry : ∀ id, key ≠ .entry id)
      (hbucket : key ≠ .bucket chain ack.version) (hqueue : key ≠ .slashQueueOf chain) :
      firstAfter.record? key = secondAfter.record? key := by
    rw [hfirst.frame key hentry hbucket hqueue, hsecond.frame key hentry hbucket hqueue]
    exact h key hkey
  intro key hkey
  cases hkey with
  | channelOf => exact hother _ .channelOf (fun _ => nofun) nofun nofun
  | initHeightOf => exact hother _ .initHeightOf (fun _ => nofun) nofun nofun
  | chainOf hresolve => exact hother _ (.chainOf hresolve) (fun _ => nofun) nofun nofun
  | statusOf hresolve => exact hother _ (.statusOf hresolve) (fun _ => nofun) nofun nofun
  | bucket version =>
    by_cases hversion : version = ack.version
    · subst hversion
      exact hfirst.acknowledged.bucket.trans hsecond.acknowledged.bucket.symm
    · refine hother _ (.bucket version) (fun _ => nofun) ?_ nofun
      exact fun heq => hversion (Key.bucket.inj heq).2
  | slashQueueOf =>
    have hqueue : first.record? (.slashQueueOf chain) = second.record? (.slashQueueOf chain) :=
      h _ .slashQueueOf
    rw [hfirst.queue, hsecond.queue, hqueue, queue_congr hqueue]

end Store

/-! ## Completed entries -/

namespace Store

/-- The ids are those of the entries that are gone from one store to another, and no entry is
new. -/
structure Completes (before : Store) (ids : List EntryId) (after : Store) : Prop where
  /-- Each is there once. -/
  nodup : ids.Nodup
  /-- They are the ids of the entries that are gone. -/
  mem_iff : ∀ id, id ∈ ids ↔ (before.held? id).isSome ∧ after.held? id = none
  /-- An id that had no entry has none. -/
  held?_eq_none : ∀ id, before.held? id = none → after.held? id = none

namespace Completes

variable {first second third : Store} {ids others : List EntryId}

/-- None are gone between stores with the same entries. -/
theorem of_same (h : ∀ id, second.held? id = first.held? id) : first.Completes [] second where
  nodup := .nil
  mem_iff id := by
    rw [h]
    refine ⟨nofun, fun ⟨hheld, hgone⟩ => ?_⟩
    rw [hgone] at hheld
    cases hheld
  held?_eq_none id hfree := (h id).trans hfree

/-- First some entries go and then others. -/
theorem append (h : first.Completes ids second) (hlater : second.Completes others third) :
    first.Completes (ids ++ others) third where
  nodup := by
    refine List.nodup_append.2 ⟨h.nodup, hlater.nodup, ?_⟩
    rintro id hid _ hother rfl
    have hgone := ((h.mem_iff id).1 hid).2
    have hheld := ((hlater.mem_iff id).1 hother).1
    rw [hgone] at hheld
    cases hheld
  mem_iff id := by
    rw [List.mem_append, h.mem_iff, hlater.mem_iff]
    cases hbetween : second.held? id with
    | none => simp [hlater.held?_eq_none id hbetween]
    | some entry =>
      -- what is there in between was there before
      have hheld : (first.held? id).isSome := by
        rw [Option.isSome_iff_ne_none]
        intro hfree
        rw [h.held?_eq_none id hfree] at hbetween
        cases hbetween
      simp [hheld]
  held?_eq_none id hfree := hlater.held?_eq_none id (h.held?_eq_none id hfree)

/-- The ids are determined by the stores, up to their order. -/
theorem perm (h : first.Completes ids second) (hother : first.Completes others second) :
    ids.Perm others := by
  rw [List.perm_ext_iff_of_nodup h.nodup hother.nodup]
  intro id
  rw [h.mem_iff, hother.mem_iff]

end Completes
end Store

/-! ## One call -/

namespace Call

variable {service : Service} {chain : ChainId} {call : Call}

/-- What a call comes to, apart from what it tells. -/
def verdict (call : Call) (store : Store) : Except ProviderError Unit :=
  (call.transition.run store).result.map fun _ => ()

/-- The ids that an acknowledgement tells. -/
def completed : Settled → List EntryId
  | ⟨⟨_, .acknowledgePacket _ _⟩, .ok ids⟩ => ids
  | _ => []

/-- The ids that a call on a store tells, if it is an acknowledgement. -/
def told (call : Call) (store : Store) : List EntryId :=
  completed ⟨call, (call.transition.run store).result⟩

/-- A call that is about a chain is a confirm or an acknowledgement on a channel that resolves to
it. -/
theorem chain?_cases (h : call.chain? = some chain) :
    (∃ provider height channel, call = ⟨provider, .openConfirm height channel⟩ ∧
        Handshake.resolveChain provider channel = .ok chain) ∨
      ∃ provider channel ack, call = ⟨provider, .acknowledgePacket channel ack⟩ ∧
        Handshake.resolveChain provider channel = .ok chain := by
  have hresolved {result : Except ProviderError ChainId} (hsome : result.toOption = some chain) :
      result = .ok chain := by
    cases result with
    | ok found => exact congrArg Except.ok (Option.some.inj hsome)
    | error error => cases hsome
  obtain ⟨provider, operation⟩ := call
  cases operation with
  | openConfirm height channel => exact .inl ⟨provider, height, channel, rfl, hresolved h⟩
  | acknowledgePacket channel ack => exact .inr ⟨provider, channel, ack, rfl, hresolved h⟩
  | _ => cases h

/-- **A call that is about a chain.**  It is a confirm, or an acknowledgement that is refused since
the channel is not bound, or one that is credited to the chain. -/
inductive Step (service : Service) (chain : ChainId) (store : Store) : Call → Prop where
  /-- The chain's channel is confirmed. -/
  | confirm {provider : Service} {height : Height} {channel : ChannelId}
    (resolve : Handshake.resolveChain service channel = .ok chain)
    (verdict : verdict ⟨provider, .openConfirm height channel⟩ store =
      Store.confirmVerdict chain channel (store.channel? chain))
    (left : after ⟨provider, .openConfirm height channel⟩ store =
      store.confirmed chain channel height) :
    Step service chain store ⟨provider, .openConfirm height channel⟩
  /-- An acknowledgement is refused. -/
  | refused {provider : Service} {channel : ChannelId} {ack : MaturityAcknowledgement}
    (resolve : Handshake.resolveChain service channel = .ok chain)
    (free : store.chain? channel = none)
    (verdict : verdict ⟨provider, .acknowledgePacket channel ack⟩ store =
      .error (.channelNotFound channel))
    (left : after ⟨provider, .acknowledgePacket channel ack⟩ store = store)
    (told : told ⟨provider, .acknowledgePacket channel ack⟩ store = []) :
    Step service chain store ⟨provider, .acknowledgePacket channel ack⟩
  /-- An acknowledgement is credited. -/
  | credited {provider : Service} {channel : ChannelId} {ack : MaturityAcknowledgement}
    (resolve : Handshake.resolveChain service channel = .ok chain)
    (bound : store.chain? channel = some chain)
    (verdict : verdict ⟨provider, .acknowledgePacket channel ack⟩ store = .ok ())
    (left : store.Credited ack chain (after ⟨provider, .acknowledgePacket channel ack⟩ store))
    (told : told ⟨provider, .acknowledgePacket channel ack⟩ store =
      (store.waiting chain ack.version).filter fun id =>
        ((after ⟨provider, .acknowledgePacket channel ack⟩ store).held? id).isNone) :
    Step service chain store ⟨provider, .acknowledgePacket channel ack⟩

theorem step {store : Store} (h : store.Intact service)
    (hcall : call.service.SharesTransport service) (hchain : call.chain? = some chain)
    (hshort : call.transition.Short store) : Step service chain store call := by
  rcases chain?_cases hchain with
    ⟨provider, height, channel, rfl, hresolve⟩ | ⟨provider, channel, ack, rfl, hresolve⟩
  · obtain ⟨hresult, hleft⟩ :=
      Store.run_openConfirm provider hresolve height h.wellFormed.typed
    refine .confirm (hcall.resolveChain_eq channel ▸ hresolve) ?_ hleft
    exact (congrArg (Except.map fun _ => ()) hresult).trans (congrFun Except.map_id _)
  · rw [hcall.resolveChain_eq] at hresolve
    cases hbound : store.chain? channel with
    | none =>
      have hrun : (transition ⟨provider, .acknowledgePacket channel ack⟩).run store =
          ⟨.error (.channelNotFound channel), store, []⟩ :=
        provider.run_acknowledgePacket_of_unbound ack h.wellFormed.typed hbound
      refine .refused hresolve hbound ?_ (congrArg Outcome.store hrun) ?_
      · rw [verdict, hrun]
        rfl
      · rw [told, hrun]
        rfl
    | some bound =>
      obtain rfl : bound = chain :=
        Except.ok.inj ((h.bound.resolved _ _ hbound).symm.trans hresolve)
      obtain ⟨hresult, hleft⟩ := h.credited provider ack hbound hshort
      have hanswer : ((transition ⟨provider, .acknowledgePacket channel ack⟩).run store).result =
          _ := hresult
      refine .credited hresolve hbound ?_ hleft ?_
      · rw [verdict, hanswer]
        rfl
      · rw [told, hanswer]
        rfl

namespace Step

variable {store : Store}

/-- **A call leaves what is about other chains alone**, and all else but the entries. -/
theorem record?_after (h : Step service chain store call) {key : Key}
    (hkey : ¬ key.OwnedBy service chain) (hentry : ∀ id, key ≠ .entry id) :
    (call.after store).record? key = store.record? key := by
  cases h with
  | confirm hresolve _ hleft =>
    rw [hleft]
    exact Store.record?_confirmed_of_not_owned hresolve _ hkey
  | refused _ _ _ hleft => rw [hleft]
  | credited _ _ _ hleft =>
    refine hleft.frame key hentry ?_ ?_
    · rintro rfl
      exact hkey (.bucket _)
    · rintro rfl
      exact hkey .slashQueueOf

/-- A call leaves a chain alone that it is not about. -/
theorem agreesOn_of_ne (h : Step service chain store call) {other : ChainId} (hne : other ≠ chain) :
    Store.AgreesOn service other (call.after store) store := by
  intro key hkey
  refine h.record?_after (fun howned => hne (hkey.unique howned)) ?_
  rintro id rfl
  cases hkey

/-- **A call does the same in stores that agree on its chain.** -/
theorem locality {first second : Store} (hfirst : Step service chain first call)
    (hsecond : Step service chain second call)
    (hagree : Store.AgreesOn service chain first second) :
    call.verdict first = call.verdict second ∧
      Store.AgreesOn service chain (call.after first) (call.after second) := by
  cases hfirst with
  | confirm _ hverdict hleft =>
    cases hsecond with
    | confirm _ hother hotherLeft =>
      have hchannel : first.channel? chain = second.channel? chain := hagree _ .channelOf
      rw [hverdict, hother, hleft, hotherLeft, hchannel]
      exact ⟨rfl, hagree.confirmed _ _⟩
  | refused hresolve hfree hverdict hleft =>
    have hbound := hagree _ (.chainOf hresolve)
    cases hsecond with
    | refused _ _ hother hotherLeft =>
      rw [hverdict, hother, hleft, hotherLeft]
      exact ⟨rfl, hagree⟩
    | credited _ hother => cases hfree.symm.trans (hbound.trans hother)
  | credited hresolve hcredited hverdict hleft =>
    have hbound := hagree _ (.chainOf hresolve)
    cases hsecond with
    | refused _ hother => cases hcredited.symm.trans (hbound.trans hother)
    | credited _ _ hother hotherLeft =>
      rw [hverdict, hother]
      exact ⟨rfl, hleft.agreesOn hotherLeft hagree⟩

/-- **What an acknowledgement tells**: the ids of the entries that it completes. -/
theorem completes (h : Step service chain store call) (hintact : store.Intact service) :
    store.Completes (call.told store) (call.after store) := by
  cases h with
  | confirm hresolve _ hleft =>
    refine .of_same fun id => ?_
    rw [hleft]
    exact Store.record?_confirmed_of_not_owned hresolve _ nofun
  | refused _ _ _ hleft htold =>
    rw [htold, hleft]
    exact .of_same fun _ => rfl
  | @credited provider channel ack _ _ _ hleft htold =>
    have hkept {id : EntryId} (hid : id ∉ store.waiting chain ack.version) :=
      hleft.acknowledged.held_of_not_mem id hid
    rw [htold]
    constructor
    case nodup => exact (hintact.mirrored.nodup chain ack.version).sublist List.filter_sublist
    case mem_iff =>
      intro id
      rw [List.mem_filter, Option.isNone_iff_eq_none]
      refine and_congr_left fun hgone => ⟨fun hid => ?_, fun hheld => ?_⟩
      · obtain ⟨entry, hentry, -⟩ := (hintact.mirrored.mem_waiting chain ack.version id).1 hid
        rw [hentry]
        rfl
      · by_contra hid
        rw [← hkept hid, hgone] at hheld
        cases hheld
    case held?_eq_none =>
      intro id hfree
      refine (hkept ?_).trans hfree
      exact hintact.mirrored.not_mem_waiting hfree chain ack.version

end Step
end Call

/-! ## Interleavings -/

namespace History

variable {service : Service} {chain : ChainId}

/-- What the calls about a chain come to, in order. -/
def verdicts (chain : ChainId) : Store → History → List (Except ProviderError Unit)
  | _, [] => []
  | store, call :: rest =>
    if call.chain? = some chain then call.verdict store :: verdicts chain (call.after store) rest
    else verdicts chain (call.after store) rest

/-- The ids that all the acknowledgements tell, in order. -/
def completed (store : Store) (history : History) : List EntryId :=
  (results store history).flatMap Call.completed

theorem completed_cons (store : Store) (call : Call) (rest : History) :
    completed store (call :: rest) = call.told store ++ completed (call.after store) rest :=
  List.flatMap_cons

/-- Calls that are all about consumer chains, on one transport, and whose lists and strings fit in
memory. -/
structure OfChains (service : Service) (store : Store) (history : History) : Prop where
  /-- Every call is about a chain. -/
  chain : ∀ call ∈ history, ∃ chain, call.chain? = some chain
  /-- Every call is on the transport. -/
  shared : ∀ call ∈ history, call.service.SharesTransport service
  /-- The values written fit in memory. -/
  short : ShortFrom store history

theorem ofChains_append {store : Store} {past later : History} :
    OfChains service store (past ++ later) ↔
      OfChains service store past ∧ OfChains service (afterFrom store past) later := by
  constructor
  · rintro ⟨hchain, hshared, hshort⟩
    obtain ⟨hpast, hlater⟩ := shortFrom_append.1 hshort
    rw [List.forall_mem_append] at hchain hshared
    exact ⟨⟨hchain.1, hshared.1, hpast⟩, hchain.2, hshared.2, hlater⟩
  · rintro ⟨hpast, hlater⟩
    exact ⟨List.forall_mem_append.2 ⟨hpast.chain, hlater.chain⟩,
      List.forall_mem_append.2 ⟨hpast.shared, hlater.shared⟩,
      shortFrom_append.2 ⟨hpast.short, hlater.short⟩⟩

theorem OfChains.cons {store : Store} {call : Call} {rest : History}
    (h : OfChains service store (call :: rest)) (hintact : store.Intact service) :
    (∃ chain, call.chain? = some chain ∧ Call.Step service chain store call) ∧
      OfChains service (call.after store) rest ∧ (call.after store).Intact service := by
  obtain ⟨hchain, hothers⟩ := List.forall_mem_cons.1 h.chain
  obtain ⟨hshared, hrest⟩ := List.forall_mem_cons.1 h.shared
  obtain ⟨hshort, hlater⟩ := h.short
  obtain ⟨chain, hchain⟩ := hchain
  exact ⟨⟨chain, hchain, Call.step hintact hshared hchain hshort⟩, ⟨hothers, hrest, hlater⟩,
    hintact.after_call call hshared hshort⟩

theorem OfChains.intact {store : Store} {history : History} (h : OfChains service store history)
    (hintact : store.Intact service) : (afterFrom store history).Intact service := by
  induction history generalizing store with
  | nil => exact hintact
  | cons call rest ih =>
    obtain ⟨-, hrest, hafter⟩ := h.cons hintact
    exact ih hrest hafter

theorem verdicts_append (chain : ChainId) (store : Store) (past later : History) :
    verdicts chain store (past ++ later) =
      verdicts chain store past ++ verdicts chain (afterFrom store past) later := by
  induction past generalizing store with
  | nil => rfl
  | cons call rest ih =>
    rw [List.cons_append, verdicts, verdicts, ih]
    split <;> rfl

/-- Calls that are about other chains leave a chain alone. -/
theorem OfChains.away {store : Store} {history : History} (h : OfChains service store history)
    (hintact : store.Intact service) (hother : ∀ call ∈ history, call.chain? ≠ some chain) :
    Store.AgreesOn service chain (afterFrom store history) store ∧
      verdicts chain store history = [] := by
  induction history generalizing store with
  | nil => exact ⟨.refl store, rfl⟩
  | cons call rest ih =>
    obtain ⟨⟨other, hchain, hstep⟩, hrest, hafter⟩ := h.cons hintact
    obtain ⟨hne, hothers⟩ := List.forall_mem_cons.1 hother
    obtain ⟨hagree, hverdicts⟩ := ih hrest hafter hothers
    have hdifferent : chain ≠ other := by
      rintro rfl
      exact hne hchain
    refine ⟨hagree.trans (hstep.agreesOn_of_ne hdifferent), ?_⟩
    rw [verdicts, if_neg hne]
    exact hverdicts

/-- **Lockstep.**  Calls that are the same as far as a chain is concerned, made on stores that agree
on the chain, have the same results for the chain and leave stores that agree on it. -/
theorem lockstep {own first second : History} {store other : Store}
    (hfirst : OfChains service store first) (hsecond : OfChains service other second)
    (hstore : store.Intact service) (hother : other.Intact service)
    (hown : (first.filter fun call => call.chain? = some chain) = own)
    (hsame : (second.filter fun call => call.chain? = some chain) = own)
    (hagree : Store.AgreesOn service chain store other) :
    Store.AgreesOn service chain (afterFrom store first) (afterFrom other second) ∧
      verdicts chain store first = verdicts chain other second := by
  induction own generalizing first second store other with
  | nil =>
    simp only [List.filter_eq_nil_iff, decide_eq_true_eq] at hown hsame
    obtain ⟨hfirstAgree, hfirstVerdicts⟩ := hfirst.away hstore hown
    obtain ⟨hsecondAgree, hsecondVerdicts⟩ := hsecond.away hother hsame
    exact ⟨hfirstAgree.trans (hagree.trans hsecondAgree.symm),
      hfirstVerdicts.trans hsecondVerdicts.symm⟩
  | cons call own ih =>
    -- up to the chain's next call, both only make calls that are about other chains
    simp only [List.filter_eq_cons_iff, decide_eq_true_eq] at hown hsame
    obtain ⟨before, later, rfl, haway, hchain, hlater⟩ := hown
    obtain ⟨beforeOther, laterOther, rfl, hawayOther, -, hlaterOther⟩ := hsame
    obtain ⟨hbefore, hrest⟩ := ofChains_append.1 hfirst
    obtain ⟨hbeforeOther, hrestOther⟩ := ofChains_append.1 hsecond
    obtain ⟨hkept, hnone⟩ := hbefore.away hstore haway
    obtain ⟨hkeptOther, hnoneOther⟩ := hbeforeOther.away hother hawayOther
    obtain ⟨⟨_, hcall, hstep⟩, hend, hlast⟩ := hrest.cons (hbefore.intact hstore)
    obtain ⟨⟨_, hcallOther, hstepOther⟩, hendOther, hlastOther⟩ :=
      hrestOther.cons (hbeforeOther.intact hother)
    obtain rfl := Option.some.inj (hcall.symm.trans hchain)
    obtain rfl := Option.some.inj (hcallOther.symm.trans hchain)
    obtain ⟨hverdict, hafter⟩ :=
      hstep.locality hstepOther (hkept.trans (hagree.trans hkeptOther.symm))
    obtain ⟨hstores, hverdicts⟩ := ih hend hendOther hlast hlastOther hlater hlaterOther hafter
    rw [afterFrom_append, afterFrom_append, verdicts_append, verdicts_append, hnone, hnoneOther,
      verdicts, verdicts, if_pos hchain, if_pos hchain, hverdict, hverdicts]
    exact ⟨hstores, rfl⟩

/-- What is about no chain, and is no entry, stays. -/
theorem OfChains.record?_of_unowned {store : Store} {history : History}
    (h : OfChains service store history) (hintact : store.Intact service) {key : Key}
    (hkey : ∀ chain, ¬ key.OwnedBy service chain) (hentry : ∀ id, key ≠ .entry id) :
    (afterFrom store history).record? key = store.record? key := by
  induction history generalizing store with
  | nil => rfl
  | cons call rest ih =>
    obtain ⟨⟨chain, -, hstep⟩, hrest, hafter⟩ := h.cons hintact
    exact (ih hrest hafter).trans (hstep.record?_after (hkey chain) hentry)

/-- **What all the acknowledgements tell together**: the ids of the entries that they complete. -/
theorem OfChains.completes {store : Store} {history : History}
    (h : OfChains service store history) (hintact : store.Intact service) :
    store.Completes (completed store history) (afterFrom store history) := by
  induction history generalizing store with
  | nil => exact .of_same fun _ => rfl
  | cons call rest ih =>
    obtain ⟨⟨chain, -, hstep⟩, hrest, hafter⟩ := h.cons hintact
    rw [completed_cons]
    exact (hstep.completes hintact).append (ih hrest hafter)

end History

/-! ## Equal stores -/

namespace Store

variable {service : Service} {first second : Store}

/-- An entry is told by the buckets: it waits for the chains that have its id in their buckets. -/
theorem Mirrored.held?_of_waiting (hfirst : first.Mirrored) (hsecond : second.Mirrored)
    (h : ∀ chain version, first.waiting chain version = second.waiting chain version)
    {id : EntryId} {entry : UnbondingEntry} (hentry : first.held? id = some entry) :
    second.held? id = some entry := by
  have hawaits (chain : ChainId) (version : Version) :
      (∃ entry, first.held? id = some entry ∧ entry.version = version ∧
        chain ∈ entry.outstanding) ↔
      ∃ entry, second.held? id = some entry ∧ entry.version = version ∧
        chain ∈ entry.outstanding := by
    rw [← hfirst.mem_waiting, ← hsecond.mem_waiting, h]
  obtain ⟨chain, hchain⟩ := List.exists_mem_of_ne_nil _ (hfirst.outstanding_ne_nil id entry hentry)
  obtain ⟨other, hother, hversion, -⟩ :=
    (hawaits chain entry.version).1 ⟨entry, hentry, rfl, hchain⟩
  have hid : other.id = entry.id :=
    (hsecond.id_eq id other hother).trans (hfirst.id_eq id entry hentry).symm
  have houtstanding : other.outstanding = entry.outstanding := by
    refine ChainId.eq_of_mem_iff (fun chain => chain) (hsecond.sorted id other hother)
      (hfirst.sorted id entry hentry) fun chain => ?_
    have hiff := hawaits chain entry.version
    simp only [hentry, hother, Option.some_inj, exists_eq_left', hversion, true_and] at hiff
    exact hiff.symm
  obtain ⟨_, _, _⟩ := other
  obtain ⟨_, _, _⟩ := entry
  cases hid
  cases hversion
  cases houtstanding
  exact hother

/-- Stores with the same buckets hold the same entries. -/
theorem Mirrored.held?_eq (hfirst : first.Mirrored) (hsecond : second.Mirrored)
    (h : ∀ chain version, first.waiting chain version = second.waiting chain version)
    (id : EntryId) : first.held? id = second.held? id := by
  refine Option.ext fun entry => ⟨fun hentry => ?_, fun hentry => ?_⟩
  · exact hfirst.held?_of_waiting hsecond h hentry
  · exact hsecond.held?_of_waiting hfirst (fun chain version => (h chain version).symm) hentry

/-- Stores whose records can all be read and are the same are the same. -/
theorem WellFormed.eq_of_record?_eq (hfirst : first.WellFormed) (hsecond : second.WellFormed)
    (h : ∀ key, first.record? key = second.record? key) : first = second := by
  refine SortedMap.eq_of_get?_eq fun bytes => ?_
  by_cases hkey : ∃ key : Key, bytes = key.bytes
  · obtain ⟨key, rfl⟩ := hkey
    rw [(hfirst.sound key).get?_eq, (hsecond.sound key).get?_eq, h]
  · -- nothing is stored but under keys
    have hnone {store : Store} (hstore : store.WellFormed) : store.get? bytes = none := by
      cases hget : store.get? bytes with
      | none => rfl
      | some value =>
        obtain ⟨key, _, hbytes, -⟩ := hstore.typed bytes value hget
        exact absurd ⟨key, hbytes⟩ hkey
    rw [hnone hfirst, hnone hsecond]

/-- **Stores that agree on every chain are the same**, if what is about no chain is the same. -/
theorem eq_of_agreesOn (hfirst : first.Intact service) (hsecond : second.Intact service)
    (hagree : ∀ chain, AgreesOn service chain first second)
    (hunowned : ∀ key : Key, (∀ chain, ¬ key.OwnedBy service chain) → (∀ id, key ≠ .entry id) →
      first.record? key = second.record? key) : first = second := by
  refine hfirst.wellFormed.eq_of_record?_eq hsecond.wellFormed fun key => ?_
  by_cases hentry : ∃ id, key = .entry id
  · obtain ⟨id, rfl⟩ := hentry
    refine hfirst.mirrored.held?_eq hsecond.mirrored (fun chain version => ?_) id
    exact waiting_congr (hagree chain _ (.bucket version))
  · by_cases howned : ∃ chain, key.OwnedBy service chain
    · obtain ⟨chain, hkey⟩ := howned
      exact hagree chain key hkey
    · exact hunowned key (not_exists.1 howned) (not_exists.1 hentry)

end Store

/-! ## Calls of different chains commute -/

namespace History

/-- A history is made up of one sequence of calls for each chain, the calls of each chain in their
own order. -/
structure Interleaves (sequences : ChainId → History) (history : History) : Prop where
  /-- Every call is about a chain. -/
  chain : ∀ call ∈ history, ∃ chain, call.chain? = some chain
  /-- The calls that are about a chain are its own, in order. -/
  order : ∀ chain, (history.filter fun call => call.chain? = some chain) = sequences chain

/-- Two histories come to the same on a store. -/
structure SameEffect (store : Store) (first second : History) : Prop where
  /-- They leave the same store, byte for byte. -/
  store_eq : afterFrom store first = afterFrom store second
  /-- The calls of every chain, one by one, succeed or fail alike, with the same errors. -/
  verdicts_eq : ∀ chain, verdicts chain store first = verdicts chain store second
  /-- The acknowledgements together tell the same ids, each as often. -/
  completed_perm : (completed store first).Perm (completed store second)

/-- **Calls of different chains commute**: from every state that a run leaves, any two interleavings
of the chains' calls come to the same. -/
theorem sameEffect_after {service : Service} {run : Run Call}
    {sequences : ChainId → History} {first second : History}
    (hshared : ∀ call ∈ run.committed ++ first ++ second, call.service.SharesTransport service)
    (hrun : run.committed.Short) (hfirstShort : ShortFrom run.after first)
    (hsecondShort : ShortFrom run.after second) (hfirst : first.Interleaves sequences)
    (hsecond : second.Interleaves sequences) : SameEffect run.after first second := by
  obtain ⟨hboth, hsecondShared⟩ := List.forall_mem_append.1 hshared
  obtain ⟨hrunShared, hfirstShared⟩ := List.forall_mem_append.1 hboth
  have hintact : run.after.Intact service := by
    rw [run.after_eq]
    exact ⟨wellFormed_after hrun, bound_after hrunShared, mirrored_after hrun⟩
  have hone : OfChains service run.after first := ⟨hfirst.chain, hfirstShared, hfirstShort⟩
  have hother : OfChains service run.after second := ⟨hsecond.chain, hsecondShared, hsecondShort⟩
  have hlockstep (chain : ChainId) := lockstep hone hother hintact hintact (hfirst.order chain)
    (hsecond.order chain) (.refl run.after)
  have hstores : afterFrom run.after first = afterFrom run.after second := by
    refine Store.eq_of_agreesOn (hone.intact hintact) (hother.intact hintact)
      (fun chain => (hlockstep chain).1) fun key hkey hentry => ?_
    rw [hone.record?_of_unowned hintact hkey hentry, hother.record?_of_unowned hintact hkey hentry]
  refine ⟨hstores, fun chain => (hlockstep chain).2, ?_⟩
  exact (hone.completes hintact).perm (hstores ▸ hother.completes hintact)

/-- A transport with a channel to one chain and two to another. -/
def threeChannels : Service :=
  { Unbonding.twoChains with
    lookup := Unbonding.twoChains.lookup.withPath
      .provider ⟨"ch-2"⟩ ⟨"conn-2"⟩ ⟨"client-1"⟩ ⟨"foo"⟩ }

/-- Both chains are bound and two entries wait for them. -/
def waitingForBoth : Run Call :=
  [.direct ⟨threeChannels, .openConfirm 5 ⟨"ch-0"⟩⟩,
    .direct ⟨threeChannels, .openConfirm 6 ⟨"ch-1"⟩⟩,
    .direct ⟨threeChannels, .unbondingCreated ⟨9, "validator", 6⟩⟩,
    .direct ⟨threeChannels, .unbondingCreated ⟨7, "validator", 6⟩⟩]

/-- What each chain calls.  The one confirms a second channel, which is refused. -/
def chainCalls (chain : ChainId) : History :=
  if chain = ⟨"bar"⟩ then
    [⟨threeChannels, .acknowledgePacket ⟨"ch-0"⟩ ⟨0, ["token"]⟩⟩,
      ⟨threeChannels, .acknowledgePacket ⟨"ch-0"⟩ ⟨0, []⟩⟩]
  else if chain = ⟨"foo"⟩ then
    [⟨threeChannels, .openConfirm 7 ⟨"ch-2"⟩⟩, ⟨threeChannels, .acknowledgePacket ⟨"ch-1"⟩ ⟨0, []⟩⟩]
  else []

/-- Calls are an interleaving of the two sequences if they are so as far as either chain is
concerned. -/
theorem interleaves_chainCalls {history : History}
    (hcalls : ∀ call ∈ history, call.chain? = some ⟨"bar"⟩ ∨ call.chain? = some ⟨"foo"⟩)
    (hbar : (history.filter fun call => call.chain? = some ⟨"bar"⟩) = chainCalls ⟨"bar"⟩)
    (hfoo : (history.filter fun call => call.chain? = some ⟨"foo"⟩) = chainCalls ⟨"foo"⟩) :
    history.Interleaves chainCalls where
  chain call hcall := by
    rcases hcalls call hcall with hchain | hchain
    · exact ⟨_, hchain⟩
    · exact ⟨_, hchain⟩
  order chain := by
    by_cases hfirst : chain = ⟨"bar"⟩
    · exact hfirst ▸ hbar
    · by_cases hsecond : chain = ⟨"foo"⟩
      · exact hsecond ▸ hfoo
      · rw [chainCalls, if_neg hfirst, if_neg hsecond, List.filter_eq_nil_iff]
        intro call hcall
        rcases hcalls call hcall with hchain | hchain
        · simp [hchain, Ne.symm hfirst]
        · simp [hchain, Ne.symm hsecond]

/-- The calls of one chain, then those of the other. -/
def inBlocks : History := chainCalls ⟨"bar"⟩ ++ chainCalls ⟨"foo"⟩

/-- The calls of both chains in turn. -/
def inTurn : History :=
  [⟨threeChannels, .openConfirm 7 ⟨"ch-2"⟩⟩,
    ⟨threeChannels, .acknowledgePacket ⟨"ch-0"⟩ ⟨0, ["token"]⟩⟩,
    ⟨threeChannels, .acknowledgePacket ⟨"ch-1"⟩ ⟨0, []⟩⟩,
    ⟨threeChannels, .acknowledgePacket ⟨"ch-0"⟩ ⟨0, []⟩⟩]

/-- One chain after the other and both in turn come to the same, refusal and all. -/
theorem sameEffect_after_waitingForBoth :
    inBlocks.Interleaves chainCalls ∧ inTurn.Interleaves chainCalls ∧
      SameEffect waitingForBoth.after inBlocks inTurn ∧
      verdicts ⟨"foo"⟩ waitingForBoth.after inBlocks =
        [.error (.duplicateRegistration ⟨"foo"⟩ ⟨"ch-1"⟩ ⟨"ch-2"⟩), .ok ()] ∧
      completed waitingForBoth.after inBlocks = [9, 7] := by
  have hblocks : inBlocks.Interleaves chainCalls := by
    refine interleaves_chainCalls ?_ rfl rfl
    show ∀ call ∈ [_, _, _, _], _
    simp only [List.forall_mem_cons]
    exact ⟨.inl rfl, .inl rfl, .inr rfl, .inr rfl, List.forall_mem_nil _⟩
  have hturn : inTurn.Interleaves chainCalls := by
    refine interleaves_chainCalls ?_ rfl rfl
    simp only [inTurn, List.forall_mem_cons]
    exact ⟨.inr rfl, .inl rfl, .inr rfl, .inl rfl, List.forall_mem_nil _⟩
  have hshared : ∀ call ∈ waitingForBoth.committed ++ inBlocks ++ inTurn,
      call.service.SharesTransport threeChannels := by
    refine List.forall_mem_append.2 ⟨List.forall_mem_append.2 ⟨Run.forall_committed ?_, ?_⟩, ?_⟩
    · simp [waitingForBoth]
    · simp [inBlocks, chainCalls, or_imp, forall_and]
    · simp [inTurn]
  have hrun : waitingForBoth.committed.Short := by decide +kernel
  have hblocksShort : ShortFrom waitingForBoth.after inBlocks := by decide +kernel
  have hturnShort : ShortFrom waitingForBoth.after inTurn := by decide +kernel
  refine ⟨hblocks, hturn, ?_, by decide +kernel, by decide +kernel⟩
  exact sameEffect_after hshared hrun hblocksShort hturnShort hblocks hturn

end History
end SharedSecurity
