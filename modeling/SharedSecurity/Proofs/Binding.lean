import SharedSecurity.Proofs.History

/-!
# The binding of chains to channels

The registry keeps a binding in four places: the channel of a chain, the chain of a channel, the
height at which the chain was bound, and the status of the channel.  They are separate writes, made
in two paths, and the confirm stage overwrites a status without a look at the old one.  That they
never disagree rests on the transport: as long as it resolves a channel to the same chain every
time, the confirm stage only ever meets a channel that is bound to the chain it resolves to, or to
none.

* `Handshake.run_bind_of_resolved`, `Handshake.store_bind_cases` — all that a confirm can do.
* `Store.Bound` — the invariant, on records, with one lemma for each way to write a binding record.
* `Registry.Consistent`, `Registry.consistent_after` — **the invariant after every run**, in what
  the registry itself answers.  Of the channels to one chain at most one validates.
-/

set_option autoImplicit false
namespace SharedSecurity

open Transition

/-- Two providers are on one transport: it reports the same to both, and they bind the same port. -/
structure Service.SharesTransport (service other : Service) : Prop where
  /-- The reports are the same. -/
  lookup : service.lookup = other.lookup
  /-- The ports are the same. -/
  port : service.config.port = other.config.port

@[simp] theorem Service.SharesTransport.refl (service : Service) :
    service.SharesTransport service := ⟨rfl, rfl⟩

/-- Providers on one transport resolve a channel to the same chain. -/
theorem Service.SharesTransport.resolveChain_eq {service other : Service}
    (h : service.SharesTransport other) (channel : ChannelId) :
    Handshake.resolveChain service channel = Handshake.resolveChain other channel := by
  rw [Handshake.resolveChain, Handshake.resolveChain, h.lookup, h.port]

/-! ## The records of a binding -/

namespace Store

/-- The store after a channel is given a status. -/
def mark (store : Store) (channel : ChannelId) (status : ChannelStatus) : Store :=
  store.hold (.statusOf channel) status

/-- The store after a chain is bound to a channel at a height. -/
def bind (store : Store) (chain : ChainId) (channel : ChannelId) (height : Height) : Store :=
  (((store.hold (.channelOf chain) channel).hold (.chainOf channel) chain).hold
    (.initHeightOf chain) height).mark channel .validating

section

variable (store : Store) (chain : ChainId) (channel : ChannelId) (height : Height)
  (status : ChannelStatus)

@[simp] theorem channel?_mark (other : ChainId) :
    (store.mark channel status).channel? other = store.channel? other :=
  record?_hold_of_ne store (nofun : Key.channelOf other ≠ .statusOf channel) status

@[simp] theorem chain?_mark (other : ChannelId) :
    (store.mark channel status).chain? other = store.chain? other :=
  record?_hold_of_ne store (nofun : Key.chainOf other ≠ .statusOf channel) status

@[simp] theorem boundAt?_mark (other : ChainId) :
    (store.mark channel status).boundAt? other = store.boundAt? other :=
  record?_hold_of_ne store (nofun : Key.initHeightOf other ≠ .statusOf channel) status

theorem status?_mark (other : ChannelId) : (store.mark channel status).status? other =
    if other = channel then some status else store.status? other := by
  by_cases h : other = channel
  · rw [if_pos h, h]
    exact record?_hold_self store trivial
  · rw [if_neg h]
    exact record?_hold_of_ne store (fun heq => h (Key.statusOf.inj heq)) status

theorem channel?_bind (other : ChainId) : (store.bind chain channel height).channel? other =
    if other = chain then some channel else store.channel? other := by
  by_cases h : other = chain <;>
    simp [bind, mark, channel?, record?, get?_hold, Key.decode?, Key.encode, h]

theorem chain?_bind (other : ChannelId) : (store.bind chain channel height).chain? other =
    if other = channel then some chain else store.chain? other := by
  by_cases h : other = channel <;>
    simp [bind, mark, chain?, record?, get?_hold, Key.decode?, Key.encode, h]

theorem boundAt?_bind (other : ChainId) : (store.bind chain channel height).boundAt? other =
    if other = chain then some height else store.boundAt? other := by
  by_cases h : other = chain <;>
    simp [bind, mark, boundAt?, record?, get?_hold, Key.decode?, Key.encode, h]

theorem status?_bind (other : ChannelId) : (store.bind chain channel height).status? other =
    if other = channel then some .validating else store.status? other := by
  rw [bind, status?_mark]
  by_cases h : other = channel
  · rw [if_pos h, if_pos h]
  · simp [status?, record?_hold_of_ne]

end
end Store

/-! ## What a handshake does to a store -/

namespace Handshake

/-- What is given out for a channel that lost its race: a close request, if the provider holds a
ticket for the channel, and a report if it holds none or the request is refused. -/
def closing (service : Service) (channel : ChannelId) : List Output :=
  match service.capabilities service.config.port channel with
  | none => [.log (.capabilityMissing channel)]
  | some ticket =>
    .close service.config.port channel ::
      match service.closer service.config.port channel ticket with
      | .ok () => []
      | .error error => [.log (.closeFailed channel error)]

/-- What is given out when a channel is refused for another. -/
def refusal (service : Service) (chain : ChainId) (existing rejected : ChannelId) : List Output :=
  closing service rejected ++
    [.measure .duplicateRejected, .log (.duplicateRejected chain existing rejected)]

/-- A close request asks nothing of a store. -/
theorem run_closeLoser {σ : Type} [KeyValueStore σ] (service : Service) (channel : ChannelId)
    (store : σ) :
    (closeLoser service channel).run store = ⟨.ok (), store, closing service channel⟩ := by
  rw [closeLoser, closing]
  cases service.capabilities service.config.port channel with
  | none => rfl
  | some ticket =>
    cases hclose : service.closer service.config.port channel ticket with
    | ok answer =>
      simp only [requestClose, hclose]
      rfl
    | error error =>
      simp only [requestClose, hclose]
      rfl

theorem run_rejectDuplicate {α : Type} (service : Service) (chain : ChainId)
    (existing rejected : ChannelId) (store : Store) :
    (rejectDuplicate (α := α) service chain existing rejected).run store =
      ⟨.error (.duplicateRegistration chain existing rejected), store.mark rejected .invalid,
        refusal service chain existing rejected⟩ := by
  have hmark : (Registry.setStatus rejected .invalid).run store =
      ⟨.ok (), store.mark rejected .invalid, []⟩ := rfl
  rw [rejectDuplicate, run_bind_ok hmark, run_bind_ok (run_closeLoser service rejected _)]
  rfl

/-- **A confirm of a channel that resolves to a chain.** -/
theorem run_bind_of_resolved {service : Service} {channel : ChannelId} {chain : ChainId}
    (hresolve : resolveChain service channel = .ok chain) (height : Height) {store : Store}
    (h : store.Typed) : (bind service height channel).run store =
      match store.channel? chain with
      | none => ⟨.ok chain, store.bind chain channel height,
          [.measure .channelBound, .log (.channelBound chain channel height)]⟩
      | some existing =>
        if existing = channel then ⟨.ok chain, store, [.log (.channelAlreadyBound chain channel)]⟩
        else ⟨.error (.duplicateRegistration chain existing channel), store.mark channel .invalid,
          refusal service chain existing channel⟩ := by
  have hfound := Registry.run_channelOf (h.sound (.channelOf chain) fun _ => trivial)
  rw [bind, hresolve, run_bind_ok (run_ofExcept (.ok chain) store), run_bind_ok hfound]
  cases store.channel? chain with
  | none => rfl
  | some existing =>
    by_cases hsame : existing = channel
    · simp only [if_pos hsame]
      rfl
    · simp only [if_neg hsame, run_rejectDuplicate]
      rfl

/-- A confirm binds a chain that is free, leaves a chain that has the channel alone, and refuses a
chain that has another. -/
theorem run_bind_cases {service : Service} {channel : ChannelId} {chain : ChainId}
    (hresolve : resolveChain service channel = .ok chain) (height : Height) {store : Store}
    (h : store.Typed) : ∃ outputs,
      (store.channel? chain = none ∧ (bind service height channel).run store =
        ⟨.ok chain, store.bind chain channel height, outputs⟩) ∨
      (store.channel? chain = some channel ∧ (bind service height channel).run store =
        ⟨.ok chain, store, outputs⟩) ∨
      (∃ existing, store.channel? chain = some existing ∧ existing ≠ channel ∧
        (bind service height channel).run store =
          ⟨.error (.duplicateRegistration chain existing channel), store.mark channel .invalid,
            outputs⟩) := by
  have hrun := run_bind_of_resolved hresolve height h
  cases hrecord : store.channel? chain with
  | none =>
    rw [hrecord] at hrun
    exact ⟨_, .inl ⟨rfl, hrun⟩⟩
  | some existing =>
    rw [hrecord] at hrun
    by_cases hsame : existing = channel
    · exact ⟨_, .inr (.inl ⟨congrArg some hsame, hrun.trans (if_pos hsame)⟩)⟩
    · exact ⟨_, .inr (.inr ⟨existing, rfl, hsame, hrun.trans (if_neg hsame)⟩)⟩

/-- A confirm of a channel that resolves to no chain. -/
theorem run_bind_of_unresolved {service : Service} {channel : ChannelId} {error : ProviderError}
    (hresolve : resolveChain service channel = .error error) (height : Height) (store : Store) :
    (bind service height channel).run store = ⟨.error error, store, []⟩ := by
  rw [bind, hresolve, run_bind_error (run_ofExcept (.error error) store)]

/-- **All that a confirm can do to a store.**  It leaves the store alone, or marks the channel of a
race that is lost, or binds a chain that is free. -/
theorem store_bind_cases (service : Service) (height : Height) (channel : ChannelId)
    {store : Store} (h : store.Typed) :
    ((bind service height channel).run store).store = store ∨
      ∃ chain, resolveChain service channel = .ok chain ∧
        ((∃ existing, store.channel? chain = some existing ∧ existing ≠ channel ∧
            ((bind service height channel).run store).store =
              store.mark channel .invalid) ∨
          (store.channel? chain = none ∧
            ((bind service height channel).run store).store =
              store.bind chain channel height)) := by
  cases hresolve : resolveChain service channel with
  | error error =>
    left
    rw [run_bind_of_unresolved hresolve]
  | ok chain =>
    obtain ⟨outputs, ⟨hfree, hrun⟩ | ⟨-, hrun⟩ | ⟨existing, hfound, hne, hrun⟩⟩ :=
      run_bind_cases hresolve height h
    · exact .inr ⟨chain, rfl, .inr ⟨hfree, congrArg Outcome.store hrun⟩⟩
    · exact .inl (congrArg Outcome.store hrun)
    · exact .inr ⟨chain, rfl, .inl ⟨existing, hfound, hne, congrArg Outcome.store hrun⟩⟩

end Handshake

theorem Call.after_openConfirm (service : Service) (height : Height) (channel : ChannelId)
    (store : Store) : Call.after ⟨service, .openConfirm height channel⟩ store =
      ((Handshake.bind service height channel).run store).store := by
  show ((Handshake.bind service height channel >>= fun _ => pure ()).run store).store = _
  rw [run_bind]
  cases hresult : ((Handshake.bind service height channel).run store).result <;>
    simp [Outcome.andThen, hresult, Outcome.prepend]

/-- All that the start of a handshake can do. -/
theorem Registry.store_markInitializing_cases (channel : ChannelId) {store : Store}
    (h : store.Typed) :
    ((markInitializing channel).run store).store = store ∨
      ((store.status? channel).getD .uninitialized = .uninitialized ∧
        ((markInitializing channel).run store).store =
          store.mark channel .initializing) := by
  have hstatus := run_status (h.sound (.statusOf channel) fun _ => trivial)
  rw [markInitializing, run_bind_ok hstatus]
  cases (store.status? channel).getD .uninitialized with
  | uninitialized => exact .inr ⟨rfl, rfl⟩
  | initializing => exact .inl rfl
  | validating => exact .inl rfl
  | invalid => exact .inl rfl

/-! ## The invariant on records -/

namespace Store

variable {store : Store} {chain : ChainId} {channel : ChannelId}

/-- The records of bindings agree with each other and with what a transport resolves. -/
structure Bound (service : Service) (store : Store) : Prop where
  /-- The two directions of a binding are the same. -/
  mirror : ∀ chain channel, store.channel? chain = some channel ↔ store.chain? channel = some chain
  /-- A channel is bound to the chain it resolves to. -/
  resolved : ∀ chain channel, store.chain? channel = some chain →
    Handshake.resolveChain service channel = .ok chain
  /-- The channels that validate are the bound ones. -/
  validating : ∀ channel, store.status? channel = some .validating ↔ (store.chain? channel).isSome
  /-- The chains with a height are the bound ones. -/
  height : ∀ chain, (store.boundAt? chain).isSome ↔ (store.channel? chain).isSome
  /-- An invalid channel lost its chain to another. -/
  invalid : ∀ channel, store.status? channel = some .invalid →
    ∃ chain winner, Handshake.resolveChain service channel = .ok chain ∧
      store.channel? chain = some winner ∧ winner ≠ channel

namespace Bound

variable {service : Service}

theorem empty : Bound service .empty where
  mirror _ _ := ⟨nofun, nofun⟩
  resolved _ _ := nofun
  validating _ := ⟨nofun, nofun⟩
  height _ := Iff.rfl
  invalid _ := nofun

/-- A channel that resolves to a chain of another channel, or of none, is not bound. -/
theorem chain?_eq_none (h : store.Bound service)
    (hresolve : Handshake.resolveChain service channel = .ok chain)
    (hchain : store.channel? chain ≠ some channel) : store.chain? channel = none := by
  cases hbound : store.chain? channel with
  | none => rfl
  | some other =>
    have hother := h.resolved _ _ hbound
    rw [hresolve] at hother
    obtain rfl := Except.ok.inj hother
    exact absurd ((h.mirror _ _).2 hbound) hchain

/-- A channel that validates is the one its chain is bound to. -/
theorem channel?_eq_some (h : store.Bound service)
    (hresolve : Handshake.resolveChain service channel = .ok chain)
    (hstatus : store.status? channel = some .validating) :
    store.channel? chain = some channel := by
  obtain ⟨found, hfound⟩ := Option.isSome_iff_exists.1 ((h.validating channel).1 hstatus)
  have hother := h.resolved _ _ hfound
  rw [hresolve] at hother
  rw [h.mirror, hfound, Except.ok.inj hother]

/-- The channel of a chain validates. -/
theorem status?_eq_validating (h : store.Bound service)
    (hchannel : store.channel? chain = some channel) :
    store.status? channel = some .validating := by
  rw [h.validating, (h.mirror _ _).1 hchannel]
  rfl

/-- Marking a channel that is not bound, as anything but validating, keeps the invariant, if a
channel marked invalid did lose its chain. -/
theorem mark (h : store.Bound service) {status : ChannelStatus}
    (hfree : store.chain? channel = none) (hstatus : status ≠ .validating)
    (hlost : status = .invalid → ∃ chain winner,
      Handshake.resolveChain service channel = .ok chain ∧
        store.channel? chain = some winner ∧ winner ≠ channel) :
    (store.mark channel status).Bound service where
  mirror chain other := by
    rw [channel?_mark, chain?_mark]
    exact h.mirror chain other
  resolved chain other := by
    rw [chain?_mark]
    exact h.resolved chain other
  validating other := by
    rw [status?_mark, chain?_mark]
    by_cases heq : other = channel
    · subst heq
      simp [hfree, hstatus]
    · rw [if_neg heq]
      exact h.validating other
  height chain := by
    rw [boundAt?_mark, channel?_mark]
    exact h.height chain
  invalid other hother := by
    simp only [channel?_mark]
    rw [status?_mark] at hother
    by_cases heq : other = channel
    · subst heq
      rw [if_pos rfl] at hother
      exact hlost (Option.some.inj hother)
    · rw [if_neg heq] at hother
      exact h.invalid other hother

/-- Binding a free chain to a channel that resolves to it keeps the invariant. -/
theorem bind (h : store.Bound service)
    (hresolve : Handshake.resolveChain service channel = .ok chain)
    (hfree : store.channel? chain = none) (height : Height) :
    (store.bind chain channel height).Bound service where
  mirror other candidate := by
    have hnone : store.chain? channel = none :=
      h.chain?_eq_none hresolve (by rw [hfree]; exact nofun)
    rw [channel?_bind, chain?_bind]
    by_cases hother : other = chain <;> by_cases hcandidate : candidate = channel
    · simp [hother, hcandidate]
    · have hne : store.chain? candidate ≠ some chain := by
        rw [Ne, ← h.mirror, hfree]
        exact nofun
      simp [hother, hcandidate, hne, Ne.symm hcandidate]
    · have hne : store.channel? other ≠ some channel := by
        rw [Ne, h.mirror, hnone]
        exact nofun
      simp [hother, hcandidate, hne, Ne.symm hother]
    · rw [if_neg hother, if_neg hcandidate]
      exact h.mirror other candidate
  resolved other candidate hbound := by
    rw [chain?_bind] at hbound
    by_cases hcandidate : candidate = channel
    · rw [if_pos hcandidate, Option.some_inj] at hbound
      rw [hcandidate, hresolve, hbound]
    · rw [if_neg hcandidate] at hbound
      exact h.resolved other candidate hbound
  validating candidate := by
    rw [status?_bind, chain?_bind]
    by_cases hcandidate : candidate = channel
    · simp [hcandidate]
    · rw [if_neg hcandidate, if_neg hcandidate]
      exact h.validating candidate
  height other := by
    rw [boundAt?_bind, channel?_bind]
    by_cases hother : other = chain
    · simp [hother]
    · rw [if_neg hother, if_neg hother]
      exact h.height other
  invalid candidate hinvalid := by
    rw [status?_bind] at hinvalid
    by_cases hcandidate : candidate = channel
    · simp [hcandidate] at hinvalid
    · rw [if_neg hcandidate] at hinvalid
      obtain ⟨lost, winner, hlost, hwinner, hne⟩ := h.invalid candidate hinvalid
      refine ⟨lost, winner, hlost, ?_, hne⟩
      -- the chain that was lost is bound already, so it is not the one bound now
      rw [channel?_bind, if_neg, hwinner]
      rintro rfl
      rw [hfree] at hwinner
      cases hwinner

/-- The invariant is about the records of bindings only. -/
theorem congr {after : Store} (h : store.Bound service)
    (hchannel : ∀ chain, after.channel? chain = store.channel? chain)
    (hchain : ∀ channel, after.chain? channel = store.chain? channel)
    (hheight : ∀ chain, after.boundAt? chain = store.boundAt? chain)
    (hstatus : ∀ channel, after.status? channel = store.status? channel) :
    after.Bound service where
  mirror chain channel := by
    rw [hchannel, hchain]
    exact h.mirror chain channel
  resolved chain channel := by
    rw [hchain]
    exact h.resolved chain channel
  validating channel := by
    rw [hstatus, hchain]
    exact h.validating channel
  height chain := by
    rw [hheight, hchannel]
    exact h.height chain
  invalid channel := by
    rw [hstatus]
    simp only [hchannel]
    exact h.invalid channel

end Bound
end Store

/-! ## Every call keeps it -/

/-- The keys that say what is bound. -/
def Key.IsBinding : Key → Prop
  | channelOf _ => True
  | chainOf _ => True
  | initHeightOf _ => True
  | statusOf _ => True
  | _ => False

/-- Only the start of a handshake and its confirmation write records of bindings. -/
theorem Operation.not_footprint_of_isBinding {operation : Operation}
    (hinit : ∀ channel, operation ≠ .openInit channel)
    (hconfirm : ∀ height channel, operation ≠ .openConfirm height channel) {key : Key}
    (hkey : key.IsBinding) : ¬ operation.footprint key := by
  cases operation with
  | openInit channel => exact absurd rfl (hinit channel)
  | openConfirm height channel => exact absurd rfl (hconfirm height channel)
  | _ =>
    intro hwrite
    cases key <;> first
      | exact hkey
      | simp [footprint] at hwrite

/-- A call that starts or confirms no handshake leaves the records of bindings alone. -/
theorem Call.record?_after_of_isBinding {call : Call} (key : Key) (hkey : key.IsBinding)
    (store : Store) (hinit : ∀ channel, call.operation ≠ .openInit channel)
    (hconfirm : ∀ height channel, call.operation ≠ .openConfirm height channel) :
    (call.after store).record? key = store.record? key :=
  call.record?_after (Operation.not_footprint_of_isBinding hinit hconfirm hkey) store

/-- **A binding stays.**  Whatever is called, by any provider, a chain keeps its channel. -/
theorem Call.channel?_after {store : Store} (htyped : store.Typed) (call : Call) {chain : ChainId}
    {channel : ChannelId} (h : store.channel? chain = some channel) :
    (call.after store).channel? chain = some channel := by
  obtain ⟨service, operation⟩ := call
  cases operation with
  | openInit opened =>
    show ((Registry.markInitializing opened).run store).store.channel? chain = _
    rcases Registry.store_markInitializing_cases opened htyped with hsame | ⟨-, hmark⟩
    · rw [hsame, h]
    · rw [hmark, Store.channel?_mark, h]
  | openConfirm height opened =>
    rw [after_openConfirm]
    rcases Handshake.store_bind_cases service height opened htyped with
      hsame | ⟨bound, -, ⟨existing, -, -, hmark⟩ | ⟨hfree, hbind⟩⟩
    · rw [hsame, h]
    · rw [hmark, Store.channel?_mark, h]
    · rw [hbind, Store.channel?_bind, if_neg, h]
      rintro rfl
      rw [hfree] at h
      cases h
  | _ =>
    rw [← h]
    exact record?_after_of_isBinding (.channelOf chain) trivial store (fun _ => nofun)
      fun _ _ => nofun

/-- **A binding stays**, whatever is called. -/
theorem History.channel?_afterFrom {store : Store} (htyped : store.Typed) (calls : History)
    {chain : ChainId} {channel : ChannelId} (h : store.channel? chain = some channel) :
    (afterFrom store calls).channel? chain = some channel := by
  induction calls generalizing store with
  | nil => exact h
  | cons call rest ih =>
    exact ih (typed_run (call.service.perform_within call.operation) htyped)
      (call.channel?_after htyped h)

namespace Store.Bound

variable {service : Service} {store : Store}

/-- A call that starts or confirms no handshake. -/
theorem frame (h : store.Bound service) (call : Call)
    (hinit : ∀ channel, call.operation ≠ .openInit channel)
    (hconfirm : ∀ height channel, call.operation ≠ .openConfirm height channel) :
    (call.after store).Bound service := by
  have hkeep (key : Key) (hkey : key.IsBinding) :
      (call.after store).record? key = store.record? key :=
    Call.record?_after_of_isBinding key hkey store hinit hconfirm
  exact h.congr (fun chain => hkeep (.channelOf chain) trivial)
    (fun channel => hkeep (.chainOf channel) trivial)
    (fun chain => hkeep (.initHeightOf chain) trivial)
    fun channel => hkeep (.statusOf channel) trivial

/-- The start of a handshake. -/
theorem openInit (h : store.Bound service) (htyped : store.Typed) (provider : Service)
    (channel : ChannelId) : (Call.after ⟨provider, .openInit channel⟩ store).Bound service := by
  show ((Registry.markInitializing channel).run store).store.Bound service
  rcases Registry.store_markInitializing_cases channel htyped with hsame | ⟨hstatus, hmark⟩
  · rw [hsame]
    exact h
  · rw [hmark]
    refine h.mark ?_ nofun nofun
    rw [← Option.not_isSome_iff_eq_none, ← h.validating]
    intro hvalidating
    rw [hvalidating] at hstatus
    cases hstatus

/-- The confirmation of a handshake. -/
theorem openConfirm (h : store.Bound service) (htyped : store.Typed) {provider : Service}
    (hprovider : provider.SharesTransport service) (height : Height) (channel : ChannelId) :
    (Call.after ⟨provider, .openConfirm height channel⟩ store).Bound service := by
  rw [Call.after_openConfirm]
  rcases Handshake.store_bind_cases provider height channel htyped with
    hsame | ⟨chain, hresolve, ⟨existing, hexisting, hne, hmark⟩ | ⟨hfree, hbind⟩⟩
  · rw [hsame]
    exact h
  · rw [hprovider.resolveChain_eq] at hresolve
    have hlost : store.channel? chain ≠ some channel := by
      rw [hexisting]
      exact fun heq => hne (Option.some.inj heq)
    rw [hmark]
    exact h.mark (h.chain?_eq_none hresolve hlost) nofun
      fun _ => ⟨chain, existing, hresolve, hexisting, hne⟩
  · rw [hprovider.resolveChain_eq] at hresolve
    rw [hbind]
    exact h.bind hresolve hfree height

/-- **Every call keeps the bindings in order.** -/
theorem after_call (h : store.Bound service) (htyped : store.Typed) (call : Call)
    (hcall : call.service.SharesTransport service) : (call.after store).Bound service := by
  obtain ⟨provider, operation⟩ := call
  cases operation with
  | openInit channel => exact h.openInit htyped provider channel
  | openConfirm height channel => exact h.openConfirm htyped hcall height channel
  | _ => exact h.frame _ (fun _ => nofun) fun _ _ => nofun

end Store.Bound

/-- Calls on one transport leave the bindings in order. -/
theorem History.bound_after {service : Service} {history : History}
    (h : ∀ call ∈ history, call.service.SharesTransport service) :
    (after history).Bound service := by
  induction history using induction with
  | nil => exact .empty
  | snoc past call ih =>
    obtain ⟨hpast, hcall⟩ := List.forall_mem_append.1 h
    rw [after_snoc]
    exact (ih hpast).after_call (typed_after past) call (hcall call (List.mem_singleton_self call))

/-! ## What the registry answers -/

namespace Registry

/-- What the registry answers about bindings agrees with itself and with the transport. -/
structure Consistent (service : Service) (store : Store) : Prop where
  /-- The channel of every chain can be read. -/
  channelOf_reads : ∀ chain, ∃ found, (channelOf chain).Tells store found
  /-- The chain of every channel can be read. -/
  chainOf_reads : ∀ channel, ∃ found, (chainOf channel).Tells store found
  /-- The status of every channel can be read. -/
  status_reads : ∀ channel, ∃ found, (status channel).Tells store found
  /-- A chain has a channel exactly if the channel has the chain. -/
  mirror : ∀ chain channel, (channelOf chain).Tells store (some channel) ↔
    (chainOf channel).Tells store (some chain)
  /-- The chain of a channel is the one the transport resolves it to. -/
  resolved : ∀ chain channel, (chainOf channel).Tells store (some chain) →
    Handshake.resolveChain service channel = .ok chain
  /-- A channel validates exactly if it is bound. -/
  validating : ∀ channel, (status channel).Tells store .validating ↔
    ∃ chain, (chainOf channel).Tells store (some chain)
  /-- A chain has a height exactly if it is bound. -/
  height : ∀ chain,
    (∃ height, (Stored.word? "init chain height" (.initHeightOf chain)).Tells store (some height)) ↔
      ∃ channel, (channelOf chain).Tells store (some channel)
  /-- An invalid channel resolves to a chain that is bound to another. -/
  invalid : ∀ channel, (status channel).Tells store .invalid →
    ∃ chain winner, Handshake.resolveChain service channel = .ok chain ∧
      (channelOf chain).Tells store (some winner) ∧ winner ≠ channel
  /-- Of the channels that resolve to one chain at most one validates. -/
  unique : ∀ chain channel other, Handshake.resolveChain service channel = .ok chain →
    Handshake.resolveChain service other = .ok chain →
    (status channel).Tells store .validating → (status other).Tells store .validating →
    channel = other

variable {store : Store}

theorem tells_channelOf (h : store.Typed) {chain : ChainId} {found : Option ChannelId} :
    (channelOf chain).Tells store found ↔ store.channel? chain = found :=
  tells_iff (run_channelOf (h.sound (.channelOf chain) fun _ => trivial))

theorem tells_chainOf (h : store.Typed) {channel : ChannelId} {found : Option ChainId} :
    (chainOf channel).Tells store found ↔ store.chain? channel = found :=
  tells_iff (run_chainOf (h.sound (.chainOf channel) fun _ => trivial))

theorem tells_initHeight (h : store.Typed) {chain : ChainId} {found : Option Height} :
    (Stored.word? "init chain height" (.initHeightOf chain)).Tells store found ↔
      store.boundAt? chain = found := by
  have hrun := Stored.run_read? (.initHeightOf chain) id
    (fun record _ => Stored.decodeWord_ofWord "init chain height" record)
    (h.sound (.initHeightOf chain) fun _ => trivial)
  rw [Option.map_id_fun] at hrun
  exact tells_iff hrun

/-- A status other than the default is told exactly if it is recorded. -/
theorem tells_status (h : store.Typed) {channel : ChannelId} {found : ChannelStatus}
    (hfound : found ≠ .uninitialized) :
    (status channel).Tells store found ↔ store.status? channel = some found := by
  rw [tells_iff (run_status (h.sound (.statusOf channel) fun _ => trivial))]
  cases store.status? channel with
  | none => simp [hfound.symm]
  | some recorded => simp

theorem tells_validating (h : store.Typed) {channel : ChannelId} :
    (status channel).Tells store .validating ↔ store.status? channel = some .validating :=
  tells_status h nofun

theorem tells_invalid (h : store.Typed) {channel : ChannelId} :
    (status channel).Tells store .invalid ↔ store.status? channel = some .invalid :=
  tells_status h nofun

theorem tells_client (h : store.Typed) {chain : ChainId} {found : Option ClientId} :
    (client? chain).Tells store found ↔ store.client? chain = found :=
  tells_iff (run_client? (h.sound (.clientOf chain) fun _ => trivial))

/-- The invariant on records, as the registry's own answers. -/
theorem consistent_of_bound {service : Service} (h : store.Bound service)
    (htyped : store.Typed) : Consistent service store where
  channelOf_reads chain := ⟨_, (tells_channelOf htyped).2 rfl⟩
  chainOf_reads channel := ⟨_, (tells_chainOf htyped).2 rfl⟩
  status_reads channel := by
    have hrun := run_status (htyped.sound (.statusOf channel) fun _ => trivial)
    exact ⟨_, (tells_iff hrun).2 rfl⟩
  mirror chain channel := by
    rw [tells_channelOf htyped, tells_chainOf htyped]
    exact h.mirror chain channel
  resolved chain channel hbound := h.resolved chain channel ((tells_chainOf htyped).1 hbound)
  validating channel := by
    simp only [tells_chainOf htyped]
    rw [tells_validating htyped, h.validating, Option.isSome_iff_exists]
  height chain := by
    simp only [tells_initHeight htyped, tells_channelOf htyped]
    rw [← Option.isSome_iff_exists, h.height, Option.isSome_iff_exists]
  invalid channel hinvalid := by
    simp only [tells_channelOf htyped]
    exact h.invalid channel ((tells_invalid htyped).1 hinvalid)
  unique chain channel other hchannel hother hone htwo := by
    have hfirst := h.channel?_eq_some hchannel ((tells_validating htyped).1 hone)
    have hsecond := h.channel?_eq_some hother ((tells_validating htyped).1 htwo)
    exact Option.some.inj (hfirst.symm.trans hsecond)

/-- **The binding invariant.**  After every run of calls on one transport, direct or in
transactions, successful or failing, the registry's answers about bindings are consistent. -/
theorem consistent_after {service : Service} {run : Run Call}
    (h : ∀ call ∈ run.committed, call.service.SharesTransport service) :
    Consistent service run.after := by
  have hbound : run.committed.after.Bound service := History.bound_after h
  rw [run.after_eq]
  exact consistent_of_bound hbound (History.typed_after run.committed)

/-- A provider on a transport with two channels to one chain. -/
def racedProvider : Service where
  lookup := (Lookup.empty.withPath .provider ⟨"ch-0"⟩ ⟨"conn-0"⟩ ⟨"client-0"⟩ ⟨"foo"⟩).withPath
    .provider ⟨"ch-1"⟩ ⟨"conn-1"⟩ ⟨"client-0"⟩ ⟨"foo"⟩
  closer := .accepting
  capabilities := .granting []

/-- Both channels are confirmed.  The second is refused, in a transaction that is committed all the
same. -/
def race : Run Call :=
  [.direct ⟨racedProvider, .openConfirm 5 ⟨"ch-0"⟩⟩,
    .execute ⟨.make ⟨racedProvider, .openConfirm 6 ⟨"ch-1"⟩⟩ fun _ => .stop (.ok ()),
      fun _ _ => none⟩]

/-- The race shares one transport, and its loser is invalid. -/
theorem consistent_after_race :
    (∀ call ∈ race.committed, call.service.SharesTransport racedProvider) ∧
      Consistent racedProvider race.after ∧ (status ⟨"ch-1"⟩).Tells race.after .invalid := by
  have hshared : ∀ call ∈ race.committed, call.service.SharesTransport racedProvider := by
    apply Run.forall_committed
    simp [race]
  exact ⟨hshared, consistent_after hshared, by decide +kernel⟩

end Registry
end SharedSecurity
