import SharedSecurity.Proofs.Mirror

/-!
# The gate over whole histories

Staking asks the gate one thing: whether an entry is stored.  What the answer should mean is a
statement about everything that happened before: some creation of the entry still waits for a chain
that was bound then to acknowledge the version that was current then.

* `History.AwaitsFor` — that statement for one chain and version, and `History.awaitsFor_snoc`, how
  one more call changes it.
* `History.awaitsFor_iff` — **what is stored is what is awaited.**  The stored entry is a summary of
  the history, and each kind of call changes both alike.
* `History.ordered` — every bucket is in order of creation.
* `Unbonding.GateExact`, `Unbonding.gateExact_after` — the gate over whole runs: when it is closed,
  what an acknowledgement releases and in what order, and that nothing is released twice.
-/

set_option autoImplicit false
namespace SharedSecurity

open Transition

/-! ## Events -/

namespace Call

/-- The call is a creation of the entry and succeeds. -/
def Created (call : Call) (store : Store) (id : EntryId) : Prop :=
  ∃ service notice, call = ⟨service, .unbondingCreated notice⟩ ∧ notice.id = id ∧
    (service.unbondingCreated notice).Tells store ()

/-- The call creates the entry while a version is current and a chain is bound. -/
def CreatedFor (call : Call) (store : Store) (id : EntryId) (version : Version)
    (chain : ChainId) : Prop :=
  call.Created store id ∧ Versioning.current.Tells store version ∧
    ∃ channel, (Registry.channelOf chain).Tells store (some channel)

/-- The call is an acknowledgement of a version on the channel bound to a chain and succeeds. -/
def Acked (call : Call) (store : Store) (chain : ChainId) (version : Version) : Prop :=
  ∃ service channel ack ids, call = ⟨service, .acknowledgePacket channel ack⟩ ∧
    ack.version = version ∧ (Registry.channelOf chain).Tells store (some channel) ∧
    (service.acknowledgePacket channel ack).Tells store ids

/-- The call is an acknowledgement and tells that the entry is released. -/
def Released (call : Call) (store : Store) (id : EntryId) : Prop :=
  ∃ service channel ack ids, call = ⟨service, .acknowledgePacket channel ack⟩ ∧
    (service.acknowledgePacket channel ack).Tells store ids ∧ id ∈ ids

theorem createdFor_iff {call : Call} {store : Store} (hstore : store.WellFormed) {id : EntryId}
    {version : Version} {chain : ChainId} : call.CreatedFor store id version chain ↔
      call.Created store id ∧ store.version = version ∧ chain ∈ store.boundChains := by
  rw [CreatedFor, tells_iff (Versioning.run_current (hstore.sound _)),
    Store.mem_boundChains hstore.typed, Option.isSome_iff_exists]
  simp only [Registry.tells_channelOf hstore.typed]

end Call

namespace History

/-- An event happens in later calls, made after those of the past. -/
def Happens (event : Call → Store → Prop) (past later : History) : Prop :=
  ∃ between call rest, later = between ++ call :: rest ∧ event call (after (past ++ between))

/-- Some creation of the entry, made when a version was current and a chain was bound, has not seen
that chain acknowledge that version since. -/
def AwaitsFor (history : History) (id : EntryId) (version : Version) (chain : ChainId) : Prop :=
  ∃ past creation since, history = past ++ creation :: since ∧
    creation.CreatedFor (after past) id version chain ∧
    ¬ Happens (fun call store => call.Acked store chain version) (past ++ [creation]) since

/-- Some creation of the entry waits for some chain. -/
def Awaits (history : History) (id : EntryId) : Prop :=
  ∃ version chain, history.AwaitsFor id version chain

/-- The last creation of an entry comes before the last creation of another. -/
def CreatedBefore (history : History) (id other : EntryId) : Prop :=
  ∃ first later, history = first ++ later ∧
    Happens (fun call store => call.Created store id) [] first ∧
    ¬ Happens (fun call store => call.Created store id) first later ∧
    Happens (fun call store => call.Created store other) first later

/-! ### One more call -/

/-- A list with one more element at its end, split at an element: it is the last one, or it comes
earlier. -/
theorem snoc_eq_append_cons_iff {α : Type} {xs left right : List α} {last x : α} :
    xs ++ [last] = left ++ x :: right ↔ (left = xs ∧ x = last ∧ right = []) ∨
      ∃ rest, right = rest ++ [last] ∧ xs = left ++ x :: rest := by
  rcases List.eq_nil_or_concat right with rfl | ⟨rest, final, rfl⟩
  · refine ⟨fun h => .inl ?_, ?_⟩
    · obtain ⟨hxs, hlast⟩ := List.append_inj' h rfl
      exact ⟨hxs.symm, (List.cons.inj hlast).1.symm, rfl⟩
    · rintro (⟨rfl, rfl, -⟩ | ⟨rest, hrest, -⟩)
      · rfl
      · simp at hrest
  · have hassoc : left ++ x :: (rest ++ [final]) = (left ++ x :: rest) ++ [final] := by simp
    rw [List.concat_eq_append, hassoc]
    refine ⟨fun h => .inr ?_, ?_⟩
    · obtain ⟨hxs, hlast⟩ := List.append_inj' h rfl
      exact ⟨rest, by rw [(List.cons.inj hlast).1], hxs⟩
    · rintro (⟨-, -, hnil⟩ | ⟨other, hother, rfl⟩)
      · simp at hnil
      · obtain ⟨rfl, hlast⟩ := List.append_inj' hother rfl
        rw [(List.cons.inj hlast).1]

variable {event : Call → Store → Prop} {past later : History} {call : Call}

theorem not_happens_nil : ¬ Happens event past [] :=
  fun ⟨_, _, _, hnil, _⟩ => by simp at hnil

theorem happens_snoc : Happens event past (later ++ [call]) ↔
    Happens event past later ∨ event call (after (past ++ later)) := by
  constructor
  · rintro ⟨between, found, rest, heq, hevent⟩
    rcases snoc_eq_append_cons_iff.1 heq with ⟨rfl, rfl, -⟩ | ⟨tail, -, rfl⟩
    · exact .inr hevent
    · exact .inl ⟨between, found, tail, rfl, hevent⟩
  · rintro (⟨between, found, rest, rfl, hevent⟩ | hevent)
    · exact ⟨between, found, rest ++ [call], by simp, hevent⟩
    · exact ⟨later, call, [], rfl, hevent⟩

/-- **How one more call changes what is awaited.** -/
theorem awaitsFor_snoc {id : EntryId} {version : Version} {chain : ChainId} :
    AwaitsFor (past ++ [call]) id version chain ↔
      call.CreatedFor (after past) id version chain ∨
        (past.AwaitsFor id version chain ∧ ¬ call.Acked (after past) chain version) := by
  constructor
  · rintro ⟨before, creation, since, heq, hcreated, hnever⟩
    rcases snoc_eq_append_cons_iff.1 heq with ⟨rfl, rfl, -⟩ | ⟨rest, rfl, rfl⟩
    · exact .inl hcreated
    · rw [happens_snoc, not_or] at hnever
      refine .inr ⟨⟨before, creation, rest, rfl, hcreated, hnever.1⟩, ?_⟩
      rw [List.append_cons]
      exact hnever.2
  · rintro (hcreated | ⟨⟨before, creation, since, rfl, hcreated, hnever⟩, hack⟩)
    · exact ⟨past, call, [], rfl, hcreated, not_happens_nil⟩
    · refine ⟨before, creation, since ++ [call], by simp, hcreated, ?_⟩
      rw [happens_snoc, not_or]
      refine ⟨hnever, ?_⟩
      rw [List.append_cons] at hack
      exact hack

end History

/-! ## What is stored is what is awaited -/

namespace GateStep

variable {service : Service} {store after : Store} {call : Call}

/-- An entry that is created was not held. -/
theorem held?_eq_none_of_created (h : GateStep store call after) {id : EntryId}
    (hcreated : call.Created store id) : store.held? id = none := by
  obtain ⟨provider, notice, rfl, rfl, htells⟩ := hcreated
  cases h with
  | gated _ hfree => exact hfree
  | idle _ _ hcreated => exact (hcreated _ _ rfl htells).1

/-- **Each kind of call changes what is stored as it changes what is awaited.** -/
theorem awaits_iff (h : GateStep store call after) (hstore : store.WellFormed)
    (hbound : store.Bound service) (hmirrored : store.Mirrored) {id : EntryId} {version : Version}
    {chain : ChainId} :
    (∃ entry, after.held? id = some entry ∧ entry.version = version ∧
        chain ∈ entry.outstanding) ↔
      call.CreatedFor store id version chain ∨
        ((∃ entry, store.held? id = some entry ∧ entry.version = version ∧
          chain ∈ entry.outstanding) ∧ ¬ call.Acked store chain version) := by
  rw [Call.createdFor_iff hstore]
  cases h with
  | @gated provider notice _ htells hfree _ hleft =>
    have hcreated : Call.Created ⟨provider, .unbondingCreated notice⟩ store id ↔
        notice.id = id := by
      refine ⟨?_, fun hid => ⟨provider, notice, rfl, hid, htells⟩⟩
      rintro ⟨_, _, ⟨⟩, hid, -⟩
      exact hid
    have hack : ¬ Call.Acked ⟨provider, .unbondingCreated notice⟩ store chain version :=
      fun ⟨_, _, _, _, heq, _⟩ => nomatch heq
    rw [hcreated]
    by_cases hid : id = notice.id
    · subst hid
      rw [hleft.held, hfree]
      simp
    · rw [hleft.held_of_ne id hid]
      simp [hack, Ne.symm hid]
  | @acknowledged provider channel ack acker _ hchain htells hleft =>
    have hcreated : ¬ Call.Created ⟨provider, .acknowledgePacket channel ack⟩ store id :=
      fun ⟨_, _, heq, _⟩ => nomatch heq
    have hack : Call.Acked ⟨provider, .acknowledgePacket channel ack⟩ store chain version ↔
        chain = acker ∧ version = ack.version := by
      constructor
      · rintro ⟨_, _, _, _, ⟨⟩, hversion, hchannel, -⟩
        rw [Registry.tells_channelOf hstore.typed, hbound.mirror, hchain] at hchannel
        exact ⟨(Option.some.inj hchannel).symm, hversion.symm⟩
      · rintro ⟨rfl, rfl⟩
        refine ⟨provider, channel, ack, _, rfl, rfl, ?_, htells⟩
        rw [Registry.tells_channelOf hstore.typed, hbound.mirror, hchain]
    rw [hmirrored.awaits_acknowledged hleft, hack]
    simp [hcreated]
  | idle hheld _ hcreated hrefused =>
    have hnone : ¬ (call.Created store id ∧ store.version = version ∧
        chain ∈ store.boundChains) := by
      rintro ⟨⟨provider, notice, heq, -, htells⟩, -, hmem⟩
      rw [(hcreated provider notice heq htells).2] at hmem
      cases hmem
    have hack : ¬ call.Acked store chain version := by
      rintro ⟨provider, channel, ack, ids, heq, -, -, htells⟩
      exact hrefused provider channel ack heq ids htells
    rw [hheld]
    simp [hnone, hack]

end GateStep

namespace History

variable {service : Service}

/-- What the last call of a history does to the gate. -/
theorem gateStep_last {past : History} {call : Call} (h : (past ++ [call]).Short) :
    GateStep (after past) call (after (past ++ [call])) := by
  obtain ⟨hpast, hcall⟩ := short_snoc.1 h
  have hmirrored := mirrored_after hpast
  rw [after_snoc]
  exact call.gateStep (wellFormed_after hpast) hmirrored.backed hmirrored.bucket_ne_nil hcall

/-- **What is stored is what is awaited.** -/
theorem awaitsFor_iff {history : History}
    (hshared : ∀ call ∈ history, call.service.SharesTransport service) (hshort : history.Short)
    {id : EntryId} {version : Version} {chain : ChainId} :
    history.AwaitsFor id version chain ↔ ∃ entry, (after history).held? id = some entry ∧
      entry.version = version ∧ chain ∈ entry.outstanding := by
  induction history using induction with
  | nil =>
    refine ⟨?_, fun ⟨_, hentry, _⟩ => nomatch hentry⟩
    rintro ⟨_, _, _, hnil, -⟩
    simp at hnil
  | snoc past call ih =>
    have hpast := (List.forall_mem_append.1 hshared).1
    have hshortPast := hshort.of_append
    rw [(gateStep_last hshort).awaits_iff (wellFormed_after hshortPast) (bound_after hpast)
      (mirrored_after hshortPast), awaitsFor_snoc, ih hpast hshortPast]

/-- Something is awaited exactly if an entry is held. -/
theorem awaits_iff {history : History}
    (hshared : ∀ call ∈ history, call.service.SharesTransport service) (hshort : history.Short)
    {id : EntryId} : history.Awaits id ↔ ((after history).held? id).isSome := by
  rw [Option.isSome_iff_exists]
  refine ⟨?_, fun ⟨entry, hentry⟩ => ?_⟩
  · rintro ⟨version, chain, hawaits⟩
    obtain ⟨entry, hentry, -⟩ := (awaitsFor_iff hshared hshort).1 hawaits
    exact ⟨entry, hentry⟩
  · have hsome := (mirrored_after hshort).outstanding_ne_nil id entry hentry
    obtain ⟨chain, hchain⟩ := List.exists_mem_of_ne_nil _ hsome
    exact ⟨entry.version, chain, (awaitsFor_iff hshared hshort).2 ⟨entry, hentry, rfl, hchain⟩⟩

end History

/-! ## The order of a bucket -/

namespace History

variable {past : History} {call : Call} {id other : EntryId}

/-- What is awaited has been created. -/
theorem Awaits.created {history : History} (h : history.Awaits id) :
    Happens (fun call store => call.Created store id) [] history := by
  obtain ⟨version, chain, before, creation, since, heq, hcreated, -⟩ := h
  exact ⟨before, creation, since, heq, hcreated.1⟩

/-- The order of two entries is not changed by a call that does not create the first again. -/
theorem CreatedBefore.snoc (h : past.CreatedBefore id other)
    (hcall : ¬ call.Created (after past) id) : CreatedBefore (past ++ [call]) id other := by
  obtain ⟨first, later, rfl, hid, hnever, hother⟩ := h
  refine ⟨first, later ++ [call], List.append_assoc .., hid, ?_, happens_snoc.2 (.inl hother)⟩
  rw [happens_snoc, not_or]
  exact ⟨hnever, hcall⟩

/-- An entry that is created now comes after those created before. -/
theorem createdBefore_snoc (h : Happens (fun call store => call.Created store id) [] past)
    (hother : call.Created (after past) other) (hid : ¬ call.Created (after past) id) :
    CreatedBefore (past ++ [call]) id other := by
  refine ⟨past, [call], rfl, h, ?_, ?_⟩
  · rintro ⟨between, found, rest, heq, hcreated⟩
    obtain ⟨rfl, rfl, -⟩ : between = [] ∧ found = call ∧ rest = [] := by
      cases between <;> simp_all
    rw [List.append_nil] at hcreated
    exact hid hcreated
  · refine ⟨[], call, [], rfl, ?_⟩
    rw [List.append_nil]
    exact hother

/-- **Every bucket is in order of creation.** -/
theorem ordered {service : Service} {history : History}
    (hshared : ∀ call ∈ history, call.service.SharesTransport service) (hshort : history.Short)
    (chain : ChainId) (version : Version) :
    ((after history).waiting chain version).Pairwise history.CreatedBefore := by
  induction history using induction with
  | nil => exact .nil
  | snoc past call ih =>
    have hpast := (List.forall_mem_append.1 hshared).1
    have hshortPast := hshort.of_append
    have hmirrored := mirrored_after hshortPast
    have hstep := gateStep_last hshort
    -- what is in a bucket is held, so it cannot be created now
    have hkept {id : EntryId} (hid : id ∈ (after past).waiting chain version) :
        ¬ call.Created (after past) id := by
      intro hcreated
      exact hmirrored.not_mem_waiting (hstep.held?_eq_none_of_created hcreated) chain version hid
    have hold : ((after past).waiting chain version).Pairwise (CreatedBefore (past ++ [call])) :=
      (ih hpast hshortPast).imp_of_mem fun hid _ hbefore => hbefore.snoc (hkept hid)
    generalize after (past ++ [call]) = left at hstep
    cases hstep with
    | @gated provider notice _ htells hfree _ hleft =>
      by_cases hnew : chain ∈ (after past).boundChains ∧ version = (after past).version
      · obtain ⟨hchain, rfl⟩ := hnew
        rw [Store.waiting_of_bucket (hleft.bucket chain hchain), List.pairwise_append]
        refine ⟨hold, List.pairwise_singleton _ _, fun id hid other hother => ?_⟩
        rw [List.mem_singleton.1 hother]
        obtain ⟨entry, hentry, -⟩ := (hmirrored.mem_waiting chain _ id).1 hid
        have hawaits := (awaits_iff hpast hshortPast).2 (Option.isSome_iff_exists.2 ⟨entry, hentry⟩)
        exact createdBefore_snoc hawaits.created ⟨provider, notice, rfl, rfl, htells⟩ (hkept hid)
      · rw [Store.waiting_congr
          (hleft.bucket_of_ne chain version fun hchain heq => hnew ⟨hchain, heq⟩)]
        exact hold
    | @acknowledged _ _ ack acker _ _ _ hleft =>
      by_cases hsame : chain = acker ∧ version = ack.version
      · obtain ⟨rfl, rfl⟩ := hsame
        rw [Store.waiting, hleft.bucket]
        exact .nil
      · rw [Store.waiting_congr
          (hleft.bucket_of_ne chain version fun hchain heq => hsame ⟨hchain, heq⟩)]
        exact hold
    | idle _ hbucket =>
      rw [Store.waiting_congr (hbucket chain version)]
      exact hold

end History

/-! ## Release -/

namespace History

variable {past : History} {call : Call} {id : EntryId}

/-- What is awaited after more calls was awaited before them, or has been created by one of them. -/
theorem Awaits.of_append {later : History} (h : Awaits (past ++ later) id) :
    past.Awaits id ∨ Happens (fun call store => call.Created store id) past later := by
  induction later using induction with
  | nil =>
    rw [List.append_nil] at h
    exact .inl h
  | snoc later call ih =>
    obtain ⟨version, chain, hawaits⟩ := h
    rw [← List.append_assoc, awaitsFor_snoc] at hawaits
    rw [happens_snoc]
    rcases hawaits with hcreated | ⟨hawaits, -⟩
    · exact .inr (.inr hcreated.1)
    · rcases ih ⟨version, chain, hawaits⟩ with hpast | hlater
      · exact .inl hpast
      · exact .inr (.inl hlater)

/-- What an acknowledgement that succeeds tells, and what it leaves. -/
theorem acknowledged_of_tells {service : Service} {channel : ChannelId}
    {ack : MaturityAcknowledgement} {ids : List EntryId}
    (hshort : Short (past ++ [⟨service, .acknowledgePacket channel ack⟩]))
    (htells : (service.acknowledgePacket channel ack).Tells (after past) ids) :
    ∃ chain, ids = ((after past).waiting chain ack.version).filter (fun id =>
        ((after (past ++ [⟨service, .acknowledgePacket channel ack⟩])).held? id).isNone) ∧
      (after past).Acknowledged chain ack.version
        (after (past ++ [⟨service, .acknowledgePacket channel ack⟩])) := by
  have hstep := gateStep_last hshort
  generalize after (past ++ [⟨service, .acknowledgePacket channel ack⟩]) = left at hstep
  cases hstep with
  | @acknowledged _ _ _ chain _ _ hlast hleft =>
    have hsame := htells.symm.trans hlast
    exact ⟨chain, Except.ok.inj hsame, hleft⟩
  | idle _ _ _ hrefused => exact absurd htells (hrefused _ _ _ rfl ids)

end History

namespace Unbonding

theorem tells_beforeUnbondingCompletes {store : Store} (hstore : store.WellFormed)
    {service : Service} {id : EntryId} {answer : Bool} :
    (service.beforeUnbondingCompletes id).Tells store answer ↔ (store.held? id).isNone = answer :=
  tells_iff (run_mayComplete (hstore.sound _))

/-- The gate is exact on a history that leads to a store. -/
structure GateExact (store : Store) (history : History) : Prop where
  /-- The history leads to the store. -/
  store_eq : store = history.after
  /-- After every call, the gate is closed for the entries that are awaited. -/
  closed : ∀ past : History, past <+: history → ∀ (service : Service) (id : EntryId),
    (service.beforeUnbondingCompletes id).Tells past.after false ↔ past.Awaits id
  /-- After every call, the gate is open for all others. -/
  opened : ∀ past : History, past <+: history → ∀ (service : Service) (id : EntryId),
    (service.beforeUnbondingCompletes id).Tells past.after true ↔ ¬ past.Awaits id
  /-- An acknowledgement that succeeds tells the entries for which it opens the gate, each once and
  in order of creation. -/
  releases : ∀ (past : History) (service : Service) (channel : ChannelId)
    (ack : MaturityAcknowledgement) (ids : List EntryId),
    past ++ [⟨service, .acknowledgePacket channel ack⟩] <+: history →
    (service.acknowledgePacket channel ack).Tells past.after ids →
    ids.Nodup ∧ ids.Pairwise past.CreatedBefore ∧
      ∀ id, id ∈ ids ↔ (service.beforeUnbondingCompletes id).Tells past.after false ∧
        (service.beforeUnbondingCompletes id).Tells
          (History.after (past ++ [⟨service, .acknowledgePacket channel ack⟩])) true
  /-- Between two releases of an entry it is created again. -/
  once : ∀ (past between : History) (first second : Call) (id : EntryId),
    past ++ first :: between ++ [second] <+: history → first.Released past.after id →
    second.Released (History.after (past ++ first :: between)) id →
    History.Happens (fun call store => call.Created store id) (past ++ [first]) between

section

variable {service : Service} {past : History}

/-- The gate is closed for the entries that are awaited. -/
theorem closed_iff (hshared : ∀ call ∈ past, call.service.SharesTransport service)
    (hshort : past.Short) (provider : Service) (id : EntryId) :
    (provider.beforeUnbondingCompletes id).Tells past.after false ↔ past.Awaits id := by
  rw [tells_beforeUnbondingCompletes (History.wellFormed_after hshort),
    History.awaits_iff hshared hshort]
  cases past.after.held? id <;> simp

/-- The gate is open for the entries that are not awaited. -/
theorem opened_iff (hshared : ∀ call ∈ past, call.service.SharesTransport service)
    (hshort : past.Short) (provider : Service) (id : EntryId) :
    (provider.beforeUnbondingCompletes id).Tells past.after true ↔ ¬ past.Awaits id := by
  rw [tells_beforeUnbondingCompletes (History.wellFormed_after hshort),
    History.awaits_iff hshared hshort]
  cases past.after.held? id <;> simp

/-- What an acknowledgement tells are the entries that are held before it and not after it. -/
theorem releases_of_short {provider : Service} {channel : ChannelId}
    {ack : MaturityAcknowledgement} {ids : List EntryId}
    (hshared : ∀ call ∈ past, call.service.SharesTransport service)
    (hlast : History.Short (past ++ [⟨provider, .acknowledgePacket channel ack⟩]))
    (htells : (provider.acknowledgePacket channel ack).Tells past.after ids) :
    ids.Nodup ∧ ids.Pairwise past.CreatedBefore ∧
      ∀ id, id ∈ ids ↔ (provider.beforeUnbondingCompletes id).Tells past.after false ∧
        (provider.beforeUnbondingCompletes id).Tells
          (History.after (past ++ [⟨provider, .acknowledgePacket channel ack⟩])) true := by
  have hshort := hlast.of_append
  have hmirrored := History.mirrored_after hshort
  obtain ⟨chain, rfl, hleft⟩ := History.acknowledged_of_tells hlast htells
  refine ⟨(hmirrored.nodup chain ack.version).sublist List.filter_sublist,
    (History.ordered hshared hshort chain ack.version).sublist List.filter_sublist, fun id => ?_⟩
  rw [tells_beforeUnbondingCompletes (History.wellFormed_after hshort),
    tells_beforeUnbondingCompletes (History.wellFormed_after hlast), List.mem_filter]
  refine and_congr_left fun hgone => ⟨fun hid => ?_, fun hheld => ?_⟩
  · obtain ⟨entry, hentry, -⟩ := (hmirrored.mem_waiting chain ack.version id).1 hid
    rw [hentry]
    rfl
  · by_contra hid
    rw [hleft.held_of_not_mem id hid, hheld] at hgone
    cases hgone

/-- A release ends the wait for an entry. -/
theorem awaits_of_released {call : Call} {id : EntryId}
    (hshared : ∀ other ∈ past ++ [call], other.service.SharesTransport service)
    (hshort : History.Short (past ++ [call])) (hreleased : call.Released past.after id) :
    past.Awaits id ∧ ¬ History.Awaits (past ++ [call]) id := by
  have hpast := (List.forall_mem_append.1 hshared).1
  obtain ⟨provider, channel, ack, ids, rfl, htells, hid⟩ := hreleased
  obtain ⟨-, -, hflips⟩ := releases_of_short hpast hshort htells
  obtain ⟨hfalse, htrue⟩ := (hflips id).1 hid
  exact ⟨(closed_iff hpast hshort.of_append provider id).1 hfalse,
    (opened_iff hshared hshort provider id).1 htrue⟩

end

variable {service : Service} {history : History}

/-- **The gate is exact on every history** of calls on one transport. -/
theorem gateExact_of_short (hshared : ∀ call ∈ history, call.service.SharesTransport service)
    (hshort : history.Short) : GateExact history.after history := by
  -- both conditions hold of what a history begins with
  have hbegin {past : History} (h : past <+: history) :
      (∀ call ∈ past, call.service.SharesTransport service) ∧ past.Short := by
    obtain ⟨later, rfl⟩ := h
    exact ⟨(List.forall_mem_append.1 hshared).1, hshort.of_append⟩
  constructor
  case store_eq => rfl
  case closed =>
    intro past h
    exact closed_iff (hbegin h).1 (hbegin h).2
  case opened =>
    intro past h
    exact opened_iff (hbegin h).1 (hbegin h).2
  case releases =>
    intro past provider channel ack ids h htells
    have hpast := (List.forall_mem_append.1 (hbegin h).1).1
    exact releases_of_short hpast (hbegin h).2 htells
  case once =>
    intro past between first second id h hfirst hsecond
    rw [List.append_cons past first between] at h hsecond
    obtain ⟨hagain, -⟩ := awaits_of_released (hbegin h).1 (hbegin h).2 hsecond
    have hbeginFirst : past ++ [first] <+: history :=
      (List.prefix_append _ between).trans ((List.prefix_append _ [second]).trans h)
    obtain ⟨-, hgone⟩ :=
      awaits_of_released (hbegin hbeginFirst).1 (hbegin hbeginFirst).2 hfirst
    -- the second release ends a wait that the first one had ended, so there was a creation between
    exact hagain.of_append.resolve_left hgone

/-- **The unbonding gate is exact over whole runs.**  After every run of calls on one transport,
direct or in transactions, successful or failing, whose lists and strings fit in memory. -/
theorem gateExact_after {run : Run Call}
    (hshared : ∀ call ∈ run.committed, call.service.SharesTransport service)
    (hshort : run.committed.Short) : GateExact run.after run.committed := by
  rw [run.after_eq]
  exact gateExact_of_short hshared hshort

/-- Two entries are created while two chains are bound, and both chains acknowledge, one of them in
a transaction; then the first entry is created again. -/
def releasedTwice : Run Call :=
  [.direct ⟨twoChains, .openConfirm 5 ⟨"ch-0"⟩⟩, .direct ⟨twoChains, .openConfirm 6 ⟨"ch-1"⟩⟩,
    .direct ⟨twoChains, .unbondingCreated ⟨9, "validator", 6⟩⟩,
    .direct ⟨twoChains, .unbondingCreated ⟨7, "validator", 6⟩⟩,
    .direct ⟨twoChains, .acknowledgePacket ⟨"ch-1"⟩ ⟨0, []⟩⟩,
    .execute ⟨.make ⟨twoChains, .acknowledgePacket ⟨"ch-0"⟩ ⟨0, []⟩⟩ fun _ => .stop (.ok ()),
      fun _ _ => none⟩,
    .direct ⟨twoChains, .unbondingCreated ⟨9, "validator", 7⟩⟩]

/-- In the end the gate is open for the one entry and closed for the other. -/
theorem gateExact_after_releasedTwice :
    (∀ call ∈ releasedTwice.committed, call.service.SharesTransport twoChains) ∧
      releasedTwice.committed.Short ∧ GateExact releasedTwice.after releasedTwice.committed ∧
      (twoChains.beforeUnbondingCompletes 7).Tells releasedTwice.after true ∧
      (twoChains.beforeUnbondingCompletes 9).Tells releasedTwice.after false := by
  have hshared : ∀ call ∈ releasedTwice.committed, call.service.SharesTransport twoChains := by
    apply Run.forall_committed
    simp [releasedTwice]
  have hshort : releasedTwice.committed.Short := by decide +kernel
  exact ⟨hshared, hshort, gateExact_after hshared hshort, by decide +kernel, by decide +kernel⟩

end Unbonding
end SharedSecurity
