import Mathlib.Data.List.Nodup
import SharedSecurity.Proofs.Gating
import SharedSecurity.Proofs.Identity

/-!
# Genesis loaded and read out

Loading a genesis approves its consumers one after the other.  An approval replaces the client of
its chain, and replaces the genesis record only if it brings one, so what is left for a chain may
come from two different registrations.  Reading out goes through the registered clients in key
order and looks up the genesis record of each.

## What is here

* `Store.registrations`, `Registry.run_registrations` — what is read out, as a function of the
  store, with `Store.mem_registrations` and `Store.sorted_registrations`.
* `Store.client?_approveAll`, `Store.genesis?_approveAll` — what a list of approvals comes to for
  one chain.
* `ConsumerRegistration.Ascending`, `ConsumerRegistration.NormalForm` — the normal form of a list of
  registrations.  There is one at most, and a list is its own exactly if it ascends.
* `Service.RoundTrips`, `Service.roundTrips` — **reading out what was loaded gives the normal
  form**, which is the genesis itself whenever it was read out from somewhere.
-/

set_option autoImplicit false
namespace SharedSecurity

open Transition

/-! ## The registrations in a store -/

/-- The genesis record of a chain. -/
def Store.genesis? (store : Store) (chain : ChainId) : Option Bytes :=
  store.record? (.genesisOf chain)

/-- The registration in a store that a listed key belongs to. -/
def Store.registration? (store : Store) (entry : Bytes × Bytes) : Option ConsumerRegistration := do
  let name ← KeyFamily.clientOfChain.name? entry.1
  let client ← store.client? ⟨name⟩
  some ⟨⟨name⟩, client, (store.genesis? ⟨name⟩).getD []⟩

/-- The registrations in a store, in the order of the chains. -/
def Store.registrations (store : Store) : List ConsumerRegistration :=
  (store.under KeyFamily.clientOfChain.stem).filterMap store.registration?

/-- Registrations in strictly ascending order of the bytes of their chains. -/
def ConsumerRegistration.Ascending (listed : List ConsumerRegistration) : Prop :=
  listed.Pairwise fun a b => a.chain.Before b.chain

namespace Store

variable {store : Store}

theorem registration?_eq_some_iff {entry : Bytes × Bytes} {registration : ConsumerRegistration} :
    store.registration? entry = some registration ↔
      entry.1 = (Key.clientOf registration.chain).bytes ∧
        store.client? registration.chain = some registration.client ∧
        (store.genesis? registration.chain).getD [] = registration.genesis := by
  obtain ⟨⟨chain⟩, client, genesis⟩ := registration
  simp only [registration?, Option.bind_eq_bind, Option.bind_eq_some_iff,
    KeyFamily.name?_eq_some_iff]
  constructor
  · rintro ⟨name, hname, found, hclient, heq⟩
    cases heq
    exact ⟨hname, hclient, rfl⟩
  · rintro ⟨hname, hclient, rfl⟩
    exact ⟨chain, hname, client, hclient, rfl⟩

/-- A listed entry is the client of a chain. -/
theorem Typed.entry_of_client (h : store.Typed) {entry : Bytes × Bytes}
    (hentry : entry ∈ store.under KeyFamily.clientOfChain.stem) :
    ∃ chain : ChainId, ∃ client : ClientId, store.client? chain = some client ∧
      entry = ((Key.clientOf chain).bytes, Utf8.encode client.name) := by
  obtain ⟨key, hfamily, record, rfl⟩ := h.listed hentry
  have hget := (SortedMap.mem_under_iff.1 hentry).1
  cases key <;> cases hfamily
  refine ⟨_, record, ?_, rfl⟩
  rw [client?, record?, hget, Option.bind_some]
  exact Key.decode?_encode (.clientOf _) trivial

/-- **A registration is listed if it has the client of its chain, and its genesis record.** -/
theorem mem_registrations (h : store.Typed) {registration : ConsumerRegistration} :
    registration ∈ store.registrations ↔
      store.client? registration.chain = some registration.client ∧
        (store.genesis? registration.chain).getD [] = registration.genesis := by
  simp only [registrations, List.mem_filterMap, registration?_eq_some_iff]
  constructor
  · rintro ⟨entry, -, -, hregistered⟩
    exact hregistered
  · intro hregistered
    have hget := (h.sound (.clientOf registration.chain) fun _ => trivial).get?_eq
    rw [← client?, hregistered.1] at hget
    refine ⟨_, SortedMap.mem_under_iff.2 ⟨hget, ?_⟩, rfl, hregistered⟩
    rw [Key.stem_isPrefixOf_bytes]
    rfl

/-- A genesis record stands under its key as it is. -/
theorem Typed.get?_genesisOf (h : store.Typed) (chain : ChainId) :
    store.get? (Key.genesisOf chain).bytes = store.genesis? chain :=
  ((h.sound (.genesisOf chain) fun _ => trivial).get?_eq).trans Option.map_id'

theorem sorted_registrations (store : Store) :
    ConsumerRegistration.Ascending store.registrations :=
  sorted_listing ConsumerRegistration.chain
    fun _ _ _ hfound => (registration?_eq_some_iff.1 hfound).1

end Store

namespace Registry

variable {store : Store}

/-- A listed client is made a registration. -/
theorem run_registrationOfEntry (h : store.Typed) {entry : Bytes × Bytes}
    (hentry : entry ∈ store.under KeyFamily.clientOfChain.stem) :
    ∃ registration, store.registration? entry = some registration ∧
      (registrationOfEntry entry).run store = ⟨.ok registration, store, []⟩ := by
  obtain ⟨chain, client, hclient, rfl⟩ := h.entry_of_client hentry
  refine ⟨⟨chain, client, (store.genesis? chain).getD []⟩,
    Store.registration?_eq_some_iff.2 ⟨rfl, hclient, rfl⟩, ?_⟩
  have hname : Stored.nameOfKey .clientOfChain "chain id" (Key.clientOf chain).bytes =
      .ok chain.name := Stored.nameOfKey_key .clientOfChain "chain id" chain.name
  have hgenesis : (genesis? chain).run store = ⟨.ok (store.genesis? chain), store, []⟩ := by
    rw [genesis?, run_get?, h.get?_genesisOf]
  rw [registrationOfEntry, hname, Stored.nameOfValue_encode, run_bind_ok (run_ofExcept _ store),
    run_bind_ok (run_ofExcept _ store), run_bind_ok hgenesis]
  rfl

/-- **The registrations can always be listed.** -/
theorem run_registrations (h : store.Typed) :
    registrations.run store = ⟨.ok store.registrations, store, []⟩ := by
  let listed (entry : Bytes × Bytes) : ConsumerRegistration :=
    (store.registration? entry).getD ⟨⟨""⟩, ⟨""⟩, []⟩
  have hrun : ∀ entry ∈ store.under KeyFamily.clientOfChain.stem,
      (registrationOfEntry entry).run store = ⟨.ok (listed entry), store, []⟩ := by
    intro entry hentry
    obtain ⟨registration, hfound, hrun⟩ := run_registrationOfEntry h hentry
    simp only [listed, hfound, Option.getD_some, hrun]
  have hlisted : (store.under KeyFamily.clientOfChain.stem).map listed = store.registrations := by
    rw [Store.registrations, ← List.filterMap_eq_map]
    refine List.filterMap_congr fun entry hentry => ?_
    obtain ⟨registration, hfound, -⟩ := run_registrationOfEntry h hentry
    simp [listed, hfound]
  rw [registrations, run_bind_ok (run_scan _ store), run_mapM hrun, hlisted]
  rfl

end Registry

/-- Reading out a genesis. -/
theorem Service.run_exportGenesis (service : Service) {store : Store} (h : store.Typed) :
    service.exportGenesis.run store = ⟨.ok ⟨(store.record? .port).getD service.config.port,
      store.version, store.registrations⟩, store, []⟩ := by
  have hport := Registry.run_port? (h.sound .port fun _ => trivial)
  have hversion := Versioning.run_current (h.sound .version fun _ => trivial)
  rw [exportGenesis, run_bind_ok hport, run_bind_ok hversion,
    run_bind_ok (Registry.run_registrations h)]
  rfl

/-! ## What approvals come to -/

namespace Store

/-- An approval replaces the genesis record of its chain if it brings one. -/
theorem genesis?_approve (store : Store) (registration : ConsumerRegistration) (chain : ChainId) :
    (store.approve registration).genesis? chain =
      if registration.chain = chain ∧ registration.genesis ≠ [] then some registration.genesis
      else store.genesis? chain := by
  have hclient (client : ClientId) (other : ChainId) :
      (store.hold (.clientOf other) client).genesis? chain = store.genesis? chain :=
    record?_hold_of_ne _ (nofun : Key.genesisOf chain ≠ .clientOf other) client
  by_cases hempty : registration.genesis = []
  · rw [if_neg (by simp [hempty]), approve, if_pos (by simp [hempty]), hclient]
  · rw [approve, if_neg (by simp [hempty])]
    by_cases hchain : registration.chain = chain
    · subst hchain
      rw [if_pos ⟨rfl, hempty⟩]
      exact record?_hold_self _ trivial
    · rw [if_neg (by simp [hchain]), ← hclient registration.client registration.chain]
      exact record?_hold_of_ne _ (by simp [Ne.symm hchain]) _

/-- An approval touches nothing but the client and the genesis record of its chain. -/
theorem record?_approve_of_ne (store : Store) {registration : ConsumerRegistration} {key : Key}
    (hclient : key ≠ .clientOf registration.chain)
    (hgenesis : key ≠ .genesisOf registration.chain) :
    (store.approve registration).record? key = store.record? key := by
  rw [approve]
  split
  · exact record?_hold_of_ne _ hclient _
  · exact (record?_hold_of_ne _ hgenesis _).trans (record?_hold_of_ne _ hclient _)

end Store

namespace ConsumerRegistration

/-- The last registration of a chain. -/
def last? (registrations : List ConsumerRegistration) (chain : ChainId) :
    Option ConsumerRegistration :=
  (registrations.filter fun r => r.chain = chain).getLast?

/-- The last genesis record, of those that are not empty, in the registrations of a chain. -/
def lastGenesis? (registrations : List ConsumerRegistration) (chain : ChainId) : Option Bytes :=
  ((registrations.filter fun r => r.chain = chain ∧ r.genesis ≠ []).getLast?).map (·.genesis)

end ConsumerRegistration

namespace Store

/-- **The client of a chain is that of its last approval.** -/
theorem client?_approveAll (store : Store) (registrations : List ConsumerRegistration)
    (chain : ChainId) : (registrations.foldl approve store).client? chain =
      ((ConsumerRegistration.last? registrations chain).map (·.client)).or
        (store.client? chain) := by
  induction registrations using List.reverseRecOn with
  | nil => rfl
  | append_singleton registrations registration ih =>
    rw [List.foldl_append, List.foldl_cons, List.foldl_nil, client?_approve, ih]
    by_cases hchain : registration.chain = chain
    · simp [ConsumerRegistration.last?, List.filter_append, hchain]
    · simp [ConsumerRegistration.last?, List.filter_append, hchain, Ne.symm hchain]

/-- **The genesis record of a chain is the last that an approval brought.** -/
theorem genesis?_approveAll (store : Store) (registrations : List ConsumerRegistration)
    (chain : ChainId) : (registrations.foldl approve store).genesis? chain =
      (ConsumerRegistration.lastGenesis? registrations chain).or (store.genesis? chain) := by
  induction registrations using List.reverseRecOn with
  | nil => rfl
  | append_singleton registrations registration ih =>
    rw [List.foldl_append, List.foldl_cons, List.foldl_nil, genesis?_approve, ih]
    by_cases hbrings : registration.chain = chain ∧ registration.genesis ≠ []
    · simp [ConsumerRegistration.lastGenesis?, List.filter_append, hbrings]
    · simp only [ConsumerRegistration.lastGenesis?, List.filter_append, hbrings]
      simp [hbrings]

theorem record?_approveAll_of_ne (store : Store) (registrations : List ConsumerRegistration)
    {key : Key} (hclient : ∀ chain, .clientOf chain ≠ key)
    (hgenesis : ∀ chain, .genesisOf chain ≠ key) :
    (registrations.foldl approve store).record? key = store.record? key := by
  induction registrations generalizing store with
  | nil => rfl
  | cons registration rest ih =>
    exact (ih (store.approve registration)).trans
      (record?_approve_of_ne store (hclient _).symm (hgenesis _).symm)

end Store

/-! ## The normal form -/

namespace ConsumerRegistration

/-- The list has one registration for each chain that is registered, in the order of the chains,
with what the registrations of the chain come to. -/
structure NormalForm (registrations listed : List ConsumerRegistration) : Prop where
  /-- The chains are in strictly ascending order, so none is there twice. -/
  ascending : Ascending listed
  /-- The chains are the registered ones. -/
  chains : ∀ chain, (∃ r ∈ listed, r.chain = chain) ↔ ∃ r ∈ registrations, r.chain = chain
  /-- Each has the client of the chain's last registration. -/
  client : ∀ r ∈ listed, (last? registrations r.chain).map (·.client) = some r.client
  /-- Each has the last genesis record that is not empty, if the chain has any. -/
  genesis : ∀ r ∈ listed, r.genesis = (lastGenesis? registrations r.chain).getD []

/-- In an ascending list there is one registration for each chain. -/
theorem Ascending.eq_of_chain_eq {listed : List ConsumerRegistration} (h : Ascending listed)
    {a b : ConsumerRegistration} (ha : a ∈ listed) (hb : b ∈ listed) (hchain : a.chain = b.chain) :
    a = b := by
  have hdistinct : (listed.map (·.chain)).Nodup := List.pairwise_map.2 (h.imp ChainId.Before.ne)
  exact List.inj_on_of_nodup_map hdistinct ha hb hchain

/-- **There is one normal form at most.** -/
theorem NormalForm.unique {registrations listed other : List ConsumerRegistration}
    (h : NormalForm registrations listed) (hother : NormalForm registrations other) :
    listed = other := by
  have hmem {a b : List ConsumerRegistration} (ha : NormalForm registrations a)
      (hb : NormalForm registrations b) {r : ConsumerRegistration} (hr : r ∈ a) : r ∈ b := by
    obtain ⟨s, hs, hchain⟩ := (hb.chains r.chain).2 ((ha.chains r.chain).1 ⟨r, hr, rfl⟩)
    have hclient : s.client = r.client := by
      have hsame := hb.client s hs
      rw [hchain, ha.client r hr] at hsame
      exact (Option.some.inj hsame).symm
    have hgenesis : s.genesis = r.genesis := by
      rw [hb.genesis s hs, hchain, ha.genesis r hr]
    obtain ⟨chain, client, genesis⟩ := s
    obtain ⟨_, _, _⟩ := r
    cases hchain
    cases hclient
    cases hgenesis
    exact hs
  exact ChainId.eq_of_mem_iff ConsumerRegistration.chain h.ascending hother.ascending
    fun r => ⟨hmem h hother, hmem hother h⟩

/-- What selects among the registrations of one chain finds at most one in an ascending list. -/
theorem Ascending.getLast?_filter {listed : List ConsumerRegistration} (h : Ascending listed)
    {r : ConsumerRegistration} (hr : r ∈ listed) {selects : ConsumerRegistration → Bool}
    (hselects : ∀ s, selects s → s.chain = r.chain) :
    (listed.filter selects).getLast? = if selects r then some r else none := by
  cases hfound : (listed.filter selects).getLast? with
  | none =>
    have hnone := List.filter_eq_nil_iff.1 (List.getLast?_eq_none_iff.1 hfound)
    rw [if_neg (hnone r hr)]
  | some s =>
    obtain ⟨hs, hselected⟩ := List.mem_filter.1 (List.mem_of_getLast? hfound)
    obtain rfl := h.eq_of_chain_eq hs hr (hselects s hselected)
    rw [if_pos hselected]

/-- An ascending list is its own normal form. -/
theorem Ascending.normalForm {listed : List ConsumerRegistration} (h : Ascending listed) :
    NormalForm listed listed where
  ascending := h
  chains _ := Iff.rfl
  client r hr := by
    rw [last?, h.getLast?_filter hr (by simp)]
    simp
  genesis r hr := by
    rw [lastGenesis?, h.getLast?_filter hr (by simp +contextual)]
    by_cases hempty : r.genesis = [] <;> simp [hempty]

/-- A chain has a last registration if it is registered at all. -/
theorem isSome_last?_iff {registrations : List ConsumerRegistration} {chain : ChainId} :
    (last? registrations chain).isSome ↔ ∃ r ∈ registrations, r.chain = chain := by
  rw [last?, List.getLast?_isSome, ne_eq, List.filter_eq_nil_iff]
  simp

end ConsumerRegistration

/-- **What is left of approvals on a store without any is their normal form.** -/
theorem Store.normalForm_registrations {store : Store} {registrations : List ConsumerRegistration}
    (hclient : ∀ chain, store.client? chain = none)
    (hgenesis : ∀ chain, store.genesis? chain = none)
    (h : (registrations.foldl approve store).Typed) :
    ConsumerRegistration.NormalForm registrations
      (registrations.foldl approve store).registrations where
  ascending := sorted_registrations _
  chains chain := by
    have hlast : (registrations.foldl approve store).client? chain =
        (ConsumerRegistration.last? registrations chain).map (·.client) := by
      rw [client?_approveAll, hclient, Option.or_none]
    have hregistered : (∃ r ∈ registrations, r.chain = chain) ↔
        ∃ client, (registrations.foldl approve store).client? chain = some client := by
      rw [← ConsumerRegistration.isSome_last?_iff, ← Option.isSome_iff_exists, hlast,
        Option.isSome_map]
    rw [hregistered]
    constructor
    · rintro ⟨r, hr, rfl⟩
      exact ⟨r.client, ((mem_registrations h).1 hr).1⟩
    · rintro ⟨client, hclient⟩
      let genesis := ((registrations.foldl approve store).genesis? chain).getD []
      exact ⟨⟨chain, client, genesis⟩, (mem_registrations h).2 ⟨hclient, rfl⟩, rfl⟩
  client r hr := by
    have hregistered := ((mem_registrations h).1 hr).1
    rwa [client?_approveAll, hclient, Option.or_none] at hregistered
  genesis r hr := by
    have hrecorded := ((mem_registrations h).1 hr).2
    rw [genesis?_approveAll, hgenesis, Option.or_none] at hrecorded
    exact hrecorded.symm

/-! ## There and back -/

namespace Service

/-- The store after a genesis was loaded into an empty one. -/
def loaded (loader : Service) (genesis : ProviderGenesis) : Store :=
  Call.after ⟨loader, .initGenesis genesis⟩ .empty

theorem loaded_eq (loader : Service) (genesis : ProviderGenesis) :
    loader.loaded genesis = genesis.consumers.foldl Store.approve
      ((Store.hold .empty .port genesis.port).hold .version genesis.version) := by
  obtain ⟨outputs, hrun⟩ := loader.run_initGenesis genesis .empty
  exact congrArg Outcome.store hrun

theorem typed_loaded (loader : Service) (genesis : ProviderGenesis) :
    (loader.loaded genesis).Typed :=
  typed_run (loader.perform_within (.initGenesis genesis)) Store.typed_empty

/-- A genesis that is loaded sets the version. -/
theorem record?_version_initGenesis (service : Service) (genesis : ProviderGenesis)
    (store : Store) :
    ((service.initGenesis genesis).run store).store.record? .version = some genesis.version := by
  have hheld (before : Store) :
      (before.hold .version genesis.version).record? .version = some genesis.version :=
    Store.record?_hold_self before trivial
  rw [service.run_initGenesis_eq]
  exact (Store.record?_approveAll_of_ne _ _ (by simp) (by simp)).trans (hheld _)

theorem version_loaded (loader : Service) (genesis : ProviderGenesis) :
    (loader.loaded genesis).record? .version = some genesis.version :=
  loader.record?_version_initGenesis genesis .empty

theorem port_loaded (loader : Service) (genesis : ProviderGenesis) :
    (loader.loaded genesis).record? .port = some genesis.port := by
  have hheld : (Store.hold .empty .port genesis.port).record? .port = some genesis.port :=
    Store.record?_hold_self .empty trivial
  have hkeep := Store.record?_hold_of_ne (Store.hold .empty .port genesis.port)
    (nofun : Key.port ≠ .version) genesis.version
  rw [loaded_eq]
  exact (Store.record?_approveAll_of_ne _ _ (by simp) (by simp)).trans (hkeep.trans hheld)

theorem normalForm_loaded (loader : Service) (genesis : ProviderGenesis) :
    ConsumerRegistration.NormalForm genesis.consumers (loader.loaded genesis).registrations := by
  have htyped := loader.typed_loaded genesis
  rw [loaded_eq] at htyped ⊢
  exact Store.normalForm_registrations (fun _ => rfl) (fun _ => rfl) htyped

/-- What a genesis comes to that one provider loads and another reads out. -/
structure RoundTrips (loader reader : Service) : Prop where
  /-- Any genesis can be loaded into an empty store. -/
  loads : ∀ genesis, (loader.initGenesis genesis).Tells .empty ()
  /-- What is read out then has its port and version, and the normal form of its consumers. -/
  reads : ∀ genesis, ∃ listed, ConsumerRegistration.NormalForm genesis.consumers listed ∧
    reader.exportGenesis.Tells (loader.loaded genesis) ⟨genesis.port, genesis.version, listed⟩
  /-- It is the genesis itself exactly if its consumers are in strictly ascending order. -/
  exact_iff : ∀ genesis, reader.exportGenesis.Tells (loader.loaded genesis) genesis ↔
    ConsumerRegistration.Ascending genesis.consumers
  /-- What is read out after any run can be loaded and read out again, and is the same. -/
  again : ∀ (exporter : Service) (run : Run Call), ∃ genesis,
    exporter.exportGenesis.Tells run.after genesis ∧
      reader.exportGenesis.Tells (loader.loaded genesis) genesis

/-- What is read out after a genesis was loaded. -/
theorem tells_exportGenesis_loaded (loader reader : Service) (genesis : ProviderGenesis) :
    reader.exportGenesis.Tells (loader.loaded genesis)
      ⟨genesis.port, genesis.version, (loader.loaded genesis).registrations⟩ := by
  rw [Tells, run_exportGenesis reader (loader.typed_loaded genesis), Store.version, port_loaded,
    version_loaded]
  rfl

/-- A genesis is read out as it was loaded exactly if its consumers ascend. -/
theorem tells_exportGenesis_loaded_iff (loader reader : Service) (genesis : ProviderGenesis) :
    reader.exportGenesis.Tells (loader.loaded genesis) genesis ↔
      ConsumerRegistration.Ascending genesis.consumers := by
  have htells := tells_exportGenesis_loaded loader reader genesis
  have hnormal := loader.normalForm_loaded genesis
  constructor
  · intro hsame
    have heq := congrArg ProviderGenesis.consumers (Except.ok.inj (hsame.symm.trans htells))
    exact heq ▸ hnormal.ascending
  · intro hascending
    rwa [hnormal.unique hascending.normalForm] at htells

/-- **Loading and reading out are inverse up to the normal form.** -/
theorem roundTrips (loader reader : Service) : RoundTrips loader reader where
  loads genesis := by
    obtain ⟨outputs, hrun⟩ := loader.run_initGenesis genesis .empty
    rw [Tells, hrun]
  reads genesis :=
    ⟨_, loader.normalForm_loaded genesis, tells_exportGenesis_loaded loader reader genesis⟩
  exact_iff := tells_exportGenesis_loaded_iff loader reader
  again exporter run := by
    have htyped : run.after.Typed := run.after_eq ▸ History.typed_after run.committed
    have hascending := Store.sorted_registrations run.after
    exact ⟨_, congrArg Outcome.result (run_exportGenesis exporter htyped),
      (tells_exportGenesis_loaded_iff loader reader _).2 hascending⟩

/-- A chain that is registered twice has the later client and the only genesis record. -/
example : Registry.racedProvider.exportGenesis.Tells
    (Registry.racedProvider.loaded ⟨⟨"port"⟩, 1, [⟨⟨"foo"⟩, ⟨"client-0"⟩, [7]⟩,
      ⟨⟨"bar"⟩, ⟨"client-1"⟩, []⟩, ⟨⟨"foo"⟩, ⟨"client-2"⟩, []⟩]⟩)
    ⟨⟨"port"⟩, 1, [⟨⟨"bar"⟩, ⟨"client-1"⟩, []⟩, ⟨⟨"foo"⟩, ⟨"client-2"⟩, [7]⟩]⟩ := by
  decide +kernel

end Service
end SharedSecurity
