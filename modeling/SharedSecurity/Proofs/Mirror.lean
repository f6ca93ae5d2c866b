import SharedSecurity.Proofs.Binding
import SharedSecurity.Proofs.Gating

/-!
# Buckets and entries mirror each other

The gate is kept twice: every entry lists the chains it waits for, and for every chain and version
a bucket lists the entries that wait for it.  An acknowledgement only reads the bucket, and a
completion only asks whether there is an entry, so both rest on the two saying the same.

* `Store.Mirrored` — the invariant, on records, with one lemma for each way the gate is written.
* `Store.Mirrored.after_call` — every call keeps it, refused ones included, whatever provider it is
  asked of.
* `Unbonding.Indexed`, `Unbonding.indexed_after` — **the invariant after every run**, in what the
  gate itself answers.
-/

set_option autoImplicit false
namespace SharedSecurity

open Transition
open Unbonding renaming entry? → findEntry

/-! ## What is left of an entry -/

namespace UnbondingEntry

variable {entry : UnbondingEntry} {chain other : ChainId}

theorem mem_acknowledge : other ∈ (entry.acknowledge chain).outstanding ↔
    other ∈ entry.outstanding ∧ other ≠ chain := by
  rw [acknowledge, List.mem_filter, bne_iff_ne]

theorem left?_eq_some_iff {rest : UnbondingEntry} : entry.left? chain = some rest ↔
    rest = entry.acknowledge chain ∧ rest.outstanding ≠ [] := by
  rw [left?, isFullyAcknowledged]
  by_cases h : (entry.acknowledge chain).outstanding = []
  · rw [if_pos (List.isEmpty_iff.2 h)]
    constructor
    · intro hnone
      cases hnone
    · rintro ⟨rfl, hne⟩
      exact absurd h hne
  · rw [if_neg (fun hempty => h (List.isEmpty_iff.1 hempty)), Option.some_inj]
    constructor
    · rintro rfl
      exact ⟨rfl, h⟩
    · intro hrest
      exact hrest.1.symm

/-- What is left of an entry waits for a chain exactly if the entry did and the chain is another. -/
theorem exists_left?_iff {version : Version} :
    (∃ rest, entry.left? chain = some rest ∧ rest.version = version ∧ other ∈ rest.outstanding) ↔
      entry.version = version ∧ other ∈ entry.outstanding ∧ other ≠ chain := by
  constructor
  · rintro ⟨rest, hrest, hversion, hother⟩
    obtain ⟨rfl, -⟩ := left?_eq_some_iff.1 hrest
    exact ⟨hversion, mem_acknowledge.1 hother⟩
  · rintro ⟨hversion, hother⟩
    have hmem := mem_acknowledge.2 hother
    exact ⟨_, left?_eq_some_iff.2 ⟨rfl, List.ne_nil_of_mem hmem⟩, hversion, hmem⟩

end UnbondingEntry

/-! ## The invariant on records -/

namespace Store

/-- Buckets and entries say the same, and what they say is in order. -/
structure Mirrored (store : Store) : Prop where
  /-- An id is in a bucket exactly if its entry is of that version and awaits that chain. -/
  mem_waiting : ∀ chain version id, id ∈ store.waiting chain version ↔
    ∃ entry, store.held? id = some entry ∧ entry.version = version ∧ chain ∈ entry.outstanding
  /-- An entry carries the id it is held under. -/
  id_eq : ∀ id entry, store.held? id = some entry → entry.id = id
  /-- An entry waits for somebody. -/
  outstanding_ne_nil : ∀ id entry, store.held? id = some entry → entry.outstanding ≠ []
  /-- The chains that an entry waits for are in order. -/
  sorted : ∀ id entry, store.held? id = some entry → entry.outstanding.Pairwise ChainId.Before
  /-- The chains that an entry waits for are bound. -/
  bound : ∀ id entry, store.held? id = some entry →
    ∀ chain ∈ entry.outstanding, (store.channel? chain).isSome
  /-- No id is in a bucket twice. -/
  nodup : ∀ chain version, (store.waiting chain version).Nodup
  /-- No bucket is recorded as empty. -/
  bucket_ne_nil : ∀ chain version, store.bucket? chain version ≠ some []

theorem waiting_congr {before after : Store} {chain : ChainId} {version : Version}
    (h : after.bucket? chain version = before.bucket? chain version) :
    after.waiting chain version = before.waiting chain version := by
  rw [waiting, waiting, h]

theorem waiting_of_bucket {store : Store} {chain : ChainId} {version : Version}
    {ids : List EntryId} (h : store.bucket? chain version = some ids) :
    store.waiting chain version = ids := by
  rw [waiting, h]
  rfl

namespace Mirrored

variable {before after : Store} {id : EntryId}

theorem empty : Mirrored .empty where
  mem_waiting _ _ _ := ⟨nofun, nofun⟩
  id_eq _ _ := nofun
  outstanding_ne_nil _ _ := nofun
  sorted _ _ := nofun
  bound _ _ := nofun
  nodup _ _ := .nil
  bucket_ne_nil _ _ := nofun

/-- What the buckets say can be relied on. -/
theorem backed (h : before.Mirrored) (chain : ChainId) (version : Version) :
    before.Backed chain version := by
  refine ⟨h.nodup chain version, fun id hid => ?_⟩
  obtain ⟨entry, hentry, -, hawaits⟩ := (h.mem_waiting chain version id).1 hid
  exact ⟨entry, hentry, h.id_eq id entry hentry, hawaits⟩

/-- A change that leaves entries and buckets alone and undoes no binding. -/
theorem congr (h : before.Mirrored) (hheld : ∀ id, after.held? id = before.held? id)
    (hbucket : ∀ chain version, after.bucket? chain version = before.bucket? chain version)
    (hbound : ∀ chain, (before.channel? chain).isSome → (after.channel? chain).isSome) :
    after.Mirrored where
  mem_waiting chain version id := by
    rw [waiting_congr (hbucket chain version), hheld]
    exact h.mem_waiting chain version id
  id_eq id entry hentry := h.id_eq id entry (hheld id ▸ hentry)
  outstanding_ne_nil id entry hentry := h.outstanding_ne_nil id entry (hheld id ▸ hentry)
  sorted id entry hentry := h.sorted id entry (hheld id ▸ hentry)
  bound id entry hentry chain hchain :=
    hbound chain (h.bound id entry (hheld id ▸ hentry) chain hchain)
  nodup chain version := by
    rw [waiting_congr (hbucket chain version)]
    exact h.nodup chain version
  bucket_ne_nil chain version := by
    rw [hbucket chain version]
    exact h.bucket_ne_nil chain version

/-- No bucket mentions an id without an entry. -/
theorem not_mem_waiting (h : before.Mirrored) (hfree : before.held? id = none) (chain : ChainId)
    (version : Version) : id ∉ before.waiting chain version := by
  rw [h.mem_waiting, hfree]
  exact fun ⟨_, hentry, _⟩ => nomatch hentry

end Mirrored

/-! ### Creation -/

section

variable {before after : Store} {id : EntryId}

theorem Gated.mem_waiting (h : before.Gated id after) {chain : ChainId} {version : Version}
    {other : EntryId} : other ∈ after.waiting chain version ↔
      other ∈ before.waiting chain version ∨
        other = id ∧ chain ∈ before.boundChains ∧ version = before.version := by
  by_cases hnew : chain ∈ before.boundChains ∧ version = before.version
  · obtain ⟨hchain, rfl⟩ := hnew
    rw [waiting_of_bucket (h.bucket chain hchain), List.mem_append, List.mem_singleton]
    simp [hchain]
  · rw [waiting_congr (h.bucket_of_ne chain version fun hchain heq => hnew ⟨hchain, heq⟩)]
    simp [hnew]

/-- After a creation an entry is the new one, or another that was held before. -/
theorem Gated.held?_eq_some_iff (h : before.Gated id after) {other : EntryId}
    {entry : UnbondingEntry} : after.held? other = some entry ↔
      other = id ∧ entry = ⟨id, before.version, before.boundChains⟩ ∨
        other ≠ id ∧ before.held? other = some entry := by
  by_cases hother : other = id
  · rw [hother, h.held, Option.some_inj]
    simp [eq_comm]
  · rw [h.held_of_ne other hother]
    simp [hother]

/-- Closing the gate on an entry keeps the invariant. -/
theorem Mirrored.gated (h : before.Mirrored) (hgated : before.Gated id after)
    (htyped : before.Typed) (hfree : before.held? id = none) (hchains : before.boundChains ≠ [])
    (hbound : ∀ chain, (before.channel? chain).isSome → (after.channel? chain).isSome) :
    after.Mirrored where
  mem_waiting chain version other := by
    rw [hgated.mem_waiting]
    by_cases hother : other = id
    · subst hother
      have hnot := h.not_mem_waiting hfree chain version
      rw [hgated.held]
      simp [hnot, and_comm, eq_comm]
    · rw [hgated.held_of_ne other hother, h.mem_waiting]
      simp [hother]
  id_eq other entry hentry := by
    rcases hgated.held?_eq_some_iff.1 hentry with ⟨rfl, rfl⟩ | ⟨-, hold⟩
    · rfl
    · exact h.id_eq other entry hold
  outstanding_ne_nil other entry hentry := by
    rcases hgated.held?_eq_some_iff.1 hentry with ⟨rfl, rfl⟩ | ⟨-, hold⟩
    · exact hchains
    · exact h.outstanding_ne_nil other entry hold
  sorted other entry hentry := by
    rcases hgated.held?_eq_some_iff.1 hentry with ⟨rfl, rfl⟩ | ⟨-, hold⟩
    · exact before.sorted_boundChains
    · exact h.sorted other entry hold
  bound other entry hentry chain hchain := by
    rcases hgated.held?_eq_some_iff.1 hentry with ⟨rfl, rfl⟩ | ⟨-, hold⟩
    · exact hbound chain ((mem_boundChains htyped).1 hchain)
    · exact hbound chain (h.bound other entry hold chain hchain)
  nodup chain version := by
    by_cases hnew : chain ∈ before.boundChains ∧ version = before.version
    · obtain ⟨hchain, rfl⟩ := hnew
      rw [waiting_of_bucket (hgated.bucket chain hchain), List.nodup_append]
      refine ⟨h.nodup chain _, List.pairwise_singleton _ id, fun a ha b hb => ?_⟩
      rw [List.mem_singleton.1 hb]
      rintro rfl
      exact h.not_mem_waiting hfree chain _ ha
    · rw [waiting_congr (hgated.bucket_of_ne chain version fun hchain heq => hnew ⟨hchain, heq⟩)]
      exact h.nodup chain version
  bucket_ne_nil chain version := by
    by_cases hnew : chain ∈ before.boundChains ∧ version = before.version
    · obtain ⟨hchain, rfl⟩ := hnew
      rw [hgated.bucket chain hchain]
      simp
    · rw [hgated.bucket_of_ne chain version fun hchain heq => hnew ⟨hchain, heq⟩]
      exact h.bucket_ne_nil chain version

end

/-! ### Acknowledgement -/

section

variable {before after : Store} {chain : ChainId} {version : Version}

theorem Acknowledged.mem_waiting (h : before.Acknowledged chain version after) {other : ChainId}
    {number : Version} {id : EntryId} : id ∈ after.waiting other number ↔
      id ∈ before.waiting other number ∧ ¬ (other = chain ∧ number = version) := by
  by_cases hsame : other = chain ∧ number = version
  · obtain ⟨rfl, rfl⟩ := hsame
    have hnil : after.waiting other number = [] := by
      rw [waiting, h.bucket]
      rfl
    simp [hnil]
  · rw [waiting_congr (h.bucket_of_ne other number fun hchain heq => hsame ⟨hchain, heq⟩)]
    simp [hsame]

/-- After an acknowledgement an entry is what it was, or what is left of it. -/
theorem Acknowledged.held?_cases (h : before.Acknowledged chain version after) {id : EntryId}
    {rest : UnbondingEntry} (hrest : after.held? id = some rest) :
    before.held? id = some rest ∨ ∃ entry, before.held? id = some entry ∧
      rest = entry.acknowledge chain ∧ rest.outstanding ≠ [] := by
  by_cases hid : id ∈ before.waiting chain version
  · rw [h.held id hid, Option.bind_eq_some_iff] at hrest
    obtain ⟨entry, hentry, hleft⟩ := hrest
    exact .inr ⟨entry, hentry, UnbondingEntry.left?_eq_some_iff.1 hleft⟩
  · rw [h.held_of_not_mem id hid] at hrest
    exact .inl hrest

/-- Who waits for whom after an acknowledgement: those who did, but for that chain and version. -/
theorem Mirrored.awaits_acknowledged (h : before.Mirrored)
    (hack : before.Acknowledged chain version after) {other : ChainId} {number : Version}
    {id : EntryId} :
    (∃ rest, after.held? id = some rest ∧ rest.version = number ∧ other ∈ rest.outstanding) ↔
      (∃ entry, before.held? id = some entry ∧ entry.version = number ∧
        other ∈ entry.outstanding) ∧ ¬ (other = chain ∧ number = version) := by
  by_cases hid : id ∈ before.waiting chain version
  · obtain ⟨entry, hentry, rfl, hawaits⟩ := (h.mem_waiting chain version id).1 hid
    rw [hack.held id hid, hentry, Option.bind_some, UnbondingEntry.exists_left?_iff]
    constructor
    · rintro ⟨hnumber, hother, hne⟩
      exact ⟨⟨entry, rfl, hnumber, hother⟩, fun heq => hne heq.1⟩
    · rintro ⟨⟨found, hfound, rfl, hother⟩, hne⟩
      cases hfound
      exact ⟨rfl, hother, fun heq => hne ⟨heq, rfl⟩⟩
  · rw [hack.held_of_not_mem id hid]
    constructor
    · intro hwait
      refine ⟨hwait, ?_⟩
      rintro ⟨rfl, rfl⟩
      exact hid ((h.mem_waiting other number id).2 hwait)
    · intro hwait
      exact hwait.1

/-- An acknowledgement keeps the invariant. -/
theorem Mirrored.acknowledged (h : before.Mirrored)
    (hack : before.Acknowledged chain version after)
    (hbound : ∀ chain, (before.channel? chain).isSome → (after.channel? chain).isSome) :
    after.Mirrored where
  mem_waiting other number id := by
    rw [hack.mem_waiting, h.mem_waiting, h.awaits_acknowledged hack]
  id_eq id rest hrest := by
    rcases hack.held?_cases hrest with hold | ⟨entry, hentry, rfl, -⟩
    · exact h.id_eq id rest hold
    · exact h.id_eq id entry hentry
  outstanding_ne_nil id rest hrest := by
    rcases hack.held?_cases hrest with hold | ⟨entry, hentry, -, hne⟩
    · exact h.outstanding_ne_nil id rest hold
    · exact hne
  sorted id rest hrest := by
    rcases hack.held?_cases hrest with hold | ⟨entry, hentry, rfl, -⟩
    · exact h.sorted id rest hold
    · exact (h.sorted id entry hentry).sublist List.filter_sublist
  bound id rest hrest other hother := by
    rcases hack.held?_cases hrest with hold | ⟨entry, hentry, rfl, -⟩
    · exact hbound other (h.bound id rest hold other hother)
    · have hold := (UnbondingEntry.mem_acknowledge.1 hother).1
      exact hbound other (h.bound id entry hentry other hold)
  nodup other number := by
    by_cases hsame : other = chain ∧ number = version
    · obtain ⟨rfl, rfl⟩ := hsame
      rw [waiting, hack.bucket]
      exact .nil
    · rw [waiting_congr (hack.bucket_of_ne other number fun hchain heq => hsame ⟨hchain, heq⟩)]
      exact h.nodup other number
  bucket_ne_nil other number := by
    by_cases hsame : other = chain ∧ number = version
    · obtain ⟨rfl, rfl⟩ := hsame
      rw [hack.bucket]
      exact (Option.some_ne_none _).symm
    · rw [hack.bucket_of_ne other number fun hchain heq => hsame ⟨hchain, heq⟩]
      exact h.bucket_ne_nil other number

end
/-- **Every call keeps buckets and entries in step**, whatever provider it is asked of. -/
theorem Mirrored.after_call {store : Store} (h : store.Mirrored) (hstore : store.WellFormed)
    (call : Call) (hshort : call.transition.Short store) : (call.after store).Mirrored := by
  have hbound (chain : ChainId) (hchain : (store.channel? chain).isSome) :
      ((call.after store).channel? chain).isSome := by
    obtain ⟨channel, hchannel⟩ := Option.isSome_iff_exists.1 hchain
    rw [call.channel?_after hstore.typed hchannel]
    rfl
  have hstep := call.gateStep hstore h.backed h.bucket_ne_nil hshort
  generalize call.after store = after at hbound hstep
  cases hstep with
  | gated _ hfree hchains hleft => exact h.gated hleft hstore.typed hfree hchains hbound
  | acknowledged _ _ hleft => exact h.acknowledged hleft hbound
  | idle hheld hbucket => exact h.congr hheld hbucket hbound

end Store

/-- A history leaves buckets and entries in step. -/
theorem History.mirrored_after {history : History} (h : history.Short) :
    (after history).Mirrored := by
  induction history using induction with
  | nil => exact .empty
  | snoc past call ih =>
    obtain ⟨hpast, hcall⟩ := short_snoc.1 h
    rw [after_snoc]
    exact (ih hpast).after_call (wellFormed_after hpast) call hcall

/-! ## What the gate answers -/

namespace Unbonding

/-- What the gate answers about buckets agrees with what it answers about entries. -/
structure Indexed (store : Store) : Prop where
  /-- Every bucket can be read. -/
  bucket_reads : ∀ chain version, ∃ ids, (bucket chain version).Tells store ids
  /-- The entry of every id can be read. -/
  entry_reads : ∀ id, ∃ found, (findEntry id).Tells store found
  /-- An id is in a bucket exactly if its entry is of that version and awaits that chain. -/
  mirror : ∀ chain version ids, (bucket chain version).Tells store ids → ∀ id, id ∈ ids ↔
    ∃ entry, (findEntry id).Tells store (some entry) ∧ entry.version = version ∧
      chain ∈ entry.outstanding
  /-- An entry carries the id it is stored under. -/
  id_eq : ∀ id entry, (findEntry id).Tells store (some entry) → entry.id = id
  /-- An entry waits for somebody. -/
  outstanding_ne_nil : ∀ id entry, (findEntry id).Tells store (some entry) → entry.outstanding ≠ []
  /-- The chains that an entry waits for ascend strictly. -/
  sorted : ∀ id entry, (findEntry id).Tells store (some entry) →
    entry.outstanding.Pairwise ChainId.Before
  /-- The chains that an entry waits for are bound. -/
  bound : ∀ id entry, (findEntry id).Tells store (some entry) → ∀ chain ∈ entry.outstanding,
    ∃ channel, (Registry.channelOf chain).Tells store (some channel)
  /-- No id is in a bucket twice. -/
  nodup : ∀ chain version ids, (bucket chain version).Tells store ids → ids.Nodup
  /-- No bucket is stored as the empty list. -/
  stored_ne_nil : ∀ chain version,
    ¬ (Stored.record? Codec.entryIds bucketKind (.bucket chain version)).Tells store (some [])

variable {store : Store}

theorem tells_entry (h : store.WellFormed) {id : EntryId} {found : Option UnbondingEntry} :
    (findEntry id).Tells store found ↔ store.held? id = found :=
  tells_iff (run_entry (h.sound _))

theorem tells_bucket (h : store.WellFormed) {chain : ChainId} {version : Version}
    {ids : List EntryId} :
    (bucket chain version).Tells store ids ↔ store.waiting chain version = ids :=
  tells_iff (run_bucket (h.sound _))

theorem tells_storedBucket (h : store.WellFormed) {chain : ChainId} {version : Version}
    {found : Option (List EntryId)} :
    (Stored.record? Codec.entryIds bucketKind (.bucket chain version)).Tells store found ↔
      store.bucket? chain version = found := by
  have hrun := Stored.run_record? Codec.lawful_entryIds bucketKind (.bucket chain version) id
    (fun record hrecord => ⟨⟨hrecord, fun _ _ => trivial⟩, rfl⟩) (h.sound _)
  rw [Option.map_id_fun] at hrun
  exact tells_iff hrun

/-- The invariant on records, as the gate's own answers. -/
theorem indexed_of_mirrored (h : store.Mirrored) (hstore : store.WellFormed) : Indexed store where
  bucket_reads chain version := ⟨_, (tells_bucket hstore).2 rfl⟩
  entry_reads id := ⟨_, (tells_entry hstore).2 rfl⟩
  mirror chain version ids hids id := by
    rw [← (tells_bucket hstore).1 hids]
    simp only [tells_entry hstore]
    exact h.mem_waiting chain version id
  id_eq id entry hentry := h.id_eq id entry ((tells_entry hstore).1 hentry)
  outstanding_ne_nil id entry hentry := h.outstanding_ne_nil id entry ((tells_entry hstore).1 hentry)
  sorted id entry hentry := h.sorted id entry ((tells_entry hstore).1 hentry)
  bound id entry hentry chain hchain := by
    have hchannel := h.bound id entry ((tells_entry hstore).1 hentry) chain hchain
    simp only [Registry.tells_channelOf hstore.typed]
    exact Option.isSome_iff_exists.1 hchannel
  nodup chain version ids hids := by
    rw [← (tells_bucket hstore).1 hids]
    exact h.nodup chain version
  stored_ne_nil chain version hnil :=
    h.bucket_ne_nil chain version ((tells_storedBucket hstore).1 hnil)

/-- **Index and entries mirror each other.**  After every run whose lists and strings fit in memory,
direct or in transactions over a store that may fail at any point, by any providers, successful or
failing, the gate's answers about buckets and entries agree. -/
theorem indexed_after {run : Run Call} (h : run.committed.Short) : Indexed run.after := by
  rw [run.after_eq]
  exact indexed_of_mirrored (History.mirrored_after h) (History.wellFormed_after h)

/-- A provider on a transport with a channel to each of two chains. -/
def twoChains : Service where
  lookup := (Lookup.empty.withPath .provider ⟨"ch-0"⟩ ⟨"conn-0"⟩ ⟨"client-0"⟩ ⟨"bar"⟩).withPath
    .provider ⟨"ch-1"⟩ ⟨"conn-1"⟩ ⟨"client-1"⟩ ⟨"foo"⟩
  closer := .accepting
  capabilities := .granting []

/-- Two chains are bound, an entry is created that waits for both, and in a transaction one of them
acknowledges.  It does so again in a transaction that fails. -/
def halfAcknowledged : Run Call :=
  let acknowledge : Script Call :=
    .make ⟨twoChains, .acknowledgePacket ⟨"ch-1"⟩ ⟨0, ["token"]⟩⟩ fun _ => .stop (.ok ())
  [.direct ⟨twoChains, .openConfirm 5 ⟨"ch-0"⟩⟩, .direct ⟨twoChains, .openConfirm 6 ⟨"ch-1"⟩⟩,
    .direct ⟨twoChains, .unbondingCreated ⟨7, "validator", 6⟩⟩,
    .execute ⟨acknowledge, fun _ _ => none⟩, .execute ⟨acknowledge, fun _ _ => some (.io "disk")⟩]

/-- The entry waits for the first chain only. -/
theorem indexed_after_halfAcknowledged : halfAcknowledged.committed.Short ∧
    Indexed halfAcknowledged.after ∧
    (bucket ⟨"bar"⟩ 0).Tells halfAcknowledged.after [7] ∧
    (bucket ⟨"foo"⟩ 0).Tells halfAcknowledged.after [] := by
  have hshort : halfAcknowledged.committed.Short := by decide +kernel
  exact ⟨hshort, indexed_after hshort, by decide +kernel, by decide +kernel⟩

end Unbonding
end SharedSecurity
