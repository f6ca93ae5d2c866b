import SharedSecurity.Proofs.Blocks
import SharedSecurity.Proofs.Dating
import SharedSecurity.Proofs.Genesis
import SharedSecurity.Proofs.Transactions

/-!
# Numbered validator sets

Ending a block records the height under the current version and then moves on to the next one; the
two writes are of one transaction, or else a block that cannot be ended would leave its height
behind.  So over a run of transactions the heights of the ended blocks stand under consecutive
versions, from the one that the genesis set, and the current version is the one after the last.

## What is here

* `Store.Numbered` — the versions and heights in a store are those of a list of ended blocks, and
  every version on record is in their range.
* `Store.Numbered.step`, `Store.Numbered.follows` — one call adds the block that it ended, if any,
  and so a run adds all of its blocks, in order.
* `Transaction.Ordinary` — transactions that call anything but a genesis, go on as they like, and
  are given up if a block cannot be ended.
* `Versioning.Chronicle`, `Versioning.chronicle_after` — **the count is exact**, over every run.
-/

set_option autoImplicit false
namespace SharedSecurity

open Transition
open Unbonding renaming entry? → findEntry

/-! ## What a store says of the ended blocks -/

/-- What stands in a list with one more item. -/
theorem getElem?_snoc_eq_some_iff {α : Type} {xs : List α} {x y : α} {i : Nat} :
    (xs ++ [x])[i]? = some y ↔ xs[i]? = some y ∨ i = xs.length ∧ x = y := by
  rcases Nat.lt_trichotomy i xs.length with hlt | rfl | hgt
  · rw [List.getElem?_append_left hlt]
    simp [Nat.ne_of_lt hlt]
  · simp
  · rw [List.getElem?_eq_none (by simp; omega), List.getElem?_eq_none (by omega)]
    simp [Nat.ne_of_gt hgt]

/-- The block that a call ended: its height, and the version that was told. -/
def Performed.block? : Performed Call → Option (Height × Version)
  | ⟨_, ⟨_, .endBlock height⟩, .ok version⟩ => some (height, version)
  | _ => none

/-- The versions and heights in a store are those of the blocks that were ended since the first
version was set. -/
structure Store.Numbered (first : Version) (blocks : List (Height × Version)) (store : Store) :
    Prop where
  /-- No version on record is before the first or after the current one. -/
  dated : store.Dated first.toNat (first.toNat + blocks.length)
  /-- The current version is as many after the first as there are blocks. -/
  version : store.version.toNat = first.toNat + blocks.length
  /-- Each block has told the version that came after it. -/
  told : ∀ i block, blocks[i]? = some block → block.2.toNat = first.toNat + i + 1
  /-- The height of each block is recorded for the version that it ended. -/
  height : ∀ i block, blocks[i]? = some block → ∀ version : Version,
    version.toNat = first.toNat + i → store.record? (.heightOf version) = some block.1
  /-- No other heights are recorded. -/
  unrecorded : ∀ version : Version,
    version.toNat < first.toNat ∨ first.toNat + blocks.length ≤ version.toNat →
      store.get? (Key.heightOf version).bytes = none

namespace Operation

variable {operation : Operation}

theorem not_footprint_version (hgenesis : ∀ genesis, operation ≠ .initGenesis genesis)
    (hblock : ∀ height, operation ≠ .endBlock height) : ¬ operation.footprint .version := by
  cases operation with
  | initGenesis genesis => exact absurd rfl (hgenesis genesis)
  | endBlock height => exact absurd rfl (hblock height)
  | _ => simp [footprint]

theorem not_footprint_heightOf (hblock : ∀ height, operation ≠ .endBlock height)
    (version : Version) : ¬ operation.footprint (.heightOf version) := by
  cases operation with
  | endBlock height => exact absurd rfl (hblock height)
  | _ => simp [footprint]

end Operation

/-- A call that loads no genesis, to a provider that records heights. -/
structure Call.Ordinary (call : Call) : Prop where
  /-- It loads no genesis. -/
  later : ∀ genesis, call.operation ≠ .initGenesis genesis
  /-- Heights are recorded. -/
  records : call.service.config.recordHeights = true

/-- A call to end a block. -/
def Call.EndsBlock (call : Call) : Prop := ∃ height, call.operation = .endBlock height

namespace Store

variable {store : Store}

/-- The store after the height of a block is recorded and the next version set. -/
def ended (store : Store) (height : Height) (following : Version) : Store :=
  (store.hold (.heightOf store.version) height).hold .version following

/-- The height of the block stands under the version that was current. -/
theorem record?_heightOf_ended (store : Store) (height : Height) (following : Version) :
    (store.ended height following).record? (.heightOf store.version) = some height :=
  (record?_hold_of_ne _ (by simp : Key.heightOf store.version ≠ .version) following).trans
    (record?_hold_self store trivial)

/-- The heights under other versions are not touched. -/
theorem get?_heightOf_ended {version : Version} (hne : version ≠ store.version) (height : Height)
    (following : Version) : (store.ended height following).get? (Key.heightOf version).bytes =
      store.get? (Key.heightOf version).bytes :=
  (get?_hold_of_ne _ (by simp : Key.heightOf version ≠ .version) following).trans
    (get?_hold_of_ne store (fun heq => hne (Key.heightOf.inj heq)) height)

end Store

namespace Store.Numbered

variable {first : Version} {blocks : List (Height × Version)} {store : Store}

/-- A store is numbered without blocks after a genesis was loaded. -/
theorem loaded (loader : Service) (genesis : ProviderGenesis) :
    Numbered genesis.version [] (loader.loaded genesis) := by
  have hnone (key : Key) (hkey : ¬ (Operation.initGenesis genesis).footprint key) :
      (loader.loaded genesis).get? key.bytes = none :=
    Call.get?_after ⟨loader, .initGenesis genesis⟩ hkey .empty
  have hversion : (loader.loaded genesis).version = genesis.version :=
    congrArg (Option.getD · 0) (loader.version_loaded genesis)
  refine ⟨⟨fun bytes value hvalue => ?_, ?_⟩, congrArg UInt64.toNat hversion, nofun, nofun,
    fun version _ => hnone _ (by simp [Operation.footprint])⟩
  · obtain ⟨key, record, rfl, rfl⟩ := loader.typed_loaded genesis bytes value hvalue
    refine ⟨key, record, rfl, rfl, ?_⟩
    cases key with
    | entry id => simp [hnone (.entry id) (by simp [Operation.footprint])] at hvalue
    | bucket chain number =>
      simp [hnone (.bucket chain number) (by simp [Operation.footprint])] at hvalue
    | _ => trivial
  · rw [hversion]
    exact ⟨Nat.le_refl _, Nat.le_refl _⟩

/-- The end of a block adds it. -/
theorem endBlock (h : Numbered first blocks store) {service : Service}
    (hrecords : service.config.recordHeights = true) {height : Height} {following : Version}
    (htells : (service.endBlock height).Tells store following) :
    Numbered first (blocks ++ [(height, following)])
      (Call.after ⟨service, .endBlock height⟩ store) := by
  obtain ⟨outputs, hrun⟩ := service.endBlock_cases height h.dated.typed
  have hnext := (Service.tells_endBlock h.dated.typed).1 htells
  have hafter : Call.after ⟨service, .endBlock height⟩ store = store.ended height following := by
    show ((service.endBlock height).run store).store = _
    rw [hrun, hnext, closing, if_pos hrecords]
    rfl
  have hfollowing := Versioning.next_eq_ok_iff.1 hnext
  have hcount := h.version
  rw [hafter]
  constructor
  case dated =>
    have hlater : store.Dated first.toNat
        (first.toNat + (blocks ++ [(height, following)]).length) := h.dated.mono (by simp)
    refine (hlater.hold (by simp : Key.heightOf store.version ≠ .version) trivial).hold_version ?_
    rw [Versioning.Between, List.length_append, List.length_singleton]
    omega
  case version =>
    rw [ended, version_hold, List.length_append, List.length_singleton]
    omega
  case told =>
    intro i block hblock
    rcases getElem?_snoc_eq_some_iff.1 hblock with hold | ⟨rfl, rfl⟩
    · exact h.told i block hold
    · exact hfollowing.trans (by omega)
  case height =>
    intro i block hblock version hversion
    rcases getElem?_snoc_eq_some_iff.1 hblock with hold | ⟨rfl, rfl⟩
    · obtain ⟨hi, -⟩ := List.getElem?_eq_some_iff.1 hold
      have hne : version ≠ store.version := by
        rintro rfl
        omega
      exact (record?_congr (get?_heightOf_ended hne height following)).trans
        (h.height i block hold version hversion)
    · obtain rfl : version = store.version := UInt64.toNat_inj.1 (by omega)
      exact record?_heightOf_ended store height following
  case unrecorded =>
    intro version hversion
    rw [List.length_append, List.length_singleton] at hversion
    have hne : version ≠ store.version := by
      rintro rfl
      omega
    rw [get?_heightOf_ended hne]
    exact h.unrecorded version (by omega)

/-- A call that ends no block changes no version or height. -/
theorem other (h : Numbered first blocks store) {call : Call}
    (hgenesis : ∀ genesis, call.operation ≠ .initGenesis genesis)
    (hblock : ∀ height, call.operation ≠ .endBlock height) :
    Numbered first blocks (call.after store) := by
  have hversion := Operation.not_footprint_version hgenesis hblock
  have hheight (version : Version) := Operation.not_footprint_heightOf hblock version
  constructor
  case dated => exact (call.service.keeps_perform hgenesis hblock store h.dated).1
  case version =>
    have hsame : (call.after store).version = store.version :=
      congrArg (Option.getD · 0) (call.record?_after hversion store)
    rw [hsame]
    exact h.version
  case told => exact h.told
  case height =>
    intro i block hi version hversion
    exact (call.record?_after (hheight version) store).trans
      (h.height i block hi version hversion)
  case unrecorded =>
    intro version hversion
    exact (call.get?_after (hheight version) store).trans (h.unrecorded version hversion)

/-- **One call** adds the block that it ended, if it ended any. -/
theorem step (h : Numbered first blocks store) {call : Call} (hcall : call.Ordinary)
    (hended : call.EndsBlock → (Steps.performed call store).result.isOk) :
    Numbered first (blocks ++ (Steps.performed call store).block?.toList) (call.after store) := by
  obtain ⟨service, operation⟩ := call
  cases operation with
  | endBlock height =>
    cases hresult : ((service.endBlock height).run store).result with
    | ok following =>
      have hperformed : Steps.performed (⟨service, .endBlock height⟩ : Call) store =
          ⟨store, ⟨service, .endBlock height⟩, .ok following⟩ :=
        congrArg (Performed.mk store (⟨service, .endBlock height⟩ : Call)) hresult
      rw [hperformed]
      exact h.endBlock hcall.records hresult
    | error error =>
      have hok : ((service.endBlock height).run store).result.isOk := hended ⟨height, rfl⟩
      rw [hresult] at hok
      cases hok
  | initGenesis genesis => exact absurd rfl (hcall.later genesis)
  | _ =>
    show Numbered first (blocks ++ []) _
    rw [List.append_nil]
    exact h.other (fun _ => nofun) fun _ => nofun

/-- Calls add the blocks that they ended, in order. -/
theorem follows (h : Numbered first blocks store) {performed : List (Performed Call)}
    {after : Store} (hfollows : Follows store performed after)
    (hcalls : ∀ one ∈ performed,
      one.step.Ordinary ∧ (one.step.EndsBlock → one.result.isOk)) :
    Numbered first (blocks ++ performed.filterMap Performed.block?) after := by
  induction hfollows generalizing blocks with
  | nil => rwa [List.filterMap_nil, List.append_nil]
  | @cons store after call rest _ ih =>
    obtain ⟨⟨hcall, hended⟩, hrest⟩ := List.forall_mem_cons.1 hcalls
    have hblocks : (Steps.performed call store :: rest).filterMap Performed.block? =
        (Steps.performed call store).block?.toList ++ rest.filterMap Performed.block? := by
      cases hblock : (Steps.performed call store).block? <;> simp [hblock]
    rw [hblocks, ← List.append_assoc]
    exact ih (h.step hcall hended) hrest

end Store.Numbered

/-! ## Transactions -/

/-- The blocks that the calls of a run ended, of those whose effects stay. -/
def Run.blocks (run : Run Call) : List (Height × Version) := run.kept.filterMap Performed.block?

namespace Transaction

/-- A transaction that loads no genesis, calls providers that record heights, and is given up if a
block cannot be ended. -/
structure Ordinary (transaction : Transaction Call) : Prop where
  /-- All that it may call is ordinary. -/
  calls : transaction.script.All Call.Ordinary
  /-- A block that cannot be ended is the end of it. -/
  givesUp : transaction.script.GivesUpAt Call.EndsBlock

/-- Ordinary calls one after the other, up to the first that fails, are an ordinary transaction. -/
theorem ordinary_inSequence {calls : List Call} (h : ∀ call ∈ calls, call.Ordinary)
    (faultOf : Nat → Request → Option StoreFault) : Ordinary ⟨.inSequence calls, faultOf⟩ :=
  ⟨Script.all_inSequence h, Script.givesUpAt_inSequence _ calls⟩

/-- What an ordinary transaction keeps are ordinary calls, and no end of a block that failed. -/
theorem Ordinary.kept {transaction : Transaction Call} (h : transaction.Ordinary) (store : Store) :
    ∀ one ∈ transaction.kept store,
      one.step.Ordinary ∧ (one.step.EndsBlock → one.result.isOk) := by
  rcases transaction.cases store with ⟨-, hkept, -⟩ | ⟨hcommits, hshown, hperformed, hkept⟩
  · rw [hkept]
    exact List.forall_mem_nil _
  · have hok : (transaction.script.transition.run store).result = .ok () :=
      (congrArg Outcome.result hshown).symm.trans hcommits
    rw [hkept, hperformed]
    exact fun one hone => ⟨h.calls.performed store one hone, h.givesUp.isOk hok one hone⟩

/-- A transaction leaves alone what none of its calls may write. -/
theorem get?_after {transaction : Transaction Call} {key : Key}
    (hkey : transaction.script.All fun call => ¬ call.operation.footprint key) (store : Store) :
    (transaction.after store).get? key.bytes = store.get? key.bytes := by
  have hturn : Turn.All (fun call : Call => ¬ call.operation.footprint key)
      (.execute transaction) := hkey
  have hafter : transaction.after store =
      History.afterFrom store (Turn.committed store (.execute transaction)) :=
    Turn.after_eq (.execute transaction) store
  rw [hafter]
  exact History.get?_afterFrom (List.forall_mem_map.2 (hturn.kept store)) store

/-- A transaction that loads a genesis. -/
def loading (loader : Service) (genesis : ProviderGenesis)
    (faultOf : Nat → Request → Option StoreFault) : Transaction Call :=
  ⟨.inSequence [⟨loader, .initGenesis genesis⟩], faultOf⟩

/-- Once committed, it has left what the genesis comes to, and has ended no block. -/
theorem loading_committed {loader : Service} {genesis : ProviderGenesis}
    {faultOf : Nat → Request → Option StoreFault}
    (h : (loading loader genesis faultOf).Commits .empty) :
    (loading loader genesis faultOf).after .empty = loader.loaded genesis ∧
      ((loading loader genesis faultOf).kept .empty).filterMap Performed.block? = [] := by
  rcases (loading loader genesis faultOf).cases .empty with
    ⟨hnot, -⟩ | ⟨-, hshown, hperformed, hkept⟩
  · exact absurd h hnot
  · rw [loading, Script.run_inSequence_singleton] at hshown
    rw [hkept, hperformed, loading, Script.performed_inSequence_singleton]
    exact ⟨congrArg Outcome.store hshown, rfl⟩

end Transaction

/-- **A run of transactions** adds the blocks that its committed calls ended, in order. -/
theorem Store.Numbered.transactions {first : Version} {blocks : List (Height × Version)}
    {store : Store} (h : Numbered first blocks store) {transactions : List (Transaction Call)}
    (hordinary : ∀ transaction ∈ transactions, transaction.Ordinary) :
    Numbered first (blocks ++
        (Run.keptFrom store (.ofTransactions transactions)).filterMap Performed.block?)
      (Run.afterFrom store (.ofTransactions transactions)) := by
  refine h.follows (Run.follows_from store (.ofTransactions transactions)) ?_
  refine Run.forall_keptFrom (fun turn hturn => ?_) store
  obtain ⟨transaction, hmem, rfl⟩ := List.mem_map.1 hturn
  exact (hordinary transaction hmem).kept

/-! ## The count is exact -/

namespace Versioning

/-- The versions and heights that a provider tells after blocks were ended, and what further
transactions can do to them. -/
structure Chronicle (first : Version) (blocks : List (Height × Version)) (store : Store) :
    Prop where
  /-- The current version is as many after the first as there are blocks. -/
  current : ∃ version, Versioning.current.Tells store version ∧
    version.toNat = first.toNat + blocks.length
  /-- Each block has told the version that came after it. -/
  told : ∀ i block, blocks[i]? = some block → block.2.toNat = first.toNat + i + 1
  /-- The height of each block is found under the version that it ended. -/
  found : ∀ i block, blocks[i]? = some block → ∀ version : Version,
    version.toNat = first.toNat + i → (height version).Tells store block.1
  /-- There is no record of a height for any other version. -/
  unrecorded : ∀ version : Version,
    version.toNat < first.toNat ∨ first.toNat + blocks.length ≤ version.toNat →
      store.get? (Key.heightOf version).bytes = none
  /-- Stored entries have versions from the first to the current one. -/
  entries : ∀ id entry, (findEntry id).Tells store (some entry) →
    Between first.toNat (first.toNat + blocks.length) entry.version
  /-- Buckets are for versions from the first to the current one. -/
  buckets : ∀ chain version, (store.get? (Key.bucket chain version).bytes).isSome →
    Between first.toNat (first.toNat + blocks.length) version
  /-- At the greatest version no block can be ended: a transaction to do so is refused, if it meets
  no fault, and changes nothing. -/
  exhausted : ∀ version : Version, version.toNat + 1 = UInt64.size →
    version.toNat = first.toNat + blocks.length → ∀ service height faultOf,
      let ending : Transaction Call := ⟨.inSequence [⟨service, .endBlock height⟩], faultOf⟩
      ending.after store = store ∧
        ((ending.outcome store).result = .error (.versionOverflow version) ∨
          ∃ fault, (⟨store, faultOf, 0⟩ : UnreliableStore).Meets fault ∧
            (ending.outcome store).result = .error (.store fault))
  /-- Only the end of a block, or a genesis, changes the current version. -/
  currentKept : ∀ transaction : Transaction Call,
    (transaction.script.All fun call =>
      (∀ genesis, call.operation ≠ .initGenesis genesis) ∧
        ∀ height, call.operation ≠ .endBlock height) →
    (transaction.after store).get? Key.version.bytes = store.get? Key.version.bytes
  /-- Only the end of a block changes which heights are recorded. -/
  heightsKept : ∀ transaction : Transaction Call,
    (transaction.script.All fun call => ∀ height, call.operation ≠ .endBlock height) →
    ∀ version, (transaction.after store).get? (Key.heightOf version).bytes =
      store.get? (Key.heightOf version).bytes

/-- The height of a version is found if it is recorded. -/
theorem tells_height {store : Store} (h : store.Typed) {version : Version} {recorded : Height}
    (hrecord : store.record? (.heightOf version) = some recorded) :
    (height version).Tells store recorded := by
  have hread := Stored.run_read? (.heightOf version) id
    (fun record _ => Stored.decodeWord_ofWord "valset update block height" record)
    (h.sound (.heightOf version) fun _ => trivial)
  rw [height, Stored.word?, tells_bind_of_run hread, hrecord]
  rfl

/-- At the greatest version a transaction to end a block is refused. -/
theorem outcome_endBlock_of_last {store : Store} (h : store.Typed)
    (hlast : store.version.toNat + 1 = UInt64.size) (service : Service) (height : Height)
    (faultOf : Nat → Request → Option StoreFault) :
    let ending : Transaction Call := ⟨.inSequence [⟨service, .endBlock height⟩], faultOf⟩
    ending.after store = store ∧
      ((ending.outcome store).result = .error (.versionOverflow store.version) ∨
        ∃ fault, (⟨store, faultOf, 0⟩ : UnreliableStore).Meets fault ∧
          (ending.outcome store).result = .error (.store fault)) := by
  intro ending
  have hcall : (Call.transition ⟨service, .endBlock height⟩).run store =
      ⟨.error (.versionOverflow store.version), store.closing service height, []⟩ := by
    obtain ⟨outputs, hrun⟩ := service.endBlock_cases height h
    rwa [next_eq_error_iff.2 ⟨rfl, hlast⟩] at hrun
  have hdirect : (ending.script.transition.run store).result =
      .error (.versionOverflow store.version) := by
    rw [Script.run_inSequence_singleton]
    exact congrArg (fun outcome => outcome.result.map fun _ => ()) hcall
  have hgiven (error : ProviderError) (hresult : (ending.outcome store).result = .error error) :
      ending.after store = store := by
    rcases ending.cases store with ⟨-, -, hafter⟩ | ⟨hcommits, -⟩
    · exact hafter
    · cases hresult.symm.trans hcommits
  rcases ending.script.transition.result_execute_cases ⟨store, faultOf, 0⟩ with
    hresult | ⟨fault, hmeets, hresult⟩
  · exact ⟨hgiven _ (hresult.trans hdirect), .inl (hresult.trans hdirect)⟩
  · exact ⟨hgiven _ hresult, .inr ⟨fault, hmeets, hresult⟩⟩

/-- **The count is exact** after every run that starts with a genesis: versions and heights are
those of the ended blocks, and of no others. -/
theorem chronicle_after {loader : Service} {genesis : ProviderGenesis}
    {faultOf : Nat → Request → Option StoreFault} {transactions : List (Transaction Call)}
    (hloaded : (Transaction.loading loader genesis faultOf).Commits .empty)
    (hordinary : ∀ transaction ∈ transactions, transaction.Ordinary) :
    Chronicle genesis.version
      (Run.ofTransactions (.loading loader genesis faultOf :: transactions)).blocks
      (Run.ofTransactions (.loading loader genesis faultOf :: transactions)).after := by
  obtain ⟨hafter, hnone⟩ := Transaction.loading_committed hloaded
  have hnumbered := (Store.Numbered.loaded loader genesis).transactions hordinary
  rw [List.nil_append, ← hafter] at hnumbered
  have hblocks : (Run.ofTransactions (.loading loader genesis faultOf :: transactions)).blocks =
      (Run.keptFrom ((Transaction.loading loader genesis faultOf).after .empty)
        (.ofTransactions transactions)).filterMap Performed.block? := by
    refine List.filterMap_append.trans ?_
    exact (congrArg (· ++ _) hnone).trans (List.nil_append _)
  rw [hblocks]
  have htyped := hnumbered.dated.typed
  have hcurrent := run_current (htyped.sound .version fun _ => trivial)
  constructor
  case current => exact ⟨_, (tells_iff hcurrent).2 rfl, hnumbered.version⟩
  case told => exact hnumbered.told
  case found =>
    intro i block hblock version hversion
    exact tells_height htyped (hnumbered.height i block hblock version hversion)
  case unrecorded => exact hnumbered.unrecorded
  case entries => exact fun _ _ => Unbonding.between_of_tells_entry hnumbered.dated
  case buckets =>
    intro chain version hbucket
    obtain ⟨value, hvalue⟩ := Option.isSome_iff_exists.1 hbucket
    obtain ⟨_, -, hdated⟩ := hnumbered.dated.record hvalue
    exact hdated
  case exhausted =>
    intro version hlast hversion service height faultOf
    obtain rfl := UInt64.toNat_inj.1 (hversion.trans hnumbered.version.symm)
    exact outcome_endBlock_of_last htyped hlast service height faultOf
  case currentKept =>
    intro transaction hcalls
    refine transaction.get?_after (hcalls.imp fun call hcall => ?_) _
    exact Operation.not_footprint_version hcall.1 hcall.2
  case heightsKept =>
    intro transaction hcalls version
    refine transaction.get?_after (hcalls.imp fun call hcall => ?_) _
    exact Operation.not_footprint_heightOf hcall version

/-- A genesis of version 7 is loaded. -/
def loadSeventh : Transaction Call :=
  .loading Registry.racedProvider ⟨.provider, 7, []⟩ fun _ _ => none

/-- A chain is bound and an unbonding begins.  Four times a block is to be ended: the second time
the transaction goes on to a call that fails, and the third time it cannot be committed. -/
def rolledBack : List (Transaction Call) :=
  [⟨.inSequence [⟨Registry.racedProvider, .openConfirm 5 ⟨"ch-0"⟩⟩], fun _ _ => none⟩,
    ⟨.inSequence [⟨Registry.racedProvider, .unbondingCreated ⟨1, "validator", 5⟩⟩,
      ⟨Registry.racedProvider, .endBlock 10⟩], fun _ _ => none⟩,
    ⟨.inSequence [⟨Registry.racedProvider, .endBlock 11⟩,
      ⟨Registry.racedProvider, .acknowledgePacket ⟨"ch-9"⟩ ⟨7, []⟩⟩], fun _ _ => none⟩,
    ⟨.inSequence [⟨Registry.racedProvider, .endBlock 12⟩], fun
      | _, .batch _ => some (.io "disk")
      | _, _ => none⟩,
    ⟨.inSequence [⟨Registry.racedProvider, .endBlock 13⟩], fun _ _ => none⟩]

/-- Two blocks were ended, and one entry waits with the version before them. -/
theorem chronicle_after_rolledBack :
    loadSeventh.Commits .empty ∧ (∀ transaction ∈ rolledBack, transaction.Ordinary) ∧
      Chronicle 7 [(10, 8), (13, 9)] (Run.ofTransactions (loadSeventh :: rolledBack)).after ∧
      (findEntry 1).Tells (Run.ofTransactions (loadSeventh :: rolledBack)).after
        (some ⟨1, 7, [⟨"foo"⟩]⟩) := by
  have hloaded : loadSeventh.Commits .empty := by decide +kernel
  have hordinary : ∀ transaction ∈ rolledBack, transaction.Ordinary := by
    have hcall {operation : Operation} (hlater : ∀ genesis, operation ≠ .initGenesis genesis) :
        Call.Ordinary ⟨Registry.racedProvider, operation⟩ := ⟨hlater, rfl⟩
    simp [rolledBack, hcall, Transaction.ordinary_inSequence]
  have hblocks : (Run.ofTransactions (loadSeventh :: rolledBack)).blocks =
      [(10, 8), (13, 9)] := by
    decide +kernel
  have hchronicle : Chronicle 7 (Run.ofTransactions (loadSeventh :: rolledBack)).blocks
      (Run.ofTransactions (loadSeventh :: rolledBack)).after := chronicle_after hloaded hordinary
  rw [hblocks] at hchronicle
  exact ⟨hloaded, hordinary, hchronicle, by decide +kernel⟩

end Versioning
end SharedSecurity
