import Mathlib.Algebra.Group.Action.Defs
import SharedSecurity.Proofs.Measured

/-!
# Metrics and store reconcile

As long as no transaction is given up, so that what was measured was also kept, the counters of a
provider can be read off its store and its answers.  The laws about single calls add up over a
history, call by call; modulo the size of a word, where the counters wrap.

* `Metrics.Balanced` — the counters in terms of the records and of what the calls came to, and
  `Metrics.Balanced.after_call`, which every call keeps.
* `Metrics.reconciled_after` — **metrics and store reconcile after every run** of which nothing is
  given up.  Slash acknowledgements are counted by the hash of the chain's name, so chains with the
  same hash are counted together.
-/

set_option autoImplicit false
namespace SharedSecurity

open Transition SlashQueue

/-! ## Histories -/

namespace History

/-- The actions that calls on a store perform. -/
def performed : Store → History → List (Performed Action)
  | _, [] => []
  | store, call :: rest =>
    Steps.performed (Action.ask call) store :: performed (call.after store) rest

theorem follows_performed (store : Store) (history : History) :
    Follows store (performed store history) (afterFrom store history) := by
  induction history generalizing store with
  | nil => exact .nil store
  | cons call rest ih => exact .cons (.ask call) (ih _)

theorem short_performed {store : Store} {history : History} (h : ShortFrom store history) :
    SlashQueue.Short (performed store history) := by
  induction history generalizing store with
  | nil => exact List.forall_mem_nil _
  | cons call rest ih => exact List.forall_mem_cons.2 ⟨h.1, ih h.2⟩

theorem performed_snoc (store : Store) (past : History) (call : Call) :
    performed store (past ++ [call]) =
      performed store past ++ [Steps.performed (Action.ask call) (afterFrom store past)] := by
  induction past generalizing store with
  | nil => rfl
  | cons first rest ih => exact congrArg (_ :: ·) (ih _)

/-- The counters after a history. -/
def metrics (history : History) : Metrics :=
  ({} : Metrics).recordAll (Output.measurements (outputsFrom .empty history))

theorem metrics_snoc (past : History) (call : Call) :
    metrics (past ++ [call]) = (metrics past).recordAll (call.measured (after past)) := by
  rw [metrics, outputsFrom_append, Output.measurements_append, Metrics.recordAll_append]
  have hlast : outputsFrom (after past) [call] = call.outputs (after past) := List.append_nil _
  exact congrArg (fun outputs => (metrics past).recordAll (Output.measurements outputs)) hlast

end History

/-! ## The invariant -/

namespace Metrics

/-- The counters in terms of the records and of what actions came to. -/
structure Balanced (metrics : Metrics) (store : Store) (performed : List (Performed Action)) :
    Prop where
  /-- The bound chains are counted. -/
  channels : metrics.channelsBound = UInt64.ofNat store.boundChains.length
  /-- The entries that are held are those created and not yet released. -/
  entries : metrics.entriesCreated =
    metrics.entriesCompleted + UInt64.ofNat store.entryKeys.length
  /-- The refused confirms are counted. -/
  duplicates : metrics.duplicatesRejected =
    UInt64.ofNat (performed.countP Performed.refusesDuplicate)
  /-- The gauge shows the current version. -/
  version : metrics.Shows store.version
  /-- The queued tokens are counted under the names of their chains. -/
  slashAcks : ∃ labels, metrics.slashAcks = countAll labels ∧
    ∀ chain : ChainId, labels.count chain.name = (queued chain performed).length

/-- **Every call keeps the balance**, by the law for each counter. -/
theorem Balanced.after_call {metrics : Metrics} {store : Store}
    {performed : List (Performed Action)} (h : Balanced metrics store performed)
    (hstore : store.WellFormed) (hmirrored : store.Mirrored) (call : Call)
    (hshort : call.transition.Short store) :
    Balanced (metrics.recordAll (call.measured store)) (call.after store)
      (performed ++ [Steps.performed (Action.ask call) store]) where
  channels := by
    rw [channelsBound_recordAll, h.channels, call.length_boundChains_after hstore.typed,
      UInt64.ofNat_add]
  entries := by
    obtain ⟨released, hreleased, hlength⟩ := call.length_entries_after hstore hmirrored hshort
    -- the law is one of numbers, and the counters wrap
    have hwords := congrArg UInt64.ofNat hlength
    rw [UInt64.ofNat_add, UInt64.ofNat_add] at hwords
    rw [entriesCreated_recordAll, entriesCompleted_recordAll, h.entries, hreleased,
      UInt64.add_assoc, hwords, UInt64.add_assoc, UInt64.add_comm (UInt64.ofNat released)]
  duplicates := by
    rw [duplicatesRejected_recordAll, h.duplicates, call.count_duplicates hstore.typed,
      List.countP_append, List.countP_singleton, UInt64.ofNat_add]
  version := call.shows_after hstore.typed h.version
  slashAcks := by
    obtain ⟨known, hknown, hcount⟩ := h.slashAcks
    refine ⟨known ++ labels (call.measured store), ?_, fun chain => ?_⟩
    · rw [slashAcks_recordAll, hknown, countAll, countAll, List.foldl_append]
    · rw [List.count_append, hcount, call.count_labels hstore hmirrored hshort, queued, queued,
        List.flatMap_append, List.length_append, List.flatMap_singleton]

end Metrics

/-- A history leaves balanced counters. -/
theorem History.balanced {history : History} (h : history.Short) :
    history.metrics.Balanced history.after (performed .empty history) := by
  induction history using induction with
  | nil => exact ⟨rfl, rfl, rfl, rfl, [], rfl, fun _ => rfl⟩
  | snoc past call ih =>
    obtain ⟨hpast, hcall⟩ := short_snoc.1 h
    -- entries can only be counted while buckets say what is true, which the past has seen to
    rw [metrics_snoc, after_snoc, performed_snoc]
    exact (ih hpast).after_call (wellFormed_after hpast) (mirrored_after hpast) call hcall

/-! ## Runs -/

/-- The counters after a run. -/
def Run.metrics (run : Run Call) : Metrics :=
  ({} : Metrics).recordAll (Output.measurements run.outputs)

theorem Run.metrics_of_commits {run : Run Call} (h : run.Commits) :
    run.metrics = run.committed.metrics := by
  rw [metrics, outputs_of_commits h, run.follows.outputs_eq]
  rfl

namespace Metrics

/-- No other chain for which something was queued has a name with the same hash. -/
def CountedAlone (chain : ChainId) (performed : List (Performed Action)) : Prop :=
  ∀ other : ChainId, other ≠ chain → labelHash other.name = labelHash chain.name →
    queued other performed = []

/-- The chains are those, each once, whose names have the same hash as that of a chain, or at least
those of them for which something was queued. -/
structure CountedTogether (chain : ChainId) (chains : List ChainId)
    (performed : List (Performed Action)) : Prop where
  /-- None is there twice. -/
  nodup : chains.Nodup
  /-- Their names have the hash. -/
  hash : ∀ other ∈ chains, labelHash other.name = labelHash chain.name
  /-- No other chain with the hash has something queued. -/
  others : ∀ other, other ∉ chains → labelHash other.name = labelHash chain.name →
    queued other performed = []

/-- Metrics agree with what can be read from the store and with what actions came to. -/
structure Reconciled (metrics : Metrics) (store : Store) (performed : List (Performed Action)) :
    Prop where
  /-- As many channels are counted as chains are bound. -/
  channels : ∃ chains, Registry.boundChains.Tells store chains ∧
    metrics.channelsBound = UInt64.ofNat chains.length
  /-- As many entries are counted as created as are counted as released or are stored. -/
  entries : ∃ entries, (scan KeyFamily.unbondingEntry.stem).Tells store entries ∧
    metrics.entriesCreated = metrics.entriesCompleted + UInt64.ofNat entries.length
  /-- What is pending for a chain can be read. -/
  pending_reads : ∀ chain, ∃ tokens, (pending chain).Tells store tokens
  /-- The tokens of a chain that is alone with its hash are counted under its name: those handed out
  and those pending. -/
  alone : ∀ chain tokens, CountedAlone chain performed → (pending chain).Tells store tokens →
    (metrics.slashAcks.get? chain.name).getD 0 =
      UInt64.ofNat ((delivered chain performed).length + tokens.length)
  /-- The tokens of chains with the same hash are counted in one sample. -/
  together : ∀ chain chains (tokensOf : ChainId → List String),
    CountedTogether chain chains performed →
    (∀ other ∈ chains, (pending other).Tells store (tokensOf other)) →
    tally metrics.slashAcks chain.name = UInt64.ofNat (chains.map fun other =>
      (delivered other performed).length + (tokensOf other).length).sum
  /-- As many refusals are counted as confirms were refused as duplicates. -/
  duplicates : metrics.duplicatesRejected =
    UInt64.ofNat (performed.countP Performed.refusesDuplicate)
  /-- The gauge shows the current version, or the greatest signed word. -/
  version : ∃ version, Versioning.current.Tells store version ∧
    metrics.version.toNat = min version.toNat (2 ^ 63 - 1)

/-- Over distinct names, which are those of the labels in question, the counts add up. -/
theorem countP_eq_sum_count {labels names : List String} (hnodup : names.Nodup) {p : String → Bool}
    (h : ∀ label ∈ labels, p label = true ↔ label ∈ names) :
    labels.countP p = (names.map fun name => labels.count name).sum := by
  induction labels with
  | nil => simp
  | cons label rest ih =>
    obtain ⟨hlabel, hrest⟩ := List.forall_mem_cons.1 h
    have hone : (names.map fun name => if label = name then 1 else 0).sum =
        if p label then 1 else 0 := by
      rw [List.sum_map_eq_nsmul_single label _ fun name hne _ => if_neg (Ne.symm hne),
        hnodup.count, if_pos rfl, smul_eq_mul, mul_one]
      exact if_congr hlabel.symm rfl rfl
    simp only [List.count_cons, List.countP_cons, List.sum_map_add, ih hrest, beq_iff_eq, hone]

section

variable {metrics : Metrics} {store : Store} {performed : List (Performed Action)}

/-- A label that is counted is the name of a chain for which something was queued. -/
theorem queued_of_mem {labels : List String}
    (hcount : ∀ chain : ChainId, labels.count chain.name = (queued chain performed).length)
    {label : String} (h : label ∈ labels) : queued ⟨label⟩ performed ≠ [] := by
  have hpositive := List.count_pos_iff.2 h
  rw [hcount ⟨label⟩] at hpositive
  exact List.ne_nil_of_length_pos hpositive

theorem Balanced.get?_of_alone (h : Balanced metrics store performed) {chain : ChainId}
    (halone : CountedAlone chain performed) :
    (metrics.slashAcks.get? chain.name).getD 0 = UInt64.ofNat (queued chain performed).length := by
  obtain ⟨labels, hlabels, hcount⟩ := h.slashAcks
  rw [hlabels, ← hcount]
  refine get?_countAll_of_alone fun label hlabel hhash => ?_
  by_contra hne
  have hother : (⟨label⟩ : ChainId) ≠ chain := fun heq => hne (congrArg ChainId.name heq)
  exact queued_of_mem hcount hlabel (halone ⟨label⟩ hother hhash)

theorem Balanced.tally_of_together (h : Balanced metrics store performed) {chain : ChainId}
    {chains : List ChainId} (htogether : CountedTogether chain chains performed) :
    tally metrics.slashAcks chain.name =
      UInt64.ofNat (chains.map fun other => (queued other performed).length).sum := by
  obtain ⟨labels, hlabels, hcount⟩ := h.slashAcks
  have hnodup : (chains.map ChainId.name).Nodup :=
    htogether.nodup.map fun _ _ heq => congrArg ChainId.mk heq
  have hnames : ∀ label ∈ labels, (labelHash label == labelHash chain.name) = true ↔
      label ∈ chains.map ChainId.name := by
    intro label hlabel
    rw [beq_iff_eq, List.mem_map]
    constructor
    · intro hhash
      by_contra hnone
      refine queued_of_mem hcount hlabel (htogether.others ⟨label⟩ (fun hmem => ?_) hhash)
      exact hnone ⟨_, hmem, rfl⟩
    · rintro ⟨other, hother, rfl⟩
      exact htogether.hash other hother
  rw [hlabels, tally_countAll, countP_eq_sum_count hnodup hnames, List.map_map]
  simp only [Function.comp_def, hcount]

/-- Balanced counters are reconciled, if what was queued is what was handed out and what is left. -/
theorem Balanced.reconciled (h : Balanced metrics store performed) (hstore : store.WellFormed)
    (hqueues : ∀ chain, delivered chain performed ++ store.queue chain = queued chain performed) :
    Reconciled metrics store performed where
  channels := ⟨_, (tells_iff (Registry.run_boundChains hstore.typed)).2 rfl, h.channels⟩
  entries := by
    refine ⟨_, (tells_iff (run_scan _ store)).2 rfl, ?_⟩
    rw [h.entries, Store.entryKeys, List.length_map]
  pending_reads chain := ⟨_, (tells_pending hstore).2 rfl⟩
  alone chain tokens halone htokens := by
    rw [h.get?_of_alone halone, ← hqueues, (tells_pending hstore).1 htokens, List.length_append]
  together chain chains tokensOf htogether htokens := by
    rw [h.tally_of_together htogether]
    refine congrArg (fun lengths => UInt64.ofNat (List.sum lengths)) ?_
    refine List.map_congr_left fun other hother => ?_
    rw [← hqueues, (tells_pending hstore).1 (htokens other hother), List.length_append]
  duplicates := h.duplicates
  version := ⟨_, (tells_iff (Versioning.run_current (hstore.sound _))).2 rfl, h.version.toNat_version⟩

end

/-- **Metrics and store reconcile** after every run whose lists and strings fit in memory and of
which nothing is given up, modulo the size of a word. -/
theorem reconciled_after {run : Run Call} (hshort : run.committed.Short) (hcommits : run.Commits) :
    Reconciled run.metrics run.after (run.committed.performed .empty) := by
  rw [run.metrics_of_commits hcommits, run.after_eq]
  refine (History.balanced hshort).reconciled (History.wellFormed_after hshort) fun chain => ?_
  exact balance_all (History.follows_performed .empty run.committed)
    (History.short_performed hshort) Store.wellFormed_empty chain

/-- A provider on a transport with a channel to one chain and two to another. -/
def threeChannels : Service :=
  { Unbonding.twoChains with
    lookup := Unbonding.twoChains.lookup.withPath .provider ⟨"ch-2"⟩ ⟨"conn-2"⟩ ⟨"client-2"⟩ ⟨"foo"⟩ }

/-- Two chains are bound and a third channel is refused.  Of two entries one is released, in a
transaction, and of three tokens two are handed out. -/
def reckoned : Run Call :=
  let acknowledge (channel : String) (version : Version) (tokens : List String) : Call :=
    ⟨threeChannels, .acknowledgePacket ⟨channel⟩ ⟨version, tokens⟩⟩
  [.direct ⟨threeChannels, .openConfirm 5 ⟨"ch-0"⟩⟩,
    .direct ⟨threeChannels, .unbondingCreated ⟨7, "validator", 5⟩⟩,
    .direct ⟨threeChannels, .openConfirm 6 ⟨"ch-1"⟩⟩,
    .direct ⟨threeChannels, .openConfirm 6 ⟨"ch-2"⟩⟩,
    .direct ⟨threeChannels, .endBlock 6⟩,
    .direct ⟨threeChannels, .unbondingCreated ⟨8, "validator", 7⟩⟩,
    .execute ⟨.make (acknowledge "ch-0" 0 ["double-sign", ""]) fun _ =>
      .make ⟨threeChannels, .sweep⟩ fun _ => .stop (.ok ()), fun _ _ => none⟩,
    .direct (acknowledge "ch-1" 1 ["downtime"]), .direct (acknowledge "ch-3" 1 ["downtime"])]

/-- The counters of the run. -/
theorem reconciled_after_reckoned : reckoned.committed.Short ∧ reckoned.Commits ∧
    Reconciled reckoned.metrics reckoned.after (reckoned.committed.performed .empty) ∧
    reckoned.metrics =
      { channelsBound := 2, duplicatesRejected := 1, version := 1, entriesCreated := 2,
        entriesCompleted := 1, slashAcks := countAll ["bar", "bar", "foo"] } := by
  have hshort : reckoned.committed.Short := by decide +kernel
  have hcommits : reckoned.Commits := by decide +kernel
  exact ⟨hshort, hcommits, reconciled_after hshort hcommits, by decide +kernel⟩

/-- A provider on a transport with a channel to each of two chains whose names have the same hash. -/
def alikeChains : Service where
  lookup := (Lookup.empty.withPath .provider ⟨"ch-0"⟩ ⟨"conn-0"⟩ ⟨"client-0"⟩
    ⟨"8yn0iYCKYHlIj4-BwPqk"⟩).withPath .provider ⟨"ch-1"⟩ ⟨"conn-1"⟩ ⟨"client-1"⟩
    ⟨"GReLUrM4wMqfg9yzV3KQ"⟩
  closer := .accepting
  capabilities := .granting []

/-- Both chains are bound, and each queues a token. -/
def alike : Run Call :=
  [.direct ⟨alikeChains, .openConfirm 5 ⟨"ch-0"⟩⟩, .direct ⟨alikeChains, .openConfirm 6 ⟨"ch-1"⟩⟩,
    .direct ⟨alikeChains, .acknowledgePacket ⟨"ch-0"⟩ ⟨0, ["one"]⟩⟩,
    .direct ⟨alikeChains, .acknowledgePacket ⟨"ch-1"⟩ ⟨0, ["two"]⟩⟩]

/-- Both tokens are counted under the name of the first chain, so that nothing is counted for the
second, which has one pending. -/
theorem counted_elsewhere : alike.committed.Short ∧ alike.Commits ∧
    (alike.metrics.slashAcks.get? "8yn0iYCKYHlIj4-BwPqk").getD 0 = 2 ∧
    ∃ tokens, (pending ⟨"GReLUrM4wMqfg9yzV3KQ"⟩).Tells alike.after tokens ∧
      (alike.metrics.slashAcks.get? "GReLUrM4wMqfg9yzV3KQ").getD 0 ≠
        UInt64.ofNat ((delivered ⟨"GReLUrM4wMqfg9yzV3KQ"⟩
          (alike.committed.performed .empty)).length + tokens.length) := by
  refine ⟨?_, ?_, ?_, ["two"], ?_, ?_⟩ <;> decide +kernel

end Metrics
end SharedSecurity
