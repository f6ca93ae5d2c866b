import Mathlib.Data.List.Induction
import Mathlib.Data.UInt
import Mathlib.Tactic.Push
import SharedSecurity.Metrics

/-!
# What the counters say

Recording goes measurement by measurement; here is what the counters come to in the end, as
functions of the list of measurements.

* `Metrics.count_recordAll` — a counter that goes up by one at one kind of measurement counts it.
* `Metrics.tally_countAll` — **samples with a label count by hash**: the sample that a label is
  counted under is the number of measured labels with its hash.
* `Metrics.get?_countAll_of_alone` — a label whose hash no other measured label has is counted under
  its own name.
-/

set_option autoImplicit false
namespace SharedSecurity
namespace Metrics

theorem recordAll_append (metrics : Metrics) (first second : List Measurement) :
    metrics.recordAll (first ++ second) = (metrics.recordAll first).recordAll second :=
  List.foldl_append

/-- What no measurement of a list changes is the same after all of them. -/
theorem kept_recordAll {α : Type} (view : Metrics → α) {measurements : List Measurement}
    (h : ∀ measurement ∈ measurements, ∀ metrics : Metrics,
      view (metrics.record measurement) = view metrics)
    (metrics : Metrics) : view (metrics.recordAll measurements) = view metrics := by
  induction measurements generalizing metrics with
  | nil => rfl
  | cons measurement rest ih =>
    obtain ⟨hfirst, hrest⟩ := List.forall_mem_cons.1 h
    exact (ih hrest (metrics.record measurement)).trans (hfirst metrics)

/-! ## Plain counters -/

/-- A counter that goes up by one at one kind of measurement, and stays at any other, counts it. -/
theorem count_recordAll (counter : Metrics → UInt64) (counted : Measurement)
    (h : ∀ metrics measurement, counter (metrics.record measurement) =
      counter metrics + if measurement = counted then 1 else 0)
    (metrics : Metrics) (measurements : List Measurement) :
    counter (metrics.recordAll measurements) =
      counter metrics + UInt64.ofNat (measurements.count counted) := by
  induction measurements generalizing metrics with
  | nil => exact (UInt64.add_zero _).symm
  | cons measurement rest ih =>
    have hrest := ih (metrics.record measurement)
    rw [recordAll, List.foldl_cons, ← recordAll, hrest, h, List.count_cons]
    by_cases hcounted : measurement = counted
    · simp [hcounted, UInt64.ofNat_add, UInt64.add_assoc, UInt64.add_comm]
    · simp [hcounted]

theorem channelsBound_recordAll (metrics : Metrics) (measurements : List Measurement) :
    (metrics.recordAll measurements).channelsBound =
      metrics.channelsBound + UInt64.ofNat (measurements.count .channelBound) := by
  refine count_recordAll channelsBound .channelBound ?_ metrics measurements
  intro metrics measurement
  cases measurement <;> simp [record]

theorem duplicatesRejected_recordAll (metrics : Metrics) (measurements : List Measurement) :
    (metrics.recordAll measurements).duplicatesRejected =
      metrics.duplicatesRejected + UInt64.ofNat (measurements.count .duplicateRejected) := by
  refine count_recordAll duplicatesRejected .duplicateRejected ?_ metrics measurements
  intro metrics measurement
  cases measurement <;> simp [record]

theorem entriesCreated_recordAll (metrics : Metrics) (measurements : List Measurement) :
    (metrics.recordAll measurements).entriesCreated =
      metrics.entriesCreated + UInt64.ofNat (measurements.count .entryCreated) := by
  refine count_recordAll entriesCreated .entryCreated ?_ metrics measurements
  intro metrics measurement
  cases measurement <;> simp [record]

/-- How many entries were released, by a measurement. -/
def released : Measurement → UInt64
  | .entriesCompleted count => count
  | _ => 0

theorem entriesCompleted_recordAll (metrics : Metrics) (measurements : List Measurement) :
    (metrics.recordAll measurements).entriesCompleted =
      metrics.entriesCompleted + (measurements.map released).sum := by
  induction measurements generalizing metrics with
  | nil => exact (UInt64.add_zero _).symm
  | cons measurement rest ih =>
    have hone : (metrics.record measurement).entriesCompleted =
        metrics.entriesCompleted + released measurement := by
      cases measurement <;> simp [record, released]
    rw [recordAll, List.foldl_cons, ← recordAll, ih, hone, List.map_cons, List.sum_cons,
      UInt64.add_assoc]

/-- The gauge shows a version, or the greatest signed word. -/
def Shows (metrics : Metrics) (version : UInt64) : Prop :=
  metrics.version = if version ≤ greatestSigned then version else greatestSigned

theorem Shows.toNat_version {metrics : Metrics} {version : UInt64} (h : metrics.Shows version) :
    metrics.version.toNat = min version.toNat (2 ^ 63 - 1) := by
  have hgreatest : greatestSigned.toNat = 2 ^ 63 - 1 := rfl
  rw [h]
  split
  · next hle =>
    rw [UInt64.le_iff_toNat_le, hgreatest] at hle
    omega
  · next hgt =>
    rw [UInt64.le_iff_toNat_le, hgreatest] at hgt
    omega

/-- Measurements of other kinds leave the gauge alone. -/
theorem version_recordAll {measurements : List Measurement}
    (h : ∀ measurement ∈ measurements, ∀ version, measurement ≠ .version version)
    (metrics : Metrics) : (metrics.recordAll measurements).version = metrics.version := by
  refine kept_recordAll version (fun measurement hmem _ => ?_) metrics
  cases measurement with
  | version version => exact absurd rfl (h _ hmem version)
  | _ => rfl

/-! ## Counters with a label -/

/-- The labels under which slash acknowledgements were measured. -/
def labels (measurements : List Measurement) : List String :=
  measurements.filterMap fun
    | .slashAck label => some label
    | _ => none

theorem labels_append (first second : List Measurement) :
    labels (first ++ second) = labels first ++ labels second := List.filterMap_append

theorem slashAcks_recordAll (metrics : Metrics) (measurements : List Measurement) :
    (metrics.recordAll measurements).slashAcks =
      (labels measurements).foldl bump metrics.slashAcks := by
  induction measurements generalizing metrics with
  | nil => rfl
  | cons measurement rest ih =>
    refine (ih (metrics.record measurement)).trans ?_
    cases measurement <;> rfl

variable {counters : SortedMap String UInt64} {label known : String}

theorem mem_keys_iff : known ∈ counters.keys ↔ (counters.get? known).isSome := by
  rw [SortedMap.keys, List.mem_map, Option.isSome_iff_exists]
  constructor
  · rintro ⟨entry, hentry, rfl⟩
    exact ⟨entry.2, SortedMap.get?_eq_some_iff.2 hentry⟩
  · rintro ⟨value, hvalue⟩
    exact ⟨(known, value), SortedMap.get?_eq_some_iff.1 hvalue, rfl⟩

/-- A label is counted under a label with the same hash. -/
theorem labelHash_countedUnder (counters : SortedMap String UInt64) (label : String) :
    labelHash (countedUnder counters label) = labelHash label := by
  rw [countedUnder]
  cases hfound : counters.keys.find? fun known => labelHash known == labelHash label with
  | none => rfl
  | some known => exact beq_iff_eq.1 (List.find?_some hfound :)

/-- A label with a new hash is counted under its own name. -/
theorem countedUnder_of_new (h : ∀ known ∈ counters.keys, labelHash known ≠ labelHash label) :
    countedUnder counters label = label := by
  have hnone : (counters.keys.find? fun known => labelHash known == labelHash label) = none := by
    rw [List.find?_eq_none]
    exact fun known hknown => by simpa using h known hknown
  rw [countedUnder, hnone, Option.getD_none]

/-- No two known labels have the same hash. -/
def Separate (counters : SortedMap String UInt64) : Prop :=
  ∀ a ∈ counters.keys, ∀ b ∈ counters.keys, labelHash a = labelHash b → a = b

/-- A label whose hash is known is counted under the known label. -/
theorem Separate.countedUnder (h : Separate counters) (hknown : known ∈ counters.keys)
    (hhash : labelHash known = labelHash label) : countedUnder counters label = known := by
  rw [Metrics.countedUnder]
  cases hfound : counters.keys.find? fun other => labelHash other == labelHash label with
  | none => exact absurd (beq_iff_eq.2 hhash) (List.find?_eq_none.1 hfound known hknown)
  | some other =>
    have hother : labelHash other = labelHash label := beq_iff_eq.1 (List.find?_some hfound :)
    exact h other (List.mem_of_find?_eq_some hfound) known hknown (hother.trans hhash.symm)

theorem mem_keys_bump (counters : SortedMap String UInt64) (counted : String) :
    known ∈ (bump counters counted).keys ↔
      known = countedUnder counters counted ∨ known ∈ counters.keys := by
  rw [mem_keys_iff, mem_keys_iff, bump, SortedMap.get?_insert]
  by_cases h : known = countedUnder counters counted <;> simp [h]

/-- Counting one more label leaves the known labels separate. -/
theorem Separate.bump (h : Separate counters) (counted : String) :
    Separate (bump counters counted) := by
  have hsample {known : String} (hknown : known ∈ counters.keys)
      (hhash : labelHash (Metrics.countedUnder counters counted) = labelHash known) :
      Metrics.countedUnder counters counted = known :=
    h.countedUnder hknown (hhash.symm.trans (labelHash_countedUnder counters counted))
  intro a ha b hb hhash
  rcases (mem_keys_bump counters counted).1 ha with rfl | ha
  · rcases (mem_keys_bump counters counted).1 hb with rfl | hb
    · rfl
    · exact hsample hb hhash
  · rcases (mem_keys_bump counters counted).1 hb with rfl | hb
    · exact (hsample ha hhash.symm).symm
    · exact h a ha b hb hhash

/-- The value of the sample that a label is counted under. -/
def tally (counters : SortedMap String UInt64) (label : String) : UInt64 :=
  (counters.get? (countedUnder counters label)).getD 0

theorem Separate.tally (h : Separate counters) (hknown : known ∈ counters.keys)
    (hhash : labelHash known = labelHash label) :
    tally counters label = (counters.get? known).getD 0 := by
  rw [Metrics.tally, h.countedUnder hknown hhash]

theorem tally_of_new (h : ∀ known ∈ counters.keys, labelHash known ≠ labelHash label) :
    tally counters label = 0 := by
  have hnone : counters.get? label = none := by
    rw [← Option.not_isSome_iff_eq_none, ← mem_keys_iff]
    exact fun hlabel => h label hlabel rfl
  rw [tally, countedUnder_of_new h, hnone, Option.getD_none]

/-- **One more label** counts for those with its hash. -/
theorem Separate.tally_bump (h : Separate counters) (counted label : String) :
    Metrics.tally (Metrics.bump counters counted) label =
      Metrics.tally counters label + if labelHash counted = labelHash label then 1 else 0 := by
  have hsample := labelHash_countedUnder counters counted
  by_cases hhash : labelHash counted = labelHash label
  · have hmem := (mem_keys_bump counters counted).2 (.inl rfl)
    rw [(h.bump counted).tally hmem (hsample.trans hhash), if_pos hhash, Metrics.bump,
      SortedMap.get?_insert_self, Option.getD_some]
    refine congrArg (· + 1) ?_
    -- both labels are known under one name, or neither is known
    by_cases hknown : ∃ known ∈ counters.keys, labelHash known = labelHash label
    · obtain ⟨known, hmem, hsame⟩ := hknown
      rw [h.tally hmem hsame, h.countedUnder hmem (hsame.trans hhash.symm)]
    · push Not at hknown
      have hnew : ∀ known ∈ counters.keys, labelHash known ≠ labelHash counted := by
        rwa [hhash]
      have hnone : Metrics.tally counters counted = 0 := tally_of_new hnew
      exact hnone.trans (tally_of_new hknown).symm
  · rw [if_neg hhash, UInt64.add_zero]
    by_cases hknown : ∃ known ∈ counters.keys, labelHash known = labelHash label
    · obtain ⟨known, hmem, hsame⟩ := hknown
      have hne : known ≠ Metrics.countedUnder counters counted := by
        rintro rfl
        exact hhash (hsample.symm.trans hsame)
      rw [(h.bump counted).tally ((mem_keys_bump counters counted).2 (.inr hmem)) hsame,
        h.tally hmem hsame, Metrics.bump, SortedMap.get?_insert_of_ne _ hne]
    · push Not at hknown
      rw [tally_of_new hknown, tally_of_new]
      intro known hmem
      rcases (mem_keys_bump counters counted).1 hmem with rfl | hmem
      · rwa [hsample]
      · exact hknown known hmem

/-- The counters after labels were counted, none being known before. -/
def countAll (labels : List String) : SortedMap String UInt64 := labels.foldl bump .empty

theorem countAll_snoc (labels : List String) (label : String) :
    countAll (labels ++ [label]) = bump (countAll labels) label := by
  rw [countAll, List.foldl_append]
  rfl

theorem separate_countAll (labels : List String) : Separate (countAll labels) := by
  induction labels using List.reverseRecOn with
  | nil => exact List.forall_mem_nil _
  | append_singleton labels label ih =>
    rw [countAll_snoc]
    exact ih.bump label

/-- Only labels that were counted are known. -/
theorem mem_of_mem_keys {labels : List String} (h : known ∈ (countAll labels).keys) :
    known ∈ labels := by
  induction labels using List.reverseRecOn generalizing known with
  | nil => exact h
  | append_singleton labels label ih =>
    rw [countAll_snoc, mem_keys_bump] at h
    rcases h with rfl | h
    · rw [countedUnder]
      cases hfound : (countAll labels).keys.find? fun known =>
          labelHash known == labelHash label with
      | none => simp
      | some known => exact List.mem_append_left _ (ih (List.mem_of_find?_eq_some hfound))
    · exact List.mem_append_left _ (ih h)

/-- **Labels are counted by hash.** -/
theorem tally_countAll (labels : List String) (label : String) :
    tally (countAll labels) label =
      UInt64.ofNat (labels.countP fun counted => labelHash counted == labelHash label) := by
  induction labels using List.reverseRecOn with
  | nil => rfl
  | append_singleton labels counted ih =>
    rw [countAll_snoc, (separate_countAll labels).tally_bump, ih, List.countP_append,
      List.countP_singleton, UInt64.ofNat_add]
    by_cases hhash : labelHash counted = labelHash label <;> simp [hhash]

/-- A label whose hash no other counted label has is counted under its own name. -/
theorem get?_countAll_of_alone {labels : List String}
    (h : ∀ counted ∈ labels, labelHash counted = labelHash label → counted = label) :
    ((countAll labels).get? label).getD 0 = UInt64.ofNat (labels.count label) := by
  have hunder : countedUnder (countAll labels) label = label := by
    by_cases hknown : label ∈ (countAll labels).keys
    · exact (separate_countAll labels).countedUnder hknown rfl
    · refine countedUnder_of_new fun known hmem hhash => hknown ?_
      exact h known (mem_of_mem_keys hmem) hhash ▸ hmem
  have hcount : labels.count label =
      labels.countP fun counted => labelHash counted == labelHash label := by
    rw [List.count]
    refine List.countP_congr fun counted hcounted => ?_
    rw [beq_iff_eq, beq_iff_eq]
    exact ⟨congrArg labelHash, h counted hcounted⟩
  rw [hcount, ← tally_countAll, tally, hunder]

end Metrics
end SharedSecurity
