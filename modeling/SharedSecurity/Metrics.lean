import SharedSecurity.Bytes.Hash
import SharedSecurity.SortedMap
import SharedSecurity.Text.Utf8

/-!
# Metrics

The counters a provider keeps about itself.  A `Measurement` says what is to be counted, and
`Metrics.record` counts it.  Counters are 64-bit words and wrap; the version is shown as a signed
word and so stops at the greatest of those.

Counters with a label are told apart by the hash of the label.  Two labels with the same hash are
counted together, under the label that was counted first: `Metrics.countedUnder`.
-/

set_option autoImplicit false
namespace SharedSecurity

/-- Something to be counted. -/
inductive Measurement where
  /-- A channel was bound. -/
  | channelBound
  /-- A channel lost its race. -/
  | duplicateRejected
  /-- The current version was set. -/
  | version (value : UInt64)
  /-- An unbonding entry was stored. -/
  | entryCreated
  /-- Unbonding entries were released. -/
  | entriesCompleted (count : UInt64)
  /-- A slash acknowledgement was queued for a chain. -/
  | slashAck (chain : String)
  /-- A transition was given up with an error of a class. -/
  | rejection (label : String)
deriving DecidableEq

/-- The counters, all zero to begin with. -/
structure Metrics where
  /-- Channels bound. -/
  channelsBound : UInt64 := 0
  /-- Channels that lost their race. -/
  duplicatesRejected : UInt64 := 0
  /-- The current version, or the greatest signed word. -/
  version : UInt64 := 0
  /-- Unbonding entries stored. -/
  entriesCreated : UInt64 := 0
  /-- Unbonding entries released. -/
  entriesCompleted : UInt64 := 0
  /-- Slash acknowledgements queued, by chain. -/
  slashAcks : SortedMap String UInt64 := .empty
  /-- Transitions given up, by class of error. -/
  rejections : SortedMap String UInt64 := .empty
deriving DecidableEq

namespace Metrics

/-- The greatest signed word. -/
def greatestSigned : UInt64 := 0x7FFFFFFFFFFFFFFF

/-- The hash that tells a label from others. -/
def labelHash (label : String) : UInt64 := Bytes.fnv1a (Utf8.encode label)

/-- The label under which a label is counted: the known label with its hash, or else itself. -/
def countedUnder (counters : SortedMap String UInt64) (label : String) : String :=
  (counters.keys.find? fun known => labelHash known == labelHash label).getD label

/-- One more for a label. -/
def bump (counters : SortedMap String UInt64) (label : String) : SortedMap String UInt64 :=
  let sample := countedUnder counters label
  counters.insert sample ((counters.get? sample).getD 0 + 1)

/-- The counters after a measurement. -/
def record (metrics : Metrics) : Measurement → Metrics
  | .channelBound => { metrics with channelsBound := metrics.channelsBound + 1 }
  | .duplicateRejected => { metrics with duplicatesRejected := metrics.duplicatesRejected + 1 }
  | .version value =>
    { metrics with version := if value ≤ greatestSigned then value else greatestSigned }
  | .entryCreated => { metrics with entriesCreated := metrics.entriesCreated + 1 }
  | .entriesCompleted count =>
    { metrics with entriesCompleted := metrics.entriesCompleted + count }
  | .slashAck chain => { metrics with slashAcks := bump metrics.slashAcks chain }
  | .rejection label => { metrics with rejections := bump metrics.rejections label }

/-- The counters after several measurements. -/
def recordAll (metrics : Metrics) (measurements : List Measurement) : Metrics :=
  measurements.foldl record metrics

end Metrics
end SharedSecurity
