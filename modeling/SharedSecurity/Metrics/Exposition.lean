import SharedSecurity.Decimal.Shortest
import SharedSecurity.Metrics

/-!
# Metrics as text

The text in which metrics are collected: for each family a line of help, a line with its kind, and
a line for each sample.  Families stand in the order of their names and samples in that of their
label; a labelled family without samples is left out.
-/

set_option autoImplicit false
namespace SharedSecurity
namespace Metrics

/-- One value of a family, with the value of its label if the family has one. -/
structure Sample where
  /-- The label's name and value. -/
  label : Option (String × String)
  /-- The value. -/
  value : UInt64

/-- Metrics of one name. -/
structure Family where
  /-- The name. -/
  name : String
  /-- What is counted. -/
  help : String
  /-- Whether the value only grows or is set. -/
  kind : String
  /-- The values. -/
  samples : List Sample

/-- How a character stands in the value of a label. -/
def escapeLabelChar (c : Char) : List Char :=
  if c = '\\' then ['\\', '\\']
  else if c = '"' then ['\\', '"']
  else if c = '\n' then ['\\', 'n']
  else [c]

/-- A label's value between quotes. -/
def quotedLabel (value : String) : String :=
  String.ofList ('"' :: value.toList.flatMap escapeLabelChar ++ ['"'])

/-- The line of a sample. -/
def Sample.line (name : String) (sample : Sample) : String :=
  let label := match sample.label with
    | none => ""
    | some (key, value) => "\x7b" ++ key ++ "=" ++ quotedLabel value ++ "\x7d"
  name ++ label ++ " " ++ Decimal.doubleText sample.value.toNat

/-- The lines of a family; none if it has no sample. -/
def Family.lines (family : Family) : List String :=
  if family.samples.isEmpty then []
  else
    ("# HELP " ++ family.name ++ " " ++ family.help)
      :: ("# TYPE " ++ family.name ++ " " ++ family.kind)
      :: family.samples.map (Sample.line family.name)

/-- A family of one value that only grows. -/
def counter (name help : String) (value : UInt64) : Family :=
  ⟨name, help, "counter", [⟨none, value⟩]⟩

/-- A family of values that only grow, one for each value of a label. -/
def labelledCounter (name help label : String) (values : SortedMap String UInt64) : Family :=
  ⟨name, help, "counter", values.entries.map fun (key, value) => ⟨some (label, key), value⟩⟩

/-- A family of one value that is set. -/
def gauge (name help : String) (value : UInt64) : Family := ⟨name, help, "gauge", [⟨none, value⟩]⟩

/-- The families of a provider's metrics, by name. -/
def families (metrics : Metrics) : List Family :=
  [counter "ccv_provider_channels_bound_total"
      "Total number of channels bound to a consumer chain" metrics.channelsBound,
    counter "ccv_provider_duplicate_channels_rejected_total"
      "Total number of duplicate channels rejected at confirm" metrics.duplicatesRejected,
    labelledCounter "ccv_provider_rejections_total"
      "Total number of rejected provider transitions" "class" metrics.rejections,
    labelledCounter "ccv_provider_slash_acks_total"
      "Total number of slash acknowledgements queued" "chain" metrics.slashAcks,
    counter "ccv_provider_unbonding_entries_completed_total"
      "Total number of unbonding entries released by consumer acknowledgements"
      metrics.entriesCompleted,
    counter "ccv_provider_unbonding_entries_created_total"
      "Total number of unbonding entry gating writes issued" metrics.entriesCreated,
    gauge "ccv_provider_valset_update_id" "Current validator-set version" metrics.version]

/-- The lines of a provider's metrics. -/
def lines (metrics : Metrics) : List String := metrics.families.flatMap Family.lines

end Metrics
end SharedSecurity
