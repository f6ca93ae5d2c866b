import SharedSecurity.Metrics.Exposition
import SharedSecurity.Operation
import SharedSecurity.Record.Json
import SharedSecurity.Store.Unreliable
import SharedSecurity.Telemetry.Session
import SharedSecurity.Transition.Execute
import SharedSecurity.Proofs.BestEffort
import SharedSecurity.Proofs.Binding
import SharedSecurity.Proofs.BoundChains
import SharedSecurity.Proofs.BucketOrder
import SharedSecurity.Proofs.CheckFirst
import SharedSecurity.Proofs.Closing
import SharedSecurity.Proofs.Codecs
import SharedSecurity.Proofs.Contents
import SharedSecurity.Proofs.Counters
import SharedSecurity.Proofs.Dating
import SharedSecurity.Proofs.Delivery
import SharedSecurity.Proofs.Effects
import SharedSecurity.Proofs.Enumeration
import SharedSecurity.Proofs.Failures
import SharedSecurity.Proofs.Footprint
import SharedSecurity.Proofs.Gating
import SharedSecurity.Proofs.Genesis
import SharedSecurity.Proofs.History
import SharedSecurity.Proofs.Identity
import SharedSecurity.Proofs.Independence
import SharedSecurity.Proofs.JsonForms
import SharedSecurity.Proofs.JsonText
import SharedSecurity.Proofs.KeyLayout
import SharedSecurity.Proofs.Keys
import SharedSecurity.Proofs.Lifecycle
import SharedSecurity.Proofs.Listing
import SharedSecurity.Proofs.Measured
import SharedSecurity.Proofs.Mirror
import SharedSecurity.Proofs.Outputs
import SharedSecurity.Proofs.Overlay
import SharedSecurity.Proofs.Permanence
import SharedSecurity.Proofs.PureRejection
import SharedSecurity.Proofs.Queues
import SharedSecurity.Proofs.Reconciliation
import SharedSecurity.Proofs.RecordForms
import SharedSecurity.Proofs.Records
import SharedSecurity.Proofs.Redelivery
import SharedSecurity.Proofs.RejectionCounts
import SharedSecurity.Proofs.Release
import SharedSecurity.Proofs.Runs
import SharedSecurity.Proofs.Scans
import SharedSecurity.Proofs.Transactions
import SharedSecurity.Proofs.Typed
import SharedSecurity.Proofs.Verification
import SharedSecurity.Proofs.Versions
