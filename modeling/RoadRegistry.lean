import RoadRegistry.Dictionary
import RoadRegistry.Clock
import RoadRegistry.Text.Numeral
import RoadRegistry.Text.Blank
import RoadRegistry.Text.Utf8
import RoadRegistry.Text.Quoted
import RoadRegistry.Text.Aligned
import RoadRegistry.Binary64
import RoadRegistry.Json.Printer
import RoadRegistry.Json.Parser
import RoadRegistry.Patch.Basic
import RoadRegistry.Road.Basic
import RoadRegistry.Log.Reader
import RoadRegistry.Log.Hosts
import RoadRegistry.Log.Rehearsal
import RoadRegistry.Replica.Basic
import RoadRegistry.Cluster.Basic
import RoadRegistry.Replica.Recorder
import RoadRegistry.Inspection.Scan
import RoadRegistry.Road.TopicAgent
import RoadRegistry.Reaction.Script
import RoadRegistry.Reaction.Basic
import RoadRegistry.Inspection.Schedule
import RoadRegistry.Inspection.Bench
import RoadRegistry.Toml.Parser
import RoadRegistry.Config.Reader
import RoadRegistry.Config.Writer
import RoadRegistry.Service.Supervision
import RoadRegistry.Main
import RoadRegistry.Proofs.Keys
import RoadRegistry.Proofs.Log.Chronicle
import RoadRegistry.Proofs.Log.Reading
import RoadRegistry.Proofs.Log.Delivery
import RoadRegistry.Proofs.Replica.Consumption
import RoadRegistry.Proofs.Replica.Following
import RoadRegistry.Proofs.Interleaving.Basic
import RoadRegistry.Proofs.Interleaving.Agreement
import RoadRegistry.Proofs.Dictionary
import RoadRegistry.Proofs.Replica.Sync
import RoadRegistry.Proofs.Interleaving.OwnWrites
import RoadRegistry.Proofs.Cluster.Settling
import RoadRegistry.Proofs.Cluster.Writing
import RoadRegistry.Proofs.Cluster.PlainMap
import RoadRegistry.Proofs.Cluster.Refinement
import RoadRegistry.Proofs.Replica.Transitions
import RoadRegistry.Proofs.Replica.Dispatch
import RoadRegistry.Proofs.Json.Fields
import RoadRegistry.Proofs.Road.Status
import RoadRegistry.Proofs.Road.Corrections
import RoadRegistry.Proofs.Road.Upkeep
import RoadRegistry.Proofs.Replica.View
import RoadRegistry.Proofs.Cluster.View
import RoadRegistry.Proofs.Log.Retention
import RoadRegistry.Proofs.Log.Compaction
import RoadRegistry.Proofs.Cluster.Events
import RoadRegistry.Proofs.Reaction.Isolation
import RoadRegistry.Proofs.Replica.CatchUp
import RoadRegistry.Proofs.Replica.Replay
import RoadRegistry.Proofs.Json.Strings
import RoadRegistry.Proofs.Json.Numerals
import RoadRegistry.Proofs.Binary64.Rounding
import RoadRegistry.Proofs.Binary64.Shortest
import RoadRegistry.Proofs.Binary64.Decimals
import RoadRegistry.Proofs.Json.Floats
import RoadRegistry.Proofs.Json.Rereading
import RoadRegistry.Proofs.Road.Document
import RoadRegistry.Proofs.Cluster.Breaking
import RoadRegistry.Proofs.Road.Survival
import RoadRegistry.Proofs.Replica.Ending
import RoadRegistry.Proofs.Cluster.Invariance
import RoadRegistry.Proofs.Cluster.Stopping
import RoadRegistry.Proofs.Cluster.Errors
import RoadRegistry.Proofs.Replica.Muting
import RoadRegistry.Proofs.Cluster.FirstRead
import RoadRegistry.Proofs.Cluster.CompactedReplay
import RoadRegistry.Proofs.Service.Start
import RoadRegistry.Proofs.Service.Supervision
import RoadRegistry.Proofs.Service.Stopping
import RoadRegistry.Proofs.Service.Calls
import RoadRegistry.Proofs.Log.Readers
import RoadRegistry.Proofs.Replica.FailStop
import RoadRegistry.Proofs.Json.Canonical
import RoadRegistry.Proofs.Json.Payloads
import RoadRegistry.Proofs.Road.Reencoding
import RoadRegistry.Proofs.Patch.Wire
import RoadRegistry.Proofs.Patch.Emission
import RoadRegistry.Proofs.Log.Addressing
import RoadRegistry.Proofs.Road.Reporting
import RoadRegistry.Proofs.Cluster.Batching
import RoadRegistry.Proofs.Interleaving.Settled
import RoadRegistry.Proofs.Reaction.Accounting
import RoadRegistry.Proofs.Inspection.Isolation
import RoadRegistry.Proofs.Inspection.Bench
import RoadRegistry.Proofs.Replica.Statistics
import RoadRegistry.Proofs.Text.Trimming
import RoadRegistry.Proofs.Config.Validity
import RoadRegistry.Proofs.Log.Hosts
import RoadRegistry.Proofs.Config.Hosts
