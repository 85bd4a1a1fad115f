import FlagReplica.Action
import FlagReplica.Bucket
import FlagReplica.Cache
import FlagReplica.Decimal.Approximation
import FlagReplica.Decimal.Binary64
import FlagReplica.Decimal.Literal
import FlagReplica.Decimal.Shortest
import FlagReplica.Entry
import FlagReplica.Error
import FlagReplica.Evaluation.Codec
import FlagReplica.Evaluation.Error
import FlagReplica.Evaluation.Evaluate
import FlagReplica.Evaluation.Host
import FlagReplica.Evaluation.Membership
import FlagReplica.Evaluation.Rollout
import FlagReplica.Evaluation.Serve
import FlagReplica.Evaluation.Trace
import FlagReplica.Evaluation.Value
import FlagReplica.Evaluator
import FlagReplica.Flag.Basic
import FlagReplica.Flag.Codec
import FlagReplica.Json.Codec
import FlagReplica.Json.Decode
import FlagReplica.Json.Document
import FlagReplica.Json.Value
import FlagReplica.Murmur
import FlagReplica.Notice
import FlagReplica.Pattern.Expr
import FlagReplica.Pattern.Property
import FlagReplica.Pattern.Read
import FlagReplica.Pattern.Search
import FlagReplica.Pattern.Size
import FlagReplica.Pattern.Tree
import FlagReplica.Proofs.Cache.Content
import FlagReplica.Proofs.Evaluation.Explanation
import FlagReplica.Proofs.Evaluation.Membership
import FlagReplica.Proofs.Evaluation.Precedence
import FlagReplica.Proofs.Evaluation.Prerequisites
import FlagReplica.Proofs.Evaluation.RuleOrder
import FlagReplica.Proofs.Evaluation.Termination
import FlagReplica.Proofs.Evaluation.Trail
import FlagReplica.Proofs.Remote.Endpoint
import FlagReplica.Proofs.Repository.Agreement
import FlagReplica.Proofs.Repository.ByName
import FlagReplica.Proofs.Repository.Contents
import FlagReplica.Proofs.Repository.Faithful
import FlagReplica.Proofs.Repository.Frame
import FlagReplica.Proofs.Repository.Keys
import FlagReplica.Proofs.Repository.Newest
import FlagReplica.Proofs.Repository.Persistence
import FlagReplica.Proofs.Repository.Refinement
import FlagReplica.Proofs.Repository.Stepwise
import FlagReplica.Proofs.Repository.StoreIndependence
import FlagReplica.Proofs.Sync.Agreement
import FlagReplica.Proofs.Sync.Convergence
import FlagReplica.Proofs.Sync.Feed
import FlagReplica.Proofs.Sync.Moves
import FlagReplica.Proofs.Sync.Overtaking
import FlagReplica.Proofs.Sync.Tracking
import FlagReplica.Proofs.Sync.Writes
import FlagReplica.Remote.ControlPlane
import FlagReplica.Remote.Http
import FlagReplica.Repository.Basic
import FlagReplica.Repository.Host
import FlagReplica.Repository.Records
import FlagReplica.Store
import FlagReplica.Sync.Apply
import FlagReplica.Sync.Client
import FlagReplica.Sync.Event
import FlagReplica.Sync.Simulation
import FlagReplica.Sync.Synchronizer
import FlagReplica.Table
import FlagReplica.Target.Basic
import FlagReplica.Target.Codec
import FlagReplica.Text.Blank
import FlagReplica.Text.CaseMap
import FlagReplica.Text.CharSet
import FlagReplica.Text.Digits
import FlagReplica.Text.Quoted
import FlagReplica.Text.Table.Binary
import FlagReplica.Text.Table.Case
import FlagReplica.Text.Table.Category
import FlagReplica.Text.Table.Property
import FlagReplica.Text.Table.Script
import FlagReplica.Text.Table.ScriptExtension
import FlagReplica.Url.Basic
import FlagReplica.Url.Percent
import FlagReplica.Url.Read
import FlagReplica.Proofs.Evaluation.Relevance
import FlagReplica.Proofs.Repository.Evaluation
import FlagReplica.Proofs.Sync.Bulk
import FlagReplica.Proofs.Repository.Changes
import FlagReplica.Proofs.Json.Reading
import FlagReplica.Proofs.Json.Recovery
import FlagReplica.Proofs.Json.Provenance
import FlagReplica.Proofs.Json.RoundTrip
import FlagReplica.Proofs.Repository.Refresh
import FlagReplica.Proofs.Repository.Acceptance
import FlagReplica.Proofs.Sync.Requests
import FlagReplica.Proofs.Sync.Course
import FlagReplica.Proofs.Sync.Effects
import FlagReplica.Proofs.Sync.Readiness
import FlagReplica.Proofs.Sync.Gates
import FlagReplica.Proofs.Sync.Polling
import FlagReplica.Proofs.Repository.Replacement
import FlagReplica.Proofs.Repository.Flushing
import FlagReplica.Proofs.Evaluation.Checkpoints
import FlagReplica.Proofs.Evaluation.Fulfilment
import FlagReplica.Proofs.Repository.ListLoads
import FlagReplica.Proofs.Repository.Footprint
import FlagReplica.Proofs.Evaluation.Rollout
import FlagReplica.Proofs.Cache.Run
import FlagReplica.Proofs.Cache.Recency
import FlagReplica.Proofs.Cache.LastChange
import FlagReplica.Proofs.Repository.ListEdits
import FlagReplica.Proofs.Evaluation.Audience
import FlagReplica.Proofs.Evaluation.Answers
import FlagReplica.Proofs.Evaluation.Negation
import FlagReplica.Proofs.Evaluation.Nameless
import FlagReplica.Proofs.Repository.Placement
import FlagReplica.Proofs.Json.Locality
import FlagReplica.Proofs.Json.Elements
import FlagReplica.Proofs.Json.Buffering
import FlagReplica.Proofs.Remote.Leniency
