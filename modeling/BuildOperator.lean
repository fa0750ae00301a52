import BuildOperator.Api.Client
import BuildOperator.Cluster.Rehearsal
import BuildOperator.Cluster.Script
import BuildOperator.CommandLine
import BuildOperator.Json.MergePatch
import BuildOperator.LogFilter
import BuildOperator.Resource.Definition
import BuildOperator.Proofs.Condition
import BuildOperator.Proofs.ConditionList
import BuildOperator.Proofs.Record
import BuildOperator.Proofs.Mark
import BuildOperator.Proofs.CheckpointOrder
import BuildOperator.Proofs.Ending
import BuildOperator.Proofs.ReconcilerCalls
import BuildOperator.Proofs.TerminalCompletion
import BuildOperator.Proofs.EventTrace
import BuildOperator.Proofs.Redelivery
import BuildOperator.Proofs.GenerationView
import BuildOperator.Proofs.TransitionTime
import BuildOperator.Proofs.StatusWrites
import BuildOperator.Proofs.Timeless
import BuildOperator.Proofs.Session
import BuildOperator.Proofs.StoreChange
import BuildOperator.Proofs.Running
import BuildOperator.Proofs.Convergence
import BuildOperator.Proofs.Careful
import BuildOperator.Proofs.Interleaving
import BuildOperator.Proofs.TimestampText
import BuildOperator.Proofs.StatusJson
import BuildOperator.Proofs.MergePatch
import BuildOperator.Proofs.StoredStatus
import BuildOperator.Proofs.StatusReplacement
import BuildOperator.Proofs.PublishedOnce
import BuildOperator.Proofs.Cancellation
import BuildOperator.Proofs.HandlerCalls
import BuildOperator.Proofs.ConcurrentWrites
import BuildOperator.Proofs.Dictionary
import BuildOperator.Proofs.NormalForm
import BuildOperator.Proofs.SharedObjects
import BuildOperator.Proofs.Course
import BuildOperator.Proofs.Publication
import BuildOperator.Proofs.JsonForm
import BuildOperator.Proofs.JsonText
import BuildOperator.Proofs.RoundTrip
import BuildOperator.Proofs.PipelineOutput
import BuildOperator.Proofs.ObjectCalls
import BuildOperator.Proofs.NamespaceName
import BuildOperator.Proofs.ProjectSeparation
import BuildOperator.Proofs.ForeignContent
import BuildOperator.Proofs.Refusals
