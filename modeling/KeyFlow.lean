import KeyFlow.Flow.Builder
import KeyFlow.Flow.Run
import KeyFlow.Graph.Build
import KeyFlow.Graph.Coverage
import KeyFlow.Graph.Cycle
import KeyFlow.Graph.Levels
import KeyFlow.Graph.Order
import KeyFlow.Logging.Filter
import KeyFlow.Outline
import KeyFlow.Parallel.Run
import KeyFlow.Proofs.Jobs.Tied
import KeyFlow.Rehearsal
import KeyFlow.Script
import KeyFlow.Settings.File
import KeyFlow.Proofs.Jobs.Add
import KeyFlow.Proofs.Jobs.Finish
import KeyFlow.Proofs.Jobs.Sound
import KeyFlow.Proofs.Jobs.Dispatch
import KeyFlow.Proofs.Jobs.Calls
import KeyFlow.Proofs.Jobs.Refused
import KeyFlow.Proofs.Jobs.Idle
import KeyFlow.Proofs.Run.Moves
import KeyFlow.Proofs.Run.Kept
import KeyFlow.Proofs.Run.Idle
import KeyFlow.Proofs.Graph.Declared
import KeyFlow.Proofs.Graph.Draft
import KeyFlow.Proofs.Graph.Drawn
import KeyFlow.Proofs.Graph.Clean
import KeyFlow.Proofs.Graph.Placed
import KeyFlow.Proofs.Graph.Search
import KeyFlow.Proofs.Graph.Needs
import KeyFlow.Proofs.Graph.Covered
import KeyFlow.Proofs.Graph.WellFormed
import KeyFlow.Proofs.Graph.Ordered
import KeyFlow.Proofs.Graph.Scheduled
import KeyFlow.Proofs.Flow.Evaluation
import KeyFlow.Proofs.Flow.Part
import KeyFlow.Proofs.Flow.Cast
import KeyFlow.Proofs.Run.Finished
import KeyFlow.Proofs.Run.History
import KeyFlow.Proofs.Run.Turns
import KeyFlow.Proofs.Run.Replay
import KeyFlow.Proofs.Run.Told
import KeyFlow.Proofs.Run.Order
import KeyFlow.Proofs.Run.Reported
import KeyFlow.Proofs.Run.Spoken
import KeyFlow.Proofs.Run.Heard
import KeyFlow.Proofs.Asking
import KeyFlow.Proofs.Flow.Acts
import KeyFlow.Proofs.Flow.Played
import KeyFlow.Proofs.Flow.Compiled
import KeyFlow.Proofs.Flow.Enqueued
import KeyFlow.Proofs.Flow.Complete
import KeyFlow.Proofs.Flow.Delivered
import KeyFlow.Proofs.Flow.Committed
import KeyFlow.Proofs.Flow.Steady
import KeyFlow.Proofs.Flow.Built
import KeyFlow.Proofs.Flow.Steps
import KeyFlow.Proofs.Flow.Casting
import KeyFlow.Proofs.Flow.Opening
import KeyFlow.Proofs.Flow.Sequential
import KeyFlow.Proofs.Flow.Ready
import KeyFlow.Proofs.Flow.Opened
import KeyFlow.Proofs.Flow.Reported
import KeyFlow.Proofs.Flow.Outcome
import KeyFlow.Proofs.Flow.AllOrNothing
import KeyFlow.Proofs.Flow.Speech
import KeyFlow.Proofs.Flow.Announced
import KeyFlow.Proofs.Parallel.Parts
import KeyFlow.Proofs.Parallel.Outcome
import KeyFlow.Proofs.Parallel.Result
import KeyFlow.Proofs.Parallel.Speech
import KeyFlow.Proofs.Parallel.Announced
import KeyFlow.Proofs.Graph.InRange
import KeyFlow.Proofs.Graph.Cycles
import KeyFlow.Proofs.Graph.Longest
import KeyFlow.Proofs.Jobs.Balanced
import KeyFlow.Proofs.Jobs.Confluent
import KeyFlow.Proofs.Run.Cancelled
import KeyFlow.Proofs.Run.Rehearsed
import KeyFlow.Proofs.Observers
import KeyFlow.Proofs.Graph.Kinds
import KeyFlow.Proofs.Graph.Entered
import KeyFlow.Proofs.Graph.Malformed
import KeyFlow.Proofs.Graph.Checked
import KeyFlow.Proofs.Graph.Repeats
import KeyFlow.Proofs.Jobs.Causes
import KeyFlow.Proofs.Flow.Equipped
import KeyFlow.Proofs.Graph.Represented
import KeyFlow.Proofs.Graph.Uncovered
import KeyFlow.Proofs.Graph.PostOrder
import KeyFlow.Proofs.Run.Issued
import KeyFlow.Proofs.Settings.Duration
import KeyFlow.Proofs.Flow.Supplied
import KeyFlow.Proofs.Flow.Builder
import KeyFlow.Proofs.Signature
import KeyFlow.Proofs.Graph.Shapes
