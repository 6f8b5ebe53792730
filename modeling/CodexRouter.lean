import CodexRouter.Capability.Files
import CodexRouter.Authorization.Decision
import CodexRouter.Authorization.Ceiling
import CodexRouter.Authorization.Monotone
import CodexRouter.Preview.Agreement
import CodexRouter.Js.JsonText
import CodexRouter.Js.Map
import CodexRouter.Kernel.Texts
import CodexRouter.Retain.Journal
import CodexRouter.Retain.Rollback
import CodexRouter.Retain.Verify
import CodexRouter.Retain.Window
import CodexRouter.Store.Agreement
import CodexRouter.RunManager.EventLog
import CodexRouter.RunManager.Dependencies
import CodexRouter.Scheduler.Agreement
import CodexRouter.Graph.Merge
import CodexRouter.Guard.Bounds
import CodexRouter.Guard.Rollback
import CodexRouter.Capsule.Diff
import CodexRouter.Executor.Roots
import CodexRouter.Telemetry.Metrics
import CodexRouter.Telemetry.Window
import CodexRouter.Routing.Hints
import CodexRouter.Adapter.Wire
import CodexRouter.Lock.Exclusion
import CodexRouter.Provider.Agreement
import CodexRouter.Provider.Selection
import CodexRouter.Eligibility.Agreement
import CodexRouter.Eligibility.PermitScopes
import CodexRouter.PerTask.Apart
import CodexRouter.Receipts.Once
import CodexRouter.Preview.Patch
import CodexRouter.Preview.Truthful
import CodexRouter.Cli.Bridge
import CodexRouter.Cli.OneProcess
import CodexRouter.Kernel.Identity
import CodexRouter.Adapter.Inspect
import CodexRouter.Adapter.Permissions
import CodexRouter.Retain.Paths
import CodexRouter.Preview.Globs
import CodexRouter.Preview.NormalForm
import CodexRouter.Authorization.Decides
import CodexRouter.Adapter.Isolation
import CodexRouter.Proposal.Replay
import CodexRouter.Capsule.RoundTrip
import CodexRouter.Capsule.Candidate
import CodexRouter.Capsule.Comparison
import CodexRouter.Capsule.Sound
import CodexRouter.Runs.Beside
