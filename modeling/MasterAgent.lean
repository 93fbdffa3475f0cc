import MasterAgent.Advisory.Binding
import MasterAgent.Advisory.Budget
import MasterAgent.Advisory.Delegation
import MasterAgent.Advisory.GitTree
import MasterAgent.Advisory.Search
import MasterAgent.Audit.Chain
import MasterAgent.Audit.Idempotency
import MasterAgent.Base.Aliases
import MasterAgent.Base.Calendar
import MasterAgent.Base.Chronology
import MasterAgent.Base.Client
import MasterAgent.Base.Datetime
import MasterAgent.Base.Effect
import MasterAgent.Base.Encoding
import MasterAgent.Base.Expansion
import MasterAgent.Base.GitObjects
import MasterAgent.Base.Graph
import MasterAgent.Base.HashChain
import MasterAgent.Base.Journal
import MasterAgent.Base.Json
import MasterAgent.Base.JsonLoads
import MasterAgent.Base.Locked
import MasterAgent.Base.Numerals
import MasterAgent.Base.Program
import MasterAgent.Base.Selection
import MasterAgent.Base.Table
import MasterAgent.Base.Text
import MasterAgent.Base.Threads
import MasterAgent.Base.Transaction
import MasterAgent.Base.Transfer
import MasterAgent.Base.Transition
import MasterAgent.Base.Tree
import MasterAgent.Base.Triple
import MasterAgent.Base.UnifiedDiff
import MasterAgent.Base.Urls
import MasterAgent.Base.Uuid
import MasterAgent.Bootstrap.Trees
import MasterAgent.Bootstrap.Environments
import MasterAgent.Capsules.Boundary
import MasterAgent.Capsules.Coordinator
import MasterAgent.Capsules.Evidence
import MasterAgent.Capsules.Paths
import MasterAgent.Capsules.Receipts
import MasterAgent.Capsules.Resumption
import MasterAgent.Capsules.Syntax
import MasterAgent.Capsules.Worker
import MasterAgent.Connectors.Listing
import MasterAgent.Connectors.Publication
import MasterAgent.Connectors.Replacement
import MasterAgent.Connectors.Restore
import MasterAgent.Connectors.ReviewText
import MasterAgent.Credentials.Connections
import MasterAgent.Credentials.Leases
import MasterAgent.Credentials.Store
import MasterAgent.Credentials.TokenProviders
import MasterAgent.Drafts.Bundle
import MasterAgent.Drafts.Patch
import MasterAgent.Egress.Preflight
import MasterAgent.Errors
import MasterAgent.Governance.Profile
import MasterAgent.Host
import MasterAgent.Http.Budget
import MasterAgent.Http.Resolve
import MasterAgent.Http.Scope
import MasterAgent.Models.Action
import MasterAgent.Models.Bindings
import MasterAgent.Models.Checks
import MasterAgent.Models.ExecutionContext
import MasterAgent.Models.Integers
import MasterAgent.Models.Limits
import MasterAgent.Models.Measure
import MasterAgent.Models.Plan
import MasterAgent.Models.Resources
import MasterAgent.Models.Results
import MasterAgent.Models.Systems
import MasterAgent.Operating.Idempotency
import MasterAgent.Operating.Install
import MasterAgent.Orchestrator.Attempt
import MasterAgent.Orchestrator.Compensation
import MasterAgent.Orchestrator.Entries
import MasterAgent.Orchestrator.Guarantees
import MasterAgent.Orchestrator.Invariant
import MasterAgent.Orchestrator.Order
import MasterAgent.Orchestrator.Pass
import MasterAgent.Orchestrator.Run
import MasterAgent.Orchestrator.Runtime
import MasterAgent.Orchestrator.Settle
import MasterAgent.Orchestrator.Shared
import MasterAgent.Orchestrator.Trace
import MasterAgent.Orchestrator.Turn
import MasterAgent.Performance.Document
import MasterAgent.Performance.Evidence
import MasterAgent.Performance.Recorder
import MasterAgent.Performance.Snapshot
import MasterAgent.Performance.Vocabulary
import MasterAgent.Planners.Binding
import MasterAgent.Planners.Governance
import MasterAgent.Planners.Compensation
import MasterAgent.Planners.Gate
import MasterAgent.Policy.Approvals
import MasterAgent.Policy.Decision
import MasterAgent.Policy.Engine
import MasterAgent.Policy.Sources
import MasterAgent.Recurring.Claims
import MasterAgent.Recurring.Fences
import MasterAgent.Recurring.Instants
import MasterAgent.Recurring.Schedule
import MasterAgent.Recurring.Scoping
import MasterAgent.Recurring.Store
import MasterAgent.Retention.Agreement
import MasterAgent.Retention.Manifest
import MasterAgent.Retention.Pairs
import MasterAgent.Retention.Readback
import MasterAgent.Retention.WindowsIntent
import MasterAgent.Retention.WindowsJobs
import MasterAgent.Retention.WindowsMaintenance
import MasterAgent.Retention.WindowsRecovery
import MasterAgent.Retention.Writers
import MasterAgent.Simple.Pages
import MasterAgent.Simple.Providers
import MasterAgent.Simple.Replay
import MasterAgent.Simple.Runs
import MasterAgent.Simple.State
import MasterAgent.Simple.Transport
import MasterAgent.WorkMemory.Agreement
import MasterAgent.WorkMemory.Journal
import MasterAgent.WorkMemory.Tamper
import MasterAgent.Workflows.Published
