import Paic.Analytics.Additivity
import Paic.Analytics.Contribution
import Paic.Analytics.Decomposition
import Paic.Analytics.Metrics
import Paic.Analytics.Models
import Paic.Artifacts.Atomic
import Paic.Artifacts.Publication
import Paic.Artifacts.PublicationLaws
import Paic.Artifacts.Staging
import Paic.Detection.Adjustment
import Paic.Detection.Benchmark
import Paic.Detection.Cusum
import Paic.Detection.Engine
import Paic.Detection.EventGate
import Paic.Detection.EventRuns
import Paic.Detection.Events
import Paic.Detection.Injection
import Paic.Detection.LookAhead
import Paic.Detection.Models
import Paic.Detection.Scenarios
import Paic.Detection.Statistics
import Paic.Evaluation.Ablation
import Paic.Evaluation.AblationLaws
import Paic.Evaluation.Aggregate
import Paic.Evaluation.Artifact
import Paic.Evaluation.Benchmark
import Paic.Evaluation.Calibration
import Paic.Evaluation.CaseLaws
import Paic.Evaluation.Isolation
import Paic.Evaluation.Models
import Paic.Evaluation.Order
import Paic.Evaluation.Replay
import Paic.Evaluation.RoundTrip
import Paic.Evaluation.Sample
import Paic.Evaluation.Scoring
import Paic.Evidence.Graph
import Paic.Evidence.Timeline
import Paic.Impact.Engine
import Paic.Impact.Matching
import Paic.Impact.Models
import Paic.Impact.Statistics
import Paic.Impact.Survival
import Paic.Investigation.Artifact
import Paic.Investigation.Bayes
import Paic.Investigation.FailClosed
import Paic.Investigation.Fallback
import Paic.Investigation.Grounded
import Paic.Investigation.Models
import Paic.Investigation.Orchestrator
import Paic.Investigation.Posterior
import Paic.Investigation.Probability
import Paic.Investigation.Prompts
import Paic.Investigation.Provider
import Paic.Investigation.Reconstruction
import Paic.Investigation.Replay
import Paic.Investigation.Sample
import Paic.Investigation.Transcript
import Paic.Investigation.Validated
import Paic.Json
import Paic.JsonCode
import Paic.JsonObjects
import Paic.Leases.ActiveLaws
import Paic.Leases.Bookkeeping
import Paic.Leases.Deadlock
import Paic.Leases.Entering
import Paic.Leases.Exclusion
import Paic.Leases.Files
import Paic.Leases.FilesLaws
import Paic.Leases.Lease
import Paic.Leases.LeaseLaws
import Paic.Leases.Sessions
import Paic.Leases.Turnstile
import Paic.Leases.TurnstileLaws
import Paic.LedgerHeads
import Paic.LedgerSample
import Paic.Ledgers
import Paic.Lib.Acyclic
import Paic.Lib.Base64
import Paic.Lib.Chain
import Paic.Lib.Checks
import Paic.Lib.Dict
import Paic.Lib.Distribution
import Paic.Lib.Entries
import Paic.Lib.Greedy
import Paic.Lib.Grid
import Paic.Lib.GroupBy
import Paic.Lib.Interleave
import Paic.Lib.Keyed
import Paic.Lib.Kitagawa
import Paic.Lib.Lines
import Paic.Lib.Longest
import Paic.Lib.Mean
import Paic.Lib.Median
import Paic.Lib.Numerals
import Paic.Lib.Partition
import Paic.Lib.Parts
import Paic.Lib.Prog
import Paic.Lib.Reach
import Paic.Lib.Replace
import Paic.Lib.Rounding
import Paic.Lib.Routine
import Paic.Lib.Rows
import Paic.Lib.Runs
import Paic.Lib.Sorted
import Paic.Lib.StepUp
import Paic.Lib.SuffixSum
import Paic.Lib.Weighted
import Paic.Lib.Words
import Paic.Patterns
import Paic.Platform
import Paic.Recovery.Band
import Paic.Recovery.Decision
import Paic.Recovery.Engine
import Paic.Recovery.Lifecycle
import Paic.Recovery.LifecycleHistory
import Paic.Recovery.LifecycleProgress
import Paic.Recovery.Lineage
import Paic.Recovery.LineageSound
import Paic.Recovery.Metric
import Paic.Recovery.Models
import Paic.Recovery.Raised
import Paic.Recovery.Relevant
import Paic.Recovery.Replay
import Paic.Recovery.Sample
import Paic.Recovery.SampleStore
import Paic.Recovery.StateStore
import Paic.Recovery.StoreLaws
import Paic.Recovery.StoreRecovery
import Paic.Recovery.StoreRetries
import Paic.Remediation.Approval
import Paic.Remediation.ApprovalChain
import Paic.Remediation.ApprovalLaws
import Paic.Remediation.ApprovalOrder
import Paic.Remediation.Artifact
import Paic.Remediation.ArtifactLaws
import Paic.Remediation.Config
import Paic.Remediation.Effects
import Paic.Remediation.Executor
import Paic.Remediation.ExecutorLaws
import Paic.Remediation.GroupSeparation
import Paic.Remediation.LateRejection
import Paic.Remediation.Lineage
import Paic.Remediation.Models
import Paic.Remediation.Policy
import Paic.Remediation.PolicyLaws
import Paic.Remediation.Rollback
import Paic.Remediation.Sample
import Paic.Remediation.SampleStore
import Paic.Remediation.SampleText
import Paic.Remediation.StateLaws
import Paic.Remediation.StateStore
import Paic.Remediation.StateStoreLaws
import Paic.Remediation.StoreHistory
import Paic.Remediation.StoreInvariant
import Paic.Remediation.StoreRecovery
import Paic.Remediation.StoreRuns
import Paic.Remediation.StoreStart
import Paic.Remediation.Tokens
import Paic.Remediation.ValidationLaws
import Paic.Remediation.Veto
import Paic.Simulator.CommerceLaws
import Paic.Simulator.Config
import Paic.Simulator.DatasetLaws
import Paic.Simulator.Dimensions
import Paic.Simulator.DimensionsLaws
import Paic.Simulator.Events
import Paic.Simulator.Operations
import Paic.Simulator.OperationsLaws
import Paic.Simulator.OrdersLaws
import Paic.Simulator.RecordsLaws
import Paic.Simulator.SessionsLaws
import Paic.Simulator.Tables
import Paic.Simulator.Validation
import Paic.Tools.Answers
import Paic.Tools.AuditChain
import Paic.Tools.AuditText
import Paic.Tools.Bounded
import Paic.Tools.Catalogue
import Paic.Tools.Gateway
import Paic.Tools.Ledger
import Paic.Tools.Lineage
import Paic.Tools.Models
import Paic.Tools.RecordRedaction
import Paic.Tools.Redaction
import Paic.Tools.Sample
import Paic.WebReadiness.Bundle
import Paic.WebReadiness.Public
import Paic.WebReadiness.Safety
