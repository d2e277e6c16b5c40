import ModelAtlas.Jobs.Stranding
import ModelAtlas.Jobs.AttemptBudget
import ModelAtlas.Traffic.BatchAtomicity
import ModelAtlas.Traffic.ReceiptAgreement
import ModelAtlas.Traffic.SourceSeparation
import ModelAtlas.Traffic.CapturedTraces
import ModelAtlas.Trust.PathLengths
import ModelAtlas.Trust.ScheduledAttempts
import ModelAtlas.Gate.EvaluatorAgreement
import ModelAtlas.Release.Lifecycle
import ModelAtlas.Reliability.PageOutbox
import ModelAtlas.Reliability.Paging
import ModelAtlas.Sessions.RevocationFinality
import ModelAtlas.Reliability.IncidentTracking
import ModelAtlas.Evidence.ReceiptCoverage
import ModelAtlas.Gate.ScopeBookkeeping
import ModelAtlas.Labels.ReviewProvenance
import ModelAtlas.Release.SignerIdentities
import ModelAtlas.Requests.WorkflowVerdicts
import ModelAtlas.Collector.HandOver
import ModelAtlas.Agent.Reexecution
import ModelAtlas.Isolation.AdmittedRuns
import ModelAtlas.Approval.LinearRevisions
import ModelAtlas.CasePacks.BoundApprovals
import ModelAtlas.Reliability.SloWindows
import ModelAtlas.Gate.EditedEvidence
import ModelAtlas.Evidence.Validation.GateTrust
import ModelAtlas.Assistant.CertifiedDrafts
import ModelAtlas.Assistant.RecoveredReviews
import ModelAtlas.Evidence.Validation.ObservedRuns
import ModelAtlas.Agent.BoundedPlans
import ModelAtlas.Tools.ToolTraces
import ModelAtlas.Oidc.VerifierRuns
import ModelAtlas.Tools.SchemaDecision
import ModelAtlas.Rag.GroundedOutputs
import ModelAtlas.Corpus.FaithfulSections
import ModelAtlas.Reliability.PagingSink
import ModelAtlas.Rag.ComplementarySelection
import ModelAtlas.Evidence.Validation.TrialSamples
import ModelAtlas.Agent.RecoveryOrder
import ModelAtlas.Gate.PolicyVerdicts
import ModelAtlas.Jobs.RequestedJobs
import ModelAtlas.Recommendations.Dominance
import ModelAtlas.Reliability.RunComparison
