import Paic.Tools.Gateway
import Mathlib

/-!
# Models of an investigation

Configuration, provider messages, proposals, reports and transcript events.
A model carries its validation as `Valid`, or in its fields where every value
of the type has passed it. Fields that nothing here reads are left out.
-/

namespace Paic.Investigation

open Tools (Arguments ExecutionStatus SourceHashes UnicodeText isSpace)

-- ---------------------------------------------------------------------------
-- Configuration
-- ---------------------------------------------------------------------------

structure ModelRoute where
  model : String
  deriving DecidableEq, Repr

structure InvestigationBudget where
  maxRounds : Nat
  maxToolCalls : Nat
  maxProviderFailures : Nat
  maxTotalTokens : Nat
  maxToolResultBytes : Nat
  deriving DecidableEq, Repr

@[mk_iff]
structure InvestigationBudget.Valid (b : InvestigationBudget) : Prop where
  maxRounds : 1 ≤ b.maxRounds ∧ b.maxRounds ≤ 30
  maxToolCalls : 1 ≤ b.maxToolCalls ∧ b.maxToolCalls ≤ 100
  maxProviderFailures : b.maxProviderFailures ≤ 20
  maxTotalTokens : 512 ≤ b.maxTotalTokens ∧ b.maxTotalTokens ≤ 500000
  maxToolResultBytes : 1000 ≤ b.maxToolResultBytes ∧ b.maxToolResultBytes ≤ 1000000

instance (b : InvestigationBudget) : Decidable b.Valid :=
  decidable_of_iff' _ (InvestigationBudget.valid_iff b)

structure DecisionPolicy where
  minimumTopPosterior : Rat
  minimumMargin : Rat
  minimumDistinctEvidence : Nat
  maximumNormalizedEntropy : Rat
  likelihoodRatioMin : Rat
  likelihoodRatioMax : Rat
  deriving DecidableEq, Repr

@[mk_iff]
structure DecisionPolicy.Valid (p : DecisionPolicy) : Prop where
  minimumTopPosterior : 0 ≤ p.minimumTopPosterior ∧ p.minimumTopPosterior ≤ 1
  minimumMargin : 0 ≤ p.minimumMargin ∧ p.minimumMargin ≤ 1
  minimumDistinctEvidence : 1 ≤ p.minimumDistinctEvidence ∧ p.minimumDistinctEvidence ≤ 50
  maximumNormalizedEntropy : 0 ≤ p.maximumNormalizedEntropy ∧ p.maximumNormalizedEntropy ≤ 1
  likelihoodRatioMin : 0 < p.likelihoodRatioMin ∧ p.likelihoodRatioMin < 1
  likelihoodRatioMax : 1 < p.likelihoodRatioMax ∧ p.likelihoodRatioMax ≤ 100

instance (p : DecisionPolicy) : Decidable p.Valid :=
  decidable_of_iff' _ (DecisionPolicy.valid_iff p)

/-- `models` are the routes of the provider, in order. -/
structure InvestigationConfig where
  investigationId : String
  models : List ModelRoute
  budget : InvestigationBudget
  decision : DecisionPolicy
  allowedTools : List String
  deriving DecidableEq, Repr

@[mk_iff]
structure InvestigationConfig.Valid (c : InvestigationConfig) : Prop where
  investigationId : isKeyId c.investigationId = true
  models : c.models ≠ [] ∧ c.models.Nodup
  budget : c.budget.Valid
  decision : c.decision.Valid
  allowedTools : c.allowedTools ≠ [] ∧ c.allowedTools.Nodup ∧ c.allowedTools ⊆ Tools.tools

instance : Model InvestigationConfig where
  Valid := InvestigationConfig.Valid
  decValid c := decidable_of_iff' _ (InvestigationConfig.valid_iff c)

-- ---------------------------------------------------------------------------
-- Requests and messages
-- ---------------------------------------------------------------------------

/-- The role of a request is `investigator`. -/
structure InvestigationRequest where
  incidentId : String
  question : String
  datasetDir : String
  analyticsDir : Option String
  detectionDir : Option String
  impactDir : Option String
  evidenceDir : Option String
  auditDir : Option String
  deriving DecidableEq, Repr

@[mk_iff]
structure InvestigationRequest.Valid (r : InvestigationRequest) : Prop where
  incidentId : 1 ≤ r.incidentId.length ∧ r.incidentId.length ≤ 200
  question : 1 ≤ r.question.length ∧ r.question.length ≤ 4000
  datasetDir : 1 ≤ r.datasetDir.length

instance (r : InvestigationRequest) : Decidable r.Valid :=
  decidable_of_iff' _ (InvestigationRequest.valid_iff r)

inductive ChatRole where
  | system | user | assistant | tool
  deriving DecidableEq, Repr

structure ChatMessage where
  role : ChatRole
  content : Option String := none
  name : Option String := none
  toolCallId : Option String := none
  toolCalls : Option (List Json) := none
  deriving DecidableEq, Repr

structure ProviderToolCall where
  callId : String
  name : String
  arguments : Arguments
  callId_length : 1 ≤ callId.length ∧ callId.length ≤ 200
  name_length : 1 ≤ name.length ∧ name.length ≤ 200
  deriving DecidableEq

def ProviderToolCall.modelDump (c : ProviderToolCall) : Json :=
  .obj [("id", .str c.callId), ("name", .str c.name), ("arguments", .obj c.arguments)]

/-- Token counts after `reconcile_token_totals`. -/
structure ProviderUsage where
  promptTokens : Nat
  completionTokens : Nat
  totalTokens : Nat
  reconciled : promptTokens + completionTokens = 0 ∨ totalTokens = promptTokens + completionTokens
  deriving DecidableEq

def ProviderUsage.modelDump (u : ProviderUsage) : Json :=
  .obj [("prompt_tokens", .int u.promptTokens), ("completion_tokens", .int u.completionTokens),
    ("total_tokens", .int u.totalTokens)]

structure ProviderResponse where
  model : String
  content : Option String
  toolCalls : List ProviderToolCall
  finishReason : Option String
  usage : ProviderUsage
  deriving DecidableEq

structure ProviderError where
  code : String
  message : String
  retryable : Bool
  deriving DecidableEq, Repr

inductive AttemptStatus where
  | success | retryableError | fatalError
  deriving DecidableEq, Repr

def AttemptStatus.text : AttemptStatus → String
  | .success => "success"
  | .retryableError => "retryable_error"
  | .fatalError => "fatal_error"

structure ModelAttempt where
  model : String
  status : AttemptStatus
  errorCode : Option String := none
  promptTokens : Nat := 0
  completionTokens : Nat := 0
  deriving DecidableEq, Repr

def ModelAttempt.modelDump (a : ModelAttempt) : Json :=
  .obj [("model", .str a.model), ("status", .str a.status.text),
    ("error_code", .opt .str a.errorCode), ("prompt_tokens", .int a.promptTokens),
    ("completion_tokens", .int a.completionTokens)]

-- ---------------------------------------------------------------------------
-- Proposals
-- ---------------------------------------------------------------------------

inductive Direction where
  | support | contradict
  deriving DecidableEq, Repr

def Direction.text : Direction → String
  | .support => "support"
  | .contradict => "contradict"

structure EvidenceAssessment where
  evidenceRecordId : String
  direction : Direction
  likelihoodRatio : Rat
  explanation : String
  deriving DecidableEq, Repr

def EvidenceAssessment.modelDump (e : EvidenceAssessment) : Json :=
  .obj [("evidence_record_id", .str e.evidenceRecordId), ("direction", .str e.direction.text),
    ("likelihood_ratio", .float e.likelihoodRatio), ("explanation", .str e.explanation)]

@[mk_iff]
structure EvidenceAssessment.Valid (e : EvidenceAssessment) : Prop where
  evidenceRecordId : 1 ≤ e.evidenceRecordId.length ∧ e.evidenceRecordId.length ≤ 200
  likelihoodRatio : 0 < e.likelihoodRatio ∧ e.likelihoodRatio ≤ 100
  explanation : 1 ≤ e.explanation.length ∧ e.explanation.length ≤ 1000
  direction : match e.direction with
    | .support => 1 < e.likelihoodRatio
    | .contradict => e.likelihoodRatio < 1

instance (e : EvidenceAssessment) : Decidable e.Valid :=
  haveI : Decidable (match e.direction with
      | .support => 1 < e.likelihoodRatio
      | .contradict => e.likelihoodRatio < 1) := by
    cases e.direction <;> infer_instance
  decidable_of_iff' _ (EvidenceAssessment.valid_iff e)

structure HypothesisProposal where
  hypothesisId : String
  title : String
  priorProbability : Rat
  rationale : String
  evidence : List EvidenceAssessment
  falsifiers : List String
  deriving DecidableEq, Repr

def HypothesisProposal.modelDump (h : HypothesisProposal) : Json :=
  .obj [("hypothesis_id", .str h.hypothesisId), ("title", .str h.title),
    ("prior_probability", .float h.priorProbability), ("rationale", .str h.rationale),
    ("evidence", .arr (h.evidence.map EvidenceAssessment.modelDump)),
    ("falsifiers", .strs h.falsifiers)]

/-- `value.strip()` -/
def strip [UnicodeText] (s : String) : String :=
  String.ofList ((s.toList.dropWhile isSpace).reverse.dropWhile isSpace).reverse

/-- Texts that are not blank, and differ when stripped. -/
def distinctTexts [UnicodeText] (texts : List String) : Prop :=
  (∀ s ∈ texts, strip s ≠ "") ∧ (texts.map strip).Nodup

instance [UnicodeText] (texts : List String) : Decidable (distinctTexts texts) := by
  unfold distinctTexts; infer_instance

@[mk_iff]
structure HypothesisProposal.Valid [UnicodeText] (h : HypothesisProposal) : Prop where
  hypothesisId : isKeyId h.hypothesisId = true
  title : 1 ≤ h.title.length ∧ h.title.length ≤ 300
  priorProbability : 0 < h.priorProbability ∧ h.priorProbability < 1
  rationale : 1 ≤ h.rationale.length ∧ h.rationale.length ≤ 2000
  evidence : (∀ e ∈ h.evidence, e.Valid) ∧ 1 ≤ h.evidence.length ∧ h.evidence.length ≤ 30
  falsifiers : 1 ≤ h.falsifiers.length ∧ h.falsifiers.length ≤ 10
  uniqueEvidence : (h.evidence.map EvidenceAssessment.evidenceRecordId).Nodup
  distinctFalsifiers : distinctTexts h.falsifiers

instance [UnicodeText] (h : HypothesisProposal) : Decidable h.Valid :=
  decidable_of_iff' _ (HypothesisProposal.valid_iff h)

/-- The operations on floating-point numbers that round. Comparisons, `min`,
`max` and negation are those of the numbers themselves. -/
class FloatMath where
  log : Rat → Rat
  exp : Rat → Rat
  add : Rat → Rat → Rat
  sub : Rat → Rat → Rat
  mul : Rat → Rat → Rat
  div : Rat → Rat → Rat
  sum : List Rat → Rat

structure InvestigationProposal where
  summary : String
  hypotheses : List HypothesisProposal
  explicitUnknowns : List String
  recommendedNextSteps : List String
  deriving DecidableEq, Repr

def InvestigationProposal.modelDump (p : InvestigationProposal) : Json :=
  .obj [("summary", .str p.summary),
    ("hypotheses", .arr (p.hypotheses.map HypothesisProposal.modelDump)),
    ("explicit_unknowns", .strs p.explicitUnknowns),
    ("recommended_next_steps", .strs p.recommendedNextSteps)]

/-- The ids of the evidence that a proposal refers to. -/
def InvestigationProposal.referenced (p : InvestigationProposal) : List String :=
  p.hypotheses.flatMap fun h => h.evidence.map EvidenceAssessment.evidenceRecordId

/-- The double nearest to `1e-6`. -/
def priorTolerance : Rat := 4722366482869645 / 4722366482869645213696

@[mk_iff]
structure InvestigationProposal.Valid [UnicodeText] [FloatMath] (p : InvestigationProposal) :
    Prop where
  summary : 1 ≤ p.summary.length ∧ p.summary.length ≤ 2000
  hypotheses : (∀ h ∈ p.hypotheses, h.Valid) ∧ 2 ≤ p.hypotheses.length ∧ p.hypotheses.length ≤ 8
  explicitUnknowns : p.explicitUnknowns.length ≤ 20
  recommendedNextSteps : p.recommendedNextSteps.length ≤ 20
  uniqueHypotheses : (p.hypotheses.map HypothesisProposal.hypothesisId).Nodup
  priorTotal : |FloatMath.sub (FloatMath.sum (p.hypotheses.map HypothesisProposal.priorProbability)) 1|
    ≤ priorTolerance
  distinctUnknowns : distinctTexts p.explicitUnknowns
  distinctNextSteps : distinctTexts p.recommendedNextSteps

instance [UnicodeText] [FloatMath] (p : InvestigationProposal) : Decidable p.Valid :=
  decidable_of_iff' _ (InvestigationProposal.valid_iff p)

-- ---------------------------------------------------------------------------
-- Reports
-- ---------------------------------------------------------------------------

structure ComputedHypothesis where
  hypothesisId : String
  title : String
  priorProbability : Rat
  posteriorProbability : Rat
  logEvidenceScore : Rat
  rationale : String
  supportingEvidenceIds : List String
  contradictingEvidenceIds : List String
  falsifiers : List String
  deriving DecidableEq, Repr

def ComputedHypothesis.modelDump (h : ComputedHypothesis) : Json :=
  .obj [("hypothesis_id", .str h.hypothesisId), ("title", .str h.title),
    ("prior_probability", .float h.priorProbability),
    ("posterior_probability", .float h.posteriorProbability),
    ("log_evidence_score", .float h.logEvidenceScore), ("rationale", .str h.rationale),
    ("supporting_evidence_ids", .strs h.supportingEvidenceIds),
    ("contradicting_evidence_ids", .strs h.contradictingEvidenceIds),
    ("falsifiers", .strs h.falsifiers)]

structure ToolTraceEntry where
  sequence : Nat
  callId : String
  tool : String
  arguments : Arguments
  executionStatus : ExecutionStatus
  resultSha256 : String
  evidenceRecordIds : List String
  truncated : Bool
  errorCode : Option String
  deriving DecidableEq, Repr

def ToolTraceEntry.modelDump (t : ToolTraceEntry) : Json :=
  .obj [("sequence", .int t.sequence), ("call_id", .str t.callId), ("tool", .str t.tool),
    ("arguments", .obj t.arguments), ("execution_status", .str t.executionStatus.text),
    ("result_sha256", .str t.resultSha256), ("evidence_record_ids", .strs t.evidenceRecordIds),
    ("truncated", .bool t.truncated), ("error_code", .opt .str t.errorCode)]

inductive ReportStatus where
  | concluded | abstained | failed
  deriving DecidableEq, Repr

def ReportStatus.text : ReportStatus → String
  | .concluded => "concluded"
  | .abstained => "abstained"
  | .failed => "failed"

structure InvestigationReport where
  investigationId : String
  incidentId : String
  question : String
  status : ReportStatus
  summary : String
  selectedHypothesisId : Option String
  confidence : Rat
  normalizedEntropy : Rat
  posteriorMargin : Rat
  hypotheses : List ComputedHypothesis
  explicitUnknowns : List String
  recommendedNextSteps : List String
  observedEvidenceRecordIds : List String
  sourceManifestHashes : SourceHashes
  modelAttempts : List ModelAttempt
  toolTrace : List ToolTraceEntry
  totalTokens : Nat
  proposal : InvestigationProposal
  reportSha256 : String
  deriving DecidableEq, Repr

/-- A report without its own hash. -/
def InvestigationReport.payload (r : InvestigationReport) : Json :=
  .obj [("schema_version", .str "1.0"), ("investigation_id", .str r.investigationId),
    ("incident_id", .str r.incidentId), ("question", .str r.question),
    ("status", .str r.status.text), ("summary", .str r.summary),
    ("selected_hypothesis_id", .opt .str r.selectedHypothesisId),
    ("confidence", .float r.confidence), ("normalized_entropy", .float r.normalizedEntropy),
    ("posterior_margin", .float r.posteriorMargin),
    ("hypotheses", .arr (r.hypotheses.map ComputedHypothesis.modelDump)),
    ("explicit_unknowns", .strs r.explicitUnknowns),
    ("recommended_next_steps", .strs r.recommendedNextSteps),
    ("observed_evidence_record_ids", .strs r.observedEvidenceRecordIds),
    ("source_manifest_hashes", SourceHashes.modelDump r.sourceManifestHashes),
    ("model_attempts", .arr (r.modelAttempts.map ModelAttempt.modelDump)),
    ("tool_trace", .arr (r.toolTrace.map ToolTraceEntry.modelDump)),
    ("total_tokens", .int r.totalTokens), ("proposal", r.proposal.modelDump)]

@[mk_iff]
structure InvestigationReport.Valid [UnicodeText] [FloatMath] (r : InvestigationReport) : Prop where
  confidence : 0 ≤ r.confidence ∧ r.confidence ≤ 1
  normalizedEntropy : 0 ≤ r.normalizedEntropy ∧ r.normalizedEntropy ≤ 1
  posteriorMargin : 0 ≤ r.posteriorMargin ∧ r.posteriorMargin ≤ 1
  toolTrace : ∀ t ∈ r.toolTrace, 1 ≤ t.sequence
  proposal : r.proposal.Valid

instance [UnicodeText] [FloatMath] : Model InvestigationReport where
  Valid := InvestigationReport.Valid
  decValid r := decidable_of_iff' _ (InvestigationReport.valid_iff r)

-- ---------------------------------------------------------------------------
-- Transcripts
-- ---------------------------------------------------------------------------

inductive EventType where
  | providerResponse | toolResult | proposalRejected | proposalAccepted
  deriving DecidableEq, Repr

def EventType.text : EventType → String
  | .providerResponse => "provider_response"
  | .toolResult => "tool_result"
  | .proposalRejected => "proposal_rejected"
  | .proposalAccepted => "proposal_accepted"

structure TranscriptEvent where
  sequence : Nat
  eventType : EventType
  payload : List (String × Json)
  previousEventSha256 : String
  eventSha256 : String
  deriving DecidableEq, Repr

/-- An event without its own hash. -/
def TranscriptEvent.base (e : TranscriptEvent) : Json :=
  .obj [("sequence", .int e.sequence), ("event_type", .str e.eventType.text),
    ("payload", .obj e.payload), ("previous_event_sha256", .str e.previousEventSha256)]

/-- The events of a transcript. -/
instance : Model (List TranscriptEvent) where
  Valid events := ∀ e ∈ events, 1 ≤ e.sequence
  decValid _ := inferInstance

end Paic.Investigation
