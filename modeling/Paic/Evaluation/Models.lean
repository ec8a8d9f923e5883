import Paic.Investigation.Models
import Paic.JsonObjects
import Paic.Remediation.Artifact

/-!
# Models of an evaluation

Visible cases, hidden answers, predictions, results and the run that binds
them. A dict is the list of its entries in their order, with each key once;
`inOrder` brings the keys to the order in which they are written, and two
models are equal to Python when they are equal in that order.
-/

namespace Paic.Evaluation

open Investigation (FloatMath)
open Remediation (lengthIn textIn)
open Tools (UnicodeText lower contains)

/-- `^[a-z0-9]+(?:[._-][a-z0-9]+)*$` -/
def isCaseId (s : String) : Bool :=
  segments isLowerAlnum (fun c => c == '.' || c == '_' || c == '-') false s.toList

/-- A float between 0 and 1. -/
def isRate (x : Rat) : Prop := 0 ≤ x ∧ x ≤ 1

instance (x : Rat) : Decidable (isRate x) := by unfold isRate; infer_instance

/-- The entries of a dict in the order of their keys. -/
def keysInOrder (fields : List (String × α)) : List (String × α) :=
  fields.insertionSort fun a b => a.1 ≤ b.1

-- ---------------------------------------------------------------------------
-- Cases and answers
-- ---------------------------------------------------------------------------

inductive Difficulty where
  | easy | medium | hard
  deriving DecidableEq, Repr

def Difficulty.text : Difficulty → String
  | .easy => "easy"
  | .medium => "medium"
  | .hard => "hard"

structure VisibleCase where
  caseId : String
  family : String
  difficulty : Difficulty
  incidentInput : String
  evidenceIds : List String
  allowedTools : List String
  deriving DecidableEq, Repr

@[mk_iff]
structure VisibleCase.Valid (c : VisibleCase) : Prop where
  caseId : isCaseId c.caseId = true
  family : textIn c.family 1 100
  incidentInput : textIn c.incidentInput 1 20000
  evidenceIds : c.evidenceIds.length ≤ 100 ∧ c.evidenceIds.Nodup
  allowedTools : c.allowedTools.length ≤ 100 ∧ c.allowedTools.Nodup

instance (c : VisibleCase) : Decidable c.Valid := decidable_of_iff' _ (VisibleCase.valid_iff c)

def VisibleCase.modelDump (c : VisibleCase) : Json :=
  .obj [("case_id", .str c.caseId), ("family", .str c.family),
    ("difficulty", .str c.difficulty.text), ("incident_input", .str c.incidentInput),
    ("evidence_ids", .strs c.evidenceIds), ("allowed_tools", .strs c.allowedTools)]

inductive RecoveryOutcome where
  | recovered | recovering | failed | insufficientData
  deriving DecidableEq, Repr

def RecoveryOutcome.text : RecoveryOutcome → String
  | .recovered => "recovered"
  | .recovering => "recovering"
  | .failed => "failed"
  | .insufficientData => "insufficient_data"

structure HiddenAnswerKey where
  caseId : String
  rootCauseId : String
  incidentFamily : Option String
  affectedCohort : List String
  acceptableAlternates : List String
  requiredEvidenceIds : List String
  prohibitedClaims : List String
  shouldAbstain : Bool
  allowedRemediationClasses : List String
  prohibitedRemediationClasses : List String
  expectedRecovery : RecoveryOutcome
  contradictionExpected : Option Bool
  deriving DecidableEq, Repr

@[mk_iff]
structure HiddenAnswerKey.Valid (a : HiddenAnswerKey) : Prop where
  caseId : isCaseId a.caseId = true
  rootCauseId : textIn a.rootCauseId 1 200
  incidentFamily : ∀ family ∈ a.incidentFamily, family.length ≤ 100
  affectedCohort : a.affectedCohort.length ≤ 100 ∧ a.affectedCohort.Nodup
  acceptableAlternates : a.acceptableAlternates.length ≤ 20 ∧ a.acceptableAlternates.Nodup
  requiredEvidenceIds : a.requiredEvidenceIds.length ≤ 100 ∧ a.requiredEvidenceIds.Nodup
  prohibitedClaims : a.prohibitedClaims.length ≤ 50 ∧ a.prohibitedClaims.Nodup
  allowedClasses :
    a.allowedRemediationClasses.length ≤ 20 ∧ a.allowedRemediationClasses.Nodup
  prohibitedClasses :
    a.prohibitedRemediationClasses.length ≤ 20 ∧ a.prohibitedRemediationClasses.Nodup
  notRepeated : a.rootCauseId ∉ a.acceptableAlternates
  disjoint : ∀ name ∈ a.allowedRemediationClasses, name ∉ a.prohibitedRemediationClasses

instance (a : HiddenAnswerKey) : Decidable a.Valid :=
  decidable_of_iff' _ (HiddenAnswerKey.valid_iff a)

def HiddenAnswerKey.modelDump (a : HiddenAnswerKey) : Json :=
  .obj [("case_id", .str a.caseId), ("root_cause_id", .str a.rootCauseId),
    ("incident_family", .opt .str a.incidentFamily),
    ("affected_cohort", .strs a.affectedCohort),
    ("acceptable_alternates", .strs a.acceptableAlternates),
    ("required_evidence_ids", .strs a.requiredEvidenceIds),
    ("prohibited_claims", .strs a.prohibitedClaims), ("should_abstain", .bool a.shouldAbstain),
    ("allowed_remediation_classes", .strs a.allowedRemediationClasses),
    ("prohibited_remediation_classes", .strs a.prohibitedRemediationClasses),
    ("expected_recovery", .str a.expectedRecovery.text),
    ("contradiction_expected", .opt .bool a.contradictionExpected)]

-- ---------------------------------------------------------------------------
-- Predictions
-- ---------------------------------------------------------------------------

/-- The operations on floats that scoring uses next to those of `FloatMath`:
`math.fsum` and `x ** 2`. -/
class ScoringMath extends FloatMath where
  fsum : List Rat → Rat
  square : Rat → Rat

export ScoringMath (fsum square)

/-- The float `1e-9`. -/
def sumTolerance : Rat := 4835703278458517 / 4835703278458516698824704

structure ProviderUsage where
  inputTokens : Option Nat
  outputTokens : Option Nat
  totalTokens : Option Nat
  latencyMs : Option Rat
  costUsd : Option Rat
  deriving DecidableEq, Repr

@[mk_iff]
structure ProviderUsage.Valid (u : ProviderUsage) : Prop where
  latencyMs : ∀ x ∈ u.latencyMs, 0 ≤ x
  costUsd : ∀ x ∈ u.costUsd, 0 ≤ x
  totals : ∀ total ∈ u.totalTokens, ∀ input ∈ u.inputTokens, ∀ output ∈ u.outputTokens,
    total = input + output

instance (u : ProviderUsage) : Decidable u.Valid := decidable_of_iff' _ (ProviderUsage.valid_iff u)

def ProviderUsage.modelDump (u : ProviderUsage) : Json :=
  .obj [("input_tokens", .opt (fun n => .int n) u.inputTokens),
    ("output_tokens", .opt (fun n => .int n) u.outputTokens),
    ("total_tokens", .opt (fun n => .int n) u.totalTokens),
    ("latency_ms", .opt .float u.latencyMs), ("cost_usd", .opt .float u.costUsd)]

structure Prediction where
  caseId : String
  rankedHypotheses : List String
  probabilities : List (String × Rat)
  citedEvidenceIds : List String
  claims : List String
  abstained : Bool
  toolCalls : Nat
  toolFailures : Nat
  proposedRemediationClass : Option String
  authorizedRemediationClass : Option String
  predictedRecovery : Option RecoveryOutcome
  claimedRecoveryAuthority : Bool
  contradictionHandled : Option Bool
  providerUsage : Option ProviderUsage
  providerUsageSource : Option Unit
  deriving DecidableEq, Repr

section
variable [ScoringMath]

/-- What `validate_probabilities` says of the values: each a rate, and their sum
near one. -/
def sumsToOne (values : List Rat) : Prop :=
  (∀ x ∈ values, isRate x) ∧
    let distance := FloatMath.sub (FloatMath.sum values) 1
    distance ≤ sumTolerance ∧ -sumTolerance ≤ distance

instance (values : List Rat) : Decidable (sumsToOne values) := by
  unfold sumsToOne; infer_instance

@[mk_iff]
structure Prediction.Valid (p : Prediction) : Prop where
  caseId : isCaseId p.caseId = true
  rankedHypotheses : lengthIn p.rankedHypotheses 1 30 ∧ p.rankedHypotheses.Nodup
  probabilities : lengthIn p.probabilities 1 30 ∧ (p.probabilities.map Prod.fst).Nodup
  citedEvidenceIds : p.citedEvidenceIds.length ≤ 100 ∧ p.citedEvidenceIds.Nodup
  claims : p.claims.length ≤ 50 ∧ p.claims.Nodup
  toolCalls : p.toolCalls ≤ 1000
  toolFailures : p.toolFailures ≤ 1000
  proposedClass : ∀ name ∈ p.proposedRemediationClass, name.length ≤ 200
  authorizedClass : ∀ name ∈ p.authorizedRemediationClass, name.length ≤ 200
  sameKeys : ∀ name, name ∈ p.probabilities.map Prod.fst ↔ name ∈ p.rankedHypotheses
  sumsToOne : sumsToOne (p.probabilities.map Prod.snd)
  providerUsage : ∀ usage ∈ p.providerUsage, usage.Valid
  provenance : p.providerUsage.isSome = p.providerUsageSource.isSome

instance (p : Prediction) : Decidable (∀ name, name ∈ p.probabilities.map Prod.fst ↔
    name ∈ p.rankedHypotheses) :=
  decidable_of_iff ((∀ name ∈ p.probabilities.map Prod.fst, name ∈ p.rankedHypotheses) ∧
      ∀ name ∈ p.rankedHypotheses, name ∈ p.probabilities.map Prod.fst)
    ⟨fun h name => ⟨h.1 name, h.2 name⟩, fun h => ⟨fun name => (h name).mp, fun name => (h name).mpr⟩⟩

instance (p : Prediction) : Decidable p.Valid := decidable_of_iff' _ (Prediction.valid_iff p)

end

def Prediction.modelDump (p : Prediction) : Json :=
  .obj [("case_id", .str p.caseId), ("ranked_hypotheses", .strs p.rankedHypotheses),
    ("probabilities", .obj (p.probabilities.map fun entry => (entry.1, .float entry.2))),
    ("cited_evidence_ids", .strs p.citedEvidenceIds), ("claims", .strs p.claims),
    ("abstained", .bool p.abstained), ("tool_calls", .int p.toolCalls),
    ("tool_failures", .int p.toolFailures),
    ("proposed_remediation_class", .opt .str p.proposedRemediationClass),
    ("authorized_remediation_class", .opt .str p.authorizedRemediationClass),
    ("predicted_recovery", .opt (fun r => .str r.text) p.predictedRecovery),
    ("claimed_recovery_authority", .bool p.claimedRecoveryAuthority),
    ("contradiction_handled", .opt .bool p.contradictionHandled),
    ("provider_usage", .opt ProviderUsage.modelDump p.providerUsage),
    ("provider_usage_source", .opt (fun _ => .str "provider_response") p.providerUsageSource)]

def Prediction.inOrder (p : Prediction) : Prediction :=
  { p with probabilities := keysInOrder p.probabilities }

-- ---------------------------------------------------------------------------
-- Results
-- ---------------------------------------------------------------------------

structure ReliabilityBin where
  lowerBound : Rat
  upperBound : Rat
  count : Nat
  meanConfidence : Option Rat
  accuracy : Option Rat
  deriving DecidableEq, Repr

@[mk_iff]
structure ReliabilityBin.Valid (b : ReliabilityBin) : Prop where
  lowerBound : isRate b.lowerBound
  upperBound : isRate b.upperBound
  meanConfidence : ∀ x ∈ b.meanConfidence, isRate x
  accuracy : ∀ x ∈ b.accuracy, isRate x

instance (b : ReliabilityBin) : Decidable b.Valid :=
  decidable_of_iff' _ (ReliabilityBin.valid_iff b)

def ReliabilityBin.modelDump (b : ReliabilityBin) : Json :=
  .obj [("lower_bound", .float b.lowerBound), ("upper_bound", .float b.upperBound),
    ("count", .int b.count), ("mean_confidence", .opt .float b.meanConfidence),
    ("accuracy", .opt .float b.accuracy)]

structure CaseResult where
  caseId : String
  top1Correct : Bool
  primaryTop1Correct : Bool
  top3Correct : Bool
  hypothesisSetRecall : Bool
  reciprocalRank : Rat
  brierScore : Rat
  clippedLogLoss : Rat
  confidence : Rat
  abstained : Bool
  abstentionCorrect : Bool
  requiredEvidenceCoverage : Rat
  unsupportedClaimCount : Nat
  citedEvidenceValid : Bool
  contradictionHandled : Option Bool
  toolCalls : Nat
  toolFailures : Nat
  toolBudgetExceeded : Bool
  prohibitedActionProposed : Bool
  prohibitedActionAuthorized : Bool
  remediationCorrect : Option Bool
  recoveryCorrect : Option Bool
  modelClaimedRecoveryAuthority : Bool
  deriving DecidableEq, Repr

@[mk_iff]
structure CaseResult.Valid (r : CaseResult) : Prop where
  caseId : isCaseId r.caseId = true
  reciprocalRank : isRate r.reciprocalRank
  brierScore : 0 ≤ r.brierScore
  clippedLogLoss : 0 ≤ r.clippedLogLoss
  confidence : isRate r.confidence
  requiredEvidenceCoverage : isRate r.requiredEvidenceCoverage

instance (r : CaseResult) : Decidable r.Valid := decidable_of_iff' _ (CaseResult.valid_iff r)

structure AggregateMetrics where
  caseCount : Nat
  top1Accuracy : Rat
  primaryTop1Accuracy : Rat
  top3Recall : Rat
  hypothesisSetRecall : Rat
  meanReciprocalRank : Rat
  brierScore : Rat
  clippedLogLoss : Rat
  expectedCalibrationError : Rat
  calibrationCaseCount : Nat
  reliabilityBins : List ReliabilityBin
  abstentionAccuracy : Rat
  selectiveAccuracy : Rat
  coverage : Rat
  selectiveRisk : Rat
  requiredEvidenceCoverage : Rat
  citationValidityRate : Rat
  unsupportedClaimCount : Nat
  toolFailureCount : Nat
  toolBudgetExceededCount : Nat
  prohibitedActionProposedCount : Nat
  prohibitedActionAuthorizedCount : Nat
  modelClaimedRecoveryAuthorityCount : Nat
  remediationAccuracy : Option Rat
  recoveryAccuracy : Option Rat
  safetyPassed : Bool
  meanToolCalls : Rat
  deriving DecidableEq, Repr

@[mk_iff]
structure AggregateMetrics.Valid (m : AggregateMetrics) : Prop where
  caseCount : 1 ≤ m.caseCount
  rates : ∀ x ∈ [m.top1Accuracy, m.primaryTop1Accuracy, m.top3Recall, m.hypothesisSetRecall,
    m.meanReciprocalRank, m.expectedCalibrationError, m.abstentionAccuracy, m.selectiveAccuracy,
    m.coverage, m.selectiveRisk, m.requiredEvidenceCoverage, m.citationValidityRate], isRate x
  scores : ∀ x ∈ [m.brierScore, m.clippedLogLoss, m.meanToolCalls], 0 ≤ x
  reliabilityBins : ∀ b ∈ m.reliabilityBins, b.Valid
  remediationAccuracy : ∀ x ∈ m.remediationAccuracy, isRate x
  recoveryAccuracy : ∀ x ∈ m.recoveryAccuracy, isRate x

instance (m : AggregateMetrics) : Decidable m.Valid :=
  decidable_of_iff' _ (AggregateMetrics.valid_iff m)

-- ---------------------------------------------------------------------------
-- Configuration and run
-- ---------------------------------------------------------------------------

structure AblationConfig where
  name : String
  removeLineage : Bool
  removeHistory : Bool
  removeContradictions : Bool
  abstentionEnabled : Bool
  maxToolCalls : Nat
  maxHypotheses : Nat
  deriving DecidableEq, Repr

@[mk_iff]
structure AblationConfig.Valid (a : AblationConfig) : Prop where
  name : isCaseId a.name = true
  maxToolCalls : 1 ≤ a.maxToolCalls ∧ a.maxToolCalls ≤ 100
  maxHypotheses : 1 ≤ a.maxHypotheses ∧ a.maxHypotheses ≤ 30

instance (a : AblationConfig) : Decidable a.Valid :=
  decidable_of_iff' _ (AblationConfig.valid_iff a)

def AblationConfig.modelDump (a : AblationConfig) : Json :=
  .obj [("name", .str a.name), ("remove_lineage", .bool a.removeLineage),
    ("remove_history", .bool a.removeHistory),
    ("remove_contradictions", .bool a.removeContradictions),
    ("abstention_enabled", .bool a.abstentionEnabled), ("max_tool_calls", .int a.maxToolCalls),
    ("max_hypotheses", .int a.maxHypotheses)]

structure EvaluationConfig where
  runId : String
  benchmarkId : String
  providerLabel : String
  providerConfiguration : List (String × Json)
  seed : Nat
  ablation : AblationConfig
  deriving DecidableEq, Repr

/-- `str | int | float | bool` -/
def isSetting : Json → Bool
  | .str _ | .int _ | .float _ | .bool _ => true
  | _ => false

def forbiddenFragments : List String := ["secret", "token", "password", "api_key", "apikey"]

@[mk_iff]
structure EvaluationConfig.Valid [UnicodeText] (c : EvaluationConfig) : Prop where
  runId : isCaseId c.runId = true
  benchmarkId : textIn c.benchmarkId 1 200
  providerLabel : textIn c.providerLabel 1 200
  providerConfiguration : c.providerConfiguration.length ≤ 100 ∧
    (c.providerConfiguration.map Prod.fst).Nodup ∧
    ∀ setting ∈ c.providerConfiguration, isSetting setting.2 = true
  noCredentials : ∀ setting ∈ c.providerConfiguration,
    forbiddenFragments.any (contains (lower setting.1)) = false
  ablation : c.ablation.Valid

instance [UnicodeText] (c : EvaluationConfig) : Decidable c.Valid :=
  decidable_of_iff' _ (EvaluationConfig.valid_iff c)

def EvaluationConfig.inOrder (c : EvaluationConfig) : EvaluationConfig :=
  { c with providerConfiguration := keysInOrder c.providerConfiguration }

/-- The digests that a run, its manifest and its metadata record. -/
structure RunDigests where
  benchmarkManifestSha256 : String
  answerKeyManifestSha256 : String
  effectiveBenchmarkSha256 : String
  predictionSha256 : String
  resolvedAblationSha256 : String
  providerConfigSha256 : String
  toolPolicySha256 : String
  deriving DecidableEq, Repr

@[mk_iff]
structure RunDigests.Valid (d : RunDigests) : Prop where
  sha256 : ∀ s ∈ [d.benchmarkManifestSha256, d.answerKeyManifestSha256,
    d.effectiveBenchmarkSha256, d.predictionSha256, d.resolvedAblationSha256,
    d.providerConfigSha256, d.toolPolicySha256], isSha256 s = true

instance (d : RunDigests) : Decidable d.Valid := decidable_of_iff' _ (RunDigests.valid_iff d)

structure EvaluationRun where
  config : EvaluationConfig
  digests : RunDigests
  sourceVisibleCases : List VisibleCase
  effectiveVisibleCases : List VisibleCase
  answerKeys : List HiddenAnswerKey
  predictions : List Prediction
  results : List CaseResult
  aggregate : AggregateMetrics
  deriving DecidableEq, Repr

/-- What a run's own fields are checked for: the models in them are taken as
they are. -/
@[mk_iff]
structure EvaluationRun.Valid (r : EvaluationRun) : Prop where
  digests : r.digests.Valid
  sourceVisibleCases : r.sourceVisibleCases ≠ []
  effectiveVisibleCases : r.effectiveVisibleCases ≠ []
  answerKeys : r.answerKeys ≠ []
  predictions : r.predictions ≠ []
  results : r.results ≠ []

instance (r : EvaluationRun) : Decidable r.Valid := decidable_of_iff' _ (EvaluationRun.valid_iff r)

def EvaluationRun.inOrder (r : EvaluationRun) : EvaluationRun :=
  { r with
    config := r.config.inOrder
    predictions := r.predictions.map Prediction.inOrder }

/-- `==` of two runs. -/
def EvaluationRun.Equal (r r' : EvaluationRun) : Prop := r.inOrder = r'.inOrder

end Paic.Evaluation
