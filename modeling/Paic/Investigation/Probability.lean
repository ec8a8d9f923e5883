import Paic.Investigation.Models
import Mathlib

/-!
# Scoring a proposal

Posterior probabilities from priors and likelihood ratios, the decision to
conclude or to abstain, and the report. `scoreProposal_ok` reads a report back
as the facts it was made from; `verifyReport_scored` says that such a report
reconstructs.
-/

namespace Paic.Investigation

open Checks (raiseIf)
open Tools (Arguments JsonText SourceHashes UnicodeText sortedSet sortedSources)

/-- `model_validate` of a proposal's arguments, and the text of the error that
a report raises when it is not valid. -/
class ProposalModels [UnicodeText] [FloatMath] where
  modelValidate : Arguments → Except String InvestigationProposal
  reportError : InvestigationReport → String
  modelValidate_valid : ∀ {arguments proposal},
    modelValidate arguments = .ok proposal → proposal.Valid

section
variable [FloatMath]

open FloatMath

/-- `max` of a list that is not empty -/
def maximum : List Rat → Rat
  | [] => 0
  | x :: xs => xs.foldl max x

/-- The log score of a hypothesis. -/
def logScore (policy : DecisionPolicy) (h : HypothesisProposal) : Except String Rat :=
  Checks.loop (fun score (assessment : EvidenceAssessment) => do
      raiseIf (¬ (policy.likelihoodRatioMin ≤ assessment.likelihoodRatio ∧
          assessment.likelihoodRatio ≤ policy.likelihoodRatioMax))
        "likelihood ratio outside configured bounds"
      pure (add score (log assessment.likelihoodRatio)))
    (log h.priorProbability) h.evidence

def posteriors (logScores : List Rat) : List Rat :=
  let weights := logScores.map fun value => exp (sub value (maximum logScores))
  weights.map fun value => div value (sum weights)

/-- `sorted` of a list of texts -/
def sortedTexts (texts : List String) : List String := texts.insertionSort (· ≤ ·)

def idsInDirection (direction : Direction) (h : HypothesisProposal) : List String :=
  sortedTexts ((h.evidence.filter (·.direction = direction)).map EvidenceAssessment.evidenceRecordId)

def computedHypothesis (h : HypothesisProposal) (score : Rat × Rat) : ComputedHypothesis :=
  { hypothesisId := h.hypothesisId
    title := h.title
    priorProbability := h.priorProbability
    posteriorProbability := score.2
    logEvidenceScore := score.1
    rationale := h.rationale
    supportingEvidenceIds := idsInDirection .support h
    contradictingEvidenceIds := idsInDirection .contradict h
    falsifiers := h.falsifiers }

/-- The order of `(-posterior_probability, hypothesis_id)`. -/
def ranksBefore (a b : ComputedHypothesis) : Prop :=
  b.posteriorProbability < a.posteriorProbability ∨
    (a.posteriorProbability = b.posteriorProbability ∧ a.hypothesisId ≤ b.hypothesisId)

instance : DecidableRel ranksBefore := fun _ _ => by unfold ranksBefore; infer_instance

def computed (proposal : InvestigationProposal) (logScores : List Rat) : List ComputedHypothesis :=
  (List.zipWith computedHypothesis proposal.hypotheses
    (logScores.zip (posteriors logScores))).insertionSort ranksBefore

/-- The entropy of the posteriors, over that of a uniform distribution. -/
def normalizedEntropy (hypotheses : List ComputedHypothesis) : Rat :=
  if hypotheses.length ≤ 1 then 0
  else
    let positive := (hypotheses.map ComputedHypothesis.posteriorProbability).filter (0 < ·)
    div (-sum (positive.map fun p => mul p (log p))) (log hypotheses.length)

/-- What the decision is made by. -/
structure Scores where
  hypotheses : List ComputedHypothesis
  top : ComputedHypothesis
  margin : Rat
  entropy : Rat

def scores (proposal : InvestigationProposal) (policy : DecisionPolicy) : Except String Scores := do
  let logScores ← proposal.hypotheses.mapM (logScore policy)
  let hypotheses := computed proposal logScores
  match hypotheses with
  | top :: second :: _ =>
    let margin := sub top.posteriorProbability second.posteriorProbability
    .ok { hypotheses, top, margin, entropy := normalizedEntropy hypotheses }
  | _ => .error "list index out of range"

def Scores.concluded (s : Scores) (policy : DecisionPolicy) : Prop :=
  policy.minimumTopPosterior ≤ s.top.posteriorProbability ∧ policy.minimumMargin ≤ s.margin ∧
    policy.minimumDistinctEvidence ≤
      (s.top.supportingEvidenceIds ++ s.top.contradictingEvidenceIds).dedup.length ∧
    s.entropy ≤ policy.maximumNormalizedEntropy

instance (s : Scores) (policy : DecisionPolicy) : Decidable (s.concluded policy) := by
  unfold Scores.concluded; infer_instance

/-- What a report is made of, next to the proposal. -/
structure ReportInput where
  investigationId : String
  incidentId : String
  question : String
  policy : DecisionPolicy
  observedEvidence : List String
  sourceHashes : SourceHashes
  attempts : List ModelAttempt
  trace : List ToolTraceEntry
  totalTokens : Nat

variable [Hashing]

def unsignedReport (proposal : InvestigationProposal) (input : ReportInput) (s : Scores) :
    InvestigationReport :=
  let concluded := s.concluded input.policy
  { investigationId := input.investigationId
    incidentId := input.incidentId
    question := input.question
    status := if concluded then .concluded else .abstained
    summary := proposal.summary
    selectedHypothesisId := if concluded then some s.top.hypothesisId else none
    confidence := max 0 (min 1 (mul s.top.posteriorProbability (sub 1 s.entropy)))
    normalizedEntropy := s.entropy
    posteriorMargin := s.margin
    hypotheses := s.hypotheses
    explicitUnknowns := proposal.explicitUnknowns
    recommendedNextSteps := proposal.recommendedNextSteps
    observedEvidenceRecordIds := sortedSet input.observedEvidence
    sourceManifestHashes := sortedSources input.sourceHashes
    modelAttempts := input.attempts
    toolTrace := input.trace
    totalTokens := input.totalTokens
    proposal
    reportSha256 := "" }

variable [UnicodeText] [JsonText] [ProposalModels]

/-- `score_proposal`. Both of its exceptions are texts here: their callers
catch both. -/
def scoreProposal (proposal : InvestigationProposal) (input : ReportInput) :
    Except String InvestigationReport := do
  let unknown := sortedSet (proposal.referenced.filter (· ∉ input.observedEvidence))
  raiseIf (unknown ≠ [])
    s!"proposal cites unobserved evidence: {JsonText.repr (.strs (unknown.take 5))}"
  let s ← scores proposal input.policy
  raiseIf (¬ s.concluded input.policy ∧ proposal.explicitUnknowns = [])
    "abstained investigations require an explicit unknown"
  raiseIf (¬ s.concluded input.policy ∧ proposal.recommendedNextSteps = [])
    "abstained investigations require a read-only next check"
  let unsigned := unsignedReport proposal input s
  let report := { unsigned with reportSha256 := digest unsigned.payload }
  raiseIf (¬ Model.Valid report) (ProposalModels.reportError report)
  pure report

/-- `verify_report` -/
def verifyReport (report : InvestigationReport) (policy : DecisionPolicy) : Except String Unit := do
  let recomputed ← scoreProposal report.proposal
    { investigationId := report.investigationId
      incidentId := report.incidentId
      question := report.question
      policy
      observedEvidence := report.observedEvidenceRecordIds
      sourceHashes := report.sourceManifestHashes
      attempts := report.modelAttempts
      trace := report.toolTrace
      totalTokens := report.totalTokens }
  raiseIf (¬ Tools.Equal recomputed.payload report.payload ∨
      recomputed.reportSha256 ≠ report.reportSha256)
    "investigation report does not reconstruct"

-- ---------------------------------------------------------------------------
-- What a report says
-- ---------------------------------------------------------------------------

/-- The evidence a report cites: its proposal's, and its hypotheses'. -/
def InvestigationReport.cited (r : InvestigationReport) : List String :=
  r.proposal.referenced ++
    r.hypotheses.flatMap fun h => h.supportingEvidenceIds ++ h.contradictingEvidenceIds

/-- The facts a report was made from. -/
structure Scored (proposal : InvestigationProposal) (input : ReportInput)
    (report : InvestigationReport) : Prop where
  investigationId : report.investigationId = input.investigationId
  incidentId : report.incidentId = input.incidentId
  question : report.question = input.question
  observed : report.observedEvidenceRecordIds = sortedSet input.observedEvidence
  sources : report.sourceManifestHashes = sortedSources input.sourceHashes
  attempts : report.modelAttempts = input.attempts
  trace : report.toolTrace = input.trace
  tokens : report.totalTokens = input.totalTokens
  proposal : report.proposal = proposal
  sha256 : report.reportSha256 = digest report.payload
  valid : report.Valid
  cited : ∀ ref ∈ report.cited, ref ∈ input.observedEvidence

omit [FloatMath] [Hashing] [UnicodeText] [JsonText] [ProposalModels] in
theorem mem_sortedSet : a ∈ sortedSet texts ↔ a ∈ texts := by
  simp [sortedSet]

omit [FloatMath] [Hashing] [UnicodeText] [JsonText] [ProposalModels] in
theorem sortedSet_eq_nil : sortedSet texts = [] ↔ texts = [] := by
  simp [List.eq_nil_iff_forall_not_mem, mem_sortedSet]

omit [FloatMath] [Hashing] [UnicodeText] [JsonText] [ProposalModels] in
theorem mem_idsInDirection (h : ref ∈ idsInDirection direction hypothesis) :
    ref ∈ hypothesis.evidence.map EvidenceAssessment.evidenceRecordId := by
  rw [idsInDirection, sortedTexts, List.mem_insertionSort] at h
  obtain ⟨assessment, hmem, rfl⟩ := List.mem_map.mp h
  exact List.mem_map_of_mem (List.mem_filter.mp hmem).1

omit [Hashing] [UnicodeText] [JsonText] [ProposalModels] in
theorem scores_hypotheses {proposal : InvestigationProposal}
    (h : scores proposal policy = .ok s) : ∃ logScores, s.hypotheses = computed proposal logScores := by
  simp only [scores, Checks.bind_eq_ok] at h
  obtain ⟨logScores, -, h⟩ := h
  split at h
  · rw [← Except.ok.inj h]
    exact ⟨logScores, rfl⟩
  · exact absurd h nofun

omit [Hashing] [UnicodeText] [JsonText] [ProposalModels] in
/-- A hypothesis of a report cites what its proposal refers to. -/
theorem computed_cites {proposal : InvestigationProposal}
    (h : hypothesis ∈ computed proposal logScores)
    (href : ref ∈ hypothesis.supportingEvidenceIds ++ hypothesis.contradictingEvidenceIds) :
    ref ∈ proposal.referenced := by
  rw [computed, List.mem_insertionSort, ← List.map_uncurry_zip_eq_zipWith] at h
  obtain ⟨⟨source, score⟩, hmem, rfl⟩ := List.mem_map.mp h
  refine List.mem_flatMap.mpr ⟨source, (List.of_mem_zip hmem).1, ?_⟩
  rcases List.mem_append.mp href with href | href
  · exact mem_idsInDirection href
  · exact mem_idsInDirection href

theorem scoreProposal_ok (h : scoreProposal proposal input = .ok report) :
    Scored proposal input report := by
  simp only [scoreProposal, Checks.bind_eq_ok, Checks.raiseIf_ok, Checks.pure_eq_ok,
    exists_and_left, exists_const, not_not] at h
  obtain ⟨hknown, s, hscores, -, -, hvalid, rfl⟩ := h
  have hreferenced : ∀ ref ∈ proposal.referenced, ref ∈ input.observedEvidence := by
    intro ref href
    have hnone := List.filter_eq_nil_iff.mp (sortedSet_eq_nil.mp hknown) ref href
    simpa using hnone
  obtain ⟨logScores, hhypotheses⟩ := scores_hypotheses hscores
  refine ⟨rfl, rfl, rfl, rfl, rfl, rfl, rfl, rfl, rfl, rfl, hvalid, fun ref href => ?_⟩
  rcases List.mem_append.mp href with href | href
  · exact hreferenced ref href
  · obtain ⟨hypothesis, hmem, href⟩ := List.mem_flatMap.mp href
    have hcomputed : hypothesis ∈ computed proposal logScores := hhypotheses ▸ hmem
    exact hreferenced ref (computed_cites hcomputed href)

-- ---------------------------------------------------------------------------
-- Reconstruction
-- ---------------------------------------------------------------------------

omit [FloatMath] [Hashing] [UnicodeText] [JsonText] [ProposalModels] in
theorem sortedSet_idem : sortedSet (sortedSet texts) = sortedSet texts := by
  have hnodup : (sortedSet texts).Nodup :=
    (List.perm_insertionSort _ _).nodup_iff.mpr (List.nodup_dedup texts)
  have hsorted : (sortedSet texts).Pairwise (· ≤ ·) := List.pairwise_insertionSort _ _
  rw [sortedSet, hnodup.dedup]
  exact hsorted.insertionSort_eq

omit [FloatMath] [Hashing] [UnicodeText] [JsonText] [ProposalModels] in
theorem sortedSources_idem : sortedSources (sortedSources sources) = sortedSources sources := by
  have hsorted : (sortedSources sources).Pairwise (·.1 ≤ ·.1) := List.pairwise_insertionSort _ _
  exact hsorted.insertionSort_eq

/-- Only what is among the observed evidence matters, and a report's sources
are already in order. -/
theorem scoreProposal_sorted : scoreProposal proposal
    { input with
      observedEvidence := sortedSet input.observedEvidence
      sourceHashes := sortedSources input.sourceHashes } = scoreProposal proposal input := by
  have hunknown : proposal.referenced.filter (· ∉ sortedSet input.observedEvidence) =
      proposal.referenced.filter (· ∉ input.observedEvidence) :=
    List.filter_congr fun ref _ => by simp [mem_sortedSet]
  have hunsigned : ∀ s, unsignedReport proposal
      { input with
        observedEvidence := sortedSet input.observedEvidence
        sourceHashes := sortedSources input.sourceHashes } s = unsignedReport proposal input s := by
    intro s
    simp only [unsignedReport, sortedSet_idem, sortedSources_idem]
  simp only [scoreProposal, hunknown, hunsigned]

theorem verifyReport_scored (h : scoreProposal proposal input = .ok report) :
    verifyReport report input.policy = .ok () := by
  have hscored := scoreProposal_ok h
  have hagain : scoreProposal report.proposal
      { investigationId := report.investigationId
        incidentId := report.incidentId
        question := report.question
        policy := input.policy
        observedEvidence := report.observedEvidenceRecordIds
        sourceHashes := report.sourceManifestHashes
        attempts := report.modelAttempts
        trace := report.toolTrace
        totalTokens := report.totalTokens } = .ok report := by
    rw [hscored.investigationId, hscored.incidentId, hscored.question, hscored.observed,
      hscored.sources, hscored.attempts, hscored.trace, hscored.tokens, hscored.proposal, ← h]
    exact scoreProposal_sorted
  rw [verifyReport, hagain, Checks.ok_bind]
  exact Checks.raiseIf_neg (by simp [Tools.Equal.refl])

end

end Paic.Investigation
