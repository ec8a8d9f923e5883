import Paic.Investigation.Probability
import Paic.Lib.Distribution

/-!
# The scores of a proposal over any numbers

`score_proposal` up to the report, with the arithmetic as a parameter. Over the
floating-point numbers it is what the reports are made with; over the reals the
posteriors are those of Bayes' rule.
-/

namespace Paic.Investigation

open Checks (raiseIf loop bind_eq_ok pure_eq_ok)
open Tools (JsonText SourceHashes UnicodeText sortedSet)

/-- The numbers a proposal is scored with. -/
class ScoreMath (α : Type) where
  ofRat : Rat → α
  log : α → α
  exp : α → α
  neg : α → α
  add : α → α → α
  sub : α → α → α
  mul : α → α → α
  div : α → α → α
  sum : List α → α

namespace Scoring

/-- A hypothesis with its score and its posterior. -/
structure Computed (α : Type) where
  hypothesisId : String
  title : String
  priorProbability : Rat
  posteriorProbability : α
  logEvidenceScore : α
  rationale : String
  supportingEvidenceIds : List String
  contradictingEvidenceIds : List String
  falsifiers : List String

/-- The computed fields of a report. -/
structure Assessment (α : Type) where
  status : ReportStatus
  selectedHypothesisId : Option String
  confidence : α
  normalizedEntropy : α
  posteriorMargin : α
  hypotheses : List (Computed α)

section
variable {α : Type} [LinearOrder α] [ScoreMath α]

open ScoreMath

def maximum : List α → α
  | [] => ofRat 0
  | x :: xs => xs.foldl max x

def logScore (policy : DecisionPolicy) (h : HypothesisProposal) : Except String α :=
  loop (fun score (assessment : EvidenceAssessment) => do
      raiseIf (¬ (policy.likelihoodRatioMin ≤ assessment.likelihoodRatio ∧
          assessment.likelihoodRatio ≤ policy.likelihoodRatioMax))
        "likelihood ratio outside configured bounds"
      pure (add score (log (ofRat assessment.likelihoodRatio))))
    (log (ofRat h.priorProbability)) h.evidence

def posteriors (logScores : List α) : List α :=
  let weights := logScores.map fun value => exp (sub value (maximum logScores))
  weights.map fun value => div value (sum weights)

def computedHypothesis (h : HypothesisProposal) (score : α × α) : Computed α :=
  { hypothesisId := h.hypothesisId
    title := h.title
    priorProbability := h.priorProbability
    posteriorProbability := score.2
    logEvidenceScore := score.1
    rationale := h.rationale
    supportingEvidenceIds := idsInDirection .support h
    contradictingEvidenceIds := idsInDirection .contradict h
    falsifiers := h.falsifiers }

/-- The order of `(-posterior_probability, hypothesis_id)`. -/
def ranksBefore (a b : Computed α) : Prop :=
  b.posteriorProbability < a.posteriorProbability ∨
    (a.posteriorProbability = b.posteriorProbability ∧ a.hypothesisId ≤ b.hypothesisId)

instance : DecidableRel (ranksBefore (α := α)) := fun _ _ => by unfold ranksBefore; infer_instance

def computed (proposal : InvestigationProposal) (logScores : List α) : List (Computed α) :=
  (List.zipWith computedHypothesis proposal.hypotheses
    (logScores.zip (posteriors logScores))).insertionSort ranksBefore

def normalizedEntropy (hypotheses : List (Computed α)) : α :=
  if hypotheses.length ≤ 1 then ofRat 0
  else
    let positive := (hypotheses.map Computed.posteriorProbability).filter (ofRat 0 < ·)
    div (neg (sum (positive.map fun p => mul p (log p)))) (log (ofRat hypotheses.length))

/-- The four gates of the decision. -/
def concluded (policy : DecisionPolicy) (top : Computed α) (margin entropy : α) : Prop :=
  ofRat policy.minimumTopPosterior ≤ top.posteriorProbability ∧
    ofRat policy.minimumMargin ≤ margin ∧
    policy.minimumDistinctEvidence ≤
      (top.supportingEvidenceIds ++ top.contradictingEvidenceIds).dedup.length ∧
    entropy ≤ ofRat policy.maximumNormalizedEntropy

instance (policy : DecisionPolicy) (top : Computed α) (margin entropy : α) :
    Decidable (concluded policy top margin entropy) := by unfold concluded; infer_instance

def assessment (policy : DecisionPolicy) (hypotheses : List (Computed α)) (top second : Computed α) :
    Assessment α :=
  let margin := sub top.posteriorProbability second.posteriorProbability
  let entropy := normalizedEntropy hypotheses
  { status := if concluded policy top margin entropy then .concluded else .abstained
    selectedHypothesisId := if concluded policy top margin entropy then some top.hypothesisId
      else none
    confidence := max (ofRat 0) (min (ofRat 1)
      (mul top.posteriorProbability (sub (ofRat 1) entropy)))
    normalizedEntropy := entropy
    posteriorMargin := margin
    hypotheses }

def assess (policy : DecisionPolicy) (proposal : InvestigationProposal) :
    Except String (Assessment α) := do
  let logScores ← proposal.hypotheses.mapM (logScore policy)
  let hypotheses : List (Computed α) := computed proposal logScores
  match hypotheses with
  | top :: second :: _ => .ok (assessment policy hypotheses top second)
  | _ => .error "list index out of range"

/-- `score_proposal` without the fields that it copies. -/
def scoreProposal [JsonText] (proposal : InvestigationProposal) (policy : DecisionPolicy)
    (observedEvidence : List String) : Except String (Assessment α) := do
  let unknown := sortedSet (proposal.referenced.filter (· ∉ observedEvidence))
  raiseIf (unknown ≠ [])
    s!"proposal cites unobserved evidence: {JsonText.repr (.strs (unknown.take 5))}"
  let a ← assess policy proposal
  raiseIf (a.status ≠ .concluded ∧ proposal.explicitUnknowns = [])
    "abstained investigations require an explicit unknown"
  raiseIf (a.status ≠ .concluded ∧ proposal.recommendedNextSteps = [])
    "abstained investigations require a read-only next check"
  pure a

end

-- ---------------------------------------------------------------------------
-- The floating-point numbers
-- ---------------------------------------------------------------------------

section
variable [FloatMath]

instance : ScoreMath Rat where
  ofRat := id
  log := FloatMath.log
  exp := FloatMath.exp
  neg := Neg.neg
  add := FloatMath.add
  sub := FloatMath.sub
  mul := FloatMath.mul
  div := FloatMath.div
  sum := FloatMath.sum

def Computed.ofHypothesis (h : ComputedHypothesis) : Computed Rat :=
  { hypothesisId := h.hypothesisId
    title := h.title
    priorProbability := h.priorProbability
    posteriorProbability := h.posteriorProbability
    logEvidenceScore := h.logEvidenceScore
    rationale := h.rationale
    supportingEvidenceIds := h.supportingEvidenceIds
    contradictingEvidenceIds := h.contradictingEvidenceIds
    falsifiers := h.falsifiers }

def Assessment.ofReport (r : InvestigationReport) : Assessment Rat :=
  { status := r.status
    selectedHypothesisId := r.selectedHypothesisId
    confidence := r.confidence
    normalizedEntropy := r.normalizedEntropy
    posteriorMargin := r.posteriorMargin
    hypotheses := r.hypotheses.map Computed.ofHypothesis }

theorem maximum_rat (xs : List Rat) : maximum xs = Investigation.maximum xs := by
  cases xs <;> rfl

theorem posteriors_rat (logScores : List Rat) :
    posteriors logScores = Investigation.posteriors logScores := by
  rw [posteriors, maximum_rat]
  rfl

theorem computed_rat (proposal : InvestigationProposal) (logScores : List Rat) :
    computed proposal logScores =
      (Investigation.computed proposal logScores).map Computed.ofHypothesis := by
  have hsort := List.map_insertionSort (r := Investigation.ranksBefore) (s := ranksBefore)
    Computed.ofHypothesis (List.zipWith Investigation.computedHypothesis proposal.hypotheses
      (logScores.zip (Investigation.posteriors logScores))) fun _ _ _ _ => Iff.rfl
  rw [Investigation.computed, hsort, List.map_zipWith, computed, posteriors_rat]
  rfl

theorem normalizedEntropy_rat (hypotheses : List ComputedHypothesis) :
    normalizedEntropy (hypotheses.map Computed.ofHypothesis) =
      Investigation.normalizedEntropy hypotheses := by
  rw [normalizedEntropy, Investigation.normalizedEntropy, List.length_map, List.map_map]
  rfl

theorem assess_rat {proposal : InvestigationProposal} {input : ReportInput} {s : Scores}
    (h : scores proposal input.policy = .ok s) : assess input.policy proposal =
      .ok (Assessment.ofReport (unsignedReport proposal input s)) := by
  simp only [scores, bind_eq_ok] at h
  obtain ⟨logScores, hscores, h⟩ := h
  have hscores : proposal.hypotheses.mapM (logScore (α := Rat) input.policy) = .ok logScores :=
    hscores
  split at h
  next top second rest hcomputed =>
    obtain rfl := Except.ok.inj h
    have hrat := computed_rat proposal logScores
    rw [hcomputed, List.map_cons, List.map_cons] at hrat
    have hentropy := normalizedEntropy_rat (Investigation.computed proposal logScores)
    rw [hcomputed, List.map_cons, List.map_cons] at hentropy
    simp only [assess, hscores, Checks.ok_bind, hrat, assessment, hentropy, Assessment.ofReport,
      unsignedReport, hcomputed, List.map_cons]
    rfl
  next => contradiction

/-- The report of a proposal has the computed fields. -/
theorem scoreProposal_rat [Hashing] [UnicodeText] [JsonText] [ProposalModels]
    {proposal : InvestigationProposal} {input : ReportInput} {report : InvestigationReport}
    (h : Investigation.scoreProposal proposal input = .ok report) :
    scoreProposal proposal input.policy input.observedEvidence =
      .ok (Assessment.ofReport report) := by
  simp only [Investigation.scoreProposal, bind_eq_ok, Checks.raiseIf_ok, pure_eq_ok,
    exists_and_left, exists_const] at h
  obtain ⟨hknown, s, hscores, hunknowns, hsteps, -, rfl⟩ := h
  simp only [scoreProposal, bind_eq_ok, Checks.raiseIf_ok, pure_eq_ok, exists_and_left,
    exists_const]
  have hstatus : (Assessment.ofReport (unsignedReport proposal input s)).status ≠ .concluded →
      ¬ s.concluded input.policy := fun hne hconcluded => hne (if_pos hconcluded)
  refine ⟨hknown, _, assess_rat hscores, fun h => hunknowns ⟨hstatus h.1, h.2⟩,
    fun h => hsteps ⟨hstatus h.1, h.2⟩, rfl⟩

end

end Scoring

end Paic.Investigation
