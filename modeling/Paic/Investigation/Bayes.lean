import Paic.Investigation.Posterior
import Paic.Investigation.Sample

/-!
# The posteriors over the reals

The log scores, shifted by their maximum, are Bayes' rule. What a proposal is
assessed as depends neither on the order of its hypotheses nor on that of their
evidence.
-/

namespace Paic.Investigation

open Checks (raiseIf loop bind_eq_ok pure_eq_ok)
open Distribution (shares entropy)
open Tools (JsonText UnicodeText sortedSet)

noncomputable instance : ScoreMath ℝ where
  ofRat x := x
  log := Real.log
  exp := Real.exp
  neg := Neg.neg
  add := (· + ·)
  sub := (· - ·)
  mul := (· * ·)
  div := (· / ·)
  sum := List.sum

namespace Scoring

/-- The prior probability times the likelihood ratios. -/
noncomputable def weight (h : HypothesisProposal) : ℝ :=
  h.priorProbability * (h.evidence.map fun e => (e.likelihoodRatio : ℝ)).prod

noncomputable def totalWeight (p : InvestigationProposal) : ℝ := (p.hypotheses.map weight).sum

/-- The likelihood ratios are inside the bounds of the policy. -/
def InBounds (policy : DecisionPolicy) (p : InvestigationProposal) : Prop :=
  ∀ h ∈ p.hypotheses, ∀ e ∈ h.evidence, policy.likelihoodRatioMin ≤ e.likelihoodRatio ∧
    e.likelihoodRatio ≤ policy.likelihoodRatioMax

/-- What the scores need of a proposal. -/
structure Scorable (policy : DecisionPolicy) (p : InvestigationProposal) : Prop where
  bounds : InBounds policy p
  positive : ∀ h ∈ p.hypotheses, 0 < h.priorProbability ∧ ∀ e ∈ h.evidence, 0 < e.likelihoodRatio
  several : 2 ≤ p.hypotheses.length
  unique : (p.hypotheses.map HypothesisProposal.hypothesisId).Nodup

theorem scorable_of_valid [UnicodeText] [FloatMath] {p : InvestigationProposal} (hp : p.Valid)
    (hbounds : InBounds policy p) : Scorable policy p := by
  refine ⟨hbounds, fun h hh => ?_, hp.hypotheses.2.1, hp.uniqueHypotheses⟩
  have hvalid := hp.hypotheses.1 h hh
  exact ⟨hvalid.priorProbability.1, fun e he => (hvalid.evidence.1 e he).likelihoodRatio.1⟩

-- ---------------------------------------------------------------------------
-- Scores
-- ---------------------------------------------------------------------------

noncomputable def exactScore (h : HypothesisProposal) : ℝ :=
  Real.log h.priorProbability + (h.evidence.map fun e => Real.log e.likelihoodRatio).sum

theorem logScore_eq {policy : DecisionPolicy} {h : HypothesisProposal}
    (hbounds : ∀ e ∈ h.evidence, policy.likelihoodRatioMin ≤ e.likelihoodRatio ∧
      e.likelihoodRatio ≤ policy.likelihoodRatioMax) :
    logScore policy h = .ok (exactScore h) := by
  have hloop : ∀ (evidence : List EvidenceAssessment) (start : ℝ),
      (∀ e ∈ evidence, policy.likelihoodRatioMin ≤ e.likelihoodRatio ∧
        e.likelihoodRatio ≤ policy.likelihoodRatioMax) →
      loop (fun score (assessment : EvidenceAssessment) => do
          raiseIf (¬ (policy.likelihoodRatioMin ≤ assessment.likelihoodRatio ∧
              assessment.likelihoodRatio ≤ policy.likelihoodRatioMax))
            "likelihood ratio outside configured bounds"
          pure (ScoreMath.add score (ScoreMath.log (ScoreMath.ofRat assessment.likelihoodRatio))))
        start evidence =
          .ok (start + (evidence.map fun e => Real.log e.likelihoodRatio).sum) := by
    intro evidence
    induction evidence with
    | nil => exact fun start _ => congrArg Except.ok (add_zero start).symm
    | cons e evidence ih =>
      intro start hall
      rw [List.forall_mem_cons] at hall
      rw [Checks.loop_cons]
      refine ⟨start + Real.log e.likelihoodRatio, ?_, ?_⟩
      · rw [Checks.raiseIf_neg (not_not.mpr hall.1)]
        rfl
      · rw [ih _ hall.2, List.map_cons, List.sum_cons, add_assoc]
  exact hloop h.evidence _ hbounds

theorem exp_exactScore {h : HypothesisProposal} (hprior : 0 < h.priorProbability)
    (hratios : ∀ e ∈ h.evidence, 0 < e.likelihoodRatio) : Real.exp (exactScore h) = weight h := by
  have hprod : ∀ evidence : List EvidenceAssessment, (∀ e ∈ evidence, 0 < e.likelihoodRatio) →
      Real.exp (evidence.map fun e => Real.log e.likelihoodRatio).sum =
        (evidence.map fun e => (e.likelihoodRatio : ℝ)).prod := by
    intro evidence
    induction evidence with
    | nil => exact fun _ => Real.exp_zero
    | cons e evidence ih =>
      intro hall
      rw [List.forall_mem_cons] at hall
      rw [List.map_cons, List.sum_cons, List.map_cons, List.prod_cons, Real.exp_add, ih hall.2,
        Real.exp_log (Rat.cast_pos.mpr hall.1)]
  rw [exactScore, weight, Real.exp_add, hprod _ hratios, Real.exp_log (Rat.cast_pos.mpr hprior)]

theorem weight_pos {h : HypothesisProposal} (hprior : 0 < h.priorProbability)
    (hratios : ∀ e ∈ h.evidence, 0 < e.likelihoodRatio) : 0 < weight h := by
  rw [← exp_exactScore hprior hratios]
  exact Real.exp_pos _

section
variable {policy : DecisionPolicy} {p p' : InvestigationProposal}

theorem Scorable.weights (hp : Scorable policy p) : ∀ w ∈ p.hypotheses.map weight, 0 < w := by
  intro w hw
  obtain ⟨h, hh, rfl⟩ := List.mem_map.mp hw
  exact weight_pos (hp.positive h hh).1 (hp.positive h hh).2

theorem Scorable.ne_nil (hp : Scorable policy p) : p.hypotheses ≠ [] :=
  List.ne_nil_of_length_pos (Nat.lt_of_lt_of_le Nat.zero_lt_two hp.several)

theorem Scorable.totalWeight_pos (hp : Scorable policy p) : 0 < totalWeight p :=
  Distribution.sum_pos (fun hnil => hp.ne_nil (List.map_eq_nil_iff.mp hnil)) hp.weights

/-- Bayes' rule. -/
theorem posteriors_exactScore (hp : Scorable policy p) :
    posteriors (p.hypotheses.map exactScore) = shares (p.hypotheses.map weight) := by
  have hexp : (p.hypotheses.map exactScore).map Real.exp = p.hypotheses.map weight := by
    rw [List.map_map]
    refine List.map_congr_left fun h hh => ?_
    exact exp_exactScore (hp.positive h hh).1 (hp.positive h hh).2
  rw [← hexp]
  exact Distribution.shares_shift _ _

noncomputable def exactHypothesis (total : ℝ) (h : HypothesisProposal) : Computed ℝ :=
  computedHypothesis h (exactScore h, weight h / total)

/-- The hypotheses of a report. -/
noncomputable def ranked (p : InvestigationProposal) : List (Computed ℝ) :=
  (p.hypotheses.map (exactHypothesis (totalWeight p))).insertionSort ranksBefore

theorem computed_exactScore (hp : Scorable policy p) :
    computed p (p.hypotheses.map exactScore) = ranked p := by
  rw [computed, ranked, posteriors_exactScore hp, shares, List.map_map, List.zip_map',
    List.zipWith_map_right, List.zipWith_self]
  rfl

theorem ranked_perm (p : InvestigationProposal) :
    (ranked p).Perm (p.hypotheses.map (exactHypothesis (totalWeight p))) :=
  List.perm_insertionSort _ _

theorem length_ranked (p : InvestigationProposal) : (ranked p).length = p.hypotheses.length := by
  rw [(ranked_perm p).length_eq, List.length_map]

theorem mem_ranked : c ∈ ranked p ↔
    ∃ h ∈ p.hypotheses, exactHypothesis (totalWeight p) h = c := by
  rw [(ranked_perm p).mem_iff, List.mem_map]

/-- A proposal that can be scored is assessed. -/
theorem assess_ranked (hp : Scorable policy p) : ∃ top second rest,
    ranked p = top :: second :: rest ∧
      assess policy p = .ok (assessment policy (ranked p) top second) := by
  have hscores : p.hypotheses.mapM (logScore policy) = .ok (p.hypotheses.map exactScore) :=
    Checks.mapM_ok.mpr (List.forall₂_map_right_iff.mpr
      (List.forall₂_same.mpr fun h hh => logScore_eq (hp.bounds h hh)))
  have hlength := length_ranked p
  have hcomputed := computed_exactScore hp
  have hseveral := hp.several
  rw [← hlength] at hseveral
  match hranked : ranked p with
  | [] => simp [hranked] at hseveral
  | [_] => simp [hranked] at hseveral
  | top :: second :: rest =>
    refine ⟨top, second, rest, rfl, ?_⟩
    simp only [assess, hscores, Checks.ok_bind, hcomputed, hranked]

-- ---------------------------------------------------------------------------
-- The order
-- ---------------------------------------------------------------------------

instance : Std.Total (ranksBefore (α := ℝ)) := ⟨fun a b => by
  unfold ranksBefore
  rcases lt_trichotomy a.posteriorProbability b.posteriorProbability with hlt | heq | hgt
  · exact .inr (.inl hlt)
  · rcases String.le_total a.hypothesisId b.hypothesisId with hle | hle
    · exact .inl (.inr ⟨heq, hle⟩)
    · exact .inr (.inr ⟨heq.symm, hle⟩)
  · exact .inl (.inl hgt)⟩

instance : IsTrans (Computed ℝ) ranksBefore := ⟨fun a b c hab hbc => by
  rcases hab with hab | ⟨hab, hid⟩
  · rcases hbc with hbc | ⟨hbc, -⟩
    · exact .inl (hbc.trans hab)
    · exact .inl (hbc ▸ hab)
  · rcases hbc with hbc | ⟨hbc, hid'⟩
    · exact .inl (hab ▸ hbc)
    · exact .inr ⟨hab.trans hbc, String.le_trans hid hid'⟩⟩

theorem ranksBefore_ids {a b : Computed ℝ} (hab : ranksBefore a b) (hba : ranksBefore b a) :
    a.hypothesisId = b.hypothesisId := by
  rcases hab with hab | ⟨heq, hid⟩
  · rcases hba with hba | ⟨heq, -⟩
    · exact absurd hab hba.asymm
    · exact absurd hab heq.not_lt
  · rcases hba with hba | ⟨-, hid'⟩
    · exact absurd hba heq.not_lt
    · exact String.le_antisymm hid hid'

theorem ranked_pairwise (p : InvestigationProposal) : (ranked p).Pairwise ranksBefore :=
  List.pairwise_insertionSort _ _

theorem Scorable.ids (hp : Scorable policy p) :
    ((ranked p).map Computed.hypothesisId).Nodup := by
  have hperm := (ranked_perm p).map Computed.hypothesisId
  rw [List.map_map] at hperm
  exact hperm.nodup_iff.mpr hp.unique

/-- One list of hypotheses has one order. -/
theorem ranked_eq (hp : Scorable policy p)
    (h : (p.hypotheses.map (exactHypothesis (totalWeight p))).Perm
      (p'.hypotheses.map (exactHypothesis (totalWeight p')))) : ranked p' = ranked p := by
  have hperm : (ranked p').Perm (ranked p) :=
    (ranked_perm p').trans (h.symm.trans (ranked_perm p).symm)
  refine hperm.eq_of_pairwise (fun a b ha hb hab hba => ?_) (ranked_pairwise p')
    (ranked_pairwise p)
  exact List.inj_on_of_nodup_map hp.ids (hperm.mem_iff.mp ha) hb (ranksBefore_ids hab hba)

end

-- ---------------------------------------------------------------------------
-- Permutations
-- ---------------------------------------------------------------------------

/-- The same hypothesis, with its evidence in any order. -/
def SameEvidence (h h' : HypothesisProposal) : Prop :=
  ∃ evidence, h.evidence.Perm evidence ∧ h' = { h with evidence }

/-- The same hypotheses, each with the same evidence, in any order. -/
structure Reordered (p p' : InvestigationProposal) : Prop where
  hypotheses : ∃ hs, p.hypotheses.Perm hs ∧ List.Forall₂ SameEvidence hs p'.hypotheses
  explicitUnknowns : p'.explicitUnknowns = p.explicitUnknowns
  recommendedNextSteps : p'.recommendedNextSteps = p.recommendedNextSteps

theorem sortedTexts_perm {texts texts' : List String} (h : texts.Perm texts') :
    sortedTexts texts = sortedTexts texts' := by
  have hperm : (sortedTexts texts).Perm (sortedTexts texts') :=
    (List.perm_insertionSort _ _).trans (h.trans (List.perm_insertionSort _ _).symm)
  exact hperm.eq_of_pairwise (fun a b _ _ => String.le_antisymm) (List.pairwise_insertionSort _ _)
    (List.pairwise_insertionSort _ _)

theorem SameEvidence.weight {h h' : HypothesisProposal} (hsame : SameEvidence h h') :
    weight h' = weight h := by
  obtain ⟨evidence, hperm, rfl⟩ := hsame
  have hprod := (hperm.map fun e => (e.likelihoodRatio : ℝ)).prod_eq
  exact congrArg ((h.priorProbability : ℝ) * ·) hprod.symm

theorem SameEvidence.exactScore {h h' : HypothesisProposal} (hsame : SameEvidence h h') :
    exactScore h' = exactScore h := by
  obtain ⟨evidence, hperm, rfl⟩ := hsame
  have hsum := (hperm.map fun e => Real.log e.likelihoodRatio).sum_eq
  exact congrArg (Real.log h.priorProbability + ·) hsum.symm

theorem SameEvidence.idsInDirection {h h' : HypothesisProposal} (hsame : SameEvidence h h')
    (direction : Direction) : idsInDirection direction h' = idsInDirection direction h := by
  obtain ⟨evidence, hperm, rfl⟩ := hsame
  exact sortedTexts_perm ((hperm.symm.filter _).map _)

theorem SameEvidence.exactHypothesis {h h' : HypothesisProposal} (hsame : SameEvidence h h')
    (total : ℝ) : exactHypothesis total h' = exactHypothesis total h := by
  have hsupport := hsame.idsInDirection .support
  have hcontradict := hsame.idsInDirection .contradict
  rw [Scoring.exactHypothesis, Scoring.exactHypothesis, hsame.weight, hsame.exactScore,
    computedHypothesis, computedHypothesis, hsupport, hcontradict]
  obtain ⟨evidence, -, rfl⟩ := hsame
  rfl

section
variable {policy : DecisionPolicy} {p p' : InvestigationProposal}

theorem Reordered.map_perm (h : Reordered p p') {f : HypothesisProposal → β}
    (hf : ∀ {h h'}, SameEvidence h h' → f h' = f h) :
    (p.hypotheses.map f).Perm (p'.hypotheses.map f) := by
  obtain ⟨hs, hperm, hsame⟩ := h.hypotheses
  have hmap : hs.map f = p'.hypotheses.map f := by
    rw [← List.forall₂_eq_eq_eq, List.forall₂_map_left_iff, List.forall₂_map_right_iff]
    exact hsame.imp fun _ _ h => (hf h).symm
  rw [← hmap]
  exact hperm.map f

theorem Reordered.totalWeight (h : Reordered p p') : totalWeight p' = totalWeight p :=
  (h.map_perm SameEvidence.weight).sum_eq.symm

theorem Reordered.ranked (h : Reordered p p') (hp : Scorable policy p) :
    ranked p' = ranked p := by
  refine ranked_eq hp ?_
  rw [h.totalWeight]
  exact h.map_perm fun hsame => hsame.exactHypothesis _

theorem Reordered.mem (h : Reordered p p') {h' : HypothesisProposal} (hh' : h' ∈ p'.hypotheses) :
    ∃ h ∈ p.hypotheses, SameEvidence h h' := by
  obtain ⟨hs, hperm, hsame⟩ := h.hypotheses
  obtain ⟨i, hi, rfl⟩ := List.getElem_of_mem hh'
  have hi' : i < hs.length := hsame.length_eq ▸ hi
  exact ⟨hs[i], hperm.mem_iff.mpr (List.getElem_mem hi'), hsame.get hi' hi⟩

theorem Reordered.scorable (h : Reordered p p') (hp : Scorable policy p) :
    Scorable policy p' := by
  have hids := h.map_perm (f := HypothesisProposal.hypothesisId) fun hsame => by
    obtain ⟨evidence, -, rfl⟩ := hsame
    rfl
  constructor
  case bounds =>
    intro h' hh' e he
    obtain ⟨source, hsource, evidence, hperm, rfl⟩ := h.mem hh'
    exact hp.bounds source hsource e (hperm.mem_iff.mpr he)
  case positive =>
    intro h' hh'
    obtain ⟨source, hsource, evidence, hperm, rfl⟩ := h.mem hh'
    have hpositive := hp.positive source hsource
    exact ⟨hpositive.1, fun e he => hpositive.2 e (hperm.mem_iff.mpr he)⟩
  case several =>
    have hlength := hids.length_eq
    rw [List.length_map, List.length_map] at hlength
    exact hlength ▸ hp.several
  case unique => exact hids.nodup_iff.mp hp.unique

theorem Reordered.assess (h : Reordered p p') (hp : Scorable policy p) :
    (assess policy p' : Except String (Assessment ℝ)) = assess policy p := by
  obtain ⟨top, second, rest, hranked, hassess⟩ := assess_ranked hp
  obtain ⟨top', second', rest', hranked', hassess'⟩ := assess_ranked (h.scorable hp)
  rw [h.ranked hp] at hranked' hassess'
  rw [hranked, List.cons.injEq, List.cons.injEq] at hranked'
  obtain ⟨rfl, rfl, -⟩ := hranked'
  exact hassess'.trans hassess.symm

theorem Reordered.referenced (h : Reordered p p') (href : ref ∈ p'.referenced) :
    ref ∈ p.referenced := by
  obtain ⟨h', hh', href⟩ := List.mem_flatMap.mp href
  obtain ⟨source, hsource, evidence, hperm, rfl⟩ := h.mem hh'
  exact List.mem_flatMap.mpr ⟨source, hsource, (hperm.map _).mem_iff.mpr href⟩

end

-- ---------------------------------------------------------------------------
-- One likelihood ratio raised
-- ---------------------------------------------------------------------------

/-- `p'` is `p` with one likelihood ratio of one hypothesis raised. -/
def Raised (p p' : InvestigationProposal) (hypothesisId : String) : Prop :=
  ∃ (front : List HypothesisProposal) (h : HypothesisProposal) (back : List HypothesisProposal)
    (evidenceFront : List EvidenceAssessment) (e : EvidenceAssessment)
    (evidenceBack : List EvidenceAssessment) (ratio : Rat),
    h.hypothesisId = hypothesisId ∧ e.likelihoodRatio < ratio ∧
    p.hypotheses = front ++ { h with evidence := evidenceFront ++ e :: evidenceBack } :: back ∧
    p'.hypotheses = front ++ { h with
      evidence := evidenceFront ++ { e with likelihoodRatio := ratio } :: evidenceBack } :: back

/-- The weight of one hypothesis is greater, and the others are the same. -/
theorem Raised.weights {policy : DecisionPolicy} {p p' : InvestigationProposal}
    (h : Raised p p' hypothesisId) (hp : Scorable policy p) :
    ∃ front raised raised' back, p.hypotheses = front ++ raised :: back ∧
      p'.hypotheses = front ++ raised' :: back ∧ raised.hypothesisId = hypothesisId ∧
      raised'.hypothesisId = hypothesisId ∧ weight raised < weight raised' := by
  obtain ⟨front, source, back, evidenceFront, e, evidenceBack, ratio, hid, hratio, heq, heq'⟩ := h
  refine ⟨front, _, _, back, heq, heq', hid, hid, ?_⟩
  have hmem : { source with evidence := evidenceFront ++ e :: evidenceBack } ∈ p.hypotheses :=
    heq ▸ List.mem_append_right _ List.mem_cons_self
  obtain ⟨hprior, hratios⟩ := hp.positive _ hmem
  have hpos : ∀ evidence : List EvidenceAssessment, (∀ e ∈ evidence, 0 < e.likelihoodRatio) →
      0 < (evidence.map fun e => (e.likelihoodRatio : ℝ)).prod := by
    intro evidence hall
    refine List.prod_pos fun x hx => ?_
    obtain ⟨e, he, rfl⟩ := List.mem_map.mp hx
    exact Rat.cast_pos.mpr (hall e he)
  have hfront := hpos evidenceFront fun e he => hratios e (List.mem_append_left _ he)
  have hback := hpos evidenceBack fun e' he =>
    hratios e' (List.mem_append_right _ (List.mem_cons_of_mem _ he))
  have hprior : (0 : ℝ) < source.priorProbability := Rat.cast_pos.mpr hprior
  have hratio : (e.likelihoodRatio : ℝ) < ratio := Rat.cast_lt.mpr hratio
  simp only [weight, List.map_append, List.map_cons, List.prod_append, List.prod_cons]
  exact mul_lt_mul_of_pos_left
    (mul_lt_mul_of_pos_left (mul_lt_mul_of_pos_right hratio hback) hfront) hprior

section
variable {policy : DecisionPolicy} {p p' : InvestigationProposal}

theorem Raised.scorable (h : Raised p p' hypothesisId) (hp : Scorable policy p)
    (hbounds : InBounds policy p') : Scorable policy p' := by
  obtain ⟨front, source, back, evidenceFront, e, evidenceBack, ratio, -, hratio, heq, heq'⟩ := h
  have hmem : { source with evidence := evidenceFront ++ e :: evidenceBack } ∈ p.hypotheses :=
    heq ▸ List.mem_append_right _ List.mem_cons_self
  constructor
  case bounds => exact hbounds
  case positive =>
    intro h hh
    rw [heq', List.mem_append, List.mem_cons] at hh
    rcases hh with hh | rfl | hh
    · exact hp.positive h (heq ▸ List.mem_append_left _ hh)
    · refine ⟨(hp.positive _ hmem).1, fun e' he' => ?_⟩
      have hratios := (hp.positive _ hmem).2
      rw [List.mem_append, List.mem_cons] at he'
      rcases he' with he' | rfl | he'
      · exact hratios e' (List.mem_append_left _ he')
      · exact (hratios e (List.mem_append_right _ List.mem_cons_self)).trans hratio
      · exact hratios e' (List.mem_append_right _ (List.mem_cons_of_mem _ he'))
    · exact hp.positive h (heq ▸ List.mem_append_right _ (List.mem_cons_of_mem _ hh))
  case several =>
    have hseveral := hp.several
    rw [heq, List.length_append, List.length_cons] at hseveral
    rwa [heq', List.length_append, List.length_cons]
  case unique =>
    have hunique := hp.unique
    rw [heq, List.map_append, List.map_cons] at hunique
    rwa [heq', List.map_append, List.map_cons]

/-- The posterior of the raised hypothesis is greater, and every other one is
smaller. -/
theorem Raised.posteriors (h : Raised p p' hypothesisId) (hp : Scorable policy p)
    (hp' : Scorable policy p') (hc : c ∈ ranked p) (hc' : c' ∈ ranked p')
    (hid : c'.hypothesisId = c.hypothesisId) :
    if c.hypothesisId = hypothesisId then c.posteriorProbability < c'.posteriorProbability
    else c'.posteriorProbability < c.posteriorProbability := by
  obtain ⟨front, raised, raised', back, heq, heq', hname, hname', hweight⟩ := h.weights hp
  obtain ⟨source, hsource, rfl⟩ := mem_ranked.mp hc
  obtain ⟨source', hsource', rfl⟩ := mem_ranked.mp hc'
  change source'.hypothesisId = source.hypothesisId at hid
  have hraised : raised ∈ p.hypotheses := heq ▸ List.mem_append_right _ List.mem_cons_self
  have hraised' : raised' ∈ p'.hypotheses := heq' ▸ List.mem_append_right _ List.mem_cons_self
  have hrest : ∀ w ∈ (front ++ back).map weight, 0 < w := by
    intro w hw
    refine hp.weights w ?_
    rw [heq, List.map_append, List.map_cons]
    rw [List.map_append] at hw
    exact List.mem_append.mpr ((List.mem_append.mp hw).imp_right (List.mem_cons_of_mem _))
  have hne : (front ++ back).map weight ≠ [] := by
    have hseveral := hp.several
    rw [heq, List.length_append, List.length_cons] at hseveral
    refine List.ne_nil_of_length_pos ?_
    rw [List.length_map, List.length_append]
    omega
  have hpos := Distribution.sum_pos hne hrest
  have htotal : totalWeight p = weight raised + ((front ++ back).map weight).sum := by
    rw [totalWeight, heq]
    simp only [List.map_append, List.map_cons, List.sum_append, List.sum_cons]
    ring
  have htotal' : totalWeight p' = weight raised' + ((front ++ back).map weight).sum := by
    rw [totalWeight, heq']
    simp only [List.map_append, List.map_cons, List.sum_append, List.sum_cons]
    ring
  have hwpos : 0 < weight raised := hp.weights _ (List.mem_map_of_mem hraised)
  change if source.hypothesisId = hypothesisId then
      weight source / totalWeight p < weight source' / totalWeight p'
    else weight source' / totalWeight p' < weight source / totalWeight p
  split
  next hsame =>
    obtain rfl := List.inj_on_of_nodup_map hp.unique hsource hraised (hsame.trans hname.symm)
    obtain rfl := List.inj_on_of_nodup_map hp'.unique hsource' hraised'
      (hid.trans (hsame.trans hname'.symm))
    rw [htotal, htotal']
    exact Distribution.share_lt_of_raised hwpos hpos hweight
  next hother =>
    have hold : source' ∈ p.hypotheses := by
      rw [heq', List.mem_append, List.mem_cons] at hsource'
      rw [heq, List.mem_append, List.mem_cons]
      refine hsource'.imp_right fun hmem => .inr (hmem.resolve_left fun hsame => ?_)
      rw [hsame, hname'] at hid
      exact hother hid.symm
    obtain rfl := List.inj_on_of_nodup_map hp.unique hold hsource hid
    have hlt : totalWeight p < totalWeight p' := by
      rw [htotal, htotal']
      exact add_lt_add_left hweight _
    exact Distribution.share_lt_of_other_raised (hp.weights _ (List.mem_map_of_mem hsource))
      hp.totalWeight_pos hlt

-- ---------------------------------------------------------------------------
-- Entropy
-- ---------------------------------------------------------------------------

theorem ranked_posteriors (p : InvestigationProposal) :
    ((ranked p).map Computed.posteriorProbability).Perm (shares (p.hypotheses.map weight)) := by
  have hperm := (ranked_perm p).map Computed.posteriorProbability
  rw [List.map_map] at hperm
  rw [shares, List.map_map]
  exact hperm

theorem Scorable.posterior_pos (hp : Scorable policy p) :
    ∀ x ∈ (ranked p).map Computed.posteriorProbability, 0 < x := fun _ hx =>
  Distribution.shares_pos hp.weights ((ranked_posteriors p).mem_iff.mp hx)

theorem Scorable.posterior_sum (hp : Scorable policy p) :
    ((ranked p).map Computed.posteriorProbability).sum = 1 := by
  rw [(ranked_posteriors p).sum_eq]
  exact Distribution.sum_shares (fun hnil => hp.ne_nil (List.map_eq_nil_iff.mp hnil)) hp.weights

theorem normalizedEntropy_ranked (hp : Scorable policy p) : normalizedEntropy (ranked p) =
    entropy ((ranked p).map Computed.posteriorProbability) / Real.log (ranked p).length := by
  have hseveral := hp.several
  rw [← length_ranked] at hseveral
  have hpositive : ((ranked p).map Computed.posteriorProbability).filter
      (ScoreMath.ofRat 0 < ·) = (ranked p).map Computed.posteriorProbability := by
    refine List.filter_eq_self.mpr fun x hx => decide_eq_true ?_
    change ((0 : Rat) : ℝ) < x
    rw [Rat.cast_zero]
    exact hp.posterior_pos x hx
  rw [normalizedEntropy, if_neg (by omega)]
  simp only [hpositive]
  change _ / Real.log ((((ranked p).length : Rat)) : ℝ) = _
  rw [Rat.cast_natCast]
  rfl

theorem normalizedEntropy_mem (hp : Scorable policy p) :
    0 ≤ normalizedEntropy (ranked p) ∧ normalizedEntropy (ranked p) ≤ 1 := by
  have hseveral := hp.several
  rw [← length_ranked] at hseveral
  have hlength : (1 : ℝ) < (ranked p).length := by exact_mod_cast hseveral
  have hlog : 0 < Real.log (ranked p).length := Real.log_pos hlength
  have hne : (ranked p).map Computed.posteriorProbability ≠ [] := by
    refine List.ne_nil_of_length_pos ?_
    rw [List.length_map]
    omega
  rw [normalizedEntropy_ranked hp]
  refine ⟨div_nonneg (Distribution.entropy_nonneg hp.posterior_pos hp.posterior_sum) hlog.le, ?_⟩
  have hle := Distribution.entropy_le_log hne hp.posterior_pos hp.posterior_sum
  rw [List.length_map] at hle
  exact (div_le_one hlog).mpr hle

end

-- ---------------------------------------------------------------------------
-- Laws of an assessment
-- ---------------------------------------------------------------------------

/-- What the assessment of a proposal says. -/
structure Laws [JsonText] (policy : DecisionPolicy) (p : InvestigationProposal)
    (observed : List String) (a : Assessment ℝ) : Prop where
  scored : a.status = .concluded ∨ (p.explicitUnknowns ≠ [] ∧ p.recommendedNextSteps ≠ []) →
    scoreProposal p policy observed = .ok a
  bayes : (a.hypotheses.map fun c => (c.hypothesisId, c.posteriorProbability)).Perm
    (p.hypotheses.map fun h => (h.hypothesisId, weight h / totalWeight p))
  positive : ∀ c ∈ a.hypotheses, 0 < c.posteriorProbability
  total : (a.hypotheses.map Computed.posteriorProbability).sum = 1
  reordered : ∀ p', Reordered p p' → assess policy p' = .ok a ∧
    (scoreProposal p' policy observed : Except String (Assessment ℝ)) =
      scoreProposal p policy observed
  raised : ∀ p' hypothesisId, Raised p p' hypothesisId → InBounds policy p' →
    ∃ a', assess policy p' = .ok a' ∧ ∀ c ∈ a.hypotheses, ∀ c' ∈ a'.hypotheses,
      c'.hypothesisId = c.hypothesisId →
        if c.hypothesisId = hypothesisId then c.posteriorProbability < c'.posteriorProbability
        else c'.posteriorProbability < c.posteriorProbability
  entropy : 0 ≤ a.normalizedEntropy ∧ a.normalizedEntropy ≤ 1
  confidence : 0 ≤ a.confidence ∧ a.confidence ≤ 1
  ordered : a.hypotheses.Pairwise fun c c' => c'.posteriorProbability < c.posteriorProbability ∨
    (c.posteriorProbability = c'.posteriorProbability ∧ c.hypothesisId < c'.hypothesisId)
  decision : ∃ top second rest, a.hypotheses = top :: second :: rest ∧
    if policy.minimumTopPosterior ≤ top.posteriorProbability ∧
        policy.minimumMargin ≤ top.posteriorProbability - second.posteriorProbability ∧
        policy.minimumDistinctEvidence ≤
          (top.supportingEvidenceIds ++ top.contradictingEvidenceIds).dedup.length ∧
        a.normalizedEntropy ≤ policy.maximumNormalizedEntropy
    then a.status = .concluded ∧ a.selectedHypothesisId = some top.hypothesisId
    else a.status = .abstained ∧ a.selectedHypothesisId = none

section
variable {policy : DecisionPolicy} {p p' : InvestigationProposal}

/-- The hypotheses have different ids, so that no two rank the same. -/
theorem Scorable.ordered (hp : Scorable policy p) : (ranked p).Pairwise fun c c' =>
    c'.posteriorProbability < c.posteriorProbability ∨
      (c.posteriorProbability = c'.posteriorProbability ∧ c.hypothesisId < c'.hypothesisId) := by
  have hids : (ranked p).Pairwise fun c c' => c.hypothesisId ≠ c'.hypothesisId :=
    List.pairwise_map.mp hp.ids
  refine ((ranked_pairwise p).and hids).imp fun ⟨hrank, hne⟩ => hrank.imp_right fun ⟨heq, hle⟩ => ?_
  exact ⟨heq, String.not_le.mp fun hge => hne (String.le_antisymm hle hge)⟩

/-- With its citations observed, only abstaining without a reason is refused. -/
theorem scoreProposal_observed [JsonText] {observed : List String}
    (hobserved : ∀ ref ∈ p.referenced, ref ∈ observed) {a : Assessment ℝ}
    (h : assess policy p = .ok a) : scoreProposal p policy observed = (do
      raiseIf (a.status ≠ .concluded ∧ p.explicitUnknowns = [])
        "abstained investigations require an explicit unknown"
      raiseIf (a.status ≠ .concluded ∧ p.recommendedNextSteps = [])
        "abstained investigations require a read-only next check"
      pure a) := by
  have hnone : p.referenced.filter (· ∉ observed) = [] :=
    List.filter_eq_nil_iff.mpr fun ref href => by simp [hobserved ref href]
  have hunknown : sortedSet (p.referenced.filter (· ∉ observed)) = [] := sortedSet_eq_nil.mpr hnone
  rw [scoreProposal, Checks.raiseIf_neg (not_not.mpr hunknown), Checks.ok_bind, h, Checks.ok_bind]

/-- The posterior laws of an accepted proposal. -/
theorem posterior_laws [UnicodeText] [FloatMath] [JsonText] {observed : List String}
    (hp : p.Valid) (hbounds : InBounds policy p)
    (hobserved : ∀ ref ∈ p.referenced, ref ∈ observed) :
    ∃ a, assess policy p = .ok a ∧ Laws policy p observed a := by
  have hscorable := scorable_of_valid hp hbounds
  obtain ⟨top, second, rest, hranked, hassess⟩ := assess_ranked hscorable
  refine ⟨_, hassess, ?_⟩
  constructor
  case scored =>
    intro hreason
    rw [scoreProposal_observed hobserved hassess, Checks.raiseIf_neg, Checks.ok_bind,
      Checks.raiseIf_neg]
    · rfl
    · rintro ⟨hstatus, hnone⟩
      exact hreason.elim hstatus fun h => h.2 hnone
    · rintro ⟨hstatus, hnone⟩
      exact hreason.elim hstatus fun h => h.1 hnone
  case bayes =>
    have hperm := (ranked_perm p).map fun c => (c.hypothesisId, c.posteriorProbability)
    rw [List.map_map] at hperm
    exact hperm
  case positive => exact fun c hc => hscorable.posterior_pos _ (List.mem_map_of_mem hc)
  case total => exact hscorable.posterior_sum
  case reordered =>
    intro p' hp'
    have hsame := (hp'.assess hscorable).trans hassess
    refine ⟨hsame, ?_⟩
    rw [scoreProposal_observed hobserved hassess,
      scoreProposal_observed (fun ref href => hobserved ref (hp'.referenced href)) hsame,
      hp'.explicitUnknowns, hp'.recommendedNextSteps]
  case raised =>
    intro p' hypothesisId hp' hbounds'
    have hscorable' := hp'.scorable hscorable hbounds'
    obtain ⟨top', second', rest', -, hassess'⟩ := assess_ranked hscorable'
    exact ⟨_, hassess', fun c hc c' hc' hid =>
      hp'.posteriors hscorable hscorable' hc hc' hid⟩
  case entropy => exact normalizedEntropy_mem hscorable
  case confidence =>
    have hzero : (ScoreMath.ofRat 0 : ℝ) = 0 := Rat.cast_zero
    have hone : (ScoreMath.ofRat 1 : ℝ) = 1 := Rat.cast_one
    change 0 ≤ max (ScoreMath.ofRat 0 : ℝ) _ ∧ max (ScoreMath.ofRat 0 : ℝ) _ ≤ 1
    rw [hzero, hone]
    exact ⟨le_max_left _ _, max_le zero_le_one (min_le_left _ _)⟩
  case ordered => exact hscorable.ordered
  case decision =>
    refine ⟨top, second, rest, hranked, ?_⟩
    split
    next hgates => exact ⟨if_pos hgates, if_pos hgates⟩
    next hgates => exact ⟨if_neg hgates, if_neg hgates⟩

end

theorem posterior_laws_sample : ∃ a, assess Sample.config.decision Sample.proposal = .ok a ∧
    Laws Sample.config.decision Sample.proposal ["record"] a := by
  have hbounds : InBounds Sample.config.decision Sample.proposal := by
    unfold InBounds
    decide +kernel
  exact posterior_laws Sample.proposal_valid hbounds (by decide)

end Scoring

end Paic.Investigation
