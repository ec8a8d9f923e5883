import Paic.Evaluation.Sample

/-!
# What a replay shows

Every replay that succeeds found the ids of the stored parts aligned, their
digests as recorded, and the results that the stored cases, answers and
predictions score. Only the comparison with the sources says that the cases and
the predictions are those of the recorded ablation; the artifact by itself does
not.
-/

namespace Paic.Evaluation

open Checks
open Remediation (Directory)
open Tools (UnicodeText)

section
variable [Hashing] [CanonicalJson] {run : EvaluationRun}

/-- What binds the parts of a run. -/
structure Bound (run : EvaluationRun) : Prop where
  unique : (run.sourceVisibleCases.map VisibleCase.caseId).Nodup
  effectiveIds : run.effectiveVisibleCases.map VisibleCase.caseId =
    run.sourceVisibleCases.map VisibleCase.caseId
  answerIds : run.answerKeys.map HiddenAnswerKey.caseId =
    run.sourceVisibleCases.map VisibleCase.caseId
  predictionIds : run.predictions.map Prediction.caseId =
    run.sourceVisibleCases.map VisibleCase.caseId
  resultIds : run.results.map CaseResult.caseId =
    run.sourceVisibleCases.map VisibleCase.caseId
  digests : run.digests =
    { benchmarkManifestSha256 := digestModels (run.sourceVisibleCases.map VisibleCase.modelDump)
      answerKeyManifestSha256 := digestModels (run.answerKeys.map HiddenAnswerKey.modelDump)
      effectiveBenchmarkSha256 :=
        digestModels (run.effectiveVisibleCases.map VisibleCase.modelDump)
      predictionSha256 := digestModels (run.predictions.map Prediction.modelDump)
      resolvedAblationSha256 := digestValue run.config.ablation.modelDump
      providerConfigSha256 := providerConfigDigest run.config
      toolPolicySha256 := toolPolicyDigest run.effectiveVisibleCases run.config }

theorem validateRunBindings_ok : validateRunBindings run = .ok () ↔ Bound run := by
  simp only [validateRunBindings, bind_eq_ok, raiseIf_ok, not_not, exists_const]
  constructor
  · rintro ⟨hunique, ⟨heffective, hanswers, hpredictions, hresults⟩, hsource, hkeys, hcases,
      hmodels, hablation, hprovider, hpolicy⟩
    refine ⟨hunique, heffective.symm, (heffective.trans hanswers).symm,
      (heffective.trans (hanswers.trans hpredictions)).symm,
      (heffective.trans (hanswers.trans (hpredictions.trans hresults))).symm, ?_⟩
    rw [hsource, hkeys, hcases, hmodels, hablation, hprovider, hpolicy]
  · intro h
    rw [h.digests]
    exact ⟨h.unique, ⟨h.effectiveIds.symm, h.effectiveIds.trans h.answerIds.symm,
      h.answerIds.trans h.predictionIds.symm, h.predictionIds.trans h.resultIds.symm⟩,
      rfl, rfl, rfl, rfl, rfl, rfl, rfl⟩

variable {T : Type} [ScoringMath] [UnicodeText] [EvaluationText T]

theorem loadEvaluation_bound {root : Option (Directory T)} (h : loadEvaluation root = .ok run) :
    Bound run := by
  simp only [loadEvaluation, bind_eq_ok, pure_eq_ok] at h
  obtain ⟨_, -, _, -, _, -, _, -, _, -, _, -, _, -, _, -, _, -, _, -, _, -, _, -, _, -, _, -, _, -,
    _, -, _, -, _, -, _, hbindings, rfl⟩ := h
  exact validateRunBindings_ok.mp hbindings

variable [CaseText]

/-- A replay that succeeds returns the run that is stored. -/
theorem replayEvaluation_ok {root : Option (Directory T)} {provided : Provided T}
    (h : replayEvaluation root provided artifactOnly = .ok run) :
    loadEvaluation root = .ok run ∧ Consistent run ∧
      checkProvided run provided artifactOnly = .ok () := by
  simp only [replayEvaluation, bind_eq_ok, raiseIf_ok, pure_eq_ok, not_or, not_not] at h
  obtain ⟨stored, hload, _, -, replayed, hreplayed, _, ⟨hresults, haggregate⟩, _, -, _, -, _, -, _, -,
    _, -, _, hprovided, rfl⟩ := h
  obtain rfl := recomputeEvaluation_ok hreplayed hresults haggregate
  exact ⟨hload, hreplayed, hprovided⟩

/-- What a replay from the sources shows: the digests are those of what the
recorded ablation makes of them. -/
theorem replay_authoritative {root : Option (Directory T)} {sources : Sources T}
    (h : replayEvaluation root sources.provided artifactOnly = .ok run) :
    ∃ benchmark predictions resolved,
      loadBenchmark sources.visibleDir sources.answersDir = .ok benchmark ∧
      loadPredictions sources.predictions = .ok predictions ∧
      resolvePredictionAblation predictions run.config.ablation.abstentionEnabled
        run.config.ablation.maxHypotheses = .ok resolved ∧
      digestModels (run.effectiveVisibleCases.map VisibleCase.modelDump) =
        digestModels ((resolveAblation benchmark.visible run.config.ablation).map
          VisibleCase.modelDump) ∧
      digestModels (run.predictions.map Prediction.modelDump) =
        digestModels (resolved.map Prediction.modelDump) := by
  obtain ⟨hload, -, hprovided⟩ := replayEvaluation_ok h
  have hbound := loadEvaluation_bound hload
  simp only [checkProvided, Sources.provided, checkSources, bind_eq_ok, raiseIf_ok, not_or,
    not_not] at hprovided
  obtain ⟨benchmark, hbenchmark, predictions, hpredictions, config, -, resolved, hresolved, hconfig,
    hdigests⟩ := hprovided
  have hablation : config.ablation = run.config.ablation :=
    (congrArg EvaluationConfig.ablation hconfig).symm
  rw [hablation] at hresolved hdigests
  refine ⟨benchmark, predictions, resolved, hbenchmark, hpredictions, hresolved, ?_, ?_⟩
  · have heffective := congrArg RunDigests.effectiveBenchmarkSha256 hdigests
    rwa [hbound.digests] at heffective
  · have hpredicted := congrArg RunDigests.predictionSha256 hdigests
    rwa [hbound.digests] at hpredicted

end

-- ---------------------------------------------------------------------------
-- An artifact that no ablation made
-- ---------------------------------------------------------------------------

namespace Sample

/-- A run that says it was made without lineage, of a case that still has it. -/
def unablated (results : List CaseResult) (aggregate : AggregateMetrics) : EvaluationRun :=
  { config
    digests := digestsOf (benchmark 0) [case (incident 0)] [prediction] config
    sourceVisibleCases := [case (incident 0)]
    effectiveVisibleCases := [case (incident 0)]
    answerKeys := [answer]
    predictions := [prediction]
    results
    aggregate }

theorem unablated_replays : ∃ results aggregate,
    replayEvaluation (some (exported Text (unablated results aggregate))) ⟨none, none, none, none⟩
      true = .ok (unablated results aggregate) := by
  obtain ⟨results, aggregate, hresults, haggregate, hne⟩ := scored
  have hscored := hresults (incident 0)
  have hcase := case_valid (Nat.zero_le 19993)
  have hids : results.map CaseResult.caseId = ["case"] := scoreCases_caseIds hscored rfl rfl
  have hbound : Bound (unablated results aggregate) :=
    ⟨List.nodup_singleton _, rfl, rfl, rfl, hids, rfl⟩
  have hconfig : config.Valid := by decide +kernel
  have hanswer : ∀ a ∈ [answer], a.Valid := by decide +kernel
  have hprediction : ∀ p ∈ [prediction], p.Valid ∧ p.inOrder.Valid := by decide +kernel
  have hstorable : Storable (unablated results aggregate) :=
    { config := hconfig
      sourceVisibleCases := fun _ hmem => List.mem_singleton.mp hmem ▸ hcase
      answerKeys := hanswer
      predictions := hprediction
      results := scoreCases_valid hscored
      aggregate := aggregateResults_valid haggregate
      run := ⟨digests_valid 0 _, nofun, nofun, nofun, nofun, hne⟩ }
  have hload := loadEvaluation_directory (T := Text) hstorable (validateRunBindings_ok.mpr hbound)
    fun _ hmem => List.mem_singleton.mp hmem ▸ hcase
  exact ⟨results, aggregate, replayEvaluation_directory hload
    (consistent_iff.mpr ⟨hscored, haggregate⟩) rfl rfl rfl⟩

end Sample

end Paic.Evaluation
