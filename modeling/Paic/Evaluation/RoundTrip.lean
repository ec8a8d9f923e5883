import Paic.Evaluation.Ablation
import Paic.Remediation.ArtifactLaws

/-!
# Exporting, loading and replaying

An exported run loads back exactly when the cases that an ablation left are
valid, and then it is the same run and replays from the files it was made from.
-/

namespace Paic.Evaluation

open Checks
open Investigation (FloatMath)
open Remediation (Directory Node lengthIn sameNames version)
open Tools (Equal UnicodeText)

-- ---------------------------------------------------------------------------
-- Predictions
-- ---------------------------------------------------------------------------

section
variable [ScoringMath]

/-- A prediction is valid in order when its probabilities are in any order. -/
theorem inOrder_valid {p : Prediction} (h : p.Valid)
    (hsum : ∀ {values}, values.Perm (p.probabilities.map Prod.snd) → sumsToOne values) :
    p.inOrder.Valid := by
  have hkeys := keysInOrder_keys p.probabilities
  have hlength : p.inOrder.probabilities.length = p.probabilities.length :=
    (keysInOrder_perm p.probabilities).length_eq
  refine { h with
    probabilities := ⟨?_, hkeys.nodup_iff.mpr h.probabilities.2⟩
    sameKeys := fun name => hkeys.mem_iff.trans (h.sameKeys name)
    sumsToOne := hsum ((keysInOrder_perm p.probabilities).map Prod.snd) }
  rw [lengthIn, hlength]
  exact h.probabilities.1

variable [ScoringLaws]

theorem resolvePrediction_ok {p q : Prediction} (hp : p.Valid)
    (h : resolvePrediction abstentionEnabled maxHypotheses p = .ok q) :
    q.Valid ∧ q.inOrder.Valid ∧ q.caseId = p.caseId := by
  simp only [resolvePrediction, bind_eq_ok, mapM_ok, raiseIf_ok, pure_eq_ok, exists_and_left,
    exists_const, not_not, not_le] at h
  obtain ⟨masses, hmasses, hpositive, hvalid, rfl⟩ := h
  have hlength := hmasses.length_eq
  have hrates : ∀ x ∈ masses, isRate x := by
    intro x hx
    obtain ⟨i, hi, rfl⟩ := List.mem_iff_getElem.mp hx
    have hitem := (List.forall₂_iff_get.mp hmasses).2 i (hlength ▸ hi) hi
    rw [Prediction.probability, need_ok] at hitem
    exact hp.sumsToOne.1 _ (List.mem_map_of_mem (Entries.mem_of_lookup hitem))
  have hshort : masses.length ≤ 30 := by
    rw [← hlength, List.length_take]
    exact (Nat.min_le_right _ _).trans hp.rankedHypotheses.1.2
  refine ⟨hvalid, inOrder_valid hvalid fun {values} hperm => ⟨fun x hx => ?_, ?_⟩, rfl⟩
  · exact hvalid.sumsToOne.1 x (hperm.mem_iff.mp hx)
  · refine ScoringLaws.sum_quotients hshort hrates hpositive (hperm.trans ?_)
    rw [List.map_snd_zip (by rw [List.length_map, hlength])]

theorem resolvePredictionAblation_ok {predictions resolved : List Prediction}
    (hp : ∀ p ∈ predictions, p.Valid)
    (h : resolvePredictionAblation predictions abstentionEnabled maxHypotheses = .ok resolved) :
    (∀ q ∈ resolved, q.Valid ∧ q.inOrder.Valid) ∧
      resolved.map Prediction.caseId = predictions.map Prediction.caseId := by
  rw [resolvePredictionAblation, mapM_ok] at h
  induction h with
  | nil => exact ⟨fun q hq => absurd hq List.not_mem_nil, rfl⟩
  | cons hq hrest ih =>
    obtain ⟨hall, hids⟩ := ih fun p hmem => hp p (List.mem_cons_of_mem _ hmem)
    obtain ⟨hvalid, horder, hid⟩ := resolvePrediction_ok (hp _ (List.mem_cons_self ..)) hq
    exact ⟨List.forall_mem_cons.mpr ⟨⟨hvalid, horder⟩, hall⟩, by
      rw [List.map_cons, List.map_cons, hid, hids]⟩

end

-- ---------------------------------------------------------------------------
-- Exporting and loading
-- ---------------------------------------------------------------------------

theorem config_inOrder_valid [UnicodeText] {config : EvaluationConfig} (h : config.Valid) :
    config.inOrder.Valid := by
  have hperm := keysInOrder_perm config.providerConfiguration
  refine { h with
    providerConfiguration := ⟨?_, ?_, fun s hs => ?_⟩
    noCredentials := fun s hs => h.noCredentials s (hperm.mem_iff.mp hs) }
  · exact hperm.length_eq.trans_le h.providerConfiguration.1
  · exact (keysInOrder_keys _).nodup_iff.mpr h.providerConfiguration.2.1
  · exact h.providerConfiguration.2.2 s (hperm.mem_iff.mp hs)

theorem config_inOrder_idem (config : EvaluationConfig) :
    config.inOrder.inOrder = config.inOrder := by
  rw [EvaluationConfig.inOrder, EvaluationConfig.inOrder, keysInOrder_idem]

theorem run_inOrder_idem (run : EvaluationRun) : run.inOrder.inOrder = run.inOrder := by
  have hpredictions : (run.predictions.map Prediction.inOrder).map Prediction.inOrder =
      run.predictions.map Prediction.inOrder := by
    rw [List.map_map]
    refine List.map_congr_left fun p _ => ?_
    rw [Function.comp_apply, Prediction.inOrder, Prediction.inOrder, keysInOrder_idem]
  simp only [EvaluationRun.inOrder, hpredictions, config_inOrder_idem]

section
variable {T : Type} [ScoringMath] [UnicodeText] {run : EvaluationRun}

/-- Everything in a run but the cases that an ablation left can be written and
read back. -/
structure Storable (run : EvaluationRun) : Prop where
  config : run.config.Valid
  sourceVisibleCases : ∀ case ∈ run.sourceVisibleCases, case.Valid
  answerKeys : ∀ answer ∈ run.answerKeys, answer.Valid
  predictions : ∀ p ∈ run.predictions, p.Valid ∧ p.inOrder.Valid
  results : ∀ result ∈ run.results, result.Valid
  aggregate : run.aggregate.Valid
  run : run.Valid

theorem Storable.keyed (h : Storable run) : Keyed run.predictions :=
  fun p hp => (h.predictions p hp).1.probabilities.2

section
variable [EvaluationText T]

theorem manifestOf_files : (manifestOf T run).files.Perm
    ((payloads run : List (String × T)).map evaluationFile) := List.perm_insertionSort _ _

theorem manifestOf_names : ((manifestOf T run).files.map EvaluationFile.relativePath).Perm
    payloadNames := manifestOf_files.map EvaluationFile.relativePath

theorem manifestOf_valid (h : run.digests.Valid) : (manifestOf T run).Valid := by
  have hnames : ((manifestOf T run).files.map EvaluationFile.relativePath).Perm payloadNames :=
    manifestOf_names
  refine ⟨h, fun f hf => ?_, hnames.nodup_iff.mpr (by decide), hnames.subset, hnames.symm.subset⟩
  obtain ⟨payload, hpayload, rfl⟩ := List.mem_map.mp (manifestOf_files.mem_iff.mp hf)
  have hname : payload.1 ∈ payloadNames := List.mem_map_of_mem (f := Prod.fst) hpayload
  have hall : ∀ name ∈ payloadNames, isFileName name = true := by decide
  exact ⟨hall _ hname, FileText.sha256_hex _⟩

/-- The directory that a run is exported to. -/
def exported (T : Type) [EvaluationText T] (run : EvaluationRun) : Directory T :=
  artifactDirectory (manifestOf T run) run

theorem exported_payload (h : payload ∈ (payloads run : List (String × T))) :
    (exported T run).read payload.1 = some payload.2 :=
  Directory.read_of_mem (List.mem_append_left _
    (List.mem_map_of_mem (f := fun p : String × T => (p.1, Node.file p.2)) h))

theorem exported_manifest : (exported T run).read "manifest.json" =
    some (TextCodec.dump (manifestOf T run)) :=
  Directory.read_of_mem (List.mem_append_right _ (by simp))

theorem exported_marker : (exported T run).read "_SUCCESS" =
    some (FileText.line (FileText.sha256 (TextCodec.dump (manifestOf T run) : T))) :=
  Directory.read_of_mem (List.mem_append_right _ (by simp))

theorem exported_layout : checkLayout (some (exported T run)) = .ok (exported T run) := by
  have hnames : (exported T run).entries.map Prod.fst = allFiles := rfl
  rw [checkLayout, need, ok_bind, hnames, raiseIf_neg (by simp [sameNames]), ok_bind,
    raiseIf_neg (by simp [exported, artifactDirectory]), ok_bind]
  rfl

theorem loadFile_ok {d : Directory T} {parse : T → Option α} :
    loadFile d name parse = .ok a ↔ ∃ text, d.read name = some text ∧ parse text = some a := by
  simp only [loadFile, bind_eq_ok, need_ok]

theorem checkPayload_ok (h : name ∈ payloadNames) :
    checkPayload (exported T run) (manifestOf T run) name = .ok () := by
  have hnames : ((manifestOf T run).files.map EvaluationFile.relativePath).Perm payloadNames :=
    manifestOf_names
  obtain ⟨item, hitem⟩ : ∃ item,
      (manifestOf T run).files.find? (·.relativePath = name) = some item := by
    refine Option.isSome_iff_exists.mp (List.find?_isSome.mpr ?_)
    obtain ⟨f, hf, rfl⟩ := List.mem_map.mp (hnames.mem_iff.mpr h)
    exact ⟨f, hf, by simp⟩
  have hname : item.relativePath = name := by simpa using List.find?_some hitem
  obtain ⟨payload, hpayload, rfl⟩ :=
    List.mem_map.mp (manifestOf_files.mem_iff.mp (List.mem_of_find?_eq_some hitem))
  obtain rfl : payload.1 = name := hname
  rw [checkPayload, hitem, need, ok_bind, exported_payload hpayload, need, ok_bind]
  exact raiseIf_neg (by simp [evaluationFile])

variable [Hashing] [CanonicalJson]

theorem validateRunBindings_inOrder (h : Storable run) :
    validateRunBindings run.inOrder = validateRunBindings run := by
  have hids : (run.predictions.map Prediction.inOrder).map Prediction.caseId =
      run.predictions.map Prediction.caseId := by
    rw [List.map_map]
    rfl
  unfold validateRunBindings
  simp only [EvaluationRun.inOrder, hids, digestModels_inOrder h.keyed,
    providerConfigDigest_inOrder h.config.providerConfiguration.2.1]
  rfl

theorem loadEvaluation_directory (h : Storable run) (hbindings : validateRunBindings run = .ok ())
    (heffective : ∀ case ∈ run.effectiveVisibleCases, case.Valid) :
    loadEvaluation (some (exported T run)) = .ok run.inOrder := by
  have hread : ∀ payload ∈ (payloads run : List (String × T)),
      (exported T run).read payload.1 = some payload.2 :=
    fun _ hp => exported_payload hp
  simp only [payloads, List.forall_mem_cons, List.not_mem_nil, false_implies, implies_true,
    and_true] at hread
  obtain ⟨hconfig, hmetadata, hsource, hleft, hanswers, hpredictions, hresults, haggregate, -, -⟩ :=
    hread
  have hordered : ∀ p ∈ run.predictions.map Prediction.inOrder, p.Valid := by
    rw [List.forall_mem_map]
    exact fun p hp => (h.predictions p hp).2
  have hloop : loop (fun _ name => checkPayload (exported T run) (manifestOf T run) name) () payloadNames = .ok () :=
    loop_unit_ok.mpr fun _ hname => checkPayload_ok hname
  have hvalid : run.inOrder.Valid := { h.run with
    predictions := by
      rw [EvaluationRun.inOrder, ne_eq, List.map_eq_nil_iff]
      exact h.run.predictions }
  unfold loadEvaluation
  rw [exported_layout, ok_bind, exported_manifest, need, ok_bind,
    loadFile_ok.mpr ⟨_, exported_manifest,
      TextCodec.load_dump (manifestOf_valid (T := T) h.run.digests)⟩,
    ok_bind, raiseIf_neg (show ¬ (manifestOf T run).packageVersion ≠ version from not_not.mpr rfl),
    ok_bind, exported_marker, need, ok_bind,
    raiseIf_neg (by rw [FileText.strip_line _ (FileText.sha256_hex _), not_not]), ok_bind, hloop,
    ok_bind, loadFile_ok.mpr ⟨_, hmetadata, TextCodec.load_dump h.run.digests⟩, ok_bind,
    loadFile_ok.mpr ⟨_, hconfig, OrderedCodec.load_dump (config_inOrder_valid h.config)⟩, ok_bind,
    loadFile_ok.mpr ⟨_, hsource, TextCodec.load_dump h.sourceVisibleCases⟩, ok_bind,
    loadFile_ok.mpr ⟨_, hleft, TextCodec.load_dump heffective⟩, ok_bind,
    loadFile_ok.mpr ⟨_, hanswers, TextCodec.load_dump h.answerKeys⟩, ok_bind,
    loadFile_ok.mpr ⟨_, hpredictions, OrderedCodec.load_dump hordered⟩, ok_bind,
    loadFile_ok.mpr ⟨_, hresults, TextCodec.load_dump h.results⟩, ok_bind,
    loadFile_ok.mpr ⟨_, haggregate, TextCodec.load_dump h.aggregate⟩, ok_bind]
  change (raiseIf (¬ run.inOrder.Valid) _ >>= fun _ =>
    raiseIf ((metadataOf run).runId ≠ run.config.runId ∨
      (manifestOf T run).runId ≠ run.config.runId) _ >>= fun _ =>
    raiseIf (metadataOf run ≠ metadataOf run.inOrder) _ >>= fun _ =>
    validateRunBindings run.inOrder >>= fun _ => pure run.inOrder) = _
  rw [raiseIf_neg (not_not.mpr hvalid), ok_bind, raiseIf_neg (by simp [metadataOf, manifestOf]),
    ok_bind, raiseIf_neg (show ¬ metadataOf run ≠ metadataOf run.inOrder from not_not.mpr rfl),
    ok_bind, validateRunBindings_inOrder h, hbindings, ok_bind]
  rfl

/-- What loads was valid when it was written. -/
theorem effective_valid_of_load {r : EvaluationRun}
    (h : loadEvaluation (some (exported T run)) = .ok r) :
    ∀ case ∈ run.effectiveVisibleCases, case.Valid := by
  simp only [loadEvaluation, bind_eq_ok] at h
  obtain ⟨d, hd, _, -, _, -, _, -, _, -, _, -, _, -, _, -, _, -, _, -, effective, heffective, -⟩ := h
  obtain rfl := Except.ok.inj (exported_layout.symm.trans hd)
  obtain ⟨text, hread, hload⟩ := loadFile_ok.mp heffective
  have hmem : ("benchmark.visible.effective.json", TextCodec.dump run.effectiveVisibleCases) ∈
      (payloads run : List (String × T)) := by simp [payloads]
  have hleft := exported_payload hmem
  obtain rfl := Option.some.inj (hleft.symm.trans hread)
  obtain rfl := TextCodec.eq_of_load_dump hload
  exact TextCodec.load_valid hload

/-- A directory is exported exactly when the bindings hold and the results are
those of the run's parts. -/
theorem exportEvaluation_ok (h : run.digests.Valid) :
    exportEvaluation run = .ok d ↔
      validateRunBindings run = .ok () ∧
        (∃ replayed, recomputeEvaluation run = .ok replayed ∧ replayed.results = run.results ∧
          replayed.aggregate = run.aggregate) ∧ exported T run = d := by
  simp only [exportEvaluation, bind_eq_ok, raiseIf_ok, pure_eq_ok, not_or, not_not,
    exists_and_left, exists_const]
  constructor
  · rintro ⟨_, hbindings, replayed, hreplayed, ⟨hresults, haggregate⟩, -, hd⟩
    exact ⟨hbindings, ⟨replayed, hreplayed, hresults, haggregate⟩, hd⟩
  · rintro ⟨hbindings, ⟨replayed, hreplayed, hresults, haggregate⟩, hd⟩
    exact ⟨(), hbindings, replayed, hreplayed, ⟨hresults, haggregate⟩, manifestOf_valid h, hd⟩

end

end

-- ---------------------------------------------------------------------------
-- Replaying
-- ---------------------------------------------------------------------------

section
variable {T : Type} [ScoringMath] {run : EvaluationRun}

/-- A run whose results are those of its parts. -/
def Consistent (run : EvaluationRun) : Prop := recomputeEvaluation run = .ok run

theorem recomputeEvaluation_ok {replayed : EvaluationRun}
    (h : recomputeEvaluation run = .ok replayed) (hresults : replayed.results = run.results)
    (haggregate : replayed.aggregate = run.aggregate) : replayed = run := by
  simp only [recomputeEvaluation, bind_eq_ok, pure_eq_ok] at h
  obtain ⟨results, -, aggregate, -, rfl⟩ := h
  obtain rfl : results = run.results := hresults
  obtain rfl : aggregate = run.aggregate := haggregate
  rfl

/-- What is stored is what the cases score, and the metrics of that. -/
theorem consistent_iff : Consistent run ↔
    scoreCases run.effectiveVisibleCases run.answerKeys run.predictions
      run.config.ablation.maxToolCalls = .ok run.results ∧
    aggregateResults run.results run.answerKeys run.predictions = .ok run.aggregate := by
  simp only [Consistent, recomputeEvaluation, bind_eq_ok, pure_eq_ok]
  constructor
  · rintro ⟨results, hresults, aggregate, haggregate, heq⟩
    obtain rfl : results = run.results := congrArg EvaluationRun.results heq
    obtain rfl : aggregate = run.aggregate := congrArg EvaluationRun.aggregate heq
    exact ⟨hresults, haggregate⟩
  · rintro ⟨hresults, haggregate⟩
    exact ⟨run.results, hresults, run.aggregate, haggregate, rfl⟩

theorem Consistent.inOrder (hkeyed : Keyed run.predictions) (h : Consistent run) :
    Consistent run.inOrder := by
  obtain ⟨hresults, haggregate⟩ := consistent_iff.mp h
  exact consistent_iff.mpr ⟨(scoreCases_inOrder hkeyed).trans hresults,
    (aggregateResults_inOrder hkeyed).trans haggregate⟩

variable [UnicodeText] [Hashing] [CanonicalJson] [CaseText] [EvaluationText T]

/-- A consistent run that loads replays as far as its sources are the same. -/
theorem replayEvaluation_directory {r : EvaluationRun} {provided : Provided T}
    (hload : loadEvaluation (some (exported T run)) = .ok r)
    (hconsistent : Consistent r) (hderived : calibrationOf r = calibrationOf run)
    (hsafety : safetyOf r = safetyOf run) (hprovided : checkProvided r provided b = .ok ()) :
    replayEvaluation (some (exported T run)) provided b = .ok r := by
  have hcalibration : ("calibration.json", EvaluationText.canonicalJson (calibrationOf run)) ∈
      (payloads run : List (String × T)) := by simp [payloads]
  have hresults : ("safety-results.json", TextCodec.dump (safetyOf run)) ∈
      (payloads run : List (String × T)) := by simp [payloads]
  obtain ⟨calibration, hcanonical⟩ := Option.isSome_iff_exists.mp
    (EvaluationText.loads_canonicalJson (T := T) (calibrationOf run))
  have hread : TextCodec.load (TextCodec.dump (safetyOf run) : T) = some (safetyOf run) :=
    TextCodec.load_dump trivial
  rw [replayEvaluation, hload, ok_bind, exported_layout, ok_bind, hconsistent, ok_bind,
    raiseIf_neg (by simp), ok_bind,
    loadFile_ok.mpr ⟨_, exported_payload hcalibration, hcanonical⟩, ok_bind,
    loadFile_ok.mpr ⟨_, exported_payload hresults, hread⟩, ok_bind, hderived, hcanonical, need,
    ok_bind, hsafety, hread, need, ok_bind,
    raiseIf_neg (show ¬ (¬ Equal calibration calibration ∨ safetyOf run ≠ safetyOf run) by
      simp [Tools.Equal.refl]), ok_bind, hprovided, ok_bind]
  rfl

end

-- ---------------------------------------------------------------------------
-- Making a run
-- ---------------------------------------------------------------------------

section
variable {T : Type} [ScoringMath]

theorem scoreCases_valid (h : scoreCases cases answers predictions maxToolCalls = .ok results) :
    ∀ result ∈ results, result.Valid := by
  rw [scoreCases] at h
  generalize cases.zip (answers.zip predictions) = rows at h
  rw [mapM_ok] at h
  induction h with
  | nil => exact fun result hmem => absurd hmem List.not_mem_nil
  | cons hscore _ ih =>
    refine List.forall_mem_cons.mpr ⟨?_, ih⟩
    simp only [scoreCase, bind_eq_ok, raiseIf_ok, pure_eq_ok, not_not] at hscore
    obtain ⟨_, -, _, -, _, -, _, hvalid, rfl⟩ := hscore
    exact hvalid

theorem scoreCase_caseId (h : scoreCase case answer p maxToolCalls = .ok result) :
    result.caseId = case.caseId := by
  simp only [scoreCase, bind_eq_ok, raiseIf_ok, pure_eq_ok, not_not] at h
  obtain ⟨_, -, _, -, _, -, _, -, rfl⟩ := h
  rfl

theorem scoreCases_caseIds (h : scoreCases cases answers predictions maxToolCalls = .ok results)
    (hanswers : cases.length = answers.length) (hpredictions : answers.length = predictions.length) :
    results.map CaseResult.caseId = cases.map VisibleCase.caseId := by
  have hcases : (cases.zip (answers.zip predictions)).map (fun row => row.1.caseId) =
      cases.map VisibleCase.caseId := by
    have hlength : cases.length ≤ (answers.zip predictions).length := by
      rw [List.length_zip, ← hpredictions, Nat.min_self, hanswers]
    calc (cases.zip (answers.zip predictions)).map (fun row => row.1.caseId)
        = ((cases.zip (answers.zip predictions)).map Prod.fst).map VisibleCase.caseId := by
          rw [List.map_map]
          rfl
      _ = cases.map VisibleCase.caseId := by rw [List.map_fst_zip hlength]
  rw [← hcases]
  rw [scoreCases] at h
  generalize cases.zip (answers.zip predictions) = rows at h
  rw [mapM_ok] at h
  induction h with
  | nil => rfl
  | cons hscore _ ih => rw [List.map_cons, List.map_cons, scoreCase_caseId hscore, ih]

theorem aggregateResults_valid (h : aggregateResults results answers predictions = .ok metrics) :
    metrics.Valid := by
  simp only [aggregateResults, bind_eq_ok, raiseIf_ok, pure_eq_ok, not_not] at h
  obtain ⟨_, -, _, -, _, -, _, hvalid, rfl⟩ := h
  exact hvalid

variable [UnicodeText] [BenchmarkText T]

theorem loadModelList_ok {file : PathNode T} {parse : T → Option α} :
    loadModelList file parse label = .ok a ↔
      ∃ text, regularFile file label = .ok text ∧ parse text = some a := by
  simp only [loadModelList, bind_eq_ok, need_ok]

theorem loadPredictions_valid {file : PathNode T} {predictions : List Prediction}
    (h : loadPredictions file = .ok predictions) : ∀ p ∈ predictions, p.Valid := by
  simp only [loadPredictions, bind_eq_ok, loadModelList_ok, pure_eq_ok] at h
  obtain ⟨_, ⟨text, -, hload⟩, _, -, rfl⟩ := h
  exact OrderedCodec.load_valid hload

theorem readConfig_valid {file : PathNode T} (h : readConfig file = .ok config) :
    config.Valid := by
  simp only [readConfig, bind_eq_ok, need_ok] at h
  obtain ⟨text, -, hload⟩ := h
  exact OrderedCodec.load_valid hload

variable [Hashing] [CanonicalJson] [CaseText]

theorem loadBenchmark_valid {visibleDir answersDir : Root T} {benchmark : Benchmark}
    (h : loadBenchmark visibleDir answersDir = .ok benchmark) :
    (∀ case ∈ benchmark.visible, case.Valid) ∧ ∀ answer ∈ benchmark.answers, answer.Valid := by
  simp only [loadBenchmark, bind_eq_ok, loadModelList_ok, pure_eq_ok] at h
  obtain ⟨_, -, visible, ⟨_, -, hvisible⟩, answers, ⟨_, -, hanswers⟩, _, -, _, -, _, -, _, -, rfl⟩ := h
  exact ⟨TextCodec.load_valid hvisible, TextCodec.load_valid hanswers⟩

/-- What the benchmark's two parts are bound by. -/
theorem loadBenchmark_bound {visibleDir answersDir : Root T} {benchmark : Benchmark}
    (h : loadBenchmark visibleDir answersDir = .ok benchmark) :
    (benchmark.visible.map VisibleCase.caseId).Nodup ∧
      benchmark.answers.map HiddenAnswerKey.caseId = benchmark.visible.map VisibleCase.caseId ∧
      benchmark.visibleHash = digestModels (benchmark.visible.map VisibleCase.modelDump) ∧
      benchmark.answerHash = digestModels (benchmark.answers.map HiddenAnswerKey.modelDump) := by
  simp only [loadBenchmark, validateCaseIds, bind_eq_ok, raiseIf_ok, pure_eq_ok, not_not] at h
  obtain ⟨_, -, visible, -, answers, -, _, ⟨_, -, hunique⟩, _, -, _, hids, _, -, rfl⟩ := h
  exact ⟨hunique, hids, rfl, rfl⟩

/-- What a run was made of. -/
structure Built (sources : Sources T) (benchmark : Benchmark) (config : EvaluationConfig)
    (predictions : List Prediction) (run : EvaluationRun) : Prop where
  hasBenchmark : loadBenchmark sources.visibleDir sources.answersDir = .ok benchmark
  hasPredictions : loadPredictions sources.predictions = .ok predictions
  sameIds : predictions.map Prediction.caseId = benchmark.visible.map VisibleCase.caseId
  hasConfig : readConfig sources.config = .ok config
  resolved : resolvePredictionAblation predictions config.ablation.abstentionEnabled
    config.ablation.maxHypotheses = .ok run.predictions
  sameConfig : run.config = config
  source : run.sourceVisibleCases = benchmark.visible
  effective : run.effectiveVisibleCases = resolveAblation benchmark.visible config.ablation
  answers : run.answerKeys = benchmark.answers
  digests : run.digests =
    digestsOf benchmark run.effectiveVisibleCases run.predictions config
  consistent : Consistent run
  valid : run.Valid

theorem buildRun_ok {sources : Sources T} {run : EvaluationRun} (h : buildRun sources = .ok run) :
    ∃ benchmark config predictions, Built sources benchmark config predictions run := by
  simp only [buildRun, bind_eq_ok, raiseIf_ok, pure_eq_ok, not_not] at h
  obtain ⟨benchmark, hbenchmark, predictions, hpredictions, _, hids, config, hconfig, resolved,
    hresolved, results, hresults, aggregate, haggregate, _, hvalid, rfl⟩ := h
  refine ⟨benchmark, config, predictions, hbenchmark, hpredictions, hids, hconfig, hresolved, rfl,
    rfl, rfl, rfl, rfl, ?_, hvalid⟩
  rw [Consistent, recomputeEvaluation, hresults, ok_bind, haggregate, ok_bind]
  rfl

variable [ScoringLaws] {sources : Sources T} {benchmark : Benchmark} {config : EvaluationConfig}
  {predictions : List Prediction} {run : EvaluationRun}

theorem Built.storable (h : Built sources benchmark config predictions run) : Storable run := by
  obtain ⟨hvisible, hanswers⟩ := loadBenchmark_valid h.hasBenchmark
  obtain ⟨hresults, haggregate⟩ := consistent_iff.mp h.consistent
  refine
    { config := ?_
      sourceVisibleCases := ?_
      answerKeys := ?_
      predictions := ?_
      results := scoreCases_valid hresults
      aggregate := aggregateResults_valid haggregate
      run := h.valid }
  · rw [h.sameConfig]
    exact readConfig_valid h.hasConfig
  · rw [h.source]
    exact hvisible
  · rw [h.answers]
    exact hanswers
  · exact (resolvePredictionAblation_ok (loadPredictions_valid h.hasPredictions) h.resolved).1

end

section
variable {T : Type} [ScoringMath] [UnicodeText] [CaseText] [Hashing] [CanonicalJson]
  [EvaluationText T] {sources : Sources T} {benchmark : Benchmark} {config : EvaluationConfig}
  {run : EvaluationRun}

theorem Built.checkSources (h : Built sources benchmark config predictions run) :
    checkSources run.inOrder sources = .ok () := by
  have hconfig : run.inOrder.config.inOrder = config.inOrder := by
    rw [← h.sameConfig]
    exact config_inOrder_idem run.config
  have hdigests : run.inOrder.digests = digestsOf benchmark
      (resolveAblation benchmark.visible config.ablation) run.predictions config :=
    h.effective ▸ h.digests
  rw [Evaluation.checkSources, h.hasBenchmark, ok_bind, h.hasPredictions, ok_bind, h.hasConfig, ok_bind,
    h.resolved, ok_bind]
  exact raiseIf_neg (by simp [hconfig, hdigests])

omit [ScoringMath] [Hashing] [CanonicalJson] [EvaluationText T] in
theorem resolveAblation_caseIds (cases : List VisibleCase) (ablation : AblationConfig) :
    (resolveAblation cases ablation).map VisibleCase.caseId = cases.map VisibleCase.caseId := by
  rw [resolveAblation, List.map_map]
  rfl

variable [ScoringLaws]

/-- What `exportEvaluation` checks holds of every run that was made. -/
theorem Built.exports (h : Built sources benchmark config predictions run) :
    exportEvaluation run = .ok (exported T run) := by
  refine (exportEvaluation_ok h.valid.digests).mpr ⟨?_, ⟨run, h.consistent, rfl, rfl⟩, rfl⟩
  obtain ⟨hunique, hanswers, hvisibleHash, hanswerHash⟩ := loadBenchmark_bound h.hasBenchmark
  obtain ⟨hresults, -⟩ := consistent_iff.mp h.consistent
  have heffective : run.effectiveVisibleCases.map VisibleCase.caseId =
      run.sourceVisibleCases.map VisibleCase.caseId := by
    rw [h.effective, h.source, resolveAblation_caseIds]
  have hkeys : run.answerKeys.map HiddenAnswerKey.caseId =
      run.effectiveVisibleCases.map VisibleCase.caseId := by
    rw [heffective, h.source, h.answers, hanswers]
  have hpredictions : run.predictions.map Prediction.caseId =
      run.answerKeys.map HiddenAnswerKey.caseId := by
    rw [hkeys, heffective, h.source, ← h.sameIds]
    exact (resolvePredictionAblation_ok (loadPredictions_valid h.hasPredictions) h.resolved).2
  have hscored : run.results.map CaseResult.caseId = run.predictions.map Prediction.caseId := by
    rw [hpredictions, hkeys]
    refine scoreCases_caseIds hresults ?_ ?_
    · simpa using (congrArg List.length hkeys).symm
    · simpa using (congrArg List.length hpredictions).symm
  have hdigests := h.digests
  simp only [validateRunBindings, bind_eq_ok, raiseIf_ok, not_not, exists_const]
  refine ⟨h.source ▸ hunique, ⟨heffective.symm, hkeys.symm, hpredictions.symm, hscored.symm⟩, ?_⟩
  rw [hdigests, h.sameConfig, h.source, h.answers]
  exact ⟨hvisibleHash.symm, hanswerHash.symm, rfl, rfl, rfl, rfl, rfl⟩

variable [CaseLaws] {d : Directory T}

/-- An exported run loads as an equal one and replays to its results exactly
when the marks leave every case short enough. -/
theorem round_trip_iff
    (hbenchmark : loadBenchmark sources.visibleDir sources.answersDir = .ok benchmark)
    (hconfig : readConfig sources.config = .ok config)
    (hrun : buildRun sources = .ok run) (hexport : exportEvaluation run = .ok d) :
    (∃ loaded replayed, loadEvaluation (some d) = .ok loaded ∧ loaded.Equal run ∧
      replayEvaluation (some d) sources.provided false = .ok replayed ∧
      replayed.results = run.results ∧ replayed.aggregate = run.aggregate) ↔
      ∀ case ∈ benchmark.visible, case.Fits config.ablation := by
  obtain ⟨_, _, predictions, hbuilt⟩ := buildRun_ok hrun
  obtain rfl := Except.ok.inj (hbenchmark.symm.trans hbuilt.hasBenchmark)
  obtain rfl := Except.ok.inj (hconfig.symm.trans hbuilt.hasConfig)
  have hstorable := hbuilt.storable
  obtain ⟨hbindings, -, rfl⟩ := (exportEvaluation_ok hstorable.run.digests).mp hexport
  have hfits := resolveAblation_valid_iff config.ablation (loadBenchmark_valid hbenchmark).1
  rw [← hbuilt.effective] at hfits
  rw [← hfits]
  constructor
  · rintro ⟨loaded, -, hload, -⟩
    exact effective_valid_of_load hload
  · intro heffective
    have hload := loadEvaluation_directory (T := T) hstorable hbindings heffective
    refine ⟨run.inOrder, run.inOrder, hload, run_inOrder_idem run, ?_, rfl, rfl⟩
    exact replayEvaluation_directory hload (hbuilt.consistent.inOrder hstorable.keyed) rfl rfl
      hbuilt.checkSources

end

end Paic.Evaluation
