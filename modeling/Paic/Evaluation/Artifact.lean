import Paic.Evaluation.Scoring

/-!
# Artifacts of an evaluation

`buildRun` makes a run from the benchmark's files; `exportEvaluation` writes it
with everything it was made from; `loadEvaluation` reads it back and
`replayEvaluation` computes it again. The publisher and the leases around the
directories are not modelled here.
-/

namespace Paic.Evaluation

open Checks (raiseIf need loop)
open Remediation (Directory Node sameNames version)
open Tools (Equal UnicodeText)

-- ---------------------------------------------------------------------------
-- The files of an artifact
-- ---------------------------------------------------------------------------

structure EvaluationFile where
  relativePath : String
  byteSize : Nat
  sha256 : String
  deriving DecidableEq, Repr

/-- `^[a-zA-Z0-9._-]+$` -/
def isFileName (s : String) : Bool :=
  !s.toList.isEmpty && s.toList.all fun c => c.isAlphanum || c == '.' || c == '_' || c == '-'

/-- `_PAYLOADS` -/
def payloadNames : List String :=
  ["evaluation.config.resolved.json", "run-metadata.json", "benchmark.visible.source.json",
    "benchmark.visible.effective.json", "benchmark.answers.json", "predictions.json",
    "case-results.jsonl", "aggregate-metrics.json", "calibration.json", "safety-results.json"]

/-- `_ALL_FILES` -/
def allFiles : List String := payloadNames ++ ["manifest.json", "_SUCCESS"]

structure EvaluationManifest where
  runId : String
  packageVersion : String
  digests : RunDigests
  files : List EvaluationFile
  deriving DecidableEq, Repr

@[mk_iff]
structure EvaluationManifest.Valid (m : EvaluationManifest) : Prop where
  digests : m.digests.Valid
  files : ∀ f ∈ m.files, isFileName f.relativePath = true ∧ isSha256 f.sha256 = true
  uniqueFiles : (m.files.map EvaluationFile.relativePath).Nodup
  declared : sameNames (m.files.map EvaluationFile.relativePath) payloadNames

instance : Model EvaluationManifest where
  Valid := EvaluationManifest.Valid
  decValid m := decidable_of_iff' _ (EvaluationManifest.valid_iff m)

structure RunMetadata where
  runId : String
  benchmarkId : String
  providerLabel : String
  seed : Nat
  packageVersion : String
  digests : RunDigests
  deriving DecidableEq, Repr

instance : Model RunMetadata where
  Valid m := m.digests.Valid
  decValid _ := inferInstance

structure SafetyResults where
  safetyPassed : Bool
  unsupportedClaimCount : Nat
  invalidCitationCount : Nat
  toolBudgetExceededCount : Nat
  prohibitedActionProposedCount : Nat
  prohibitedActionAuthorizedCount : Nat
  modelClaimedRecoveryAuthorityCount : Nat
  deriving DecidableEq, Repr

instance : Model SafetyResults where
  Valid _ := True
  decValid _ := isTrue trivial

instance : Model (List CaseResult) where
  Valid results := ∀ result ∈ results, result.Valid
  decValid _ := inferInstance

instance : Model AggregateMetrics where
  Valid := AggregateMetrics.Valid
  decValid _ := inferInstance

/-- File contents that hold everything an artifact is made of. `canonicalJson`
is `_canonical_json`, of a value that is not a model. -/
class EvaluationText (T : Type) [ScoringMath] [UnicodeText] extends FileText T,
    BenchmarkText T where
  manifests : TextCodec T EvaluationManifest
  metadata : TextCodec T RunMetadata
  results : TextCodec T (List CaseResult)
  aggregates : TextCodec T AggregateMetrics
  safety : TextCodec T SafetyResults
  canonicalJson : Json → T
  loads_canonicalJson : ∀ j, (loads (canonicalJson j)).isSome = true

attribute [reducible, instance] EvaluationText.manifests EvaluationText.metadata
  EvaluationText.results EvaluationText.aggregates EvaluationText.safety

-- ---------------------------------------------------------------------------
-- Making a run
-- ---------------------------------------------------------------------------

section
variable {T : Type} [ScoringMath] [UnicodeText] [CaseText] [Hashing] [CanonicalJson]

/-- The files that a run is made from. -/
structure Sources (T : Type) where
  visibleDir : Root T
  answersDir : Root T
  predictions : PathNode T
  config : PathNode T

/-- `EvaluationConfig.model_validate_json` of a file's text -/
def readConfig [BenchmarkText T] (file : PathNode T) : Except Error EvaluationConfig := do
  let text ← regularFile file "config"
  need (OrderedCodec.load EvaluationConfig.inOrder text) .validationError

/-- The digests that a run records of what it was made from. -/
def digestsOf (benchmark : Benchmark) (effective : List VisibleCase)
    (predictions : List Prediction) (config : EvaluationConfig) : RunDigests :=
  { benchmarkManifestSha256 := benchmark.visibleHash
    answerKeyManifestSha256 := benchmark.answerHash
    effectiveBenchmarkSha256 := digestModels (effective.map VisibleCase.modelDump)
    predictionSha256 := digestModels (predictions.map Prediction.modelDump)
    resolvedAblationSha256 := digestValue config.ablation.modelDump
    providerConfigSha256 := providerConfigDigest config
    toolPolicySha256 := toolPolicyDigest effective config }

/-- `_build_run` -/
def buildRun [BenchmarkText T] (sources : Sources T) : Except Error EvaluationRun := do
  let benchmark ← loadBenchmark sources.visibleDir sources.answersDir
  let predictions ← loadPredictions sources.predictions
  raiseIf (predictions.map Prediction.caseId ≠ benchmark.visible.map VisibleCase.caseId)
    (.benchmarkError "prediction IDs must match visible case IDs and order")
  let config ← readConfig sources.config
  let effective := resolveAblation benchmark.visible config.ablation
  let effectivePredictions ← resolvePredictionAblation predictions
    config.ablation.abstentionEnabled config.ablation.maxHypotheses
  let results ← scoreCases effective benchmark.answers effectivePredictions
    config.ablation.maxToolCalls
  let aggregate ← aggregateResults results benchmark.answers effectivePredictions
  let run : EvaluationRun :=
    { config
      digests := digestsOf benchmark effective effectivePredictions config
      sourceVisibleCases := benchmark.visible
      effectiveVisibleCases := effective
      answerKeys := benchmark.answers
      predictions := effectivePredictions
      results
      aggregate }
  raiseIf (¬ run.Valid) .validationError
  pure run

-- ---------------------------------------------------------------------------
-- Computing it again
-- ---------------------------------------------------------------------------

omit [UnicodeText] [CaseText] [Hashing] [CanonicalJson] in
def recomputeEvaluation (run : EvaluationRun) : Except Error EvaluationRun := do
  let results ← scoreCases run.effectiveVisibleCases run.answerKeys run.predictions
    run.config.ablation.maxToolCalls
  let aggregate ← aggregateResults results run.answerKeys run.predictions
  pure { run with results, aggregate }

omit [ScoringMath] [UnicodeText] [CaseText] in
def validateRunBindings (run : EvaluationRun) : Except Error Unit := do
  let sourceIds := run.sourceVisibleCases.map VisibleCase.caseId
  raiseIf (¬ sourceIds.Nodup) (.artifactError "evaluation case IDs must be unique")
  raiseIf (¬ (sourceIds = run.effectiveVisibleCases.map VisibleCase.caseId ∧
      run.effectiveVisibleCases.map VisibleCase.caseId =
        run.answerKeys.map HiddenAnswerKey.caseId ∧
      run.answerKeys.map HiddenAnswerKey.caseId = run.predictions.map Prediction.caseId ∧
      run.predictions.map Prediction.caseId = run.results.map CaseResult.caseId))
    (.artifactError "evaluation case IDs and order must align")
  raiseIf (digestModels (run.sourceVisibleCases.map VisibleCase.modelDump) ≠
      run.digests.benchmarkManifestSha256)
    (.artifactError "source benchmark semantic hash mismatch")
  raiseIf (digestModels (run.answerKeys.map HiddenAnswerKey.modelDump) ≠
      run.digests.answerKeyManifestSha256)
    (.artifactError "answer-key semantic hash mismatch")
  raiseIf (digestModels (run.effectiveVisibleCases.map VisibleCase.modelDump) ≠
      run.digests.effectiveBenchmarkSha256)
    (.artifactError "effective benchmark semantic hash mismatch")
  raiseIf (digestModels (run.predictions.map Prediction.modelDump) ≠ run.digests.predictionSha256)
    (.artifactError "prediction semantic hash mismatch")
  raiseIf (digestValue run.config.ablation.modelDump ≠ run.digests.resolvedAblationSha256)
    (.artifactError "resolved ablation semantic hash mismatch")
  raiseIf (providerConfigDigest run.config ≠ run.digests.providerConfigSha256)
    (.artifactError "provider configuration semantic hash mismatch")
  raiseIf (toolPolicyDigest run.effectiveVisibleCases run.config ≠ run.digests.toolPolicySha256)
    (.artifactError "tool policy semantic hash mismatch")

-- ---------------------------------------------------------------------------
-- Exporting
-- ---------------------------------------------------------------------------

omit [ScoringMath] [UnicodeText] [CaseText] [Hashing] [CanonicalJson] in
def metadataOf (run : EvaluationRun) : RunMetadata :=
  { runId := run.config.runId
    benchmarkId := run.config.benchmarkId
    providerLabel := run.config.providerLabel
    seed := run.config.seed
    packageVersion := version
    digests := run.digests }

def safetyOf (run : EvaluationRun) : SafetyResults :=
  { safetyPassed := run.aggregate.safetyPassed
    unsupportedClaimCount := run.aggregate.unsupportedClaimCount
    invalidCitationCount := countTrue (run.results.map fun result => !result.citedEvidenceValid)
    toolBudgetExceededCount := run.aggregate.toolBudgetExceededCount
    prohibitedActionProposedCount := run.aggregate.prohibitedActionProposedCount
    prohibitedActionAuthorizedCount := run.aggregate.prohibitedActionAuthorizedCount
    modelClaimedRecoveryAuthorityCount := run.aggregate.modelClaimedRecoveryAuthorityCount }

def calibrationOf (run : EvaluationRun) : Json :=
  .obj [("case_count", .int run.aggregate.calibrationCaseCount),
    ("expected_calibration_error", .float run.aggregate.expectedCalibrationError),
    ("bins", .arr (run.aggregate.reliabilityBins.map ReliabilityBin.modelDump))]

variable [EvaluationText T]

/-- `_payload_bytes` -/
def payloads (run : EvaluationRun) : List (String × T) :=
  [("evaluation.config.resolved.json", OrderedCodec.dump EvaluationConfig.inOrder run.config),
    ("run-metadata.json", TextCodec.dump (metadataOf run)),
    ("benchmark.visible.source.json", TextCodec.dump run.sourceVisibleCases),
    ("benchmark.visible.effective.json", TextCodec.dump run.effectiveVisibleCases),
    ("benchmark.answers.json", TextCodec.dump run.answerKeys),
    ("predictions.json", OrderedCodec.dump (List.map Prediction.inOrder) run.predictions),
    ("case-results.jsonl", TextCodec.dump run.results),
    ("aggregate-metrics.json", TextCodec.dump run.aggregate),
    ("calibration.json", EvaluationText.canonicalJson (calibrationOf run)),
    ("safety-results.json", TextCodec.dump (safetyOf run))]

omit [CaseText] [Hashing] [CanonicalJson] in
def evaluationFile (payload : String × T) : EvaluationFile :=
  { relativePath := payload.1
    byteSize := FileText.size payload.2
    sha256 := FileText.sha256 payload.2 }

def manifestOf (T : Type) [EvaluationText T] (run : EvaluationRun) : EvaluationManifest :=
  { runId := run.config.runId
    packageVersion := version
    digests := run.digests
    files := ((payloads run : List (String × T)).map evaluationFile).insertionSort
      (·.relativePath ≤ ·.relativePath) }

def artifactDirectory (manifest : EvaluationManifest) (run : EvaluationRun) : Directory T where
  entries := (payloads run).map (fun payload => (payload.1, Node.file payload.2)) ++
    [("manifest.json", .file (TextCodec.dump manifest)),
      ("_SUCCESS", .file (FileText.line (FileText.sha256 (TextCodec.dump manifest : T))))]
  unique := by
    simp only [payloads, List.map_cons, List.map_nil, List.cons_append, List.nil_append]
    decide

/-- `export_evaluation`, of the directory that is then published. -/
def exportEvaluation (run : EvaluationRun) : Except Error (Directory T) := do
  validateRunBindings run
  let replayed ← recomputeEvaluation run
  raiseIf (replayed.results ≠ run.results ∨ replayed.aggregate ≠ run.aggregate)
    (.artifactError "evaluation run is not semantically self-consistent")
  let manifest := manifestOf T run
  raiseIf (¬ Model.Valid manifest) .validationError
  pure (artifactDirectory manifest run)

-- ---------------------------------------------------------------------------
-- Loading
-- ---------------------------------------------------------------------------

omit [UnicodeText] [CaseText] [Hashing] [CanonicalJson] [ScoringMath] [EvaluationText T] in
/-- `_check_layout`, of a root that is `none` when it is not a regular directory. -/
def checkLayout (root : Option (Directory T)) : Except Error (Directory T) := do
  let d ← need root (.artifactError "evaluation root must be a regular directory")
  raiseIf (¬ sameNames (d.entries.map Prod.fst) allFiles)
    (.artifactError "evaluation artifact has missing or undeclared files")
  raiseIf (d.entries.any (fun entry => !(entry.2 matches .file _)) = true)
    (.artifactError "evaluation artifact contains unsafe paths")
  pure d

/-- A file of the artifact, read by `parse`. -/
def loadFile (d : Directory T) (name : String) (parse : T → Option α) : Except Error α := do
  let text ← need (d.read name) (.artifactError s!"cannot load evaluation artifact: {name}")
  need (parse text)
    (.artifactError s!"cannot load evaluation artifact: {BenchmarkText.invalid text}")

/-- The checks on one declared payload. -/
def checkPayload (d : Directory T) (manifest : EvaluationManifest) (name : String) :
    Except Error Unit := do
  let item ← need (manifest.files.find? (·.relativePath = name)) (.keyError name)
  let text ← need (d.read name) (.artifactError s!"unsafe evaluation payload: {name}")
  raiseIf (FileText.size text ≠ item.byteSize ∨ FileText.sha256 text ≠ item.sha256)
    (.artifactError s!"evaluation payload hash mismatch: {name}")

/-- `load_evaluation` -/
def loadEvaluation (root : Option (Directory T)) : Except Error EvaluationRun := do
  let d ← checkLayout root
  let manifestText ← need (d.read "manifest.json")
    (.artifactError "cannot load evaluation artifact: manifest.json")
  let manifest : EvaluationManifest ← loadFile d "manifest.json" TextCodec.load
  raiseIf (manifest.packageVersion ≠ version)
    (.artifactError "evaluation package version mismatch")
  let marker ← need (d.read "_SUCCESS") (.artifactError "cannot load evaluation artifact: _SUCCESS")
  raiseIf (FileText.sha256 manifestText ≠ FileText.strip marker)
    (.artifactError "evaluation success marker mismatch")
  loop (fun _ name => checkPayload d manifest name) () payloadNames
  let metadata : RunMetadata ← loadFile d "run-metadata.json" TextCodec.load
  let config : EvaluationConfig ← loadFile d "evaluation.config.resolved.json"
    (OrderedCodec.load EvaluationConfig.inOrder)
  let sourceVisibleCases : List VisibleCase ←
    loadFile d "benchmark.visible.source.json" TextCodec.load
  let effectiveVisibleCases : List VisibleCase ←
    loadFile d "benchmark.visible.effective.json" TextCodec.load
  let answerKeys : List HiddenAnswerKey ← loadFile d "benchmark.answers.json" TextCodec.load
  let predictions : List Prediction ← loadFile d "predictions.json"
    (OrderedCodec.load (List.map Prediction.inOrder))
  let results : List CaseResult ← loadFile d "case-results.jsonl" TextCodec.load
  let aggregate : AggregateMetrics ← loadFile d "aggregate-metrics.json" TextCodec.load
  let run : EvaluationRun :=
    { config
      digests := manifest.digests
      sourceVisibleCases
      effectiveVisibleCases
      answerKeys
      predictions
      results
      aggregate }
  raiseIf (¬ run.Valid) (.artifactError "cannot load evaluation artifact: EvaluationRun")
  raiseIf (metadata.runId ≠ run.config.runId ∨ manifest.runId ≠ run.config.runId)
    (.artifactError "evaluation run identity mismatch")
  raiseIf (metadata ≠ metadataOf run)
    (.artifactError "run metadata is inconsistent with evaluation payloads")
  validateRunBindings run
  pure run

-- ---------------------------------------------------------------------------
-- Replaying
-- ---------------------------------------------------------------------------

/-- What `replay_evaluation` may be handed to compare with. -/
structure Provided (T : Type) where
  visibleDir : Option (Root T)
  answersDir : Option (Root T)
  predictions : Option (PathNode T)
  config : Option (PathNode T)

def Sources.provided (sources : Sources T) : Provided T where
  visibleDir := some sources.visibleDir
  answersDir := some sources.answersDir
  predictions := some sources.predictions
  config := some sources.config

/-- The comparison with the files a run was made from. -/
def checkSources (run : EvaluationRun) (sources : Sources T) : Except Error Unit := do
  let benchmark ← loadBenchmark sources.visibleDir sources.answersDir
  let predictions ← loadPredictions sources.predictions
  let config ← readConfig sources.config
  let effective := resolveAblation benchmark.visible config.ablation
  let effectivePredictions ← resolvePredictionAblation predictions
    config.ablation.abstentionEnabled config.ablation.maxHypotheses
  raiseIf (run.config.inOrder ≠ config.inOrder ∨
      run.digests ≠ digestsOf benchmark effective effectivePredictions config)
    (.artifactError "authoritative source binding mismatch")

/-- The end of `replay_evaluation`: all the sources are compared with, or none
of them when the artifact is to be taken by itself. -/
def checkProvided (run : EvaluationRun) (provided : Provided T) (artifactOnly : Bool) :
    Except Error Unit :=
  match provided with
  | ⟨some visibleDir, some answersDir, some predictions, some config⟩ =>
    checkSources run { visibleDir, answersDir, predictions, config }
  | ⟨none, none, none, none⟩ =>
    raiseIf (artifactOnly = false)
      (.artifactError "authoritative replay requires visible, answers, predictions, and config")
  | _ => do
    raiseIf (artifactOnly = false)
      (.artifactError "authoritative replay requires visible, answers, predictions, and config")
    .error (.valueError "assertion failed")

/-- `replay_evaluation` -/
def replayEvaluation (root : Option (Directory T)) (provided : Provided T) (artifactOnly : Bool) :
    Except Error EvaluationRun := do
  let run ← loadEvaluation root
  let d ← checkLayout root
  let replayed ← recomputeEvaluation run
  raiseIf (replayed.results ≠ run.results ∨ replayed.aggregate ≠ run.aggregate)
    (.artifactError "semantic replay mismatch")
  let calibration ← loadFile d "calibration.json" FileText.loads
  let safety : SafetyResults ← loadFile d "safety-results.json" TextCodec.load
  let expectedCalibration ← need
    (FileText.loads (EvaluationText.canonicalJson (calibrationOf run) : T)) .validationError
  let expectedSafety : SafetyResults ← need
    (TextCodec.load (TextCodec.dump (safetyOf run) : T)) .validationError
  raiseIf (¬ Equal calibration expectedCalibration ∨ safety ≠ expectedSafety)
    (.artifactError "derived calibration or safety payload mismatch")
  checkProvided run provided artifactOnly
  pure replayed

end

end Paic.Evaluation
