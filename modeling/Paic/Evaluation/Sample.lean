import Paic.Evaluation.RoundTrip
import Paic.JsonCode
import Paic.Tools.Sample
import Mathlib

/-!
# Evaluations on the computing platform

Files that hold the models as they are, numbers that are exact, and a
benchmark of one case whose text is a term that an ablation takes out, after
some blanks. With enough of them the text has no room for the mark.
-/

namespace Paic.Evaluation.Sample

open Platform (codec fingerprint hexText hexText_isSha256)
open Investigation (FloatMath)
open Remediation (Directory Node)
open Replace (found first)

instance : ScoringMath where
  log x := x - 1
  exp x := if x ≤ -1 then 0 else x + 1
  add := (· + ·)
  sub := (· - ·)
  mul := (· * ·)
  div := (· / ·)
  sum := List.sum
  fsum := List.sum
  square x := x * x

instance : ScoringLaws where
  sum_quotients {masses quotients} _ _ hpositive hperm := by
    have hsum : quotients.sum = 1 := by
      rw [hperm.sum_eq]
      change (masses.map fun mass => mass / masses.sum).sum = 1
      simp only [div_eq_mul_inv]
      have hne : masses.sum ≠ 0 := ne_of_gt hpositive
      rw [List.sum_map_mul_right, List.map_id', mul_inv_cancel₀ hne]
    change quotients.sum - 1 ≤ sumTolerance ∧ -sumTolerance ≤ quotients.sum - 1
    rw [hsum]
    decide +kernel

instance : CaseText where
  casefold s := s.map Char.toLower
  sameLetter p c := c.toLower = p

instance : CaseLaws where
  sameLetter_ascii _ _ _ _ := decide_eq_true_iff
  sameLetter_unique _ _ _ _ _ hp hq := (of_decide_eq_true hp).symm.trans (of_decide_eq_true hq)

instance : CanonicalJson where
  canonicalJsonBytes j := hexText (fingerprint j.sorted)
  sorted_bytes j := congrArg (fun j => hexText (fingerprint j)) (JsonCode.sorted_sorted j)

-- ---------------------------------------------------------------------------
-- Files
-- ---------------------------------------------------------------------------

inductive Text where
  | empty
  | json (j : Json)
  | line (s : String)
  | visible (cases : List VisibleCase)
  | answers (answers : List HiddenAnswerKey)
  | predictions (predictions : List Prediction)
  | config (c : EvaluationConfig)
  | manifest (m : EvaluationManifest)
  | metadata (m : RunMetadata)
  | results (results : List CaseResult)
  | aggregate (m : AggregateMetrics)
  | safety (s : SafetyResults)
  deriving DecidableEq

def Text.tag : Text → Nat
  | .empty => 0
  | .json j => fingerprint j
  | .line s => Platform.mixText 1 s
  | .visible rows => fingerprint (.arr (rows.map VisibleCase.modelDump))
  | .answers rows => fingerprint (.arr (rows.map HiddenAnswerKey.modelDump))
  | .predictions rows => fingerprint (.arr (rows.map Prediction.modelDump))
  | .config c => Platform.mixText 2 c.runId
  | .manifest m => Platform.mixText 3 m.runId
  | .metadata m => Platform.mixText 4 m.runId
  | .results rows => Platform.mix 5 rows.length
  | .aggregate m => Platform.mix 6 m.caseCount
  | .safety s => Platform.mix 7 s.unsupportedClaimCount

theorem valid_of_unpack [Model α] {unpack : T → Option α} {t : T} {a : α}
    (h : (unpack t).filter (fun a => Model.Valid a) = some a) : Model.Valid a :=
  of_decide_eq_true (Option.filter_eq_some_iff.mp h).2

/-- A model class with dicts in it, which files hold with the keys in order. -/
@[reducible] def orderedCodec [Model α] {inOrder : α → α} (dump : α → T) (unpack : T → Option α)
    (h : ∀ a, unpack (dump a) = some a) : OrderedCodec T α inOrder where
  dump a := dump (inOrder a)
  load t := (unpack t).filter fun a => Model.Valid a
  load_valid := @valid_of_unpack α T _ unpack
  load_dump hv := by simp [h, hv]

instance : EvaluationText Text where
  decEq := inferInstance
  empty := .empty
  size _ := 1
  sha256 t := hexText t.tag
  json := .json
  loads
    | .json j => some j
    | _ => none
  line := .line
  strip
    | .line s => s
    | _ => ""
  sha256_hex _ := hexText_isSha256 _
  loads_json _ _ := rfl
  strip_line _ _ := rfl
  cases := codec .visible (fun | .visible c => some c | _ => none) fun _ => rfl
  answers := codec .answers (fun | .answers a => some a | _ => none) fun _ => rfl
  predictions := orderedCodec .predictions (fun | .predictions p => some p | _ => none) fun _ => rfl
  configs := orderedCodec .config (fun | .config c => some c | _ => none) fun _ => rfl
  invalid _ := "validation error"
  manifests := codec .manifest (fun | .manifest m => some m | _ => none) fun _ => rfl
  metadata := codec .metadata (fun | .metadata m => some m | _ => none) fun _ => rfl
  results := codec .results (fun | .results r => some r | _ => none) fun _ => rfl
  aggregates := codec .aggregate (fun | .aggregate m => some m | _ => none) fun _ => rfl
  safety := codec .safety (fun | .safety s => some s | _ => none) fun _ => rfl
  canonicalJson := .json
  loads_canonicalJson _ := rfl

-- ---------------------------------------------------------------------------
-- A benchmark of one case
-- ---------------------------------------------------------------------------

/-- A term that an ablation takes out, after some blanks. -/
def incident (blanks : Nat) : String :=
  String.ofList (List.replicate blanks ' ' ++ "lineage".toList)

def case (text : String) : VisibleCase :=
  { caseId := "case"
    family := "checkout"
    difficulty := .easy
    incidentInput := text
    evidenceIds := ["record"]
    allowedTools := [] }

def answer : HiddenAnswerKey :=
  { caseId := "case"
    rootCauseId := "release"
    incidentFamily := none
    affectedCohort := []
    acceptableAlternates := []
    requiredEvidenceIds := ["record"]
    prohibitedClaims := []
    shouldAbstain := false
    allowedRemediationClasses := []
    prohibitedRemediationClasses := []
    expectedRecovery := .recovered
    contradictionExpected := none }

def prediction : Prediction :=
  { caseId := "case"
    rankedHypotheses := ["release"]
    probabilities := [("release", 1)]
    citedEvidenceIds := ["record"]
    claims := []
    abstained := false
    toolCalls := 1
    toolFailures := 0
    proposedRemediationClass := none
    authorizedRemediationClass := none
    predictedRecovery := none
    claimedRecoveryAuthority := false
    contradictionHandled := none
    providerUsage := none
    providerUsageSource := none }

def config : EvaluationConfig :=
  { runId := "run"
    benchmarkId := "benchmark"
    providerLabel := "provider"
    providerConfiguration := []
    seed := 1
    ablation := ⟨"without-lineage", true, false, false, true, 5, 3⟩ }

def root (name file : String) (text : Text) : Root Text where
  path := name
  resolved := some [name]
  symlink := false
  directory := some ⟨[(file, .file text)], List.nodup_singleton _⟩

/-- The files of a run over the one case. -/
def sources (blanks : Nat) : Sources Text where
  visibleDir := root "visible" "cases.json" (.visible [case (incident blanks)])
  answersDir := root "answers" "answer-keys.json" (.answers [answer])
  predictions := ⟨"predictions.json", some (.file (.predictions [prediction]))⟩
  config := ⟨"config.json", some (.file (.config config))⟩

theorem incident_length (blanks : Nat) : (incident blanks).length = blanks + 7 := by
  rw [incident, String.length_ofList, List.length_append, List.length_replicate]
  rfl

theorem case_valid (h : blanks ≤ 19993) : (case (incident blanks)).Valid := by
  have hlength := incident_length blanks
  have hname : isCaseId "case" = true ∧ Remediation.textIn "checkout" 1 100 := by decide
  refine ⟨hname.1, hname.2, ⟨?_, ?_⟩, ⟨?_, List.nodup_singleton _⟩, ?_, List.nodup_nil⟩ <;>
    simp only [case, List.length_cons, List.length_nil] <;> omega

theorem normalWords_incident (blanks : Nat) : normalWords (incident blanks) = ["lineage".toList] := by
  have htext : (casefold (incident blanks)).toList =
      List.replicate blanks ' ' ++ "lineage".toList := by
    simp [casefold, incident]
  have hblank : ∀ text, Words.words isLowerAlnum (' ' :: text) = Words.words isLowerAlnum text := by
    intro text
    rw [Words.words.eq_def]
    rfl
  rw [normalWords, htext]
  clear htext
  induction blanks with
  | zero => decide
  | succ blanks ih => rw [List.replicate_succ, List.cons_append, hblank, ih]

/-- The one term is found behind the blanks. -/
theorem found_incident (blanks : Nat) :
    found sameLetter ["lineage".toList] 0 (incident blanks).toList = ["lineage".toList] := by
  have hblank : ∀ text, found sameLetter ["lineage".toList] 0 (' ' :: text) =
      found sameLetter ["lineage".toList] 0 text := by
    intro text
    rw [found]
    rfl
  have htext : (incident blanks).toList = List.replicate blanks ' ' ++ "lineage".toList :=
    String.toList_ofList
  rw [htext]
  clear htext
  induction blanks with
  | zero => decide
  | succ blanks ih => rw [List.replicate_succ, List.cons_append, hblank, ih]

theorem growth_incident (blanks : Nat) :
    redactionGrowth config.ablation (incident blanks) = 3 := by
  have hterms : termsByLength config.ablation = ["lineage"] := by decide
  rw [redactionGrowth, hterms, List.map_singleton, found_incident]
  decide

theorem isolated (blanks : Nat) :
    validateHiddenLabelIsolation [case (incident blanks)] [answer] = .ok () := by
  have hlabels : answer.labels = ["release"] := rfl
  have hnot : ¬ disclosed (case (incident blanks)) "release" := by
    have hincident : normaliseLabel (case (incident blanks)).incidentInput = "lineage".toList :=
      congrArg Words.joined (normalWords_incident blanks)
    have hidentifiers : (case (incident blanks)).identifiers = ["case", "checkout", "record"] := rfl
    rw [disclosed, hincident, hidentifiers]
    decide +kernel
  refine Checks.loop_unit_ok.mpr fun pair hpair => ?_
  obtain rfl : pair = (case (incident blanks), answer) := by simpa using hpair
  refine Checks.loop_unit_ok.mpr fun hiddenLabel hlabel => ?_
  rw [hlabels, List.mem_singleton] at hlabel
  exact Checks.raiseIf_neg (hlabel ▸ hnot)

/-- What `loadBenchmark` makes of one case and its answer. -/
def benchmarkOf (c : VisibleCase) : Benchmark :=
  { visible := [c]
    answers := [answer]
    visibleHash := digestModels [c.modelDump]
    answerHash := digestModels [answer.modelDump] }

def answersRoot : Root Text := root "answers" "answer-keys.json" (.answers [answer])

theorem loadBenchmark_case {c : VisibleCase} (hvalid : c.Valid) (hid : c.caseId = "case")
    (hisolated : validateHiddenLabelIsolation [c] [answer] = .ok ()) :
    loadBenchmark (root "visible" "cases.json" (.visible [c])) answersRoot =
      .ok (benchmarkOf c) := by
  have hroots : validateDistinctRoots (root "visible" "cases.json" (.visible [c])) answersRoot =
      .ok () := rfl
  have hmodel : Model.Valid [c] := by
    simpa [Model.Valid] using hvalid
  have hcases : (root "visible" "cases.json" (.visible [c])).at "cases.json" =
      ⟨"visible/cases.json", some (.file (.visible [c]))⟩ := rfl
  have hvisible : loadModelList ((root "visible" "cases.json" (.visible [c])).at "cases.json")
      TextCodec.load "visible cases" = .ok [c] := by
    rw [hcases, loadModelList_ok]
    exact ⟨_, rfl, TextCodec.load_dump hmodel⟩
  have hanswers : loadModelList (answersRoot.at "answer-keys.json") TextCodec.load
      "answer keys" = .ok [answer] := by
    rw [loadModelList_ok]
    exact ⟨.answers [answer], rfl, by decide +kernel⟩
  rw [loadBenchmark, hroots, Checks.ok_bind, hvisible, Checks.ok_bind, hanswers, Checks.ok_bind]
  have hids : ∀ label, validateCaseIds ["case"] label = .ok () := fun _ => rfl
  have hcaseIds : List.map VisibleCase.caseId [c] = ["case"] := by rw [List.map_singleton, hid]
  have hanswerIds : List.map HiddenAnswerKey.caseId [answer] = ["case"] := rfl
  simp only [hcaseIds, hanswerIds]
  rw [hids, Checks.ok_bind, hids, Checks.ok_bind, Checks.raiseIf_neg (not_not.mpr rfl),
    Checks.ok_bind, hisolated, Checks.ok_bind]
  rfl

def benchmark (blanks : Nat) : Benchmark := benchmarkOf (case (incident blanks))

theorem loadBenchmark_sources (h : blanks ≤ 19993) :
    loadBenchmark (sources blanks).visibleDir (sources blanks).answersDir =
      .ok (benchmark blanks) :=
  loadBenchmark_case (case_valid h) rfl (isolated blanks)

theorem loadPredictions_sources (blanks : Nat) :
    loadPredictions (sources blanks).predictions = .ok [prediction] := by
  have hload : loadPredictions
      (T := Text) ⟨"predictions.json", some (.file (.predictions [prediction]))⟩ =
      .ok [prediction] := by decide +kernel
  exact hload

theorem readConfig_sources (blanks : Nat) : readConfig (sources blanks).config = .ok config := by
  have hread : readConfig (T := Text) ⟨"config.json", some (.file (.config config))⟩ =
      .ok config := by decide +kernel
  exact hread

/-- What the case, its answer and the prediction score; the text does not
count. -/
theorem scored : ∃ results aggregate,
    (∀ text, scoreCases [case text] [answer] [prediction] 5 = .ok results) ∧
      aggregateResults results [answer] [prediction] = .ok aggregate ∧ results ≠ [] := by
  have hscore : ∀ text, scoreCases [case text] [answer] [prediction] 5 =
      scoreCases [case ""] [answer] [prediction] 5 := fun _ => rfl
  have haggregate : ((scoreCases [case ""] [answer] [prediction] 5).bind fun results =>
      aggregateResults results [answer] [prediction]).isOk = true := by decide +kernel
  cases hresults : scoreCases [case ""] [answer] [prediction] 5 with
  | error e =>
    rw [hresults] at haggregate
    exact absurd haggregate nofun
  | ok results =>
    rw [hresults] at haggregate
    change (aggregateResults results [answer] [prediction]).isOk = true at haggregate
    cases hmetrics : aggregateResults results [answer] [prediction] with
    | error e =>
      rw [hmetrics] at haggregate
      exact absurd haggregate nofun
    | ok aggregate =>
      refine ⟨results, aggregate, fun text => (hscore text).trans hresults, hmetrics, ?_⟩
      rintro rfl
      exact absurd hmetrics nofun

theorem digests_valid (blanks : Nat) (effective : List VisibleCase) :
    (digestsOf (benchmark blanks) effective [prediction] config).Valid := by
  refine ⟨?_⟩
  simp only [List.forall_mem_cons, List.not_mem_nil, false_implies, implies_true, and_true]
  exact ⟨Hashing.sha256_hex _, Hashing.sha256_hex _, Hashing.sha256_hex _, Hashing.sha256_hex _,
    Hashing.sha256_hex _, Hashing.sha256_hex _, Hashing.sha256_hex _⟩

theorem buildRun_sources (h : blanks ≤ 19993) : ∃ run, buildRun (sources blanks) = .ok run := by
  obtain ⟨results, aggregate, hresults, haggregate, hne⟩ := scored
  have hkeep : ["record"].filter (keepValue config.ablation) = ["record"] := by decide +kernel
  have heffective : resolveAblation [case (incident blanks)] config.ablation =
      [case (redactTerms config.ablation (incident blanks))] := by
    simp only [resolveAblation, List.map_singleton, case, hkeep, List.filter_nil]
  have hresolved : resolvePredictionAblation [prediction] config.ablation.abstentionEnabled
      config.ablation.maxHypotheses = .ok [prediction] := by decide +kernel
  have hids : [prediction].map Prediction.caseId =
      (benchmark blanks).visible.map VisibleCase.caseId := rfl
  rw [buildRun, loadBenchmark_sources h, Checks.ok_bind, loadPredictions_sources, Checks.ok_bind,
    Checks.raiseIf_neg (not_not.mpr hids), Checks.ok_bind, readConfig_sources, Checks.ok_bind]
  simp only [benchmark, benchmarkOf, heffective]
  rw [hresolved, Checks.ok_bind, show config.ablation.maxToolCalls = 5 from rfl, hresults,
    Checks.ok_bind, haggregate, Checks.ok_bind, Checks.raiseIf_neg, Checks.ok_bind]
  · exact ⟨_, rfl⟩
  · exact not_not.mpr ⟨digests_valid blanks _, by rintro ⟨⟩, by rintro ⟨⟩, by rintro ⟨⟩,
      by rintro ⟨⟩, hne⟩

-- ---------------------------------------------------------------------------
-- Without room for the mark
-- ---------------------------------------------------------------------------

theorem fits_iff (blanks : Nat) :
    (∀ case ∈ (benchmark blanks).visible, case.Fits config.ablation) ↔ blanks + 10 ≤ 20000 := by
  simp only [benchmark, benchmarkOf, List.forall_mem_cons, List.not_mem_nil, false_implies, implies_true,
    and_true, VisibleCase.Fits]
  rw [show (case (incident blanks)).incidentInput = incident blanks from rfl, incident_length,
    growth_incident]
  omega

/-- A run that can be exported, and whose artifact does not load. -/
theorem unloadable : ∃ run, ∃ d : Directory Text, buildRun (sources 19993) = .ok run ∧
    exportEvaluation run = .ok d ∧ ∀ r, loadEvaluation (some d) ≠ .ok r := by
  have hle : 19993 ≤ 19993 := le_rfl
  have hsources := loadBenchmark_sources hle
  obtain ⟨run, hrun⟩ := buildRun_sources hle
  obtain ⟨_, _, predictions, hbuilt⟩ := buildRun_ok hrun
  obtain rfl := Except.ok.inj (hsources.symm.trans hbuilt.hasBenchmark)
  obtain rfl := Except.ok.inj ((readConfig_sources 19993).symm.trans hbuilt.hasConfig)
  refine ⟨run, exported Text run, hrun, hbuilt.exports, fun r hr => ?_⟩
  have hvalid := effective_valid_of_load hr
  rw [hbuilt.effective, resolveAblation_valid_iff _ (loadBenchmark_valid hsources).1,
    fits_iff] at hvalid
  exact absurd hvalid (by decide)

/-- Without blanks the run loads and replays. -/
theorem round_trip_short : ∃ run, ∃ d : Directory Text, buildRun (sources 0) = .ok run ∧
    exportEvaluation run = .ok d ∧
    ∃ loaded replayed, loadEvaluation (some d) = .ok loaded ∧ loaded.Equal run ∧
      replayEvaluation (some d) (sources 0).provided false = .ok replayed ∧
      replayed.results = run.results ∧ replayed.aggregate = run.aggregate := by
  have hle : 0 ≤ 19993 := Nat.zero_le _
  have hsources := loadBenchmark_sources hle
  obtain ⟨run, hrun⟩ := buildRun_sources hle
  obtain ⟨_, _, _, hbuilt⟩ := buildRun_ok hrun
  exact ⟨run, exported Text run, hrun, hbuilt.exports,
    (round_trip_iff hsources (readConfig_sources 0) hrun hbuilt.exports).mpr
      ((fits_iff 0).mpr (by decide))⟩

end Paic.Evaluation.Sample
