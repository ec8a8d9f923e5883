import Paic.Evaluation.Models
import Paic.Lib.Replace
import Paic.Lib.Words

/-!
# The benchmark

Visible cases, hidden answers and predictions are loaded from files and bound
to each other; labels that the visible fields give away are refused. An
ablation changes what the agent sees of a case and what a prediction keeps.
-/

namespace Paic.Evaluation

open Checks (raiseIf need loop)
open Investigation (FloatMath)
open Remediation (Directory Node)
open Tools (UnicodeText lower contains)

inductive Error where
  | benchmarkError (message : String)
  | artifactError (message : String)
  | valueError (message : String)
  | validationError
  | keyError (key : String)
  | zeroDivisionError
  deriving DecidableEq, Repr

-- ---------------------------------------------------------------------------
-- Texts and digests
-- ---------------------------------------------------------------------------

/-- `str.casefold`, and which characters a letter of a pattern matches under
`re.IGNORECASE`. -/
class CaseText where
  casefold : String → String
  sameLetter : Char → Char → Bool

export CaseText (casefold sameLetter)

/-- `canonical_json_bytes`: keys in order, and characters beyond ASCII as they
are. -/
class CanonicalJson where
  canonicalJsonBytes : Json → String
  sorted_bytes : ∀ j, canonicalJsonBytes j.sorted = canonicalJsonBytes j

export CanonicalJson (canonicalJsonBytes)

section
variable [Hashing] [CanonicalJson]

def digestValue (value : Json) : String := sha256 (canonicalJsonBytes value)

/-- `digest_models`, of the models' dumps. -/
def digestModels (dumps : List Json) : String := digestValue (.arr dumps)

def providerConfigDigest (config : EvaluationConfig) : String :=
  digestValue (.obj [("provider_label", .str config.providerLabel),
    ("provider_configuration", .obj config.providerConfiguration)])

def toolPolicyDigest (cases : List VisibleCase) (config : EvaluationConfig) : String :=
  digestValue (.obj [("max_tool_calls", .int config.ablation.maxToolCalls),
    ("cases", .arr (cases.map fun case =>
      .obj [("case_id", .str case.caseId), ("allowed_tools", .strs case.allowedTools)]))])

end

-- ---------------------------------------------------------------------------
-- Files
-- ---------------------------------------------------------------------------

/-- A model class with dicts in it: they are written with their keys in order
and read in the order in which they stand. -/
class OrderedCodec (T α : Type) [Model α] (inOrder : α → α) where
  dump : α → T
  load : T → Option α
  load_valid : load t = some a → Model.Valid a
  load_dump : Model.Valid (inOrder a) → load (dump a) = some (inOrder a)

instance : Model (List VisibleCase) where
  Valid cases := ∀ case ∈ cases, case.Valid
  decValid _ := inferInstance

instance : Model (List HiddenAnswerKey) where
  Valid answers := ∀ answer ∈ answers, answer.Valid
  decValid _ := inferInstance

instance [ScoringMath] : Model (List Prediction) where
  Valid predictions := ∀ prediction ∈ predictions, prediction.Valid
  decValid _ := inferInstance

instance [UnicodeText] : Model EvaluationConfig where
  Valid := EvaluationConfig.Valid
  decValid _ := inferInstance

/-- The files a run is made from. `invalid` is the text of what reading one
raises. -/
class BenchmarkText (T : Type) [ScoringMath] [UnicodeText] where
  cases : TextCodec T (List VisibleCase)
  answers : TextCodec T (List HiddenAnswerKey)
  predictions : OrderedCodec T (List Prediction) (List.map Prediction.inOrder)
  configs : OrderedCodec T EvaluationConfig EvaluationConfig.inOrder
  invalid : T → String

attribute [reducible, instance] BenchmarkText.cases BenchmarkText.answers
  BenchmarkText.predictions BenchmarkText.configs

/-- A directory that is handed over by its path. `resolved` has the parts of
the path that it is really at, unless there is none; `directory` is what stands
there, when that is a directory. -/
structure Root (T : Type) where
  path : String
  resolved : Option (List String)
  symlink : Bool
  directory : Option (Directory T)

/-- What stands at a path. -/
structure PathNode (T : Type) where
  path : String
  node : Option (Node T)

def Root.at (root : Root T) (name : String) : PathNode T where
  path := root.path ++ "/" ++ name
  node := root.directory.bind (·.entries.lookup name)

section
variable {T : Type}

def regularFile (file : PathNode T) (label : String) : Except Error T :=
  match file.node with
  | none => .error (.benchmarkError s!"{label} is unavailable: {file.path}")
  | some (.file text) => .ok text
  | some _ => .error (.benchmarkError s!"{label} must be a regular non-symlink file")

/-- `_load_model_list`, with the model's reader. -/
def loadModelList [ScoringMath] [UnicodeText] [BenchmarkText T] (file : PathNode T)
    (parse : T → Option α) (label : String) : Except Error α := do
  let text ← regularFile file label
  need (parse text) (.benchmarkError s!"invalid {label}: {BenchmarkText.invalid text}")

def validateDistinctRoots (visibleRoot answerRoot : Root T) : Except Error Unit := do
  let visible ← need visibleRoot.resolved (.benchmarkError "benchmark roots must exist")
  let answers ← need answerRoot.resolved (.benchmarkError "benchmark roots must exist")
  raiseIf (visibleRoot.symlink = true ∨ answerRoot.symlink = true)
    (.benchmarkError "benchmark roots must not be symlinks")
  raiseIf (visibleRoot.directory.isNone = true ∨ answerRoot.directory.isNone = true)
    (.benchmarkError "benchmark roots must be directories")
  raiseIf (visible <+: answers ∨ answers <+: visible)
    (.benchmarkError "visible and hidden roots must be separate and non-nested")

def validateCaseIds (caseIds : List String) (label : String) : Except Error Unit := do
  raiseIf (caseIds = []) (.benchmarkError s!"{label} must not be empty")
  raiseIf (¬ caseIds.Nodup) (.benchmarkError s!"{label} case IDs must be unique")

end

-- ---------------------------------------------------------------------------
-- Labels
-- ---------------------------------------------------------------------------

section
variable [CaseText]

/-- The words that a text is compared by. -/
def normalWords (value : String) : List (List Char) :=
  Words.words isLowerAlnum (casefold value).toList

def normaliseLabel (value : String) : List Char := Words.joined (normalWords value)

/-- The fields of a case that name something. -/
def VisibleCase.identifiers (c : VisibleCase) : List String :=
  [c.caseId, c.family] ++ c.evidenceIds ++ c.allowedTools

def HiddenAnswerKey.labels (a : HiddenAnswerKey) : List String :=
  a.rootCauseId :: a.acceptableAlternates

/-- The case gives the label away. -/
def disclosed (case : VisibleCase) (hiddenLabel : String) : Prop :=
  let normalised := normaliseLabel hiddenLabel
  normalised ≠ [] ∧ (normalised ∈ case.identifiers.map normaliseLabel ∨
    Words.found normalised true (normaliseLabel case.incidentInput) = true)

instance (case : VisibleCase) (hiddenLabel : String) : Decidable (disclosed case hiddenLabel) := by
  unfold disclosed; infer_instance

/-- `_validate_hidden_label_isolation`, of cases and answers that correspond. -/
def validateHiddenLabelIsolation (visible : List VisibleCase) (answers : List HiddenAnswerKey) :
    Except Error Unit :=
  loop (fun _ (pair : VisibleCase × HiddenAnswerKey) =>
      loop (fun _ hiddenLabel =>
          raiseIf (disclosed pair.1 hiddenLabel) (.benchmarkError
            s!"visible case directly discloses hidden answer label: {pair.1.caseId}"))
        () pair.2.labels)
    () (visible.zip answers)

variable [ScoringMath] [UnicodeText]

/-- What `load_benchmark` returns. -/
structure Benchmark where
  visible : List VisibleCase
  answers : List HiddenAnswerKey
  visibleHash : String
  answerHash : String
  deriving DecidableEq, Repr

def loadBenchmark [Hashing] [CanonicalJson] {T : Type} [BenchmarkText T]
    (visibleDir answersDir : Root T) : Except Error Benchmark := do
  validateDistinctRoots visibleDir answersDir
  let visible : List VisibleCase ←
    loadModelList (visibleDir.at "cases.json") TextCodec.load "visible cases"
  let answers : List HiddenAnswerKey ←
    loadModelList (answersDir.at "answer-keys.json") TextCodec.load "answer keys"
  let visibleIds := visible.map VisibleCase.caseId
  let answerIds := answers.map HiddenAnswerKey.caseId
  validateCaseIds visibleIds "visible benchmark"
  validateCaseIds answerIds "answer keys"
  raiseIf (answerIds ≠ visibleIds)
    (.benchmarkError "answer keys must exactly match visible case IDs and order")
  validateHiddenLabelIsolation visible answers
  pure { visible
         answers
         visibleHash := digestModels (visible.map VisibleCase.modelDump)
         answerHash := digestModels (answers.map HiddenAnswerKey.modelDump) }

omit [CaseText] in
def loadPredictions {T : Type} [BenchmarkText T] (file : PathNode T) :
    Except Error (List Prediction) := do
  let predictions : List Prediction ←
    loadModelList file (OrderedCodec.load (List.map Prediction.inOrder)) "predictions"
  validateCaseIds (predictions.map Prediction.caseId) "predictions"
  pure predictions

-- ---------------------------------------------------------------------------
-- Ablations
-- ---------------------------------------------------------------------------

/-- The terms that an ablation takes out of a case. -/
def removedTerms (config : AblationConfig) : List String :=
  (if config.removeLineage then ["lineage"] else []) ++
  (if config.removeHistory then ["history", "historical"] else []) ++
  (if config.removeContradictions then
    ["contradiction", "contradictory", "contradicts", "contradict"] else [])

omit [CaseText] [ScoringMath] in
def keepValue (config : AblationConfig) (value : String) : Bool :=
  !(removedTerms config).any fun term => contains (lower value) term

def redactedMark : List Char := "[REDACTED]".toList

/-- The longest terms go first; among terms of one length the order stays. -/
def termsByLength (config : AblationConfig) : List String :=
  (removedTerms config).insertionSort fun s t => t.length ≤ s.length

/-- `redact` in `resolve_ablation` -/
def redactTerms (config : AblationConfig) (value : String) : String :=
  String.ofList ((termsByLength config).foldl
    (fun text term => Replace.sub sameLetter redactedMark term.toList 0 text) value.toList)

def resolveAblation (cases : List VisibleCase) (config : AblationConfig) : List VisibleCase :=
  cases.map fun case => { case with
    incidentInput := redactTerms config case.incidentInput
    evidenceIds := case.evidenceIds.filter (keepValue config)
    allowedTools := case.allowedTools.filter (keepValue config) }

/-- `prediction.probabilities[item]` -/
def Prediction.probability (p : Prediction) (item : String) : Except Error Rat :=
  need (p.probabilities.lookup item) (.keyError item)

omit [CaseText] [UnicodeText] in
def resolvePrediction (abstentionEnabled : Bool) (maxHypotheses : Nat) (p : Prediction) :
    Except Error Prediction := do
  let ranked := p.rankedHypotheses.take maxHypotheses
  let masses ← ranked.mapM p.probability
  let probabilityMass := fsum masses
  raiseIf (probabilityMass ≤ 0)
    (.benchmarkError "ablation removed all positive probability mass")
  let resolved := { p with
    rankedHypotheses := ranked
    probabilities := ranked.zip (masses.map fun mass => FloatMath.div mass probabilityMass)
    abstained := if abstentionEnabled then p.abstained else false }
  raiseIf (¬ resolved.Valid) .validationError
  pure resolved

omit [CaseText] [UnicodeText] in
def resolvePredictionAblation (predictions : List Prediction) (abstentionEnabled : Bool)
    (maxHypotheses : Nat) : Except Error (List Prediction) :=
  predictions.mapM (resolvePrediction abstentionEnabled maxHypotheses)

end

end Paic.Evaluation
