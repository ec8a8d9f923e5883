import Paic.Remediation.Executor
import Mathlib

/-!
# Artifacts of governed remediation

An artifact is a flat directory: payload files, a manifest with the size and
hash of each, and a marker with the hash of the manifest. Loading one checks
its layout, its manifest and the payload against each other; exporting one
writes it and loads it back before it is published. Leases and the publisher's
staging protect a directory while it is read or written and decide nothing
about its content; they are not modelled.
-/

namespace Paic.Remediation

open Checks (raiseIf need loop)

-- ---------------------------------------------------------------------------
-- Directories
-- ---------------------------------------------------------------------------

inductive Node (T : Type) where
  | file (text : T)
  | symlink
  | directory
  deriving DecidableEq, Repr

structure Directory (T : Type) where
  entries : List (String × Node T)
  unique : (entries.map Prod.fst).Nodup

/-- The text of a regular file. -/
def Directory.read (d : Directory T) (name : String) : Option T :=
  match d.entries.lookup name with
  | some (.file text) => some text
  | _ => none

-- ---------------------------------------------------------------------------
-- Manifests
-- ---------------------------------------------------------------------------

structure ArtifactFileManifest where
  relativePath : String
  byteSize : Nat
  sha256 : String
  deriving DecidableEq, Repr

/-- A name without directories: what `Path(value).name == value` and the
separators' check leave. -/
def isFlatName (name : String) : Bool :=
  name.toList.all (fun c => c != '/' && c != '\\') && name != "" && name != "." && name != ".."

@[mk_iff]
structure ArtifactFileManifest.Valid (f : ArtifactFileManifest) : Prop where
  relativePath : isFlatName f.relativePath = true
  sha256 : isSha256 f.sha256 = true

instance (f : ArtifactFileManifest) : Decidable f.Valid :=
  decidable_of_iff' _ (ArtifactFileManifest.valid_iff f)

inductive ArtifactType where
  | controlState | remediationPlan | executionReceipt
  deriving DecidableEq, Repr

structure RemediationArtifactManifest where
  artifactType : ArtifactType
  artifactId : String
  incidentId : String
  generatorVersion : String
  status : String
  payloadSha256 : String
  bindings : List (String × String)
  files : List ArtifactFileManifest
  deriving DecidableEq, Repr

/-- `^\d+\.\d+\.\d+$` -/
def isVersion (s : String) : Bool :=
  let parts := s.toList.splitOn '.'
  parts.length == 3 && parts.all fun ds => ds != [] && ds.all fun c => (decimal c).isSome

/-- `__version__` -/
def version : String := "0.12.0"

@[mk_iff]
structure RemediationArtifactManifest.Valid (m : RemediationArtifactManifest) : Prop where
  artifactId : textIn m.artifactId 1 200
  incidentId : textIn m.incidentId 1 200
  generatorVersion : isVersion m.generatorVersion = true
  status : textIn m.status 1 100
  payloadSha256 : isSha256 m.payloadSha256 = true
  bindings : ∀ b ∈ m.bindings, isSha256 b.2 = true
  files : ∀ f ∈ m.files, f.Valid
  uniqueFiles : (m.files.map ArtifactFileManifest.relativePath).Nodup

instance : Model RemediationArtifactManifest where
  Valid := RemediationArtifactManifest.Valid
  decValid m := decidable_of_iff' _ (RemediationArtifactManifest.valid_iff m)

/-- A configuration carries its validation. -/
instance : Model RemediationConfig where
  Valid _ := True
  decValid _ := isTrue trivial

/-- File contents that hold every model an artifact or a store writes. -/
class RemediationText (T : Type) where
  [files : FileText T]
  [manifests : TextCodec T RemediationArtifactManifest]
  [states : TextCodec T ControlState]
  [receipts : TextCodec T ExecutionReceipt]
  [configs : TextCodec T RemediationConfig]
  [proposals : TextCodec T RemediationProposal]
  [plans : TextCodec T RemediationPlan]
  [records : TextCodec T ApprovalLedgerRecord]

attribute [reducible, instance] RemediationText.files RemediationText.manifests RemediationText.states
  RemediationText.receipts RemediationText.configs RemediationText.proposals
  RemediationText.plans RemediationText.records

-- ---------------------------------------------------------------------------
-- Loading
-- ---------------------------------------------------------------------------

/-- Equality of sets of names. -/
def sameNames (a b : List String) : Prop := a ⊆ b ∧ b ⊆ a

instance (a b : List String) : Decidable (sameNames a b) := by unfold sameNames; infer_instance

/-- `_layout_issues` of a regular directory -/
def layoutIssues (d : Directory T) (expected : List String) : List String :=
  reasonIf (¬ sameNames (d.entries.map Prod.fst) expected)
    "artifact contains missing or undeclared paths" ++
  d.entries.flatMap fun (name, node) =>
    match node with
    | .file _ => []
    | .symlink => [s!"artifact contains symbolic link: {name}"]
    | .directory => [s!"artifact contains nested or non-file path: {name}"]

section
variable {T : Type} [RemediationText T]

/-- The checks of `_load_manifest` on one declared file. No entry is a
symbolic link there, so that a flat name stays inside the root. -/
def checkFile (d : Directory T) (item : ArtifactFileManifest) : Except Error Unit := do
  raiseIf (isFlatName item.relativePath = false) (.artifactError "artifact file path is unsafe")
  let text ← need (d.read item.relativePath)
    (.artifactError s!"missing regular file: {item.relativePath}")
  raiseIf (FileText.size text ≠ item.byteSize ∨ FileText.sha256 text ≠ item.sha256)
    (.artifactError s!"file metadata mismatch: {item.relativePath}")

/-- A model read from a file, with the text of the error around it. -/
def readModel [Model α] [TextCodec T α] (d : Directory T) (name message : String) :
    Except Error α :=
  need ((d.read name).bind TextCodec.load)
    (.artifactError s!"{message}: {Error.valueError.message}")

/-- `manifest_sha256` -/
def manifestSha256 (root : Option (Directory T)) : Except Error String :=
  need ((root.bind (·.read "manifest.json")).map FileText.sha256) .osError

/-- The manifest entry of a written payload. -/
def payloadFile (payload : String × T) : ArtifactFileManifest :=
  { relativePath := payload.1
    byteSize := FileText.size payload.2
    sha256 := FileText.sha256 payload.2 }

/-- The directory with the payloads, the manifest and the marker. -/
def payloadDirectory (manifest : RemediationArtifactManifest) (payloads : List (String × T))
    (h : (payloads.map Prod.fst ++ ["manifest.json", "_SUCCESS"]).Nodup) : Directory T where
  entries :=
    payloads.map (fun payload => (payload.1, .file payload.2)) ++
      [("manifest.json", .file (TextCodec.dump manifest)),
        ("_SUCCESS", .file (FileText.line (FileText.sha256 (TextCodec.dump manifest : T))))]
  unique := by simpa [Function.comp_def] using h

/-- The manifest of `_write_manifest`, with the bindings already in order. -/
def newManifest (artifactType : ArtifactType)
    (artifactId incidentId status payloadSha256 : String) (bindings : List (String × String))
    (payloads : List (String × T)) : RemediationArtifactManifest :=
  { artifactType
    artifactId
    incidentId
    generatorVersion := version
    status
    payloadSha256
    bindings
    files := (payloads.map payloadFile).insertionSort (·.relativePath ≤ ·.relativePath) }

/-- `_write_manifest` -/
def writeManifest (artifactType : ArtifactType)
    (artifactId incidentId status payloadSha256 : String) (bindings : List (String × String))
    (payloads : List (String × T))
    (h : (payloads.map Prod.fst ++ ["manifest.json", "_SUCCESS"]).Nodup) :
    Except Error (Directory T) := do
  let manifest ← modelValidate
    (newManifest artifactType artifactId incidentId status payloadSha256 bindings payloads)
  pure (payloadDirectory manifest payloads h)

/-- `_load_manifest`, for a root that is `none` when it is not a regular
directory. -/
def loadManifest (root : Option (Directory T)) (expectedFiles : List String) :
    Except Error (Directory T × RemediationArtifactManifest) := do
  let d ← need root (.artifactError "artifact root is not a regular directory")
  let issues := layoutIssues d (expectedFiles ++ ["manifest.json", "_SUCCESS"])
  raiseIf (issues ≠ []) (.artifactError ("; ".intercalate issues))
  let manifest : RemediationArtifactManifest ←
    readModel d "manifest.json" "cannot load artifact manifest"
  let declared := manifest.files.map ArtifactFileManifest.relativePath
  raiseIf (¬ declared.Nodup ∨ ¬ sameNames declared expectedFiles)
    (.artifactError "artifact manifest file set is invalid")
  loop (fun _ item => checkFile d item) () manifest.files
  let sha ← manifestSha256 root
  let marker ← need (d.read "_SUCCESS") .osError
  raiseIf (FileText.strip marker ≠ sha) (.artifactError "success marker mismatch")
  pure (d, manifest)

structure LoadedControlState where
  manifest : RemediationArtifactManifest
  state : ControlState

structure LoadedPlan where
  manifest : RemediationArtifactManifest
  config : RemediationConfig
  proposal : RemediationProposal
  plan : RemediationPlan

structure LoadedExecution where
  manifest : RemediationArtifactManifest
  receipt : ExecutionReceipt

variable [Hashing]

/-- `load_control_state` -/
def loadControlState (root : Option (Directory T)) : Except Error LoadedControlState := do
  let (d, manifest) ← loadManifest root ["state.json"]
  raiseIf (manifest.artifactType ≠ .controlState)
    (.artifactError "artifact is not a control-state export")
  let state : ControlState ← readModel d "state.json" "cannot load control state"
  raiseIf (manifest.payloadSha256 ≠ digest state.modelDump)
    (.artifactError "control-state payload hash mismatch")
  raiseIf (manifest.artifactId ≠ state.stateId ∨ manifest.incidentId ≠ state.incidentId)
    (.artifactError "control-state identity differs from manifest")
  raiseIf (manifest.status ≠ "ready" ∨ manifest.bindings ≠ [])
    (.artifactError "control-state status or bindings differ from manifest")
  pure ⟨manifest, state⟩

/-- The bindings of an execution artifact. -/
def executionBindings (receipt : ExecutionReceipt) : List (String × String) :=
  [("after_state_payload", receipt.afterStatePayloadSha256),
    ("approval_snapshot", receipt.approvalSnapshotSha256),
    ("before_state_manifest", receipt.beforeStateManifestSha256), ("plan", receipt.planSha256)]

/-- `load_execution`. Bindings are dictionaries: their order does not count. -/
def loadExecution (root : Option (Directory T)) : Except Error LoadedExecution := do
  let (d, manifest) ← loadManifest root ["receipt.json"]
  raiseIf (manifest.artifactType ≠ .executionReceipt)
    (.artifactError "artifact is not an execution export")
  let receipt : ExecutionReceipt ← readModel d "receipt.json" "cannot load execution receipt"
  raiseIf (digest (.obj receipt.unsigned) ≠ receipt.receiptSha256)
    (.artifactError "execution receipt hash is invalid")
  raiseIf (manifest.payloadSha256 ≠ digest receipt.modelDump)
    (.artifactError "execution payload hash mismatch")
  raiseIf (manifest.artifactId ≠ receipt.executionId ∨ manifest.incidentId ≠ receipt.incidentId)
    (.artifactError "execution identity differs from manifest")
  raiseIf (manifest.status ≠ "executed")
    (.artifactError "execution status differs from manifest")
  raiseIf (¬ manifest.bindings.Perm (executionBindings receipt))
    (.artifactError "execution bindings differ from manifest")
  pure ⟨manifest, receipt⟩

/-- The bindings of a plan artifact. -/
def planBindings (plan : RemediationPlan) : List (String × String) :=
  [("control_state_manifest", plan.controlStateManifestSha256),
    ("investigation_manifest", plan.investigationManifestSha256),
    ("investigation_report", plan.investigationReportSha256)]

/-- `load_plan` -/
def loadPlan (root : Option (Directory T)) : Except Error LoadedPlan := do
  let (d, manifest) ← loadManifest root
    ["remediation.config.resolved.json", "proposal.json", "plan.json"]
  raiseIf (manifest.artifactType ≠ .remediationPlan)
    (.artifactError "artifact is not a remediation-plan export")
  let config : RemediationConfig ←
    readModel d "remediation.config.resolved.json" "cannot load remediation plan"
  let proposal : RemediationProposal ← readModel d "proposal.json" "cannot load remediation plan"
  let plan : RemediationPlan ← readModel d "plan.json" "cannot load remediation plan"
  Checks.reraise (verifyPlan plan) fun e => .artifactError e.message
  raiseIf (manifest.payloadSha256 ≠ digest plan.modelDump)
    (.artifactError "remediation-plan payload hash mismatch")
  raiseIf (manifest.artifactId ≠ plan.remediationId ∨ manifest.incidentId ≠ plan.incidentId)
    (.artifactError "remediation-plan identity differs from manifest")
  raiseIf (manifest.status ≠ plan.status.text)
    (.artifactError "remediation-plan status differs from manifest")
  raiseIf (plan.proposalSha256 ≠ digest proposal.modelDump)
    (.artifactError "proposal hash differs from remediation plan")
  raiseIf (¬ manifest.bindings.Perm (planBindings plan))
    (.artifactError "remediation-plan bindings differ from manifest")
  pure ⟨manifest, config, proposal, plan⟩

-- ---------------------------------------------------------------------------
-- Exporting
-- ---------------------------------------------------------------------------

/-- `export_control_state`: the directory is loaded back before it is
published. -/
def exportControlState (state : ControlState) : Except Error (Directory T) := do
  let d ← writeManifest .controlState state.stateId state.incidentId "ready"
    (digest state.modelDump) [] [("state.json", TextCodec.dump state)] (by simp)
  let _ ← loadControlState (some d)
  pure d

def exportPlan (config : RemediationConfig) (proposal : RemediationProposal)
    (plan : RemediationPlan) : Except Error (Directory T) := do
  let d ← writeManifest .remediationPlan plan.remediationId plan.incidentId plan.status.text
    (digest plan.modelDump) (planBindings plan)
    [("remediation.config.resolved.json", TextCodec.dump config),
      ("proposal.json", TextCodec.dump proposal), ("plan.json", TextCodec.dump plan)] (by simp)
  let _ ← loadPlan (some d)
  pure d

def exportExecution (receipt : ExecutionReceipt) : Except Error (Directory T) := do
  let d ← writeManifest .executionReceipt receipt.executionId receipt.incidentId "executed"
    (digest receipt.modelDump) (executionBindings receipt)
    [("receipt.json", TextCodec.dump receipt)] (by simp)
  let _ ← loadExecution (some d)
  pure d

-- ---------------------------------------------------------------------------
-- Validating an execution
-- ---------------------------------------------------------------------------

/-- One of the optional artifacts of `validate_execution`: what was loaded,
and its issues. Other exceptions than `RemediationArtifactError` leave it. -/
def boundArtifact (dir : Option (Option (Directory T)))
    (load : Option (Directory T) → Except Error α) (message : String)
    (issues : Option (Directory T) → α → Except Error (List String)) :
    Except Error (Option α × List String) :=
  match dir with
  | none => .ok (none, [])
  | some root =>
    match load root with
    | .ok a => (issues root a).map fun found => (some a, found)
    | .error (.artifactError text) => .ok (none, [s!"{message}: {text}"])
    | .error e => .error e

/-- The last part of `validate_execution`, once all three are loaded. Only an
`ExecutionError` becomes an issue. -/
def transitionIssues (plan : Option LoadedPlan) (before after : Option LoadedControlState)
    (receipt : ExecutionReceipt) : Except Error (List String) :=
  match plan, before, after with
  | some p, some b, some a =>
    match verifyExecutionTransition p.plan b.state a.state receipt with
    | .ok () => .ok []
    | .error (.executionError text) => .ok [text]
    | .error e => .error e
  | _, _, _ => .ok []

/-- `validate_execution`, with the artifacts that are given. -/
def validateExecution (path : Option (Directory T))
    (planDir beforeStateDir afterStateDir : Option (Option (Directory T))) :
    Except Error (List String) :=
  match loadExecution path with
  | .error (.artifactError text) => .ok [text]
  | .error e => .error e
  | .ok loaded => do
    let receipt := loaded.receipt
    let (plan, planIssues) ← boundArtifact planDir loadPlan "cannot validate bound plan"
      fun _ bound => .ok (reasonIf (receipt.planSha256 ≠ bound.plan.planSha256)
        "execution receipt plan hash differs from the bound plan")
    let (before, beforeIssues) ← boundArtifact beforeStateDir loadControlState
      "cannot validate before state"
      fun root _ => (manifestSha256 root).map fun sha =>
        reasonIf (sha ≠ receipt.beforeStateManifestSha256)
          "before-state manifest hash differs from the execution receipt"
    let (after, afterIssues) ← boundArtifact afterStateDir loadControlState
      "cannot validate after state"
      fun _ bound => .ok (reasonIf
        (digest bound.state.modelDump ≠ receipt.afterStatePayloadSha256)
        "after-state payload hash differs from the execution receipt")
    let found ← transitionIssues plan before after receipt
    pure (planIssues ++ beforeIssues ++ afterIssues ++ found)

end

end Paic.Remediation
