import Paic.Investigation.Orchestrator
import Paic.Remediation.ArtifactLaws

/-!
# Artifacts of an investigation

`exportInvestigation` writes the four payloads, a manifest and a marker;
`validateInvestigation` loads them again and compares everything they say.
`replayGovernedToolTrace` calls the gateway again, once for every entry of the
trace. The publisher and the leases around them are not modelled here.
-/

namespace Paic.Investigation

open Checks (raiseIf need)
open Remediation (Directory Node isFlatName sameNames reasonIf)
open Tools (Arguments JsonText UnicodeText Uuids Pydantic SourceHashes ToolRequest ToolResponse
  BoundSources AuditLedger Tooling authorize sortedSet)

-- ---------------------------------------------------------------------------
-- The manifest
-- ---------------------------------------------------------------------------

structure InvestigationFileManifest where
  relativePath : String
  byteSize : Nat
  sha256 : String
  deriving DecidableEq, Repr

/-- A path without backslashes that is relative and never goes up. -/
def staysInside (path : String) : Bool :=
  !path.toList.contains '\\' && path.toList.head? != some '/' &&
    !(path.toList.splitOn '/').contains ['.', '.']

@[mk_iff]
structure InvestigationFileManifest.Valid (f : InvestigationFileManifest) : Prop where
  relativePath : 1 ≤ f.relativePath.length ∧ staysInside f.relativePath = true
  sha256 : isSha256 f.sha256 = true

instance (f : InvestigationFileManifest) : Decidable f.Valid :=
  decidable_of_iff' _ (InvestigationFileManifest.valid_iff f)

structure InvestigationManifest where
  investigationId : String
  incidentId : String
  generatorVersion : String
  status : String
  selectedHypothesisId : Option String
  reportSha256 : String
  sourceManifestHashes : SourceHashes
  modelAttemptCount : Nat
  toolCallCount : Nat
  transcriptEventCount : Nat
  files : List InvestigationFileManifest
  deriving DecidableEq, Repr

@[mk_iff]
structure InvestigationManifest.Valid (m : InvestigationManifest) : Prop where
  generatorVersion : Remediation.isVersion m.generatorVersion = true
  reportSha256 : isSha256 m.reportSha256 = true
  sourceManifestHashes : ∀ h ∈ m.sourceManifestHashes, isSha256 h.2 = true
  files : ∀ f ∈ m.files, f.Valid
  uniqueFiles : (m.files.map InvestigationFileManifest.relativePath).Nodup

instance : Model InvestigationManifest where
  Valid := InvestigationManifest.Valid
  decValid m := decidable_of_iff' _ (InvestigationManifest.valid_iff m)

mutual
/-- An object's keys in order, as `sort_keys` writes them, at every level. -/
def inOrder : Json → Bool
  | .arr items => itemsInOrder items
  | .obj fields => fieldsInOrder none fields
  | _ => true

def itemsInOrder : List Json → Bool
  | [] => true
  | j :: rest => inOrder j && itemsInOrder rest

def fieldsInOrder (last : Option String) : List (String × Json) → Bool
  | [] => true
  | (key, j) :: rest => last.all (· < key) && inOrder j && fieldsInOrder (some key) rest
end

/-- The files of an artifact. `pretty` is `json.dumps(value, indent=2,
sort_keys=True) + "\n"`; a transcript has one line of ASCII for every event. -/
class InvestigationText (T : Type) [UnicodeText] [FloatMath] extends FileText T where
  configs : TextCodec T InvestigationConfig
  reports : TextCodec T InvestigationReport
  transcripts : TextCodec T (List TranscriptEvent)
  manifests : TextCodec T InvestigationManifest
  pretty : Json → T
  loads_pretty : ∀ j, inOrder j = true → loads (pretty j) = some j
  loadError : String → String

attribute [reducible, instance] InvestigationText.configs InvestigationText.reports
  InvestigationText.transcripts InvestigationText.manifests

-- ---------------------------------------------------------------------------
-- Exporting
-- ---------------------------------------------------------------------------

/-- `_request_receipt`, with its keys in order -/
def requestReceipt (req : InvestigationRequest) : Json :=
  .obj [("incident_id", .str req.incidentId), ("question", .str req.question),
    ("role", .str "investigator"),
    ("source_presence", .obj [("analytics", .bool req.analyticsDir.isSome),
      ("detection", .bool req.detectionDir.isSome), ("evidence", .bool req.evidenceDir.isSome),
      ("impact", .bool req.impactDir.isSome)])]

section
variable {T : Type} [UnicodeText] [FloatMath] [InvestigationText T]

/-- The payloads of an artifact. -/
def payloads (report : InvestigationReport) (config : InvestigationConfig)
    (req : InvestigationRequest) (transcript : List TranscriptEvent) : List (String × T) :=
  [("investigation.config.resolved.json", TextCodec.dump config),
    ("request.receipt.json", InvestigationText.pretty (requestReceipt req)),
    ("report.json", TextCodec.dump report), ("transcript.jsonl", TextCodec.dump transcript)]

def fileManifest (payload : String × T) : InvestigationFileManifest :=
  { relativePath := payload.1
    byteSize := FileText.size payload.2
    sha256 := FileText.sha256 payload.2 }

def newManifest (report : InvestigationReport) (transcript : List TranscriptEvent)
    (payloads : List (String × T)) : InvestigationManifest :=
  { investigationId := report.investigationId
    incidentId := report.incidentId
    generatorVersion := Remediation.version
    status := report.status.text
    selectedHypothesisId := report.selectedHypothesisId
    reportSha256 := report.reportSha256
    sourceManifestHashes := report.sourceManifestHashes
    modelAttemptCount := report.modelAttempts.length
    toolCallCount := report.toolTrace.length
    transcriptEventCount := transcript.length
    files := (payloads.map fileManifest).insertionSort (·.relativePath ≤ ·.relativePath) }

def artifactDirectory (manifest : InvestigationManifest) (report : InvestigationReport)
    (config : InvestigationConfig) (req : InvestigationRequest)
    (transcript : List TranscriptEvent) : Directory T where
  entries :=
    (payloads report config req transcript).map (fun payload => (payload.1, Node.file payload.2)) ++
      [("manifest.json", .file (TextCodec.dump manifest)),
        ("_SUCCESS", .file (FileText.line (FileText.sha256 (TextCodec.dump manifest : T))))]
  unique := by
    simp only [payloads, List.map_cons, List.map_nil, List.cons_append, List.nil_append]
    decide

/-- `export_investigation`: `_export_investigation_to_root`, of a directory that
is then published. -/
def exportInvestigation (report : InvestigationReport) (config : InvestigationConfig)
    (req : InvestigationRequest) (transcript : List TranscriptEvent) :
    Except String (Directory T) := do
  let manifest := newManifest report transcript
    (payloads report config req transcript : List (String × T))
  raiseIf (¬ Model.Valid manifest) "validation error for InvestigationManifest"
  pure (artifactDirectory manifest report config req transcript)

-- ---------------------------------------------------------------------------
-- Loading
-- ---------------------------------------------------------------------------

/-- `_PAYLOAD_FILES` -/
def payloadFiles : List String :=
  ["investigation.config.resolved.json", "request.receipt.json", "report.json", "transcript.jsonl"]

/-- `_ARTIFACT_FILES` -/
def artifactFiles : List String := payloadFiles ++ ["manifest.json", "_SUCCESS"]

/-- `_closed_world_issues`, of a root that is `none` when it is not a regular
directory. -/
def closedWorldIssues : Option (Directory T) → List String
  | none => ["investigation artifact root is not a regular directory"]
  | some d =>
    reasonIf (¬ sameNames (d.entries.map Prod.fst) artifactFiles)
      "investigation artifact contains missing or undeclared paths" ++
    d.entries.flatMap fun (name, node) =>
      match node with
      | .file _ => []
      | .symlink => [s!"investigation artifact contains symbolic link: {name}"]
      | .directory => [s!"investigation artifact contains nested or non-file path: {name}"]

structure LoadedInvestigation where
  manifest : InvestigationManifest
  config : InvestigationConfig
  report : InvestigationReport
  transcript : List TranscriptEvent
  requestReceipt : Json

/-- A file of the artifact, read by `parse`. -/
def loadFile (d : Directory T) (name : String) (parse : T → Option α) : Except String α :=
  need ((d.read name).bind parse)
    s!"cannot load investigation artifact: {InvestigationText.loadError T name}"

/-- `load_investigation` -/
def loadInvestigation (root : Option (Directory T)) :
    Except String (Directory T × LoadedInvestigation) := do
  let issues := closedWorldIssues root
  raiseIf (issues ≠ []) ("; ".intercalate issues)
  let d ← need root "investigation artifact root is not a regular directory"
  let manifest : InvestigationManifest ← loadFile d "manifest.json" TextCodec.load
  let config : InvestigationConfig ←
    loadFile d "investigation.config.resolved.json" TextCodec.load
  let report : InvestigationReport ← loadFile d "report.json" TextCodec.load
  let requestReceipt ← loadFile d "request.receipt.json" FileText.loads
  let transcript : List TranscriptEvent ← loadFile d "transcript.jsonl" TextCodec.load
  pure (d, { manifest, config, report, transcript, requestReceipt })

-- ---------------------------------------------------------------------------
-- The transcript's semantics
-- ---------------------------------------------------------------------------

section
variable [Hashing] [Pydantic] [Uuids]

/-- `value.get(key)` -/
def getKey (fields : List (String × Json)) (key : String) : Json := (fields.lookup key).getD .null

/-- What the loop of `_transcript_semantic_issues` carries along. -/
structure Semantics where
  issues : List String
  providerRound : Nat
  traceIndex : Nat
  previous : Option TranscriptEvent

/-- The only tool call of a provider's event. -/
def onlyCall (e : TranscriptEvent) : Option (List (String × Json)) :=
  match e.payload.lookup "tool_calls" with
  | some (.arr [.obj call]) => some call
  | _ => none

/-- The comparisons of a tool result with the report's trace. -/
def traceIssues (investigationId : String) (providerRound : Nat) (callId name : String)
    (arguments : Arguments) (trace : ToolTraceEntry) : List String :=
  let tool := gatewayName name
  let decision := authorize "investigator" tool "1.0" arguments
  reasonIf (tool ≠ trace.tool) "provider tool name differs from report trace" ++
  reasonIf (¬ Tools.Equal (.obj decision.normalizedArguments) (.obj trace.arguments))
    "provider tool arguments differ from normalized report trace" ++
  (if trace.executionStatus = .success then
    reasonIf (decision.allowed = false) "successful report trace was not policy-authorized" ++
    reasonIf (trace.errorCode ≠ none) "successful report trace contains an error code"
  else
    reasonIf (trace.errorCode ≠ some (if decision.allowed then "request_rejected" else decision.code))
      "report trace error code differs from governed tool outcome") ++
  reasonIf (callUuid investigationId providerRound callId tool arguments ≠ trace.callId)
    "report trace call ID does not reconstruct from provider event"

/-- A tool result, paired with the call of the provider's event before it. -/
def toolResultStep (investigationId : String) (toolTrace : List ToolTraceEntry)
    (call : List (String × Json)) (s : Semantics) : Semantics :=
  match toolTrace[s.traceIndex]? with
  | none => { s with issues := s.issues ++ ["transcript has more tool results than the report trace"] }
  | some trace =>
    let issues := match getKey call "id", getKey call "name", getKey call "arguments" with
      | .str callId, .str name, .obj arguments =>
        traceIssues investigationId s.providerRound callId name arguments trace
      | _, _, _ => ["provider tool call is malformed"]
    { s with issues := s.issues ++ issues, traceIndex := s.traceIndex + 1 }

/-- An event that a call of the model led to. -/
def pairedStep (investigationId : String) (toolTrace : List ToolTraceEntry) (s : Semantics)
    (e : TranscriptEvent) : Semantics :=
  match s.previous.filter (·.eventType = .providerResponse) with
  | none =>
    { s with issues := s.issues ++ [s!"{e.eventType.text} is not paired with a provider response"] }
  | some previous =>
    match onlyCall previous with
    | none =>
      { s with
        issues := s.issues ++ [s!"{e.eventType.text} requires exactly one provider tool call"] }
    | some call =>
      let s := { s with
        issues := s.issues ++ reasonIf
          (¬ Tools.Equal (getKey e.payload "tool_call_id") (getKey call "id"))
          s!"{e.eventType.text} provider tool-call identity mismatch" }
      if e.eventType = .toolResult then toolResultStep investigationId toolTrace call s
      else { s with
        issues := s.issues ++ reasonIf (getKey call "name" ≠ .str submitTool)
          s!"{e.eventType.text} is not paired with submit_investigation" }

def semanticStep (investigationId : String) (toolTrace : List ToolTraceEntry) (s : Semantics)
    (e : TranscriptEvent) : Semantics :=
  if e.eventType = .providerResponse then
    { s with providerRound := s.providerRound + 1, previous := some e }
  else { pairedStep investigationId toolTrace s e with previous := some e }

/-- `_transcript_semantic_issues` -/
def transcriptSemanticIssues (loaded : LoadedInvestigation) : List String :=
  let s := loaded.transcript.foldl
    (semanticStep loaded.config.investigationId loaded.report.toolTrace) ⟨[], 0, 0, none⟩
  s.issues ++ reasonIf (s.traceIndex ≠ loaded.report.toolTrace.length)
    "report trace has no matching transcript tool result"

-- ---------------------------------------------------------------------------
-- Validation
-- ---------------------------------------------------------------------------

/-- The checks on one file of the manifest. No entry is a symbolic link there,
so that a flat name stays inside the root. -/
def fileIssues (d : Directory T) (item : InvestigationFileManifest) : List String :=
  if isFlatName item.relativePath = false then ["artifact file path is unsafe"]
  else match d.read item.relativePath with
    | none => [s!"missing file: {item.relativePath}"]
    | some text =>
      reasonIf (FileText.size text ≠ item.byteSize ∨ FileText.sha256 text ≠ item.sha256)
        s!"file metadata mismatch: {item.relativePath}"

def manifestIssues (d : Directory T) (manifest : InvestigationManifest) : List String :=
  let declaredPaths := manifest.files.map InvestigationFileManifest.relativePath
  reasonIf (¬ declaredPaths.Nodup) "investigation manifest contains duplicate file paths" ++
  reasonIf (¬ sameNames declaredPaths payloadFiles)
    "investigation manifest file set is incomplete or unexpected" ++
  manifest.files.flatMap (fileIssues d) ++
  reasonIf ((d.read "_SUCCESS").map FileText.strip ≠ (d.read "manifest.json").map FileText.sha256)
    "success marker mismatch"

def reportIssues (report : InvestigationReport) (manifest : InvestigationManifest) : List String :=
  reasonIf (report.reportSha256 ≠ manifest.reportSha256) "report hash differs from manifest" ++
  reasonIf (report.investigationId ≠ manifest.investigationId ∨
      report.incidentId ≠ manifest.incidentId ∨ report.status.text ≠ manifest.status ∨
      report.selectedHypothesisId ≠ manifest.selectedHypothesisId)
    "report identity or status differs from manifest" ++
  reasonIf (report.modelAttempts.length ≠ manifest.modelAttemptCount)
    "model attempt count differs from manifest" ++
  reasonIf (report.toolTrace.length ≠ manifest.toolCallCount)
    "tool call count differs from manifest" ++
  reasonIf (¬ Tools.Equal (SourceHashes.modelDump report.sourceManifestHashes)
      (SourceHashes.modelDump manifest.sourceManifestHashes))
    "report source hashes differ from manifest"

/-- The fields of a request that name directories. -/
def sourceFields : List String :=
  ["dataset_dir", "analytics_dir", "detection_dir", "impact_dir", "evidence_dir", "audit_dir"]

def receiptIssues (receipt : Json) (report : InvestigationReport) : List String :=
  match receipt with
  | .obj fields =>
    if ∃ name ∈ sourceFields, name ∈ fields.map Prod.fst then
      ["request receipt is malformed or contains source paths"]
    else reasonIf (getKey fields "incident_id" ≠ .str report.incidentId ∨
        getKey fields "question" ≠ .str report.question ∨
        getKey fields "role" ≠ .str "investigator")
      "request receipt differs from report"
  | _ => ["request receipt is malformed or contains source paths"]

/-- The loop over the transcript's hashes, up to the first that is wrong. -/
def chainHolds (expected : Nat) (previous : String) : List TranscriptEvent → Bool
  | [] => true
  | e :: rest =>
    if e.sequence ≠ expected ∨ e.previousEventSha256 ≠ previous ∨ e.eventSha256 ≠ digest e.base
    then false
    else chainHolds (expected + 1) e.eventSha256 rest

def transcriptIssues (loaded : LoadedInvestigation) : List String :=
  let traces := (loaded.transcript.filter (·.eventType = .toolResult)).map fun e =>
    getKey e.payload "trace"
  let accepted := loaded.transcript.filter (·.eventType = .proposalAccepted)
  reasonIf (chainHolds 1 zeroHash loaded.transcript = false) "transcript hash chain is invalid" ++
  reasonIf (loaded.transcript.length ≠ loaded.manifest.transcriptEventCount)
    "transcript event count differs from manifest" ++
  reasonIf (¬ Tools.Equal (.arr traces)
      (.arr (loaded.report.toolTrace.map ToolTraceEntry.modelDump)))
    "transcript tool results differ from report trace" ++
  transcriptSemanticIssues loaded ++
  reasonIf (accepted.map (fun e => getKey e.payload "report_sha256") ≠
      [.str loaded.report.reportSha256])
    "transcript does not contain exactly one matching accepted proposal"

/-- The comparison with the sources, when they are given. -/
def sourceIssues (bindSources : SourceDirs → Except Tools.Error BoundSources)
    (sources : Option SourceDirs) (manifest : InvestigationManifest) :
    Except Tools.Error (List String) :=
  match sources with
  | none => .ok []
  | some sources => match bindSources sources with
    | .error (.bindingError message) => .ok [message]
    | .error e => .error e
    | .ok bound => .ok (reasonIf (¬ Tools.Equal (SourceHashes.modelDump bound.hashes)
        (SourceHashes.modelDump manifest.sourceManifestHashes))
      "source manifest hashes do not match investigation")

variable [JsonText] [ProposalModels]

/-- `validate_investigation` -/
def validateInvestigation (bindSources : SourceDirs → Except Tools.Error BoundSources)
    (root : Option (Directory T)) (sources : Option SourceDirs) :
    Except Tools.Error (List String) :=
  let issues := closedWorldIssues root
  if issues ≠ [] then .ok issues
  else match loadInvestigation root with
    | .error message => .ok [message]
    | .ok (d, loaded) =>
      let reconstruction := match verifyReport loaded.report loaded.config.decision with
        | .ok () => []
        | .error message => [message]
      (sourceIssues bindSources sources loaded.manifest).map fun sourceIssues =>
        manifestIssues d loaded.manifest ++ reportIssues loaded.report loaded.manifest ++
          receiptIssues loaded.requestReceipt loaded.report ++ reconstruction ++
          transcriptIssues loaded ++ sourceIssues

-- ---------------------------------------------------------------------------
-- Replay
-- ---------------------------------------------------------------------------

/-- The arguments of the call in a provider's event, when a tool result is next. -/
def argumentsBefore (e next : TranscriptEvent) : List Arguments :=
  if e.eventType = .providerResponse ∧ next.eventType = .toolResult then
    match (onlyCall e).map (getKey · "arguments") with
    | some (.obj arguments) => [arguments]
    | _ => []
  else []

/-- `provider_arguments` -/
def providerArguments : List TranscriptEvent → List Arguments
  | e :: next :: rest => argumentsBefore e next ++ providerArguments (next :: rest)
  | _ => []

inductive ReplayError where
  | artifact (message : String)
  | tools (e : Tools.Error)
  deriving DecidableEq, Repr

/-- What a replayed call is compared by. -/
def comparison (callId : String) (status : Tools.ExecutionStatus) (arguments : Arguments)
    (resultSha256 : String) (refs : List String) (truncated : Bool) (errorCode : Option String) :
    Json :=
  .arr [.str callId, .str status.text, .obj arguments, .str resultSha256, .strs refs,
    .bool truncated, .opt .str errorCode]

/-- The request of a replayed call. -/
def replayRequest (report : InvestigationReport) (sources : SourceDirs)
    (arguments : Arguments) (trace : ToolTraceEntry) (callId : String) : ToolRequest :=
  { tool := trace.tool
    toolVersion := Tools.toolsVersion
    incidentId := report.incidentId
    role := .investigator
    arguments
    datasetDir := sources.dataset
    analyticsDir := sources.analytics
    detectionDir := sources.detection
    impactDir := sources.impact
    evidenceDir := sources.evidence
    auditDir := none
    callId := some callId }

/-- The replay of one entry of the trace. The state has the evidence that was
observed and that of the gateway. -/
def replayStep (invoke : ToolRequest → σ → Except Tools.Error ToolResponse × σ)
    (loaded : LoadedInvestigation) (sources : SourceDirs) (arguments : List Arguments)
    (s : List String × σ) (entry : ToolTraceEntry × Nat) :
    Except ReplayError (List String × σ) := do
  let (trace, expectedSequence) := entry
  raiseIf (trace.sequence ≠ expectedSequence)
    (.artifact "investigation tool trace sequence is invalid")
  raiseIf (trace.tool ∉ loaded.config.allowedTools)
    (.artifact "investigation trace uses a tool outside resolved policy")
  let callId ← need (Uuids.parse trace.callId)
    (.artifact s!"invalid governed tool call ID at trace sequence {trace.sequence}")
  let request := replayRequest loaded.report sources
    ((arguments[expectedSequence - 1]?).getD trace.arguments) trace callId
  raiseIf (¬ request.Valid) (.tools (.valueError "validation error for ToolRequest"))
  let (answer, world) := invoke request s.2
  let replayed ← Checks.reraise answer .tools
  raiseIf (¬ Tools.Equal
      (comparison replayed.callId replayed.executionStatus replayed.normalizedArguments
        replayed.resultSha256 replayed.evidenceRecordIds replayed.truncated
        (replayed.error.map Tools.ToolError.code))
      (comparison trace.callId trace.executionStatus trace.arguments trace.resultSha256
        trace.evidenceRecordIds trace.truncated trace.errorCode))
    (.artifact s!"governed tool semantic replay mismatch at trace sequence {trace.sequence}")
  raiseIf (replayed.executionStatus = .success ∧
      ¬ Tools.Equal (SourceHashes.modelDump replayed.sourceManifestHashes)
        (SourceHashes.modelDump loaded.report.sourceManifestHashes))
    (.artifact s!"governed tool source binding mismatch at trace sequence {trace.sequence}")
  pure (s.1 ++ observedIn replayed, world)

/-- `_replay_governed_tool_trace` -/
def replayGovernedToolTrace (invoke : ToolRequest → σ → Except Tools.Error ToolResponse × σ)
    (loaded : LoadedInvestigation) (sources : SourceDirs) (world : σ) :
    Except ReplayError Unit := do
  let (observed, _) ← Checks.loop
    (replayStep invoke loaded sources (providerArguments loaded.transcript)) ([], world)
    (loaded.report.toolTrace.zipIdx 1)
  raiseIf (sortedSet observed ≠ loaded.report.observedEvidenceRecordIds)
    (.artifact "observed evidence does not equal successful governed tool output")

/-- The default `Gateway`, whose sources and tools may change with every call:
`tooling` is what they are for a byte limit and a number of earlier calls. -/
def gateway (tooling : Nat → Nat → Tooling) (byteLimit : Nat) (req : ToolRequest)
    (world : Nat × AuditLedger) : Except Tools.Error ToolResponse × (Nat × AuditLedger) :=
  let (answer, ledger) := Tools.invoke (tooling byteLimit world.1) world.2 req
  (answer, world.1 + 1, ledger)

end

end

end Paic.Investigation
