import Paic.Investigation.Probability
import Paic.Investigation.Prompts

/-!
# Bounded tool-using investigation

`ModelRouter.complete` tries the model routes in order, and `Investigator.run`
goes round after round: it asks a model, and answers its tool call. The
provider and the gateway are state machines that nothing is known about. What
they answered is kept beside what the code keeps.
-/

namespace Paic.Investigation

open Tools (JsonText UnicodeText Uuids SourceHashes ToolRequest ToolResponse BoundSources uuid5)

-- ---------------------------------------------------------------------------
-- What a run depends on
-- ---------------------------------------------------------------------------

/-- The arguments of `bind_sources`. -/
structure SourceDirs where
  dataset : String
  analytics : Option String
  detection : Option String
  impact : Option String
  evidence : Option String
  deriving DecidableEq, Repr

def InvestigationRequest.sources (req : InvestigationRequest) : SourceDirs :=
  ⟨req.datasetDir, req.analyticsDir, req.detectionDir, req.impactDir, req.evidenceDir⟩

/-- The sources, the providers of the routes, and the gateway. -/
structure Environment (σ : Type) where
  bindSources : SourceDirs → Except Tools.Error BoundSources
  complete : ModelRoute → List ChatMessage → List Json → σ →
    Except ProviderError ProviderResponse × σ
  invoke : ToolRequest → σ → Except Tools.Error ToolResponse × σ

structure ModelRouter where
  attempts : List ModelAttempt
  failures : Nat
  preferredRouteIndex : Nat

/-- `ModelRouter(config)` -/
def newRouter : ModelRouter := ⟨[], 0, 0⟩

/-- The variables of a run, with every completion and every invocation that
was made. -/
structure State (σ : Type) where
  world : σ
  router : ModelRouter
  completions : List (Except ProviderError ProviderResponse)
  invocations : List (ToolRequest × Except Tools.Error ToolResponse)
  messages : List ChatMessage
  events : List TranscriptEvent
  trace : List ToolTraceEntry
  observedEvidence : List String
  toolCalls : Nat
  totalTokens : Nat

-- ---------------------------------------------------------------------------
-- The router
-- ---------------------------------------------------------------------------

/-- The routes with their indices, from the preferred one on. -/
def ModelRouter.ordered (router : ModelRouter) (routes : List ModelRoute) :
    List (ModelRoute × Nat) :=
  routes.zipIdx.drop router.preferredRouteIndex ++ routes.zipIdx.take router.preferredRouteIndex

def failedAttempt (route : ModelRoute) (e : ProviderError) : ModelAttempt :=
  { model := route.model
    status := if e.retryable then .retryableError else .fatalError
    errorCode := some e.code }

def successfulAttempt (route : ModelRoute) (response : ProviderResponse) : ModelAttempt :=
  { model := route.model
    status := .success
    promptTokens := response.usage.promptTokens
    completionTokens := response.usage.completionTokens }

namespace State

def failed (s : State σ) (route : ModelRoute) (e : ProviderError) (world : σ) : State σ :=
  { s with
    world
    completions := s.completions ++ [.error e]
    router := { s.router with
      failures := s.router.failures + 1
      attempts := s.router.attempts ++ [failedAttempt route e] } }

def completed (s : State σ) (route : ModelRoute) (index : Nat) (response : ProviderResponse)
    (world : σ) : State σ :=
  { s with
    world
    completions := s.completions ++ [.ok response]
    router := { s.router with
      preferredRouteIndex := index
      attempts := s.router.attempts ++ [successfulAttempt route response] } }

end State

/-- The loop of `ModelRouter.complete`. -/
def tryRoutes (env : Environment σ) (config : InvestigationConfig) (tools : List Json) :
    List (ModelRoute × Nat) → Option ProviderError → State σ →
      Except ProviderError ProviderResponse × State σ
  | [], some e, s => (.error e, s)
  | [], none, s => (.error ⟨"no_models", "no model route is configured", false⟩, s)
  | (route, index) :: rest, _, s =>
    match env.complete route s.messages tools s.world with
    | (.ok response, world) => (.ok response, s.completed route index response world)
    | (.error e, world) =>
      let s := s.failed route e world
      if config.budget.maxProviderFailures < s.router.failures then (.error e, s)
      else if e.retryable then tryRoutes env config tools rest (some e) s
      else (.error e, s)

/-- `ModelRouter.complete` -/
def complete (env : Environment σ) (config : InvestigationConfig) (tools : List Json)
    (s : State σ) : Except ProviderError ProviderResponse × State σ :=
  tryRoutes env config tools (s.router.ordered config.models) none s

-- ---------------------------------------------------------------------------
-- Events and messages
-- ---------------------------------------------------------------------------

section
variable [Hashing]

/-- `_event` -/
def newEvent (events : List TranscriptEvent) (eventType : EventType)
    (payload : List (String × Json)) : TranscriptEvent :=
  let unsigned : TranscriptEvent :=
    { sequence := events.length + 1
      eventType
      payload
      previousEventSha256 := (events.getLast?.map TranscriptEvent.eventSha256).getD zeroHash
      eventSha256 := "" }
  { unsigned with eventSha256 := digest unsigned.base }

def recordEvent (events : List TranscriptEvent) (eventType : EventType)
    (payload : List (String × Json)) : List TranscriptEvent :=
  events ++ [newEvent events eventType payload]

/-- `_provider_event_payload` -/
def providerEventPayload (response : ProviderResponse) : List (String × Json) :=
  let content := response.content.getD ""
  [("model", .str response.model), ("finish_reason", .opt .str response.finishReason),
    ("usage", response.usage.modelDump),
    ("tool_calls", .arr (response.toolCalls.map ProviderToolCall.modelDump)),
    ("content_present", .bool response.content.isSome),
    ("content_byte_count", .int content.utf8ByteSize), ("content_sha256", .str (sha256 content))]

def assistantCall (call : ProviderToolCall) : Json :=
  .obj [("id", .str call.callId), ("type", .str "function"),
    ("function", .obj [("name", .str call.name), ("arguments", .str (canonical (.obj call.arguments)))])]

def assistantMessage (response : ProviderResponse) : ChatMessage :=
  { role := .assistant
    content := response.content
    toolCalls := if response.toolCalls = [] then none
      else some (response.toolCalls.map assistantCall) }

/-- The message that answers a tool call. -/
def toolMessage (call : ProviderToolCall) (name : String) (content : Json) : ChatMessage :=
  { role := .tool
    name := some name
    toolCallId := some call.callId
    content := some (canonical content) }

def noCallMessage : ChatMessage :=
  { role := .user
    content := some
      "Use the available tools or call submit_investigation with the required schema." }

def parallelCallMessage (call : ProviderToolCall) : ChatMessage :=
  toolMessage call call.name
    (.obj [("success", .bool false), ("error", .str "parallel tool calls are not allowed"),
      ("instruction", .str "Make exactly one tool call next.")])

def rejectionMessage (call : ProviderToolCall) (error : String) : ChatMessage :=
  toolMessage call submitTool
    (.obj [("accepted", .bool false), ("error", .str error),
      ("instruction", .str "Repair the proposal using only observed evidence IDs.")])

def disallowedMessage (call : ProviderToolCall) : ChatMessage :=
  toolMessage call call.name (.obj [("success", .bool false), ("error", .str "tool is not allowed")])

def rejectedPayload (call : ProviderToolCall) (error : String) : List (String × Json) :=
  [("tool_call_id", .str call.callId), ("error", .str error)]

def acceptedPayload (call : ProviderToolCall) (report : InvestigationReport) :
    List (String × Json) :=
  [("tool_call_id", .str call.callId), ("report_sha256", .str report.reportSha256),
    ("status", .str report.status.text)]

def traceEntry (trace : List ToolTraceEntry) (tool : String) (response : ToolResponse) :
    ToolTraceEntry :=
  { sequence := trace.length + 1
    callId := response.callId
    tool
    arguments := response.normalizedArguments
    executionStatus := response.executionStatus
    resultSha256 := response.resultSha256
    evidenceRecordIds := response.evidenceRecordIds
    truncated := response.truncated
    errorCode := response.error.map Tools.ToolError.code }

def toolResultPayload (call : ProviderToolCall) (entry : ToolTraceEntry) (response : ToolResponse) :
    List (String × Json) :=
  [("tool_call_id", .str call.callId), ("trace", entry.modelDump),
    ("response", response.modelDump)]

/-- The evidence that a response lets the model cite. -/
def observedIn (response : ToolResponse) : List String :=
  if response.executionStatus = .success then response.evidenceRecordIds else []

namespace State

def record (s : State σ) (eventType : EventType) (payload : List (String × Json)) : State σ :=
  { s with events := recordEvent s.events eventType payload }

def say (s : State σ) (messages : List ChatMessage) : State σ :=
  { s with messages := s.messages ++ messages }

def spend (s : State σ) (tokens : Nat) : State σ := { s with totalTokens := s.totalTokens + tokens }

/-- A response is recorded. -/
def asked (s : State σ) (response : ProviderResponse) : State σ :=
  (s.record .providerResponse (providerEventPayload response)).say [assistantMessage response]

/-- A call is answered with a response of the gateway. -/
def answered (s : State σ) (call : ProviderToolCall) (tool : String) (response : ToolResponse) :
    State σ :=
  let entry := traceEntry s.trace tool response
  let s := { s with
    observedEvidence := s.observedEvidence ++ observedIn response
    trace := s.trace ++ [entry] }
  (s.record .toolResult (toolResultPayload call entry response)).say
    [toolMessage call call.name response.modelDump]

end State

-- ---------------------------------------------------------------------------
-- A round
-- ---------------------------------------------------------------------------

/-- What ends a run without a report: an `InvestigationError`, or an exception
of binding or of the gateway. -/
inductive RunError where
  | investigation (message : String)
  | tools (e : Tools.Error)
  deriving DecidableEq, Repr

/-- How a round ends. -/
inductive Outcome where
  | next
  | returned (report : InvestigationReport)
  | raised (e : RunError)

variable [UnicodeText] [JsonText] [Uuids] [FloatMath] [ProposalModels]

def reportInput (config : InvestigationConfig) (req : InvestigationRequest) (bound : BoundSources)
    (s : State σ) : ReportInput :=
  { investigationId := config.investigationId
    incidentId := req.incidentId
    question := req.question
    policy := config.decision
    observedEvidence := s.observedEvidence
    sourceHashes := bound.hashes
    attempts := s.router.attempts
    trace := s.trace
    totalTokens := s.totalTokens }

/-- A call of `submit_investigation`. -/
def submit (config : InvestigationConfig) (req : InvestigationRequest) (bound : BoundSources)
    (call : ProviderToolCall) (s : State σ) : Outcome × State σ :=
  let scored := do
    let proposal ← ProposalModels.modelValidate call.arguments
    scoreProposal proposal (reportInput config req bound s)
  match scored with
  | .error error =>
    (.next, (s.record .proposalRejected (rejectedPayload call error)).say [rejectionMessage call error])
  | .ok report => (.returned report, s.record .proposalAccepted (acceptedPayload call report))

/-- `call_uuid` -/
def callUuid (investigationId : String) (roundIndex : Nat) (callId tool : String)
    (arguments : Tools.Arguments) : String :=
  uuid5 s!"{investigationId}:{roundIndex}:{callId}:{tool}:{canonical (.obj arguments)}"

def toolRequest (config : InvestigationConfig) (req : InvestigationRequest) (roundIndex : Nat)
    (call : ProviderToolCall) : ToolRequest :=
  let tool := gatewayName call.name
  { tool
    toolVersion := Tools.toolsVersion
    incidentId := req.incidentId
    role := .investigator
    arguments := call.arguments
    datasetDir := req.datasetDir
    analyticsDir := req.analyticsDir
    detectionDir := req.detectionDir
    impactDir := req.impactDir
    evidenceDir := req.evidenceDir
    auditDir := req.auditDir
    callId := some (callUuid config.investigationId roundIndex call.callId tool call.arguments) }

/-- A call of any other tool. -/
def callTool (env : Environment σ) (config : InvestigationConfig) (req : InvestigationRequest)
    (bound : BoundSources) (roundIndex : Nat) (call : ProviderToolCall) (s : State σ) :
    Outcome × State σ :=
  let tool := gatewayName call.name
  if tool ∉ config.allowedTools then (.next, s.say [disallowedMessage call])
  else if config.budget.maxToolCalls < s.toolCalls + 1 then
    (.raised (.investigation "tool-call budget exceeded"), { s with toolCalls := s.toolCalls + 1 })
  else
    let request := toolRequest config req roundIndex call
    let (answer, world) := env.invoke request s.world
    let s := { s with
      world
      toolCalls := s.toolCalls + 1
      invocations := s.invocations ++ [(request, answer)] }
    match answer with
    | .error e => (.raised (.tools e), s)
    | .ok response =>
      -- `_require_source_lineage`
      if response.executionStatus = .success ∧ ¬ Tools.Equal
          (SourceHashes.modelDump response.sourceManifestHashes) (SourceHashes.modelDump bound.hashes)
      then
        (.raised (.investigation "governed tool source lineage changed during investigation"), s)
      else (.next, s.answered call tool response)

/-- What a response of the model leads to. -/
def handle (env : Environment σ) (config : InvestigationConfig) (req : InvestigationRequest)
    (bound : BoundSources) (roundIndex : Nat) (response : ProviderResponse) (s : State σ) :
    Outcome × State σ :=
  match response.toolCalls with
  | [] => (.next, s.say [noCallMessage])
  | [call] =>
    if call.name = submitTool then submit config req bound call s
    else callTool env config req bound roundIndex call s
  | calls => (.next, s.say (calls.map parallelCallMessage))

variable [Schemas]

/-- The body of the loop of `Investigator.run`. -/
def round (env : Environment σ) (config : InvestigationConfig) (req : InvestigationRequest)
    (bound : BoundSources) (roundIndex : Nat) (s : State σ) : Outcome × State σ :=
  match complete env config (toolDefinitions config.allowedTools) s with
  | (.error e, s) => (.raised (.investigation ("all model routes failed: " ++ e.code)), s)
  | (.ok response, s) =>
    let s := s.spend response.usage.totalTokens
    if config.budget.maxTotalTokens < s.totalTokens then
      (.raised (.investigation "provider token budget exceeded"), s)
    else handle env config req bound roundIndex response (s.asked response)

/-- The loop, with the rounds that are left. -/
def rounds (env : Environment σ) (config : InvestigationConfig) (req : InvestigationRequest)
    (bound : BoundSources) : Nat → Nat → State σ →
      Except RunError (InvestigationReport × List TranscriptEvent) × State σ
  | 0, _, s =>
    (.error (.investigation "investigation round budget exhausted without a valid proposal"), s)
  | left + 1, roundIndex, s =>
    match round env config req bound roundIndex s with
    | (.next, s) => rounds env config req bound left (roundIndex + 1) s
    | (.returned report, s) => (.ok (report, s.events), s)
    | (.raised e, s) => (.error e, s)

/-- The state a run starts in. -/
def startState (router : ModelRouter) (world : σ) (messages : List ChatMessage) : State σ :=
  { world
    router
    completions := []
    invocations := []
    messages
    events := []
    trace := []
    observedEvidence := []
    toolCalls := 0
    totalTokens := 0 }

def startMessages (req : InvestigationRequest) (bound : BoundSources) : List ChatMessage :=
  [{ role := .system, content := some systemPrompt },
    { role := .user, content := some (userPrompt req.incidentId req.question bound.hashes) }]

/-- `Investigator.run`, with the router of the investigator. -/
def run (env : Environment σ) (config : InvestigationConfig) (router : ModelRouter)
    (req : InvestigationRequest) (world : σ) :
    Except RunError (InvestigationReport × List TranscriptEvent) × State σ :=
  match env.bindSources req.sources with
  | .error e => (.error (.tools e), startState router world [])
  | .ok bound =>
    rounds env config req bound config.budget.maxRounds 1
      (startState router world (startMessages req bound))

end

end Paic.Investigation
