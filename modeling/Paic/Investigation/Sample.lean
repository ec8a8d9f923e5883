import Paic.Investigation.Replay
import Paic.Tools.Sample

/-!
# An investigation on the computing platform

A model that queries once and then submits a proposal about the record it was
shown. Numbers are exact here, and the logarithm is a straight line.
-/

namespace Paic.Investigation.Sample

open Platform
open Tools (Tooling ToolRequest AuditLedger BoundSources)

instance : FloatMath where
  log x := x - 1
  exp x := if x ≤ -1 then 0 else x + 1
  add := (· + ·)
  sub := (· - ·)
  mul := (· * ·)
  div := (· / ·)
  sum := List.sum

def assessment (direction : Direction) (likelihoodRatio : Rat) : EvidenceAssessment :=
  { evidenceRecordId := "record"
    direction
    likelihoodRatio
    explanation := "seen" }

def hypothesis (hypothesisId : String) (evidence : EvidenceAssessment) : HypothesisProposal :=
  { hypothesisId
    title := "title"
    priorProbability := 1 / 2
    rationale := "rationale"
    evidence := [evidence]
    falsifiers := ["falsifier"] }

def proposal : InvestigationProposal :=
  { summary := "summary"
    hypotheses :=
      [hypothesis "release" (assessment .support 2), hypothesis "traffic" (assessment .contradict (1 / 2))]
    explicitUnknowns := []
    recommendedNextSteps := [] }

theorem proposal_valid : proposal.Valid := by decide +kernel

instance : ProposalModels where
  modelValidate _ := .ok proposal
  reportError _ := "validation error for InvestigationReport"
  modelValidate_valid h := Except.ok.inj h ▸ proposal_valid

instance : Schemas where
  arguments _ := .obj []
  proposal := .obj []

/-- What a file holds, and nothing a model is read from otherwise. -/
inductive Text where
  | empty
  | json (j : Json)
  | line (s : String)
  | config (c : InvestigationConfig)
  | report (r : InvestigationReport)
  | transcript (events : List TranscriptEvent)
  | manifest (m : InvestigationManifest)
  deriving DecidableEq

def Text.tag : Text → Nat
  | .empty => 0
  | .json j => fingerprint j
  | .line s => mixText 1 s
  | .config _ => 2
  | .report r => fingerprint r.payload
  | .transcript events => fingerprintItems (events.map TranscriptEvent.base)
  | .manifest m => mixText 3 m.reportSha256

instance : InvestigationText Text where
  decEq := inferInstance
  empty := .empty
  size _ := 1
  sha256 t := hexText t.tag
  json := .json
  loads
    | .json j => some j
    | _ => none
  line := .line
  strip
    | .line s => s
    | _ => ""
  sha256_hex _ := hexText_isSha256 _
  loads_json _ _ := rfl
  strip_line _ _ := rfl
  configs := codec .config (fun | .config c => some c | _ => none) fun _ => rfl
  reports := codec .report (fun | .report r => some r | _ => none) fun _ => rfl
  transcripts := codec .transcript (fun | .transcript e => some e | _ => none) fun _ => rfl
  manifests := codec .manifest (fun | .manifest m => some m | _ => none) fun _ => rfl
  pretty := .json
  loads_pretty _ _ := rfl
  loadError name := name

def config : InvestigationConfig :=
  { investigationId := "case"
    models := [⟨"model"⟩]
    budget := ⟨2, 1, 0, 1000, 1000⟩
    decision := ⟨1 / 2, 1 / 10, 1, 1, 1 / 20, 20⟩
    allowedTools := ["sql.query"] }

def req : InvestigationRequest :=
  { incidentId := "incident"
    question := "What failed?"
    datasetDir := "dataset"
    analyticsDir := none
    detectionDir := none
    impactDir := none
    evidenceDir := none
    auditDir := none }

/-- A response with one call. -/
def calling (name : String) (arguments : Tools.Arguments)
    (h : 1 ≤ name.length ∧ name.length ≤ 200) : ProviderResponse :=
  { model := "model"
    content := none
    toolCalls := [⟨"call", name, arguments, by decide, h⟩]
    finishReason := none
    usage := ⟨0, 0, 0, .inl rfl⟩ }

def queryResponse : ProviderResponse := calling "sql__query" [("query", .str "SELECT 1")] (by decide)

def submitResponse : ProviderResponse := calling submitTool [] (by decide)

/-- Queries first, and submits from then on. -/
def provider (_ : ModelRoute) (_ : List ChatMessage) (_ : List Json) (asked : Nat) :
    Except ProviderError ProviderResponse × Nat :=
  (.ok (if asked = 0 then queryResponse else submitResponse), asked + 1)

/-- Sources that bind and a tool that answers, at any time. -/
def tooling (_ _ : Nat) : Tooling := Tools.Sample.answering

def bindSources (_ : SourceDirs) : Except Tools.Error BoundSources := .ok Tools.Sample.bound

def environment : Environment (Nat × (Nat × AuditLedger)) :=
  governed bindSources provider tooling config

theorem config_valid : config.Valid := by
  refine ⟨by decide, by decide, by decide, by decide +kernel, by decide⟩

theorem req_valid : req.Valid := by decide

theorem respond_answering (h : (Tools.decisionOf request).allowed = true) :
    Tools.respond Tools.Sample.answering request = .ok (Tools.succeeded
      (Tools.baseResponse request (Tools.decisionOf request))
      ⟨Tools.Sample.bound, Tools.Sample.found, false, ["record"]⟩) := by
  have hdecision : Tools.authorize request.role.text request.tool request.toolVersion
      request.arguments = Tools.decisionOf request := rfl
  rw [Tools.respond, hdecision, if_neg (by simp [h]), Tools.Sample.answering_executes]

theorem respond_denied {tooling : Tooling} (h : (Tools.decisionOf request).allowed = false) :
    Tools.respond tooling request = Tools.failed
      (Tools.baseResponse request (Tools.decisionOf request)) (Tools.decisionOf request).code
      (Tools.decisionOf request).reason := by
  have hdecision : Tools.authorize request.role.text request.tool request.toolVersion
      request.arguments = Tools.decisionOf request := rfl
  rw [Tools.respond, hdecision, if_pos h]

theorem tooling_steady : Steady tooling config.budget.maxToolResultBytes := by
  intro n m request hid
  obtain ⟨callId, hcall⟩ := Option.isSome_iff_exists.mp hid
  have hbase : ∀ decision, Tools.baseResponse { request with auditDir := none } decision =
      Tools.baseResponse request decision := by
    intro decision
    simp [Tools.baseResponse, Tools.callIdOf, hcall]
  have hdecision : Tools.decisionOf { request with auditDir := none } = Tools.decisionOf request :=
    rfl
  cases hallowed : (Tools.decisionOf request).allowed with
  | true =>
    rw [tooling, tooling, respond_answering hallowed, respond_answering (hdecision ▸ hallowed),
      hdecision, hbase]
  | false =>
    rw [tooling, tooling, respond_denied hallowed, respond_denied (hdecision ▸ hallowed), hdecision,
      hbase]

/-- The world a run starts in. -/
def world : Nat × (Nat × AuditLedger) := (0, (0, Tools.Sample.emptyLedger))

def queryCall : ProviderToolCall :=
  ⟨"call", "sql__query", [("query", .str "SELECT 1")], by decide, by decide⟩

/-- The gateway's answer to the query. -/
def answer : Tools.ToolResponse :=
  let request := toolRequest config req 1 queryCall
  Tools.succeeded (Tools.baseResponse request (Tools.decisionOf request))
    ⟨Tools.Sample.bound, Tools.Sample.found, false, ["record"]⟩

def start : State (Nat × (Nat × AuditLedger)) :=
  startState newRouter world (startMessages req Tools.Sample.bound)

/-- The state when the model has answered. -/
def asked : State (Nat × (Nat × AuditLedger)) :=
  ((start.completed ⟨"model"⟩ 0 queryResponse (1, (0, Tools.Sample.emptyLedger))).spend 0).asked
    queryResponse

/-- The state after the first round. -/
def queried : State (Nat × (Nat × AuditLedger)) :=
  { asked with
    world := (1, (1, Tools.Sample.emptyLedger))
    toolCalls := 1
    invocations := [(toolRequest config req 1 queryCall, .ok answer)] }.answered
      queryCall "sql.query" answer

theorem callTool_query : callTool environment config req Tools.Sample.bound 1 queryCall asked =
    (.next, queried) := by
  have htool : gatewayName queryCall.name = "sql.query" := by decide
  have hallowed : (Tools.decisionOf (toolRequest config req 1 queryCall)).allowed = true := by decide
  have hanswer : environment.invoke (toolRequest config req 1 queryCall) asked.world =
      (.ok answer, (1, (1, Tools.Sample.emptyLedger))) := by
    have hgateway : gateway tooling config.budget.maxToolResultBytes
        (toolRequest config req 1 queryCall) (0, Tools.Sample.emptyLedger) =
        (.ok answer, 1, Tools.Sample.emptyLedger) := by
      rw [gateway_unaudited rfl, tooling, respond_answering hallowed]
      rfl
    have hinvoke : environment.invoke (toolRequest config req 1 queryCall) asked.world =
        ((gateway tooling config.budget.maxToolResultBytes (toolRequest config req 1 queryCall)
            (0, Tools.Sample.emptyLedger)).1,
          (1, (gateway tooling config.budget.maxToolResultBytes (toolRequest config req 1 queryCall)
            (0, Tools.Sample.emptyLedger)).2)) := rfl
    rw [hinvoke, hgateway]
  have hbudget : ¬ config.budget.maxToolCalls < asked.toolCalls + 1 := by decide
  have hlineage : ¬ (answer.executionStatus = .success ∧ ¬ Tools.Equal
      (Tools.SourceHashes.modelDump answer.sourceManifestHashes)
      (Tools.SourceHashes.modelDump Tools.Sample.bound.hashes)) :=
    fun h => h.2 (Tools.Equal.refl _)
  simp only [callTool, htool, hanswer, hbudget, hlineage, if_false]
  rw [if_neg (by decide)]
  rfl

theorem round_query : round environment config req Tools.Sample.bound 1 start = (.next, queried) := by
  have hcomplete : complete environment config (toolDefinitions config.allowedTools) start =
      (.ok queryResponse,
        start.completed ⟨"model"⟩ 0 queryResponse (1, (0, Tools.Sample.emptyLedger))) := rfl
  have hname : queryCall.name ≠ submitTool := by decide
  rw [round, hcomplete]
  change handle environment config req Tools.Sample.bound 1 queryResponse asked = _
  change (if queryCall.name = submitTool then submit config req Tools.Sample.bound queryCall asked
    else callTool environment config req Tools.Sample.bound 1 queryCall asked) = _
  rw [if_neg hname, callTool_query]

def Outcome.isReturned : Outcome → Bool
  | .returned _ => true
  | _ => false

theorem round_submit : Outcome.isReturned
    (round environment config req Tools.Sample.bound 2 queried).1 = true := by
  decide +kernel

theorem round_submit_distinct : ((round environment config req Tools.Sample.bound 2
    queried).2.events.map fun e => digest e.base).Nodup := by
  decide +kernel

/-- The run returns a report, with events that are hashed apart. -/
theorem run_returns : ∃ report events,
    (run environment config newRouter req world).1 = .ok (report, events) ∧
      (events.map fun e => digest e.base).Nodup := by
  have hrun : run environment config newRouter req world =
      rounds environment config req Tools.Sample.bound 2 1 start := rfl
  have hsubmit := round_submit
  have hdistinct := round_submit_distinct
  rw [hrun, rounds, round_query]
  simp only [rounds]
  rcases hround : round environment config req Tools.Sample.bound (1 + 1) queried with ⟨outcome, s⟩
  rw [hround] at hsubmit hdistinct
  cases outcome with
  | next => exact absurd hsubmit (by rintro ⟨⟩)
  | returned report => exact ⟨report, s.events, rfl, hdistinct⟩
  | raised e => exact absurd hsubmit (by rintro ⟨⟩)

end Paic.Investigation.Sample
