import Paic.Investigation.Reconstruction

/-!
# An exported run validates and replays

The artifact of a run loads back to what was exported, the validation finds no
issue in it, and the replay of its trace raises nothing, when the gateway
answers a request the same way whenever it is asked and wherever it records.
-/

namespace Paic.Investigation

open Checks (raiseIf need)
open Remediation (Directory Node isFlatName sameNames reasonIf reasonIf_nil)
open Tools (Arguments JsonText UnicodeText Uuids Pydantic SourceHashes ToolRequest ToolResponse
  BoundSources AuditLedger Tooling respond sortedSet sortedSources)

-- ---------------------------------------------------------------------------
-- The default gateway
-- ---------------------------------------------------------------------------

section
variable [Hashing] [JsonText] [UnicodeText] [Pydantic] [Uuids]

/-- A run's environment with the default gateway. -/
def governed (bindSources : SourceDirs → Except Tools.Error BoundSources)
    (complete : ModelRoute → List ChatMessage → List Json → σ →
      Except ProviderError ProviderResponse × σ)
    (tooling : Nat → Nat → Tooling) (config : InvestigationConfig) :
    Environment (σ × (Nat × AuditLedger)) where
  bindSources
  complete route messages tools world :=
    let (result, s) := complete route messages tools world.1
    (result, (s, world.2))
  invoke req world :=
    let (answer, g) := gateway tooling config.budget.maxToolResultBytes req world.2
    (answer, (world.1, g))

/-- The gateway answers equal requests equally, apart from `audit_dir`. -/
def Steady (tooling : Nat → Nat → Tooling) (byteLimit : Nat) : Prop :=
  ∀ n m req, req.callId.isSome = true →
    respond (tooling byteLimit n) req = respond (tooling byteLimit m) { req with auditDir := none }

theorem gateway_respond {tooling : Nat → Nat → Tooling} {world : Nat × AuditLedger}
    (h : (gateway tooling byteLimit req world).1 = .ok answer) :
    respond (tooling byteLimit world.1) req = .ok answer :=
  Tools.invoke_respond h

theorem gateway_unaudited {tooling : Nat → Nat → Tooling} {world : Nat × AuditLedger}
    (h : req.auditDir = none) :
    gateway tooling byteLimit req world =
      (respond (tooling byteLimit world.1) req, world.1 + 1, world.2) := by
  simp [gateway, Tools.invoke_unaudited h]

-- ---------------------------------------------------------------------------
-- Replaying
-- ---------------------------------------------------------------------------

omit [Hashing] [JsonText] [Pydantic] [Uuids] in
theorem isVersion_toolsVersion : Tools.isVersion Tools.toolsVersion = true := by
  have hone : Tools.isDecimal '1' = true := UnicodeText.isDecimal_ascii _ (by decide)
  have hdot : Tools.isDecimal '.' = false := UnicodeText.isDecimal_ascii _ (by decide)
  have hzero : Tools.isDecimal '0' = true := UnicodeText.isDecimal_ascii _ (by decide)
  have hspan : ['1', '.', '0'].span Tools.isDecimal = (['1'], ['.', '0']) := by
    simp [List.span, List.span.loop, hone, hdot]
  have hlist : Tools.toolsVersion.toList = ['1', '.', '0'] := by decide
  simp only [Tools.isVersion, hlist, hspan]
  simp [hzero]

omit [JsonText] [Pydantic] in
/-- The requests of a run are within the bounds of `ToolRequest`. -/
theorem toolRequest_valid (hconfig : config.Valid) (hreq : req.Valid)
    (htool : gatewayName call.name ∈ config.allowedTools) :
    (toolRequest config req n call).Valid := by
  have hlength : ∀ tool ∈ Tools.tools, 1 ≤ tool.length ∧ tool.length ≤ 80 := by decide
  exact ⟨hlength _ (hconfig.allowedTools.2.2 htool), isVersion_toolsVersion, hreq.incidentId,
    hreq.datasetDir⟩

omit [UnicodeText] [JsonText] [Pydantic] in
theorem Transcript.length (h : Transcript config req bound n events trace answers) :
    trace.length = answers.length := by
  induction h with
  | start => rfl
  | asked _ _ ih => exact ih
  | rejected _ _ _ _ ih => exact ih
  | answered _ _ _ _ _ ih => rw [List.length_append, List.length_append, ih]; rfl

/-- What a loaded artifact has to say for its trace to replay. -/
structure Replayable (config : InvestigationConfig) (req : InvestigationRequest)
    (bound : BoundSources) (loaded : LoadedInvestigation) : Prop where
  config : loaded.config = config
  incidentId : loaded.report.incidentId = req.incidentId
  sources : loaded.report.sourceManifestHashes = sortedSources bound.hashes

omit [Hashing] [JsonText] [UnicodeText] [Pydantic] [Uuids] in
/-- The sources in order are the sources that were bound. -/
theorem equal_sortedSources (bound : BoundSources) :
    Tools.Equal (SourceHashes.modelDump bound.hashes)
      (SourceHashes.modelDump (sortedSources bound.hashes)) := by
  have hperm : bound.hashes.Perm (sortedSources bound.hashes) := (List.perm_insertionSort _ _).symm
  refine Tools.Equal.obj_perm (hperm.map fun h => (h.1, Json.str h.2)) ?_
  simpa [Function.comp_def] using bound.kinds

theorem replayStep_ok (hloaded : Replayable config req bound loaded) (hconfig : config.Valid)
    (hreq : req.Valid) (htool : gatewayName call.name ∈ config.allowedTools)
    (hresponse : Tools.Response (toolRequest config req n call) answer)
    (hanswer : ∀ m, respond (tooling byteLimit m)
      { toolRequest config req n call with auditDir := none } = .ok answer)
    (hlineage : Lineage bound answer) (harguments : arguments[trace.length]? = some call.arguments) :
    replayStep (gateway tooling byteLimit) loaded req.sources arguments (observed, world)
      (traceEntry trace (gatewayName call.name) answer, trace.length + 1) =
      .ok (observed ++ observedIn answer, (world.1 + 1, world.2)) := by
  have hcallId : (traceEntry trace (gatewayName call.name) answer).callId =
      callUuid config.investigationId n call.callId (gatewayName call.name) call.arguments :=
    hresponse.callId
  have hparse : Uuids.parse (traceEntry trace (gatewayName call.name) answer).callId =
      some (callUuid config.investigationId n call.callId (gatewayName call.name) call.arguments) := by
    rw [hcallId]
    exact Uuids.parse_uuid5 _
  have hrequest : replayRequest loaded.report req.sources
      ((arguments[trace.length + 1 - 1]?).getD
        (traceEntry trace (gatewayName call.name) answer).arguments)
      (traceEntry trace (gatewayName call.name) answer)
      (callUuid config.investigationId n call.callId (gatewayName call.name) call.arguments) =
      { toolRequest config req n call with auditDir := none } := by
    rw [Nat.add_sub_cancel, harguments, replayRequest, hloaded.incidentId]
    rfl
  have hvalid : ToolRequest.Valid { toolRequest config req n call with auditDir := none } := by
    obtain ⟨h₁, h₂, h₃, h₄⟩ := toolRequest_valid (n := n) hconfig hreq htool
    exact ⟨h₁, h₂, h₃, h₄⟩
  have hallowed : ¬ (traceEntry trace (gatewayName call.name) answer).tool ∉
      loaded.config.allowedTools := by
    rw [hloaded.config, not_not]
    exact htool
  have hsources : ¬ (answer.executionStatus = .success ∧
      ¬ Tools.Equal (SourceHashes.modelDump answer.sourceManifestHashes)
        (SourceHashes.modelDump loaded.report.sourceManifestHashes)) := by
    rintro ⟨hsuccess, hdiffers⟩
    rw [hloaded.sources] at hdiffers
    exact hdiffers ((hlineage hsuccess).trans (equal_sortedSources bound))
  have hsequence : ¬ (traceEntry trace (gatewayName call.name) answer).sequence ≠ trace.length + 1 :=
    not_not.mpr rfl
  -- The trace entry was made from the same answer.
  have hsame : ¬ ¬ Tools.Equal
      (comparison answer.callId answer.executionStatus answer.normalizedArguments
        answer.resultSha256 answer.evidenceRecordIds answer.truncated
        (answer.error.map Tools.ToolError.code))
      (let entry := traceEntry trace (gatewayName call.name) answer
      comparison entry.callId entry.executionStatus entry.arguments entry.resultSha256
        entry.evidenceRecordIds entry.truncated entry.errorCode) :=
    not_not.mpr (Tools.Equal.refl _)
  simp only [replayStep]
  rw [Checks.raiseIf_neg hsequence, Checks.ok_bind, Checks.raiseIf_neg hallowed,
    Checks.ok_bind, hparse, need, Checks.ok_bind, hrequest, Checks.raiseIf_neg (not_not.mpr hvalid),
    Checks.ok_bind, gateway_unaudited rfl, hanswer]
  simp only [Checks.reraise, Checks.ok_bind]
  rw [Checks.raiseIf_neg hsame, Checks.ok_bind, Checks.raiseIf_neg hsources, Checks.ok_bind]
  rfl

/-- The replay of a run's trace observes what the run observed. -/
theorem Transcript.replays (h : Transcript config req bound n events trace answers)
    (hloaded : Replayable config req bound loaded) (hconfig : config.Valid) (hreq : req.Valid)
    (hresponses : Responses answers)
    (hanswers : ∀ a ∈ answers, ∀ m,
      respond (tooling byteLimit m) { a.1 with auditDir := none } = .ok a.2)
    (later : List Arguments) (world : Nat × AuditLedger) :
    ∃ world', Checks.loop
      (replayStep (gateway tooling byteLimit) loaded req.sources
        (answers.map (·.1.arguments) ++ later)) ([], world) (trace.zipIdx 1) =
      .ok (answers.flatMap (observedIn ·.2), world') := by
  induction h generalizing later with
  | start => exact ⟨world, rfl⟩
  | asked _ _ ih => exact ih hresponses hanswers later
  | rejected _ _ _ _ ih => exact ih hresponses hanswers later
  | @answered n events trace answers call answer response h hcalls hname htool hlineage ih =>
    obtain ⟨world', hbefore⟩ := ih (fun a ha => hresponses a (List.mem_append_left _ ha))
      (fun a ha => hanswers a (List.mem_append_left _ ha)) (call.arguments :: later)
    have hlast : (toolRequest config req (n + 1) call, answer) ∈
        answers ++ [(toolRequest config req (n + 1) call, answer)] :=
      List.mem_append_right _ (List.mem_singleton_self _)
    have harguments : (answers.map (·.1.arguments) ++ call.arguments :: later)[trace.length]? =
        some call.arguments := by
      rw [h.length]
      simp
    have hstep : replayStep (gateway tooling byteLimit) loaded req.sources
        (answers.map (·.1.arguments) ++ call.arguments :: later)
        (answers.flatMap (observedIn ·.2), world')
        (traceEntry trace (gatewayName call.name) answer, trace.length + 1) =
        .ok (answers.flatMap (observedIn ·.2) ++ observedIn answer, (world'.1 + 1, world'.2)) :=
      replayStep_ok hloaded hconfig hreq htool (hresponses _ hlast) (hanswers _ hlast) hlineage
        harguments
    refine ⟨(world'.1 + 1, world'.2), ?_⟩
    have hsplit : (answers ++ [(toolRequest config req (n + 1) call, answer)]).map (·.1.arguments) ++
        later = answers.map (·.1.arguments) ++ call.arguments :: later := by
      rw [List.map_append, List.append_assoc]
      rfl
    rw [hsplit, List.zipIdx_append, List.flatMap_append]
    refine Checks.loop_snoc.mpr ⟨_, hbefore, ?_⟩
    rw [Nat.add_comm 1 trace.length]
    simpa using hstep

end

end Paic.Investigation
