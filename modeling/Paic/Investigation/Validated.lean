import Paic.Investigation.Sample

/-!
# The artifact of a run

An exported artifact loads back, and nothing in it disagrees. The last theorem
puts this together with the transcript's agreement and its replay.
-/

namespace Paic.Investigation

open Checks (raiseIf need)
open Remediation (Directory Node isFlatName sameNames reasonIf reasonIf_nil)
open Tools (Arguments JsonText UnicodeText Uuids Pydantic SourceHashes ToolRequest ToolResponse
  BoundSources AuditLedger Tooling respond sortedSet sortedSources)

-- ---------------------------------------------------------------------------
-- Writing and loading
-- ---------------------------------------------------------------------------

section
variable {T : Type} [UnicodeText] [FloatMath] [InvestigationText T]

/-- The manifest of an artifact. -/
def manifestOf (T : Type) [InvestigationText T] (report : InvestigationReport)
    (config : InvestigationConfig) (req : InvestigationRequest) (transcript : List TranscriptEvent) :
    InvestigationManifest :=
  newManifest report transcript (payloads report config req transcript : List (String × T))

theorem fileManifests_perm : (manifestOf T report config req transcript).files.Perm
    ((payloads report config req transcript : List (String × T)).map fileManifest) :=
  List.perm_insertionSort _ _

theorem declared_perm : ((manifestOf T report config req transcript).files.map
    InvestigationFileManifest.relativePath).Perm payloadFiles :=
  fileManifests_perm.map InvestigationFileManifest.relativePath

theorem manifestOf_valid (hsha : isSha256 report.reportSha256 = true)
    (hsources : ∀ h ∈ report.sourceManifestHashes, isSha256 h.2 = true) :
    (manifestOf T report config req transcript).Valid := by
  refine ⟨(by decide : Remediation.isVersion Remediation.version = true), hsha, hsources, fun f hf => ?_, ?_⟩
  · obtain ⟨payload, hpayload, rfl⟩ := List.mem_map.mp ((fileManifests_perm (T := T)).mem_iff.mp hf)
    have hname : payload.1 ∈ payloadFiles := List.mem_map_of_mem (f := Prod.fst) hpayload
    have hpaths : ∀ name ∈ payloadFiles, 1 ≤ name.length ∧ staysInside name = true := by decide
    exact ⟨hpaths _ hname, FileText.sha256_hex _⟩
  · have hnodup : payloadFiles.Nodup := by decide
    exact (declared_perm (T := T)).nodup_iff.mpr hnodup

theorem exportInvestigation_ok (hsha : isSha256 report.reportSha256 = true)
    (hsources : ∀ h ∈ report.sourceManifestHashes, isSha256 h.2 = true) :
    (exportInvestigation report config req transcript : Except String (Directory T)) =
      .ok (artifactDirectory (manifestOf T report config req transcript) report config req
        transcript) := by
  have hvalid : Model.Valid (manifestOf T report config req transcript) :=
    manifestOf_valid hsha hsources
  have hchecked : raiseIf (¬ Model.Valid (manifestOf T report config req transcript))
      "validation error for InvestigationManifest" = .ok () :=
    Checks.raiseIf_neg (not_not.mpr hvalid)
  change (raiseIf (¬ Model.Valid (manifestOf T report config req transcript))
    "validation error for InvestigationManifest" >>= fun _ => pure _) = _
  rw [hchecked]
  rfl

theorem artifactDirectory_payload
    (h : payload ∈ (payloads report config req transcript : List (String × T))) :
    (artifactDirectory manifest report config req transcript).read payload.1 = some payload.2 :=
  Directory.read_of_mem (List.mem_append_left _
    (List.mem_map_of_mem (f := fun p : String × T => (p.1, Node.file p.2)) h))

theorem artifactDirectory_manifest :
    (artifactDirectory manifest report config req transcript : Directory T).read "manifest.json" =
      some (TextCodec.dump manifest) :=
  Directory.read_of_mem (List.mem_append_right _ (by simp))

theorem artifactDirectory_marker :
    (artifactDirectory manifest report config req transcript : Directory T).read "_SUCCESS" =
      some (FileText.line (FileText.sha256 (TextCodec.dump manifest : T))) :=
  Directory.read_of_mem (List.mem_append_right _ (by simp))

theorem closedWorldIssues_nil : closedWorldIssues
    (some (artifactDirectory manifest report config req transcript : Directory T)) = [] := by
  have hnames : (artifactDirectory manifest report config req transcript : Directory T).entries.map
      Prod.fst = artifactFiles := rfl
  rw [closedWorldIssues, hnames, reasonIf_nil.mpr (by simp [sameNames]), List.nil_append,
    List.flatMap_eq_nil_iff]
  intro e he
  simp only [artifactDirectory, payloads, List.map_cons, List.map_nil, List.mem_append, List.mem_cons,
    List.not_mem_nil, or_false] at he
  rcases he with (rfl | rfl | rfl | rfl) | rfl | rfl <;> rfl

theorem loadFile_ok {d : Directory T} {parse : T → Option α} (hread : d.read name = some text)
    (hparse : parse text = some a) : loadFile d name parse = .ok a := by
  rw [loadFile, hread, Option.bind_some, hparse]
  rfl

theorem loadInvestigation_ok (hmanifest : manifest.Valid) (hconfig : config.Valid)
    (hreport : report.Valid) (htranscript : ∀ e ∈ transcript, 1 ≤ e.sequence) :
    loadInvestigation (some (artifactDirectory manifest report config req transcript : Directory T)) =
      .ok (artifactDirectory manifest report config req transcript,
        { manifest, config, report, transcript, requestReceipt := requestReceipt req }) := by
  have horder : inOrder (requestReceipt req) = true := by
    simp only [requestReceipt, inOrder, fieldsInOrder, Option.all_none, Option.all_some,
      Bool.and_true, Bool.true_and]
    decide
  have hread : ∀ payload ∈ (payloads report config req transcript : List (String × T)),
      (artifactDirectory manifest report config req transcript).read payload.1 = some payload.2 :=
    fun _ h => artifactDirectory_payload h
  simp only [payloads, List.forall_mem_cons, List.not_mem_nil, false_implies, implies_true,
    and_true] at hread
  obtain ⟨hreadConfig, hreadReceipt, hreadReport, hreadTranscript⟩ := hread
  simp only [loadInvestigation, closedWorldIssues_nil]
  rw [Checks.raiseIf_neg (not_not.mpr rfl), Checks.ok_bind, need, Checks.ok_bind,
    loadFile_ok artifactDirectory_manifest (TextCodec.load_dump hmanifest), Checks.ok_bind,
    loadFile_ok hreadConfig (TextCodec.load_dump hconfig), Checks.ok_bind,
    loadFile_ok hreadReport (TextCodec.load_dump hreport), Checks.ok_bind,
    loadFile_ok hreadReceipt (InvestigationText.loads_pretty _ horder), Checks.ok_bind,
    loadFile_ok hreadTranscript (TextCodec.load_dump htranscript), Checks.ok_bind]
  rfl

-- ---------------------------------------------------------------------------
-- Validating
-- ---------------------------------------------------------------------------

theorem manifestIssues_nil : manifestIssues
    (artifactDirectory (manifestOf T report config req transcript) report config req transcript :
      Directory T) (manifestOf T report config req transcript) = [] := by
  have hpaths : ((manifestOf T report config req transcript).files.map
      InvestigationFileManifest.relativePath).Perm payloadFiles := declared_perm
  have hnodup : payloadFiles.Nodup := by decide
  have hfiles : (manifestOf T report config req transcript).files.flatMap (fileIssues
      (artifactDirectory (manifestOf T report config req transcript) report config req
        transcript : Directory T)) = [] := by
    rw [List.flatMap_eq_nil_iff]
    intro item hitem
    obtain ⟨payload, hpayload, rfl⟩ :=
      List.mem_map.mp ((fileManifests_perm (T := T)).mem_iff.mp hitem)
    have hname : payload.1 ∈ payloadFiles := List.mem_map_of_mem (f := Prod.fst) hpayload
    have hflat : ∀ name ∈ payloadFiles, isFlatName name = true := by decide
    have hread : (artifactDirectory (manifestOf T report config req transcript) report config req
        transcript).read payload.1 = some payload.2 := artifactDirectory_payload hpayload
    simp [fileIssues, fileManifest, hflat _ hname, hread, reasonIf]
  have hmarker : FileText.strip (FileText.line
      (FileText.sha256 (TextCodec.dump (manifestOf T report config req transcript) : T)) : T) =
      FileText.sha256 (TextCodec.dump (manifestOf T report config req transcript) : T) :=
    FileText.strip_line _ (FileText.sha256_hex _)
  simp only [manifestIssues, hfiles, artifactDirectory_manifest, artifactDirectory_marker,
    Option.map_some, hmarker]
  simp [reasonIf, hpaths.nodup_iff.mpr hnodup, sameNames, hpaths.subset, hpaths.symm.subset]

theorem reportIssues_nil :
    reportIssues report (manifestOf T report config req transcript) = [] := by
  simp [reportIssues, manifestOf, newManifest, reasonIf, Tools.Equal.refl]

omit [UnicodeText] [FloatMath] [InvestigationText T] in
theorem receiptIssues_nil (hincident : report.incidentId = req.incidentId)
    (hquestion : report.question = req.question) :
    receiptIssues (requestReceipt req) report = [] := by
  have hnames : ¬ ∃ name ∈ sourceFields,
      name ∈ ["incident_id", "question", "role", "source_presence"] := by decide
  simp only [receiptIssues, requestReceipt, List.map_cons, List.map_nil, if_neg hnames]
  rw [reasonIf_nil, hincident, hquestion]
  simp [getKey, List.lookup]

end

section
variable [Hashing] [UnicodeText] [JsonText] [Pydantic] [Uuids] [FloatMath] [ProposalModels]

omit [JsonText] [ProposalModels] [FloatMath] in
/-- A transcript that ends with the proposal its report was made from. -/
theorem transcriptIssues_nil (h : Transcript config req bound n events trace answers)
    (hresponses : Responses answers) (hcalls : response.toolCalls = [call])
    (hname : call.name = submitTool) (htrace : report.toolTrace = trace)
    (hmanifest : manifest.transcriptEventCount = (recordEvent (askedEvents events response)
      .proposalAccepted (acceptedPayload call report)).length) :
    transcriptIssues
      { manifest
        config
        report
        transcript := recordEvent (askedEvents events response) .proposalAccepted
          (acceptedPayload call report)
        requestReceipt := receipt } = [] := by
  have hchain : chainHolds 1 zeroHash (recordEvent (askedEvents events response) .proposalAccepted
      (acceptedPayload call report)) = true :=
    chainHolds_iff.mpr (chained_record (chained_record h.chained))
  have htraces : ((recordEvent (askedEvents events response) .proposalAccepted
      (acceptedPayload call report)).filter (·.eventType = .toolResult)).map
        (fun e => getKey e.payload "trace") = report.toolTrace.map ToolTraceEntry.modelDump := by
    rw [traces_eq, traceOf_record .proposalAccepted (by rintro ⟨⟩), askedEvents,
      traceOf_record .providerResponse (by rintro ⟨⟩), h.traces, htrace]
  have haccepted : (recordEvent (askedEvents events response) .proposalAccepted
      (acceptedPayload call report)).filter (·.eventType = .proposalAccepted) =
        [newEvent (askedEvents events response) .proposalAccepted (acceptedPayload call report)] := by
    simp [recordEvent, askedEvents, newEvent, h.unaccepted]
  have hsemantics : (recordEvent (askedEvents events response) .proposalAccepted
      (acceptedPayload call report)).foldl (semanticStep config.investigationId report.toolTrace)
        ⟨[], 0, 0, none⟩ = ⟨[], n + 1, trace.length, some
          (newEvent (askedEvents events response) .proposalAccepted (acceptedPayload call report))⟩ := by
    have hbefore := h.semantics hresponses []
    rw [List.append_nil] at hbefore
    rw [htrace]
    simp only [recordEvent, askedEvents, List.foldl_append, List.foldl_cons, List.foldl_nil, hbefore,
      semanticStep_asked]
    exact semanticStep_submitted hcalls hname ⟨(by rintro ⟨⟩), by rintro ⟨⟩⟩ rfl
  have hsha : getKey (newEvent (askedEvents events response) .proposalAccepted
      (acceptedPayload call report)).payload "report_sha256" = .str report.reportSha256 := rfl
  simp only [transcriptIssues, transcriptSemanticIssues, hchain, htraces, haccepted, hsemantics,
    hmanifest, List.map_cons, List.map_nil, hsha]
  simp [reasonIf, htrace, Tools.Equal.refl]

omit [Hashing] [UnicodeText] [JsonText] [Pydantic] [Uuids] [FloatMath] [ProposalModels] in
theorem sourceIssues_ok (hbound : bindSources sources = .ok bound)
    (hmanifest : manifest.sourceManifestHashes = sortedSources bound.hashes) :
    sourceIssues bindSources (some sources) manifest = .ok [] := by
  have hsame := equal_sortedSources bound
  rw [← hmanifest] at hsame
  simp [sourceIssues, hbound, reasonIf, hsame]

omit [UnicodeText] [JsonText] [Pydantic] [FloatMath] [ProposalModels] in
theorem Transcript.requested (h : Transcript config req bound n events trace answers) :
    ∀ a ∈ answers, ∃ k call, a.1 = toolRequest config req k call := by
  induction h with
  | start => exact fun _ h => absurd h nofun
  | asked _ _ ih => exact ih
  | rejected _ _ _ _ ih => exact ih
  | answered _ _ _ _ _ ih =>
    intro a ha
    rcases List.mem_append.mp ha with ha | ha
    · exact ih a ha
    · rw [List.mem_singleton.mp ha]
      exact ⟨_, _, rfl⟩

variable {T : Type} [InvestigationText T]

/-- What the artifact of a run loads to. -/
def loadedOf (T : Type) [InvestigationText T] (report : InvestigationReport)
    (config : InvestigationConfig) (req : InvestigationRequest) (transcript : List TranscriptEvent) :
    LoadedInvestigation :=
  { manifest := manifestOf T report config req transcript
    config
    report
    transcript
    requestReceipt := requestReceipt req }

/-- The artifact of a report and a transcript that agree. -/
theorem validateInvestigation_ok {config : InvestigationConfig} {req : InvestigationRequest}
    (hconfig : config.Valid) (hscored : scoreProposal proposal input = .ok report)
    (hpolicy : input.policy = config.decision) (hincident : input.incidentId = req.incidentId)
    (hquestion : input.question = req.question)
    (htranscript : ∀ e ∈ transcript, 1 ≤ e.sequence)
    (hmanifest : (manifestOf T report config req transcript).Valid)
    (hissues : transcriptIssues (loadedOf T report config req transcript) = [])
    (hsources : sourceIssues bindSources sources (manifestOf T report config req transcript) =
      .ok []) :
    validateInvestigation bindSources (some (artifactDirectory
      (manifestOf T report config req transcript) report config req transcript : Directory T))
      sources = .ok [] := by
  have hreport := scoreProposal_ok hscored
  have hverify : verifyReport report config.decision = .ok () := by
    rw [← hpolicy]
    exact verifyReport_scored hscored
  simp only [validateInvestigation, closedWorldIssues_nil, ne_eq, not_true_eq_false, if_false,
    loadInvestigation_ok hmanifest hconfig hreport.valid htranscript, hverify, hsources,
    manifestIssues_nil, reportIssues_nil,
    receiptIssues_nil (hreport.incidentId.trans hincident) (hreport.question.trans hquestion)]
  exact congrArg (fun issues => Except.ok (issues ++ [])) hissues

omit [FloatMath] [ProposalModels] in
/-- The replay of a transcript that ends with its proposal. -/
theorem replayGovernedToolTrace_ok {tooling : Nat → Nat → Tooling}
    (h : Transcript config req bound n events trace answers) (hloaded : Replayable config req bound loaded)
    (hconfig : config.Valid) (hreq : req.Valid) (hresponses : Responses answers)
    (hanswers : ∀ a ∈ answers, ∀ m,
      respond (tooling byteLimit m) { a.1 with auditDir := none } = .ok a.2)
    (htrace : loaded.report.toolTrace = trace)
    (htranscript : loaded.transcript = recordEvent (askedEvents events response) .proposalAccepted payload)
    (hobserved : loaded.report.observedEvidenceRecordIds =
      sortedSet (answers.flatMap (observedIn ·.2))) (world : Nat × AuditLedger) :
    replayGovernedToolTrace (gateway tooling byteLimit) loaded req.sources world = .ok () := by
  have harguments : providerArguments loaded.transcript = answers.map (·.1.arguments) ++ [] := by
    rw [htranscript, providerArguments_record .proposalAccepted (by rintro ⟨⟩), askedEvents,
      providerArguments_record .providerResponse (by rintro ⟨⟩), h.arguments, List.append_nil]
  obtain ⟨world', hloop⟩ := h.replays hloaded hconfig hreq hresponses hanswers [] world
  rw [replayGovernedToolTrace, harguments, htrace, hloop, Checks.ok_bind]
  exact Checks.raiseIf_neg (not_not.mpr hobserved.symm)

variable [Schemas]

/-- The artifact of a run that returned a report. -/
theorem run_artifact
    {bindSources : SourceDirs → Except Tools.Error BoundSources}
    {complete : ModelRoute → List ChatMessage → List Json → σ →
      Except ProviderError ProviderResponse × σ}
    {tooling : Nat → Nat → Tooling} {config : InvestigationConfig} {router : ModelRouter}
    {req : InvestigationRequest} {world : σ × (Nat × AuditLedger)}
    (hconfig : config.Valid) (hreq : req.Valid)
    (hsteady : Steady tooling config.budget.maxToolResultBytes)
    (hrun : (run (governed bindSources complete tooling config) config router req world).1 =
      .ok (report, events)) :
    ∃ d : Directory T, exportInvestigation report config req events = .ok d ∧
      validateInvestigation bindSources (some d) none = .ok [] ∧
      validateInvestigation bindSources (some d) (some req.sources) = .ok [] ∧
      ∃ loaded, loadInvestigation (some d) = .ok (d, loaded) ∧ loaded.transcript = events ∧
        ∀ later : Nat × AuditLedger,
        replayGovernedToolTrace (gateway tooling loaded.config.budget.maxToolResultBytes) loaded
          req.sources later = .ok () := by
  obtain ⟨rfl, hstopped, bound, hbound, hconcluded⟩ := run_concluded (Prod.ext hrun rfl)
  obtain ⟨n, events, trace, answers, response, call, proposal, input, htranscript, hcalls, hname,
    hevents, hinvocations, hscored, -, hincident, hquestion, hpolicy, hobserved, hsources, htrace, -⟩ :=
    hconcluded.concluded
  have hreport := scoreProposal_ok hscored
  have hreportSources : report.sourceManifestHashes = sortedSources bound.hashes := by
    rw [hreport.sources, hsources]
  -- What the gateway answered is what it answers at any time.
  have hrespond : ∀ a ∈ answers, ∃ k,
      respond (tooling config.budget.maxToolResultBytes k) a.1 = .ok a.2 := by
    intro a ha
    have hinvoked : (a.1, Except.ok a.2) ∈ _ := hinvocations ▸ List.mem_map_of_mem ha
    obtain ⟨later, hanswer⟩ := hstopped.answered _ hinvoked
    exact ⟨_, gateway_respond hanswer⟩
  have hresponses : Responses answers := by
    intro a ha
    obtain ⟨k, hk⟩ := hrespond a ha
    exact Tools.respond_response hk
  have hanswers : ∀ a ∈ answers, ∀ m, respond (tooling config.budget.maxToolResultBytes m)
      { a.1 with auditDir := none } = .ok a.2 := by
    intro a ha m
    obtain ⟨k, hk⟩ := hrespond a ha
    obtain ⟨j, called, hrequest⟩ := htranscript.requested a ha
    have hid : a.1.callId.isSome = true := by rw [hrequest]; rfl
    rw [← hsteady k m a.1 hid, hk]
  have hhex : ∀ h ∈ report.sourceManifestHashes, isSha256 h.2 = true := by
    intro h hh
    rw [hreportSources] at hh
    exact bound.hex h ((List.perm_insertionSort _ _).mem_iff.mp hh)
  have hsha : isSha256 report.reportSha256 = true := hreport.sha256 ▸ digest_hex _
  have hsequence : ∀ e ∈ recordEvent (askedEvents events response) .proposalAccepted
      (acceptedPayload call report), 1 ≤ e.sequence :=
    (chained_record (chained_record htranscript.chained)).sequence_le
  rw [hevents]
  have hissues : transcriptIssues (loadedOf T report config req (recordEvent
      (askedEvents events response) .proposalAccepted (acceptedPayload call report))) = [] :=
    transcriptIssues_nil htranscript hresponses hcalls hname (hreport.trace.trans htrace) rfl
  generalize hfinal : recordEvent (askedEvents events response) .proposalAccepted
    (acceptedPayload call report) = transcript at hissues hsequence ⊢
  have hvalid : (manifestOf T report config req transcript).Valid := manifestOf_valid hsha hhex
  refine ⟨_, exportInvestigation_ok hsha hhex, ?_, ?_, loadedOf T report config req transcript, ?_,
    rfl, ?_⟩
  · exact validateInvestigation_ok hconfig hscored hpolicy hincident hquestion hsequence hvalid hissues
      rfl
  · exact validateInvestigation_ok hconfig hscored hpolicy hincident hquestion hsequence hvalid hissues
      (sourceIssues_ok hbound hreportSources)
  · exact loadInvestigation_ok hvalid hconfig hreport.valid hsequence
  · exact replayGovernedToolTrace_ok htranscript
      ⟨rfl, hreport.incidentId.trans hincident, hreportSources⟩ hconfig hreq hresponses hanswers
      (hreport.trace.trans htrace) hfinal.symm (hreport.observed.trans (congrArg sortedSet hobserved))

/-- The artifact of a run that returned a report has no issue, with its sources
or without, and its trace replays on them. -/
theorem run_validates_and_replays
    {bindSources : SourceDirs → Except Tools.Error BoundSources}
    {complete : ModelRoute → List ChatMessage → List Json → σ →
      Except ProviderError ProviderResponse × σ}
    {tooling : Nat → Nat → Tooling} {config : InvestigationConfig} {router : ModelRouter}
    {req : InvestigationRequest} {world : σ × (Nat × AuditLedger)}
    (hconfig : config.Valid) (hreq : req.Valid)
    (hsteady : Steady tooling config.budget.maxToolResultBytes)
    (hrun : (run (governed bindSources complete tooling config) config router req world).1 =
      .ok (report, events)) :
    ∃ d : Directory T, exportInvestigation report config req events = .ok d ∧
      validateInvestigation bindSources (some d) none = .ok [] ∧
      validateInvestigation bindSources (some d) (some req.sources) = .ok [] ∧
      ∃ loaded, loadInvestigation (some d) = .ok (d, loaded) ∧ ∀ later : Nat × AuditLedger,
        replayGovernedToolTrace (gateway tooling loaded.config.budget.maxToolResultBytes) loaded
          req.sources later = .ok () := by
  obtain ⟨d, hexport, hvalidate, hvalidate', loaded, hload, -, hreplay⟩ :=
    run_artifact (T := T) hconfig hreq hsteady hrun
  exact ⟨d, hexport, hvalidate, hvalidate', loaded, hload, hreplay⟩

end

/-- The artifact of a run that queries once and concludes. -/
theorem run_validates_and_replays_sample : ∃ report events,
    (run Sample.environment Sample.config newRouter Sample.req Sample.world).1 =
      .ok (report, events) ∧
    ∃ d : Directory Sample.Text,
      exportInvestigation report Sample.config Sample.req events = .ok d ∧
      validateInvestigation Sample.bindSources (some d) none = .ok [] ∧
      validateInvestigation Sample.bindSources (some d) (some Sample.req.sources) = .ok [] ∧
      ∃ loaded, loadInvestigation (some d) = .ok (d, loaded) ∧ ∀ later : Nat × AuditLedger,
        replayGovernedToolTrace
          (gateway Sample.tooling loaded.config.budget.maxToolResultBytes) loaded
          Sample.req.sources later = .ok () := by
  obtain ⟨report, events, hrun, -⟩ := Sample.run_returns
  exact ⟨report, events, hrun, run_validates_and_replays Sample.config_valid Sample.req_valid
    Sample.tooling_steady hrun⟩

end Paic.Investigation
