import Paic.Investigation.Orchestrator

/-!
# What a run has done

`Transcript` says which events a number of rounds can have recorded, beside
the trace and the answers of the gateway. `rounds_reached` takes the bounds and
the transcript through a whole run: `Stopped` holds however it ends, and
`Concluded` where it returns a report.
-/

namespace Paic.Investigation

open Tools (JsonText UnicodeText Uuids SourceHashes ToolRequest ToolResponse BoundSources)

-- ---------------------------------------------------------------------------
-- Completions
-- ---------------------------------------------------------------------------

def successes (log : List (Except ProviderError ProviderResponse)) : Nat :=
  log.countP fun c => c.isOk

def failures (log : List (Except ProviderError ProviderResponse)) : Nat :=
  log.countP fun c => !c.isOk

@[simp] theorem successes_append : successes (xs ++ ys) = successes xs + successes ys :=
  List.countP_append

@[simp] theorem failures_append : failures (xs ++ ys) = failures xs + failures ys :=
  List.countP_append

@[simp] theorem successes_ok : successes [.ok r] = 1 := rfl
@[simp] theorem successes_error : successes [.error e] = 0 := rfl
@[simp] theorem failures_ok : failures [.ok r] = 0 := rfl
@[simp] theorem failures_error : failures [.error e] = 1 := rfl

/-- What one call of the router adds to the log, from a number of failures on. -/
structure Completion (limit before : Nat) (result : Except ProviderError ProviderResponse)
    (log : List (Except ProviderError ProviderResponse)) (after : Nat) : Prop where
  successes : successes log = if result.isOk then 1 else 0
  counted : after = before + failures log
  continues : result.isOk = true → failures log = 0 ∨ after ≤ limit
  ends : failures log ≤ 1 ∨ after ≤ limit + 1

/-- A call of the router changes the world, the router and the log alone. -/
theorem tryRoutes_spec {env : Environment σ} {routes : List (ModelRoute × Nat)} {s : State σ}
    (h : tryRoutes env config tools routes last s = (result, s')) :
    ∃ world router log, s' = { s with world, router, completions := s.completions ++ log } ∧
      Completion config.budget.maxProviderFailures s.router.failures result log router.failures := by
  induction routes generalizing last s with
  | nil =>
    cases last with
    | none =>
      obtain ⟨rfl, rfl⟩ := Prod.mk.inj h
      exact ⟨s.world, s.router, [], by simp, rfl, rfl, fun _ => .inl rfl, .inl (Nat.zero_le 1)⟩
    | some e =>
      obtain ⟨rfl, rfl⟩ := Prod.mk.inj h
      exact ⟨s.world, s.router, [], by simp, rfl, rfl, fun _ => .inl rfl, .inl (Nat.zero_le 1)⟩
  | cons candidate rest ih =>
    obtain ⟨route, index⟩ := candidate
    rw [tryRoutes] at h
    split at h
    · next response world hcomplete =>
      obtain ⟨rfl, rfl⟩ := Prod.mk.inj h
      exact ⟨_, _, [.ok response], rfl, rfl, rfl, fun _ => .inl rfl, .inl (Nat.zero_le 1)⟩
    · next e world hcomplete =>
      have hstop : ∃ world' router log, s.failed route e world =
          { s with world := world', router, completions := s.completions ++ log } ∧
          Completion config.budget.maxProviderFailures s.router.failures (.error e) log
            router.failures :=
        ⟨_, _, [.error e], rfl, rfl, rfl, fun h => absurd h nofun, .inl (Nat.le_refl 1)⟩
      simp only at h
      split at h
      · obtain ⟨rfl, rfl⟩ := Prod.mk.inj h
        exact hstop
      · next hlimit =>
        split at h
        · obtain ⟨world', router, log, rfl, hlog⟩ := ih h
          have hsuccesses : successes ([.error e] ++ log) = successes log := by
            rw [successes_append, successes_error, Nat.zero_add]
          have hfailures : failures ([.error e] ++ log) = 1 + failures log := by
            rw [failures_append, failures_error]
          have hcounted : router.failures = s.router.failures + 1 + failures log := hlog.counted
          have hcurrent : s.router.failures + 1 ≤ config.budget.maxProviderFailures :=
            Nat.not_lt.mp hlimit
          refine ⟨world', router, [.error e] ++ log, by simp [State.failed], ?_, ?_, ?_, ?_⟩
          · rw [hsuccesses, hlog.successes]
          · rw [hfailures, hcounted, Nat.add_assoc]
          · intro hok
            rcases hlog.continues hok with hzero | hle
            · exact .inr (by omega)
            · exact .inr hle
          · rcases hlog.ends with hone | hle
            · exact .inr (by omega)
            · exact .inr hle
        · obtain ⟨rfl, rfl⟩ := Prod.mk.inj h
          exact hstop

-- ---------------------------------------------------------------------------
-- Transcripts
-- ---------------------------------------------------------------------------

section
variable [Hashing] [UnicodeText] [JsonText] [Uuids] [FloatMath] [ProposalModels] [Schemas]

/-- A response that does not disagree with the sources that were bound. -/
def Lineage (bound : BoundSources) (answer : ToolResponse) : Prop :=
  answer.executionStatus = .success → Tools.Equal
    (SourceHashes.modelDump answer.sourceManifestHashes) (SourceHashes.modelDump bound.hashes)

/-- The events after a response of the model. -/
def askedEvents (events : List TranscriptEvent) (response : ProviderResponse) :
    List TranscriptEvent :=
  recordEvent events .providerResponse (providerEventPayload response)

/-- The events, the trace and the answers that a number of rounds lead to. -/
inductive Transcript (config : InvestigationConfig) (req : InvestigationRequest)
    (bound : BoundSources) : Nat → List TranscriptEvent → List ToolTraceEntry →
      List (ToolRequest × ToolResponse) → Prop
  | start : Transcript config req bound 0 [] [] []
  | asked (h : Transcript config req bound n events trace answers) (response : ProviderResponse) :
    Transcript config req bound (n + 1) (askedEvents events response) trace answers
  | rejected (h : Transcript config req bound n events trace answers)
    (hcalls : response.toolCalls = [call]) (hname : call.name = submitTool) (error : String) :
    Transcript config req bound (n + 1)
      (recordEvent (askedEvents events response) .proposalRejected (rejectedPayload call error))
      trace answers
  | answered (h : Transcript config req bound n events trace answers)
    (hcalls : response.toolCalls = [call]) (hname : call.name ≠ submitTool)
    (htool : gatewayName call.name ∈ config.allowedTools) (hlineage : Lineage bound answer) :
    Transcript config req bound (n + 1)
      (recordEvent (askedEvents events response) .toolResult
        (toolResultPayload call (traceEntry trace (gatewayName call.name) answer) answer))
      (trace ++ [traceEntry trace (gatewayName call.name) answer])
      (answers ++ [(toolRequest config req (n + 1) call, answer)])

-- ---------------------------------------------------------------------------
-- Runs
-- ---------------------------------------------------------------------------

/-- A request of the run to the gateway. -/
structure Governed (config : InvestigationConfig) (req : InvestigationRequest)
    (request : ToolRequest) : Prop where
  tool : request.tool ∈ config.allowedTools
  role : request.role = .investigator
  incidentId : request.incidentId = req.incidentId
  datasetDir : request.datasetDir = req.datasetDir
  analyticsDir : request.analyticsDir = req.analyticsDir
  detectionDir : request.detectionDir = req.detectionDir
  impactDir : request.impactDir = req.impactDir
  evidenceDir : request.evidenceDir = req.evidenceDir

/-- What holds of the calls of a run however it ends. -/
structure Stopped (env : Environment σ) (config : InvestigationConfig)
    (req : InvestigationRequest) (rounds : Nat) (s : State σ) : Prop where
  successes : successes s.completions ≤ rounds
  failures : failures s.completions ≤ config.budget.maxProviderFailures + 1
  invocations : s.invocations.length ≤ config.budget.maxToolCalls
  governed : ∀ i ∈ s.invocations, Governed config req i.1
  answered : ∀ i ∈ s.invocations, ∃ world, (env.invoke i.1 world).1 = i.2

/-- What holds after `n` rounds, and after a completion of the next one when
`completed` is `n + 1`. -/
structure Reached (env : Environment σ) (config : InvestigationConfig)
    (req : InvestigationRequest) (bound : BoundSources) (completed n : Nat) (s : State σ) :
    Prop where
  stopped : Stopped env config req completed s
  failures : failures s.completions = 0 ∨ s.router.failures ≤ config.budget.maxProviderFailures
  counted : Investigation.failures s.completions ≤ s.router.failures
  toolCalls : s.toolCalls = s.invocations.length
  transcript : ∃ answers, Transcript config req bound n s.events s.trace answers ∧
    s.invocations = answers.map (fun a => (a.1, .ok a.2)) ∧
    s.observedEvidence = answers.flatMap fun a => observedIn a.2

/-- A run that returned a report. -/
structure Concluded (config : InvestigationConfig) (req : InvestigationRequest)
    (bound : BoundSources) (s : State σ) (report : InvestigationReport) : Prop where
  concluded : ∃ n events trace answers response call proposal input,
    Transcript config req bound n events trace answers ∧
    response.toolCalls = [call] ∧ call.name = submitTool ∧
    s.events = recordEvent (askedEvents events response) .proposalAccepted
      (acceptedPayload call report) ∧
    s.invocations = answers.map (fun a => (a.1, .ok a.2)) ∧
    scoreProposal proposal input = .ok report ∧
    input.investigationId = config.investigationId ∧ input.incidentId = req.incidentId ∧
    input.question = req.question ∧ input.policy = config.decision ∧
    input.observedEvidence = (answers.flatMap fun a => observedIn a.2) ∧
    input.sourceHashes = bound.hashes ∧ input.trace = trace ∧
    input.totalTokens ≤ config.budget.maxTotalTokens

/-- What holds when a round ends. -/
def After (env : Environment σ) (config : InvestigationConfig) (req : InvestigationRequest)
    (bound : BoundSources) (completed n : Nat) : Outcome → State σ → Prop
  | .next, s => Reached env config req bound completed (n + 1) s
  | .returned report, s => Stopped env config req completed s ∧ Concluded config req bound s report
  | .raised _, s => Stopped env config req completed s

variable {env : Environment σ} {config : InvestigationConfig} {req : InvestigationRequest}
  {bound : BoundSources} {s s' : State σ}

omit [Hashing] [UnicodeText] [JsonText] [Uuids] [FloatMath] [ProposalModels] [Schemas] in
theorem Stopped.congr (h : Stopped env config req n s) (hcompletions : s'.completions = s.completions)
    (hinvocations : s'.invocations = s.invocations) : Stopped env config req n s' :=
  ⟨hcompletions ▸ h.successes, hcompletions ▸ h.failures, hinvocations ▸ h.invocations,
    hinvocations ▸ h.governed, hinvocations ▸ h.answered⟩

omit [Hashing] [UnicodeText] [JsonText] [Uuids] [FloatMath] [ProposalModels] [Schemas] in
theorem Stopped.mono (h : Stopped env config req m s) (hm : m ≤ n) : Stopped env config req n s :=
  ⟨h.successes.trans hm, h.failures, h.invocations, h.governed, h.answered⟩

omit [UnicodeText] [JsonText] [FloatMath] [ProposalModels] [Schemas] in
theorem complete_reached (h : Reached env config req bound n n s)
    (hcomplete : complete env config tools s = (result, s')) :
    Stopped env config req (n + 1) s' ∧
      (result.isOk = true → Reached env config req bound (n + 1) n s') := by
  obtain ⟨world, router, log, rfl, hlog⟩ := tryRoutes_spec hcomplete
  have hsuccesses : successes (s.completions ++ log) ≤ n + 1 := by
    have hone : successes log ≤ 1 := by rw [hlog.successes]; split <;> decide
    rw [successes_append]
    exact Nat.add_le_add h.stopped.successes hone
  have hcounted : failures (s.completions ++ log) ≤ router.failures := by
    rw [failures_append, hlog.counted]
    exact Nat.add_le_add_right h.counted _
  have hfailures : failures (s.completions ++ log) ≤ config.budget.maxProviderFailures + 1 := by
    rcases hlog.ends with hone | hle
    · rw [failures_append]
      have := h.counted
      rcases h.failures with hzero | hle
      · omega
      · omega
    · exact Nat.le_trans hcounted hle
  have hstopped : Stopped env config req (n + 1)
      { s with world, router, completions := s.completions ++ log } :=
    ⟨hsuccesses, hfailures, h.stopped.invocations, h.stopped.governed, h.stopped.answered⟩
  refine ⟨hstopped, fun hok => ⟨hstopped, ?_, hcounted, h.toolCalls, h.transcript⟩⟩
  rcases hlog.continues hok with hzero | hle
  · rcases h.failures with hnone | hle
    · exact .inl (by simp [hnone, hzero])
    · exact .inr (by rw [hlog.counted, hzero]; exact hle)
  · exact .inr hle

omit [UnicodeText] [JsonText] [FloatMath] [ProposalModels] [Schemas] in
/-- Messages change nothing that is counted. -/
theorem Reached.say (h : Reached env config req bound m n s) :
    Reached env config req bound m n (s.say messages) :=
  ⟨h.stopped.congr rfl rfl, h.failures, h.counted, h.toolCalls, h.transcript⟩

omit [UnicodeText] [JsonText] [FloatMath] [ProposalModels] [Schemas] in
theorem Reached.asked (h : Reached env config req bound m n s) (response : ProviderResponse) :
    Reached env config req bound m (n + 1) (s.asked response) := by
  obtain ⟨answers, htranscript, hinvocations, hobserved⟩ := h.transcript
  exact ⟨h.stopped.congr rfl rfl, h.failures, h.counted, h.toolCalls, answers,
    htranscript.asked response, hinvocations, hobserved⟩

omit [Schemas] in
theorem submit_after (h : Reached env config req bound m n s)
    (htokens : s.totalTokens ≤ config.budget.maxTotalTokens)
    (hcalls : response.toolCalls = [call]) (hname : call.name = submitTool)
    (hsubmit : submit config req bound call (s.asked response) = (outcome, s')) :
    After env config req bound m n outcome s' := by
  obtain ⟨answers, htranscript, hinvocations, hobserved⟩ := h.transcript
  unfold submit at hsubmit
  simp only at hsubmit
  split at hsubmit
  · next error herror =>
    obtain ⟨rfl, rfl⟩ := Prod.mk.inj hsubmit
    exact ⟨h.stopped.congr rfl rfl, h.failures, h.counted, h.toolCalls, answers,
      htranscript.rejected hcalls hname error, hinvocations, hobserved⟩
  · next report hreport =>
    obtain ⟨rfl, rfl⟩ := Prod.mk.inj hsubmit
    obtain ⟨proposal, -, hscored⟩ := Checks.bind_eq_ok.mp hreport
    exact ⟨h.stopped.congr rfl rfl, ⟨n, s.events, s.trace, answers, response, call, proposal, _, htranscript,
      hcalls, hname, rfl, hinvocations, hscored, rfl, rfl, rfl, rfl, hobserved, rfl, rfl, htokens⟩⟩

omit [UnicodeText] [JsonText] [FloatMath] [ProposalModels] [Schemas] in
theorem toolRequest_governed (htool : gatewayName call.name ∈ config.allowedTools) :
    Governed config req (toolRequest config req n call) :=
  ⟨htool, rfl, rfl, rfl, rfl, rfl, rfl, rfl⟩

omit [Schemas] in
theorem callTool_after (h : Reached env config req bound m n s)
    (hcalls : response.toolCalls = [call]) (hname : call.name ≠ submitTool)
    (hcall : callTool env config req bound (n + 1) call (s.asked response) = (outcome, s')) :
    After env config req bound m n outcome s' := by
  rcases hanswer : env.invoke (toolRequest config req (n + 1) call) (s.asked response).world with
    ⟨answer, world⟩
  simp only [callTool, hanswer] at hcall
  split at hcall
  · obtain ⟨rfl, rfl⟩ := Prod.mk.inj hcall
    exact (h.asked response).say
  · next htool =>
    rw [not_not] at htool
    split at hcall
    · obtain ⟨rfl, rfl⟩ := Prod.mk.inj hcall
      exact h.stopped.congr rfl rfl
    · next hbudget =>
      have hlength : (s.invocations ++ [(toolRequest config req (n + 1) call, answer)]).length ≤
          config.budget.maxToolCalls := by
        have hcalled : s.toolCalls + 1 ≤ config.budget.maxToolCalls := Nat.not_lt.mp hbudget
        rw [List.length_append, ← h.toolCalls]
        exact hcalled
      have hstopped : Stopped env config req m
          { s.asked response with
            world
            toolCalls := s.toolCalls + 1
            invocations := s.invocations ++ [(toolRequest config req (n + 1) call, answer)] } := by
        refine ⟨h.stopped.successes, h.stopped.failures, hlength, fun i hi => ?_, fun i hi => ?_⟩
        · rcases List.mem_append.mp hi with hi | hi
          · exact h.stopped.governed i hi
          · rw [List.mem_singleton.mp hi]
            exact toolRequest_governed htool
        · rcases List.mem_append.mp hi with hi | hi
          · exact h.stopped.answered i hi
          · rw [List.mem_singleton.mp hi]
            exact ⟨_, congrArg Prod.fst hanswer⟩
      cases answer with
      | error e =>
        obtain ⟨rfl, rfl⟩ := Prod.mk.inj hcall
        exact hstopped
      | ok answer =>
        dsimp only at hcall
        split at hcall
        · obtain ⟨rfl, rfl⟩ := Prod.mk.inj hcall
          exact hstopped
        · next hlineage =>
          obtain ⟨rfl, rfl⟩ := Prod.mk.inj hcall
          have hlineage : Lineage bound answer := by
            intro hsuccess
            by_contra hdiffers
            exact hlineage ⟨hsuccess, hdiffers⟩
          obtain ⟨answers, htranscript, hinvocations, hobserved⟩ := h.transcript
          refine ⟨hstopped.congr rfl rfl, h.failures, h.counted, ?_, _,
            htranscript.answered hcalls hname htool hlineage, ?_, ?_⟩
          · change s.toolCalls + 1 = (s.invocations ++ [_]).length
            rw [List.length_append, h.toolCalls]
            rfl
          · exact (congrArg (· ++ _) hinvocations).trans (by simp)
          · exact (congrArg (· ++ _) hobserved).trans (by simp)

omit [Schemas] in
theorem handle_after (h : Reached env config req bound m n s)
    (htokens : s.totalTokens ≤ config.budget.maxTotalTokens)
    (hhandle : handle env config req bound (n + 1) response (s.asked response) = (outcome, s')) :
    After env config req bound m n outcome s' := by
  unfold handle at hhandle
  split at hhandle
  · obtain ⟨rfl, rfl⟩ := Prod.mk.inj hhandle
    exact (h.asked response).say
  · next call hcalls =>
    split at hhandle
    · next hname => exact submit_after h htokens hcalls hname hhandle
    · next hname => exact callTool_after h hcalls hname hhandle
  · obtain ⟨rfl, rfl⟩ := Prod.mk.inj hhandle
    exact (h.asked response).say

theorem round_after (h : Reached env config req bound n n s)
    (hround : round env config req bound (n + 1) s = (outcome, s')) :
    After env config req bound (n + 1) n outcome s' := by
  unfold round at hround
  split at hround
  · next e s₁ hcomplete =>
    obtain ⟨rfl, rfl⟩ := Prod.mk.inj hround
    exact (complete_reached h hcomplete).1
  · next response s₁ hcomplete =>
    have hreached := (complete_reached h hcomplete).2 rfl
    have hspent : Reached env config req bound (n + 1) n (s₁.spend response.usage.totalTokens) :=
      ⟨hreached.stopped.congr rfl rfl, hreached.failures, hreached.counted,
        hreached.toolCalls, hreached.transcript⟩
    simp only at hround
    split at hround
    · obtain ⟨rfl, rfl⟩ := Prod.mk.inj hround
      exact hspent.stopped
    · next htokens => exact handle_after hspent (Nat.not_lt.mp htokens) hround

theorem rounds_reached (h : Reached env config req bound n n s)
    (hrounds : rounds env config req bound left (n + 1) s = (result, s')) :
    Stopped env config req (n + left) s' ∧
      ∀ report events, result = .ok (report, events) →
        events = s'.events ∧ Concluded config req bound s' report := by
  induction left generalizing n s with
  | zero =>
    obtain ⟨rfl, rfl⟩ := Prod.mk.inj hrounds
    exact ⟨h.stopped, fun report events hok => absurd hok nofun⟩
  | succ left ih =>
    have hle : n + 1 ≤ n + (left + 1) := by omega
    rw [rounds] at hrounds
    split at hrounds
    · next s₁ hround =>
      have hreached : Reached env config req bound (n + 1) (n + 1) s₁ := round_after h hround
      rw [show n + (left + 1) = n + 1 + left by omega]
      exact ih hreached hrounds
    · next report s₁ hround =>
      obtain ⟨hstopped, hconcluded⟩ : Stopped env config req (n + 1) s₁ ∧
        Concluded config req bound s₁ report := round_after h hround
      obtain ⟨rfl, rfl⟩ := Prod.mk.inj hrounds
      refine ⟨hstopped.mono hle, fun report' events hok => ?_⟩
      obtain ⟨rfl, rfl⟩ := Prod.mk.inj (Except.ok.inj hok)
      exact ⟨rfl, hconcluded⟩
    · next e s₁ hround =>
      have hstopped : Stopped env config req (n + 1) s₁ := round_after h hround
      obtain ⟨rfl, rfl⟩ := Prod.mk.inj hrounds
      exact ⟨hstopped.mono hle, fun report events hok => absurd hok nofun⟩

omit [Hashing] [UnicodeText] [JsonText] [Uuids] [FloatMath] [ProposalModels] [Schemas] in
theorem startState_stopped : Stopped env config req 0 (startState router world messages) :=
  ⟨Nat.le_refl 0, Nat.zero_le _, Nat.zero_le _, fun _ h => absurd h nofun, fun _ h => absurd h nofun⟩

omit [UnicodeText] [JsonText] [FloatMath] [ProposalModels] [Schemas] in
theorem startState_reached : Reached env config req bound 0 0 (startState router world messages) :=
  { stopped := startState_stopped
    failures := .inl rfl
    counted := Nat.zero_le _
    toolCalls := rfl
    transcript := ⟨[], .start, rfl, rfl⟩ }

theorem run_stopped : Stopped env config req config.budget.maxRounds
    (run env config router req world).2 := by
  unfold run
  split
  · exact startState_stopped.mono (Nat.zero_le _)
  · next bound hbound =>
    have hstart : Reached env config req bound 0 0
        (startState router world (startMessages req bound)) := startState_reached
    have hrounds : Stopped env config req (0 + config.budget.maxRounds) _ :=
      (rounds_reached hstart rfl).1
    rwa [Nat.zero_add] at hrounds

theorem run_concluded (h : run env config router req world = (.ok (report, events), s')) :
    events = s'.events ∧ Stopped env config req config.budget.maxRounds s' ∧
      ∃ bound, env.bindSources req.sources = .ok bound ∧ Concluded config req bound s' report := by
  have hstopped : Stopped env config req config.budget.maxRounds s' := by
    have hrun : Stopped env config req config.budget.maxRounds
        (run env config router req world).2 := run_stopped
    rwa [h] at hrun
  unfold run at h
  split at h
  · exact absurd (Prod.mk.inj h).1 nofun
  · next bound hbound =>
    have hstart : Reached env config req bound 0 0
        (startState router world (startMessages req bound)) := startState_reached
    obtain ⟨hevents, hconcluded⟩ := (rounds_reached hstart h).2 report events rfl
    exact ⟨hevents, hstopped, bound, hbound, hconcluded⟩

end

end Paic.Investigation
