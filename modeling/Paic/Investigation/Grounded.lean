import Paic.Investigation.Transcript

/-!
# Bounded and grounded

However providers and gateway behave, a run makes a bounded number of calls,
and a report that it returns cites only what the gateway showed it.
-/

namespace Paic.Investigation

open Tools (JsonText UnicodeText Uuids SourceHashes BoundSources sortedSet)

-- ---------------------------------------------------------------------------
-- The chain of events
-- ---------------------------------------------------------------------------

section
variable [Hashing]

/-- Events numbered from `n`, each with the hash of the one before. -/
def Chained : Nat → String → List TranscriptEvent → Prop
  | _, _, [] => True
  | n, previous, e :: rest =>
    (e.sequence = n ∧ e.previousEventSha256 = previous ∧ e.eventSha256 = digest e.base) ∧
      Chained (n + 1) e.eventSha256 rest

theorem chained_snoc : Chained n previous (events ++ [e]) ↔ Chained n previous events ∧
    e.sequence = n + events.length ∧
    e.previousEventSha256 = (events.getLast?.map TranscriptEvent.eventSha256).getD previous ∧
    e.eventSha256 = digest e.base := by
  induction events generalizing n previous with
  | nil => simp [Chained]
  | cons x rest ih =>
    have hlast : ((x :: rest).getLast?.map TranscriptEvent.eventSha256).getD previous =
        (rest.getLast?.map TranscriptEvent.eventSha256).getD x.eventSha256 := by
      cases rest <;> simp [List.getLast?_cons]
    have hlength : n + (x :: rest).length = n + 1 + rest.length := by
      rw [List.length_cons]
      omega
    rw [List.cons_append, Chained, ih, Chained, hlast, hlength]
    exact and_assoc.symm

theorem chained_record (h : Chained 1 zeroHash events) :
    Chained 1 zeroHash (recordEvent events eventType payload) :=
  chained_snoc.mpr ⟨h, Nat.add_comm _ _, rfl, rfl⟩

/-- The trace entry in a `tool_result` event. -/
def traceOf (e : TranscriptEvent) : Option Json :=
  if e.eventType = .toolResult then some ((e.payload.lookup "trace").getD .null) else none

theorem traceOf_record (eventType : EventType) (h : eventType ≠ .toolResult) :
    (recordEvent events eventType payload).filterMap traceOf = events.filterMap traceOf := by
  simp [recordEvent, newEvent, traceOf, h]

theorem traceOf_toolResult {entry : ToolTraceEntry} :
    (recordEvent events .toolResult (toolResultPayload call entry answer)).filterMap traceOf =
      events.filterMap traceOf ++ [entry.modelDump] := by
  have htrace : (toolResultPayload call entry answer).lookup "trace" = some entry.modelDump := rfl
  simp [recordEvent, newEvent, traceOf, htrace]

variable [Uuids]

theorem Transcript.chained (h : Transcript config req bound n events trace answers) :
    Chained 1 zeroHash events := by
  induction h with
  | start => trivial
  | asked _ response ih => exact chained_record ih
  | rejected _ _ _ _ ih => exact chained_record (chained_record ih)
  | answered _ _ _ _ _ ih => exact chained_record (chained_record ih)

theorem Transcript.traces (h : Transcript config req bound n events trace answers) :
    events.filterMap traceOf = trace.map ToolTraceEntry.modelDump := by
  have hasked : ∀ (events : List TranscriptEvent) response,
      (askedEvents events response).filterMap traceOf = events.filterMap traceOf :=
    fun _ _ => traceOf_record .providerResponse nofun
  induction h with
  | start => rfl
  | asked _ response ih => rw [hasked, ih]
  | rejected _ _ _ _ ih => rw [traceOf_record .proposalRejected nofun, hasked, ih]
  | answered _ _ _ _ _ ih => rw [traceOf_toolResult, hasked, ih, List.map_append, List.map_singleton]

theorem Transcript.lineage (h : Transcript config req bound n events trace answers) :
    ∀ a ∈ answers, Lineage bound a.2 := by
  induction h with
  | start => exact fun _ h => absurd h nofun
  | asked _ _ ih => exact ih
  | rejected _ _ _ _ ih => exact ih
  | answered _ _ _ _ hlineage ih =>
    intro a ha
    rcases List.mem_append.mp ha with ha | ha
    · exact ih a ha
    · rw [List.mem_singleton.mp ha]
      exact hlineage

end

-- ---------------------------------------------------------------------------
-- Reports
-- ---------------------------------------------------------------------------

section
variable [Hashing] [UnicodeText] [JsonText] [Uuids] [FloatMath] [ProposalModels] [Schemas]

/-- A report that rests on what the gateway answered in its run. -/
structure Grounded (config : InvestigationConfig) (bound : BoundSources) (s : State σ)
    (report : InvestigationReport) (events : List TranscriptEvent) : Prop where
  tokens : report.totalTokens ≤ config.budget.maxTotalTokens
  lineage : ∀ i ∈ s.invocations, ∃ answer, i.2 = .ok answer ∧ Lineage bound answer
  cited : ∀ ref ∈ report.cited, ∃ i ∈ s.invocations, ∃ answer, i.2 = .ok answer ∧
    answer.executionStatus = .success ∧ ref ∈ answer.evidenceRecordIds
  observed : report.observedEvidenceRecordIds = sortedSet (s.invocations.flatMap fun i =>
    match i.2 with
    | .ok answer => observedIn answer
    | .error _ => [])
  chained : Chained 1 zeroHash events
  trace : events.filterMap traceOf = report.toolTrace.map ToolTraceEntry.modelDump

omit [Schemas] in
theorem Concluded.grounded {s : State σ} (h : Concluded config req bound s report) :
    Grounded config bound s report s.events := by
  obtain ⟨n, events, trace, answers, response, call, proposal, input, htranscript, -, -, hevents,
    hinvocations, hscored, -, -, -, -, hobserved, -, htrace, htokens⟩ := h.concluded
  have hreport := scoreProposal_ok hscored
  refine ⟨hreport.tokens ▸ htokens, fun i hi => ?_, fun ref href => ?_, ?_, ?_, ?_⟩
  · obtain ⟨a, ha, rfl⟩ := List.mem_map.mp (hinvocations ▸ hi)
    exact ⟨a.2, rfl, htranscript.lineage a ha⟩
  · obtain ⟨a, ha, hmem⟩ := List.mem_flatMap.mp (hobserved ▸ hreport.cited ref href)
    have hinvoked : (a.1, Except.ok a.2) ∈ s.invocations :=
      hinvocations ▸ List.mem_map_of_mem ha
    unfold observedIn at hmem
    split at hmem
    · next hsuccess => exact ⟨_, hinvoked, a.2, rfl, hsuccess, hmem⟩
    · exact absurd hmem nofun
  · rw [hreport.observed, hobserved, hinvocations, List.flatMap_map]
  · rw [hevents]
    exact chained_record (chained_record htranscript.chained)
  · rw [hevents, traceOf_record .proposalAccepted nofun, askedEvents,
      traceOf_record .providerResponse nofun, htranscript.traces, hreport.trace, htrace]

/-- A run makes no more than its budget of calls, each within the request, and
a report it returns is grounded in them. -/
theorem investigation_bounded_and_grounded (env : Environment σ) (config : InvestigationConfig)
    (router : ModelRouter) (req : InvestigationRequest) (world : σ) :
    Stopped env config req config.budget.maxRounds (run env config router req world).2 ∧
      ∀ report events, (run env config router req world).1 = .ok (report, events) →
        ∃ bound, env.bindSources req.sources = .ok bound ∧
          Grounded config bound (run env config router req world).2 report events := by
  refine ⟨run_stopped, fun report events hok => ?_⟩
  have hrun : run env config router req world =
      (.ok (report, events), (run env config router req world).2) := by
    rw [← hok]
  obtain ⟨rfl, -, bound, hbound, hconcluded⟩ := run_concluded hrun
  exact ⟨bound, hbound, hconcluded.grounded⟩

end

end Paic.Investigation
