import Paic.Investigation.Artifact
import Paic.Investigation.Grounded
import Paic.Tools.Answers

/-!
# A transcript agrees with its report

What the validation of an artifact looks for in a transcript holds of every
transcript that a run records, when the default gateway answers. Each fact is
one induction over `Transcript`.
-/

namespace Paic.Investigation

open Remediation (reasonIf reasonIf_nil)
open Tools (Arguments JsonText UnicodeText Uuids Pydantic SourceHashes ToolRequest ToolResponse
  BoundSources)

section
variable [Hashing] [Pydantic] [Uuids]

-- ---------------------------------------------------------------------------
-- Pairing
-- ---------------------------------------------------------------------------

/-- Every answer is what the default gateway says of its request. -/
def Responses [UnicodeText] (answers : List (ToolRequest × ToolResponse)) : Prop :=
  ∀ a ∈ answers, Tools.Response a.1 a.2

/-- The fields of a call in a provider's event. -/
def callFields (call : ProviderToolCall) : List (String × Json) :=
  [("id", .str call.callId), ("name", .str call.name), ("arguments", .obj call.arguments)]

omit [Pydantic] [Uuids] in
theorem onlyCall_asked (hcalls : response.toolCalls = [call]) :
    onlyCall (newEvent events .providerResponse (providerEventPayload response)) =
      some (callFields call) := by
  have hlookup : (providerEventPayload response).lookup "tool_calls" =
      some (.arr (response.toolCalls.map ProviderToolCall.modelDump)) := rfl
  simp only [onlyCall, newEvent, hlookup, hcalls]
  rfl

theorem semanticStep_asked : semanticStep investigationId toolTrace ⟨[], n, k, previous⟩
    (newEvent events .providerResponse payload) =
      ⟨[], n + 1, k, some (newEvent events .providerResponse payload)⟩ :=
  rfl

/-- An event about a proposal is paired with a call of `submit_investigation`. -/
theorem semanticStep_submitted (hcalls : response.toolCalls = [call])
    (hname : call.name = submitTool) (htype : eventType ≠ .providerResponse ∧ eventType ≠ .toolResult)
    (hcall : getKey payload "tool_call_id" = .str call.callId) :
    semanticStep investigationId toolTrace
      ⟨[], n, k, some (newEvent events .providerResponse (providerEventPayload response))⟩
      (newEvent events' eventType payload) = ⟨[], n, k, some (newEvent events' eventType payload)⟩ := by
  have hprevious : (some (newEvent events .providerResponse (providerEventPayload response))).filter
      (·.eventType = .providerResponse) =
      some (newEvent events .providerResponse (providerEventPayload response)) := rfl
  have hevent : (newEvent events' eventType payload).eventType = eventType := rfl
  have hpayload : (newEvent events' eventType payload).payload = payload := rfl
  have hid : getKey (callFields call) "id" = .str call.callId := rfl
  have hsubmit : getKey (callFields call) "name" = .str submitTool := congrArg Json.str hname
  simp [semanticStep, pairedStep, hprevious, onlyCall_asked hcalls, hevent, hpayload, htype.1,
    htype.2, hcall, hid, hsubmit, reasonIf, Tools.Equal.refl]

/-- A response of the gateway is what its request leads the validation to expect. -/
theorem traceIssues_nil [UnicodeText]
    (h : Tools.Response (toolRequest config req n call) answer) :
    traceIssues config.investigationId n call.callId call.name call.arguments
      (traceEntry trace (gatewayName call.name) answer) = [] := by
  have hdecision : Tools.authorize "investigator" (gatewayName call.name) "1.0" call.arguments =
      Tools.decisionOf (toolRequest config req n call) := rfl
  have harguments : (traceEntry trace (gatewayName call.name) answer).arguments =
      (Tools.decisionOf (toolRequest config req n call)).normalizedArguments := h.arguments
  have hcallId : (traceEntry trace (gatewayName call.name) answer).callId =
      callUuid config.investigationId n call.callId (gatewayName call.name) call.arguments := h.callId
  have htool : (traceEntry trace (gatewayName call.name) answer).tool = gatewayName call.name := rfl
  have hstatus : (traceEntry trace (gatewayName call.name) answer).executionStatus =
      answer.executionStatus := rfl
  have hcode : (traceEntry trace (gatewayName call.name) answer).errorCode =
      answer.error.map Tools.ToolError.code := rfl
  simp only [traceIssues, hdecision, harguments, hcallId, htool, hstatus, hcode]
  cases hexecution : answer.executionStatus with
  | success =>
    obtain ⟨hallowed, herror⟩ := h.success hexecution
    simp [reasonIf, hallowed, herror, Tools.Equal.refl]
  | error =>
    obtain ⟨e, herror, hcode⟩ := h.error hexecution
    simp [reasonIf, herror, hcode, Tools.Equal.refl]

theorem semanticStep_answered [UnicodeText] (hcalls : response.toolCalls = [call])
    (hentry : toolTrace[k]? = some (traceEntry trace (gatewayName call.name) answer))
    (h : Tools.Response (toolRequest config req n call) answer) :
    semanticStep config.investigationId toolTrace
      ⟨[], n, k, some (newEvent events .providerResponse (providerEventPayload response))⟩
      (newEvent events' .toolResult (toolResultPayload call entry answer)) =
      ⟨[], n, k + 1, some (newEvent events' .toolResult (toolResultPayload call entry answer))⟩ := by
  have hprevious : (some (newEvent events .providerResponse (providerEventPayload response))).filter
      (·.eventType = .providerResponse) =
      some (newEvent events .providerResponse (providerEventPayload response)) := rfl
  have hid : getKey (callFields call) "id" = .str call.callId := rfl
  have hname : getKey (callFields call) "name" = .str call.name := rfl
  have harguments : getKey (callFields call) "arguments" = .obj call.arguments := rfl
  have htype : (newEvent events' .toolResult (toolResultPayload call entry answer)).eventType =
      .toolResult := rfl
  have hcall : getKey (newEvent events' .toolResult (toolResultPayload call entry answer)).payload
      "tool_call_id" = .str call.callId := rfl
  simp [semanticStep, pairedStep, toolResultStep, hprevious, onlyCall_asked hcalls, htype, hcall, hid,
    hname, harguments, hentry, traceIssues_nil h, reasonIf, Tools.Equal.refl]

/-- The loop of the validation finds nothing, and counts the rounds and the
trace entries, when the report's trace goes on from this one. -/
theorem Transcript.semantics [UnicodeText]
    (h : Transcript config req bound n events trace answers) (hanswers : Responses answers)
    (later : List ToolTraceEntry) :
    events.foldl (semanticStep config.investigationId (trace ++ later)) ⟨[], 0, 0, none⟩ =
      ⟨[], n, trace.length, events.getLast?⟩ := by
  induction h generalizing later with
  | start => rfl
  | asked h response ih =>
    simp only [askedEvents, recordEvent, List.foldl_append, ih hanswers, List.foldl_cons,
      List.foldl_nil, semanticStep_asked, List.getLast?_concat]
  | rejected h hcalls hname error ih =>
    simp only [askedEvents, recordEvent, List.foldl_append, ih hanswers, List.foldl_cons,
      List.foldl_nil, semanticStep_asked, List.getLast?_concat]
    exact semanticStep_submitted hcalls hname ⟨(by rintro ⟨⟩), by rintro ⟨⟩⟩ rfl
  | @answered n events trace answers call answer response h hcalls hname htool hlineage ih =>
    have hbefore : Responses answers := fun a ha => hanswers a (List.mem_append_left _ ha)
    have hresponse : Tools.Response (toolRequest config req (n + 1) call) answer :=
      hanswers _ (List.mem_append_right _ (List.mem_singleton_self _))
    have hentry : (trace ++ traceEntry trace (gatewayName call.name) answer :: later)[trace.length]? =
        some (traceEntry trace (gatewayName call.name) answer) := by simp
    rw [List.append_assoc, List.singleton_append]
    simp only [askedEvents, recordEvent, List.foldl_append, ih hbefore, List.foldl_cons,
      List.foldl_nil, semanticStep_asked, List.getLast?_concat, List.length_append,
      List.length_singleton]
    exact semanticStep_answered hcalls hentry hresponse

-- ---------------------------------------------------------------------------
-- The other comparisons
-- ---------------------------------------------------------------------------

omit [Pydantic] [Uuids] in
theorem chainHolds_iff : chainHolds n previous events = true ↔ Chained n previous events := by
  induction events generalizing n previous with
  | nil => simp [chainHolds, Chained]
  | cons e rest ih =>
    rw [chainHolds, Chained, ← ih]
    split
    · next hwrong => simp only [Bool.false_eq_true, false_iff, not_and]; tauto
    · next hright =>
      simp only [not_or, not_not] at hright
      exact (and_iff_right hright).symm

omit [Pydantic] [Uuids] in
theorem Chained.sequence_le (h : Chained n previous events) : ∀ e ∈ events, n ≤ e.sequence := by
  induction events generalizing n previous with
  | nil => exact fun _ h => absurd h nofun
  | cons x rest ih =>
    intro e he
    rcases List.mem_cons.mp he with rfl | he
    · exact h.1.1.ge
    · exact Nat.le_of_succ_le (ih h.2 e he)

omit [Hashing] [Pydantic] [Uuids] in
theorem traces_eq {events : List TranscriptEvent} : (events.filter (·.eventType = .toolResult)).map
    (fun e : TranscriptEvent => getKey e.payload "trace") = events.filterMap traceOf := by
  induction events with
  | nil => rfl
  | cons e rest ih =>
    by_cases htype : e.eventType = .toolResult
    · have htrace : traceOf e = some (getKey e.payload "trace") := if_pos htype
      rw [List.filter_cons_of_pos (by simp [htype]), List.map_cons, ih,
        List.filterMap_cons_some htrace]
    · have htrace : traceOf e = none := if_neg htype
      rw [List.filter_cons_of_neg (by simp [htype]), ih, List.filterMap_cons_none htrace]

omit [Pydantic] in
/-- No proposal was accepted before the run ends. -/
theorem Transcript.unaccepted (h : Transcript config req bound n events trace answers) :
    events.filter (·.eventType = .proposalAccepted) = [] := by
  have hrecord : ∀ (events : List TranscriptEvent) (eventType : EventType) payload,
      eventType ≠ .proposalAccepted →
      (recordEvent events eventType payload).filter (·.eventType = .proposalAccepted) =
        events.filter (·.eventType = .proposalAccepted) := by
    intro events eventType payload htype
    simp [recordEvent, newEvent, htype]
  induction h with
  | start => rfl
  | asked _ response ih => rw [askedEvents, hrecord _ .providerResponse _ (by rintro ⟨⟩), ih]
  | rejected _ _ _ _ ih =>
    rw [hrecord _ .proposalRejected _ (by rintro ⟨⟩), askedEvents,
      hrecord _ .providerResponse _ (by rintro ⟨⟩), ih]
  | answered _ _ _ _ _ ih =>
    rw [hrecord _ .toolResult _ (by rintro ⟨⟩), askedEvents,
      hrecord _ .providerResponse _ (by rintro ⟨⟩), ih]

-- ---------------------------------------------------------------------------
-- What is replayed
-- ---------------------------------------------------------------------------

omit [Hashing] [Pydantic] [Uuids] in
theorem providerArguments_snoc : providerArguments (events ++ [e]) = providerArguments events ++
    match events.getLast? with
    | some last => argumentsBefore last e
    | none => [] := by
  induction events with
  | nil => rfl
  | cons x rest ih =>
    cases rest with
    | nil => simp [providerArguments]
    | cons y rest =>
      rw [List.cons_append, List.cons_append, providerArguments, ← List.cons_append, ih,
        providerArguments, List.getLast?_cons_cons, List.append_assoc]

omit [Pydantic] [Uuids] in
theorem providerArguments_record (eventType : EventType) (h : eventType ≠ .toolResult) :
    providerArguments (recordEvent events eventType payload) = providerArguments events := by
  have hnext : ∀ last, argumentsBefore last (newEvent events eventType payload) = [] :=
    fun last => if_neg fun hboth => h hboth.2
  rw [recordEvent, providerArguments_snoc]
  split <;> simp [hnext]

omit [Pydantic] in
theorem Transcript.arguments (h : Transcript config req bound n events trace answers) :
    providerArguments events = answers.map (·.1.arguments) := by
  have hasked : ∀ (events : List TranscriptEvent) response,
      providerArguments (askedEvents events response) = providerArguments events :=
    fun _ _ => providerArguments_record .providerResponse nofun
  induction h with
  | start => rfl
  | asked _ response ih => rw [hasked, ih]
  | rejected _ _ _ _ ih => rw [providerArguments_record .proposalRejected nofun, hasked, ih]
  | @answered n events trace answers call answer response h hcalls hname htool hlineage ih =>
    have hlast : (askedEvents events response).getLast? =
        some (newEvent events .providerResponse (providerEventPayload response)) := by
      rw [askedEvents, recordEvent, List.getLast?_concat]
    have hbefore : argumentsBefore
        (newEvent events .providerResponse (providerEventPayload response))
        (newEvent (askedEvents events response) .toolResult
          (toolResultPayload call (traceEntry trace (gatewayName call.name) answer) answer)) =
        [call.arguments] := by
      rw [argumentsBefore, if_pos ⟨rfl, rfl⟩, onlyCall_asked hcalls]
      rfl
    rw [recordEvent, providerArguments_snoc, hlast, hasked, ih, List.map_append]
    exact congrArg _ hbefore

end

end Paic.Investigation
