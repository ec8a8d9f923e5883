import Paic.Tools.Sample

/-!
# Answered and audited

What the gateway answers a request with, and when it answers at all: the text
a request is rejected with has to fit in a `ToolError`, and the ledger has to
validate and to end with a whole line. `invoke_answers_iff` says that nothing
else is in the way.
-/

namespace Paic.Tools

open Checks

/-- Binding and running raise only what the gateway catches. -/
structure Tooling.Governed (tooling : Tooling) (req : ToolRequest) : Prop where
  bind : ∀ e, tooling.bind req = .error e → e.caught = true
  run : ∀ bound arguments e, tooling.run req bound arguments = .error e → e.caught = true
  rebind : ∀ e, tooling.rebind req = .error e → e.caught = true

-- ---------------------------------------------------------------------------
-- The policy and the tools
-- ---------------------------------------------------------------------------

/-- The codes of the policy's refusals. -/
def refusalCodes : List String :=
  ["unknown_role", "unknown_tool", "forbidden", "unsupported_version", "invalid_arguments"]

theorem authorize_refused [Pydantic] (h : (authorize role tool version arguments).allowed = false) :
    (authorize role tool version arguments).code ∈ refusalCodes ∧
      (authorize role tool version arguments).normalizedArguments = [] := by
  unfold authorize at h ⊢
  split
  · exact ⟨by decide, rfl⟩
  · split
    · exact ⟨by decide, rfl⟩
    · split
      · exact ⟨by decide, rfl⟩
      · split
        · exact ⟨by decide, rfl⟩
        · split
          · exact ⟨by simp [denied, refusalCodes], rfl⟩
          · simp_all

theorem refusalCodes_length (h : code ∈ refusalCodes) : 1 ≤ code.length ∧ code.length ≤ 80 := by
  revert code
  decide

section
variable [JsonText]

omit [JsonText] in
theorem map_error {x : Except ε α} {f : α → β} : x.map f = .error e ↔ x = .error e := by
  cases x <;> simp [Except.map]

theorem parsedRefs_error (h : parsedRefs raw = .error e) : e.caught = true := by
  unfold parsedRefs at h
  split at h
  · exact absurd h nofun
  · exact absurd h nofun
  · exact absurd h nofun
  · rw [← Except.error.inj h]
    rfl

theorem directRefs_error (h : directRefs item = .error e) : e.caught = true := by
  cases item with
  | obj fields =>
    simp only [directRefs, map_error, rawRefs] at h
    split at h
    · exact parsedRefs_error h
    · exact absurd h (by rintro ⟨⟩)
  | _ => exact absurd h (by rintro ⟨⟩)

theorem collectRefs_error (h : collectRefs refs queue = .error e) : e.caught = true := by
  induction refs, queue using collectRefs.induct with
  | case1 refs => rw [collectRefs] at h; exact absurd h (by rintro ⟨⟩)
  | case2 refs item queue ih =>
    rw [collectRefs, bind_eq_error] at h
    rcases h with h | ⟨found, -, h⟩
    · exact directRefs_error h
    · exact ih found h

end

section
variable [Hashing] [JsonText] [UnicodeText] [Pydantic] [Uuids]

omit [Hashing] [UnicodeText] [Pydantic] [Uuids] in
theorem execute_caught {tooling : Tooling} (hg : tooling.Governed req)
    (h : execute tooling req arguments = .error e) : e.caught = true := by
  simp only [execute, bind_eq_error, raiseIf_error] at h
  rcases h with h | ⟨bound, -, h | ⟨⟨result, truncated⟩, -, h | ⟨rebound, -, h⟩⟩⟩
  · exact hg.bind e h
  · exact hg.run bound arguments e h
  · exact hg.rebind e h
  · rcases h with ⟨-, rfl⟩ | ⟨_, -, h | ⟨refs, -, h⟩⟩
    · rfl
    · exact collectRefs_error (map_error.mp h)
    · exact absurd h (by rintro ⟨⟩)

-- ---------------------------------------------------------------------------
-- Responses
-- ---------------------------------------------------------------------------

/-- The policy's decision on a request. -/
def decisionOf (req : ToolRequest) : PolicyDecision :=
  authorize req.role.text req.tool req.toolVersion req.arguments

/-- The text a request is rejected with. -/
def rejection (tooling : Tooling) (req : ToolRequest) : Option String :=
  if (decisionOf req).allowed = false then some (decisionOf req).reason
  else match execute tooling req (decisionOf req).normalizedArguments with
    | .ok _ => none
    | .error e => some e.message

/-- What a response says of its request. -/
structure Response (req : ToolRequest) (r : ToolResponse) : Prop where
  callId : r.callId = callIdOf req
  tool : r.tool = req.tool
  policyDecision : r.policyDecision = if (decisionOf req).allowed then .allow else .deny
  arguments : r.normalizedArguments = (decisionOf req).normalizedArguments
  success : r.executionStatus = .success → (decisionOf req).allowed = true ∧ r.error = none
  error : r.executionStatus = .error → ∃ e, r.error = some e ∧
    e.code = if (decisionOf req).allowed then "request_rejected" else (decisionOf req).code

omit [Hashing] [JsonText] [UnicodeText] [Pydantic] [Uuids] in
theorem failed_ok : failed base code message = .ok r ↔
    ToolError.Valid { code, message } ∧ r = { base with error := some { code, message } } := by
  simp only [failed, bind_eq_ok, toolError_ok, pure_eq_ok]
  constructor
  · rintro ⟨_, ⟨rfl, hv⟩, rfl⟩
    exact ⟨hv, rfl⟩
  · rintro ⟨hv, rfl⟩
    exact ⟨_, ⟨rfl, hv⟩, rfl⟩

omit [UnicodeText] in
theorem respond_response {tooling : Tooling} (h : respond tooling req = .ok r) :
    Response req r := by
  have hdecision : decisionOf req = authorize req.role.text req.tool req.toolVersion req.arguments :=
    rfl
  unfold respond at h
  simp only [← hdecision] at h
  split at h
  · next hdenied =>
    obtain ⟨-, rfl⟩ := failed_ok.mp h
    exact ⟨rfl, rfl, rfl, rfl, fun h => absurd h nofun, fun _ => ⟨_, rfl, by simp [hdenied]⟩⟩
  · next hallowed =>
    rw [Bool.not_eq_false] at hallowed
    split at h
    · obtain rfl := Except.ok.inj h
      exact ⟨rfl, rfl, rfl, rfl, fun _ => ⟨hallowed, rfl⟩, fun h => absurd h nofun⟩
    · split at h
      · obtain ⟨-, rfl⟩ := failed_ok.mp h
        exact ⟨rfl, rfl, rfl, rfl, fun h => absurd h nofun, fun _ => ⟨_, rfl, by simp [hallowed]⟩⟩
      · exact absurd h nofun

omit [UnicodeText] in
/-- A request is answered when the text it is rejected with fits. -/
theorem respond_iff {tooling : Tooling} (hg : tooling.Governed req) :
    (∃ r, respond tooling req = .ok r) ↔
      ∀ m, rejection tooling req = some m → 1 ≤ m.length ∧ m.length ≤ 1000 := by
  have hdecision : decisionOf req = authorize req.role.text req.tool req.toolVersion req.arguments :=
    rfl
  unfold respond rejection
  simp only [← hdecision]
  split
  · next hdenied =>
    have hcode := refusalCodes_length (authorize_refused (hdecision ▸ hdenied)).1
    simp only [failed_ok, ToolError.valid_iff, Option.some.injEq, forall_eq']
    constructor
    · rintro ⟨_, ⟨_, hm⟩, _⟩
      exact hm
    · exact fun hm => ⟨_, ⟨hcode, hm⟩, rfl⟩
  · cases hexecute : execute tooling req (decisionOf req).normalizedArguments with
    | ok done => exact ⟨fun _ m hm => absurd hm (by rintro ⟨⟩), fun _ => ⟨_, rfl⟩⟩
    | error e =>
      simp only [execute_caught hg hexecute, ↓reduceIte, failed_ok, ToolError.valid_iff,
        Option.some.injEq, forall_eq']
      constructor
      · rintro ⟨_, ⟨_, hm⟩, _⟩
        exact hm
      · exact fun hm => ⟨_, ⟨by decide, hm⟩, rfl⟩

-- ---------------------------------------------------------------------------
-- The audit record
-- ---------------------------------------------------------------------------

omit [UnicodeText] [Pydantic] [Uuids] in
theorem checkLine_ok {walk walk' : AuditLedger.Walk} (h : AuditLedger.checkLine walk line = .ok walk') :
    ∃ record supplied, loads line = .ok (.obj record) ∧
      record.lookup "record_sha256" = some (.str supplied) ∧
      walk' = ⟨walk.expected + 1, supplied, walk.seen ++ [supplied]⟩ := by
  simp only [AuditLedger.checkLine, bind_eq_ok, raiseIf_ok, pure_eq_ok, exists_and_left,
    exists_const] at h
  obtain ⟨record, hload, supplied, hsupplied, -, -, -, -, -, -, -, rfl⟩ := h
  refine ⟨record, supplied, ?_, ?_, rfl⟩
  · unfold AuditLedger.loadRecord at hload
    split at hload
    · next hloads => rw [hloads, Except.ok.inj hload]
    all_goals exact absurd hload (by rintro ⟨⟩)
  · unfold AuditLedger.suppliedHash AuditLedger.get at hsupplied
    cases hlookup : record.lookup "record_sha256" with
    | none => simp [hlookup] at hsupplied
    | some value =>
      cases value with
      | str sha256 =>
        simp only [hlookup, Option.getD_some] at hsupplied
        split at hsupplied
        · exact absurd hsupplied (by rintro ⟨⟩)
        · rw [Except.ok.inj hsupplied]
      | _ => simp [hlookup] at hsupplied

omit [UnicodeText] [Pydantic] [Uuids] in
/-- A ledger that validates has a hash to continue. -/
theorem previousHash_ok {ledger : AuditLedger} (h : ledger.validate = .ok walk) :
    ∃ sha256, previousHash ledger.readLines = .ok sha256 := by
  simp only [AuditLedger.validate, bind_eq_ok] at h
  obtain ⟨-, -, h⟩ := h
  unfold previousHash
  rcases List.eq_nil_or_concat ledger.readLines with hnil | ⟨init, line, hlines⟩
  · exact ⟨_, by rw [hnil]; rfl⟩
  · rw [hlines, List.concat_eq_append, loop_snoc] at h
    obtain ⟨walk', -, hline⟩ := h
    obtain ⟨record, supplied, hload, hlookup, -⟩ := checkLine_ok hline
    exact ⟨supplied, by simp [hlines, hload, hlookup]⟩

/-- The record in a ledger that it was added to. -/
structure Audited (ledger ledger' : AuditLedger) (req : ToolRequest) (response : ToolResponse) :
    Prop where
  appended : ∃ record : AuditRecord,
    ledger'.readLines = ledger.readLines ++ [canonical record.modelDump] ∧
      record.request = redact req.modelDump ∧ record.policyOutcome = response.policyDecision ∧
      record.callId = response.callId ∧ record.tool = response.tool ∧
      record.resultSha256 = response.resultSha256

/-- A request is answered, and recorded when it names a ledger. -/
def Answered (tooling : Tooling) (ledger : AuditLedger) (req : ToolRequest) : Prop :=
  ∃ response ledger', invoke tooling ledger req = (.ok response, ledger') ∧
    (req.audits = true → Audited ledger ledger' req response)

/-- The text of a rejection fits, and the ledger can take a record. -/
structure Answerable (tooling : Tooling) (ledger : AuditLedger) (req : ToolRequest) : Prop where
  rejection : ∀ m, rejection tooling req = some m → 1 ≤ m.length ∧ m.length ≤ 1000
  ledger : req.audits = true → ledger.root ≠ .other ∧ (∃ walk, ledger.validate = .ok walk) ∧
    ledger.tail = ""

omit [Pydantic] [Uuids] in
theorem append_ok {ledger : AuditLedger}
    (h : ledger.append req response policy sources = .ok (record, ledger')) :
    (∃ walk, ledger.validate = .ok walk) ∧ (∃ previous, record =
      auditRecord ledger.readLines previous req response policy sources) ∧
      ledger' = ledger.write (canonical record.modelDump) := by
  simp only [AuditLedger.append, bind_eq_ok, pure_eq_ok, Prod.mk.injEq] at h
  obtain ⟨-, -, walk, hwalk, previous, -, rfl, rfl⟩ := h
  exact ⟨⟨walk, hwalk⟩, ⟨previous, rfl⟩, rfl⟩

omit [Pydantic] [Uuids] in
theorem append_of_validate {ledger : AuditLedger} (h : ledger.validate = .ok walk) :
    ∃ record ledger', ledger.append req response policy sources = .ok (record, ledger') := by
  obtain ⟨previous, hprevious⟩ := previousHash_ok h
  have hregular : ledger.ensureRegularFiles = .ok () := by
    simp only [AuditLedger.validate, bind_eq_ok] at h
    obtain ⟨_, hregular, -⟩ := h
    exact hregular
  exact ⟨_, _, by simp only [AuditLedger.append, hregular, h, hprevious, ok_bind]; rfl⟩

end

/-- A line is a record of its own when the file ends with a whole line. -/
theorem readLines_write {ledger : AuditLedger} (h : ledger.tail = "") :
    (ledger.write line).readLines = ledger.readLines ++ [line] := by
  simp [AuditLedger.write, AuditLedger.readLines, h]

theorem tail_of_appended {ledger : AuditLedger}
    (h : (ledger.write line).readLines = ledger.readLines ++ [line']) : ledger.tail = "" := by
  by_contra htail
  have hlength := congrArg List.length h
  simp [AuditLedger.write, AuditLedger.readLines, htail] at hlength

theorem openLedger_ok {ledger : AuditLedger} : openLedger ledger = .ok ledger' ↔
    ledger.root ≠ .other ∧ ledger' = { ledger with root := .directory } := by
  simp only [openLedger, bind_eq_ok, raiseIf_ok, pure_eq_ok, exists_and_left, exists_const]
  exact and_congr Iff.rfl eq_comm

section
variable [Hashing] [JsonText] [UnicodeText] [Pydantic] [Uuids]

/-- What is written after a response. -/
def recordOf (ledger : AuditLedger) (req : ToolRequest) (response : ToolResponse) :
    Except Error (AuditRecord × AuditLedger) :=
  if (decisionOf req).allowed then
    ledger.append req response .allow response.sourceManifestHashes
  else ledger.append req response .deny []

/-- A request without a ledger is answered and no more. -/
theorem invoke_unaudited {tooling : Tooling} (h : req.auditDir = none) :
    invoke tooling ledger req = (respond tooling req, ledger) :=
  if_neg (by simp [ToolRequest.audits, h])

/-- What `invoke` returns is the response. -/
theorem invoke_respond {tooling : Tooling} (h : (invoke tooling ledger req).1 = .ok response) :
    respond tooling req = .ok response := by
  unfold invoke at h
  split at h
  · split at h
    · exact absurd h nofun
    · split at h
      · exact absurd h nofun
      · next response' hrespond =>
        simp only at h
        split at h
        · exact absurd h nofun
        · rw [hrespond]
          exact h
  · exact h

theorem invoke_audited {tooling : Tooling} (ha : req.audits = true)
    (hopen : openLedger ledger = .ok opened) :
    invoke tooling ledger req = (.ok response, ledger') ↔ respond tooling req = .ok response ∧
      ∃ record, recordOf opened req response = .ok (record, ledger') := by
  rw [invoke, if_pos ha, hopen]
  cases respond tooling req with
  | error e => simp
  | ok r =>
    simp only [Except.ok.injEq]
    constructor
    · intro h
      split at h
      · exact absurd h (by rintro ⟨⟩)
      · next hrecord =>
        obtain ⟨hr, rfl⟩ := Prod.mk.inj h
        obtain rfl := Except.ok.inj hr
        exact ⟨rfl, _, hrecord⟩
    · rintro ⟨rfl, record, hrecord⟩
      rw [recordOf, decisionOf] at hrecord
      rw [hrecord]

/-- The record is that of the response. -/
theorem recordOf_audited {ledger : AuditLedger} (hr : Response req response)
    (h : recordOf { ledger with root := .directory } req response = .ok (record, ledger')) :
    (∃ walk, ledger.validate = .ok walk) ∧
      (Audited ledger ledger' req response ↔ ledger.tail = "") := by
  have key : ∀ policy sources, policy = response.policyDecision →
      AuditLedger.append { ledger with root := .directory } req response policy sources =
        .ok (record, ledger') →
      (∃ walk, ledger.validate = .ok walk) ∧
        (Audited ledger ledger' req response ↔ ledger.tail = "") := by
    intro policy sources hpolicy happend
    obtain ⟨hwalk, ⟨previous, hrecord⟩, rfl⟩ := append_ok happend
    refine ⟨hwalk, fun ⟨_, hlines, _⟩ => tail_of_appended hlines, fun htail => ⟨record, ?_, ?_⟩⟩
    · exact readLines_write htail
    · rw [hrecord]
      exact ⟨rfl, hpolicy, rfl, rfl, rfl⟩
  unfold recordOf at h
  split at h
  · next hallowed => exact key _ _ (by rw [hr.policyDecision, if_pos hallowed]) h
  · next hdenied => exact key _ _ (by rw [hr.policyDecision, if_neg hdenied]) h

end

open Platform in
theorem Sample.request_allowed (h : 1 ≤ query.length ∧ query.length ≤ 20000) :
    (decisionOf (Sample.request query auditDir)).allowed = true := by
  have hquery : (required "query" (.text 1 20000)).read [("query", .str query)] =
      some ("query", .str query) := by
    simp [ArgField.read, required, ArgType.read, h]
  have hlimit : (optional "limit" (.integer 1 5000)).read [("query", .str query)] =
      some ("limit", .null) := rfl
  have hvalues : sqlQueryArgs.modelValidate [("query", .str query)] =
      some [("query", .str query), ("limit", .null)] := by
    have hfields : sqlQueryArgs.fields.mapM (fun field => field.read [("query", .str query)]) =
        some [("query", .str query), ("limit", .null)] := by
      simp [sqlQueryArgs, hquery, hlimit]
    have hnames : ¬ ∃ a ∈ [("query", Json.str query)], a.1 ∉ sqlQueryArgs.fields.map ArgField.name := by
      simp [sqlQueryArgs, required]
    rw [ArgsModel.modelValidate, if_neg hnames, hfields]
    rfl
  change (authorize "investigator" "sql.query" "1.0" [("query", .str query)]).allowed = true
  rw [authorize, show capabilities.lookup "investigator" = some tools from rfl,
    show toolArgumentModels.lookup "sql.query" = some sqlQueryArgs from rfl]
  simp [tools, toolArgumentModels, toolsVersion, hvalues]

end Paic.Tools
