import Paic.JsonCode
import Paic.Tools.Answers
import Paic.Tools.Redaction

/-!
# Redaction of a record

The record of a call is free of paths when the tool's name is, and the keys
are that redaction leaves in its arguments.
-/

namespace Paic.Tools

open Checks

section
variable [UnicodeText]

-- ---------------------------------------------------------------------------
-- Arguments the policy let through
-- ---------------------------------------------------------------------------

omit [UnicodeText] in
/-- The names of the models' fields, and defaults that are no containers. -/
theorem fields_plain : ∀ model ∈ toolArgumentModels.map Prod.snd, ∀ field ∈ model.fields,
    (∀ c ∈ field.name.toList, c ≠ '/' ∧ c ≠ ':') ∧
      ∀ j ∈ field.default, j.isAtom = true := by decide

theorem keptKeys_atom (h : j.isAtom = true) : keptKeys j = [] := by
  cases j <;> first | rfl | exact absurd h nofun

variable [Pydantic]

omit [UnicodeText] in
theorem ArgField.read_atom {field : ArgField} (hdefault : ∀ j ∈ field.default, j.isAtom = true)
    (h : field.read arguments = some value) : value.1 = field.name ∧ value.2.isAtom = true := by
  unfold ArgField.read at h
  split at h
  · obtain ⟨j, hj, rfl⟩ := Option.map_eq_some_iff.mp h
    exact ⟨rfl, hdefault j hj⟩
  · split at h
    · obtain rfl := Option.some.inj h
      exact ⟨rfl, rfl⟩
    · exact absurd h nofun
  · obtain ⟨j, hj, rfl⟩ := Option.map_eq_some_iff.mp h
    refine ⟨rfl, ?_⟩
    unfold ArgType.read at hj
    split at hj
    · split at hj
      · exact Option.some.inj hj ▸ rfl
      · exact absurd hj nofun
    · exact absurd hj nofun
    · simp only [Option.bind_eq_bind, Option.bind_eq_some_iff] at hj
      obtain ⟨n, -, hj⟩ := hj
      split at hj
      · exact Option.some.inj hj ▸ rfl
      · exact absurd hj nofun
    · split at hj
      · exact Option.some.inj hj ▸ rfl
      · exact absurd hj nofun
    · exact absurd hj nofun
    · obtain ⟨b, -, rfl⟩ := Option.map_eq_some_iff.mp hj
      rfl

omit [UnicodeText] in
/-- Every value that a model returns was read by a field of it. -/
theorem ArgsModel.modelValidate_read {model : ArgsModel}
    (h : model.modelValidate arguments = some values) :
    ∀ value ∈ values, ∃ field ∈ model.fields, field.read arguments = some value := by
  have hmap : ∀ (fields : List ArgField) values, fields.mapM (fun field => field.read arguments) =
      some values → ∀ value ∈ values, ∃ field ∈ fields, field.read arguments = some value := by
    intro fields
    induction fields with
    | nil =>
      intro values hvalues value hvalue
      obtain rfl := Option.some.inj hvalues
      exact absurd hvalue List.not_mem_nil
    | cons field rest ih =>
      intro values hvalues value hvalue
      simp only [List.mapM_cons, Option.pure_def, Option.bind_eq_bind, Option.bind_eq_some_iff,
        Option.some.injEq] at hvalues
      obtain ⟨first, hfirst, tail, htail, rfl⟩ := hvalues
      rcases List.mem_cons.mp hvalue with rfl | hvalue
      · exact ⟨field, List.mem_cons_self, hfirst⟩
      · obtain ⟨other, hother, hread⟩ := ih tail htail value hvalue
        exact ⟨other, List.mem_cons_of_mem _ hother, hread⟩
  unfold ArgsModel.modelValidate at h
  simp only [Option.bind_eq_bind] at h
  split at h
  · exact absurd h nofun
  · obtain ⟨read, hread, h⟩ := Option.bind_eq_some_iff.mp h
    split at h
    · exact absurd h nofun
    · obtain rfl := Option.some.inj h
      exact hmap _ _ hread

/-- The normalized arguments have the names of fields, and hold no objects. -/
theorem authorize_plain : ∀ value ∈ (authorize role tool version arguments).normalizedArguments,
    pathFree value.1.toList = true ∧ ∀ key ∈ keptKeys value.2, pathFree key.toList = true := by
  unfold authorize
  split
  · nofun
  · split
    · nofun
    · next model hmodel =>
      split
      · nofun
      · split
        · nofun
        · split
          · nofun
          · next values hvalues =>
            intro value hvalue
            have hmem : model ∈ toolArgumentModels.map Prod.snd :=
              List.mem_map.mpr ⟨_, Entries.mem_of_lookup hmodel, rfl⟩
            have hmem' : value ∈ values := (List.mem_filter.mp hvalue).1
            obtain ⟨field, hfield, hread⟩ := ArgsModel.modelValidate_read hvalues value hmem'
            obtain ⟨hname, hdefault⟩ := fields_plain model hmem field hfield
            obtain ⟨hkey, hatom⟩ := ArgField.read_atom hdefault hread
            rw [hkey, keptKeys_atom hatom]
            exact ⟨pathFree_of_plain hname, nofun⟩

end

-- ---------------------------------------------------------------------------
-- The record
-- ---------------------------------------------------------------------------

section
variable [Hashing] [JsonText] [UnicodeText]

omit [Hashing] [JsonText] in
@[simp] theorem pathFree_str : PathFree (.str s) ↔ pathFree s.toList = true := by
  simp [PathFree, texts]

omit [Hashing] [JsonText] in
@[simp] theorem pathFree_int : PathFree (.int n) ↔ True := by
  simp [PathFree, texts]

/-- The previous hash of a record is one. -/
theorem append_previous {ledger : AuditLedger}
    (h : ledger.append req response policy sources = .ok (record, ledger')) :
    ∃ previous, isSha256 previous = true ∧
      record = auditRecord ledger.readLines previous req response policy sources := by
  simp only [AuditLedger.append, bind_eq_ok, pure_eq_ok, Prod.mk.injEq] at h
  obtain ⟨-, -, walk, hwalk, previous, hprevious, rfl, -⟩ := h
  obtain ⟨records, hvalid, -⟩ := AuditLedger.validate_iff.mp hwalk
  obtain rfl := Except.ok.inj (hprevious.symm.trans hvalid.previousHash)
  refine ⟨_, ?_, rfl⟩
  unfold Chain.head
  cases hlast : records.getLast? with
  | none => exact zeroHash_isSha256
  | some last =>
    have hsound := hvalid.sound last (List.mem_of_getLast? hlast)
    change isSha256 (AuditLedger.hashOf last) = true
    rw [hsound.hashOf_eq]
    exact digest_hex _

/-- The kinds of artifacts that are bound. -/
def sourceKinds : List String := ["dataset", "analytics", "detection", "impact", "evidence"]

/-- The names of the record's own fields and of the kinds of sources. -/
def recordNames : List String :=
  ["sequence", "previous_record_sha256", "request", "request_sha256", "response_receipt",
    "response_receipt_sha256", "result_sha256", "policy_outcome", "source_manifest_hashes",
    "call_id", "tool", "record_sha256"] ++ sourceKinds

omit [Hashing] [JsonText] in
theorem recordNames_pathFree : ∀ name ∈ recordNames, pathFree name.toList = true := by
  have hplain : ∀ name ∈ recordNames, ∀ c ∈ name.toList, c ≠ '/' ∧ c ≠ ':' := by decide
  exact fun name hname => pathFree_of_plain (hplain name hname)

omit [Hashing] [JsonText] in
theorem recordNames_open [UnicodeLaws] : ∀ name ∈ recordNames, isSecretKey name = false := by
  have hascii : ∀ name ∈ recordNames, ∀ c ∈ name.toList, c.toNat < 128 ∧ c.toLower = c := by decide
  have hopen : ∀ name ∈ recordNames, secretMarkers.any (contains name) = false := by decide
  intro name hname
  rw [isSecretKey, lower_key (hascii name hname)]
  exact hopen name hname

/-- What is copied into the record is free of paths but for the tool. -/
structure Copied (record : AuditRecord) : Prop where
  previous : isSha256 record.previousRecordSha256 = true
  result : isSha256 record.resultSha256 = true
  callId : pathFree record.callId.toList = true
  sources : ∀ source ∈ record.sourceManifestHashes,
    source.1 ∈ sourceKinds ∧ isSha256 source.2 = true

omit [JsonText] in
theorem Copied.pathFree_iff (h : Copied record) : PathFree record.modelDump ↔
    PathFree record.request ∧ PathFree record.responseReceipt ∧
      pathFree record.tool.toList = true := by
  have hnames := recordNames_pathFree
  have hsources : PathFree (SourceHashes.modelDump record.sourceManifestHashes) := by
    refine pathFree_obj.mpr fun f hf => ?_
    obtain ⟨source, hsource, rfl⟩ := List.mem_map.mp hf
    obtain ⟨hkind, hhex⟩ := h.sources source hsource
    exact ⟨hnames _ (List.mem_append_right _ hkind), pathFree_str.mpr (isSha256_pathFree hhex)⟩
  have hpolicy : pathFree record.policyOutcome.text.toList = true := by
    cases record.policyOutcome
    · exact pathFree_of_plain (by decide)
    · exact pathFree_of_plain (by decide)
  simp only [recordNames, List.cons_append, List.forall_mem_cons] at hnames
  rw [AuditRecord.modelDump, pathFree_obj]
  simp only [AuditRecord.unsigned, List.cons_append, List.nil_append, List.forall_mem_cons,
    pathFree_str, pathFree_int, hnames, isSha256_pathFree h.previous, isSha256_pathFree h.result,
    isSha256_pathFree (digest_hex _), h.callId, hsources, hpolicy, true_and, and_true]
  simp

omit [JsonText] in
theorem Copied.hidden [UnicodeLaws] (h : Copied record)
    (hrequest : secretsHidden record.request = true)
    (hreceipt : secretsHidden record.responseReceipt = true) :
    secretsHidden record.modelDump = true := by
  have hnames := recordNames_open
  have hsources : secretsHidden (SourceHashes.modelDump record.sourceManifestHashes) = true := by
    refine secretsHidden_obj fun f hf => ?_
    obtain ⟨source, hsource, rfl⟩ := List.mem_map.mp hf
    exact ⟨hnames _ (List.mem_append_right _ (h.sources source hsource).1), rfl⟩
  simp only [recordNames, List.cons_append, List.forall_mem_cons] at hnames
  rw [AuditRecord.modelDump]
  refine secretsHidden_obj ?_
  simp only [AuditRecord.unsigned, List.cons_append, List.nil_append, List.forall_mem_cons, hnames,
    hrequest, hreceipt, hsources, secretsHidden, true_and]
  simp

variable [Pydantic] [Uuids]

omit [UnicodeText] in
/-- What a response says of its request. -/
theorem respond_fields {tooling : Tooling} (h : respond tooling req = .ok r) :
    r.tool = req.tool ∧ r.callId = callIdOf req ∧ isSha256 r.resultSha256 = true ∧
      r.normalizedArguments =
        (authorize req.role.text req.tool req.toolVersion req.arguments).normalizedArguments ∧
      (r.sourceManifestHashes = [] ∨
        ∃ bound, tooling.bind req = .ok bound ∧ r.sourceManifestHashes = bound.hashes) := by
  unfold respond at h
  simp only at h
  split at h
  · obtain ⟨-, rfl⟩ := failed_ok.mp h
    exact ⟨rfl, rfl, digest_hex _, rfl, .inl rfl⟩
  · split at h
    · next done hdone =>
      obtain rfl := Except.ok.inj h
      simp only [execute, bind_eq_ok, pure_eq_ok] at hdone
      obtain ⟨bound, hbound, _, -, _, -, _, -, _, -, rfl⟩ := hdone
      exact ⟨rfl, rfl, digest_hex _, rfl, .inr ⟨bound, hbound, rfl⟩⟩
    · split at h
      · obtain ⟨-, rfl⟩ := failed_ok.mp h
        exact ⟨rfl, rfl, digest_hex _, rfl, .inl rfl⟩
      · exact absurd h nofun

omit [Hashing] [JsonText] [Pydantic] [Uuids] in
/-- Of the request's keys, redaction leaves those of the arguments that it
leaves in them; its own hold no path. -/
theorem request_keys [UnicodeLaws] {req : ToolRequest} :
    (∀ key ∈ keptKeys req.modelDump, pathFree key.toList = true) ↔
      ∀ key ∈ keptKeys (.obj req.arguments), pathFree key.toList = true := by
  have hnames : ∀ name ∈ ["tool", "tool_version", "incident_id", "role", "arguments", "dataset_dir",
      "analytics_dir", "detection_dir", "impact_dir", "evidence_dir", "audit_dir", "call_id"],
      ∀ c ∈ name.toList, c ≠ '/' ∧ c ≠ ':' := by decide
  have hopt : ∀ s : Option String, keptKeys (.opt .str s) = [] := by
    intro s
    cases s <;> rfl
  have harguments : isPathKey "arguments" = false ∧ isSecretKey "arguments" = false := by
    rw [isPathKey, isSecretKey, lower_key (by decide)]
    decide
  constructor
  · intro h key hkey
    refine h key (mem_fieldsKeys ?_ harguments.1 harguments.2 hkey)
    simp
  · intro h
    refine fieldsKeys_pathFree fun f hf => ⟨?_, ?_⟩
    · refine pathFree_of_plain (hnames f.1 ?_)
      exact List.mem_map_of_mem (f := Prod.fst) hf
    · simp only [List.mem_cons, List.not_mem_nil, or_false] at hf
      rcases hf with rfl | rfl | rfl | rfl | rfl | rfl | rfl | rfl | rfl | rfl | rfl | rfl
      case inr.inr.inr.inr.inl => exact h
      all_goals simp [hopt, keptKeys]

omit [Hashing] [JsonText] [Pydantic] [Uuids] in
/-- The keys of a receipt hold no path when those of its arguments and sources
do not. -/
theorem receipt_keys {r : ToolResponse}
    (hkinds : ∀ source ∈ r.sourceManifestHashes, source.1 ∈ sourceKinds)
    (harguments : ∀ value ∈ r.normalizedArguments, pathFree value.1.toList = true ∧
      ∀ key ∈ keptKeys value.2, pathFree key.toList = true) :
    ∀ key ∈ keptKeys (.obj r.receipt), pathFree key.toList = true := by
  have hnames : ∀ name ∈ ["call_id", "incident_id", "tool", "tool_version", "policy_decision",
      "execution_status", "source_manifest_hashes", "row_count", "byte_count", "truncated",
      "evidence_record_ids", "normalized_arguments", "result_sha256", "error", "code", "message"],
      ∀ c ∈ name.toList, c ≠ '/' ∧ c ≠ ':' := by decide
  have hitems : ∀ ids : List String, itemsKeys (ids.map .str) = [] := by
    intro ids
    induction ids with
    | nil => rfl
    | cons s rest ih => exact ih
  refine fieldsKeys_pathFree fun f hf => ⟨?_, ?_⟩
  · refine pathFree_of_plain (hnames f.1 ?_)
    have hmem := List.mem_map_of_mem (f := Prod.fst) hf
    exact List.mem_append_left ["code", "message"] hmem
  · simp only [ToolResponse.receipt, List.mem_cons, List.not_mem_nil, or_false] at hf
    rcases hf with rfl | rfl | rfl | rfl | rfl | rfl | rfl | rfl | rfl | rfl | rfl | rfl | rfl | rfl
    case inr.inr.inr.inr.inr.inr.inl =>
      refine fieldsKeys_pathFree fun g hg => ?_
      obtain ⟨source, hsource, rfl⟩ := List.mem_map.mp hg
      exact ⟨recordNames_pathFree _ (List.mem_append_right _ (hkinds source hsource)),
        by rintro _ ⟨⟩⟩
    case inr.inr.inr.inr.inr.inr.inr.inr.inr.inr.inr.inl =>
      exact fieldsKeys_pathFree harguments
    case inr.inr.inr.inr.inr.inr.inr.inr.inr.inr.inl =>
      simp [Json.strs, keptKeys, hitems]
    case inr.inr.inr.inr.inr.inr.inr.inr.inr.inr.inr.inr.inr =>
      cases r.error with
      | none => rintro _ ⟨⟩
      | some e =>
        refine fieldsKeys_pathFree fun g hg => ?_
        simp only [List.mem_cons, List.not_mem_nil, or_false] at hg
        rcases hg with rfl | rfl
        · exact ⟨pathFree_of_plain (hnames "code" (by simp)), by rintro _ ⟨⟩⟩
        · exact ⟨pathFree_of_plain (hnames "message" (by simp)), by rintro _ ⟨⟩⟩
    all_goals rintro _ ⟨⟩

/-- Redacting twice is redacting once; and a record that `invoke` writes holds no
path, and under secret keys nothing, exactly when there is no path in the name
of the tool and in the keys that redaction leaves in the arguments. -/
theorem redaction_complete_iff [UnicodeLaws] {tooling : Tooling} {ledger : AuditLedger}
    {req : ToolRequest}
    (hkinds : ∀ bound, tooling.bind req = .ok bound →
      ∀ source ∈ bound.hashes, source.1 ∈ sourceKinds)
    (huuid : ∀ c ∈ (callIdOf req).toList, isHex c = true ∨ c = '-')
    (hresponse : respond tooling req = .ok response)
    (hrecord : (if (authorize req.role.text req.tool req.toolVersion req.arguments).allowed then
        ledger.append req response .allow response.sourceManifestHashes
      else ledger.append req response .deny []) = .ok (record, ledger')) :
    (PathFree record.modelDump ∧ secretsHidden record.modelDump = true ∧
        ∀ j, redact (redact j) = redact j) ↔
      pathFree req.tool.toList = true ∧
        ∀ key ∈ keptKeys (.obj req.arguments), pathFree key.toList = true := by
  obtain ⟨htool, hcallId, hresult, harguments, hbound⟩ := respond_fields hresponse
  have hsources : ∀ source ∈ response.sourceManifestHashes,
      source.1 ∈ sourceKinds ∧ isSha256 source.2 = true := by
    rcases hbound with hnone | ⟨bound, hbind, hhashes⟩
    · rw [hnone]
      nofun
    · intro source hsource
      rw [hhashes] at hsource
      exact ⟨hkinds bound hbind source hsource, bound.hex source hsource⟩
  -- The record is of these sources or of none.
  obtain ⟨policy, sources, happend, hsub⟩ : ∃ policy sources,
      ledger.append req response policy sources = .ok (record, ledger') ∧
        ∀ source ∈ sources, source ∈ response.sourceManifestHashes := by
    split at hrecord
    · exact ⟨_, _, hrecord, fun _ h => h⟩
    · exact ⟨_, _, hrecord, nofun⟩
  obtain ⟨previous, hprevious, rfl⟩ := append_previous happend
  have hcopied : Copied (auditRecord ledger.readLines previous req response policy sources) := by
    refine ⟨hprevious, hresult, ?_, fun source hsource => hsources source (hsub source ?_)⟩
    · refine pathFree_of_plain fun c hc => ?_
      rw [show (auditRecord ledger.readLines previous req response policy sources).callId =
        response.callId from rfl, hcallId] at hc
      rcases huuid c hc with hhex | rfl
      · constructor <;> (rintro rfl; exact absurd hhex (by decide))
      · decide
    · exact (List.perm_insertionSort _ _).mem_iff.mp hsource
  have hrequest : PathFree (redact req.modelDump) ↔
      ∀ key ∈ keptKeys (.obj req.arguments), pathFree key.toList = true :=
    (pathFree_texts _).trans request_keys
  have hreceipt : PathFree (redact (.obj response.receipt)) := by
    refine (pathFree_texts _).mpr (receipt_keys (fun source h => (hsources source h).1) ?_)
    rw [harguments]
    exact authorize_plain
  constructor
  · rintro ⟨hclean, -, -⟩
    obtain ⟨hreq, -, htool'⟩ := hcopied.pathFree_iff.mp hclean
    exact ⟨htool ▸ htool', hrequest.mp hreq⟩
  · rintro ⟨htool', hkeys⟩
    refine ⟨hcopied.pathFree_iff.mpr ⟨hrequest.mpr hkeys, hreceipt, ?_⟩, ?_, redact_redact⟩
    · change pathFree response.tool.toList = true
      rw [htool]
      exact htool'
    · exact hcopied.hidden (secretsHidden_redact _) (secretsHidden_redact _)

end

-- ---------------------------------------------------------------------------
-- Denied calls
-- ---------------------------------------------------------------------------

attribute [local instance] JsonCode.asciiText JsonCode.asciiLaws

/-- A call of a tool that is not registered. -/
def unregistered (tool : String) : ToolRequest :=
  { Sample.request "SELECT 1" (some "audit") with
    tool
    arguments := []
    callId := some "00000000-0000-4000-8000-000000000000" }

theorem respond_unregistered (h : toolArgumentModels.lookup tool = none) :
    ∃ response, respond Sample.answering (unregistered tool) = .ok response ∧
      (decisionOf (unregistered tool)).allowed = false := by
  have hdenied : decisionOf (unregistered tool) =
      denied "unknown_tool" "tool is not registered" := by
    change authorize "investigator" tool "1.0" _ = _
    rw [authorize, show capabilities.lookup "investigator" = some tools from rfl, h]
  have hrespond : respond Sample.answering (unregistered tool) =
      failed (baseResponse (unregistered tool) (decisionOf (unregistered tool)))
        (decisionOf (unregistered tool)).code (decisionOf (unregistered tool)).reason :=
    if_pos (show (decisionOf (unregistered tool)).allowed = false by rw [hdenied]; rfl)
  refine ⟨_, hrespond.trans (failed_ok.mpr ⟨?_, rfl⟩), by rw [hdenied]; rfl⟩
  rw [hdenied]
  decide

theorem emptyLedger_validate : Sample.emptyLedger.validate = .ok ⟨1, zeroHash, []⟩ := rfl

/-- The name of the tool is written as it came. -/
theorem path_recorded : ∃ response record ledger',
    respond Sample.answering (unregistered "/etc/passwd") = .ok response ∧
    Sample.emptyLedger.append (unregistered "/etc/passwd") response .deny [] =
      .ok (record, ledger') ∧
    "/etc/passwd" ∈ texts record.modelDump ∧ ¬ PathFree record.modelDump := by
  obtain ⟨response, hresponse, -⟩ := respond_unregistered (show toolArgumentModels.lookup "/etc/passwd" = none by decide)
  obtain ⟨record, ledger', happend⟩ : ∃ record ledger',
      Sample.emptyLedger.append (unregistered "/etc/passwd") response .deny [] = .ok (record, ledger') :=
    append_of_validate emptyLedger_validate
  obtain ⟨previous, -, hrecord⟩ := append_previous happend
  have htool : record.tool = "/etc/passwd" := by
    rw [hrecord]
    exact (respond_fields hresponse).1
  have hmem : "/etc/passwd" ∈ texts record.modelDump := by
    rw [← htool]
    simp [AuditRecord.modelDump, AuditRecord.unsigned, texts, fieldsTexts]
  exact ⟨response, record, ledger', hresponse, happend, hmem, fun h => absurd (h _ hmem) (by decide)⟩

theorem redaction_complete_sample : ∃ response record ledger',
    respond Sample.answering (unregistered "unknown") = .ok response ∧
    Sample.emptyLedger.append (unregistered "unknown") response .deny [] = .ok (record, ledger') ∧
    PathFree record.modelDump := by
  obtain ⟨response, hresponse, hdenied⟩ := respond_unregistered (show toolArgumentModels.lookup "unknown" = none by decide)
  obtain ⟨record, ledger', happend⟩ : ∃ record ledger',
      Sample.emptyLedger.append (unregistered "unknown") response .deny [] = .ok (record, ledger') :=
    append_of_validate emptyLedger_validate
  have hkinds : ∀ bound, Sample.answering.bind (unregistered "unknown") = .ok bound →
      ∀ source ∈ bound.hashes, source.1 ∈ sourceKinds := by
    intro bound h
    obtain rfl := Except.ok.inj h
    decide
  have hnot : ¬ (decisionOf (unregistered "unknown")).allowed = true := ne_true_of_eq_false hdenied
  have hiff := redaction_complete_iff hkinds (by decide) hresponse ((if_neg hnot).trans happend)
  exact ⟨response, record, ledger', hresponse, happend, (hiff.mpr ⟨by decide, nofun⟩).1⟩

end Paic.Tools
