import Paic.Investigation.Validated
import Paic.Ledgers

/-!
# What the last hash says

Three checkers walk a chain of hashed records: the audit ledger, the approval
ledger and the transcript of an investigation. Where no two of the values
that are hashed have one digest, the last hash of a chain that was accepted
fixes all of its records.
-/

namespace Paic.LedgerHeads

open Chain (Chained commits_last)
open Remediation (ApprovalLedger ApprovalLedgerRecord ApprovalDecision ApprovalAttestation)
open Tools (JsonText JsonLaws AuditLedger Equal)
open Tools.AuditLedger (Record Link Sound unsigned hashOf)
open Investigation (TranscriptEvent)

-- ---------------------------------------------------------------------------
-- Audit records
-- ---------------------------------------------------------------------------

section
variable [Hashing]

/-- Sound records with one hash are the same. -/
theorem sound_same {r r' : Record} (h : Sound r) (h' : Sound r')
    (hr : (Json.obj r).unique = true) (hr' : (Json.obj r').unique = true)
    (hfree : digest (unsigned r) = digest (unsigned r') → (unsigned r).Same (unsigned r'))
    (hhash : hashOf r = hashOf r') : Json.sortedFields r = Json.sortedFields r' := by
  rw [h.hashOf_eq, h'.hashOf_eq] at hhash
  exact Json.sortedFields_eq_of_rest (Json.keys_unique hr) (Json.keys_unique hr') h.hashed
    (hhash ▸ h'.hashed) (Json.obj.inj (hfree hhash))

omit [Hashing] in
theorem get_equal {r r' : Record} (hsame : Json.sortedFields r = Json.sortedFields r')
    (hr : (Json.obj r).unique = true) (hr' : (Json.obj r').unique = true) (key : String) :
    Equal (AuditLedger.get r key) (AuditLedger.get r' key) := by
  have hunique : ∀ {r : Record}, (Json.obj r).unique = true →
      (AuditLedger.get r key).unique = true := by
    intro r hr
    unfold AuditLedger.get
    cases hlookup : r.lookup key with
    | none => rfl
    | some j => exact Json.lookup_unique (Json.fields_unique hr) hlookup
  refine (Equal.sorted (hunique hr) (hunique hr')).mp ?_
  rw [← AuditLedger.get_sortedFields (Json.keys_unique hr),
    ← AuditLedger.get_sortedFields (Json.keys_unique hr'), hsame]
  exact .refl _

omit [Hashing] in
/-- A record fits in one place only. -/
theorem link_unique {r r' : Record}
    (hequal : ∀ key, Equal (AuditLedger.get r key) (AuditLedger.get r' key))
    (h : Link m p r) (h' : Link n q r') : m = n ∧ p = q := by
  have hsequence : Equal (.int m) (.int n) :=
    h.1.symm.trans ((hequal "sequence").trans h'.1)
  have hprevious : Equal (.str p) (.str q) :=
    h.2.symm.trans ((hequal "previous_record_sha256").trans h'.2)
  rw [Equal, Tools.plain, Tools.plain, Json.float.injEq] at hsequence
  exact ⟨by exact_mod_cast hsequence, Json.str.inj hprevious⟩

-- ---------------------------------------------------------------------------
-- Approval records
-- ---------------------------------------------------------------------------

omit [Hashing] in
theorem attestation_eq {a a' : ApprovalAttestation} (h : a.modelDump.Same a'.modelDump) :
    a = a' := by
  have hkeys : ∀ a : ApprovalAttestation,
      ([("schema_version", .str "1.0"), ("key_id", .str a.keyId), ("nonce", .str a.nonce),
        ("signature", .str a.signature)] : List (String × Json)).map Prod.fst |>.Nodup := by
    intro a
    change ["schema_version", "key_id", "nonce", "signature"].Nodup
    decide
  have hlookup := Json.Same.lookup h (hkeys a) (hkeys a')
  have hkeyId := hlookup "key_id"
  have hnonce := hlookup "nonce"
  have hsignature := hlookup "signature"
  simp [List.lookup, Json.sorted] at hkeyId hnonce hsignature
  obtain ⟨keyId, nonce, signature⟩ := a
  cases hkeyId
  cases hnonce
  cases hsignature
  rfl

omit [Hashing] in
theorem verdict_eq {a b : Remediation.Decision} (h : a.text = b.text) : a = b := by
  revert h
  cases a <;> cases b <;> decide

theorem decision_eq {d d' : ApprovalDecision} (hiso : ∀ t t', isoformat t = isoformat t' → t = t')
    (h : d.modelDump.Same d'.modelDump) : d = d' := by
  have hkeys : ∀ d : ApprovalDecision, ∀ fields, d.modelDump = .obj fields →
      (fields.map Prod.fst).Nodup := by
    intro d fields hfields
    obtain rfl := Json.obj.inj hfields
    change ["schema_version", "plan_sha256", "approver_id", "approver_role", "approver_group",
      "decision", "reason", "decided_at", "attestation"].Nodup
    decide
  have hlookup := Json.Same.lookup h (hkeys d _ rfl) (hkeys d' _ rfl)
  have hplan := hlookup "plan_sha256"
  have happrover := hlookup "approver_id"
  have hgroup := hlookup "approver_group"
  have hverdict := hlookup "decision"
  have hreason := hlookup "reason"
  have hdecided := hlookup "decided_at"
  have hattestation := hlookup "attestation"
  simp [List.lookup, Json.sorted, Json.datetime]
    at hplan happrover hgroup hverdict hreason hdecided hattestation
  obtain ⟨plan, approver, group, verdict, reason, decidedAt, attestation⟩ := d
  obtain ⟨plan', approver', group', verdict', reason', decidedAt', attestation'⟩ := d'
  obtain rfl : decidedAt = decidedAt' := hiso _ _ hdecided
  obtain rfl : verdict = verdict' := verdict_eq hverdict
  obtain rfl : attestation = attestation' := by
    cases attestation <;> cases attestation'
    · rfl
    · exact absurd hattestation nofun
    · exact absurd hattestation nofun
    · exact congrArg some (attestation_eq hattestation)
  cases hplan
  cases happrover
  cases hgroup
  cases hreason
  rfl

/-- Sound records with one hash are equal. -/
theorem record_eq {r r' : ApprovalLedgerRecord}
    (hiso : ∀ t t', isoformat t = isoformat t' → t = t') (h : r.Sound) (h' : r'.Sound)
    (hfree : digest (.obj r.unsigned) = digest (.obj r'.unsigned) →
      (Json.obj r.unsigned).Same (.obj r'.unsigned))
    (hhash : r.recordSha256 = r'.recordSha256) : r = r' := by
  rw [← h.hashed, ← h'.hashed] at hhash
  obtain ⟨hsequence, hprevious, hdecision, hsha⟩ :=
    ApprovalLedgerRecord.unsigned_same (hfree hhash)
  have hdecision := decision_eq hiso hdecision
  rw [h.hashed, h'.hashed] at hhash
  obtain ⟨sequence, previous, decision, dsha, rsha⟩ := r
  cases hsequence
  cases hprevious
  cases hdecision
  cases hsha
  cases hhash
  rfl

-- ---------------------------------------------------------------------------
-- Events of a transcript
-- ---------------------------------------------------------------------------

/-- The event fits in its place, under the hash of what it says. -/
def EventLink (n : Nat) (previous : String) (e : TranscriptEvent) : Prop :=
  e.sequence = n ∧ e.previousEventSha256 = previous ∧ e.eventSha256 = digest e.base

/-- The two events are the same but for the order of keys. -/
structure SameEvent (e e' : TranscriptEvent) : Prop where
  sequence : e.sequence = e'.sequence
  eventType : e.eventType = e'.eventType
  payload : (Json.obj e.payload).Same (.obj e'.payload)
  previous : e.previousEventSha256 = e'.previousEventSha256
  sha256 : e.eventSha256 = e'.eventSha256

theorem chained_iff {events : List TranscriptEvent} :
    Investigation.Chained n previous events ↔
      Chained EventLink TranscriptEvent.eventSha256 n previous events := by
  induction events generalizing n previous with
  | nil => exact .rfl
  | cons e rest ih =>
    rw [Investigation.Chained, Chained, ← ih, EventLink, and_assoc, and_assoc]

omit [Hashing] in
theorem base_same {e e' : TranscriptEvent} (h : e.base.Same e'.base)
    (hhash : e.eventSha256 = e'.eventSha256) : SameEvent e e' := by
  have hkeys : ∀ e : TranscriptEvent, ∀ fields, e.base = .obj fields →
      (fields.map Prod.fst).Nodup := by
    intro e fields hfields
    obtain rfl := Json.obj.inj hfields
    change ["sequence", "event_type", "payload", "previous_event_sha256"].Nodup
    decide
  have hlookup := Json.Same.lookup h (hkeys e _ rfl) (hkeys e' _ rfl)
  have hsequence := hlookup "sequence"
  have htype := hlookup "event_type"
  have hpayload := hlookup "payload"
  have hprevious := hlookup "previous_event_sha256"
  simp [List.lookup, Json.sorted] at hsequence htype hpayload hprevious
  refine ⟨hsequence, ?_, congrArg Json.obj hpayload, hprevious, hhash⟩
  revert htype
  cases e.eventType <;> cases e'.eventType <;> decide

theorem sameEvent_of_sha {e e' : TranscriptEvent}
    (hfree : digest e.base = digest e'.base → e.base.Same e'.base)
    (h : EventLink m p e) (h' : EventLink n q e') (hhash : e.eventSha256 = e'.eventSha256) :
    SameEvent e e' :=
  base_same (hfree (by rw [← h.2.2, ← h'.2.2, hhash])) hhash

end

-- ---------------------------------------------------------------------------
-- The three chains
-- ---------------------------------------------------------------------------

theorem audit_commits [Hashing] [JsonText] [JsonLaws] {ledger ledger' : AuditLedger}
    {records records' : List Record} (h : AuditLedger.Valid ledger records)
    (h' : AuditLedger.Valid ledger' records')
    (hfree : CollisionFree ((records ++ records').map unsigned))
    (hlast : records.getLast?.map hashOf = records'.getLast?.map hashOf) :
    records.map Json.sortedFields = records'.map Json.sortedFields := by
  have hmem : ∀ r ∈ records, unsigned r ∈ (records ++ records').map unsigned := fun r hr =>
    List.mem_map.mpr ⟨r, List.mem_append_left _ hr, rfl⟩
  have hmem' : ∀ r ∈ records', unsigned r ∈ (records ++ records').map unsigned := fun r hr =>
    List.mem_map.mpr ⟨r, List.mem_append_right _ hr, rfl⟩
  have hcommits : List.Forall₂ (fun r r' => Json.sortedFields r = Json.sortedFields r' ∧ ∀ key,
      Equal (AuditLedger.get r key) (AuditLedger.get r' key)) records records' :=
    commits_last (fun r hr r' hr' hhash => by
      have hsame := sound_same (h.sound r hr) (h'.sound r' hr') (h.unique r hr) (h'.unique r' hr')
        (hfree _ (hmem r hr) _ (hmem' r' hr')) hhash
      exact ⟨hsame, get_equal hsame (h.unique r hr) (h'.unique r' hr')⟩)
    (fun hsame => link_unique hsame.2) h.chained h'.chained hlast
  exact List.forall₂_eq_eq_eq ▸ List.forall₂_map_left_iff.mpr
    (List.forall₂_map_right_iff.mpr (hcommits.imp fun _ _ hsame => hsame.1))

theorem approvals_commit [Hashing] {T : Type} [TextCodec T ApprovalLedgerRecord]
    {ledger ledger' : ApprovalLedger T} {records records' : List ApprovalLedgerRecord}
    (hiso : ∀ t t', isoformat t = isoformat t' → t = t')
    (h : ApprovalLedger.Valid ledger records) (h' : ApprovalLedger.Valid ledger' records')
    (hfree : CollisionFree ((records ++ records').map fun r => .obj r.unsigned))
    (hlast : records.getLast?.map ApprovalLedgerRecord.recordSha256 =
      records'.getLast?.map ApprovalLedgerRecord.recordSha256) : records = records' := by
  have hcommits : List.Forall₂ Eq records records' := commits_last
    (fun r hr r' hr' hhash => record_eq hiso (h.sound r hr) (h'.sound r' hr')
      (hfree _ (List.mem_map.mpr ⟨r, List.mem_append_left _ hr, rfl⟩) _
        (List.mem_map.mpr ⟨r', List.mem_append_right _ hr', rfl⟩)) hhash)
    (fun hsame hlink hlink' => by
      subst hsame
      exact ⟨hlink.1.symm.trans hlink'.1, hlink.2.symm.trans hlink'.2⟩) h.chained h'.chained hlast
  exact List.forall₂_eq_eq_eq ▸ hcommits

theorem transcript_commits [Hashing] {events events' : List TranscriptEvent}
    (h : Chained EventLink TranscriptEvent.eventSha256 1 zeroHash events)
    (h' : Chained EventLink TranscriptEvent.eventSha256 1 zeroHash events')
    (hfree : CollisionFree ((events ++ events').map TranscriptEvent.base))
    (hlast : events.getLast?.map TranscriptEvent.eventSha256 =
      events'.getLast?.map TranscriptEvent.eventSha256) :
    List.Forall₂ SameEvent events events' := by
  have hlinks : ∀ {events : List TranscriptEvent},
      Chained EventLink TranscriptEvent.eventSha256 1 zeroHash events →
      ∀ e ∈ events, ∃ n p, EventLink n p e := by
    intro events h e he
    obtain ⟨i, hi, rfl⟩ := List.mem_iff_getElem.mp he
    obtain ⟨previous, hlink⟩ := Chain.chained_get h i hi
    exact ⟨_, previous, hlink⟩
  refine commits_last (fun e he e' he' hhash => ?_) (fun hsame hlink hlink' => ?_) h h' hlast
  · obtain ⟨_, _, hlink⟩ := hlinks h e he
    obtain ⟨_, _, hlink'⟩ := hlinks h' e' he'
    exact sameEvent_of_sha (hfree _ (List.mem_map.mpr ⟨e, List.mem_append_left _ he, rfl⟩) _
      (List.mem_map.mpr ⟨e', List.mem_append_right _ he', rfl⟩)) hlink hlink' hhash
  · exact ⟨hlink.1.symm.trans (hsame.sequence.trans hlink'.1),
      hlink.2.1.symm.trans (hsame.previous.trans hlink'.2.1)⟩

section
variable [Hashing] {T : Type} [Tools.UnicodeText] [Investigation.FloatMath]
variable [Investigation.InvestigationText T] [Tools.Pydantic] [Tools.Uuids] [JsonText]
variable [Investigation.ProposalModels]

/-- The transcript of an artifact that validates is a chain. -/
theorem validated_chained {root : Option (Remediation.Directory T)}
    {loaded : Investigation.LoadedInvestigation}
    (h : Investigation.validateInvestigation bindSources root sources = .ok [])
    (hload : Investigation.loadInvestigation root = .ok (d, loaded)) :
    Chained EventLink TranscriptEvent.eventSha256 1 zeroHash loaded.transcript := by
  unfold Investigation.validateInvestigation at h
  simp only [hload] at h
  split at h
  · next hissues => exact absurd (Except.ok.inj h) hissues
  · cases hsources : Investigation.sourceIssues bindSources sources loaded.manifest with
    | error e => simp [hsources, Except.map] at h
    | ok issues =>
      simp only [hsources, Except.map, Except.ok.injEq, List.append_eq_nil_iff] at h
      have htranscript := h.1.2
      simp only [Investigation.transcriptIssues, List.append_eq_nil_iff] at htranscript
      refine chained_iff.mp (Investigation.chainHolds_iff.mp ?_)
      simpa using Remediation.reasonIf_nil.mp htranscript.1.1.1.1

end

/-- A ledger that validates, and the transcript of an investigation that does,
are fixed by their last hash. -/
theorem last_hash_commits :
    (∀ [Hashing] [JsonText] [JsonLaws] (ledger ledger' : AuditLedger) walk walk' records records',
      ledger.validate = .ok walk → ledger'.validate = .ok walk' →
      AuditLedger.Parsed ledger.readLines records →
      AuditLedger.Parsed ledger'.readLines records' →
      CollisionFree ((records ++ records').map unsigned) →
      records.getLast?.map hashOf = records'.getLast?.map hashOf →
      records.map Json.sortedFields = records'.map Json.sortedFields) ∧
    (∀ [Hashing] (T : Type) [TextCodec T ApprovalLedgerRecord] (ledger ledger' : ApprovalLedger T)
        records records',
      ledger.validate = .ok records → ledger'.validate = .ok records' →
      CollisionFree ((records ++ records').map fun r => .obj r.unsigned) →
      (∀ t t', isoformat t = isoformat t' → t = t') →
      records.getLast?.map ApprovalLedgerRecord.recordSha256 =
        records'.getLast?.map ApprovalLedgerRecord.recordSha256 →
      records = records') ∧
    ∀ [Hashing] (T : Type) [Tools.UnicodeText] [Investigation.FloatMath]
        [Investigation.InvestigationText T] [Tools.Pydantic] [Tools.Uuids] [JsonText]
        [Investigation.ProposalModels] bindSources bindSources'
        (root root' : Option (Remediation.Directory T)) sources sources' d d' loaded loaded',
      Investigation.validateInvestigation bindSources root sources = .ok [] →
      Investigation.validateInvestigation bindSources' root' sources' = .ok [] →
      Investigation.loadInvestigation root = .ok (d, loaded) →
      Investigation.loadInvestigation root' = .ok (d', loaded') →
      CollisionFree ((loaded.transcript ++ loaded'.transcript).map TranscriptEvent.base) →
      loaded.transcript.getLast?.map TranscriptEvent.eventSha256 =
        loaded'.transcript.getLast?.map TranscriptEvent.eventSha256 →
      List.Forall₂ SameEvent loaded.transcript loaded'.transcript := by
  refine ⟨?_, ?_, ?_⟩
  · intro _ _ _ ledger ledger' walk walk' records records' h h' hparsed hparsed' hfree hlast
    obtain ⟨records₁, hvalid, -⟩ := AuditLedger.validate_iff.mp h
    obtain ⟨records₁', hvalid', -⟩ := AuditLedger.validate_iff.mp h'
    obtain rfl := hvalid.parsed.unique hparsed
    obtain rfl := hvalid'.parsed.unique hparsed'
    exact audit_commits hvalid hvalid' hfree hlast
  · intro _ T _ ledger ledger' records records' h h' hfree hiso hlast
    exact approvals_commit hiso (ApprovalLedger.validate_ok.mp h)
      (ApprovalLedger.validate_ok.mp h') hfree hlast
  · intro _ T _ _ _ _ _ _ _ bindSources bindSources' root root' sources sources' d d' loaded loaded'
      h h' hload hload' hfree hlast
    exact transcript_commits (validated_chained h hload) (validated_chained h' hload') hfree hlast

-- ---------------------------------------------------------------------------
-- Chains that were accepted
-- ---------------------------------------------------------------------------

theorem collisionFree_of_nodup [Hashing] {values : List Json} (h : (values.map digest).Nodup) :
    CollisionFree (values ++ values) := by
  intro a ha b hb hdigest
  obtain rfl : a = b :=
    List.inj_on_of_nodup_map h (by simpa using ha) (by simpa using hb) hdigest
  rfl

theorem artifact_accepted : ∃ (d : Remediation.Directory Investigation.Sample.Text) (loaded : _),
    Investigation.validateInvestigation Investigation.Sample.bindSources (some d) none = .ok [] ∧
      Investigation.loadInvestigation (some d) = .ok (d, loaded) ∧
      (loaded.transcript.map fun e => digest e.base).Nodup := by
  obtain ⟨report, events, hrun, hnodup⟩ := Investigation.Sample.run_returns
  obtain ⟨d, -, hvalidate, -, loaded, hload, htranscript, -⟩ := Investigation.run_artifact
    (T := Investigation.Sample.Text) Investigation.Sample.config_valid
    Investigation.Sample.req_valid Investigation.Sample.tooling_steady hrun
  exact ⟨d, loaded, hvalidate, hload, htranscript ▸ hnodup⟩

section
attribute [local instance] JsonCode.hashing JsonCode.jsonText JsonCode.jsonLaws
  LedgerSample.recordCodec

theorem isoformat_injective (t t' : Datetime) (h : isoformat t = isoformat t') : t = t' := by
  change JsonCode.numeral _ = JsonCode.numeral _ at h
  have hread := congrArg (fun s : String => readDecimal s.toList) h
  simp only [JsonCode.readDecimal_numeral, Option.some.injEq] at hread
  have hpair := Prod.mk.inj (Encodable.encode_injective hread)
  obtain ⟨instant, offset⟩ := t
  obtain ⟨rfl, rfl⟩ := hpair
  rfl

theorem record_accepted : ∃ ledger walk, AuditLedger.validate ledger = .ok walk ∧
    AuditLedger.Parsed ledger.readLines [Json.sortedFields Ledgers.firstRecord] :=
  ⟨_, _, AuditLedger.validate_iff.mpr ⟨_, Ledgers.first_valid, rfl⟩, Ledgers.first_valid.parsed⟩

theorem decision_accepted : ∃ text record, (ApprovalLedger.ofText text).validate = .ok [record] := by
  have hempty : (ApprovalLedger.ofText "").validate = .ok [] := rfl
  have hdecision : Ledgers.decision.Valid := by decide
  obtain ⟨record, happend⟩ := ApprovalLedger.appendText_of_new hempty nofun hdecision
  exact ⟨_, record, ((ApprovalLedger.appendText_valid_iff hempty happend
    (LedgerSample.recordCodec_line record) (Ledgers.collisionFree_singleton _)).mpr
      ⟨nofun, List.nodup_nil⟩).1⟩

theorem record_collisionFree (j : Json) : CollisionFree ([j] ++ [j]) :=
  collisionFree_of_nodup (List.nodup_singleton _)

end

/-- A ledger of one call, a ledger of one decision, and the transcript of an
investigation that concluded. -/
theorem last_hash_commits_sample :
    [Json.sortedFields Ledgers.firstRecord].map Json.sortedFields =
      [Json.sortedFields Ledgers.firstRecord].map Json.sortedFields ∧
    (∃ text record record', @ApprovalLedger.validate String JsonCode.hashing
      LedgerSample.recordCodec (.ofText text) = .ok [record] ∧ [record] = [record']) ∧
    ∃ (d : Remediation.Directory Investigation.Sample.Text) (loaded : _),
      Investigation.loadInvestigation (some d) = .ok (d, loaded) ∧
      List.Forall₂ SameEvent loaded.transcript loaded.transcript := by
  obtain ⟨haudit, happrovals, htranscripts⟩ := last_hash_commits
  refine ⟨?_, ?_, ?_⟩
  · obtain ⟨ledger, walk, hvalidate, hparsed⟩ := record_accepted
    exact @haudit JsonCode.hashing JsonCode.jsonText JsonCode.jsonLaws _ _ _ _ _ _ hvalidate
      hvalidate hparsed hparsed (record_collisionFree _) rfl
  · obtain ⟨text, record, hvalidate⟩ := decision_accepted
    exact ⟨text, record, record, hvalidate, @happrovals JsonCode.hashing String
      LedgerSample.recordCodec _ _ _ _ hvalidate hvalidate (record_collisionFree _)
      isoformat_injective rfl⟩
  · obtain ⟨d, loaded, hvalidate, hload, hnodup⟩ := artifact_accepted
    refine ⟨d, loaded, hload, htranscripts _ _ _ _ _ _ _ _ _ _ _ hvalidate hvalidate hload hload
      ?_ rfl⟩
    rw [List.map_append]
    refine collisionFree_of_nodup ?_
    rwa [List.map_map]

end Paic.LedgerHeads
