import Paic.Remediation.Approval
import Paic.Remediation.Sample

/-!
# When a plan is approved

`evaluateApproval_approved_iff` characterises an approval by what must hold
of every decision in the ledger and of their number. The loop over the
decisions carries the nonces it has seen; they are the nonces of the earlier
decisions.
-/

namespace Paic.Remediation

open Checks

section
variable [Hashing]

-- ---------------------------------------------------------------------------
-- One decision
-- ---------------------------------------------------------------------------

/-- The attestation's HMAC verifies under the key of the identity. -/
def SignatureVerifies (environ : Environ) (config : RemediationConfig)
    (identity : ApproverIdentity) (decision : ApprovalDecision)
    (attestation : ApprovalAttestation) : Prop :=
  ∃ key, attestationKey environ config identity = some key ∧
    attestation.signature = hmac key
      (attestationPayload decision identity.approverGroup identity.keyId attestation.nonce)

/-- The decision is by a registered identity, with its key id, its group and
a signature under its key. -/
structure AttestedBy (environ : Environ) (config : RemediationConfig)
    (identity : ApproverIdentity) (decision : ApprovalDecision)
    (attestation : ApprovalAttestation) : Prop where
  registered : identity ∈ config.approval.approverRegistry
  approver : identity.approverId = decision.approverId
  attested : decision.attestation = some attestation
  keyId : attestation.keyId = identity.keyId
  group : decision.approverGroup = identity.approverGroup
  signature : SignatureVerifies environ config identity decision attestation

/-- The nonces of the decisions, the last one first. -/
def noncesOf (decisions : List ApprovalDecision) : List String :=
  decisions.reverse.filterMap fun d => d.attestation.map ApprovalAttestation.nonce

/-- What the loop of `evaluate_approval` checks of a decision beyond its
attestation. -/
structure WithinPlan (plan : RemediationPlan) (config : RemediationConfig) (at_ : Datetime)
    (decision : ApprovalDecision) : Prop where
  bound : decision.planSha256 = plan.planSha256
  requested : plan.requestedAt.instant ≤ decision.decidedAt.instant
  unexpired : decision.decidedAt.instant < plan.expiresAt.instant
  past : decision.decidedAt.instant ≤ at_.instant
  requester : config.approval.allowRequesterApproval = false →
    decision.approverId ≠ plan.requestedBy

omit [Hashing] in
/-- The registry has one identity for an approver. -/
theorem registeredIdentity_ok : registeredIdentity config approver = .ok identity ↔
    identity ∈ config.approval.approverRegistry ∧ identity.approverId = approver := by
  simp only [registeredIdentity, need_ok]
  constructor
  · intro h
    exact ⟨List.mem_of_find?_eq_some h, by simpa using List.find?_some h⟩
  · rintro ⟨hmem, rfl⟩
    have hsome : (config.approval.approverRegistry.find?
        (·.approverId == identity.approverId)).isSome = true :=
      List.find?_isSome.mpr ⟨identity, hmem, by simp⟩
    obtain ⟨other, hother⟩ := Option.isSome_iff_exists.mp hsome
    rw [hother, List.inj_on_of_nodup_map config.approval.unique_ids
      (List.mem_of_find?_eq_some hother) hmem (by simpa using List.find?_some hother)]

theorem verifyAttestation_ok : verifyAttestation environ config seen decision = .ok seen' ↔
    ∃ identity attestation, AttestedBy environ config identity decision attestation ∧
      attestation.nonce ∉ seen ∧ seen' = attestation.nonce :: seen := by
  have hsome : config.approval.approverRegistry ≠ [] := by
    intro h
    have := config.approval.registry_count.1
    simp [h] at this
  simp only [verifyAttestation, bind_eq_ok, raiseIf_ok, hsome, not_false_eq_true, ne_eq,
    Decidable.not_not, exists_and_left, exists_const, registeredIdentity_ok, need_ok,
    Option.filter_eq_some_iff, decide_eq_true_eq, pure_eq_ok, true_and]
  constructor
  · rintro ⟨identity, ⟨hreg, happ⟩, attestation, ⟨hatt, hkey⟩, hgroup, hnonce, key, hk, hsig, rfl⟩
    exact ⟨identity, attestation, ⟨hreg, happ, hatt, hkey, hgroup, key, hk, hsig⟩, hnonce, rfl⟩
  · rintro ⟨identity, attestation, ⟨hreg, happ, hatt, hkey, hgroup, key, hk, hsig⟩, hnonce, rfl⟩
    exact ⟨identity, ⟨hreg, happ⟩, attestation, ⟨hatt, hkey⟩, hgroup, hnonce, key, hk, hsig, rfl⟩

/-- A decision passes the loop when it is attested with a nonce not seen and
lies within the plan. -/
theorem checkDecision_ok : checkDecision environ plan config at_ seen decision = .ok seen' ↔
    ((∃ identity attestation, AttestedBy environ config identity decision attestation ∧
      attestation.nonce ∉ seen) ∧ WithinPlan plan config at_ decision) ∧
    seen' = (decision.attestation.map ApprovalAttestation.nonce).toList ++ seen := by
  simp only [checkDecision, bind_eq_ok, verifyAttestation_ok, raiseIf_ok, ne_eq,
    Decidable.not_not, not_or, not_and, Int.not_lt, Int.not_le, exists_and_left, exists_const,
    pure_eq_ok]
  constructor
  · rintro ⟨seen₁, ⟨identity, attestation, hatt, hnonce, rfl⟩, hplan, ⟨hreq, hexp⟩, hpast, hby, rfl⟩
    exact ⟨⟨⟨identity, attestation, hatt, hnonce⟩, ⟨hplan, hreq, hexp, hpast, hby⟩⟩,
      by simp [hatt.attested]⟩
  · rintro ⟨⟨⟨identity, attestation, hatt, hnonce⟩, hw⟩, rfl⟩
    exact ⟨_, ⟨identity, attestation, hatt, hnonce, rfl⟩, hw.bound, ⟨hw.requested, hw.unexpired⟩,
      hw.past, hw.requester, by simp [hatt.attested]⟩

omit [Hashing] in
theorem noncesOf_foldl (earlier : List ApprovalDecision) :
    earlier.foldl (fun seen d => (d.attestation.map ApprovalAttestation.nonce).toList ++ seen)
      seen = noncesOf earlier ++ seen := by
  induction earlier generalizing seen with
  | nil => rfl
  | cons d rest ih =>
    rw [List.foldl_cons, ih, noncesOf, noncesOf, List.reverse_cons, List.filterMap_append,
      List.append_assoc]
    cases hd : d.attestation <;> simp [hd]

/-- Every decision of the ledger, given the earlier ones, is attested with a
fresh nonce and lies within the plan. -/
def DecisionsPass (environ : Environ) (plan : RemediationPlan) (config : RemediationConfig)
    (at_ : Datetime) (decisions : List ApprovalDecision) : Prop :=
  ∀ earlier decision later, decisions = earlier ++ decision :: later →
    (∃ identity attestation, AttestedBy environ config identity decision attestation ∧
      attestation.nonce ∉ noncesOf earlier) ∧
    WithinPlan plan config at_ decision

theorem checkDecisions_ok :
    (∃ seen, loop (checkDecision environ plan config at_) [] decisions = .ok seen) ↔
      DecisionsPass environ plan config at_ decisions := by
  rw [loop_ok_iff fun seen decision seen' => checkDecision_ok]
  simp only [noncesOf_foldl, List.append_nil]
  rfl

-- ---------------------------------------------------------------------------
-- The ledger of given decisions
-- ---------------------------------------------------------------------------

/-- The records `append` writes for decisions in turn. -/
def chain (sequence : Nat) (previous : String) :
    List ApprovalDecision → List ApprovalLedgerRecord
  | [] => []
  | decision :: rest =>
    let draft : ApprovalLedgerRecord :=
      { sequence
        previousRecordSha256 := previous
        decision
        decisionSha256 := digest decision.modelDump
        recordSha256 := zeroHash }
    let record := { draft with recordSha256 := digest (.obj draft.unsigned) }
    record :: chain (sequence + 1) record.recordSha256 rest

theorem chain_decisions (decisions : List ApprovalDecision) :
    (chain n previous decisions).map ApprovalLedgerRecord.decision = decisions := by
  induction decisions generalizing n previous with
  | nil => rfl
  | cons d rest ih => exact congrArg (d :: ·) ih

theorem chain_valid (hn : 1 ≤ n) (hprev : isSha256 previous = true)
    (hds : ∀ d ∈ decisions, d.Valid) : ∀ r ∈ chain n previous decisions, r.Valid := by
  induction decisions generalizing n previous with
  | nil => nofun
  | cons d rest ih =>
    refine List.forall_mem_cons.mpr ⟨?_, ?_⟩
    · exact ⟨hn, hprev, hds d (by simp), digest_hex _, digest_hex _⟩
    · exact ih (by omega) (digest_hex _) fun e he => hds e (List.mem_cons_of_mem _ he)

/-- A chain whose record hashes do not collide passes `validate`. -/
theorem checkChain_chain
    (hnodup : ((chain n previous decisions).map ApprovalLedgerRecord.recordSha256).Nodup)
    (hseen : ∀ r ∈ chain n previous decisions, r.recordSha256 ∉ seen) :
    checkChain n previous seen (chain n previous decisions) = .ok () := by
  induction decisions generalizing n previous seen with
  | nil => rfl
  | cons d rest ih =>
    obtain ⟨hnew, hrest⟩ := List.nodup_cons.mp hnodup
    obtain ⟨hhead, htail⟩ := List.forall_mem_cons.mp hseen
    simp only [chain, checkChain]
    rw [raiseIf_neg (by simp), ok_bind, raiseIf_neg hhead, ok_bind, raiseIf_neg (by simp), ok_bind,
      raiseIf_neg (by exact not_not.mpr rfl), ok_bind]
    refine ih hrest fun r hr => ?_
    simp only [List.mem_cons, not_or]
    refine ⟨fun he => hnew ?_, htail r hr⟩
    have hmem := List.mem_map_of_mem (f := ApprovalLedgerRecord.recordSha256) hr
    rwa [he] at hmem

variable {T : Type} [TextCodec T ApprovalLedgerRecord]

def ledgerOf (decisions : List ApprovalDecision) : ApprovalLedger T where
  lines := (chain 1 zeroHash decisions).map TextCodec.dump

theorem ledgerOf_validate (hds : ∀ d ∈ decisions, d.Valid)
    (hnodup : ((chain 1 zeroHash decisions).map ApprovalLedgerRecord.recordSha256).Nodup) :
    (ledgerOf decisions : ApprovalLedger T).validate = .ok (chain 1 zeroHash decisions) := by
  have hload : ∀ rs : List ApprovalLedgerRecord, (∀ r ∈ rs, r.Valid) →
      (rs.map (TextCodec.dump (T := T))).mapM (fun line => need (TextCodec.load line)
        (.approvalError "approval ledger contains an invalid record")) =
      (.ok rs : Except Error _) := by
    intro rs hrs
    induction rs with
    | nil => rfl
    | cons r rs ih =>
      have hr : (TextCodec.load (TextCodec.dump r : T)) = some r :=
        TextCodec.load_dump (hrs r (by simp))
      rw [List.map_cons, List.mapM_cons, hr, ih fun r' hr' => hrs r' (List.mem_cons_of_mem _ hr')]
      rfl
  have hvalid := chain_valid (le_refl 1) zeroHash_isSha256 hds
  rw [ApprovalLedger.validate, ApprovalLedger.records, ledgerOf, hload _ hvalid, ok_bind,
    checkChain_chain hnodup (by simp), ok_bind]
  rfl

-- ---------------------------------------------------------------------------
-- The whole ledger
-- ---------------------------------------------------------------------------

omit [Hashing] in
theorem approvalState_approved : approvalState plan at_ decisions = .approved ↔
    plan.status ≠ .denied ∧ (∀ d ∈ decisions, d.decision ≠ .reject) ∧
      at_.instant < plan.expiresAt.instant ∧
      plan.requiredApprovals ≤ (approvals decisions).length := by
  have hrej : rejections decisions = [] ↔ ∀ d ∈ decisions, d.decision ≠ .reject := by
    simp [rejections]
  rw [← hrej]
  unfold approvalState
  split
  · grind
  · split <;> grind

variable {ledger : ApprovalLedger T}

/-- An evaluation that returns, read as the facts it checked. -/
theorem evaluateApproval_ok (hv : ledger.validate = .ok records) (hat : at_.Aware) :
    evaluateApproval environ plan ledger config at_ = .ok status ↔
      let decisions := records.map ApprovalLedgerRecord.decision
      let groups := (approvals decisions).map ApprovalDecision.approverGroup
      DecisionsPass environ plan config at_ decisions ∧
      ((approvals decisions).map ApprovalDecision.approverId).Nodup ∧
      (plan.riskLevel = .high → config.approval.requireDistinctGroupsForHighRisk = true →
        min plan.requiredApprovals (approvals decisions).length ≤ approvalGroupCount decisions) ∧
      status = {
        planSha256 := plan.planSha256
        status := approvalState plan at_ decisions
        requiredApprovals := plan.requiredApprovals
        approvalCount := (approvals decisions).length
        rejectionCount := (rejections decisions).length
        approverIds := ((approvals decisions).map ApprovalDecision.approverId).insertionSort (· ≤ ·)
        approverGroups := groups.insertionSort (· ≤ ·)
        evaluatedAt := at_
        approvalSnapshotSha256 := approvalSnapshot decisions } := by
  simp only [evaluateApproval, raiseIf_neg (not_not.mpr hat), ok_bind, hv, bind_eq_ok, raiseIf_ok,
    Decidable.not_not, not_and, Nat.not_lt, exists_and_left, exists_const, pure_eq_ok,
    ← checkDecisions_ok, @eq_comm _ _ status]
  constructor
  · rintro ⟨seen, hloop, hids, hgroups, rfl⟩
    exact ⟨⟨seen, hloop⟩, hids, hgroups, rfl⟩
  · rintro ⟨⟨seen, hloop⟩, hids, hgroups, rfl⟩
    exact ⟨seen, hloop, hids, hgroups, rfl⟩

/-- A plan is approved exactly when every decision of the ledger is attested
with a fresh nonce and lies within the plan, none is a rejection, the plan is
neither denied nor expired, and enough distinct approvers approve, for high
risk from enough distinct groups. -/
theorem evaluateApproval_approved_iff (hv : ledger.validate = .ok records) (hat : at_.Aware) :
    (∃ status, evaluateApproval environ plan ledger config at_ = .ok status ∧
      status.status = .approved) ↔
      let decisions := records.map ApprovalLedgerRecord.decision
      DecisionsPass environ plan config at_ decisions ∧
      (∀ d ∈ decisions, d.decision ≠ .reject) ∧ plan.status ≠ .denied ∧
      at_.instant < plan.expiresAt.instant ∧
      ((approvals decisions).map ApprovalDecision.approverId).Nodup ∧
      plan.requiredApprovals ≤ (approvals decisions).length ∧
      (plan.riskLevel = .high → config.approval.requireDistinctGroupsForHighRisk = true →
        plan.requiredApprovals ≤ approvalGroupCount decisions) := by
  simp only [evaluateApproval_ok hv hat]
  constructor
  · rintro ⟨status, ⟨hpass, hids, hgroups, rfl⟩, happ⟩
    obtain ⟨hden, hrej, hexp, hcount⟩ := approvalState_approved.mp happ
    exact ⟨hpass, hrej, hden, hexp, hids, hcount, by rwa [Nat.min_eq_left hcount] at hgroups⟩
  · rintro ⟨hpass, hrej, hden, hexp, hids, hcount, hgroups⟩
    exact ⟨_, ⟨hpass, hids, by rwa [Nat.min_eq_left hcount], rfl⟩,
      approvalState_approved.mpr ⟨hden, hrej, hexp, hcount⟩⟩

end

theorem Sample.approval_valid {plan : RemediationPlan} (hplan : isSha256 plan.planSha256 = true) :
    (Sample.decision Sample.alice .approve key "nonce of alice 1" plan).Valid where
  planSha256 := hplan
  approverId := (by decide : isIdentifier "alice" = true)
  approverGroup := (by decide : isIdentifier "sre" = true)
  reason := (by decide : textIn "Reviewed." 1 2000)
  decidedAt := rfl
  attestation a ha := by
    obtain rfl := Option.mem_some.mp ha
    exact ⟨(by decide : isIdentifier "alice-key" = true),
      (by decide : textIn "nonce of alice 1" 16 200), Hashing.hmac_hex _ _⟩

/-- One approval of the critical plan. -/
theorem evaluateApproval_approved_iff_sample :
    (∃ status, evaluateApproval Sample.environ Sample.criticalPlan
      (ledgerOf [Sample.approval] : ApprovalLedger ApprovalLedgerRecord) Sample.config
      (Sample.at_ 10) = .ok status ∧ status.status = .approved) ↔
      let decisions := (chain 1 zeroHash [Sample.approval]).map ApprovalLedgerRecord.decision
      DecisionsPass Sample.environ Sample.criticalPlan Sample.config (Sample.at_ 10) decisions ∧
      (∀ d ∈ decisions, d.decision ≠ .reject) ∧ Sample.criticalPlan.status ≠ .denied ∧
      (Sample.at_ 10).instant < Sample.criticalPlan.expiresAt.instant ∧
      ((approvals decisions).map ApprovalDecision.approverId).Nodup ∧
      Sample.criticalPlan.requiredApprovals ≤ (approvals decisions).length ∧
      (Sample.criticalPlan.riskLevel = .high →
        Sample.config.approval.requireDistinctGroupsForHighRisk = true →
        Sample.criticalPlan.requiredApprovals ≤ approvalGroupCount decisions) :=
  evaluateApproval_approved_iff
    (ledgerOf_validate (List.forall_mem_singleton.mpr (Sample.approval_valid (digest_hex _)))
      (List.nodup_singleton _))
    (by decide)

end Paic.Remediation
