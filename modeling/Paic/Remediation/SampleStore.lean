import Paic.Remediation.ApprovalLaws
import Paic.Remediation.SampleText
import Paic.Remediation.StoreRuns

/-!
# A store on the computing platform

A store that was set up from the sample's control state, and an approved call
that executes the sample's plan there.
-/

namespace Paic.Remediation.Sample

def initialDir : Directory Text := controlStateDirectory state

def initialSha : String :=
  FileText.sha256 (TextCodec.dump (controlStateManifest Text state) : Text)

def storePlan : RemediationPlan := plan initialSha

def storeApproval : ApprovalDecision :=
  decision alice .approve "alice keeps a key of more than 32 bytes" "nonce of alice 1" storePlan

def ledger : ApprovalLedger Text := ledgerOf [storeApproval]

@[reducible] def storeTokens : TokenFormat :=
  tokenFormat [claims storePlan (approvalSnapshot [storeApproval]) "nonce of token 1"]

def call : ExecuteCall :=
  { environ, plan := storePlan, config, request, token := token 0, secret }

/-- An empty directory. -/
def emptyWorld : World Text :=
  { store := .empty, ledger, stateLock := false, approvalLock := false }

theorem initialDir_loads :
    loadControlState (some initialDir) = .ok ⟨controlStateManifest Text state, state⟩ := by
  have hvalid : Model.Valid state := by decide +kernel
  exact loadControlState_directory ⟨hvalid, by decide, by decide⟩

/-- The store is set up. -/
theorem initialized : ∃ w : World Text, Initialized w state ∧
    w.store.stateDir (zeroPadded 0) = some initialDir ∧ w.store.currentJson.staged = none := by
  obtain ⟨w, hrun⟩ := initializeFrom_run (w := emptyWorld) rfl rfl initialDir_loads
  obtain ⟨_, hnew⟩ := initializeFrom_new initialDir_loads rfl hrun
  exact ⟨w, ⟨_, _, _, initialDir_loads, rfl, hrun⟩, hnew.stateDir, by rw [hnew.currentJson]⟩

local instance sampleStoreTokens : TokenFormat := storeTokens

theorem manifestSha256_initialDir : manifestSha256 (some initialDir) = .ok initialSha :=
  manifestSha256_controlStateDirectory state

/-- The ledger approves the plan at minute 10. -/
theorem store_approved : ∃ status,
    evaluateApproval call.environ call.plan ledger call.config call.request.executedAt =
      .ok status ∧ status.status = .approved ∧
      status.approvalSnapshotSha256 = approvalSnapshot [storeApproval] := by
  have hvalidate : ledger.validate = .ok (chain 1 zeroHash [storeApproval]) :=
    ledgerOf_validate (List.forall_mem_singleton.mpr (approval_valid (digest_hex _)))
      (List.nodup_singleton _)
  have hattested : AttestedBy environ config alice storeApproval
      { keyId := "alice-key", nonce := "nonce of alice 1", signature := hmac
          "alice keeps a key of more than 32 bytes"
          (attestationPayload storeApproval "sre" "alice-key" "nonce of alice 1") } := by
    refine ⟨List.mem_cons_self, rfl, rfl, rfl, rfl, _, ?_, rfl⟩
    exact Option.filter_eq_some_iff.mpr ⟨rfl, by decide⟩
  have hwithin : WithinPlan storePlan config (at_ 10) storeApproval :=
    ⟨rfl, (by decide : (at_ 0).instant ≤ (at_ 5).instant),
      (by decide : (at_ 5).instant < ((at_ 0).addMinutes config.approval.planTtlMinutes).instant),
      by decide, fun _ => (by decide : "alice" ≠ "carol")⟩
  have hpass : DecisionsPass environ storePlan config (at_ 10) [storeApproval] := by
    intro earlier decision later h
    obtain ⟨rfl, rfl⟩ : earlier = [] ∧ decision = storeApproval := by
      cases earlier with
      | nil => exact ⟨rfl, (List.cons.inj h).1.symm⟩
      | cons d rest => simp at h
    exact ⟨⟨alice, _, hattested, List.not_mem_nil⟩, hwithin⟩
  have hrisk : storePlan.riskLevel ≠ .high :=
    (by decide : aggregateRisk proposal.actions ≠ .high)
  refine ⟨_, (evaluateApproval_ok hvalidate (by decide)).mpr ⟨hpass, List.nodup_singleton _,
    fun hhigh => absurd hhigh hrisk, rfl⟩, approvalState_approved.mpr ⟨?_, ?_, ?_, ?_⟩, rfl⟩
  · intro hdenied
    have hstatus : storePlan.status = .awaitingApproval := assess_outcome.1
    exact absurd (hstatus.symm.trans hdenied) nofun
  · exact List.forall_mem_singleton.mpr nofun
  · exact (by decide : (at_ 10).instant <
      ((at_ 0).addMinutes config.approval.planTtlMinutes).instant)
  · exact (by decide : requiredApprovals (aggregateRisk proposal.actions) config ≤ 1)

/-- The call is approved, and executes on the initial state. -/
theorem call_executes : ∃ status after receipt,
    evaluateApproval call.environ call.plan ledger call.config call.request.executedAt =
      .ok status ∧
    executePlan call.plan state status call.config call.request call.token call.secret initialSha =
      .ok (after, receipt) := by
  obtain ⟨status, hok, happroved, hsnapshot⟩ := store_approved
  have hhex : isSha256 status.approvalSnapshotSha256 = true := hsnapshot ▸ digest_hex _
  obtain ⟨after, receipt, hexec⟩ :=
    plan_executes_bound initialSha (FileText.sha256_hex _) happroved hhex
  rw [hsnapshot] at hexec
  exact ⟨status, after, receipt, hok, hexec⟩

/-- On a store at the initial state the call is authorized, and what it
computes can be exported. -/
theorem call_authorized {w : World Text} (hinv : w.store.Inv .initial state)
    (hdir : w.store.stateDir (zeroPadded 0) = some initialDir) (hledger : w.ledger = ledger) :
    ∃ before after receipt, Authorized call w before after receipt ∧ Storable after ∧
      StorableReceipt receipt := by
  obtain ⟨status, after, receipt, hstatus, hexec⟩ := call_executes
  have hsha : manifestSha256 (w.store.stateDir Pointer.initial.directory) = .ok initialSha := by
    rw [show Pointer.initial.directory = zeroPadded 0 from rfl, hdir]
    exact manifestSha256_initialDir
  have hfree : storePlan.planSha256 ∉ state.executedPlanHashes := List.not_mem_nil
  obtain ⟨before, hbefore, hstate, hsha⟩ := hinv.before_eq hsha hfree rfl
  have hroom : state.executedPlanHashes.length < 10000 ∧
      state.consumedTokenNonceHashes.length < 10000 := by
    simp only [state, List.length_nil]
    omega
  have hid : call.request.executionId.length ≤ 200 := by decide
  have hstorable : Storable state := loadControlState_storable initialDir_loads
  refine ⟨before, after, receipt, ⟨hbefore, ?_⟩,
    executePlan_storable hstorable hexec hroom.1 hroom.2 hid⟩
  rw [authorized, hstate, hsha, hledger]
  exact Checks.bind_eq_ok.mpr ⟨status, hstatus, hexec⟩

end Paic.Remediation.Sample
