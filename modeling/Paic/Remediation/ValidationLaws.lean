import Paic.Remediation.ArtifactLaws
import Paic.Remediation.SampleText
import Mathlib

/-!
# What a validated execution proves about its plan

`validate_execution` compares the plan, the two states and the receipt with
each other, and replays the transition; it looks neither at the plan's status
nor at the control state the plan was built for. `validateExecution_binds_iff`
says for which plans and before-states that matters: for the others
`replayedReceipt` is a receipt that validates without an execution.
-/

namespace Paic.Remediation

open Checks

-- ---------------------------------------------------------------------------
-- A hash that was not used
-- ---------------------------------------------------------------------------

/-- A number as sixty-four digits. -/
def numberHash (n : Nat) : String :=
  String.ofList (List.replicate 44 '0' ++ (zeroPadded n).toList)

theorem numberHash_toList (n : Nat) :
    (numberHash n).toList = List.replicate 44 '0' ++ (zeroPadded n).toList :=
  String.toList_ofList

theorem numberHash_isSha256 (hn : n < 10 ^ 20) : isSha256 (numberHash n) = true := by
  rw [isSha256, Bool.and_eq_true, beq_iff_eq, numberHash_toList, List.length_append,
    List.length_replicate, zeroPadded_length hn, List.all_eq_true]
  refine ⟨rfl, fun c hc => ?_⟩
  rcases List.mem_append.mp hc with hc | hc
  · rw [(List.mem_replicate.mp hc).2]
    rfl
  · simp [isHex, zeroPadded_digits c hc]

theorem numberHash_injective (h : numberHash m = numberHash n) : m = n := by
  have hl : (numberHash m).toList = (numberHash n).toList := by rw [h]
  rw [numberHash_toList, numberHash_toList] at hl
  exact zeroPadded_injective (String.toList_inj.mp (List.append_cancel_left hl))

theorem exists_fresh_hash {l : List String} (h : l.length < 10000) : ∃ x, isSha256 x = true ∧ x ∉ l := by
  by_contra hnot
  have hall : (List.range 10000).map numberHash ⊆ l := by
    intro x hx
    obtain ⟨n, hn, rfl⟩ := List.mem_map.mp hx
    have hn : n < 10000 := List.mem_range.mp hn
    by_contra hfresh
    exact hnot ⟨_, numberHash_isSha256 (by omega), hfresh⟩
  have hnodup : ((List.range 10000).map numberHash).Nodup :=
    List.nodup_range.map fun _ _ he => numberHash_injective he
  have := (List.subperm_of_subset hnodup hall).length_le
  rw [List.length_map, List.length_range] at this
  omega

-- ---------------------------------------------------------------------------
-- Reading a validation
-- ---------------------------------------------------------------------------

section
variable {T : Type} [RemediationText T] [Hashing]

theorem boundArtifact_nil {root : Option (Directory T)}
    {load : Option (Directory T) → Except Error α} :
    boundArtifact (some root) load message issues = .ok (some a, []) ↔
      load root = .ok a ∧ issues root a = .ok [] := by
  simp only [boundArtifact]
  rcases load root with e | b
  · exact iff_of_false (by cases e <;> nofun) fun h => nomatch h.1
  · dsimp only
    rw [Except.ok.injEq]
    constructor
    · intro h
      cases hissues : issues root b with
      | error e => rw [hissues] at h; exact absurd h nofun
      | ok found =>
        rw [hissues] at h
        obtain ⟨hb, hf⟩ := Prod.mk.injEq .. ▸ Except.ok.inj h
        obtain rfl := Option.some.inj hb
        rw [hissues, hf]
        exact ⟨rfl, rfl⟩
    · rintro ⟨rfl, h⟩
      rw [h]
      rfl

/-- What was not loaded is an issue. -/
theorem boundArtifact_none {root : Option (Directory T)}
    {load : Option (Directory T) → Except Error α}
    (h : boundArtifact (some root) load message issues = .ok (none, found)) : found ≠ [] := by
  simp only [boundArtifact] at h
  generalize load root = r at h
  cases r with
  | error e =>
    cases e with
    | artifactError text =>
      obtain ⟨-, rfl⟩ := Prod.mk.injEq .. ▸ Except.ok.inj h
      exact List.cons_ne_nil _ _
    | _ => exact absurd h (by simp)
  | ok b =>
    dsimp only at h
    cases hissues : issues root b with
    | error e => rw [hissues] at h; exact absurd h nofun
    | ok found => rw [hissues] at h; exact absurd h nofun

theorem transitionIssues_nil : transitionIssues (some p) (some b) (some a) receipt = .ok [] ↔
    verifyExecutionTransition p.plan b.state a.state receipt = .ok () := by
  simp only [transitionIssues]
  generalize verifyExecutionTransition p.plan b.state a.state receipt = r
  cases r with
  | ok u => exact iff_of_true rfl rfl
  | error e => cases e <;> simp

theorem validateExecution_nil {path planDir beforeDir afterDir : Option (Directory T)} :
    validateExecution path (some planDir) (some beforeDir) (some afterDir) = .ok [] ↔
      ∃ e p b a, loadExecution path = .ok e ∧ loadPlan planDir = .ok p ∧
        loadControlState beforeDir = .ok b ∧ loadControlState afterDir = .ok a ∧
        e.receipt.planSha256 = p.plan.planSha256 ∧
        manifestSha256 beforeDir = .ok e.receipt.beforeStateManifestSha256 ∧
        digest a.state.modelDump = e.receipt.afterStatePayloadSha256 ∧
        verifyExecutionTransition p.plan b.state a.state e.receipt = .ok () := by
  cases he : loadExecution path with
  | error error => cases error <;> simp [validateExecution, he]
  | ok e =>
    simp only [validateExecution, he, bind_eq_ok, pure_eq_ok, List.append_eq_nil_iff, Prod.exists]
    constructor
    · rintro ⟨p, _, hp, b, _, hb, a, _, ha, _, ht, ⟨⟨rfl, rfl⟩, rfl⟩, rfl⟩
      cases p with
      | none => exact absurd rfl (boundArtifact_none hp)
      | some p =>
      cases b with
      | none => exact absurd rfl (boundArtifact_none hb)
      | some b =>
      cases a with
      | none => exact absurd rfl (boundArtifact_none ha)
      | some a =>
      obtain ⟨hpl, hpi⟩ := boundArtifact_nil.mp hp
      obtain ⟨hbl, hbi⟩ := boundArtifact_nil.mp hb
      obtain ⟨hal, hai⟩ := boundArtifact_nil.mp ha
      simp only [Except.ok.injEq, reasonIf_nil, ne_eq, Decidable.not_not] at hpi hai
      refine ⟨e, p, b, a, rfl, hpl, hbl, hal, hpi, ?_, hai, transitionIssues_nil.mp ht⟩
      cases hm : manifestSha256 beforeDir with
      | error _ => simp [hm, Except.map] at hbi
      | ok sha =>
        simp only [hm, Except.map, Except.ok.injEq, reasonIf_nil, ne_eq, Decidable.not_not] at hbi
        rw [hbi]
    · rintro ⟨e', p, b, a, hee, hpl, hbl, hal, hpi, hbi, hai, ht⟩
      obtain rfl := Except.ok.inj hee
      refine ⟨some p, [], boundArtifact_nil.mpr ⟨hpl, ?_⟩, some b, [],
        boundArtifact_nil.mpr ⟨hbl, ?_⟩, some a, [], boundArtifact_nil.mpr ⟨hal, ?_⟩, [],
        transitionIssues_nil.mpr ht, ⟨⟨rfl, rfl⟩, rfl⟩, rfl⟩
      · simp [reasonIf_nil, hpi]
      · simp [hbi, Except.map, reasonIf_nil]
      · simp [reasonIf_nil, hai]

-- ---------------------------------------------------------------------------
-- Replaying a plan that was not executed
-- ---------------------------------------------------------------------------

/-- The plan's actions lead from the state to a state an artifact can hold. -/
structure Replayable (plan : RemediationPlan) (before : ControlState) : Prop where
  incident : before.incidentId = plan.incidentId
  fresh : plan.planSha256 ∉ before.executedPlanHashes
  executedRoom : before.executedPlanHashes.length < 10000
  consumedRoom : before.consumedTokenNonceHashes.length < 10000
  count : lengthIn plan.actions 1 10
  applicable : (actionCommands.run (resourceIndex before) plan.actions).isSome = true
  executable : ∀ a ∈ plan.actions, a.Executable

/-- A receipt that nobody executed, for any nonce hash. -/
def replayedReceipt (plan : RemediationPlan) (beforeStateManifestSha256 nonceSha256 : String)
    (after : ControlState) (receipts : List ActionExecutionReceipt) : ExecutionReceipt :=
  let draft : ExecutionReceipt :=
    { executionId := "replay"
      remediationId := plan.remediationId
      incidentId := plan.incidentId
      executedBy := "nobody"
      executedAt := plan.requestedAt
      planSha256 := plan.planSha256
      approvalSnapshotSha256 := zeroHash
      tokenSha256 := zeroHash
      tokenNonceSha256 := nonceSha256
      beforeStateManifestSha256
      afterStatePayloadSha256 := digest after.modelDump
      actionReceipts := receipts
      receiptSha256 := zeroHash }
  { draft with receiptSha256 := digest (.obj draft.unsigned) }

omit [RemediationText T] in
theorem replayedReceipt_hash : digest (.obj (replayedReceipt plan before nonce after
    receipts).unsigned) = (replayedReceipt plan before nonce after receipts).receiptSha256 := by
  rfl

/-- A replayable plan validates with such a receipt, whatever its status and
binding. -/
theorem Replayable.validates {planDir beforeDir : Option (Directory T)}
    (h : Replayable p.plan b.state) (hp : loadPlan planDir = .ok p)
    (hb : loadControlState beforeDir = .ok b) :
    ∃ executionDir afterDir : Option (Directory T),
      validateExecution executionDir (some planDir) (some beforeDir) (some afterDir) = .ok [] := by
  have hstorable := loadControlState_storable hb
  obtain ⟨hplan, -⟩ := loadPlan_valid hp
  obtain ⟨nonce, hnonce, hfresh⟩ := exists_fresh_hash h.consumedRoom
  obtain ⟨updated, hrun⟩ := Option.isSome_iff_exists.mp h.applicable
  obtain ⟨done, hdone⟩ : ∃ done, executeActions b.state p.plan.actions = .ok done := by
    rcases loop_executeAction_of_run (p := ⟨resourceIndex b.state, []⟩) hrun with
      ⟨-, done, hdone, -⟩ | ⟨⟨a, ha, hne⟩, -⟩
    · exact ⟨done, hdone⟩
    · exact absurd (h.executable a ha) hne
  obtain ⟨sha, hsha, hshaHex⟩ := loadControlState_manifestSha256 hb
  let after := stateAfter b.state p.plan nonce done.updated
  let receipt := replayedReceipt p.plan sha nonce after done.receipts
  have hafter : Storable after :=
    ⟨stateAfter_valid hstorable.valid (executeActions_holds hstorable.valid.validResources hdone)
      hplan.planSha256 h.fresh hnonce hfresh h.executedRoom h.consumedRoom,
      hstorable.stateId, hstorable.incidentId⟩
  have hlen : done.receipts.length = p.plan.actions.length := by
    simpa using congrArg List.length (executeActions_ok hdone).2.2
  have hreceipt : StorableReceipt receipt := by
    have hname : isIdentifier "replay" = true ∧ isIdentifier "nobody" = true ∧
        "replay".length ≤ 200 := by decide
    refine ⟨⟨hname.1, hplan.remediationId, hplan.incidentId, hname.2.1, hplan.requestedAt,
      hplan.planSha256, zeroHash_isSha256, zeroHash_isSha256, hnonce, hshaHex,
      digest_hex _, ?_, ?_, digest_hex _⟩, rfl, hname.2.2, ?_⟩
    · show lengthIn done.receipts 1 10
      rw [lengthIn, hlen]
      exact h.count
    · exact loop_executeAction_receipts hdone (by simp)
    · show p.plan.incidentId.length ≤ 200
      rw [← h.incident]
      exact hstorable.incidentId
  refine ⟨some (executionDirectory receipt), some (controlStateDirectory after), ?_⟩
  refine validateExecution_nil.mpr ⟨_, p, b, _, loadExecution_directory hreceipt, hp, hb,
    loadControlState_directory hafter, rfl, hsha, rfl, ?_⟩
  exact verifyExecutionTransition_ok.mpr
    ⟨rfl, rfl, rfl, h.incident, h.fresh, hfresh, done, hdone, rfl, rfl, rfl⟩

/-- A validated execution binds the plan's status and control state exactly
when the plan awaits approval and is bound to the before-state, or cannot be
replayed from there at all. -/
theorem validateExecution_binds_iff (planDir beforeDir : Option (Directory T)) :
    (∀ executionDir afterDir,
      validateExecution executionDir (some planDir) (some beforeDir) (some afterDir) = .ok [] →
      ∃ p, loadPlan planDir = .ok p ∧ p.plan.status = .awaitingApproval ∧
        manifestSha256 beforeDir = .ok p.plan.controlStateManifestSha256) ↔
    ∀ p b, loadPlan planDir = .ok p → loadControlState beforeDir = .ok b →
      (p.plan.status = .awaitingApproval ∧
        manifestSha256 beforeDir = .ok p.plan.controlStateManifestSha256) ∨
      ¬ Replayable p.plan b.state := by
  constructor
  · intro h p b hp hb
    by_cases hr : Replayable p.plan b.state
    · obtain ⟨executionDir, afterDir, hvalid⟩ := hr.validates hp hb
      obtain ⟨p', hp', hstatus, hbound⟩ := h executionDir afterDir hvalid
      obtain rfl := Except.ok.inj (hp.symm.trans hp')
      exact .inl ⟨hstatus, hbound⟩
    · exact .inr hr
  · intro h executionDir afterDir hvalid
    obtain ⟨e, p, b, a, he, hp, hb, ha, -, -, -, htransition⟩ := validateExecution_nil.mp hvalid
    refine ⟨p, hp, ?_⟩
    rcases h p b hp hb with hbound | hnot
    · exact hbound
    · refine absurd ?_ hnot
      obtain ⟨-, -, -, hinc, hnew, hfresh, done, hdone, hstate, hreceipts, -⟩ :=
        verifyExecutionTransition_ok.mp htransition
      obtain ⟨hrun, hexec, hinv⟩ := executeActions_ok hdone
      have hlen : e.receipt.actionReceipts.length = p.plan.actions.length := by
        simpa [hreceipts] using congrArg List.length hinv
      have hb' := (loadControlState_storable hb).valid
      have ha' := (loadControlState_storable ha).valid
      have hel := (sorted_snoc hnew hb'.uniqueExecuted).2.1
      have hcl := (sorted_snoc hfresh hb'.uniqueConsumed).2.1
      have hec : (sorted (b.state.executedPlanHashes ++ [p.plan.planSha256])).length ≤ 10000 := by
        have := ha'.executedCount
        rwa [hstate] at this
      have hcc : (sorted (b.state.consumedTokenNonceHashes ++
          [e.receipt.tokenNonceSha256])).length ≤ 10000 := by
        have := ha'.consumedCount
        rwa [hstate] at this
      have hcount := (loadExecution_storable he).valid.actionCount
      rw [lengthIn, hlen] at hcount
      exact ⟨hinc, hnew, by omega, by omega, hcount, by simp [hrun], hexec⟩

end

-- ---------------------------------------------------------------------------
-- A denied plan
-- ---------------------------------------------------------------------------

namespace Sample

/-- The investigation ended without the confidence the gate asks for. -/
def deniedPlan : RemediationPlan :=
  sealed (planDraft report proposal config
    (assessProposal { report with confidence := 0 } state proposal config) (sha 3) (sha 4) zeroHash)

def disabledCheckout : ControlResource :=
  .featureFlag { resourceId := "checkout", enabled := false }

def restoredLimits : ControlResource :=
  .configuration
    { resourceId := "limits", currentVersion := "v1", availableVersions := ["v1", "v2"] }

def replayedState : ControlState :=
  { state with
    generation := 1
    resources := [disabledCheckout, restoredLimits]
    consumedTokenNonceHashes := [sha 7]
    executedPlanHashes := [deniedPlan.planSha256] }

def beforeDir : Directory Text := controlStateDirectory state

def deniedPlanDir : Directory Text := planDirectory config proposal deniedPlan

def deniedReceipt : ExecutionReceipt :=
  replayedReceipt deniedPlan (FileText.sha256 (TextCodec.dump (controlStateManifest Text state) : Text))
    (sha 7) replayedState
    [actionReceipt disableFlag checkout disabledCheckout,
      actionReceipt restoreLimits limits restoredLimits]

theorem denied_outcome :
    (assessProposal { report with confidence := 0 } state proposal config).Valid ∧
      deniedPlan.status = .denied := by
  have : (assessProposal { report with confidence := 0 } state proposal config).outcome.planStatus =
      .denied := by decide +kernel
  exact ⟨by decide +kernel, this⟩

theorem actions_executable : ∀ a ∈ proposal.actions, a.Executable := by
  have hlength : ∀ a ∈ proposal.actions, a.actionId.length ≤ 1975 := by decide
  intro a ha
  have hvalid := proposal_valid.actions a ha
  exact ⟨hvalid.base.actionId, RemediationAction.inverse_valid hvalid (hlength a ha)⟩

theorem actions_replayed : executeActions state deniedPlan.actions = .ok
    { updated := Function.update (Function.update (resourceIndex state) "checkout"
        (some disabledCheckout)) "limits" (some restoredLimits)
      receipts := deniedReceipt.actionReceipts } := by
  obtain ⟨hdisable, hrestore⟩ := List.forall_mem_cons.mp actions_executable
  refine loop_cons.mpr ⟨_, executeAction_ok.mpr ⟨checkout, disabledCheckout, rfl, rfl, hdisable,
    rfl⟩, loop_cons.mpr ⟨_, executeAction_ok.mpr ⟨limits, restoredLimits, ?_, rfl,
    List.forall_mem_singleton.mp hrestore, rfl⟩, rfl⟩⟩
  decide

theorem replayedState_valid : replayedState.Valid :=
  have hstate : Model.Valid state := by decide +kernel
  { (hstate : state.Valid) with
    resources := by decide +kernel
    consumedCount := by decide
    consumed := List.forall_mem_singleton.mpr (sha_hex 7)
    executedCount := by decide
    executed := List.forall_mem_singleton.mpr (digest_hex _)
    uniqueConsumed := List.nodup_singleton _
    uniqueExecuted := List.nodup_singleton _ }

theorem deniedReceipt_storable : StorableReceipt deniedReceipt where
  valid :=
    { executionId := (by decide : isIdentifier "replay" = true)
      remediationId := proposal_valid.remediationId
      incidentId := proposal_valid.incidentId
      executedBy := (by decide : isIdentifier "nobody" = true)
      executedAt := rfl
      planSha256 := digest_hex _
      approvalSnapshotSha256 := zeroHash_isSha256
      tokenSha256 := zeroHash_isSha256
      tokenNonceSha256 := sha_hex 7
      beforeStateManifestSha256 := FileText.sha256_hex _
      afterStatePayloadSha256 := digest_hex _
      actionCount := (by decide : 1 ≤ 2 ∧ 2 ≤ 10)
      actionReceipts := loop_executeAction_receipts actions_replayed (by simp)
      receiptSha256 := digest_hex _ }
  hash := replayedReceipt_hash
  executionId := (by decide : "replay".length ≤ 200)
  incidentId := (by decide : "incident".length ≤ 200)

end Sample

open Sample in
/-- A receipt for a denied plan, bound to another control state, validates. -/
theorem denied_plan_validates :
    validateExecution (some (executionDirectory deniedReceipt : Directory Text))
        (some (some deniedPlanDir)) (some (some beforeDir))
        (some (some (controlStateDirectory replayedState))) = .ok [] ∧
      ∃ p, loadPlan (some deniedPlanDir) = .ok p ∧ p.plan = deniedPlan ∧
        p.plan.status = .denied ∧
        manifestSha256 (some beforeDir) ≠ .ok p.plan.controlStateManifestSha256 := by
  have hplan : (planDraft { report with confidence := 0 } proposal config
      (assessProposal { report with confidence := 0 } state proposal config) (sha 3) (sha 4)
      deniedPlan.planSha256).Valid :=
    planDraft_valid proposal_valid denied_outcome.1 report_sources (sha_hex 3) (sha_hex 4)
      (digest_hex _)
  have hstate : Model.Valid state := by decide +kernel
  have hsha : manifestSha256 (some beforeDir) = .ok deniedReceipt.beforeStateManifestSha256 :=
    manifestSha256_controlStateDirectory state
  have hother : deniedReceipt.beforeStateManifestSha256 ≠ deniedPlan.controlStateManifestSha256 := by
    decide +kernel
  have hload : loadPlan (some deniedPlanDir) =
      .ok ⟨planManifest Text config proposal deniedPlan, config, proposal, deniedPlan⟩ :=
    loadPlan_directory hplan (verifyPlan_sealed rfl) proposal_valid rfl (by decide) (by decide)
  have hreplay : verifyExecutionTransition deniedPlan state replayedState deniedReceipt = .ok () :=
    verifyExecutionTransition_ok.mpr ⟨rfl, rfl, rfl, rfl, List.not_mem_nil, List.not_mem_nil, _,
      actions_replayed, rfl, rfl, rfl⟩
  refine ⟨validateExecution_nil.mpr ⟨_, _, _, _,
    loadExecution_directory deniedReceipt_storable, hload,
    loadControlState_directory ⟨hstate, by decide, by decide⟩,
    loadControlState_directory ⟨replayedState_valid, by decide, by decide⟩, rfl, hsha, rfl,
    hreplay⟩, _, hload, rfl, denied_outcome.2, ?_⟩
  rw [hsha]
  exact fun h => hother (Except.ok.inj h)

end Paic.Remediation
