import Paic.Remediation.ApprovalLaws
import Paic.Remediation.Rollback
import Paic.Remediation.Sample
import Mathlib

/-!
# Group separation

`evaluate_approval` asks for distinct groups only when the risk is `high`; a
`critical` plan, which needs the same number of approvals, is approved by
approvers of one group. `groups_separated_iff` says for which registries that
can happen: the other direction builds the ledger of a quorum that shares a
group, `jointLedger`, and evaluates it.
-/

namespace Paic.Remediation

open Checks

-- ---------------------------------------------------------------------------
-- Who may approve
-- ---------------------------------------------------------------------------

/-- The registered approvers whose decision on the plan counts. -/
def eligible (config : RemediationConfig) (plan : RemediationPlan) : List ApproverIdentity :=
  config.approval.approverRegistry.filter fun i =>
    config.approval.allowRequesterApproval || i.approverId != plan.requestedBy

theorem mem_eligible : i ∈ eligible config plan ↔ i ∈ config.approval.approverRegistry ∧
    (config.approval.allowRequesterApproval = false → i.approverId ≠ plan.requestedBy) := by
  cases h : config.approval.allowRequesterApproval <;> simp [eligible, h]

/-- The plan is of the risk level the code checks, or no quorum of eligible
approvers can share a group. -/
def GroupsSeparated (config : RemediationConfig) (plan : RemediationPlan) : Prop :=
  plan.riskLevel = .high ∨ (eligible config plan).length < plan.requiredApprovals ∨
    ((eligible config plan).map ApproverIdentity.approverGroup).Nodup

instance : Decidable (GroupsSeparated config plan) := by
  unfold GroupsSeparated; infer_instance

section
variable [Hashing]

/-- The identities behind the approving decisions that pass the loop. -/
theorem approvers_of_pass (hpass : DecisionsPass environ plan config at_ decisions) :
    ∃ identities : List ApproverIdentity,
      (∀ i ∈ identities, i ∈ eligible config plan) ∧
      identities.map ApproverIdentity.approverId =
        (approvals decisions).map ApprovalDecision.approverId ∧
      identities.map ApproverIdentity.approverGroup =
        (approvals decisions).map ApprovalDecision.approverGroup := by
  have key : ∀ ds : List ApprovalDecision, (∀ d ∈ ds, d ∈ decisions) →
      ∃ identities : List ApproverIdentity, (∀ i ∈ identities, i ∈ eligible config plan) ∧
        identities.map ApproverIdentity.approverId = ds.map ApprovalDecision.approverId ∧
        identities.map ApproverIdentity.approverGroup = ds.map ApprovalDecision.approverGroup := by
    intro ds hds
    induction ds with
    | nil => exact ⟨[], nofun, rfl, rfl⟩
    | cons d ds ih =>
      obtain ⟨identities, hel, hids, hgroups⟩ := ih fun e he => hds e (List.mem_cons_of_mem _ he)
      obtain ⟨earlier, later, hsplit⟩ := List.append_of_mem (hds d (by simp))
      obtain ⟨⟨i, a, hby, -⟩, hw⟩ := hpass earlier d later hsplit
      refine ⟨i :: identities, List.forall_mem_cons.mpr ⟨?_, hel⟩, ?_, ?_⟩
      · exact mem_eligible.mpr ⟨hby.registered, fun hr => hby.approver ▸ hw.requester hr⟩
      · rw [List.map_cons, List.map_cons, hby.approver, hids]
      · rw [List.map_cons, List.map_cons, hby.group, hgroups]
  exact key _ fun d hd => List.mem_of_mem_filter hd

/-- Where eligible approvers cannot share a group, an approval has as many
groups as it has approvals. -/
theorem groups_of_pass (hpass : DecisionsPass environ plan config at_ decisions)
    (hids : ((approvals decisions).map ApprovalDecision.approverId).Nodup)
    (hcount : plan.requiredApprovals ≤ (approvals decisions).length)
    (hsep : (eligible config plan).length < plan.requiredApprovals ∨
      ((eligible config plan).map ApproverIdentity.approverGroup).Nodup) :
    plan.requiredApprovals ≤ approvalGroupCount decisions := by
  obtain ⟨identities, hel, hi, hg⟩ := approvers_of_pass hpass
  rw [← hi] at hids
  have hlen : identities.length = (approvals decisions).length := by
    simpa using congrArg List.length hi
  rcases hsep with hfew | hnodup
  · have := (List.subperm_of_subset (List.Nodup.of_map _ hids) hel).length_le
    omega
  · have hgroups : (identities.map ApproverIdentity.approverGroup).Nodup :=
      (List.Nodup.of_map _ hids).map_on fun i hi j hj he =>
        List.inj_on_of_nodup_map hnodup (hel i hi) (hel j hj) he
    rw [approvalGroupCount, ← hg, hgroups.dedup, List.length_map, hlen]
    exact hcount

end

-- ---------------------------------------------------------------------------
-- A quorum of one group
-- ---------------------------------------------------------------------------

/-- A key as long as any configuration asks for. -/
def longKey : Nat → String
  | 0 => ""
  | n + 1 => longKey n ++ "k"

theorem longKey_size (n : Nat) : (longKey n).utf8ByteSize = n := by
  induction n with
  | zero => rfl
  | succ n ih => rw [longKey, String.utf8ByteSize_append, ih]; rfl

/-- The first two approvers that share a group. -/
def sharedGroup : List ApproverIdentity → Option (ApproverIdentity × ApproverIdentity)
  | [] => none
  | i :: rest =>
    match rest.find? fun j => j.approverGroup == i.approverGroup with
    | some j => some (i, j)
    | none => sharedGroup rest

/-- As many eligible approvers as the plan requires, two of one group among
them. -/
def jointQuorum (config : RemediationConfig) (plan : RemediationPlan) : List ApproverIdentity :=
  match sharedGroup (eligible config plan) with
  | some (i, j) =>
    i :: j :: (((eligible config plan).erase i).erase j).take (plan.requiredApprovals - 2)
  | none => []

theorem sharedGroup_some {is : List ApproverIdentity}
    (h : ¬ (is.map ApproverIdentity.approverGroup).Nodup) (hn : is.Nodup) :
    ∃ i j, sharedGroup is = some (i, j) ∧ i ∈ is ∧ j ∈ is ∧ i ≠ j ∧
      j.approverGroup = i.approverGroup := by
  induction is with
  | nil => simp at h
  | cons i rest ih =>
    obtain ⟨hnew, hn⟩ := List.nodup_cons.mp hn
    cases hfind : rest.find? fun j => j.approverGroup == i.approverGroup with
    | some j =>
      have hj := List.mem_of_find?_eq_some hfind
      have hg := List.find?_some hfind
      exact ⟨i, j, by simp [sharedGroup, hfind], by simp, by simp [hj],
        fun he => hnew (he ▸ hj), by simpa using hg⟩
    | none =>
      have hrest : ¬ (rest.map ApproverIdentity.approverGroup).Nodup := by
        intro hd
        refine h (List.nodup_cons.mpr ⟨fun hmem => ?_, hd⟩)
        obtain ⟨j, hj, hg⟩ := List.mem_map.mp hmem
        have := List.find?_eq_none.mp hfind j hj
        simp [hg] at this
      obtain ⟨a, b, hs, ha, hb, hab⟩ := ih hrest hn
      exact ⟨a, b, by simp [sharedGroup, hfind, hs], by simp [ha], by simp [hb], hab⟩

theorem eligible_nodup : (eligible config plan).Nodup :=
  (List.Nodup.of_map _ config.approval.unique_ids).filter _

theorem jointQuorum_spec (hreq : 2 ≤ plan.requiredApprovals)
    (hlen : plan.requiredApprovals ≤ (eligible config plan).length)
    (hshare : ¬ ((eligible config plan).map ApproverIdentity.approverGroup).Nodup) :
    (jointQuorum config plan).length = plan.requiredApprovals ∧ (jointQuorum config plan).Nodup ∧
      (∀ i ∈ jointQuorum config plan, i ∈ eligible config plan) ∧
      ((jointQuorum config plan).map ApproverIdentity.approverGroup).dedup.length <
        plan.requiredApprovals := by
  have hn : (eligible config plan).Nodup := eligible_nodup
  obtain ⟨i, j, hs, hi, hj, hij, hg⟩ := sharedGroup_some hshare hn
  have hq : jointQuorum config plan =
      i :: j :: (((eligible config plan).erase i).erase j).take (plan.requiredApprovals - 2) := by
    rw [jointQuorum, hs]
  have hji : j ∈ (eligible config plan).erase i := (List.mem_erase_of_ne hij.symm).mpr hj
  have hrest : ∀ k ∈ (((eligible config plan).erase i).erase j).take (plan.requiredApprovals - 2),
      k ∈ ((eligible config plan).erase i).erase j := fun k hk => List.mem_of_mem_take hk
  have hlength : (jointQuorum config plan).length = plan.requiredApprovals := by
    rw [hq, List.length_cons, List.length_cons, List.length_take, List.length_erase_of_mem hji,
      List.length_erase_of_mem hi]
    omega
  refine ⟨hlength, ?_, ?_, ?_⟩
  · rw [hq]
    refine List.nodup_cons.mpr ⟨?_, List.nodup_cons.mpr ⟨fun hk => ?_, ?_⟩⟩
    · rw [List.mem_cons, not_or]
      exact ⟨hij, fun hk => hn.not_mem_erase (List.mem_of_mem_erase (hrest i hk))⟩
    · exact (hn.erase i).not_mem_erase (hrest j hk)
    · exact ((hn.erase i).erase j).sublist (List.take_sublist _ _)
  · rw [hq]
    refine List.forall_mem_cons.mpr ⟨hi, List.forall_mem_cons.mpr ⟨hj, fun k hk => ?_⟩⟩
    exact List.mem_of_mem_erase (List.mem_of_mem_erase (hrest k hk))
  · rw [← hlength, hq, List.map_cons, List.map_cons,
      List.dedup_cons_of_mem (by rw [hg]; exact List.mem_cons_self)]
    have := (List.dedup_sublist (j.approverGroup :: (((eligible config plan).erase i).erase j |>.take
      (plan.requiredApprovals - 2)).map ApproverIdentity.approverGroup)).length_le
    simp only [List.length_cons, List.length_map] at this ⊢
    omega

-- ---------------------------------------------------------------------------
-- The ledger of the quorum
-- ---------------------------------------------------------------------------

section
variable [Hashing]

/-- The approval of an identity at the moment of the request, attested with
the `n`th nonce under the long key. -/
def jointApproval (config : RemediationConfig) (plan : RemediationPlan) (n : Nat)
    (i : ApproverIdentity) : ApprovalDecision :=
  let unattested : ApprovalDecision :=
    { planSha256 := plan.planSha256
      approverId := i.approverId
      approverGroup := i.approverGroup
      decision := .approve
      reason := "Approved."
      decidedAt := plan.requestedAt
      attestation := none }
  let signature := hmac (longKey config.approval.minimumSecretBytes)
    (attestationPayload unattested i.approverGroup i.keyId (zeroPadded n))
  { unattested with attestation := some { keyId := i.keyId, nonce := zeroPadded n, signature } }

def jointApprovals (config : RemediationConfig) (plan : RemediationPlan) (n : Nat) :
    List ApproverIdentity → List ApprovalDecision
  | [] => []
  | i :: rest => jointApproval config plan n i :: jointApprovals config plan (n + 1) rest

/-- The decisions of the quorum. -/
def jointDecisions (config : RemediationConfig) (plan : RemediationPlan) : List ApprovalDecision :=
  jointApprovals config plan 0 (jointQuorum config plan)

theorem jointApprovals_map {f : ApprovalDecision → β} {g : ApproverIdentity → β}
    (h : ∀ n i, f (jointApproval config plan n i) = g i) (is : List ApproverIdentity) :
    (jointApprovals config plan n is).map f = is.map g := by
  induction is generalizing n with
  | nil => rfl
  | cons i rest ih => rw [jointApprovals, List.map_cons, List.map_cons, h, ih]

theorem approvals_jointApprovals (is : List ApproverIdentity) :
    approvals (jointApprovals config plan n is) = jointApprovals config plan n is := by
  induction is generalizing n with
  | nil => rfl
  | cons i rest ih =>
    rw [jointApprovals, approvals, List.filter_cons_of_pos (by simp [jointApproval])]
    exact congrArg _ ih

theorem jointApproval_valid (hplan : plan.Valid) (hi : i ∈ config.approval.approverRegistry)
    (hn : n < 10 ^ 20) : (jointApproval config plan n i).Valid where
  planSha256 := hplan.planSha256
  approverId := (config.approval.registry_valid i hi).approverId
  approverGroup := (config.approval.registry_valid i hi).approverGroup
  reason := (by decide : textIn "Approved." 1 2000)
  decidedAt := hplan.requestedAt
  attestation := by
    rintro a ha
    obtain rfl := Option.mem_some.mp ha
    refine ⟨isIdentifier_of_isKeyId (config.approval.registry_valid i hi).keyId, ?_,
      Hashing.hmac_hex _ _⟩
    have := zeroPadded_length hn
    rw [String.length_toList] at this
    simp [textIn, this]

/-- An approval of the joint ledger passes the loop after the earlier ones. -/
theorem jointApprovals_split (hplan : plan.Valid) {is : List ApproverIdentity}
    (hel : ∀ i ∈ is, i ∈ eligible config plan)
    (h : jointApprovals config plan n is = earlier ++ decision :: later) :
    (∀ m, zeroPadded m ∈ noncesOf earlier → n ≤ m ∧ m < n + earlier.length) ∧
    WithinPlan plan config plan.requestedAt decision ∧
    ∃ i a, AttestedBy (fun _ => some (longKey config.approval.minimumSecretBytes)) config i
      decision a ∧ a.nonce = zeroPadded (n + earlier.length) := by
  induction is generalizing n earlier with
  | nil => simp [jointApprovals] at h
  | cons i rest ih =>
    obtain ⟨hi, hrest⟩ := List.forall_mem_cons.mp hel
    obtain ⟨hreg, hby⟩ := mem_eligible.mp hi
    cases earlier with
    | nil =>
      obtain ⟨rfl, -⟩ := List.cons.inj h
      refine ⟨by simp [noncesOf], ⟨rfl, le_refl _, hplan.window, le_refl _, hby⟩, i, _,
        ⟨hreg, rfl, rfl, rfl, rfl, longKey config.approval.minimumSecretBytes, ?_, rfl⟩, rfl⟩
      simp [attestationKey, longKey_size]
    | cons d earlier =>
      obtain ⟨rfl, hsplit⟩ := List.cons.inj h
      obtain ⟨hnonces, hw, j, a, hatt, hnonce⟩ := ih hrest hsplit
      refine ⟨fun m hm => ?_, hw, j, a, hatt, by rw [hnonce, List.length_cons]; congr 1; omega⟩
      simp only [noncesOf, List.reverse_cons, List.filterMap_append, List.mem_append,
        List.filterMap_cons, List.filterMap_nil, jointApproval, Option.map_some,
        List.mem_singleton] at hm
      rw [List.length_cons]
      rcases hm with hm | hm
      · have := hnonces m hm
        omega
      · have := zeroPadded_injective hm
        omega

/-- The quorum's ledger passes the loop at the moment of the request. -/
theorem jointDecisions_pass (hplan : plan.Valid)
    (hel : ∀ i ∈ jointQuorum config plan, i ∈ eligible config plan) :
    DecisionsPass (fun _ => some (longKey config.approval.minimumSecretBytes)) plan config
      plan.requestedAt (jointDecisions config plan) := by
  intro earlier decision later h
  obtain ⟨hnonces, hw, i, a, hatt, hnonce⟩ := jointApprovals_split hplan hel h
  refine ⟨⟨i, a, hatt, fun hmem => ?_⟩, hw⟩
  rw [hnonce] at hmem
  have := (hnonces _ hmem).2
  omega

variable {T : Type} [TextCodec T ApprovalLedgerRecord]

/-- A quorum of one group gets a critical plan approved, from fewer groups
than approvals are required. -/
theorem jointLedger_approved (hplan : plan.Valid) (hstatus : plan.status = .awaitingApproval)
    (hrisk : plan.riskLevel ≠ .high) (hreq : 2 ≤ plan.requiredApprovals)
    (hlen : plan.requiredApprovals ≤ (eligible config plan).length)
    (hshare : ¬ ((eligible config plan).map ApproverIdentity.approverGroup).Nodup)
    (hhash : ((chain 1 zeroHash (jointDecisions config plan)).map
      ApprovalLedgerRecord.recordSha256).Nodup) :
    ∃ status,
      evaluateApproval (fun _ => some (longKey config.approval.minimumSecretBytes)) plan
        (ledgerOf (jointDecisions config plan) : ApprovalLedger T) config plan.requestedAt =
        .ok status ∧
      status.status = .approved ∧
      status.approverGroups.dedup.length < plan.requiredApprovals := by
  obtain ⟨hcount, hnodup, hel, hgroups⟩ := jointQuorum_spec hreq hlen hshare
  have hds : ∀ d ∈ jointDecisions config plan, d.Valid := by
    have key : ∀ (is : List ApproverIdentity) n, (∀ i ∈ is, i ∈ eligible config plan) →
        n + is.length ≤ 10 → ∀ d ∈ jointApprovals config plan n is, d.Valid := by
      intro is
      induction is with
      | nil => exact fun _ _ _ => nofun
      | cons i rest ih =>
        intro n his hle
        obtain ⟨hi, hrest⟩ := List.forall_mem_cons.mp his
        rw [List.length_cons] at hle
        exact List.forall_mem_cons.mpr
          ⟨jointApproval_valid hplan (mem_eligible.mp hi).1 (by omega), ih (n + 1) hrest (by omega)⟩
    have := hplan.requiredApprovals
    exact key _ 0 hel (by omega)
  have hvalidate := ledgerOf_validate (T := T) hds hhash
  have hdecisions : (chain 1 zeroHash (jointDecisions config plan)).map
      ApprovalLedgerRecord.decision = jointDecisions config plan := chain_decisions _
  have happ : approvals (jointDecisions config plan) = jointDecisions config plan :=
    approvals_jointApprovals _
  have hids : (jointDecisions config plan).map ApprovalDecision.approverId =
      (jointQuorum config plan).map ApproverIdentity.approverId :=
    jointApprovals_map (fun _ _ => rfl) _
  have hgrp : (jointDecisions config plan).map ApprovalDecision.approverGroup =
      (jointQuorum config plan).map ApproverIdentity.approverGroup :=
    jointApprovals_map (fun _ _ => rfl) _
  have hverdict : (jointDecisions config plan).map ApprovalDecision.decision =
      (jointQuorum config plan).map fun _ => .approve :=
    jointApprovals_map (fun _ _ => rfl) _
  have hsize : (jointDecisions config plan).length = plan.requiredApprovals := by
    simpa [hcount] using congrArg List.length hids
  refine ⟨_, (evaluateApproval_ok hvalidate hplan.requestedAt).mpr ⟨?_, ?_, ?_, rfl⟩, ?_, ?_⟩
  · rw [hdecisions]
    exact jointDecisions_pass hplan hel
  · rw [hdecisions, happ, hids]
    exact hnodup.map_on fun i hi j hj he => List.inj_on_of_nodup_map config.approval.unique_ids
      (mem_eligible.mp (hel i hi)).1 (mem_eligible.mp (hel j hj)).1 he
  · exact fun hhigh => absurd hhigh hrisk
  · rw [hdecisions]
    refine approvalState_approved.mpr ⟨by simp [hstatus], fun d hd hrej => ?_, hplan.window, ?_⟩
    · have hmem := List.mem_map_of_mem (f := ApprovalDecision.decision) hd
      rw [hverdict, List.mem_map] at hmem
      obtain ⟨i, -, hi⟩ := hmem
      rw [hrej] at hi
      exact absurd hi nofun
    · rw [happ, hsize]
  · simp only [hdecisions, happ, hgrp]
    rw [((List.perm_insertionSort _ _).dedup).length_eq]
    exact hgroups

/-- For a plan of high or critical risk, an approval always has as many
groups as the plan requires approvals exactly when `GroupsSeparated` holds. -/
theorem groups_separated_iff
    (hplan : buildPlan report state proposal config m₁ m₂ = .ok plan)
    (hstatus : plan.status = .awaitingApproval)
    (hrisk : plan.riskLevel = .high ∨ plan.riskLevel = .critical)
    (hdistinct : config.approval.requireDistinctGroupsForHighRisk = true)
    (hhash : ((chain 1 zeroHash (jointDecisions config plan)).map
      ApprovalLedgerRecord.recordSha256).Nodup) :
    (∀ environ (ledger : ApprovalLedger T) at_ status,
      evaluateApproval environ plan ledger config at_ = .ok status → status.status = .approved →
      plan.requiredApprovals ≤ status.approverGroups.dedup.length) ↔
      GroupsSeparated config plan := by
  have hreq : 2 ≤ plan.requiredApprovals := by
    obtain ⟨-, -, sha, rfl⟩ := buildPlan_ok hplan
    have hr : aggregateRisk proposal.actions = .high ∨ aggregateRisk proposal.actions = .critical :=
      hrisk
    have hrange := config.approval.highRisk_range.1
    show 2 ≤ requiredApprovals (aggregateRisk proposal.actions) config
    rcases hr with hr | hr <;> rw [hr] <;> exact hrange
  constructor
  · intro h
    by_contra hnot
    simp only [GroupsSeparated, not_or, Nat.not_lt] at hnot
    obtain ⟨hhigh, hlen, hshare⟩ := hnot
    obtain ⟨status, hok, happ, hlt⟩ := jointLedger_approved (T := T) (buildPlan_ok hplan).1 hstatus
      hhigh hreq hlen hshare hhash
    have := h _ _ _ status hok happ
    omega
  · intro hsep environ ledger at_ status hok happ
    have hat : at_.Aware := by
      by_contra hnot
      simp [evaluateApproval, raiseIf_pos hnot] at hok
    obtain ⟨records, hv⟩ : ∃ records, ledger.validate = .ok records := by
      simp only [evaluateApproval, raiseIf_neg (not_not.mpr hat), ok_bind, bind_eq_ok] at hok
      obtain ⟨records, hv, -⟩ := hok
      exact ⟨records, hv⟩
    obtain ⟨hpass, hids, hgroups, rfl⟩ := (evaluateApproval_ok hv hat).mp hok
    obtain ⟨-, -, -, hcount⟩ := approvalState_approved.mp happ
    show _ ≤ (List.insertionSort _ _).dedup.length
    rw [((List.perm_insertionSort _ _).dedup).length_eq]
    rcases hsep with hhigh | hsep
    · have := hgroups hhigh hdistinct
      rwa [Nat.min_eq_left hcount] at this
    · exact groups_of_pass hpass hids hcount hsep

end

namespace Sample

theorem criticalProposal_valid : criticalProposal.Valid :=
  { proposal_valid with
    actionCount := (by decide : lengthIn [disableEverywhere] 1 10)
    actions := List.forall_mem_singleton.mpr
      ⟨base_valid (by decide), (by decide : isIdentifier "checkout" = true), nofun⟩
    uniqueActions := List.nodup_singleton _
    uniqueTargets := List.nodup_singleton _ }

theorem critical_outcome : (assessProposal report state criticalProposal config).Valid ∧
    criticalPlan.status = .awaitingApproval := by
  have : (assessProposal report state criticalProposal config).outcome.planStatus =
      .awaitingApproval := by decide +kernel
  exact ⟨by decide +kernel, this⟩

theorem critical_risk : criticalPlan.riskLevel = .critical :=
  (by decide : aggregateRisk criticalProposal.actions = .critical)

end Sample

theorem criticalPlan_built : buildPlan Sample.report Sample.state Sample.criticalProposal
    Sample.config (Sample.sha 3) (Sample.sha 4) = .ok Sample.criticalPlan := by
  exact buildPlan_draft Sample.criticalProposal_valid Sample.critical_outcome.1
    Sample.report_sources (Sample.sha_hex 3) (Sample.sha_hex 4)

theorem criticalPlan_hashes : ((chain 1 zeroHash (jointDecisions Sample.config
    Sample.criticalPlan)).map ApprovalLedgerRecord.recordSha256).Nodup := by
  decide +kernel

theorem groups_separated_iff_sample :
    (∀ environ (ledger : ApprovalLedger ApprovalLedgerRecord) at_ status,
      evaluateApproval environ Sample.criticalPlan ledger Sample.config at_ = .ok status →
      status.status = .approved →
      Sample.criticalPlan.requiredApprovals ≤ status.approverGroups.dedup.length) ↔
      GroupsSeparated Sample.config Sample.criticalPlan :=
  groups_separated_iff criticalPlan_built Sample.critical_outcome.2 (.inr Sample.critical_risk)
    (by decide) criticalPlan_hashes

/-- Two approvers of one group approve a critical plan that needs two. -/
theorem critical_group_shared :
    buildPlan Sample.report Sample.state Sample.criticalProposal Sample.config (Sample.sha 3)
      (Sample.sha 4) = .ok Sample.criticalPlan ∧
    Sample.criticalPlan.status = .awaitingApproval ∧ Sample.criticalPlan.riskLevel = .critical ∧
    Sample.config.approval.requireDistinctGroupsForHighRisk = true ∧
    ∃ environ, ∃ ledger : ApprovalLedger ApprovalLedgerRecord, ∃ at_ status,
      evaluateApproval environ Sample.criticalPlan ledger Sample.config at_ = .ok status ∧
      status.status = .approved ∧
      status.approverGroups.dedup.length < Sample.criticalPlan.requiredApprovals :=
  ⟨criticalPlan_built, Sample.critical_outcome.2, Sample.critical_risk, by decide, _, _, _,
    jointLedger_approved (buildPlan_ok criticalPlan_built).1 Sample.critical_outcome.2
      (Sample.critical_risk ▸ nofun) (by decide +kernel) (by decide +kernel) (by decide +kernel)
      criticalPlan_hashes⟩

end Paic.Remediation
