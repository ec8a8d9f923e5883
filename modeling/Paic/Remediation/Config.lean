import Paic.Remediation.Models

/-!
# Configuration of governed remediation

A configuration is only ever built by validation and is never copied, so each
part carries what its validators establish as fields: a configuration that
`RemediationConfig` would reject cannot be written down. Thresholds are
rationals; only their order matters.
-/

namespace Paic.Remediation

structure InvestigationGate where
  minimumConfidence : Rat
  minimumSelectedPosterior : Rat
  minimumPosteriorMargin : Rat
  maximumNormalizedEntropy : Rat
  minimumSupportingEvidence : Nat
  confidence_unit : 0 ≤ minimumConfidence ∧ minimumConfidence ≤ 1
  posterior_unit : 0 ≤ minimumSelectedPosterior ∧ minimumSelectedPosterior ≤ 1
  margin_unit : 0 ≤ minimumPosteriorMargin ∧ minimumPosteriorMargin ≤ 1
  entropy_unit : 0 ≤ maximumNormalizedEntropy ∧ maximumNormalizedEntropy ≤ 1
  evidence_range : 1 ≤ minimumSupportingEvidence ∧ minimumSupportingEvidence ≤ 50
  deriving DecidableEq

structure ApproverIdentity where
  approverId : String
  approverGroup : String
  keyId : String
  keyEnv : String
  deriving DecidableEq, Repr

@[mk_iff]
structure ApproverIdentity.Valid (i : ApproverIdentity) : Prop where
  approverId : isIdentifier i.approverId = true
  approverGroup : isIdentifier i.approverGroup = true
  keyId : isKeyId i.keyId = true
  keyEnv : isEnvName i.keyEnv = true

instance (i : ApproverIdentity) : Decidable i.Valid :=
  decidable_of_iff' _ (ApproverIdentity.valid_iff i)

structure ApprovalPolicy where
  planTtlMinutes : Nat
  tokenTtlMinutes : Nat
  minimumSecretBytes : Nat
  allowRequesterApproval : Bool
  requireDistinctGroupsForHighRisk : Bool
  lowRiskApprovals : Nat
  mediumRiskApprovals : Nat
  highRiskApprovals : Nat
  approverRegistry : List ApproverIdentity
  planTtl_range : 1 ≤ planTtlMinutes ∧ planTtlMinutes ≤ 24 * 60
  tokenTtl_range : 1 ≤ tokenTtlMinutes ∧ tokenTtlMinutes ≤ 120
  secret_range : 32 ≤ minimumSecretBytes ∧ minimumSecretBytes ≤ 4096
  lowRisk_range : 1 ≤ lowRiskApprovals ∧ lowRiskApprovals ≤ 10
  mediumRisk_range : 1 ≤ mediumRiskApprovals ∧ mediumRiskApprovals ≤ 10
  highRisk_range : 2 ≤ highRiskApprovals ∧ highRiskApprovals ≤ 10
  registry_count : 1 ≤ approverRegistry.length ∧ approverRegistry.length ≤ 100
  registry_valid : ∀ i ∈ approverRegistry, i.Valid
  unique_ids : (approverRegistry.map ApproverIdentity.approverId).Nodup
  unique_keys : (approverRegistry.map ApproverIdentity.keyId).Nodup
  deriving DecidableEq

structure RemediationPolicy where
  allowedActionTypes : List ActionType
  maximumBlastRadius : BlastRadius
  maximumActions : Nat
  denyCriticalRisk : Bool
  actions_range : 1 ≤ maximumActions ∧ maximumActions ≤ 10
  unique_types : allowedActionTypes.Nodup
  some_type : allowedActionTypes ≠ []
  deriving DecidableEq

structure RemediationConfig where
  policyId : String
  investigationGate : InvestigationGate
  remediation : RemediationPolicy
  approval : ApprovalPolicy
  policyId_key : isKeyId policyId = true
  deriving DecidableEq

/-- `ApprovalPolicy` with its default numbers, for a given registry. -/
def ApprovalPolicy.withRegistry (registry : List ApproverIdentity)
    (count : 1 ≤ registry.length ∧ registry.length ≤ 100) (valid : ∀ i ∈ registry, i.Valid)
    (ids : (registry.map ApproverIdentity.approverId).Nodup)
    (keys : (registry.map ApproverIdentity.keyId).Nodup) : ApprovalPolicy where
  planTtlMinutes := 30
  tokenTtlMinutes := 10
  minimumSecretBytes := 32
  allowRequesterApproval := false
  requireDistinctGroupsForHighRisk := true
  lowRiskApprovals := 1
  mediumRiskApprovals := 1
  highRiskApprovals := 2
  approverRegistry := registry
  planTtl_range := by decide
  tokenTtl_range := by decide
  secret_range := by decide
  lowRisk_range := by decide
  mediumRisk_range := by decide
  highRisk_range := by decide
  registry_count := count
  registry_valid := valid
  unique_ids := ids
  unique_keys := keys

/-- The default gate. -/
def InvestigationGate.default : InvestigationGate where
  minimumConfidence := 4 / 5
  minimumSelectedPosterior := 3 / 4
  minimumPosteriorMargin := 1 / 5
  maximumNormalizedEntropy := 13 / 20
  minimumSupportingEvidence := 2
  confidence_unit := by decide +kernel
  posterior_unit := by decide +kernel
  margin_unit := by decide +kernel
  entropy_unit := by decide +kernel
  evidence_range := by decide

/-- The default policy. -/
def RemediationPolicy.default : RemediationPolicy where
  allowedActionTypes := [.deploymentRollback, .featureFlagSet, .configurationRestore]
  maximumBlastRadius := .multiService
  maximumActions := 3
  denyCriticalRisk := true
  actions_range := by decide
  unique_types := by decide
  some_type := by decide

end Paic.Remediation
