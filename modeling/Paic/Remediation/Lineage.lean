import Paic.Remediation.ExecutorLaws

/-!
# Lineages of control states

A committed execution on control states alone: it consumes one plan hash and
one nonce hash that the state did not hold, and leaves the identity and the
order of the resources as they are. A lineage is a sequence of them; what it
has consumed is what its commits name, each once. `executePlan_advances` is
the executor's part, the store's follows in `StoreHistory`.
-/

namespace Paic.Remediation

/-- What one committed execution uses up. -/
structure Commit where
  planSha256 : String
  nonceSha256 : String
  deriving DecidableEq, Repr

structure Advances (s : ControlState) (c : Commit) (s' : ControlState) : Prop where
  stateId : s'.stateId = s.stateId
  incidentId : s'.incidentId = s.incidentId
  resourceIds : s'.resourceIds = s.resourceIds
  generation : s'.generation = s.generation + 1
  freshPlan : c.planSha256 ∉ s.executedPlanHashes
  executed : s'.executedPlanHashes = sorted (s.executedPlanHashes ++ [c.planSha256])
  freshNonce : c.nonceSha256 ∉ s.consumedTokenNonceHashes
  consumed : s'.consumedTokenNonceHashes = sorted (s.consumedTokenNonceHashes ++ [c.nonceSha256])

inductive Lineage (s₀ : ControlState) : List Commit → ControlState → Prop where
  | start : Lineage s₀ [] s₀
  | advance (h : Lineage s₀ commits s) (ha : Advances s c s') : Lineage s₀ (commits ++ [c]) s'

namespace Lineage

theorem stateId (h : Lineage s₀ commits s) : s.stateId = s₀.stateId := by
  induction h with
  | start => rfl
  | advance _ ha ih => rw [ha.stateId, ih]

theorem incidentId (h : Lineage s₀ commits s) : s.incidentId = s₀.incidentId := by
  induction h with
  | start => rfl
  | advance _ ha ih => rw [ha.incidentId, ih]

theorem resourceIds (h : Lineage s₀ commits s) : s.resourceIds = s₀.resourceIds := by
  induction h with
  | start => rfl
  | advance _ ha ih => rw [ha.resourceIds, ih]

theorem generation (h : Lineage s₀ commits s) :
    s.generation = s₀.generation + commits.length := by
  induction h with
  | start => rfl
  | advance _ ha ih => rw [ha.generation, ih, List.length_append]; rfl

theorem executed_perm (h : Lineage s₀ commits s) :
    s.executedPlanHashes.Perm (s₀.executedPlanHashes ++ commits.map Commit.planSha256) := by
  induction h with
  | start => simp
  | advance _ ha ih =>
    rw [ha.executed, List.map_append, ← List.append_assoc]
    exact sorted_perm.trans (ih.append_right _)

theorem consumed_perm (h : Lineage s₀ commits s) :
    s.consumedTokenNonceHashes.Perm
      (s₀.consumedTokenNonceHashes ++ commits.map Commit.nonceSha256) := by
  induction h with
  | start => simp
  | advance _ ha ih =>
    rw [ha.consumed, List.map_append, ← List.append_assoc]
    exact sorted_perm.trans (ih.append_right _)

theorem executed_nodup (h : Lineage s₀ commits s) (h₀ : s₀.executedPlanHashes.Nodup) :
    s.executedPlanHashes.Nodup := by
  induction h with
  | start => exact h₀
  | advance _ ha ih => rw [ha.executed]; exact (sorted_snoc ha.freshPlan ih).1

theorem consumed_nodup (h : Lineage s₀ commits s) (h₀ : s₀.consumedTokenNonceHashes.Nodup) :
    s.consumedTokenNonceHashes.Nodup := by
  induction h with
  | start => exact h₀
  | advance _ ha ih => rw [ha.consumed]; exact (sorted_snoc ha.freshNonce ih).1

end Lineage

-- ---------------------------------------------------------------------------
-- The executor
-- ---------------------------------------------------------------------------

section
variable [Hashing] [TokenFormat]

/-- What `execute_plan` returns is one step of a lineage, valid as long as the
lists have room. -/
theorem executePlan_advances (hs : s.Valid)
    (h : executePlan plan s status config request token secret manifest = .ok (after, receipt)) :
    Advances s ⟨plan.planSha256, receipt.tokenNonceSha256⟩ after ∧
      (s.executedPlanHashes.length < 10000 → s.consumedTokenNonceHashes.length < 10000 →
        after.Valid) := by
  obtain ⟨nonce, done, hauth, hdone, rfl, -, -, rfl⟩ := executePlan_ok.mp h
  obtain ⟨hverify, -, -, -, hplan, claims, -, hnonce, rfl⟩ := authorizeExecution_ok.mp hauth
  have hholds := executeActions_holds hs.validResources hdone
  refine ⟨⟨rfl, rfl, stateAfter_resourceIds hholds, rfl, hplan, rfl, hnonce, rfl⟩, fun he hc => ?_⟩
  have hhash := (verifyPlan_ok.mp hverify).1
  exact stateAfter_valid hs hholds (hhash ▸ digest_hex _) hplan (Hashing.sha256_hex _) hnonce he hc

/-- What the receipt says of the state it leads to. -/
theorem executePlan_receipt
    (h : executePlan plan s status config request token secret manifest = .ok (after, receipt)) :
    receipt.Valid ∧ digest (.obj receipt.unsigned) = receipt.receiptSha256 ∧
      receipt.executionId = request.executionId ∧ receipt.incidentId = s.incidentId ∧
      receipt.beforeStateManifestSha256 = manifest ∧
      receipt.afterStatePayloadSha256 = digest after.modelDump := by
  obtain ⟨nonce, done, hauth, -, rfl, -, hvalid, rfl⟩ := executePlan_ok.mp h
  obtain ⟨-, -, -, hinc, -⟩ := authorizeExecution_ok.mp hauth
  exact ⟨hvalid, rfl, rfl, hinc.symm, rfl, rfl⟩

end

end Paic.Remediation
