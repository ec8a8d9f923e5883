import Paic.Lib.Keyed
import Paic.Remediation.Executor

/-!
# What actions do to resources

The abstract side of execution: an action changes one resource or cannot,
and has an inverse that does not depend on the resource. The executor's loop
is a run of these changes over the resources by id, with the receipts and the
validation of inverse actions on top; `executeActions_run` and
`executeActions_of_run` connect the two.
-/

namespace Paic.Remediation

open Checks

-- ---------------------------------------------------------------------------
-- The change and the inverse of an action
-- ---------------------------------------------------------------------------

/-- The resource after an action whose preconditions it meets. -/
def RemediationAction.change : RemediationAction → ControlResource → Option ControlResource
  | .rollbackDeployment _ _ expected target, .deployment r =>
    if r.currentRevision = expected ∧ target ∈ r.availableRevisions then
      some (.deployment { r with currentRevision := target })
    else none
  | .setFeatureFlag _ _ expected desired, .featureFlag r =>
    if r.enabled = expected then some (.featureFlag { r with enabled := desired }) else none
  | .restoreConfiguration _ _ expected target, .configuration r =>
    if r.currentVersion = expected ∧ target ∈ r.availableVersions then
      some (.configuration { r with currentVersion := target })
    else none
  | _, _ => none

def RemediationAction.inverse : RemediationAction → RemediationAction
  | .rollbackDeployment b id expected target => .rollbackDeployment b.reversed id target expected
  | .setFeatureFlag b id expected desired => .setFeatureFlag b.reversed id desired expected
  | .restoreConfiguration b id expected target =>
    .restoreConfiguration b.reversed id target expected

/-- The current revision or version is among the available ones. -/
def ControlResource.Current : ControlResource → Prop
  | .deployment r => r.currentRevision ∈ r.availableRevisions
  | .featureFlag _ => True
  | .configuration r => r.currentVersion ∈ r.availableVersions

namespace RemediationAction

@[simp] theorem inverse_resourceId (a : RemediationAction) : a.inverse.resourceId = a.resourceId := by
  cases a <;> rfl

@[simp] theorem inverse_actionType (a : RemediationAction) : a.inverse.actionType = a.actionType := by
  cases a <;> rfl

@[simp] theorem inverse_blastRadius (a : RemediationAction) :
    a.inverse.blastRadius = a.blastRadius := by
  cases a <;> rfl

@[simp] theorem inverse_evidenceIds (a : RemediationAction) :
    a.inverse.evidenceIds = a.evidenceIds := by
  cases a <;> rfl

theorem inverse_actionId (a : RemediationAction) : a.inverse.actionId = "reverse-" ++ a.actionId := by
  cases a <;> rfl

theorem change_deployment {b : ActionBase} :
    (rollbackDeployment b rid expected target).change r = some r' ↔
    ∃ d, r = .deployment d ∧ d.currentRevision = expected ∧ target ∈ d.availableRevisions ∧
      r' = .deployment { d with currentRevision := target } := by
  cases r <;> simp [change, and_assoc, eq_comm]

theorem change_featureFlag {b : ActionBase} :
    (setFeatureFlag b rid expected desired).change r = some r' ↔
    ∃ d, r = .featureFlag d ∧ d.enabled = expected ∧
      r' = .featureFlag { d with enabled := desired } := by
  cases r <;> simp [change, eq_comm]

theorem change_configuration {b : ActionBase} :
    (restoreConfiguration b rid expected target).change r = some r' ↔
    ∃ d, r = .configuration d ∧ d.currentVersion = expected ∧ target ∈ d.availableVersions ∧
      r' = .configuration { d with currentVersion := target } := by
  cases r <;> simp [change, and_assoc, eq_comm]

theorem change_resourceId {a : RemediationAction} (h : a.change r = some r') :
    r'.resourceId = r.resourceId := by
  cases a with
  | rollbackDeployment => obtain ⟨d, rfl, -, -, rfl⟩ := change_deployment.mp h; rfl
  | setFeatureFlag => obtain ⟨d, rfl, -, rfl⟩ := change_featureFlag.mp h; rfl
  | restoreConfiguration => obtain ⟨d, rfl, -, -, rfl⟩ := change_configuration.mp h; rfl

/-- The copy made without validation is valid all the same: the new value is
among the available ones, and the inverse action bounds its length. -/
theorem change_valid {a : RemediationAction} (ha : a.inverse.Valid) (hr : r.Valid)
    (h : a.change r = some r') : r'.Valid := by
  cases a with
  | rollbackDeployment b rid expected target =>
    obtain ⟨d, rfl, -, hmem, rfl⟩ := change_deployment.mp h
    exact { hr with currentRevision := ha.2.2.1, current := hmem }
  | setFeatureFlag b rid expected desired =>
    obtain ⟨d, rfl, -, rfl⟩ := change_featureFlag.mp h
    exact ⟨hr.resourceId⟩
  | restoreConfiguration b rid expected target =>
    obtain ⟨d, rfl, -, hmem, rfl⟩ := change_configuration.mp h
    exact { hr with currentVersion := ha.2.2.1, current := hmem }

theorem change_current {a : RemediationAction} (h : a.change r = some r') : r'.Current := by
  cases a with
  | rollbackDeployment b rid expected target =>
    obtain ⟨d, rfl, -, hmem, rfl⟩ := change_deployment.mp h
    exact hmem
  | setFeatureFlag b rid expected desired =>
    obtain ⟨d, rfl, -, rfl⟩ := change_featureFlag.mp h
    trivial
  | restoreConfiguration b rid expected target =>
    obtain ⟨d, rfl, -, hmem, rfl⟩ := change_configuration.mp h
    exact hmem

/-- The value an action replaces was available, so its inverse applies. -/
theorem change_inverse {a : RemediationAction} (hr : r.Current) (h : a.change r = some r') :
    a.inverse.change r' = some r := by
  cases a with
  | rollbackDeployment b rid expected target =>
    obtain ⟨d, rfl, rfl, hmem, rfl⟩ := change_deployment.mp h
    exact change_deployment.mpr ⟨_, rfl, rfl, hr, rfl⟩
  | setFeatureFlag b rid expected desired =>
    obtain ⟨d, rfl, rfl, rfl⟩ := change_featureFlag.mp h
    exact change_featureFlag.mpr ⟨_, rfl, rfl, rfl⟩
  | restoreConfiguration b rid expected target =>
    obtain ⟨d, rfl, rfl, hmem, rfl⟩ := change_configuration.mp h
    exact change_configuration.mpr ⟨_, rfl, rfl, hr, rfl⟩

/-- The inverse of a valid action is valid as long as its justification,
which quotes the action's id, is not too long. -/
theorem inverse_valid {a : RemediationAction} (ha : a.Valid) (hlen : a.actionId.length ≤ 1975) :
    a.inverse.Valid := by
  have hb : a.base.reversed.Valid := by
    refine { ha.base with actionId := ?_, justification := ⟨?_, ?_⟩ }
    · exact isIdentifier_join (a := "reverse") (by decide) ha.base.actionId
    · simp only [ActionBase.reversed, toString, String.length_append]
      have h2 : ".".length = 1 := by decide
      omega
    · have hlen : a.base.actionId.length ≤ 1975 := hlen
      simp only [ActionBase.reversed, toString, String.length_append]
      have h1 : "Reverse approved action ".length = 24 := by decide
      have h2 : ".".length = 1 := by decide
      omega
  cases a with
  | rollbackDeployment => exact ⟨hb, ha.2.1, ha.2.2.2.1, ha.2.2.1, ha.2.2.2.2.symm⟩
  | setFeatureFlag => exact ⟨hb, ha.2.1, ha.2.2.symm⟩
  | restoreConfiguration => exact ⟨hb, ha.2.1, ha.2.2.2.1, ha.2.2.1, ha.2.2.2.2.symm⟩

/-- What building the receipt of an action validates about the action. -/
def Executable (a : RemediationAction) : Prop := isIdentifier a.actionId = true ∧ a.inverse.Valid

instance (a : RemediationAction) : Decidable a.Executable := by
  unfold Executable; infer_instance

end RemediationAction

-- ---------------------------------------------------------------------------
-- One pass of the loop
-- ---------------------------------------------------------------------------

theorem newAction_ok {a a' : RemediationAction} : newAction a = .ok a' ↔ a.Valid ∧ a' = a := by
  simp only [newAction, bind_eq_ok, raiseIf_ok, pure_eq_ok, Decidable.not_not, exists_and_left,
    exists_const, @eq_comm _ a]

theorem newAction_error {a : RemediationAction} :
    newAction a = .error e ↔ ¬ a.Valid ∧ e = .valueError := by
  simp only [newAction, bind_eq_error, raiseIf_error, pure_ne_error, and_false, exists_false,
    or_false, @eq_comm _ e]

theorem applyAction_ok : applyAction a r = .ok (r', i) ↔
    a.change r = some r' ∧ a.inverse.Valid ∧ i = a.inverse := by
  cases a <;> cases r <;>
    simp only [applyAction, RemediationAction.change, bind_eq_ok, raiseIf_ok, newAction_ok,
      pure_eq_ok, Prod.mk.injEq, RemediationAction.inverse, reduceCtorEq, false_and,
      Decidable.not_not, exists_and_left, exists_const] <;>
    constructor <;> grind

/-- An action that cannot change the resource raises an `ExecutionError`;
one that can, but whose inverse does not validate, a `ValidationError`. -/
theorem applyAction_error (h : applyAction a r = .error e) :
    (a.change r = none ∧ ∃ m, e = .executionError m) ∨
      ((a.change r).isSome = true ∧ ¬ a.inverse.Valid ∧ e = .valueError) := by
  cases a <;> cases r <;>
    simp only [applyAction, RemediationAction.change, RemediationAction.inverse, bind_eq_error,
      raiseIf_error, raiseIf_ok, newAction_error, pure_ne_error] at h ⊢ <;>
    grind

/-- The changes the loop makes to the resources by id. -/
def actionCommands : Keyed.Commands String RemediationAction ControlResource where
  key := RemediationAction.resourceId
  change := RemediationAction.change

theorem actionCommands_inverse :
    Keyed.Inverse actionCommands ControlResource.Current RemediationAction.inverse where
  key a := a.inverse_resourceId
  change _ _ _ hr h := RemediationAction.change_inverse hr h
  keeps _ _ _ _ h := RemediationAction.change_current h

section
variable [Hashing]

/-- The receipt of an action that changed `resource` into `after`. -/
def actionReceipt (a : RemediationAction) (resource after : ControlResource) :
    ActionExecutionReceipt :=
  { actionId := a.actionId
    actionType := a.actionType
    resourceId := a.resourceId
    beforeSha256 := digest resource.modelDump
    afterSha256 := digest after.modelDump
    inverseAction := a.inverse }

theorem actionReceipt_valid (h : a.Executable) : (actionReceipt a r r').Valid where
  actionId := h.1
  resourceId := by have := h.2.resourceId; rwa [a.inverse_resourceId] at this
  beforeSha256 := digest_hex _
  afterSha256 := digest_hex _
  inverseAction := h.2

theorem newActionReceipt_inverse_ok (hi : a.inverse.Valid) :
    newActionReceipt a r r' a.inverse = .ok x ↔ a.Executable ∧ x = actionReceipt a r r' := by
  simp only [newActionReceipt, bind_eq_ok, raiseIf_ok, pure_eq_ok, Decidable.not_not,
    exists_and_left, exists_const, @eq_comm _ _ x]
  exact and_congr ⟨fun h => ⟨h.actionId, hi⟩, actionReceipt_valid⟩ Iff.rfl

theorem newActionReceipt_inverse_error (hi : a.inverse.Valid) :
    newActionReceipt a r r' a.inverse = .error e ↔ ¬ a.Executable ∧ e = .valueError := by
  simp only [newActionReceipt, bind_eq_error, raiseIf_error, pure_ne_error, and_false,
    exists_false, or_false, @eq_comm _ _ e]
  exact and_congr (not_congr ⟨fun h => ⟨h.actionId, hi⟩, actionReceipt_valid⟩) Iff.rfl

theorem executeAction_ok : executeAction p a = .ok q ↔
    ∃ r r', p.updated a.resourceId = some r ∧ a.change r = some r' ∧ a.Executable ∧
      q = { updated := Function.update p.updated a.resourceId (some r')
            receipts := p.receipts ++ [actionReceipt a r r'] } := by
  simp only [executeAction, bind_eq_ok, need_ok, Prod.exists, applyAction_ok, pure_eq_ok]
  constructor
  · rintro ⟨r, hr, r', i, ⟨hc, hi, rfl⟩, x, hx, rfl⟩
    obtain ⟨he, rfl⟩ := (newActionReceipt_inverse_ok hi).mp hx
    exact ⟨r, r', hr, hc, he, rfl⟩
  · rintro ⟨r, r', hr, hc, he, rfl⟩
    exact ⟨r, hr, r', _, ⟨hc, he.2, rfl⟩, _, (newActionReceipt_inverse_ok he.2).mpr ⟨he, rfl⟩, rfl⟩

theorem executeAction_step (h : executeAction p a = .ok q) :
    actionCommands.step p.updated a = some q.updated := by
  obtain ⟨r, r', hr, hc, -, rfl⟩ := executeAction_ok.mp h
  exact Keyed.step_eq_some.mpr ⟨r, r', hr, hc, rfl⟩

/-- Where a step is possible, only a validation can fail. -/
theorem executeAction_of_step (h : actionCommands.step p.updated a = some m') :
    (a.Executable ∧ ∃ q, executeAction p a = .ok q ∧ q.updated = m') ∨
      (¬ a.Executable ∧ executeAction p a = .error .valueError) := by
  obtain ⟨r, r', hr, hc, rfl⟩ := Keyed.step_eq_some.mp h
  have hr : p.updated a.resourceId = some r := hr
  by_cases he : a.Executable
  · exact .inl ⟨he, _, executeAction_ok.mpr ⟨r, r', hr, hc, he, rfl⟩, rfl⟩
  · refine .inr ⟨he, ?_⟩
    simp only [executeAction, hr, Checks.need, ok_bind]
    cases happ : applyAction a r with
    | error e =>
      rcases applyAction_error happ with ⟨hnone, -⟩ | ⟨-, -, rfl⟩
      · exact absurd (hnone.symm.trans hc) (by rintro ⟨⟩)
      · rfl
    | ok res =>
      obtain ⟨r₁, i⟩ := res
      obtain ⟨-, hi, rfl⟩ := applyAction_ok.mp happ
      simp only [ok_bind, (newActionReceipt_inverse_error hi).mpr ⟨he, rfl⟩, error_bind]

-- ---------------------------------------------------------------------------
-- The loop
-- ---------------------------------------------------------------------------

/-- What the loop goes through when it returns: the changes in order, and one
receipt an action, with its inverse. -/
theorem loop_executeAction_ok (h : loop executeAction p as = .ok q) :
    actionCommands.run p.updated as = some q.updated ∧ (∀ a ∈ as, a.Executable) ∧
      ∃ receipts, q.receipts = p.receipts ++ receipts ∧
        receipts.map ActionExecutionReceipt.inverseAction = as.map RemediationAction.inverse := by
  induction as generalizing p with
  | nil =>
    simp only [loop_nil, Except.ok.injEq] at h
    subst h
    exact ⟨rfl, nofun, [], by simp, rfl⟩
  | cons a as ih =>
    obtain ⟨p', hp', hr⟩ := loop_cons.mp h
    obtain ⟨hrun, hexec, receipts, hreceipts, hinv⟩ := ih hr
    have hstep := executeAction_step hp'
    obtain ⟨r, r', -, -, he, rfl⟩ := executeAction_ok.mp hp'
    refine ⟨by rw [Keyed.run_cons, hstep]; exact hrun, List.forall_mem_cons.mpr ⟨he, hexec⟩,
      actionReceipt a r r' :: receipts, by simp [hreceipts], ?_⟩
    rw [List.map_cons, List.map_cons, hinv]
    rfl

/-- Every receipt of the loop validates. -/
theorem loop_executeAction_receipts (h : loop executeAction p as = .ok q)
    (hp : ∀ r ∈ p.receipts, r.Valid) : ∀ r ∈ q.receipts, r.Valid := by
  refine loop_inv (fun p => ∀ r ∈ p.receipts, r.Valid) (fun p a p' hp hstep => ?_) hp h
  obtain ⟨r, r', -, -, he, rfl⟩ := executeAction_ok.mp hstep
  intro x hx
  rcases List.mem_append.mp hx with hx | hx
  · exact hp x hx
  · rw [List.mem_singleton.mp hx]
    exact actionReceipt_valid he

/-- Where the changes succeed, the loop returns their result, unless building
some receipt raises a `ValidationError`. -/
theorem loop_executeAction_of_run (h : actionCommands.run p.updated as = some m') :
    ((∀ a ∈ as, a.Executable) ∧ ∃ q, loop executeAction p as = .ok q ∧ q.updated = m') ∨
      ((∃ a ∈ as, ¬ a.Executable) ∧ loop executeAction p as = .error .valueError) := by
  induction as generalizing p with
  | nil =>
    simp only [Keyed.run_nil, Option.some.injEq] at h
    exact .inl ⟨nofun, p, rfl, h⟩
  | cons a as ih =>
    obtain ⟨m₁, hs, hr⟩ := Option.bind_eq_some_iff.mp h
    rcases executeAction_of_step hs with ⟨he, p', hp', rfl⟩ | ⟨he, herr⟩
    · rcases ih hr with ⟨hall, q, hq, hm⟩ | ⟨⟨b, hb, hne⟩, herr⟩
      · exact .inl ⟨List.forall_mem_cons.mpr ⟨he, hall⟩, q, loop_cons.mpr ⟨p', hp', hq⟩, hm⟩
      · exact .inr ⟨⟨b, List.mem_cons_of_mem _ hb, hne⟩, by simp [loop, hp', herr]⟩
    · exact .inr ⟨⟨a, by simp, he⟩, by simp [loop, herr]⟩

end

end Paic.Remediation
