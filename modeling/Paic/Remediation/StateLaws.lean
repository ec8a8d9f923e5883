import Paic.Remediation.Effects

/-!
# Control states across a transition

The resources of a valid state are determined by their ids, so the executor
may work on them by id and put them back in order: `resourceIndex_ordered`
and `inResourceOrder_index` are the two directions. `stateAfter_valid` says
that the state an execution copies together passes every validator that the
copy skips.
-/

namespace Paic.Remediation

open Checks

-- ---------------------------------------------------------------------------
-- Resources by id
-- ---------------------------------------------------------------------------

theorem resourceIndex_some (h : resourceIndex s k = some r) :
    r ∈ s.resources ∧ r.resourceId = k := by
  have hmem := List.mem_of_find?_eq_some h
  have hid := List.find?_some h
  exact ⟨List.mem_reverse.mp hmem, by simpa using hid⟩

theorem resourceIndex_isSome : (resourceIndex s k).isSome = true ↔ k ∈ s.resourceIds := by
  simp [resourceIndex, ControlState.resourceIds, List.find?_isSome]

theorem resourceIndex_of_mem (hn : s.resourceIds.Nodup) (hr : r ∈ s.resources) :
    resourceIndex s r.resourceId = some r := by
  have hsome : (resourceIndex s r.resourceId).isSome = true :=
    resourceIndex_isSome.mpr (List.mem_map_of_mem hr)
  obtain ⟨r', hr'⟩ := Option.isSome_iff_exists.mp hsome
  obtain ⟨hmem, hid⟩ := resourceIndex_some hr'
  rw [hr', List.inj_on_of_nodup_map hn hmem hr hid]

/-- `updated` holds one valid resource under each id of the state, and
nothing else. -/
structure Holds (s : ControlState) (updated : String → Option ControlResource) : Prop where
  domain : ∀ k, (updated k).isSome = true ↔ k ∈ s.resourceIds
  id : ∀ k r, updated k = some r → r.resourceId = k
  valid : ∀ k r, updated k = some r → r.Valid

theorem ControlResource.Valid.current {r : ControlResource} (h : r.Valid) : r.Current := by
  cases r with
  | deployment d => exact DeploymentResource.Valid.current h
  | featureFlag d => trivial
  | configuration d => exact ConfigurationResource.Valid.current h

/-- The part of a state's validity that its resources need. -/
structure ControlState.ValidResources (s : ControlState) : Prop where
  unique : s.resourceIds.Nodup
  valid : ∀ r ∈ s.resources, r.Valid

theorem ControlState.Valid.validResources (h : ControlState.Valid s) : s.ValidResources :=
  ⟨h.uniqueResources, h.resources⟩

theorem resourceIndex_holds (h : s.ValidResources) : Holds s (resourceIndex s) where
  domain _ := resourceIndex_isSome
  id _ _ hr := (resourceIndex_some hr).2
  valid _ _ hr := h.valid _ (resourceIndex_some hr).1

theorem Holds.step (h : Holds s m) (ha : a.inverse.Valid)
    (hs : actionCommands.step m a = some m') : Holds s m' := by
  obtain ⟨r, r', hr, hc, rfl⟩ := Keyed.step_eq_some.mp hs
  have hr : m a.resourceId = some r := hr
  have hc : a.change r = some r' := hc
  show Holds s (Function.update m a.resourceId (some r'))
  refine ⟨fun k => ?_, fun k q hq => ?_, fun k q hq => ?_⟩
  all_goals by_cases hk : k = a.resourceId
  · subst hk
    rw [Function.update_self, ← h.domain, hr]
    rfl
  · rw [Function.update_of_ne hk, h.domain]
  · subst hk
    rw [Function.update_self, Option.some.injEq] at hq
    rw [← hq, RemediationAction.change_resourceId hc, h.id _ _ hr]
  · rw [Function.update_of_ne hk] at hq
    exact h.id k q hq
  · subst hk
    rw [Function.update_self, Option.some.injEq] at hq
    exact hq ▸ RemediationAction.change_valid ha (h.valid _ _ hr) hc
  · rw [Function.update_of_ne hk] at hq
    exact h.valid k q hq

theorem Holds.run (h : Holds s m) (ha : ∀ a ∈ as, a.inverse.Valid)
    (hs : actionCommands.run m as = some m') : Holds s m' := by
  induction as generalizing m with
  | nil =>
    simp only [Keyed.run_nil, Option.some.injEq] at hs
    exact hs ▸ h
  | cons a as ih =>
    obtain ⟨m₁, hstep, hrun⟩ := Option.bind_eq_some_iff.mp hs
    exact ih (h.step (ha a (by simp)) hstep) (fun b hb => ha b (List.mem_cons_of_mem _ hb)) hrun

-- ---------------------------------------------------------------------------
-- Resources in their order
-- ---------------------------------------------------------------------------

theorem mem_inResourceOrder (h : Holds s m) :
    r ∈ inResourceOrder s m ↔ m r.resourceId = some r := by
  simp only [inResourceOrder, List.mem_filterMap]
  constructor
  · rintro ⟨k, -, hk⟩
    rw [h.id k r hk, hk]
  · intro hr
    exact ⟨r.resourceId, (h.domain _).mp (by simp [hr]), hr⟩

/-- Resources put back in order have the ids they had, in the order they
had. -/
theorem inResourceOrder_ids (h : Holds s m) :
    (inResourceOrder s m).map ControlResource.resourceId = s.resourceIds := by
  have key : ∀ ks : List String, (∀ k ∈ ks, k ∈ s.resourceIds) →
      (ks.filterMap m).map ControlResource.resourceId = ks := by
    intro ks hks
    induction ks with
    | nil => rfl
    | cons k ks ih =>
      obtain ⟨r, hr⟩ := Option.isSome_iff_exists.mp ((h.domain k).mpr (hks k (by simp)))
      rw [List.filterMap_cons_some hr, List.map_cons, h.id k r hr,
        ih fun k' hk' => hks k' (List.mem_cons_of_mem _ hk')]
  exact key _ fun _ hk => hk

theorem inResourceOrder_index (hn : s.resourceIds.Nodup) :
    inResourceOrder s (resourceIndex s) = s.resources := by
  have key : ∀ rs : List ControlResource, (∀ r ∈ rs, r ∈ s.resources) →
      (rs.map ControlResource.resourceId).filterMap (resourceIndex s) = rs := by
    intro rs hrs
    induction rs with
    | nil => rfl
    | cons r rs ih =>
      rw [List.map_cons, List.filterMap_cons_some (resourceIndex_of_mem hn (hrs r (by simp))),
        ih fun r' hr' => hrs r' (List.mem_cons_of_mem _ hr')]
  exact key _ fun _ hr => hr

/-- The resources of the next state, looked up by id, are what the loop held. -/
theorem resourceIndex_ordered (hn : s.resourceIds.Nodup) (h : Holds s m)
    (hs : s'.resources = inResourceOrder s m) : resourceIndex s' = m := by
  have hids : s'.resourceIds = s.resourceIds := by
    rw [ControlState.resourceIds, hs, inResourceOrder_ids h]
  funext k
  cases hk : m k with
  | none =>
    have hnot : ¬ k ∈ s'.resourceIds := by
      rw [hids, ← h.domain, hk]
      simp
    rw [← resourceIndex_isSome] at hnot
    simpa using hnot
  | some r =>
    have hid := h.id k r hk
    have hmem : r ∈ s'.resources := by
      rw [hs, mem_inResourceOrder h, hid, hk]
    rw [← hid]
    exact resourceIndex_of_mem (hids ▸ hn) hmem

theorem inResourceOrder_valid {s' : ControlState} (hn : s.resourceIds.Nodup) (h : Holds s m)
    (hs : s'.resources = inResourceOrder s m) : s'.ValidResources where
  unique := by rwa [ControlState.resourceIds, hs, inResourceOrder_ids h]
  valid r hr := h.valid _ _ ((mem_inResourceOrder h).mp (hs ▸ hr))

-- ---------------------------------------------------------------------------
-- The next state
-- ---------------------------------------------------------------------------

theorem sorted_perm : (sorted l).Perm l := List.perm_insertionSort _ l

/-- A hash list that takes in a new hash, sorted. -/
theorem sorted_snoc (h : x ∉ l) (hl : l.Nodup) :
    (sorted (l ++ [x])).Nodup ∧ (sorted (l ++ [x])).length = l.length + 1 ∧
      ∀ y, y ∈ sorted (l ++ [x]) ↔ y ∈ l ∨ y = x := by
  refine ⟨sorted_perm.nodup_iff.mpr ?_, by rw [sorted_perm.length_eq]; simp, fun y => ?_⟩
  · simp only [List.nodup_append, List.nodup_cons, List.not_mem_nil, not_false_eq_true,
      List.nodup_nil, and_self, List.mem_singleton, forall_eq, true_and]
    exact ⟨hl, fun y hy he => h (he ▸ hy)⟩
  · rw [sorted_perm.mem_iff]
    simp

/-- Two hashes taken in one after the other. -/
theorem sorted_snoc_perm : (sorted (sorted (l ++ [x]) ++ [y])).Perm (l ++ [x, y]) := by
  have h := (sorted_perm (l := l ++ [x])).append_right [y]
  rw [List.append_assoc] at h
  exact sorted_perm.trans h

theorem stateAfter_resourceIds (h : Holds s m) :
    (stateAfter s plan nonce m).resourceIds = s.resourceIds := inResourceOrder_ids h

theorem stateAfter_valid (hs : s.Valid) (h : Holds s m) (hplan : isSha256 plan.planSha256 = true)
    (hnew : plan.planSha256 ∉ s.executedPlanHashes) (hnonce : isSha256 nonce = true)
    (hfresh : nonce ∉ s.consumedTokenNonceHashes) (hec : s.executedPlanHashes.length < 10000)
    (hcc : s.consumedTokenNonceHashes.length < 10000) : (stateAfter s plan nonce m).Valid := by
  have hres : (stateAfter s plan nonce m).ValidResources :=
    inResourceOrder_valid hs.uniqueResources h rfl
  obtain ⟨hed, hel, hem⟩ := sorted_snoc hnew hs.uniqueExecuted
  obtain ⟨hcd, hcl, hcm⟩ := sorted_snoc hfresh hs.uniqueConsumed
  refine ⟨hs.stateId, hs.incidentId, ?_, hres.valid, ?_, ?_, ?_, ?_, hres.unique, hcd, hed⟩
  · show lengthIn (inResourceOrder s m) 1 500
    have := congrArg List.length (inResourceOrder_ids h)
    simp only [ControlState.resourceIds, List.length_map] at this
    rw [lengthIn, this]
    exact hs.resourceCount
  · show (sorted _).length ≤ 10000
    omega
  · intro y hy
    rcases (hcm y).mp hy with hy | rfl
    · exact hs.consumed y hy
    · exact hnonce
  · show (sorted _).length ≤ 10000
    omega
  · intro y hy
    rcases (hem y).mp hy with hy | rfl
    · exact hs.executed y hy
    · exact hplan

end Paic.Remediation
