import Paic.Remediation.SampleStore

/-!
# Histories of a control-state store

The calls made on a store, one after the other. The current state is the end
of a lineage whose commits are the calls that returned.
-/

namespace Paic.Remediation

section
variable {T : Type} [RemediationText T] [Hashing] [TokenFormat]

/-- The calls made on a store, each with the decisions it found, and the
commits among them. A call returns, or stops before it replaced the pointer. -/
inductive History (w₀ : World T) : List Commit → World T → Prop where
  | start : History w₀ [] w₀
  | commit (h : History w₀ commits w)
      (hr : (execute call).exec faults (w.later ledger) = .returned r w') :
      History w₀ (commits ++ [⟨call.plan.planSha256, r.2.tokenNonceSha256⟩]) w'
  | reject (h : History w₀ commits w)
      (hr : (execute call).exec faults (w.later ledger) = .raised e w' ∨
        (execute call).exec faults (w.later ledger) = .crashed w')
      (hp : w'.store.currentJson.file = w.store.currentJson.file) : History w₀ commits w'

theorem History.inv {w₀ w : World T} (h : History w₀ commits w) (h₀ : Initialized w₀ s₀)
    (hgen : s₀.generation = 0) :
    ∃ p state, w.store.Inv p state ∧ Lineage s₀ commits state := by
  induction h with
  | start => exact ⟨_, _, h₀.inv hgen, .start⟩
  | @commit commits w call faults ledger r w' _ hr ih =>
    obtain ⟨p, state, hinv, hlin⟩ := ih
    have hinv' : (w.later ledger).store.Inv p state := hinv
    have hmeets := execute_exec call hinv'.regular faults
    rw [hr] at hmeets
    obtain ⟨after, hadv, hnext⟩ := hinv'.returns hmeets
    exact ⟨_, after, hnext, hlin.advance hadv⟩
  | @reject commits w call faults ledger e w' _ hr hp ih =>
    obtain ⟨p, state, hinv, hlin⟩ := ih
    have hinv' : (w.later ledger).store.Inv p state := hinv
    have hleaves : call.Leaves (w.later ledger) w'.store := by
      have hmeets := execute_exec call hinv'.regular faults
      rcases hr with hr | hr <;> (rw [hr] at hmeets; exact hmeets)
    rcases hinv'.leaves hleaves with hsame | ⟨after, receipt, -, hnext⟩
    · exact ⟨p, state, hsame, hlin⟩
    · -- the pointer file tells the two generations apart
      rw [hnext.pointer, hinv.pointer, Option.some.injEq] at hp
      have := congrArg Pointer.generation (Pointer.json_injective hp)
      simp only [Pointer.ofReceipt] at this
      omega

/-- Whatever calls were made on a store: its generation counts the commits,
each plan and each nonce is consumed by one commit, the identity and the
resources stay, and every state is valid. -/
theorem execute_consumes_once {w₀ w : World T} (h₀ : Initialized w₀ s₀) (hgen : s₀.generation = 0)
    (hexecuted : s₀.executedPlanHashes = []) (hconsumed : s₀.consumedTokenNonceHashes = [])
    (h : History w₀ commits w) (hlt : commits.length < 10000) :
    ∃ p m s, w.store.current = .ok p ∧
      loadControlState (w.store.stateDir p.directory) = .ok ⟨m, s⟩ ∧
      p.generation = commits.length ∧ s.generation = commits.length ∧
      s.executedPlanHashes.Nodup ∧ (commits.map Commit.planSha256).Nodup ∧
      (∀ x, x ∈ s.executedPlanHashes ↔ x ∈ commits.map Commit.planSha256) ∧
      s.consumedTokenNonceHashes.Nodup ∧ (commits.map Commit.nonceSha256).Nodup ∧
      (∀ x, x ∈ s.consumedTokenNonceHashes ↔ x ∈ commits.map Commit.nonceSha256) ∧
      s.stateId = s₀.stateId ∧ s.incidentId = s₀.incidentId ∧ s.resourceIds = s₀.resourceIds ∧
      s.Valid ∧
      ∀ plan status config request token secret manifest after receipt,
        executePlan plan s status config request token secret manifest = .ok (after, receipt) →
        after.Valid := by
  obtain ⟨p, s, hinv, hlin⟩ := h.inv h₀ hgen
  obtain ⟨m, hload⟩ := hinv.loads
  have hpe := hlin.executed_perm
  have hpc := hlin.consumed_perm
  rw [hexecuted, List.nil_append] at hpe
  rw [hconsumed, List.nil_append] at hpc
  have hne := hlin.executed_nodup (by simp [hexecuted])
  have hnc := hlin.consumed_nodup (by simp [hconsumed])
  have hs : s.generation = commits.length := by rw [hlin.generation, hgen, Nat.zero_add]
  refine ⟨p, m, s, hinv.current, hload, hinv.generation ▸ hs, hs, hne, hpe.nodup_iff.mp hne,
    fun x => hpe.mem_iff, hnc, hpc.nodup_iff.mp hnc, fun x => hpc.mem_iff, hlin.stateId,
    hlin.incidentId, hlin.resourceIds, hinv.valid, ?_⟩
  intro plan status config request token secret manifest after receipt hexec
  refine (executePlan_advances hinv.valid hexec).2 ?_ ?_
  · rwa [hpe.length_eq, List.length_map]
  · rwa [hpc.length_eq, List.length_map]

end

section
local instance historyTokens : TokenFormat := Sample.storeTokens

/-- The sample's call on the sample's store, as one commit. -/
theorem execute_consumes_once_sample : ∃ w : World Sample.Text, ∃ nonce p m s,
    w.store.current = .ok p ∧ loadControlState (w.store.stateDir p.directory) = .ok ⟨m, s⟩ ∧
      p.generation = 1 ∧ s.executedPlanHashes = [Sample.storePlan.planSha256] ∧
      s.consumedTokenNonceHashes = [nonce] := by
  obtain ⟨w₀, h₀, hdir, hstaged⟩ := Sample.initialized
  have hinv : (w₀.later Sample.ledger).store.Inv .initial Sample.state := h₀.inv rfl
  obtain ⟨before, after, receipt, hauth, hafter, hreceipt⟩ :=
    Sample.call_authorized hinv hdir rfl
  obtain ⟨w, hw, -⟩ := execute_run hinv ⟨rfl, rfl⟩ hauth hstaged hafter hreceipt
  have hexec : (execute Sample.call).exec [] (w₀.later Sample.ledger) = _ := hw
  have hhistory := History.commit .start hexec
  obtain ⟨p, m, s, hp, hload, hgen, -, hne, -, he, hnc, -, hc, -⟩ :=
    execute_consumes_once h₀ rfl rfl rfl hhistory (by simp)
  refine ⟨w, receipt.tokenNonceSha256, p, m, s, hp, hload, hgen, ?_, ?_⟩
  · exact List.perm_singleton.mp ((List.perm_ext_iff_of_nodup hne (List.nodup_singleton _)).mpr he)
  · exact List.perm_singleton.mp ((List.perm_ext_iff_of_nodup hnc (List.nodup_singleton _)).mpr hc)

end

end Paic.Remediation
