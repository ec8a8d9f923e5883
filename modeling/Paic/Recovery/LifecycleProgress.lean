import Paic.Recovery.LifecycleHistory

/-!
# Reports that a lifecycle takes

A lifecycle takes every new report of its own policy and execution, except
one: a severe breach before the first recovery makes a transition to a state
that its own validator rejects. `evaluated_report_applies_iff` says so for the
reports of `evaluate_recovery`.
-/

namespace Paic.Recovery

section
variable [Hashing]

/-- A report of `evaluate_recovery` that is new and later than the others is
taken, unless it is a severe breach that reopens before any recovery. -/
theorem evaluated_report_applies_iff {set : RecoveryObservationSet} (hc : config.Valid)
    (hreceipt : isSha256 receipt = true) (hmanifest : isSha256 manifest = true)
    (h : Accepted config (initialState config receipt manifest) reports s)
    (hr : evaluateRecovery metric config set executionManifest observationManifest evaluatedAt =
      .ok r)
    (hsameReceipt : r.executionReceiptSha256 = s.executionReceiptSha256)
    (hsameManifest : r.executionManifestSha256 = s.executionManifestSha256)
    (hfresh : r.reportSha256 ∉ s.appliedReportSha256s)
    (hlater : ∀ t ∈ s.lastEvaluatedAt, t.instant < r.evaluatedAt.instant)
    (hroom : reports.length < 10000) :
    (∃ next, transitionState s r config = .ok next) ↔
      ¬ (r.severeGuardrailBreach = true ∧ config.immediateReopenOnSevereGuardrail = true ∧
        s.everRecovered = false) := by
  have he := evaluateRecovery_evaluated hr
  have ht := h.tracked
  have hv := h.valid (initialState_valid hc hreceipt hmanifest)
  have hb : Bound s r config :=
    { verified := he.verified
      incidentId := he.incidentId.trans ht.incidentId.symm
      executionReceiptSha256 := hsameReceipt
      executionManifestSha256 := hsameManifest
      recoveryId := he.recoveryId.trans ht.recoveryId.symm
      reportConfig := he.configSha256.trans ht.configSha256.symm
      config := ht.configSha256.symm
      fresh := hfresh
      later := hlater }
  have hlength : s.appliedReportSha256s.length < 10000 := by
    rwa [ht.history.applied, List.length_map]
  rw [transitionState_defined_iff hv hb he.reportSha256 he.evaluatedAt hlength, transition_reopened]
  constructor
  · rintro hreopened ⟨hsevere, himmediate, hnever⟩
    have hdecision := he.severe hsevere
    rcases hreopened (.inr ⟨.inl hdecision, .inl (by simp [hsevere, himmediate])⟩) with hever | hrec
    · rw [hever] at hnever
      exact absurd hnever nofun
    · rw [hdecision] at hrec
      exact absurd hrec nofun
  · rintro hno (hs | ⟨-, hsevere | hsustained⟩)
    · exact .inl (hv.reopened hs)
    · rw [Bool.and_eq_true] at hsevere
      refine .inl (Bool.of_not_eq_false fun hnever => ?_)
      exact hno ⟨hsevere.1, hsevere.2, hnever⟩
    · exact .inl hsustained.1

end

/-- A recovery is taken by a new lifecycle. -/
theorem evaluated_report_applies_sample :
    ∃ next, transitionState Sample.initial (Sample.report Sample.healthy 15) Sample.config =
      .ok next := by
  have hreport := Sample.evaluateRecovery_report Sample.healthy 15
    (fun _ _ _ _ _ _ => rfl) (by decide)
  refine (evaluated_report_applies_iff Sample.config_valid (digest_hex _) (digest_hex _) .start
    hreport rfl rfl List.not_mem_nil (fun _ h => absurd h nofun) (by decide)).mpr ?_
  exact fun h => absurd h.1 (by decide)

/-- A severe breach before any recovery is not. -/
theorem severe_breach_unapplied :
    evaluateRecovery Sample.breach Sample.config Sample.observations Sample.manifest none
        (some (Sample.at_ 15)) = .ok (Sample.report Sample.breach 15) ∧
      ∀ next, transitionState Sample.initial (Sample.report Sample.breach 15) Sample.config ≠
        .ok next := by
  refine ⟨Sample.evaluateRecovery_report Sample.breach 15 (fun _ _ _ _ _ _ => rfl) (by decide), ?_⟩
  intro next hnext
  have hvalid := (transitionState_defined_iff Sample.initial_valid
    (Sample.initial_bound Sample.breach 15) (digest_hex _) rfl
    (by simp [Sample.initial, initialState])).mp ⟨next, hnext⟩ (by decide)
  exact absurd hvalid (by decide)

end Paic.Recovery
