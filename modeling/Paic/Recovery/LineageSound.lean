import Paic.Recovery.SampleStore

/-!
# What validation accepts

`validate_regenerated_iff` says what a store holds whose `validate` reports
nothing. The event's time is one of the fields that nothing is compared with,
so a store whose event was changed there and sealed again is accepted.
-/

namespace Paic.Recovery

open Checks

section
variable {T : Type} [RecoveryText T] [Hashing]

theorem validate_run {w : World T} (hfree : w.lock = false) :
    (validate : Prog Error (World T) (List String)).run w =
      match w.store.validateLineage with
      | .ok issues => .returned issues w
      | .error e => .raised e w := by
  have hw : ({ w with lock := false } : World T) = w := by
    cases w
    exact congrArg _ hfree.symm
  rw [validate, Prog.run_handle, Prog.run_bind, ensureRoot, Prog.run_touch]
  simp only [Prog.Outcome.andThen, withLock, Prog.run_bind, Prog.run_await, hfree, Bool.not_false,
    ↓reduceIte, Prog.run_ensuring, Prog.run_read]
  unfold StateStore.validateLineage caught
  cases w.store.replayLineage with
  | ok => simp [Prog.Outcome.orElse, hw]
  | error e => cases e <;> simp [Prog.Outcome.orElse, hw]

/-- A store is validated under its lock. -/
theorem validate_returned {w : World T}
    (h : (validate : Prog Error (World T) (List String)).run w = .returned issues w') :
    w.store.validateLineage = .ok issues := by
  cases hlock : w.lock with
  | true =>
    rw [validate, Prog.run_handle, Prog.run_bind, ensureRoot, Prog.run_touch] at h
    simp [Prog.Outcome.andThen, Prog.Outcome.orElse, withLock, Prog.run_bind, Prog.run_await,
      hlock] at h
  | false =>
    rw [validate_run hlock] at h
    split at h
    · next hv =>
      rw [hv]
      exact congrArg _ ((Prog.Outcome.returned.injEq ..).mp h).1
    · exact absurd h (by rintro ⟨⟩)

/-- A store that validates holds what `initialize` and `apply` write for its
reports exactly when the fields that validation compares with nothing agree
with the others. -/
theorem validate_regenerated_iff {w : World T}
    (h : (validate : Prog Error (World T) (List String)).run w = .returned [] w') :
    ∃ st, w.store.stored = .ok st ∧ (st.Regenerated ↔ st.Unforged) :=
  lineage_sound_iff (validate_returned h)

end

namespace Sample

/-- The world of a store that nobody uses. -/
def worldOf (s : StateStore Text) : World Text := ⟨s, false⟩

theorem storeWith_validates (hv : a.Valid) (hok : ReplayOk config initial zeroHash a) :
    (validate : Prog Error (World Text) (List String)).run (worldOf (storeWith a)) =
        .returned [] (worldOf (storeWith a)) ∧
      (storeWith a).stored =
        .ok ⟨zeroPadded 0, initial, config, [(a.directory, a)], pointerAfter [(a.directory, a)]⟩ := by
  obtain ⟨hholds, hnodup⟩ := storeWith_holds hv hok
  refine ⟨?_, hholds.stored hnodup⟩
  rw [validate_run rfl, show (worldOf (storeWith a)).store = storeWith a from rfl,
    hholds.validates_iff.mpr hnodup]

theorem report_valid : (report healthy 15).Valid := by
  have hfields : (provisionalReport config observations manifest none (at_ 15)
      (evaluationsAt healthy config observations (at_ 15))).FieldsValid :=
    provisionalReport_fieldsValid config_valid observations_valid (digest_hex _) rfl
      ⟨_, List.mem_cons_self, rfl⟩ (by decide)
  have hevaluations : ∀ e ∈ evaluationsAt healthy config observations (at_ 15), e.Valid := by
    decide +kernel
  exact ⟨hfields.sealed, hevaluations⟩

/-- What `apply` writes for a recovery. -/
def recovery : Applied :=
  { report := report healthy 15
    state := recovered
    event := (provisionalEvent initial recovered zeroHash (report healthy 15)
      "recovery_verified").sealed }

/-- The event says another time, and has the hash of what it says. -/
def forged : Applied :=
  { recovery with event := { recovery.event with evaluatedAt := at_ 16 }.sealed }

theorem recovery_applied : applyReport initial zeroHash (report healthy 15) config = .ok recovery := by
  obtain ⟨trigger, htaken⟩ := recovers
  obtain ⟨-, hv, -, htrigger⟩ := transitionState_ok.mp htaken
  obtain rfl : trigger = "recovery_verified" := htrigger
  refine applyReport_ok.mpr ⟨_, htaken, ?_, rfl, rfl⟩
  constructor
  case recoveryId => exact hv.recoveryId
  case incidentId => exact hv.incidentId
  case generation => decide
  case previousEventSha256 => exact zeroHash_isSha256
  case eventSha256 => exact zeroHash_isSha256
  case trigger => decide
  case evaluatedAt => rfl
  all_goals exact digest_hex _

theorem recovery_valid : recovery.Valid := applyReport_valid recovery_applied report_valid

theorem forged_valid : forged.Valid :=
  { recovery_valid with event := { recovery_valid.event with
      evaluatedAt := rfl, eventSha256 := digest_hex _ } }

theorem forged_replays : ReplayOk config initial zeroHash forged := by
  have hok := ReplayOk.of_applyReport recovery_applied
  obtain ⟨-, hprevious, hstatus, hbindings⟩ := checkEvent_ok.mp hok.event
  have hdigest := RecoveryLifecycleEvent.sealed_digest { recovery.event with evaluatedAt := at_ 16 }
  exact { hok with event := checkEvent_ok.mpr ⟨hdigest, hprevious, hstatus, hbindings⟩ }

end Sample

/-- What `apply` wrote is accepted, and is what it writes. -/
theorem validate_regenerated_sample : ∃ st, (Sample.storeWith Sample.recovery).stored = .ok st ∧
    st.Regenerated := by
  obtain ⟨hvalidates, hstored⟩ := Sample.storeWith_validates Sample.recovery_valid
    (.of_applyReport Sample.recovery_applied)
  obtain ⟨st, hst, hiff⟩ := validate_regenerated_iff hvalidates
  refine ⟨st, hst, hiff.mpr ?_⟩
  obtain rfl := Except.ok.inj (hstored.symm.trans hst)
  exact ⟨rfl, rfl, rfl, rfl, rfl, rfl, by simpa using ⟨rfl, rfl, rfl, rfl⟩⟩

/-- A store with a forged event is accepted, and `apply` did not write it. -/
theorem forged_event_validates : ∃ w : World Sample.Text,
    (validate : Prog Error (World Sample.Text) (List String)).run w = .returned [] w ∧
      ∀ st, w.store.stored = .ok st → ¬ st.Regenerated := by
  obtain ⟨hvalidates, hstored⟩ :=
    Sample.storeWith_validates Sample.forged_valid Sample.forged_replays
  refine ⟨_, hvalidates, fun st hst hregenerated => ?_⟩
  obtain rfl := Except.ok.inj (hstored.symm.trans hst)
  obtain ⟨s, sha, hcommits⟩ := hregenerated.commits
  obtain ⟨-, s, sha, hinitial, happly⟩ := regenerates_snoc.mp
    (show Regenerates _ _ ([] ++ [_]) _ _ from hcommits)
  obtain ⟨trigger, -, -, -, hevent⟩ := applyReport_ok.mp happly
  have htime : Sample.at_ 16 = Sample.at_ 15 := congrArg RecoveryLifecycleEvent.evaluatedAt hevent
  exact absurd htime (by decide)

end Paic.Recovery
