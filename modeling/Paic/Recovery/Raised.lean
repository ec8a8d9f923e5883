import Paic.Recovery.LineageSound

/-!
# Which exceptions leave the store

`validate` turns most of what the replay raises into issues, and the other
operations raise those as errors of the store. What escapes is the error of
`verify_report`, and from `apply` also the refusal of a state that is not
valid. `reports_errors_iff` says on which stores and reports nothing escapes.
-/

namespace Paic.Recovery

open Checks
open Remediation (JsonFile)

/-- The exception is one that callers of the store expect. -/
def Error.OfStore : Error → Prop
  | .recoveryStateStoreError _ => True
  | _ => False

/-- The exception becomes an issue. -/
def Error.Caught : Error → Prop
  | .recoveryEvaluationError _ => False
  | _ => True

theorem Error.OfStore.caught {e : Error} (h : e.OfStore) : e.Caught := by
  cases e with
  | recoveryStateStoreError => trivial
  | _ => exact h.elim

/-- The call came back with a value or with an error of the store. -/
def Handled : Prog.Outcome Error σ α → Prop
  | .returned _ _ => True
  | .raised e _ => e.OfStore
  | .crashed _ | .blocked _ => False

/-- The passes of a loop over `range` before the one for `n`. -/
theorem range_split : (∃ later, List.range (m + 1) = earlier ++ n :: later) ↔
    n ≤ m ∧ earlier = List.range n := by
  simp only [List.range_eq_range', List.range'_eq_append_iff]
  constructor
  · rintro ⟨later, k, hk, rfl, hrest⟩
    obtain ⟨rfl, hpos, -⟩ := List.range'_eq_cons_iff.mp hrest.symm
    exact ⟨by omega, by simp⟩
  · rintro ⟨hle, rfl⟩
    exact ⟨_, n, by omega, rfl, (List.range'_eq_cons_iff.mpr ⟨by simp, by omega, rfl⟩).symm⟩

section
variable {T : Type} [RecoveryText T]

-- ---------------------------------------------------------------------------
-- The pointer and the current generation
-- ---------------------------------------------------------------------------

omit [RecoveryText T] in
theorem Files.load_raises [FileText T] [Model α] [TextCodec T α] {files : Files T} :
    RaisesOnly (fun e => e = .osError ∨ e = .valueError)
      (files.load name : Except Error α) :=
  .bind (.need (.inl rfl)) fun _ _ => .need (.inr rfl)

omit [RecoveryText T] in
theorem currentInvalid_raises {x : Except Error α}
    (h : RaisesOnly (fun e => e = .osError ∨ e = .valueError) x) :
    RaisesOnly Error.OfStore (currentInvalid x) := by
  cases x with
  | ok a => exact .ok a
  | error e => rcases h e rfl with rfl | rfl <;> exact .error trivial

theorem readPointer_raises {file : Option T} : RaisesOnly Error.OfStore (readPointer file) := by
  unfold readPointer
  split
  · exact .bind (.raiseIf trivial) fun _ _ => .bind (.need trivial) fun _ _ =>
      .bind (.raiseIf trivial) fun _ _ => .bind (.need trivial) fun _ _ =>
      .bind (.need trivial) fun _ _ => .bind (.raiseIf trivial) fun _ _ => .ok _
  · exact .error trivial

theorem loadCurrentBasic_raises {s : StateStore T} :
    RaisesOnly Error.OfStore s.loadCurrentBasic := by
  refine .bind (.raiseIf trivial) fun _ _ => .bind readPointer_raises fun pointer _ =>
    .bind (.need trivial) fun files _ => .bind (currentInvalid_raises Files.load_raises) fun _ _ =>
    .bind (currentInvalid_raises ?_) fun _ _ => .bind (.raiseIf trivial) fun _ _ =>
    .bind (.raiseIf trivial) fun _ _ => .ok _
  split
  · have hload : RaisesOnly (fun e => e = .osError ∨ e = .valueError)
        (files.load "event.json" : Except Error RecoveryLifecycleEvent) := Files.load_raises
    cases he : (files.load "event.json" : Except Error RecoveryLifecycleEvent) with
    | ok e => exact .ok _
    | error e => exact .error (hload e he)
  · exact .ok _

omit [RecoveryText T] in
theorem addRoot_raises {entry : String × Entry T} : RaisesOnly Error.OfStore (addRoot roots entry) := by
  unfold addRoot
  split
  · exact .ok _
  · refine .bind (.raiseIf trivial) fun _ _ => .bind ?_ fun _ _ => .bind (.raiseIf trivial)
      fun _ _ => .ok _
    unfold entryGeneration
    split
    · exact .ok _
    · exact .need trivial

variable [Hashing]

-- ---------------------------------------------------------------------------
-- The replay
-- ---------------------------------------------------------------------------

omit [RecoveryText T] in
theorem checkEvent_raises : RaisesOnly Error.OfStore (checkEvent sha previous state report event) :=
  .bind (.raiseIf trivial) fun _ _ => .bind (.raiseIf trivial) fun _ _ =>
    .bind (.raiseIf trivial) fun _ _ => .raiseIf trivial

/-- A report that carries its own hash makes no transition raise the error of
`verify_report`. -/
theorem transitionState_raises (h : verifyReport report = .ok ()) :
    RaisesOnly Error.Caught (transitionState previous report config) := by
  rw [transitionState, h, ok_bind]
  exact .bind (.raiseIf trivial) fun _ _ => .bind (.raiseIf trivial) fun _ _ =>
    .bind (.raiseIf trivial) fun _ _ => .bind (.raiseIf trivial) fun _ _ =>
    .bind (.raiseIf trivial) fun _ _ => .bind (.raiseIf trivial) fun _ _ =>
    .bind (.raiseIf trivial) fun _ _ => .bind (.raiseIf trivial) fun _ _ => .ok _

/-- The replay gets to this generation: every earlier one replays. -/
structure Reaches (s : StateStore T) (current : Current) (roots : List (Nat × String))
    (generation : Nat) : Prop where
  loaded : s.loadCurrentBasic = .ok current
  committed : s.committed current.state.generation = .ok roots
  numbers : roots.map Prod.fst ⊆ List.range (current.state.generation + 1) ∧
    List.range (current.state.generation + 1) ⊆ roots.map Prod.fst
  directory : roots.lookup current.state.generation = some current.pointer.directory
  le : generation ≤ current.state.generation
  earlier : ∃ walk, loop (replayGeneration s roots) .start (List.range generation) = .ok walk

/-- The files of a generation with a report, as far as the replay has read
them when it verifies the report. -/
structure ReportRead (files : Files T) (generation : Nat) (report : RecoveryReport) : Prop where
  declared : Remediation.sameNames (files.map Prod.fst) (expectedFiles generation)
  regular : ∀ f ∈ files, f.2.isFile = true
  state : ∃ state : RecoveryLifecycleState, files.load "state.json" = .ok state ∧
    state.generation = generation
  report : files.load "report.json" = .ok report

/-- The replay gets to a stored report whose `report_sha256` is not the hash of
its content. -/
def StateStore.FalseReport (s : StateStore T) : Prop :=
  ∃ current roots k name files report, Reaches s current roots (k + 1) ∧
    roots.lookup (k + 1) = some name ∧ s.generation name = some files ∧
    ReportRead files (k + 1) report ∧ report.reportSha256 ≠ report.digest

/-- The error that is not caught. -/
def mismatch : Error := .recoveryEvaluationError "recovery report hash mismatch"

omit [RecoveryText T] in
theorem verifyReport_error {report : RecoveryReport} : verifyReport report = .error e ↔
    report.reportSha256 ≠ report.digest ∧ e = mismatch := by
  rw [verifyReport, raiseIf_error]
  exact and_congr_right fun _ => eq_comm

/-- Only `verify_report` makes the replay of a generation raise what is not
caught. -/
theorem replayReport_uncaught {files : Files T} (h : replayReport files walk state = .error e)
    (he : ¬ e.Caught) : ∃ report : RecoveryReport,
      files.load "report.json" = .ok report ∧ report.reportSha256 ≠ report.digest := by
  have hload : ∀ {α : Type} [Model α] [TextCodec T α] {name}, RaisesOnly Error.Caught
      (files.load name : Except Error α) := by
    intro α _ _ name e he
    rcases Files.load_raises e he with rfl | rfl <;> trivial
  rw [replayReport, bind_eq_error] at h
  obtain h | ⟨previous, -, h⟩ := h
  · exact absurd (RaisesOnly.need trivial e h) he
  obtain h | ⟨config, -, h⟩ := bind_eq_error.mp h
  · exact absurd (RaisesOnly.need trivial e h) he
  obtain h | ⟨report, hreport, h⟩ := bind_eq_error.mp h
  · exact absurd (hload e h) he
  refine ⟨report, hreport, fun hown => he ?_⟩
  have hverify : verifyReport report = .ok () := raiseIf_neg (not_not.mpr hown)
  rw [hverify, ok_bind] at h
  refine RaisesOnly.bind hload (fun event _ => ?_) e h
  refine .bind (fun e he => (checkEvent_raises e he).caught) fun _ _ => ?_
  refine .bind (transitionState_raises hverify) fun _ _ => ?_
  exact .bind (.raiseIf trivial) fun _ _ => .ok _

theorem replayGeneration_uncaught {s : StateStore T}
    (h : replayGeneration s roots walk n = .error e) (he : ¬ e.Caught) :
    n ≠ 0 ∧ ∃ name files report, roots.lookup n = some name ∧ s.generation name = some files ∧
      ReportRead files n report ∧ report.reportSha256 ≠ report.digest := by
  have hload : ∀ {α : Type} [Model α] [TextCodec T α] {files : Files T} {name},
      RaisesOnly Error.Caught (files.load name : Except Error α) := by
    intro α _ _ files name e he
    rcases Files.load_raises e he with rfl | rfl <;> trivial
  rw [replayGeneration, bind_eq_error] at h
  obtain h | ⟨name, hname, h⟩ := h
  · exact absurd (RaisesOnly.need trivial e h) he
  obtain h | ⟨files, hfiles, h⟩ := bind_eq_error.mp h
  · exact absurd (RaisesOnly.need trivial e h) he
  obtain h | ⟨_, hdeclared, h⟩ := bind_eq_error.mp h
  · exact absurd (RaisesOnly.raiseIf trivial e h) he
  obtain h | ⟨state, hstate, h⟩ := bind_eq_error.mp h
  · exact absurd (hload e h) he
  obtain h | ⟨_, hgen, h⟩ := bind_eq_error.mp h
  · exact absurd (RaisesOnly.raiseIf trivial e h) he
  rw [raiseIf_ok, Decidable.not_not] at hgen
  simp only [raiseIf_ok, not_or, Decidable.not_not, not_exists, not_and, Bool.not_eq_false]
    at hdeclared
  rcases Nat.eq_zero_or_pos n with hzero | hpos
  · rw [if_pos hzero] at h
    refine absurd (RaisesOnly.bind hload (fun config _ => ?_) e h) he
    exact .bind (.raiseIf trivial) fun _ _ => .ok _
  · have hne : n ≠ 0 := Nat.pos_iff_ne_zero.mp hpos
    rw [if_neg hne] at h
    obtain ⟨report, hreport, hfalse⟩ := replayReport_uncaught h he
    exact ⟨hne, name, files, report, need_ok.mp hname, need_ok.mp hfiles,
      ⟨hdeclared.1, hdeclared.2, ⟨state, hstate, hgen⟩, hreport⟩, hfalse⟩

/-- A replay that got to a report without its own hash raises there. -/
theorem replayGeneration_mismatch {s : StateStore T}
    (hname : roots.lookup (k + 1) = some name) (hfiles : s.generation name = some files)
    (hread : ReportRead files (k + 1) report) (hfalse : report.reportSha256 ≠ report.digest) :
    replayGeneration s roots ⟨sha, some previous, some config⟩ (k + 1) = .error mismatch := by
  obtain ⟨state, hstate, hgen⟩ := hread.state
  rw [replayGeneration_files hname hfiles hread.declared hread.regular hstate hgen,
    if_neg (Nat.succ_ne_zero k), replayReport]
  simp only [need, ok_bind, hread.report, verifyReport_error.mpr ⟨hfalse, rfl⟩, error_bind]

theorem replayLineage_uncaught {s : StateStore T} (h : s.replayLineage = .error e)
    (he : ¬ e.Caught) : s.FalseReport := by
  rw [StateStore.replayLineage, bind_eq_error] at h
  obtain h | ⟨current, hcurrent, h⟩ := h
  · exact absurd (loadCurrentBasic_raises e h).caught he
  obtain h | ⟨roots, hroots, h⟩ := bind_eq_error.mp h
  · have hraises : RaisesOnly Error.OfStore (loop addRoot [] s.generations) :=
      .loop fun _ _ => addRoot_raises
    exact absurd (hraises e h).caught he
  obtain h | ⟨_, hnumbers, h⟩ := bind_eq_error.mp h
  · exact absurd (RaisesOnly.raiseIf trivial e h) he
  simp only [raiseIf_ok, ne_eq, not_or, Decidable.not_not] at hnumbers
  obtain h | ⟨_, -, h⟩ := bind_eq_error.mp h
  · obtain ⟨earlier, n, later, walk, hsplit, hearlier, hn⟩ := loop_error.mp h
    obtain ⟨hne, name, files, report, hname, hfiles, hread, hfalse⟩ :=
      replayGeneration_uncaught hn he
    obtain ⟨hlen, rfl⟩ := range_split.mp ⟨later, hsplit⟩
    obtain ⟨k, rfl⟩ := Nat.exists_eq_succ_of_ne_zero hne
    have hcommitted : s.committed current.state.generation =
        .ok (roots.filter (·.1 ≤ current.state.generation)) := by
      rw [StateStore.committed, hroots]
      rfl
    exact ⟨current, _, k, name, files, report,
      ⟨hcurrent, hcommitted, hnumbers.1, hnumbers.2, hlen, walk, hearlier⟩, hname, hfiles, hread,
      hfalse⟩
  · exact absurd h (by rintro ⟨⟩)

theorem StateStore.FalseReport.raises {s : StateStore T} (h : s.FalseReport) :
    s.replayLineage = .error mismatch := by
  obtain ⟨current, roots, k, name, files, report, hreaches, hname, hfiles, hread, hfalse⟩ := h
  obtain ⟨walk, hwalk⟩ := hreaches.earlier
  obtain ⟨-, initial, config, commits, state, sha, -, -, -, rfl, -⟩ := replay_loop hwalk
  have hmismatch : replayGeneration s roots ⟨sha, some state, some config⟩ (k + 1) =
      .error mismatch := replayGeneration_mismatch hname hfiles hread hfalse
  have hloop : loop (replayGeneration s roots) .start
      (List.range (current.state.generation + 1)) = .error mismatch := by
    obtain ⟨later, hsplit⟩ := range_split.mpr ⟨hreaches.le, rfl⟩
    exact loop_error.mpr ⟨_, _, _, _, hsplit, hwalk, hmismatch⟩
  have hroots := hreaches.committed
  rw [StateStore.committed, bind_eq_ok] at hroots
  obtain ⟨all, hall, hfilter⟩ := hroots
  obtain rfl := pure_eq_ok.mp hfilter
  rw [StateStore.replayLineage, hreaches.loaded, ok_bind, hall, ok_bind]
  simp only [hloop, error_bind]
  rw [raiseIf_neg]
  · rfl
  · simp only [ne_eq, not_or, Decidable.not_not]
    exact ⟨hreaches.numbers, hreaches.directory⟩

/-- Validation ends with a list of issues unless the replay gets to a false
report. -/
theorem validateLineage_returns_iff {s : StateStore T} :
    (∃ issues, s.validateLineage = .ok issues) ↔ ¬ s.FalseReport := by
  constructor
  · rintro ⟨issues, hissues⟩ hfalse
    rw [StateStore.validateLineage, hfalse.raises] at hissues
    exact absurd hissues nofun
  · intro hfalse
    cases hreplay : s.replayLineage with
    | ok => exact ⟨[], by rw [StateStore.validateLineage, hreplay]; rfl⟩
    | error e =>
      have hcaught : e.Caught := by
        by_contra huncaught
        exact hfalse (replayLineage_uncaught hreplay huncaught)
      refine ⟨[e.message], ?_⟩
      rw [StateStore.validateLineage, hreplay]
      cases e with
      | recoveryEvaluationError => exact hcaught.elim
      | _ => rfl

theorem current_raises {s : StateStore T} (h : ¬ s.FalseReport) :
    RaisesOnly Error.OfStore s.current := by
  obtain ⟨issues, hissues⟩ := validateLineage_returns_iff.mpr h
  refine .bind loadCurrentBasic_raises fun current _ => ?_
  rw [hissues, ok_bind]
  cases issues with
  | nil => exact .ok current
  | cons => exact .error trivial

/-- The state that a store with a valid lineage is in. -/
theorem current_ok {s : StateStore T} : s.current = .ok c ↔
    s.loadCurrentBasic = .ok c ∧ s.validateLineage = .ok [] := by
  rw [StateStore.current, bind_eq_ok]
  constructor
  · rintro ⟨c', hload, h⟩
    obtain ⟨issues, hissues, h⟩ := bind_eq_ok.mp h
    cases issues with
    | nil => exact ⟨pure_eq_ok.mp h ▸ hload, hissues⟩
    | cons => exact absurd h nofun
  · rintro ⟨hload, hissues⟩
    exact ⟨c, hload, by rw [hissues]; rfl⟩

-- ---------------------------------------------------------------------------
-- The transition
-- ---------------------------------------------------------------------------

/-- The report carries its own hash and, if it is bound to the lifecycle, finds
room in it and does not reopen what never recovered. -/
structure Takes (s : RecoveryLifecycleState) (report : RecoveryReport) (config : RecoveryConfig) :
    Prop where
  own : report.reportSha256 = report.digest
  room : Bound s report config → s.appliedReportSha256s.length < 10000
  severe : Bound s report config → ¬ (s.everRecovered = false ∧ Regresses report ∧
    report.severeGuardrailBreach = true ∧ config.immediateReopenOnSevereGuardrail = true)

omit [RecoveryText T] in
/-- The next state is refused when the lifecycle is full, and when it reopens
what never recovered. -/
theorem nextState_valid_takes (hs : s.Valid) (hr : report.Valid) (hb : Bound s report config) :
    (nextState s report config).Valid ↔ s.appliedReportSha256s.length < 10000 ∧
      ¬ (s.everRecovered = false ∧ Regresses report ∧ report.severeGuardrailBreach = true ∧
        config.immediateReopenOnSevereGuardrail = true) := by
  by_cases hroom : s.appliedReportSha256s.length < 10000
  · rw [nextState_valid_iff hs hb hr.fields.reportSha256 hr.fields.evaluatedAt hroom,
      transition_reopened, and_iff_right hroom]
    constructor
    · rintro h ⟨hnever, hregresses, hsevere, himmediate⟩
      rcases h (.inr ⟨hregresses, .inl (by simp [hsevere, himmediate])⟩) with hever | hrecovered
      · rw [hnever] at hever
        exact absurd hever nofun
      · exact not_regresses (.inl hrecovered) hregresses
    · rintro h (hreopened | ⟨hregresses, hsevere | hsustained⟩)
      · exact .inl (hs.reopened hreopened)
      · rw [Bool.and_eq_true] at hsevere
        exact .inl (Bool.of_not_eq_false fun hnever => h ⟨hnever, hregresses, hsevere.1, hsevere.2⟩)
      · exact .inl hsustained.1
  · refine iff_of_false (fun hv => hroom ?_) fun h => hroom h.1
    have hcount := hv.appliedCount
    simp only [nextState, List.length_append, List.length_singleton] at hcount
    omega

omit [RecoveryText T] in
theorem transitionState_unbound (hown : report.reportSha256 = report.digest)
    (hb : ¬ Bound s report config) :
    RaisesOnly Error.OfStore (transitionState s report config) := by
  have hverify : verifyReport report = .ok () := raiseIf_neg (not_not.mpr hown)
  rw [transitionState, hverify, ok_bind]
  refine .bind (.raiseIf trivial) fun _ h1 => .bind (.raiseIf trivial) fun _ h2 =>
    .bind (.raiseIf trivial) fun _ h3 => .bind (.raiseIf trivial) fun _ h4 =>
    .bind (.raiseIf trivial) fun _ h5 => .bind (.raiseIf trivial) fun _ h6 =>
    .bind (.raiseIf trivial) fun _ h7 => absurd ?_ hb
  simp only [raiseIf_ok, ne_eq, Decidable.not_not, not_or, not_exists, not_and, Int.not_le]
    at h1 h2 h3 h4 h5 h6 h7
  exact ⟨hverify, h1, h2, h3, h4, h5.1, h5.2, h6, h7⟩

omit [RecoveryText T] in
theorem transitionState_refused (hb : Bound s report config)
    (hinvalid : ¬ Model.Valid (nextState s report config)) :
    transitionState s report config = .error .valueError := by
  have hpolicy : ¬ (report.configSha256 ≠ s.configSha256 ∨ config.digest ≠ s.configSha256) := by
    simp [hb.reportConfig, hb.config]
  have hlater : ¬ ∃ t ∈ s.lastEvaluatedAt, report.evaluatedAt.instant ≤ t.instant := by
    rintro ⟨t, ht, hle⟩
    exact absurd (hb.later t ht) (Int.not_lt.mpr hle)
  rw [transitionState, hb.verified, ok_bind, raiseIf_neg (not_not.mpr hb.incidentId), ok_bind,
    raiseIf_neg (not_not.mpr hb.executionReceiptSha256), ok_bind,
    raiseIf_neg (not_not.mpr hb.executionManifestSha256), ok_bind,
    raiseIf_neg (not_not.mpr hb.recoveryId), ok_bind, raiseIf_neg hpolicy, ok_bind,
    raiseIf_neg hb.fresh, ok_bind, raiseIf_neg hlater, ok_bind, raiseIf_pos hinvalid, error_bind]

omit [RecoveryText T] [Hashing] in
theorem transition_trigger : isIdentifier (transition s report config).trigger = true := by
  have hall : ∀ trigger ∈ ["incident_already_reopened", "recovery_verified",
      "recovery_evidence_gap", "severe_guardrail_regression", "sustained_recovery_regression",
      "regression_observed", "recovery_not_yet_verified"], isIdentifier trigger = true := by
    decide
  refine hall _ ?_
  simp only [transition]
  split
  · simp
  · split
    · simp
    · simp
    · split_ifs <;> simp
    · split_ifs <;> simp

omit [RecoveryText T] in
/-- The event of a taken report passes the validators. -/
theorem provisionalEvent_valid (hs : s.Valid) (hr : report.Valid) (hsha : isSha256 sha = true) :
    (provisionalEvent s (nextState s report config) sha report
      (transition s report config).trigger).Valid where
  recoveryId := hs.recoveryId
  incidentId := hs.incidentId
  generation := Nat.succ_pos _
  reportSha256 := hr.fields.reportSha256
  configSha256 := hs.configSha256
  beforeStateSha256 := digest_hex _
  afterStateSha256 := digest_hex _
  previousEventSha256 := hsha
  trigger := transition_trigger
  evaluatedAt := hr.fields.evaluatedAt
  eventSha256 := zeroHash_isSha256

omit [RecoveryText T] in
theorem applyReport_raises_iff (hs : s.Valid) (hr : report.Valid) (hsha : isSha256 sha = true) :
    RaisesOnly Error.OfStore (applyReport s sha report config) ↔ Takes s report config := by
  have hrefused : ∀ e, transitionState s report config = .error e →
      applyReport s sha report config = .error e := by
    intro e he
    rw [applyReport, he, error_bind]
  constructor
  · intro h
    have hown : report.reportSha256 = report.digest := by
      by_contra hfalse
      refine h mismatch (hrefused _ ?_)
      rw [transitionState, verifyReport_error.mpr ⟨hfalse, rfl⟩, error_bind]
    have hnext : Bound s report config → (nextState s report config).Valid := by
      intro hb
      by_contra hinvalid
      exact h .valueError (hrefused _ (transitionState_refused hb hinvalid))
    exact ⟨hown, fun hb => ((nextState_valid_takes hs hr hb).mp (hnext hb)).1,
      fun hb => ((nextState_valid_takes hs hr hb).mp (hnext hb)).2⟩
  · intro h e he
    by_cases hb : Bound s report config
    · have hnext := (nextState_valid_takes hs hr hb).mpr ⟨h.room hb, h.severe hb⟩
      have hok := transitionState_ok.mpr ⟨hb, hnext, rfl, rfl⟩
      have hevent : Model.Valid (provisionalEvent s (nextState s report config) sha report
          (transition s report config).trigger) := provisionalEvent_valid hs hr hsha
      simp only [applyReport, hok, ok_bind, raiseIf_neg (not_not.mpr hevent)] at he
      exact absurd he (by rintro ⟨⟩)
    · refine RaisesOnly.bind (transitionState_unbound h.own hb) (fun a ha => ?_) e he
      exact absurd (transitionState_ok.mp ha).1 hb

-- ---------------------------------------------------------------------------
-- Undisturbed calls
-- ---------------------------------------------------------------------------

omit [Hashing] in
theorem atomicJson_run (value : Json) (f : JsonFile T) :
    (atomicJson value).run f = .returned () ⟨some (FileText.json value), none⟩ := by
  obtain ⟨file, staged⟩ := f
  cases staged <;> rfl

omit [RecoveryText T] [Hashing] in
theorem writeDurable_ok {s : StateStore T} (hfiles : s.preparedFiles key = some files)
    (hnew : files.lookup name = none) : s.writeDurable key name text =
      .ok ((), s.setPrepared key (files ++ [(name, .file text)])) := by
  rw [StateStore.writeDurable, hfiles, need, ok_bind, raiseIf_neg (by simp [hnew])]
  rfl

omit [RecoveryText T] [Hashing] in
@[simp] theorem preparedFiles_setPrepared (s : StateStore T) (key : Nat) (files : Files T) :
    (s.setPrepared key files).preparedFiles key = some files := List.lookup_cons_self

omit [Hashing] in
theorem stageAndCommit_run {s : StateStore T} (key : Nat) (applied : Applied) (next : Pointer)
    (hkey : s.preparedFiles key = some [])
    (hfree : s.generations.lookup next.directory = none) :
    ∃ s', (stageAndCommit key applied next).run s = .returned () s' := by
  let s₁ := s.setPrepared key [("state.json", .file (TextCodec.dump applied.state))]
  let s₂ := s₁.setPrepared key [("state.json", .file (TextCodec.dump applied.state)),
    ("report.json", .file (TextCodec.dump applied.report))]
  let s₃ := s₂.setPrepared key (commitFiles applied)
  let s₄ : StateStore T := { s₃.discard key with
    generations := s₃.generations ++ [(next.directory, .directory (commitFiles applied))] }
  have hreplace : s₃.replaceGeneration key next.directory = .ok ((), s₄) := by
    have hplace : s₃.generations.lookup next.directory = none := hfree
    rw [StateStore.replaceGeneration, preparedFiles_setPrepared, need, ok_bind,
      raiseIf_neg (by simp [hplace])]
    rfl
  have hstate : s.writeDurable key "state.json" (TextCodec.dump applied.state) = .ok ((), s₁) :=
    writeDurable_ok hkey rfl
  have hreport : s₁.writeDurable key "report.json" (TextCodec.dump applied.report) =
      .ok ((), s₂) := writeDurable_ok (preparedFiles_setPrepared ..) rfl
  have hevent : s₂.writeDurable key "event.json" (TextCodec.dump applied.event) = .ok ((), s₃) :=
    writeDurable_ok (preparedFiles_setPrepared ..) rfl
  refine ⟨{ s₄ with currentJson := ⟨some (FileText.json next.json), none⟩ }, ?_⟩
  rw [stageAndCommit, Prog.run_op_bind s hstate, Prog.run_op_bind s₁ hreport,
    Prog.run_op_bind s₂ hevent, Prog.run_op_bind s₃ hreplace, Prog.run_bind_returned (Prog.run_touch _), Prog.run_within,
    atomicJson_run]
  rfl

omit [RecoveryText T] [Hashing] in
theorem clearDestination_run (previous : RecoveryLifecycleState) (next : Pointer)
    (s : StateStore T) : (∃ s', (clearDestination previous next).run s = .returned () s' ∧
        s'.generations.lookup next.directory = none) ∨
      ∃ e, e.OfStore ∧ (clearDestination previous next).run s = .raised e s := by
  rw [clearDestination, Prog.run_read_bind s (a := s.generations.lookup next.directory) rfl]
  cases hfound : s.generations.lookup next.directory with
  | none => exact .inl ⟨s, rfl, hfound⟩
  | some entry =>
    dsimp only
    split
    · refine .inl ⟨_, rfl, ?_⟩
      rw [List.lookup_eq_none_iff]
      intro e he
      have hne := (List.mem_filter.mp he).2
      simpa using Ne.symm (of_decide_eq_true hne)
    · exact .inr ⟨.recoveryStateStoreError _, trivial, rfl⟩

omit [Hashing] in
theorem publishReport_run (previous : RecoveryLifecycleState) (applied : Applied)
    (s : StateStore T) : (∃ s', (publishReport previous applied).run s = .returned () s') ∨
      ∃ e, e.OfStore ∧ (publishReport previous applied).run s = .raised e s := by
  have hclear := clearDestination_run previous
    (Pointer.ofEvent applied.state.generation applied.event) s
  rcases hclear with ⟨s₁, hrun, hfree⟩ | ⟨e, he, hrun⟩
  · left
    obtain ⟨s', hstage⟩ := stageAndCommit_run (s := s₁.mkdtemp.2) s₁.mkdtemp.1 applied _
      List.lookup_cons_self hfree
    refine ⟨s', ?_⟩
    have hmkdtemp : (.ok s₁.mkdtemp : Except Error _) = .ok (s₁.mkdtemp.1, s₁.mkdtemp.2) := rfl
    rw [publishReport, Prog.run_bind_returned hrun, Prog.run_op_bind s₁ hmkdtemp, Prog.run_handle,
      hstage]
    rfl
  · refine .inr ⟨e, he, ?_⟩
    rw [publishReport, Prog.run_bind, hrun]
    rfl

omit [Hashing] in
/-- What is read of the current generation is valid. -/
theorem loadCurrentBasic_valid {s : StateStore T} (h : s.loadCurrentBasic = .ok c) :
    c.state.Valid ∧ ∀ e ∈ c.event, e.Valid := by
  simp only [StateStore.loadCurrentBasic, bind_eq_ok, need_ok, raiseIf_ok, pure_eq_ok,
    exists_and_left, exists_const, currentInvalid_ok] at h
  obtain ⟨-, pointer, -, files, -, state, hstate, event, hevent, -, -, rfl⟩ := h
  refine ⟨Files.load_valid hstate, fun e he => ?_⟩
  obtain rfl : event = some e := he
  split at hevent
  · cases hload : (files.load "event.json" : Except Error RecoveryLifecycleEvent) with
    | error => rw [hload] at hevent; exact absurd hevent (by rintro ⟨⟩)
    | ok e' =>
      rw [hload] at hevent
      obtain rfl := Option.some.inj (Except.ok.inj hevent)
      exact Files.load_valid hload
  · exact absurd (Except.ok.inj hevent) (by rintro ⟨⟩)

/-- What `apply` reads and computes before it writes. -/
theorem prepare_raises_iff {s : StateStore T} (hs : ¬ s.FalseReport) (hr : report.Valid) :
    RaisesOnly Error.OfStore (s.prepare report config) ↔
      ∀ c, s.current = .ok c → Takes c.state report config := by
  have happly : ∀ c, s.current = .ok c →
      (RaisesOnly Error.OfStore (applyReport c.state
          ((c.event.map RecoveryLifecycleEvent.eventSha256).getD zeroHash) report config) ↔
        Takes c.state report config) := by
    intro c hc
    obtain ⟨hstate, hevent⟩ := loadCurrentBasic_valid (current_ok.mp hc).1
    refine applyReport_raises_iff hstate hr ?_
    cases he : c.event with
    | none => exact zeroHash_isSha256
    | some e => exact (hevent e he).eventSha256
  constructor
  · intro h c hc
    refine (happly c hc).mp fun e he => h e ?_
    simp only [StateStore.prepare, hc, ok_bind, he, error_bind]
  · intro h
    refine .bind (current_raises hs) fun c hc => ?_
    exact .bind ((happly c hc).mpr (h c hc)) fun _ _ => .ok _

section
omit [RecoveryText T] [Hashing]

theorem read_handled {f : World T → Except Error α} (w : World T) :
    Handled ((Prog.read f).run w) ↔ RaisesOnly Error.OfStore (f w) := by
  rw [Prog.run_read]
  cases f w with
  | ok a => exact iff_of_true trivial (.ok a)
  | error e => exact ⟨fun h => .error (show e.OfStore from h), fun h => h e rfl⟩

theorem withLock_handled {p : Prog Error (World T) α} (w : World T) :
    Handled ((ensureRoot >>= fun _ => withLock p).run w.later) ↔
      Handled (p.run { w with lock := true }) := by
  rw [ensureRoot, Prog.run_bind_returned (Prog.run_touch _), withLock, Prog.run_bind,
    Prog.run_await, if_pos (by rfl)]
  simp only [Prog.Outcome.andThen, Prog.run_ensuring]
  rw [show ({ w.later with lock := true } : World T) = { w with lock := true } from rfl]
  cases p.run { w with lock := true } <;> exact Iff.rfl

end

theorem apply_handled_iff {w : World T} : Handled ((apply report config).run w.later) ↔
    RaisesOnly Error.OfStore (w.store.prepare report config) := by
  rw [apply, withLock_handled, Prog.run_bind, Prog.run_read]
  cases hprepare : w.store.prepare report config with
  | error e => exact ⟨fun h => .error (show e.OfStore from h), fun h => h e rfl⟩
  | ok r =>
    obtain ⟨previous, applied⟩ := r
    refine iff_of_true ?_ (.ok _)
    rcases publishReport_run previous applied w.store with ⟨s', hrun⟩ | ⟨e, he, hrun⟩
    · simp only [Prog.Outcome.andThen, Prog.run_bind, Prog.run_within, World.storePart, hrun]
      trivial
    · simp only [Prog.Outcome.andThen, Prog.run_bind, Prog.run_within, World.storePart, hrun]
      exact he

/-- Nothing but errors of the store escapes the three operations. -/
structure ReportsErrors (w : World T) (report : RecoveryReport) (config : RecoveryConfig) : Prop where
  validates : ∃ issues w', (validate : Prog Error (World T) (List String)).run w =
    .returned issues w'
  reads : Handled ((currentState : Prog Error (World T) RecoveryLifecycleState).run w)
  applies : Handled ((apply report config).run w)

end

theorem RecoveryReport.Valid.relabelled {r : RecoveryReport} (h : r.Valid)
    (hsha : isSha256 sha = true) : Model.Valid { r with reportSha256 := sha } :=
  ⟨{ h.fields with reportSha256 := hsha }, h.evaluations⟩

theorem RecoveryReport.sealed_digest [Hashing] (r : RecoveryReport) :
    r.sealed.reportSha256 = r.sealed.digest := rfl

/-- The commit under another hash of its report. -/
def Applied.relabelled (a : Applied) (sha : String) : Applied :=
  { a with report := { a.report with reportSha256 := sha } }

theorem Applied.Valid.relabelled {a : Applied} (h : a.Valid) (hsha : isSha256 sha = true) :
    (a.relabelled sha).Valid := ⟨h.report.relabelled hsha, h.state, h.event⟩

namespace Sample

theorem storeWith_falseReport {a : Applied} (hv : a.Valid) (hgen : a.state.generation = 1)
    (hfalse : a.report.reportSha256 ≠ a.report.digest) : (storeWith a).FalseReport := by
  obtain ⟨hfiles, hregular, hnumbers⟩ := storeWith_files hv hgen
  have hcurrent := loadCurrentBasic_written hv (by rw [hgen]; decide) (s := storeWith a) rfl hfiles
  have hroots : (storeWith a).committed 1 = .ok [(0, zeroPadded 0), (1, a.directory)] := by
    rw [StateStore.committed, hregular.roots.mpr ⟨by rw [hnumbers]; decide, rfl⟩]
    simp [storeWith, entryNumber, entryGeneration_zero, directory_number hv hgen, pure, Except.pure]
  have hnames : Remediation.sameNames ((commitFiles a : Files Text).map Prod.fst)
      (expectedFiles 1) :=
    (by decide : Remediation.sameNames ["state.json", "report.json", "event.json"]
      ["state.json", "event.json", "report.json"])
  have hinitial : loop (replayGeneration (storeWith a) [(0, zeroPadded 0), (1, a.directory)])
      .start (List.range (0 + 1)) = .ok ⟨zeroHash, some initial, some config⟩ := by
    rw [List.range_succ]
    exact loop_snoc.mpr ⟨.start, rfl, initial_holds.replays List.lookup_cons_self rfl⟩
  have hread : ReportRead (commitFiles a : Files Text) 1 a.report :=
    ⟨hnames, by simp [commitFiles, FileEntry.isFile], ⟨_, commitFiles_state hv, hgen⟩,
      commitFiles_report hv⟩
  have hreaches : Reaches (storeWith a) ⟨Pointer.ofEvent a.state.generation a.event, a.state,
      some a.event⟩ [(0, zeroPadded 0), (1, a.directory)] (0 + 1) := by
    have hcommitted : (storeWith a).committed a.state.generation =
        .ok [(0, zeroPadded 0), (1, a.directory)] := by rw [hgen, hroots]
    have hnumbers : [0, 1] ⊆ List.range (a.state.generation + 1) ∧
        List.range (a.state.generation + 1) ⊆ [0, 1] := by
      rw [hgen]
      exact ⟨fun _ h => h, fun _ h => h⟩
    have hdirectory : [(0, zeroPadded 0), (1, a.directory)].lookup a.state.generation =
        some a.directory := by simp [hgen, List.lookup_cons]
    exact ⟨hcurrent, hcommitted, hnumbers, hdirectory, hgen.ge, _, hinitial⟩
  exact ⟨_, _, 0, a.directory, commitFiles a, a.report, hreaches, by simp [List.lookup_cons],
    hfiles, hread, hfalse⟩

/-- A commit whose report carries another hash than its own. -/
def mislabelled : Applied := recovery.relabelled zeroHash

theorem mislabelled_falseReport : (storeWith mislabelled).FalseReport :=
  storeWith_falseReport (recovery_valid.relabelled zeroHash_isSha256) rfl (by decide +kernel)

theorem worldOf_later (s : StateStore Text) : (worldOf s).later = worldOf s := rfl

theorem recovered_takes : Takes recovered (report healthy 15) config where
  own := RecoveryReport.sealed_digest _
  room := fun _ => by simp [recovered, nextState, initial, initialState]
  severe := fun _ h => absurd h.1 (by decide)

end Sample

end Paic.Recovery
