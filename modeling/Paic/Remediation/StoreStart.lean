import Paic.Remediation.StoreRecovery

/-!
# Setting up a store

`initialize` writes a generation, `store.json` and `current.json`, in this
order, and does nothing when it finds `store.json`. So it returns on a
directory where an earlier attempt stopped between the two files, and it takes
any state that loads, whatever its own generation counter says.
`initialize_valid_iff` is what remains.
-/

namespace Paic.Remediation

open Checks
open Prog (exec_wp run_bind_returned run_touch run_read)
open StateStore

section
variable {T : Type} [RemediationText T] [Hashing]

/-- The calls of `initialize` on an empty directory, all with one artifact.
Each may have stopped at any of its steps. -/
inductive Starts (initial : Option (Directory T)) : World T → Prop where
  | empty (h : w.store = .empty) : Starts initial w
  | call (h : Starts initial w)
      (hr : ((initializeFrom initial).exec faults (w.later ledger)).Ends w') : Starts initial w'

theorem Starts.crash {w : World T} (h : w.store = .empty)
    (hc : (initializeFrom initial).Crashes (w.later ledger) w') : Starts initial w' := by
  obtain ⟨faults, hcrash⟩ := hc
  exact (Starts.empty h).call (by rw [hcrash]; rfl)

theorem Starts.partial_ {w : World T} (h : Starts initial w)
    (hload : loadControlState initial = .ok loaded) (hsha : manifestSha256 initial = .ok sha) :
    w.store.Partial initial sha loaded.state := by
  induction h with
  | empty h => exact h ▸ .of_empty
  | @call w faults ledger w' _ hr ih =>
    have ih' : (w.later ledger).store.Partial initial sha loaded.state := ih
    refine (exec_wp.mp (initializeFrom_wp hload hsha ih') faults).ends hr ?_
      (fun _ hp => hp) fun hp => hp
    rintro - (⟨-, hsame⟩ | ⟨-, hnew⟩)
    · exact hsame ▸ ih'
    · exact hnew.started

namespace StateStore.Partial

/-- The pointer of a directory that is being set up. -/
theorem current_eq {s : StateStore T} (h : s.Partial initial sha state) (hp : s.current = .ok p) :
    s.currentJson.file ≠ none ∧ p = .initial := by
  simp only [StateStore.current, bind_eq_ok, raiseIf_ok, pure_eq_ok, exists_and_left, exists_const,
    Option.isNone_iff_eq_none, not_or, Decidable.not_not] at hp
  obtain ⟨⟨-, hc⟩, fields, hfields, p', hp', -, -, rfl⟩ := hp
  rw [(h.currentJson.resolve_left hc).1] at hfields
  have hinitial : readJson (some (FileText.json Pointer.initial.json : T)) = .ok _ :=
    readJson_json Pointer.initial.json_isRecord
  obtain rfl := Except.ok.inj (hinitial.symm.trans hfields)
  exact ⟨hc, Except.ok.inj (hp'.symm.trans Pointer.initial.readPointer_fields)⟩

theorem check_ok {s : StateStore T} (h : s.Partial initial sha state)
    (hload : loadControlState initial = .ok ⟨m, state⟩) :
    s.check = .ok () ↔ state.generation = 0 ∧ s.currentJson.file ≠ none := by
  constructor
  · intro hcheck
    simp only [StateStore.check, bind_eq_ok, raiseIf_ok, exists_and_left, exists_const, ne_eq,
      Decidable.not_not] at hcheck
    obtain ⟨p, hp, _, -, -, loaded, hloaded, hgen, -⟩ := hcheck
    obtain ⟨hc, rfl⟩ := h.current_eq hp
    rw [show Pointer.initial.directory = zeroPadded 0 from rfl, h.stateDir hc, hload] at hloaded
    obtain rfl := Except.ok.inj hloaded
    exact ⟨hgen, hc⟩
  · rintro ⟨hgen, hc⟩
    have hne := (h.storeJson.resolve_left (h.currentJson.resolve_left hc).2).2
    have hinv := h.inv hc hload hgen
    rw [hinv.check_ok, h.generations.resolve_left hne]
    exact List.nodup_singleton _

end StateStore.Partial

theorem currentStateDir_run {w : World T} (hlock : w.stateLock = false)
    (hp : w.store.current = .ok p) :
    currentStateDir.run w = .returned p.directory { w with stateLock := false } := by
  rw [currentStateDir, ensureRegularRoot, run_bind_returned (run_touch w)]
  have hread : (Prog.read fun w : World T => w.store.current.map Pointer.directory).run
      { w with stateLock := true } = .returned p.directory { w with stateLock := true } := by
    rw [run_read, show ({ w with stateLock := true } : World T).store = w.store from rfl, hp]
    rfl
  have hrun := withStateLock_run hlock hread
  exact hrun

/-- `validate` finds nothing, and there is a current state. -/
def Usable (w : World T) : Prop :=
  (∃ w', validate.run w = .returned [] w') ∧ ∃ d w', currentStateDir.run w = .returned d w'

theorem usable_iff {w : World T} (h : w.store.Partial initial sha state)
    (hlock : w.stateLock = false) (hload : loadControlState initial = .ok ⟨m, state⟩) :
    Usable w ↔ state.generation = 0 ∧ w.store.currentJson.file ≠ none := by
  rw [Usable, validate_returns hlock, h.check_ok hload]
  refine and_iff_left_of_imp fun ⟨hgen, hc⟩ => ?_
  exact ⟨_, _, currentStateDir_run hlock (h.inv hc hload hgen).current⟩

/-- Whether a store is usable after a call of `initialize` that returned. -/
theorem initialize_valid_iff {w w' : World T} (h : Starts initial w)
    (hload : loadControlState initial = .ok loaded)
    (hr : (initializeFrom initial).exec faults (w.later ledger) = .returned () w') :
    Usable (w'.later ledger') ↔ loaded.state.generation = 0 ∧
      (w.store.storeJson.file ≠ none → w.store.currentJson.file ≠ none) := by
  obtain ⟨sha, hsha, -⟩ := loadControlState_manifestSha256 hload
  have hpartial := h.partial_ hload hsha
  have hstarts : Starts initial w' := h.call (by rw [hr]; rfl)
  rw [usable_iff (w := w'.later ledger') (hstarts.partial_ hload hsha) rfl hload]
  have hmeets := exec_wp.mp (initializeFrom_wp (w := w.later ledger) hload hsha hpartial) faults
  rw [hr] at hmeets
  refine and_congr Iff.rfl ?_
  rcases hmeets with ⟨hne, hsame⟩ | ⟨hnone, hnew⟩
  · have hstore : w'.store = w.store := hsame
    rw [show (w'.later ledger').store = w'.store from rfl, hstore]
    exact ⟨fun hc _ => hc, fun hc => hc hne⟩
  · have hc : (w'.later ledger').store.currentJson.file ≠ none := by
      show w'.store.currentJson.file ≠ none
      simp [hnew.currentJson]
    exact ⟨fun _ hne => absurd hnone hne, fun _ => hc⟩

/-- A call of `initialize` that finds `store.json` returns. -/
theorem initializeFrom_again {w : World T} (h : w.store.Partial initial sha loaded.state)
    (hload : loadControlState initial = .ok loaded) (hsha : manifestSha256 initial = .ok sha)
    (hlock : w.stateLock = false) (hne : w.store.storeJson.file ≠ none) :
    ∃ w', (initializeFrom initial).run w = .returned () w' ∧ w'.store = w.store := by
  have hfile := (h.storeJson.resolve_left hne).1
  have hread := readJson_json (T := T)
    (show (storeMeta sha loaded.state).IsRecord from storeMeta_isRecord)
  have horigin : (do
      let fields ← readJson w.store.storeJson.file
      raiseIf ((Json.obj fields).get? "origin_manifest_sha256" ≠ some (.str sha))
        (.stateStoreError "state store is bound to another initial state")) = Except.ok () := by
    rw [hfile, storeMeta, hread, ok_bind]
    exact raiseIf_neg (by simp [Json.get?])
  have hinside : (initializeStore initial loaded sha).run w.store = .returned () w.store := by
    rw [initializeStore, Prog.run_read_bind w.store (a := w.store.storeJson.file) rfl,
      if_pos (Option.isSome_iff_ne_none.mpr hne), Prog.run_ofExcept, horigin]
  refine ⟨{ w with stateLock := false }, ?_, rfl⟩
  rw [(initializeFrom_reaches hload hsha).run]
  have hlocked : ((initializeStore initial loaded sha).within World.storePart).run
      { w with stateLock := true } = .returned () { w with stateLock := true } := by
    rw [Prog.run_within, show World.storePart.get { w with stateLock := true } = w.store from rfl,
      hinside]
    rfl
  have hrun := withStateLock_run hlock hlocked
  exact hrun

end

/-- The sample's artifact in an empty directory. -/
theorem initialize_valid_sample : ∃ w' : World Sample.Text, Usable (w'.later Sample.ledger) := by
  obtain ⟨w', hrun⟩ := initializeFrom_run (w := Sample.emptyWorld) rfl rfl Sample.initialDir_loads
  have hexec : (initializeFrom (some Sample.initialDir)).exec []
      (Sample.emptyWorld.later Sample.ledger) = .returned () w' := hrun
  exact ⟨w', (initialize_valid_iff (.empty rfl) Sample.initialDir_loads hexec).mpr
    ⟨rfl, fun h => absurd rfl h⟩⟩

namespace Sample

/-- The sample's state, one generation later. -/
def laterState : ControlState := { state with generation := 1 }

theorem laterState_loads :
    loadControlState (some (controlStateDirectory laterState : Directory Text)) = .ok ⟨controlStateManifest Text laterState, laterState⟩ := by
  have hs : Storable state := loadControlState_storable initialDir_loads
  exact loadControlState_directory ⟨{ hs.valid with }, hs.stateId, hs.incidentId⟩

end Sample

/-- Two directories where the last call of `initialize` returns: in the one an
earlier call crashed between the two files, in the other the state is not of
generation 0. -/
theorem unusable_starts :
    (∃ w w' : World Sample.Text, Starts (some Sample.initialDir) w ∧
      (initializeFrom (some Sample.initialDir)).run (w.later Sample.ledger) = .returned () w' ∧
      ¬ Usable (w'.later Sample.ledger)) ∧
    ∃ w' : World Sample.Text,
      (initializeFrom (some (controlStateDirectory Sample.laterState))).run Sample.emptyWorld =
        .returned () w' ∧ ¬ Usable (w'.later Sample.ledger) := by
  constructor
  · have hload := Sample.initialDir_loads
    obtain ⟨sha, hsha, -⟩ := loadControlState_manifestSha256 hload
    obtain ⟨w, hcrash, hstore, hcurrent⟩ :=
      initializeFrom_crashes (w := Sample.emptyWorld) rfl rfl hload
    have hcrash' : (initializeFrom (some Sample.initialDir)).Crashes
        (Sample.emptyWorld.later Sample.ledger) w := hcrash
    have hstarts : Starts (some Sample.initialDir) w := Starts.crash rfl hcrash'
    have hpartial := hstarts.partial_ hload hsha
    obtain ⟨w', hrun, hsame⟩ := initializeFrom_again (w := w.later Sample.ledger) hpartial hload
      hsha rfl hstore
    refine ⟨w, w', hstarts, hrun, ?_⟩
    have hpartial' :
        (w'.later Sample.ledger).store.Partial (some Sample.initialDir) sha Sample.state := by
      rw [show (w'.later Sample.ledger).store = w'.store from rfl, hsame]
      exact hpartial
    rw [usable_iff hpartial' rfl hload, show (w'.later Sample.ledger).store = w'.store from rfl, hsame]
    exact fun h => h.2 hcurrent
  · have hload := Sample.laterState_loads
    obtain ⟨w', hrun⟩ := initializeFrom_run (w := Sample.emptyWorld) rfl rfl hload
    obtain ⟨sha, hnew⟩ := initializeFrom_new hload rfl hrun
    refine ⟨w', hrun, ?_⟩
    rw [usable_iff (w := w'.later Sample.ledger) hnew.started rfl hload]
    exact fun h => absurd h.1 (by decide)

end Paic.Remediation
