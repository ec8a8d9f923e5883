import Paic.Recovery.Replay
import Paic.Recovery.Sample

/-!
# A recovery store on the computing platform

A store that holds the sample's policy and one commit, as `apply` writes it or
with an event that was changed and sealed again.
-/

namespace Paic.Recovery.Sample

open Platform (codec)

inductive Text where
  | empty
  | json (j : Json)
  | line (s : String)
  | config (c : RecoveryConfig)
  | report (r : RecoveryReport)
  | state (s : RecoveryLifecycleState)
  | event (e : RecoveryLifecycleEvent)
  deriving DecidableEq

instance : FileText Text where
  decEq := inferInstance
  empty := .empty
  size _ := 1
  sha256 _ := zeroHash
  json := .json
  loads
    | .json j => some j
    | _ => none
  line := .line
  strip
    | .line s => s
    | _ => ""
  sha256_hex _ := zeroHash_isSha256
  loads_json _ _ := rfl
  strip_line _ _ := rfl

instance : RecoveryText Text where
  configs := codec .config (fun | .config c => some c | _ => none) fun _ => rfl
  reports := codec .report (fun | .report r => some r | _ => none) fun _ => rfl
  states := codec .state (fun | .state s => some s | _ => none) fun _ => rfl
  events := codec .event (fun | .event e => some e | _ => none) fun _ => rfl

/-- The policy, the initial state and one commit. -/
def storeWith (a : Applied) : StateStore Text :=
  { currentJson := ⟨some (.json (Pointer.ofEvent a.state.generation a.event).json), none⟩
    generations := [(zeroPadded 0, .directory (initialFiles initial config)),
      (a.directory, .directory (commitFiles a))]
    prepared := [] }

theorem initial_holds : Initial config initial where
  configValid := config_valid
  stateValid := initial_valid
  generation := rfl
  digest := rfl
  recoveryId := rfl
  incidentId := rfl

theorem directory_number {a : Applied} (hv : a.Valid) (hgen : a.state.generation = 1) :
    entryGeneration a.directory = .ok 1 :=
  entryGeneration_name (by decide) (hgen ▸ namesGeneration_generationName hv.event.eventSha256)

theorem storeWith_files {a : Applied} (hv : a.Valid) (hgen : a.state.generation = 1) :
    (storeWith a).generation a.directory = some (commitFiles a) ∧ (storeWith a).Regular ∧
      (storeWith a).generations.map entryNumber = [0, 1] := by
  have hnumber := directory_number hv hgen
  have hne : a.directory ≠ zeroPadded 0 := by
    intro h
    rw [h] at hnumber
    exact absurd (Except.ok.inj (entryGeneration_zero.symm.trans hnumber)) (by decide)
  have hbeq : (a.directory == zeroPadded 0) = false := by simpa using hne
  refine ⟨by simp [StateStore.generation, storeWith, List.lookup_cons, hbeq],
    ⟨by simpa [storeWith] using hne.symm, by simp [storeWith, Entry.isDirectory], ?_⟩, ?_⟩
  · intro e he
    simp only [storeWith, List.mem_cons, List.not_mem_nil, or_false] at he
    rcases he with rfl | rfl
    · exact ⟨0, entryGeneration_zero⟩
    · exact ⟨1, hnumber⟩
  · simp [storeWith, entryNumber, entryGeneration_zero, hnumber]

theorem storeWith_holds (hv : a.Valid) (hok : ReplayOk config initial zeroHash a) :
    (storeWith a).Holds config initial [(a.directory, a)] a.state a.event.eventSha256 ∧
      ((storeWith a).generations.map entryNumber).Nodup := by
  obtain ⟨hfiles, hregular, hnumbers⟩ := storeWith_files hv hok.generation
  refine ⟨⟨initial_holds, .commit .start hok hv.event, by simp, by simpa using hv, rfl, rfl,
    ?_, hregular⟩, by rw [hnumbers]; decide⟩
  intro c hc
  rw [List.mem_singleton.mp hc]
  exact hfiles

end Paic.Recovery.Sample
