import Paic.Lib.Prog
import Paic.Recovery.Lifecycle
import Paic.Remediation.StateStore

/-!
# The recovery-state store

A store directory holds one lifecycle: generation 0 with the initial state and
the policy, a generation for every report, and `current.json`, which names the
last one. Reading the current state replays all of them. The operations are
programs of file-system steps under one lock.
-/

namespace Paic.Recovery

open Checks (raiseIf need)
open Prog (touch modify read op await ofExcept)
open Remediation (JsonFile readInt readStr readOptStr sameNames)

-- ---------------------------------------------------------------------------
-- The store on disk
-- ---------------------------------------------------------------------------

/-- An entry of a generation's directory: a regular file, or something else
with what reading it gives. -/
inductive FileEntry (T : Type) where
  | file (text : T)
  | other (text : Option T)

def FileEntry.text : FileEntry T → Option T
  | .file t => some t
  | .other t => t

def FileEntry.isFile : FileEntry T → Bool
  | .file _ => true
  | .other _ => false

/-- The files of a generation, by name. -/
abbrev Files (T : Type) := List (String × FileEntry T)

/-- `(root / name).read_text()` -/
def Files.readText (files : Files T) (name : String) : Except Error T :=
  need ((files.lookup name).bind FileEntry.text) .osError

/-- An entry of `generations`. -/
inductive Entry (T : Type) where
  | directory (files : Files T)
  | other

def Entry.isDirectory : Entry T → Bool
  | .directory _ => true
  | .other => false

/-- The store's directory. `prepared` holds its `.prepare-*` directories by
what tells their names apart. -/
structure StateStore (T : Type) where
  currentJson : JsonFile T
  generations : List (String × Entry T)
  prepared : List (Nat × Files T)

structure World (T : Type) where
  store : StateStore T
  lock : Bool

namespace World

def storePart : Prog.Part (World T) (StateStore T) where
  get w := w.store
  put w s := { w with store := s }
  get_put _ _ := rfl
  put_get _ := rfl
  put_put _ _ _ := rfl

/-- The world of a later call: the lock of an earlier process is free. -/
def later (w : World T) : World T := { w with lock := false }

end World

/-- `with _lock(self.lock_path)` -/
def withLock (p : Prog Error (World T) α) : Prog Error (World T) α := do
  await (fun w => !w.lock) fun w => { w with lock := true }
  p.ensuring (modify fun w => { w with lock := false })

/-- `_ensure_root` on a store that is a directory. -/
def ensureRoot : Prog Error (World T) Unit := touch

namespace StateStore

def empty : StateStore T := ⟨⟨none, none⟩, [], []⟩

def currentJsonPart : Prog.Part (StateStore T) (JsonFile T) where
  get s := s.currentJson
  put s f := { s with currentJson := f }
  get_put _ _ := rfl
  put_get _ := rfl
  put_put _ _ _ := rfl

/-- `self.generations / name`, when it is a directory. -/
def generation (s : StateStore T) (name : String) : Option (Files T) :=
  match s.generations.lookup name with
  | some (.directory files) => some files
  | _ => none

/-- Everything in `generations` but the entry of that name. -/
def without (s : StateStore T) (name : String) : List (String × Entry T) :=
  s.generations.filter (·.1 ≠ name)

/-- `tempfile.mkdtemp(prefix=".prepare-", dir=self.root)`: the name is new. -/
def mkdtemp (s : StateStore T) : Nat × StateStore T :=
  let key := (s.prepared.map Prod.fst).foldr max 0 + 1
  (key, { s with prepared := (key, []) :: s.prepared })

def preparedFiles (s : StateStore T) (key : Nat) : Option (Files T) := s.prepared.lookup key

def setPrepared (s : StateStore T) (key : Nat) (files : Files T) : StateStore T :=
  { s with prepared := (key, files) :: s.prepared.filter (·.1 ≠ key) }

/-- `if staged.exists(): shutil.rmtree(staged)` -/
def discard (s : StateStore T) (key : Nat) : StateStore T :=
  { s with prepared := s.prepared.filter (·.1 ≠ key) }

/-- `_write_durable(staged / name, text)`: the file is new. -/
def writeDurable (s : StateStore T) (key : Nat) (name : String) (text : T) :
    Except Error (Unit × StateStore T) := do
  let files ← need (s.preparedFiles key) .osError
  raiseIf ((files.lookup name).isSome = true) .osError
  pure ((), s.setPrepared key (files ++ [(name, .file text)]))

/-- `os.replace(staged, self.generations / name)` -/
def replaceGeneration (s : StateStore T) (key : Nat) (name : String) :
    Except Error (Unit × StateStore T) := do
  let files ← need (s.preparedFiles key) .osError
  raiseIf ((s.generations.lookup name).isSome = true) .osError
  pure ((), { s.discard key with generations := s.generations ++ [(name, .directory files)] })

end StateStore

def emptied (name : String) (entry : String × Entry T) : String × Entry T :=
  if entry.1 = name then (name, .directory []) else entry

/-- `shutil.rmtree(destination)`: the content goes before the directory. -/
def removeGeneration (name : String) : Prog Error (StateStore T) Unit := do
  modify fun s => { s with generations := s.generations.map (emptied name) }
  modify fun s => { s with generations := s.without name }

/-- What the store's files hold. -/
class RecoveryText (T : Type) extends FileText T where
  configs : TextCodec T RecoveryConfig
  reports : TextCodec T RecoveryReport
  states : TextCodec T RecoveryLifecycleState
  events : TextCodec T RecoveryLifecycleEvent

attribute [reducible, instance] RecoveryText.configs RecoveryText.reports RecoveryText.states
  RecoveryText.events

section
variable {T : Type} [RecoveryText T]

/-- `M.model_validate_json((root / name).read_text())` -/
def Files.load [Model α] [TextCodec T α] (files : Files T) (name : String) : Except Error α := do
  let text ← files.readText name
  need (TextCodec.load text) .valueError

-- ---------------------------------------------------------------------------
-- The pointer
-- ---------------------------------------------------------------------------

/-- The content of `current.json`. -/
structure Pointer where
  generation : Nat
  directory : String
  eventSha256 : Option String
  deriving DecidableEq, Repr

def Pointer.fields (p : Pointer) : List (String × Json) :=
  [("directory", .str p.directory), ("event_sha256", .opt .str p.eventSha256),
    ("generation", .int p.generation)]

def Pointer.json (p : Pointer) : Json := .obj p.fields

def Pointer.initial : Pointer := ⟨0, zeroPadded 0, none⟩

/-- The pointer to the generation of an event. -/
def Pointer.ofEvent (generation : Nat) (event : RecoveryLifecycleEvent) : Pointer :=
  { generation
    directory := generationName generation event.eventSha256
    eventSha256 := some event.eventSha256 }

def Pointer.Safe (p : Pointer) : Prop :=
  (p.generation = 0 → p.directory = zeroPadded 0 ∧ p.eventSha256 = none) ∧
  (0 < p.generation → namesGeneration p.generation p.directory = true ∧ p.eventSha256 ≠ none)

instance (p : Pointer) : Decidable p.Safe := by unfold Pointer.Safe; infer_instance

def unsafePointer : Error := .recoveryStateStoreError "recovery-state pointer is unsafe"

/-- The checks of `_read_pointer` on the fields of the object. -/
def readPointerFields (fields : List (String × Json)) : Except Error Pointer := do
  let invalid := Error.recoveryStateStoreError "recovery-state pointer is invalid"
  let get := (Json.obj fields).get?
  raiseIf (¬ sameNames (fields.map Prod.fst) ["generation", "directory", "event_sha256"]) invalid
  let generation ← need ((get "generation").bind readInt) invalid
  raiseIf (generation < 0) invalid
  let directory ← need ((get "directory").bind readStr) invalid
  let eventSha256 ← need ((get "event_sha256").bind readOptStr) unsafePointer
  let pointer := { generation := generation.toNat, directory, eventSha256 }
  raiseIf (¬ Pointer.Safe pointer) unsafePointer
  pure pointer

/-- `_read_pointer` -/
def readPointer (file : Option T) : Except Error Pointer :=
  match file.bind FileText.loads with
  | some (.obj fields) => readPointerFields fields
  | _ => .error (.recoveryStateStoreError "recovery-state pointer is invalid")

/-- What follows when the directory cannot be synced. Replacement was the
commit point: a successful reread is a success. -/
def confirmReplaced (value : Json) (e : Error) : Prog Error (JsonFile T) Unit :=
  let failure := Error.recoveryStateStoreError "cannot durably publish recovery-state pointer"
  if e = .osError then do
    let reread ← (read fun f => need (f.file.bind FileText.loads) .valueError).attempt
    match reread with
    | .ok found => ofExcept (raiseIf (found ≠ value) failure)
    | .error e => .raise (if e = .osError ∨ e = .valueError then failure else e)
  else .raise e

/-- `_atomic_json`. A `.tmp` file that is still there goes first. -/
def atomicJson (value : Json) : Prog Error (JsonFile T) Unit := do
  let staged ← read fun f => .ok f.staged
  if staged.isSome = true then modify fun f => { f with staged := none }
  op fun f => match f.staged with
    | some _ => .error .osError
    | none => .ok ((), { f with staged := some FileText.empty })
  modify fun f => { f with staged := f.staged.map fun _ => FileText.json value }
  touch
  op fun f => match f.staged with
    | some text => .ok ((), { file := some text, staged := none })
    | none => .error .osError
  touch.handle (confirmReplaced value)

-- ---------------------------------------------------------------------------
-- Reading the lineage
-- ---------------------------------------------------------------------------

/-- The current state, its event and its generation. -/
structure Current where
  pointer : Pointer
  state : RecoveryLifecycleState
  event : Option RecoveryLifecycleEvent

/-- What a failed read of the current generation becomes. -/
def currentInvalid (x : Except Error α) : Except Error α :=
  match x with
  | .error .osError | .error .valueError =>
    .error (.recoveryStateStoreError "current recovery-state generation is invalid")
  | x => x

/-- `_load_current_basic` -/
def StateStore.loadCurrentBasic (s : StateStore T) : Except Error Current := do
  raiseIf (s.currentJson.file.isNone = true)
    (.recoveryStateStoreError "recovery-state store is not initialized")
  let pointer ← readPointer s.currentJson.file
  let files ← need (s.generation pointer.directory)
    (.recoveryStateStoreError "current recovery-state generation is missing")
  let state : RecoveryLifecycleState ← currentInvalid (files.load "state.json")
  let event : Option RecoveryLifecycleEvent ← currentInvalid
    (if 0 < pointer.generation then (files.load "event.json").map some else pure none)
  raiseIf (state.generation ≠ pointer.generation)
    (.recoveryStateStoreError "recovery-state generation does not match pointer")
  raiseIf (∃ e ∈ event, some e.eventSha256 ≠ pointer.eventSha256)
    (.recoveryStateStoreError "recovery-state event does not match pointer")
  pure { pointer, state, event }

def invalidEntry : Error := .recoveryStateStoreError "recovery-state store contains an invalid entry"

/-- The generation an entry of `generations` is named after. -/
def entryGeneration (name : String) : Except Error Nat :=
  if name = initialName then pure 0 else need (readGeneration name) invalidEntry

/-- One pass of the loop over `generations`. -/
def addRoot (roots : List (Nat × String)) (entry : String × Entry T) :
    Except Error (List (Nat × String)) :=
  if ".prepare-".toList.isPrefixOf entry.1.toList then .ok roots
  else do
    raiseIf (entry.2.isDirectory = false) invalidEntry
    let generation ← entryGeneration entry.1
    raiseIf (generation ∈ roots.map Prod.fst)
      (.recoveryStateStoreError "recovery-state store contains duplicate generations")
    pure (roots ++ [(generation, entry.1)])

/-- What the replay carries from one generation to the next. -/
structure Replay where
  previousEventSha256 : String
  previousState : Option RecoveryLifecycleState
  storedConfig : Option RecoveryConfig

def Replay.start : Replay := ⟨zeroHash, none, none⟩

variable [Hashing]

/-- The checks on an event before the transition is replayed. -/
def checkEvent (previousEventSha256 : String) (previous state : RecoveryLifecycleState)
    (report : RecoveryReport) (event : RecoveryLifecycleEvent) : Except Error Unit := do
  raiseIf (event.eventSha256 ≠ digest (.obj event.unsigned))
    (.recoveryStateStoreError "recovery lifecycle event hash mismatch")
  raiseIf (event.previousEventSha256 ≠ previousEventSha256)
    (.recoveryStateStoreError "recovery lifecycle event chain is broken")
  raiseIf (event.fromStatus ≠ previous.status ∨ event.toStatus ≠ state.status)
    (.recoveryStateStoreError "recovery lifecycle event transition is inconsistent")
  raiseIf (event.recoveryId ≠ state.recoveryId ∨ event.incidentId ≠ state.incidentId ∨
      event.configSha256 ≠ state.configSha256 ∨ event.reportSha256 ≠ report.reportSha256 ∨
      event.beforeStateSha256 ≠ digest previous.modelDump ∨
      event.afterStateSha256 ≠ digest state.modelDump)
    (.recoveryStateStoreError "recovery lifecycle event bindings are inconsistent")

/-- `==` of two states: datetimes compare by their instants. -/
def RecoveryLifecycleState.Same (a b : RecoveryLifecycleState) : Prop :=
  { a with lastEvaluatedAt := none } = { b with lastEvaluatedAt := none } ∧
    a.lastEvaluatedAt.map Datetime.instant = b.lastEvaluatedAt.map Datetime.instant

instance (a b : RecoveryLifecycleState) : Decidable (a.Same b) := by
  unfold RecoveryLifecycleState.Same; infer_instance

/-- The files of the initial generation. -/
def replayInitial (files : Files T) (state : RecoveryLifecycleState) : Except Error Replay := do
  let config : RecoveryConfig ← files.load "recovery.config.resolved.json"
  raiseIf (config.digest ≠ state.configSha256 ∨ config.recoveryId ≠ state.recoveryId ∨
      config.incidentId ≠ state.incidentId)
    (.recoveryStateStoreError "initial recovery policy binding is inconsistent")
  pure ⟨zeroHash, some state, some config⟩

/-- The files of a generation that a report led to. -/
def replayReport (files : Files T) (walk : Replay) (state : RecoveryLifecycleState) :
    Except Error Replay := do
  let noPolicy := Error.recoveryStateStoreError "recovery lifecycle has no initial policy"
  let previous ← need walk.previousState noPolicy
  let config ← need walk.storedConfig noPolicy
  let report : RecoveryReport ← files.load "report.json"
  verifyReport report
  let event : RecoveryLifecycleEvent ← files.load "event.json"
  checkEvent walk.previousEventSha256 previous state report event
  let (recomputed, trigger) ← transitionState previous report config
  raiseIf (¬ recomputed.Same state ∨ trigger ≠ event.trigger)
    (.recoveryStateStoreError "recovery lifecycle transition does not match semantic replay")
  pure ⟨event.eventSha256, some state, some config⟩

def expectedFiles (generation : Nat) : List String :=
  if generation = 0 then ["state.json", "recovery.config.resolved.json"]
  else ["state.json", "event.json", "report.json"]

/-- One pass of the loop over the committed generations. -/
def replayGeneration (s : StateStore T) (committed : List (Nat × String)) (walk : Replay)
    (generation : Nat) : Except Error Replay := do
  let name ← need (committed.lookup generation) .valueError
  let files ← need (s.generation name) .osError
  raiseIf (¬ sameNames (files.map Prod.fst) (expectedFiles generation) ∨
      ∃ f ∈ files, f.2.isFile = false)
    (.recoveryStateStoreError "recovery-state generation contains missing or undeclared paths")
  let state : RecoveryLifecycleState ← files.load "state.json"
  raiseIf (state.generation ≠ generation)
    (.recoveryStateStoreError "stored recovery generation is inconsistent")
  if generation = 0 then replayInitial files state else replayReport files walk state

/-- The body of `_validate_lineage_locked`. -/
def StateStore.replayLineage (s : StateStore T) : Except Error Unit := do
  let current ← s.loadCurrentBasic
  let roots ← Checks.loop addRoot [] s.generations
  let committed := roots.filter (·.1 ≤ current.state.generation)
  let numbers := committed.map Prod.fst
  raiseIf (¬ (numbers ⊆ List.range (current.state.generation + 1) ∧
        List.range (current.state.generation + 1) ⊆ numbers) ∨
      committed.lookup current.state.generation ≠ some current.pointer.directory)
    (.recoveryStateStoreError "recovery-state generations are not contiguous")
  let _ ← Checks.loop (replayGeneration s committed) .start
    (List.range (current.state.generation + 1))

/-- The issue an exception becomes. A `RecoveryEvaluationError` is not caught. -/
def caught (x : Except Error Unit) : Except Error (List String) :=
  match x with
  | .ok () => .ok []
  | .error (.recoveryEvaluationError m) => .error (.recoveryEvaluationError m)
  | .error e => .ok [e.message]

/-- `_validate_lineage_locked` -/
def StateStore.validateLineage (s : StateStore T) : Except Error (List String) :=
  caught s.replayLineage

/-- `_current` -/
def StateStore.current (s : StateStore T) : Except Error Current := do
  let current ← s.loadCurrentBasic
  match ← s.validateLineage with
  | [] => pure current
  | issue :: _ => .error (.recoveryStateStoreError issue)

/-- `current` -/
def currentState : Prog Error (World T) RecoveryLifecycleState := do
  ensureRoot
  withLock (read fun w => w.store.current.map Current.state)

/-- `validate` -/
def validate : Prog Error (World T) (List String) :=
  Prog.handle (do
    ensureRoot
    withLock (read fun w => w.store.validateLineage))
    fun
      | .recoveryEvaluationError m => .raise (.recoveryEvaluationError m)
      | e => pure [e.message]

-- ---------------------------------------------------------------------------
-- Initialization
-- ---------------------------------------------------------------------------

/-- `initialize` under the lock. -/
def initializeStore (config : RecoveryConfig)
    (executionReceiptSha256 executionManifestSha256 : String) :
    Prog Error (StateStore T) RecoveryLifecycleState := do
  let bound ← read fun s => .ok s.currentJson.file
  if bound.isSome = true then
    let current ← read fun s => s.current
    ofExcept do
      raiseIf (current.state.incidentId ≠ config.incidentId ∨
          current.state.executionReceiptSha256 ≠ executionReceiptSha256 ∨
          current.state.executionManifestSha256 ≠ executionManifestSha256 ∨
          current.state.configSha256 ≠ config.digest)
        (.recoveryStateStoreError "recovery-state store is bound to another incident execution")
      pure current.state
  else
    let state := initialState config executionReceiptSha256 executionManifestSha256
    ofExcept (raiseIf (¬ Model.Valid state) .valueError)
    let orphan ← read fun s => .ok (s.generations.lookup (zeroPadded 0))
    ofExcept (raiseIf (orphan.isSome = true)
      (.recoveryStateStoreError "recovery-state store contains an orphan initial generation"))
    let key ← op fun s => .ok s.mkdtemp
    Prog.handle (do
      op fun s => s.writeDurable key "state.json" (TextCodec.dump state)
      op fun s => s.writeDurable key "recovery.config.resolved.json" (TextCodec.dump config)
      op fun s => s.replaceGeneration key (zeroPadded 0)
      touch
      (atomicJson Pointer.initial.json).within StateStore.currentJsonPart)
      fun e => do
        modify fun s => s.discard key
        .raise e
    pure state

/-- `initialize` -/
def initializeFrom (config : RecoveryConfig)
    (executionReceiptSha256 executionManifestSha256 : String) :
    Prog Error (World T) RecoveryLifecycleState := do
  ensureRoot
  withLock ((initializeStore config executionReceiptSha256 executionManifestSha256).within
    World.storePart)

-- ---------------------------------------------------------------------------
-- Application
-- ---------------------------------------------------------------------------

/-- What `apply` does with a destination that is already there. -/
def clearDestination (previous : RecoveryLifecycleState) (next : Pointer) :
    Prog Error (StateStore T) Unit := do
  let found ← read fun s => .ok (s.generations.lookup next.directory)
  match found with
  | none => pure ()
  | some entry =>
    if entry.isDirectory = true ∧ previous.generation < next.generation then
      removeGeneration next.directory
    else .raise (.recoveryStateStoreError "target recovery-state generation already exists")

/-- The staged generation, up to the new pointer. -/
def stageAndCommit (key : Nat) (applied : Applied) (next : Pointer) :
    Prog Error (StateStore T) Unit := do
  op fun s => s.writeDurable key "state.json" (TextCodec.dump applied.state)
  op fun s => s.writeDurable key "report.json" (TextCodec.dump applied.report)
  op fun s => s.writeDurable key "event.json" (TextCodec.dump applied.event)
  op fun s => s.replaceGeneration key next.directory
  touch
  (atomicJson next.json).within StateStore.currentJsonPart

/-- The last part of `apply`. -/
def publishReport (previous : RecoveryLifecycleState) (applied : Applied) :
    Prog Error (StateStore T) Unit := do
  let next := Pointer.ofEvent applied.state.generation applied.event
  clearDestination previous next
  let key ← op fun s => .ok s.mkdtemp
  (stageAndCommit key applied next).handle fun e => do
    modify fun s => s.discard key
    .raise e

/-- What a call reads and computes before it writes anything. -/
def StateStore.prepare (s : StateStore T) (report : RecoveryReport) (config : RecoveryConfig) :
    Except Error (RecoveryLifecycleState × Applied) := do
  let current ← s.current
  let previousEventSha256 := (current.event.map RecoveryLifecycleEvent.eventSha256).getD zeroHash
  let applied ← applyReport current.state previousEventSha256 report config
  pure (current.state, applied)

/-- `apply` -/
def apply (report : RecoveryReport) (config : RecoveryConfig) :
    Prog Error (World T) (RecoveryLifecycleState × RecoveryLifecycleEvent) := do
  ensureRoot
  withLock do
    let (previous, applied) ← read fun w => w.store.prepare report config
    (publishReport previous applied).within World.storePart
    pure (applied.state, applied.event)

end

end Paic.Recovery
