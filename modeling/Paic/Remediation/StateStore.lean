import Paic.Lib.Prog
import Paic.Remediation.Artifact

/-!
# The control-state store

A store directory holds one lineage of control states: a generation is a
directory with a state artifact and the receipt that led to it, and
`current.json` names the one that counts. Its operations are programs of
file-system steps under two locks, the store's and the approval ledger's.
What a crash leaves behind in a private prepared directory is never read, so
that an artifact is written there in one step.
-/

namespace Paic.Remediation

open Checks (raiseIf need)
open Prog (touch modify read op await ofExcept)

-- ---------------------------------------------------------------------------
-- The store on disk
-- ---------------------------------------------------------------------------

/-- A generation's directory, with its two artifacts. -/
structure Generation (T : Type) where
  state : Option (Directory T)
  execution : Option (Directory T)

/-- An entry of `generations`. -/
inductive Entry (T : Type) where
  | directory (g : Generation T)
  | other

/-- A JSON file and the `.tmp` file next to it. -/
structure JsonFile (T : Type) where
  file : Option T
  staged : Option T

/-- The store's directory. `prepared` holds its `.prepare-*` directories by
what tells their names apart. -/
structure StateStore (T : Type) where
  storeJson : JsonFile T
  currentJson : JsonFile T
  generations : List (String × Entry T)
  prepared : List (Nat × Generation T)

/-- What the programs share: the store, the decisions file and the locks. -/
structure World (T : Type) where
  store : StateStore T
  ledger : ApprovalLedger T
  stateLock : Bool
  approvalLock : Bool

namespace World

def storePart : Prog.Part (World T) (StateStore T) where
  get w := w.store
  put w s := { w with store := s }
  get_put _ _ := rfl
  put_get _ := rfl
  put_put _ _ _ := rfl

/-- The world of a later call: the locks of earlier processes are free, and
the decisions are others. -/
def later (w : World T) (ledger : ApprovalLedger T) : World T :=
  { w with ledger, stateLock := false, approvalLock := false }

end World

/-- `with _lock(self.lock_path)` -/
def withStateLock (p : Prog Error (World T) α) : Prog Error (World T) α := do
  await (fun w => !w.stateLock) fun w => { w with stateLock := true }
  p.ensuring (modify fun w => { w with stateLock := false })

/-- `with approval_ledger.locked()` -/
def withApprovalLock (p : Prog Error (World T) α) : Prog Error (World T) α := do
  await (fun w => !w.approvalLock) fun w => { w with approvalLock := true }
  p.ensuring (modify fun w => { w with approvalLock := false })

/-- `_ensure_regular_root` on a store that is a directory. -/
def ensureRegularRoot : Prog Error (World T) Unit := touch

namespace StateStore

/-- A new directory. -/
def empty : StateStore T := ⟨⟨none, none⟩, ⟨none, none⟩, [], []⟩

def storeJsonPart : Prog.Part (StateStore T) (JsonFile T) where
  get s := s.storeJson
  put s f := { s with storeJson := f }
  get_put _ _ := rfl
  put_get _ := rfl
  put_put _ _ _ := rfl

def currentJsonPart : Prog.Part (StateStore T) (JsonFile T) where
  get s := s.currentJson
  put s f := { s with currentJson := f }
  get_put _ _ := rfl
  put_get _ := rfl
  put_put _ _ _ := rfl

/-- `self.generations / name`, when it is a directory. -/
def generation (s : StateStore T) (name : String) : Option (Generation T) :=
  match s.generations.lookup name with
  | some (.directory g) => some g
  | _ => none

def stateDir (s : StateStore T) (name : String) : Option (Directory T) :=
  (s.generation name).bind Generation.state

def executionDir (s : StateStore T) (name : String) : Option (Directory T) :=
  (s.generation name).bind Generation.execution

/-- Everything in `generations` but the entry of that name. -/
def without (s : StateStore T) (name : String) : List (String × Entry T) :=
  s.generations.filter (·.1 ≠ name)

-- ---------------------------------------------------------------------------
-- Prepared directories
-- ---------------------------------------------------------------------------

/-- `tempfile.mkdtemp(prefix=".prepare-", dir=self.root)`: the name is new. -/
def mkdtemp (s : StateStore T) : Nat × StateStore T :=
  let key := (s.prepared.map Prod.fst).foldr max 0 + 1
  (key, { s with prepared := (key, ⟨none, none⟩) :: s.prepared })

def preparedDir (s : StateStore T) (key : Nat) : Option (Generation T) := s.prepared.lookup key

def setPrepared (s : StateStore T) (key : Nat) (g : Generation T) : StateStore T :=
  { s with prepared := (key, g) :: s.prepared.filter (·.1 ≠ key) }

/-- `if staged.exists(): shutil.rmtree(staged)` -/
def discard (s : StateStore T) (key : Nat) : StateStore T :=
  { s with prepared := s.prepared.filter (·.1 ≠ key) }

/-- `os.replace(staged, self.generations / name)` -/
def replaceGeneration (s : StateStore T) (key : Nat) (name : String) :
    Except Error (Unit × StateStore T) := do
  let g ← need (s.preparedDir key) .osError
  raiseIf ((s.generations.lookup name).isSome = true) .osError
  pure ((), { s.discard key with generations := s.generations ++ [(name, .directory g)] })

end StateStore

-- ---------------------------------------------------------------------------
-- JSON files
-- ---------------------------------------------------------------------------

section
variable {T : Type} [RemediationText T]

/-- What follows when the directory cannot be synced. Replacement was the
commit point: a successful reread is a success. -/
def confirmReplaced (value : Json) (e : Error) : Prog Error (JsonFile T) Unit :=
  let failure := Error.stateStoreError "cannot durably publish state-store pointer"
  if e.isOSError then do
    let reread ← (read fun f => need (f.file.bind FileText.loads) .valueError).attempt
    match reread with
    | .ok found => ofExcept (raiseIf (found ≠ value) failure)
    | .error e => .raise (if e.isOSError ∨ e = .valueError then failure else e)
  else .raise e

/-- `_write_json_atomic`. The file that `open` has created stays when a later
step fails. -/
def writeJsonAtomic (value : Json) : Prog Error (JsonFile T) Unit := do
  op fun f => match f.staged with
    | some _ => .error .fileExistsError
    | none => .ok ((), { f with staged := some FileText.empty })
  modify fun f => { f with staged := f.staged.map fun _ => FileText.json value }
  touch
  op fun f => match f.staged with
    | some text => .ok ((), { file := some text, staged := none })
    | none => .error .osError
  touch.handle (confirmReplaced value)

/-- `_read_json`: the fields of the object. -/
def readJson (file : Option T) : Except Error (List (String × Json)) :=
  match file.bind FileText.loads with
  | some (.obj fields) => .ok fields
  | _ => .error (.stateStoreError "control-state store metadata is invalid")

/-- The content of `store.json`. -/
def storeMeta (originManifestSha256 : String) (state : ControlState) : Json :=
  .obj [("incident_id", .str state.incidentId),
    ("origin_manifest_sha256", .str originManifestSha256), ("schema_version", .str "1.0"),
    ("state_id", .str state.stateId)]

/-- The content of `current.json`. -/
structure Pointer where
  generation : Nat
  directory : String
  receiptSha256 : Option String
  deriving DecidableEq, Repr

def Pointer.fields (p : Pointer) : List (String × Json) :=
  [("directory", .str p.directory), ("generation", .int p.generation),
    ("receipt_sha256", .opt .str p.receiptSha256)]

def Pointer.json (p : Pointer) : Json := .obj p.fields

/-- The pointer to the generation a receipt leads to. -/
def Pointer.ofReceipt (generation : Nat) (receipt : ExecutionReceipt) : Pointer :=
  { generation
    directory := generationName generation receipt.receiptSha256
    receiptSha256 := some receipt.receiptSha256 }

/-- What `isinstance(value, int)` accepts. -/
def readInt : Json → Option Int
  | .int n => some n
  | .bool b => some (if b then 1 else 0)
  | _ => none

def readStr : Json → Option String
  | .str s => some s
  | _ => none

def readOptStr : Json → Option (Option String)
  | .null => some none
  | .str s => some (some s)
  | _ => none

/-- The first check of `_current`. -/
def readPointer (fields : List (String × Json)) : Except Error Pointer := do
  let invalid := Error.stateStoreError "control-state store pointer is invalid"
  let get := (Json.obj fields).get?
  raiseIf (¬ sameNames (fields.map Prod.fst) ["generation", "directory", "receipt_sha256"]) invalid
  let directory ← need ((get "directory").bind readStr) invalid
  let generation ← need ((get "generation").bind readInt) invalid
  raiseIf (generation < 0) invalid
  let receiptSha256 ← need ((get "receipt_sha256").bind readOptStr) invalid
  pure { generation := generation.toNat, directory, receiptSha256 }

/-- The second check of `_current`. A directory of these forms has no
separators. -/
def Pointer.Safe (p : Pointer) : Prop :=
  (p.generation = 0 → p.directory = zeroPadded 0 ∧ p.receiptSha256 = none) ∧
  (0 < p.generation → namesGeneration p.generation p.directory = true ∧ p.receiptSha256 ≠ none)

instance (p : Pointer) : Decidable p.Safe := by unfold Pointer.Safe; infer_instance

/-- `_current`: the pointer, whose directory is there. -/
def StateStore.current (s : StateStore T) : Except Error Pointer := do
  raiseIf (s.storeJson.file.isNone = true ∨ s.currentJson.file.isNone = true)
    (.stateStoreError "control-state store is not initialized")
  let fields ← readJson s.currentJson.file
  let pointer ← readPointer fields
  raiseIf (¬ pointer.Safe) (.stateStoreError "control-state store pointer is unsafe")
  raiseIf ((s.generation pointer.directory).isNone = true)
    (.stateStoreError "current control-state generation is missing")
  pure pointer

def invalidEntry : Error :=
  .stateStoreError "control-state store contains an invalid generation entry"

/-- The generation an entry of `generations` is named after. -/
def entryGeneration (name : String) : Except Error Nat :=
  if name = initialName then pure 0
  else do
    let generation ← need (readGeneration name) invalidEntry
    raiseIf (generation = 0) invalidEntry
    pure generation

def Entry.isDirectory : Entry T → Bool
  | .directory _ => true
  | .other => false

/-- One pass of the loop of `_generation_roots`. -/
def addRoot (roots : List (Nat × String)) (entry : String × Entry T) :
    Except Error (List (Nat × String)) :=
  if ".prepare-".toList.isPrefixOf entry.1.toList then .ok roots
  else do
    raiseIf (entry.2.isDirectory = false) invalidEntry
    let generation ← entryGeneration entry.1
    raiseIf (generation ∈ roots.map Prod.fst)
      (.stateStoreError "control-state store contains duplicate generations")
    pure (roots ++ [(generation, entry.1)])

/-- `_generation_roots` -/
def StateStore.generationRoots (s : StateStore T) : Except Error (List (Nat × String)) :=
  Checks.loop addRoot [] s.generations

/-- `current_state_dir`: its path, by the name of the generation. -/
def currentStateDir : Prog Error (World T) String := do
  ensureRegularRoot
  withStateLock (read fun w => w.store.current.map Pointer.directory)

-- ---------------------------------------------------------------------------
-- Initialization
-- ---------------------------------------------------------------------------

variable [Hashing]

/-- The rest of `initialize`, once the copy in the prepared directory is the
artifact it was copied from. -/
def publishInitial (key : Nat) (originManifestSha256 : String) (state : ControlState) :
    Prog Error (StateStore T) Unit := do
  op fun s => s.replaceGeneration key (zeroPadded 0)
  touch
  (writeJsonAtomic (storeMeta originManifestSha256 state)).within StateStore.storeJsonPart
  (writeJsonAtomic (Pointer.json ⟨0, zeroPadded 0, none⟩)).within StateStore.currentJsonPart

/-- `initialize` under the lock. -/
def initializeStore (initial : Option (Directory T)) (loaded : LoadedControlState)
    (sourceManifest : String) : Prog Error (StateStore T) Unit := do
  let bound ← read fun s => .ok s.storeJson.file
  if bound.isSome = true then
    ofExcept do
      let fields ← readJson bound
      raiseIf ((Json.obj fields).get? "origin_manifest_sha256" ≠ some (.str sourceManifest))
        (.stateStoreError "state store is bound to another initial state")
  else
    let orphan ← read fun s => .ok (s.generations.lookup (zeroPadded 0))
    ofExcept (raiseIf (orphan.isSome = true)
      (.stateStoreError "state store contains an orphan initial generation"))
    let key ← op fun s => .ok s.mkdtemp
    Prog.handle (do
      modify fun s => s.setPrepared key ⟨initial, none⟩
      let copied ← read fun s => loadControlState ((s.preparedDir key).bind Generation.state)
      ofExcept (raiseIf (copied.state ≠ loaded.state)
        (.stateStoreError "copied initial state differs from source"))
      publishInitial key sourceManifest loaded.state)
      fun e => do
        modify fun s => s.discard key
        .raise e

/-- `initialize`. -/
def initializeFrom (initial : Option (Directory T)) : Prog Error (World T) Unit := do
  let loaded ← ofExcept (loadControlState initial)
  let sourceManifest ← ofExcept (manifestSha256 initial)
  ensureRegularRoot
  withStateLock ((initializeStore initial loaded sourceManifest).within World.storePart)

-- ---------------------------------------------------------------------------
-- Execution
-- ---------------------------------------------------------------------------

/-- The arguments of `execute`, and the environment it runs in. -/
structure ExecuteCall where
  environ : Environ
  plan : RemediationPlan
  config : RemediationConfig
  request : ExecutionRequest
  token : String
  secret : Bytes

/-- What `execute` knows of the current generation. -/
structure BeforeState where
  pointer : Pointer
  loaded : LoadedControlState
  manifestSha256 : String

/-- The first part of `execute` under the lock, which only reads. -/
def StateStore.before (s : StateStore T) (plan : RemediationPlan) : Except Error BeforeState := do
  let pointer ← s.current
  let beforeDir := s.stateDir pointer.directory
  let loaded ← loadControlState beforeDir
  let beforeManifest ← manifestSha256 beforeDir
  let fields ← readJson s.storeJson.file
  raiseIf ((Json.obj fields).get? "incident_id" ≠ some (.str loaded.state.incidentId))
    (.stateStoreError "current state does not match store identity")
  raiseIf (plan.planSha256 ∈ loaded.state.executedPlanHashes)
    (.executionError "remediation plan has already executed against this state lineage")
  raiseIf (beforeManifest ≠ plan.controlStateManifestSha256 ∧ pointer.generation = 0)
    (.stateStoreError "plan is bound to a different initial state")
  raiseIf (loaded.state.generation ≠ pointer.generation)
    (.stateStoreError "state generation does not match current pointer")
  pure { pointer, loaded, manifestSha256 := beforeManifest }

def emptied (name : String) (entry : String × Entry T) : String × Entry T :=
  if entry.1 = name then (name, .directory ⟨none, none⟩) else entry

/-- `shutil.rmtree(destination)`: the content goes before the directory. -/
def removeGeneration (name : String) : Prog Error (StateStore T) Unit := do
  modify fun s => { s with generations := s.generations.map (emptied name) }
  modify fun s => { s with generations := s.without name }

/-- What `execute` does with a destination that is already there. -/
def clearDestination (pointer next : Pointer) : Prog Error (StateStore T) Unit := do
  let found ← read fun s => .ok (s.generations.lookup next.directory)
  match found with
  | none => pure ()
  | some entry =>
    if pointer.generation < next.generation ∧ entry.isDirectory = true then
      removeGeneration next.directory
    else .raise (.stateStoreError "target generation already exists")

/-- The staged transaction, up to the new pointer. -/
def stageAndCommit (key : Nat) (plan : RemediationPlan) (before : BeforeState)
    (after : ControlState) (receipt : ExecutionReceipt) (next : Pointer) :
    Prog Error (StateStore T) Unit := do
  op fun s => do
    let stateRoot ← exportControlState after
    pure ((), s.setPrepared key ⟨some stateRoot, none⟩)
  op fun s => do
    let receiptRoot ← exportExecution receipt
    pure ((), s.setPrepared key ⟨(s.preparedDir key).bind Generation.state, some receiptRoot⟩)
  let issues ← read fun s =>
    validateExecution ((s.preparedDir key).bind Generation.execution) none
      (some (s.stateDir before.pointer.directory))
      (some ((s.preparedDir key).bind Generation.state))
  ofExcept (raiseIf (issues ≠ []) (.stateStoreError "prepared transaction does not validate"))
  ofExcept (verifyExecutionTransition plan before.loaded.state after receipt)
  op fun s => s.replaceGeneration key next.directory
  touch
  (writeJsonAtomic next.json).within StateStore.currentJsonPart

/-- The last part of `execute`, once the approval lock is free again. -/
def publishTransaction (plan : RemediationPlan) (before : BeforeState) (after : ControlState)
    (receipt : ExecutionReceipt) : Prog Error (StateStore T) (String × ExecutionReceipt) := do
  let next := Pointer.ofReceipt (before.loaded.state.generation + 1) receipt
  clearDestination before.pointer next
  let key ← op fun s => .ok s.mkdtemp
  (stageAndCommit key plan before after receipt next).handle fun e => do
    modify fun s => s.discard key
    .raise e
  pure (next.directory, receipt)

variable [TokenFormat]

/-- The evaluation and the execution, under the approval lock. -/
def authorized (call : ExecuteCall) (before : BeforeState) (ledger : ApprovalLedger T) :
    Except Error (ControlState × ExecutionReceipt) := do
  let status ← evaluateApproval call.environ call.plan ledger call.config call.request.executedAt
  executePlan call.plan before.loaded.state status call.config call.request call.token call.secret
    before.manifestSha256

def execute (call : ExecuteCall) : Prog Error (World T) (String × ExecutionReceipt) := do
  ensureRegularRoot
  withStateLock do
    let before ← read fun w => w.store.before call.plan
    let (after, receipt) ← withApprovalLock (read fun w => authorized call before w.ledger)
    (publishTransaction call.plan before after receipt).within World.storePart

omit [TokenFormat]

-- ---------------------------------------------------------------------------
-- Validation
-- ---------------------------------------------------------------------------

/-- The checks of `validate` on the receipt of the current generation. -/
def checkReceipt (s : StateStore T) (pointer : Pointer) (loaded : LoadedControlState) :
    Except Error Unit :=
  match pointer.receiptSha256 with
  | none => .ok ()
  | some receiptSha256 => do
    let execution ← loadExecution (s.executionDir pointer.directory)
    raiseIf (execution.receipt.receiptSha256 ≠ receiptSha256)
      (.stateStoreError "current receipt does not match pointer")
    raiseIf (execution.receipt.afterStatePayloadSha256 ≠ digest loaded.state.modelDump)
      (.stateStoreError "current receipt does not bind the current state")

/-- `validate` under the lock, which only reads. -/
def StateStore.check (s : StateStore T) : Except Error Unit := do
  let pointer ← s.current
  let roots ← s.generationRoots
  let committed := roots.filter (·.1 ≤ pointer.generation)
  let numbers := committed.map Prod.fst
  raiseIf (committed.lookup pointer.generation ≠ some pointer.directory ∨
      ¬ (numbers ⊆ List.range (pointer.generation + 1) ∧
        List.range (pointer.generation + 1) ⊆ numbers))
    (.stateStoreError "control-state store generations are not contiguous")
  let loaded ← loadControlState (s.stateDir pointer.directory)
  raiseIf (loaded.state.generation ≠ pointer.generation)
    (.stateStoreError "current state generation does not match pointer")
  checkReceipt s pointer loaded

def validate : Prog Error (World T) (List String) :=
  Prog.handle (do
    ensureRegularRoot
    withStateLock (read fun w => w.store.check)
    pure [])
    fun
      | .stateStoreError message => pure [message]
      | .artifactError message => pure [message]
      | e => .raise e

end

end Paic.Remediation
