import Paic.Lib.Entries
import Paic.Lib.Prog

/-!
# Publishing a directory

`AtomicDirectoryPublisher` prepares a directory beside its target and puts
it in the target's place by one rename. Its methods are programs of
file-system steps on the parent directory and the publisher's own fields. An
assignment of what an operation returns belongs to the operation's step;
other looks at the fields count as steps, so that faults come there too.

The parent stays the same directory while the publisher runs: the checks of
its anchor fail only by a fault.
-/

namespace Paic.Artifacts

open Entries (without placed)
open Prog (op read modify touch)

-- ---------------------------------------------------------------------------
-- Directories
-- ---------------------------------------------------------------------------

inductive Leaf where
  | file (content : List UInt8)
  | symlink
  | other
  deriving DecidableEq, Repr

/-- What a directory holds, in the order of the names. -/
inductive Tree where
  | empty
  | leaf (name : String) (leaf : Leaf) (rest : Tree)
  | directory (name : String) (inside rest : Tree)
  deriving DecidableEq, Repr

inductive Node where
  | directory (tree : Tree)
  | leaf (leaf : Leaf)
  deriving DecidableEq, Repr

structure Entry where
  inode : Nat
  node : Node
  deriving DecidableEq, Repr

/-- What stands at one step of the way to the target. -/
inductive Ancestor where
  | missing
  | directory
  | symlink
  | other
  deriving DecidableEq, Repr

-- ---------------------------------------------------------------------------
-- The exceptions
-- ---------------------------------------------------------------------------

inductive Kind where
  | fileNotFound
  | fileExists
  | os
  | publication
  | lease
  | other
  deriving DecidableEq, Repr

/-- An `Exception`, with what `add_note` has put to it. -/
structure Failure where
  kind : Kind
  text : String
  notes : List String := []
  deriving DecidableEq, Repr

/-- `isinstance(exc, OSError)` -/
def Failure.isOs (e : Failure) : Bool :=
  match e.kind with
  | .fileNotFound | .fileExists | .os => true
  | .publication | .lease | .other => false

def Failure.addNote (e : Failure) (note : String) : Failure :=
  { e with notes := e.notes ++ [note] }

def publicationError (text : String) : Failure := { kind := .publication, text := text }

def attachCleanupError (target cleanupError : Failure) : Failure :=
  { target with notes := target.notes ++ cleanupError.text :: cleanupError.notes }

-- ---------------------------------------------------------------------------
-- The publisher and what it works on
-- ---------------------------------------------------------------------------

/-- What a publisher is made with. `target` is the path as it was given,
`parent` and `name` are the parts of `_root`. -/
structure Publisher where
  target : String
  parent : String
  name : String
  overwrite : Bool
  tokenHex : Nat → String

/-- The directories above the target, the entries of the last of them, and
the fields of the publisher. -/
structure World where
  ancestors : List Ancestor
  entries : List (String × Entry)
  nextInode : Nat
  draws : Nat := 0
  staging : Option String := none
  backup : Option String := none
  lockFd : Option Nat := none
  lockIdentity : Option Nat := none
  rollbackFailed : Bool := false
  committed : Bool := false
  durabilityConfirmed : Bool := false
  leased : Bool := false
  anchored : Bool := false
  deriving DecidableEq, Repr

structure PublicationResult where
  target : String
  committed : Bool
  durabilityConfirmed : Bool
  deriving DecidableEq, Repr

inductive PublicationPoint where
  | stagingCreated
  | payloadWritten
  | oldMoved
  | newCommitted
  | parentSynced
  deriving DecidableEq, Repr

def Publisher.lockName (p : Publisher) : String := "." ++ p.name ++ ".lock"

def Publisher.lockPath (p : Publisher) : String := p.parent ++ "/" ++ p.lockName

def Publisher.stagingName (p : Publisher) (draw : Nat) : String :=
  "." ++ p.name ++ ".staging-" ++ p.tokenHex draw

namespace World

def find (w : World) (name : String) : Option Entry := w.entries.lookup name

def put (w : World) (name : String) (entry : Entry) : World :=
  { w with entries := placed w.entries name entry }

def drop (w : World) (name : String) : World := { w with entries := without w.entries name }

def tree (w : World) (name : String) : Tree :=
  match w.find name with
  | some ⟨_, .directory tree⟩ => tree
  | _ => .empty

/-- Another content for a directory. -/
def fill (w : World) (name : String) (tree : Tree) : World :=
  match w.find name with
  | some ⟨inode, .directory _⟩ => w.put name ⟨inode, .directory tree⟩
  | _ => w

/-- A new entry, with an inode of its own. -/
def create (w : World) (name : String) (node : Node) : World :=
  { w.put name ⟨w.nextInode, node⟩ with nextInode := w.nextInode + 1 }

/-- `renameat2` with `RENAME_EXCHANGE` -/
def exchange (w : World) (left right : String) : Except Failure World :=
  match w.find left, w.find right with
  | some l, some r => .ok ((w.put left r).put right l)
  | _, _ => .error { kind := .fileNotFound, text := "No such file or directory" }

/-- `os.replace` of a directory: an empty directory in its place gives way. -/
def replace (w : World) (source destination : String) : Except Failure World :=
  match w.find source, w.find destination with
  | none, _ => .error { kind := .fileNotFound, text := "No such file or directory" }
  | some entry, none | some entry, some ⟨_, .directory .empty⟩ =>
    .ok ((w.drop source).put destination entry)
  | some _, some ⟨_, .directory _⟩ => .error { kind := .os, text := "Directory not empty" }
  | some _, some ⟨_, .leaf _⟩ => .error { kind := .os, text := "Not a directory" }

end World

abbrev Steps (α : Type) := Prog Failure World α

/-- `try: p except: errors.append(exc)`, of what the handler catches. -/
def collecting (p : Steps Unit) (caught : Failure → Option Failure) : Steps (List Failure) :=
  (p >>= fun _ => pure []).handle fun e =>
    match caught e with
    | some failure => pure [failure]
    | none => .raise e

/-- Give up a failure of the operating system as one of the publication. -/
def wrapping (p : Steps α) (wrap : Failure → Failure) : Steps α :=
  p.handle fun e => .raise (if e.isOs then wrap e else e)

def closePublicationDescriptor (phase : String) : Steps (List Failure) :=
  collecting touch fun e => if e.isOs then some (publicationError s!"cannot close {phase}") else none

def raiseCleanupErrors : List Failure → Steps Unit
  | [] => pure ()
  | first :: later => .raise (later.foldl attachCleanupError first)

def fsyncDirectory : Steps Unit := do
  touch
  touch

def fsyncPayloadTree : Tree → Steps Unit
  | .empty => fsyncDirectory
  | .leaf _ leaf rest => do
    touch
    match leaf with
    | .symlink => .raise (publicationError "staged payload must not contain symbolic links")
    | .file _ => do
      touch
      touch
    | .other => .raise (publicationError "staged payload contains a non-regular entry")
    fsyncPayloadTree rest
  | .directory _ inside rest => do
    touch
    fsyncPayloadTree inside
    fsyncPayloadTree rest

-- ---------------------------------------------------------------------------
-- Removing a tree
-- ---------------------------------------------------------------------------

/-- What is left of a tree after each `unlink` or `rmdir` of its removal. -/
def Tree.removals : Tree → List Tree
  | .empty => []
  | .leaf _ _ rest => rest :: rest.removals
  | .directory name inside rest =>
    inside.removals.map (fun left => .directory name left rest) ++ rest :: rest.removals

def fillAll (name : String) : List Tree → Steps Unit
  | [] => pure ()
  | tree :: rest => do
    modify (·.fill name tree)
    fillAll name rest

/-- `shutil.rmtree` -/
def rmtree (name : String) : Steps Unit := do
  let tree ← read fun w =>
    match w.find name with
    | none => .error { kind := .fileNotFound, text := "No such file or directory" }
    | some ⟨_, .leaf _⟩ => .error { kind := .os, text := "Not a directory" }
    | some ⟨_, .directory tree⟩ => .ok tree
  fillAll name tree.removals
  modify (·.drop name)

-- ---------------------------------------------------------------------------
-- The parent's anchor
-- ---------------------------------------------------------------------------

/-- A failure hook may raise at the point. -/
def point (_ : PublicationPoint) : Steps Unit := touch

def anchorError (e : Failure) : Failure :=
  if e.isOs then publicationError s!"cannot acquire artifact publication parent: {e.text}" else e

/-- With the descriptor at hand: `fstat`, `stat` and the assignment. -/
def keepAnchor : Steps Unit := do
  touch
  touch
  modify fun w => { w with anchored := true }

def openParentAnchor : Steps Unit := do
  if ← read fun w => .ok w.anchored then pure ()
  else
    touch.handle fun e => .raise (anchorError e)
    keepAnchor.handle fun e => do
      let closing ← closePublicationDescriptor "artifact publication parent during acquisition"
      .raise (closing.foldl (fun e failure => e.addNote failure.text) (anchorError e))

def parentFd : Steps Unit := openParentAnchor

def validateParentAnchor : Steps Unit := do
  parentFd
  wrapping touch fun _ => publicationError "artifact publication parent changed"
  wrapping touch fun _ => publicationError "artifact publication parent changed"
  if ← read fun w => .ok w.leased then touch

def closeParentAnchor : Steps Unit := do
  if ← op fun w => .ok (w.anchored, { w with anchored := false }) then
    wrapping touch fun _ => publicationError "cannot close artifact publication parent"

section
variable (p : Publisher)

def assertSafeTarget : Steps Unit :=
  read fun w => do
    if .symlink ∈ w.ancestors then
      throw (publicationError "artifact parent traverses a symbolic link")
    if .other ∈ w.ancestors then
      throw (publicationError "artifact parent contains a non-directory component")
    match w.find p.name with
    | some ⟨_, .leaf .symlink⟩ =>
      throw (publicationError "artifact target must not be a symlink (symbolic link)")
    | some ⟨_, .leaf _⟩ => throw (publicationError "artifact target must be a directory")
    | _ => pure ()

/-- `self._root.parent.mkdir(parents=True, exist_ok=True)`, from the top. -/
def makeParents : Nat → Steps Unit
  | 0 => touch
  | n + 1 => do
    makeParents n
    modify fun w => { w with ancestors := w.ancestors.modify n fun
      | .missing => .directory
      | ancestor => ancestor }

/-- `os.stat(name, dir_fd=...)`, with `None` for what is not there. -/
def statEntry (name : String) : Steps (Option Entry) :=
  (read fun w => .ok (w.find name)).handle fun e =>
    if e.kind = .fileNotFound then pure none else .raise e

def targetExists : Steps Bool := do
  parentFd
  match ← statEntry p.name with
  | none => pure false
  | some ⟨_, .leaf _⟩ => .raise (publicationError "artifact target must be a directory")
  | some ⟨_, .directory _⟩ => pure true

/-- The new directory is the publisher's `staging` from then on. -/
def mkdirStaging (name : String) : Steps Bool :=
  (op fun w =>
    match w.find name with
    | some _ => .error { kind := .fileExists, text := "File exists" }
    | none => .ok (true, { w.create name (.directory .empty) with staging := some name })).handle
      fun e => if e.kind = .fileExists then pure false else .raise e

def makeStaging : Nat → Steps String
  | 0 => .raise (publicationError "cannot allocate a unique staging directory")
  | n + 1 => do
    let name ← op fun w => .ok (p.stagingName w.draws, { w with draws := w.draws + 1 })
    parentFd
    if ← mkdirStaging name then pure name else makeStaging n

-- ---------------------------------------------------------------------------
-- The writer's lock
-- ---------------------------------------------------------------------------

/-- `os.open` with `O_CREAT | O_EXCL`; what comes to be is the publisher's own. -/
def openLock : Steps Unit :=
  op fun w =>
    match w.find p.lockName with
    | some _ => .error { kind := .fileExists, text := "File exists" }
    | none =>
      .ok ((), { w.create p.lockName (.leaf (.file [])) with lockFd := some w.nextInode })

def unlinkLock : Steps (List Failure) :=
  (op fun w =>
    match w.find p.lockName with
    | none => .error { kind := .fileNotFound, text := "No such file or directory" }
    | some ⟨_, .directory _⟩ => .error { kind := .os, text := "Is a directory" }
    | some ⟨_, .leaf _⟩ => .ok ([], w.drop p.lockName)).handle fun e =>
      if e.kind = .fileNotFound then pure []
      else if e.isOs then pure [publicationError "cannot remove artifact writer lock"]
      else .raise e

/-- The lock file goes if it is still the one this publisher opened. -/
def removeOwnLock : Steps (List Failure) := do
  parentFd
  validateParentAnchor
  let current ← statEntry p.lockName
  let lockIdentity ← read fun w => .ok w.lockIdentity
  if current.isSome ∧ lockIdentity = current.map (·.inode) then unlinkLock p else pure []

def releaseLock : Steps Unit := do
  match ← read fun w => .ok w.lockFd with
  | none => pure ()
  | some _ => do
    let closing ← closePublicationDescriptor "artifact writer lock"
    modify fun w => { w with lockFd := none }
    let removing ← (removeOwnLock p).handle fun e =>
      if e.kind = .publication then pure [e]
      else if e.isOs then pure [publicationError "cannot inspect artifact writer lock"]
      else .raise e
    modify fun w => { w with lockIdentity := none }
    raiseCleanupErrors (closing ++ removing)

-- ---------------------------------------------------------------------------
-- Leaving
-- ---------------------------------------------------------------------------

def rollbackError (backup : String) : Failure :=
  publicationError
    s!"artifact publication rollback failed; backup preserved at {p.parent}/{backup}"

/-- `shutil.rmtree(self.staging)`; without an error it sets the field back. -/
def removeStaging : Steps (List Failure) := do
  match ← read fun w => .ok w.staging with
  | none => pure []
  | some name => do
    match ← (rmtree name).attempt with
    | .ok () => do
      modify fun w => { w with staging := none }
      pure []
    | .error e =>
      if e.kind = .fileNotFound then do
        modify fun w => { w with staging := none }
        pure []
      else if e.isOs then
        pure [publicationError s!"artifact staging cleanup failed: {e.text}"]
      else .raise e

/-- The old tree goes back to a target that is missing. -/
def restoreTarget (backup : String) : Steps (List Failure) := do
  if ← targetExists p then pure []
  else
    let restoring : Steps Unit := do
      op fun w => (w.replace backup p.name).map ((), ·)
      touch
    match ← restoring.attempt with
    | .ok () => pure []
    | .error e =>
      if e.isOs then do
        modify fun w => { w with rollbackFailed := true }
        pure [rollbackError p backup]
      else .raise e

def restoreBackup (failed : Bool) : Steps (List Failure) := do
  match ← read fun w => .ok (w.committed, w.backup) with
  | (false, some backup) =>
    if failed then
      let errors ← restoreTarget p backup
      modify fun w => { w with backup := w.backup.filter fun name => (w.find name).isSome }
      pure errors
    else pure []
  | _ => pure []

/-- What `__exit__` does before its `finally`. -/
def clear (failed : Bool) : Steps (List Failure) := do
  let errors ← removeStaging
  let restoring ← (restoreBackup p failed).handle fun e => pure [e]
  pure (errors ++ restoring)

def leaveLease : Steps Unit := do
  if ← op fun w => .ok (w.leased, { w with leased := false }) then touch

def exit (bodyError : Option Failure) : Steps (Option Failure) := do
  let clearing ← (clear p bodyError.isSome).handle fun e => pure [e]
  let releasing ← collecting (releaseLock p) some
  let leaving ← collecting leaveLease some
  let closing ← collecting closeParentAnchor some
  let cleanupErrors := clearing ++ releasing ++ leaving ++ closing
  match bodyError with
  | some e => pure (some (cleanupErrors.foldl attachCleanupError e))
  | none => do
    raiseCleanupErrors cleanupErrors
    pure none

-- ---------------------------------------------------------------------------
-- Entering
-- ---------------------------------------------------------------------------

/-- Up to the lock. -/
def prepare : Steps Unit := do
  assertSafeTarget p
  makeParents (← read fun w => .ok w.ancestors.length)
  assertSafeTarget p
  modify fun w => { w with leased := true }
  touch
  openParentAnchor
  validateParentAnchor
  if (← targetExists p) && !p.overwrite then
    .raise (publicationError s!"output directory already exists: {p.target}")
  parentFd
  match ← statEntry p.lockName with
  | none | some ⟨_, .leaf (.file _)⟩ => pure ()
  | some _ => .raise (publicationError "artifact writer lock is not a regular file")
  parentFd

/-- The process's number that is written and synced here is never read. -/
def takeLock : Steps Unit := do
  openLock p
  modify fun w => { w with lockIdentity := w.lockFd }
  touch
  touch
  validateParentAnchor

/-- The body of `__enter__`'s `try`. -/
def enterSteps : Steps String := do
  prepare p
  takeLock p
  let staging ← makeStaging p 128
  validateParentAnchor
  point .stagingCreated
  pure staging

def abortEnter (e : Failure) : Steps Failure :=
  (do
    let noted ← exit p (some e)
    pure (noted.getD e)).handle fun cleanupError =>
      pure (e.addNote s!"publisher entry cleanup failed: {cleanupError.text}")

/-- What `__enter__` raises for what its body raised. -/
def enterError (e : Failure) : Failure :=
  match e.kind with
  | .fileExists => publicationError s!"artifact target is already locked: {p.lockPath}"
  | .publication | .other => e
  | .lease => publicationError s!"cannot acquire artifact publication lease: {e.text}"
  | .fileNotFound | .os => publicationError s!"cannot acquire artifact writer lock: {e.text}"

def enter : Steps String :=
  (enterSteps p).handle fun e => do
    let e ← abortEnter p e
    .raise (enterError p e)

-- ---------------------------------------------------------------------------
-- Committing
-- ---------------------------------------------------------------------------

/-- Up to the rename. -/
def syncPayload (staging : String) : Steps Unit := do
  validateParentAnchor
  fsyncPayloadTree (← read fun w => .ok (w.tree staging))
  point .payloadWritten
  validateParentAnchor

/-- The rename. After an exchange the name that stood for the staged tree
stands for the old one. -/
def swap (staging : String) : Steps Unit := do
  if ← targetExists p then
    point .oldMoved
    parentFd
    op fun w => (w.exchange p.name staging).map fun w =>
      ((), { w with backup := some staging, committed := true, staging := none })
  else
    parentFd
    op fun w => (w.replace staging p.name).map fun w =>
      ((), { w with committed := true, staging := none })

def removeBackup : Steps Unit := do
  match ← read fun w => .ok w.backup with
  | none => pure ()
  | some backup => do
    rmtree backup
    modify fun w => { w with backup := none }
    parentFd
    touch

/-- After the rename. -/
def settle : Steps Unit := do
  point .newCommitted
  parentFd
  modify fun w => { w with durabilityConfirmed := true }
  point .parentSynced
  removeBackup
  validateParentAnchor

/-- The body of `commit`'s `try`. -/
def commitSteps (staging : String) : Steps Unit := do
  syncPayload staging
  swap p staging
  settle

def undo (backup : String) : Steps Unit := do
  op fun w => (w.replace backup p.name).map fun w => ((), { w with backup := none })
  touch

/-- How a publication stands that `commit` gives up. -/
def World.commitState (w : World) : String :=
  if w.committed && w.durabilityConfirmed then "committed and durable; post-commit cleanup failed"
  else if w.committed then "committed but durability is uncertain"
  else "not committed"

def rollback (e : Failure) : Steps Unit := do
  match ← read fun w => .ok (w.committed, w.backup) with
  | (false, some backup) =>
    if ← targetExists p then pure ()
    else
      (undo p backup).handle fun restoring =>
        if restoring.isOs then do
          modify fun w => { w with rollbackFailed := true }
          .raise (publicationError ("artifact publication rollback failed; backup preserved at " ++
            s!"{p.parent}/{backup}: {restoring.text}"))
        else .raise restoring
  | _ => pure ()
  let state ← read fun w => .ok w.commitState
  .raise (publicationError s!"artifact publication failed ({state}): {e.text}")

def commit : Steps PublicationResult := do
  match ← read fun w => .ok w.staging with
  | none => .raise (publicationError "publisher has not been entered")
  | some staging => do
    (commitSteps p staging).handle (rollback p)
    read fun w => .ok ⟨p.target, true, w.durabilityConfirmed⟩

-- ---------------------------------------------------------------------------
-- The whole run
-- ---------------------------------------------------------------------------

/-- What changes while the block writes: the staged tree; and an operator or
another publisher may take the lock file away or put one of their own there. -/
structure Workspace where
  tree : Tree
  lock : Option Nat
  deriving DecidableEq, Repr

def World.workspace (w : World) (staging : String) : Workspace :=
  ⟨w.tree staging, (w.find p.lockName).map (·.inode)⟩

def World.rework (w : World) (staging : String) (s : Workspace) : World :=
  match s.lock with
  | none => (w.fill staging s.tree).drop p.lockName
  | some inode => (w.fill staging s.tree).put p.lockName ⟨inode, .leaf (.file [])⟩

/-- The block's own program, at the staging directory. -/
def inside (staging : String) : Prog Failure Workspace α → Steps α
  | .done a => .done a
  | .raise e => .raise e
  | .step ready act next raised =>
    .step (fun w => ready (w.workspace p staging))
      (fun w => w.rework p staging (act (w.workspace p staging)))
      (fun w => inside staging (next (w.workspace p staging)))
      (fun e => inside staging (raised e))

/-- The `with` statement, once its body has come to an end. -/
def finish : Except Failure PublicationResult → Steps PublicationResult
  | .ok result => do
    let _ ← exit p none
    pure result
  | .error e => do
    let noted ← exit p (some e)
    .raise (noted.getD e)

/-- `with AtomicDirectoryPublisher(...) as staging: block; publisher.commit()` -/
def publish (block : Prog Failure Workspace Unit) : Steps PublicationResult := do
  let staging ← enter p
  let body : Steps PublicationResult := do
    inside p staging block
    commit p
  finish p (← body.attempt)

end

end Paic.Artifacts
