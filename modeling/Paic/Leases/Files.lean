import Paic.Json
import Paic.Lib.Routine

/-!
# Files and descriptors under a lease

The functions of the lease module that only talk to the operating system.
Other processes change the file system at any time, so each system call
finds a kernel of its own: `Sys.kernels` has what every call to come will
answer. What the kernel promises is that a descriptor it opens is not one
that is still open.

Paths are the names below `/`, after `os.path.abspath`; `os.path.normcase`
changes nothing on POSIX.
-/

namespace Paic.Leases

open Routine (handle raiseIf onlyIf need attempt)

-- ---------------------------------------------------------------------------
-- Paths
-- ---------------------------------------------------------------------------

abbrev Path := List String

/-- `os.fspath(path)` -/
def Path.text (path : Path) : List Char :=
  if path = [] then ['/'] else path.flatMap fun name => '/' :: name.toList

def Path.parent (path : Path) : Path := path.dropLast

/-- `path.name` -/
def Path.name (path : Path) : String := path.getLast?.getD ""

/-- A path as it is given: its parts between slashes. -/
structure GivenPath where
  absolute : Bool
  parts : List String
  deriving DecidableEq, Repr

def normalized (path : Path) (part : String) : Path :=
  if part = "" ∨ part = "." then path
  else if part = ".." then path.parent
  else path ++ [part]

/-- Normalize lexical aliases without resolving the artifact itself. -/
def canonicalRoot (cwd : Path) (root : GivenPath) : Path :=
  root.parts.foldl normalized (if root.absolute then [] else cwd)

def leasePath (root : Path) : Path := root.parent ++ ["." ++ root.name ++ ".lease"]

def identityName [Hashing] (euid : Nat) (root : Path) : String :=
  ".paic-artifact-lease-v2." ++ toString euid ++ "." ++ sha256 (String.ofList root.text) ++
    ".identity"

-- ---------------------------------------------------------------------------
-- The kernel
-- ---------------------------------------------------------------------------

inductive FileKind where
  | directory
  | regular
  | symlink
  | other
  deriving DecidableEq, Repr

/-- The fields of an `os.stat_result` that the leases read; `mode` is the
permission bits with the sticky bit. -/
structure Stat where
  kind : FileKind
  mode : Nat
  nlink : Nat
  uid : Nat
  gid : Nat
  dev : Nat
  ino : Nat
  deriving DecidableEq, Repr

inductive Errno where
  | noent
  | notdir
  | other
  deriving DecidableEq, Repr

structure OsError where
  errno : Errno
  text : String
  deriving DecidableEq, Repr

inductive Exc where
  | lease (text : String) (notes : List String)
  | os (error : OsError) (notes : List String)
  | assertion
  deriving DecidableEq, Repr

def Exc.text : Exc → String
  | .lease text _ => text
  | .os error _ => error.text
  | .assertion => ""

def Exc.addNote : Exc → String → Exc
  | .lease text notes, note => .lease text (notes ++ [note])
  | .os error notes, note => .os error (notes ++ [note])
  | .assertion, _ => .assertion

def leaseError (text : String) : Exc := .lease text []

def Exc.isLease : Exc → Bool
  | .lease .. => true
  | _ => false

/-- What is opened: a directory by its path, or an entry of an open directory. -/
inductive Target where
  | directory (path : Path)
  | anchor (directory : Nat) (name : String)
  | lockFile (directory : Nat) (name : String)
  deriving DecidableEq, Repr

inductive Flock where
  | exclusive
  | shared
  deriving DecidableEq, Repr

/-- How the wait for a lock ends that polls until its deadline. -/
inductive Poll where
  | acquired
  | refused
  | timedOut
  deriving DecidableEq, Repr

/-- The answers to a system call. -/
structure Kernel where
  euid : Nat
  egid : Nat
  groups : List Nat
  lstat : Path → Except OsError Stat
  statAt : Nat → String → Except OsError Stat
  fstat : Nat → Except OsError Stat
  mkdir : Path → Except OsError Unit
  opens : Target → List Nat → Except OsError Nat
  flock : Nat → Flock → Except OsError Unit
  poll : Nat → Flock → Poll
  unlock : Nat → Except OsError Unit
  close : Nat → Except OsError Unit
  read : Nat → Except OsError (List UInt8)
  /-- `ftruncate`, `lseek`, a whole `write` and `fsync`. -/
  overwrite : Nat → List UInt8 → Except OsError Unit
  opens_fresh : ∀ {target table fd}, opens target table = .ok fd → fd ∉ table

/-- What the calls to come will answer, and the descriptors that the leases
have opened and not closed. -/
structure Sys where
  kernels : Nat → Kernel
  table : List Nat

abbrev SysM := EStateM Exc Sys

def Sys.kernel (sys : Sys) : Kernel := sys.kernels 0

def Sys.next (sys : Sys) : Sys := { sys with kernels := fun n => sys.kernels (n + 1) }

/-- A system call. -/
def call (f : Kernel → Except OsError α) : SysM α := fun sys =>
  match f sys.kernel with
  | .ok a => .ok a sys.next
  | .error error => .error (.os error []) sys.next

def ask (f : Kernel → α) : SysM α := call fun kernel => .ok (f kernel)

def openDescriptor (target : Target) : SysM Nat := fun sys =>
  match sys.kernel.opens target sys.table with
  | .ok fd => .ok fd { sys.next with table := fd :: sys.table }
  | .error error => .error (.os error []) sys.next

/-- `os.close(fd)`, which gives the descriptor up also where it fails. -/
def close (fd : Nat) : SysM Unit := fun sys =>
  match sys.kernel.close fd with
  | .ok () => .ok () { sys.next with table := sys.table.erase fd }
  | .error error => .error (.os error []) { sys.next with table := sys.table.erase fd }

/-- `except (OSError, ArtifactLeaseError)` and `except OSError`: what is
raised otherwise goes on as it is. -/
def wrapping (caught : Exc → Bool) (wrapped : Exc → Exc) (m : SysM α) : SysM α :=
  handle m fun exc => throw (if caught exc then wrapped exc else exc)

def Exc.isOs : Exc → Bool
  | .os .. => true
  | _ => false

-- ---------------------------------------------------------------------------
-- Directories and their permissions
-- ---------------------------------------------------------------------------

def identity (left right : Stat) : Bool := left.dev = right.dev && left.ino = right.ino

/-- The ancestors of a path from the topmost down, the path included. -/
def ancestors (path : Path) : List Path := path.inits.drop 1

/-- Reject symlink/non-directory ancestors before opening a directory fd. -/
def validateParentPath (parent : Path) : SysM Unit :=
  (ancestors parent).forM fun current =>
    handle
      (do
        let info ← call fun kernel => kernel.lstat current
        raiseIf (info.kind ≠ .directory) (leaseError "artifact lease parent is unsafe"))
      fun exc => match exc with
        | .os ⟨.noent, _⟩ _ => pure ()
        | exc => throw exc

def validateParentInfo (info : Stat) : SysM Unit := do
  raiseIf (info.kind ≠ .directory) (leaseError "artifact lease parent is unsafe")
  let euid ← ask Kernel.euid
  raiseIf (info.uid ≠ euid ∨ info.mode &&& 0o022 ≠ 0)
    (leaseError "artifact lease parent ownership or permissions are unsafe")

def permissionBits (kernel : Kernel) (info : Stat) : Nat :=
  if info.uid = kernel.euid then (info.mode >>> 6) &&& 0o7
  else if info.gid ∈ kernel.egid :: kernel.groups then (info.mode >>> 3) &&& 0o7
  else info.mode &&& 0o7

/-- Whether this user can rename `path` through its parent directory. -/
def entryIsReplaceable (path : Path) : SysM Bool :=
  if path.parent = path then pure false
  else do
    let (parentInfo, pathInfo) ←
      wrapping Exc.isOs
        (fun exc => leaseError ("cannot inspect artifact lease domain: " ++ exc.text)) do
          let parentInfo ← call fun kernel => kernel.lstat path.parent
          let pathInfo ← call fun kernel => kernel.lstat path
          pure (parentInfo, pathInfo)
    let permissions ← ask fun kernel => permissionBits kernel parentInfo
    if permissions &&& 0o3 ≠ 0o3 then pure false
    else if parentInfo.mode &&& 0o1000 ≠ 0 then
      ask fun kernel =>
        kernel.euid = 0 || kernel.euid = parentInfo.uid || kernel.euid = pathInfo.uid
    else pure true

/-- The loop of `_stable_domain`: each turn goes up to the parent. -/
def stableDomainFrom : Nat → Path → SysM Path
  | 0, candidate => pure candidate
  | turns + 1, candidate =>
    if candidate.parent ≠ candidate ∧ candidate.parent.parent ≠ candidate.parent then do
      if ← entryIsReplaceable candidate then stableDomainFrom turns candidate.parent
      else pure candidate
    else pure candidate

/-- Return an ancestor whose directory entry is not user-replaceable. -/
def stableDomain (parent : Path) : SysM Path := stableDomainFrom parent.length parent

-- ---------------------------------------------------------------------------
-- Descriptors
-- ---------------------------------------------------------------------------

def releaseError (name : String) : Except Exc Unit → Except Exc Unit → Option Exc
  | .error _, _ => some (leaseError ("cannot release artifact lease during " ++ name))
  | .ok _, .error _ => some (leaseError ("cannot close artifact lease during " ++ name))
  | .ok _, .ok _ => none

/-- The exception with which a descriptor was released, if any. -/
def releaseDescriptor (name : String) (fd : Option Nat) (locked : Bool) : SysM (Option Exc) :=
  match fd with
  | none => pure none
  | some fd => do
    let unlocked ← attempt (onlyIf locked (call fun kernel => kernel.unlock fd))
    let closed ← attempt (close fd)
    pure (releaseError name unlocked closed)

/-- The end of an acquisition that failed: the descriptor is closed, and an
error in doing so becomes a note. -/
def abandon (name : String) (fd : Option Nat) (exc : Exc) : SysM α := do
  match ← releaseDescriptor name fd false with
  | some cleanupError => throw (exc.addNote cleanupError.text)
  | none => throw exc

/-- An acquisition that opens a descriptor and then checks it. The errors of
the operating system are wrapped. -/
def acquiring (name : String) (wrapped : Exc → Exc) (before : SysM α) (target : α → Target)
    (check : α → Nat → SysM β) : SysM β :=
  handle
    (do
      let a ← before
      let fd ← openDescriptor (target a)
      handle (check a fd) fun exc =>
        abandon name (some fd) (if exc.isOs then wrapped exc else exc))
    fun exc => if exc.isOs then abandon name none (wrapped exc) else throw exc

def validateOpened (isPrivate : Bool) (info : Stat) : SysM Unit :=
  if isPrivate then validateParentInfo info
  else raiseIf (info.kind ≠ .directory) (leaseError "artifact lease domain is unsafe")

def openDirectory (path : Path) (isPrivate : Bool) : SysM (Nat × Stat) := do
  validateParentPath path
  acquiring "artifact lease directory acquisition"
    (fun exc => leaseError ("cannot open artifact lease directory: " ++ exc.text))
    (pure ()) (fun _ => .directory path) fun _ fd => do
      let info ← call fun kernel => kernel.fstat fd
      validateOpened isPrivate info
      let current ← call fun kernel => kernel.lstat path
      raiseIf (identity info current = false)
        (leaseError "artifact lease directory changed during acquisition")
      pure (fd, info)

/-- `parent.mkdir(parents=True, exist_ok=True)` -/
def makeParent (parent : Path) : SysM Unit :=
  wrapping Exc.isOs (fun exc => leaseError ("cannot create artifact lease parent: " ++ exc.text))
    (call fun kernel => kernel.mkdir parent)

def openParent (parent : Path) : SysM (Nat × Stat) := do
  validateParentPath parent
  makeParent parent
  openDirectory parent true

def revalidateDirectory (path : Path) (fd : Nat) (expected : Stat) (message : String) :
    SysM Unit := do
  let (descriptorInfo, pathInfo) ←
    wrapping (fun _ => true) (fun _ => leaseError message) do
      validateParentPath path
      let descriptorInfo ← call fun kernel => kernel.fstat fd
      let pathInfo ← call fun kernel => kernel.lstat path
      pure (descriptorInfo, pathInfo)
  raiseIf (identity expected descriptorInfo = false ∨ identity expected pathInfo = false)
    (leaseError message)

-- ---------------------------------------------------------------------------
-- Coordination files
-- ---------------------------------------------------------------------------

/-- A regular, singly-linked file of the current user that nobody else writes. -/
def privateFile (euid : Nat) (info : Stat) : Bool :=
  info.kind = .regular && info.nlink = 1 && info.uid = euid && info.mode &&& 0o022 = 0

/-- The coordination file as it is before it is opened, if there is one. -/
def coordinationFile (directoryFd : Nat) (name : String) : SysM (Option Stat) :=
  handle
    (do
      let before ← call fun kernel => kernel.statAt directoryFd name
      raiseIf (before.kind ≠ .regular) (leaseError "artifact coordination file must be regular")
      let euid ← ask Kernel.euid
      raiseIf (before.nlink ≠ 1 ∨ before.uid ≠ euid ∨ before.mode &&& 0o022 ≠ 0)
        (leaseError "artifact coordination file ownership is unsafe")
      pure (some before))
    fun exc => match exc with
      | .os ⟨.noent, _⟩ _ => pure none
      | exc => throw exc

/-- The coordination file is the one that stands at its name. -/
def validateLockFile (directoryFd : Nat) (name : String) (directoryInfo : Stat)
    (before : Option Stat) (fd : Nat) : SysM Unit := do
  let info ← call fun kernel => kernel.fstat fd
  let euid ← ask Kernel.euid
  raiseIf (privateFile euid info = false)
    (leaseError "artifact coordination file must be regular")
  let after ← call fun kernel => kernel.statAt directoryFd name
  let directoryNow ← call fun kernel => kernel.fstat directoryFd
  raiseIf (identity info after = false ∨ identity directoryInfo directoryNow = false)
    (leaseError "artifact coordination file changed during acquisition")
  raiseIf (before.any fun before => !identity before info)
    (leaseError "artifact coordination file changed during acquisition")

/-- Open a regular, singly-linked, current-user lock file relative to a directory. -/
def openLockFile (directoryFd : Nat) (path : Path) (directoryInfo : Stat) : SysM Nat :=
  acquiring "artifact coordination file acquisition"
    (fun exc => leaseError ("cannot open artifact coordination file: " ++ exc.text))
    (coordinationFile directoryFd path.name) (fun _ => .lockFile directoryFd path.name)
    fun before fd => do
      validateLockFile directoryFd path.name directoryInfo before fd
      pure fd

def revalidateLockFile (directoryPath : Path) (directoryFd : Nat) (path : Path) (fd : Nat)
    (directoryInfo : Stat) : SysM Unit := do
  let (descriptorInfo, pathInfo, directoryNow, directoryPathNow) ←
    wrapping Exc.isOs
      (fun _ => leaseError "artifact coordination file disappeared during locking") do
        let descriptorInfo ← call fun kernel => kernel.fstat fd
        let pathInfo ← call fun kernel => kernel.statAt directoryFd path.name
        let directoryNow ← call fun kernel => kernel.fstat directoryFd
        let directoryPathNow ← call fun kernel => kernel.lstat directoryPath
        pure (descriptorInfo, pathInfo, directoryNow, directoryPathNow)
  let euid ← ask Kernel.euid
  raiseIf (privateFile euid descriptorInfo = false ∨ identity descriptorInfo pathInfo = false ∨
      identity directoryInfo directoryNow = false ∨
      identity directoryInfo directoryPathNow = false)
    (leaseError "artifact coordination file changed during locking")

/-- The device and inode of the parent directory and of the lease file. -/
abbrev Identity := Nat × Nat × Nat × Nat

/-- The characters of ASCII that `str.strip` removes. -/
def isBlank (c : Char) : Bool :=
  (9 ≤ c.toNat && c.toNat ≤ 13) || (28 ≤ c.toNat && c.toNat ≤ 32)

def strip (text : List Char) : List Char :=
  ((text.dropWhile isBlank).reverse.dropWhile isBlank).reverse

/-- The rest of a number, with single underscores between its digits. -/
def moreDigits (n : Nat) : List Char → Option Nat
  | [] => some n
  | '_' :: c :: rest => if c.isDigit then moreDigits (10 * n + (c.toNat - 48)) rest else none
  | c :: rest => if c.isDigit then moreDigits (10 * n + (c.toNat - 48)) rest else none

def digits : List Char → Option Nat
  | [] => none
  | c :: rest => if c.isDigit then moreDigits (c.toNat - 48) rest else none

/-- `int(part)` on ASCII text. -/
def int (part : List Char) : Option Int :=
  match strip part with
  | '-' :: rest => (digits rest).map fun n => -(n : Int)
  | '+' :: rest => (digits rest).map fun n => (n : Int)
  | text => (digits text).map fun n => (n : Int)

def parseIdentity (text : List Char) : Except Exc Identity :=
  match ((strip text).splitOn ':').mapM int with
  | some [.ofNat a, .ofNat b, .ofNat c, .ofNat d] => .ok (a, b, c, d)
  | _ => .error (leaseError "artifact coordination identity is invalid")

def readIdentity (fd : Nat) : SysM (Option Identity) := do
  let raw ← wrapping Exc.isOs (fun _ => leaseError "cannot read artifact coordination identity")
    (call fun kernel => kernel.read fd)
  raiseIf (raw.any fun byte => 128 ≤ byte) (leaseError "cannot read artifact coordination identity")
  if raw = [] then pure none
  else match parseIdentity (raw.map fun byte => Char.ofNat byte.toNat) with
    | .ok identity => pure (some identity)
    | .error exc => throw exc

def identityPayload (value : Identity) : List UInt8 :=
  (":".intercalate [toString value.1, toString value.2.1, toString value.2.2.1,
    toString value.2.2.2] ++ "\n").toUTF8.data.toList

def writeIdentity (fd : Nat) (value : Identity) : SysM Unit :=
  wrapping Exc.isOs (fun _ => leaseError "cannot update artifact coordination identity")
    (call fun kernel => kernel.overwrite fd (identityPayload value))

-- ---------------------------------------------------------------------------
-- Locks
-- ---------------------------------------------------------------------------

/-- A number's thousandths, ties to even. -/
def thousandths (seconds : Rat) : Nat :=
  let whole := (seconds * 1000).floor.toNat
  let rest := seconds * 1000 - whole
  if rest > 1 / 2 ∨ rest = 1 / 2 ∧ whole % 2 = 1 then whole + 1 else whole

/-- `f"{seconds:.3f}"` -/
def threeDecimals (seconds : Rat) : String :=
  let n := thousandths seconds
  toString (n / 1000) ++ "." ++ toString (n / 100 % 10) ++ toString (n / 10 % 10) ++
    toString (n % 10)

def flock (exclusive : Bool) : Flock := if exclusive then .exclusive else .shared

def lock (fd : Nat) (exclusive : Bool) (timeoutSeconds : Option Rat) (phase : String) :
    SysM Unit :=
  match timeoutSeconds with
  | none =>
    wrapping Exc.isOs (fun _ => leaseError ("cannot acquire artifact lease during " ++ phase))
      (call fun kernel => kernel.flock fd (flock exclusive))
  | some seconds => do
    raiseIf (seconds < 0) (leaseError "artifact lease timeout cannot be negative")
    match ← ask fun kernel => kernel.poll fd (flock exclusive) with
    | .acquired => pure ()
    | .refused => throw (leaseError ("cannot acquire artifact lease during " ++ phase))
    | .timedOut => throw (leaseError ("timed out acquiring " ++ phase ++
        " artifact lease after " ++ threeDecimals seconds ++ "s"))

end Paic.Leases
