import Paic.Leases.Files
import Paic.Lib.Dict
import Mathlib

/-!
# Artifact leases

Four context variables say what the execution owner holds: the coordination
domains, the parent directories, the descriptors of the artifact roots and
the roots by path. A lease enters itself when it has been acquired and takes
itself out when it is released.
-/

namespace Paic.Leases

open Routine (handle raiseIf onlyIf need attempt within)

-- ---------------------------------------------------------------------------
-- The active leases
-- ---------------------------------------------------------------------------

/-- The thread, and the task when one is running. -/
structure Owner where
  thread : Nat
  task : Option Nat
  deriving DecidableEq, Repr

structure ActiveDomain where
  exclusive : Bool
  count : Nat
  owner : Owner
  deriving DecidableEq, Repr

structure ActiveParent where
  dev : Nat
  ino : Nat
  count : Nat
  owner : Owner
  deriving DecidableEq, Repr

/-- The context variables of the module. -/
structure Active where
  domains : Dict Path ActiveDomain
  parents : Dict Path ActiveParent
  rootFds : Dict Nat Owner
  rootPaths : Dict Path (List (Nat × Owner))

namespace Active

def empty : Active := ⟨.empty, .empty, .empty, .empty⟩

def setActiveDomain (active : Active) (key : Path) (value : Option ActiveDomain) : Active :=
  { active with domains := active.domains.assign key value }

def setActiveParent (active : Active) (key : Path) (value : Option ActiveParent) : Active :=
  { active with parents := active.parents.assign key value }

def setActiveRootFd (active : Active) (fd : Nat) (owner : Option Owner) : Active :=
  { active with rootFds := active.rootFds.assign fd owner }

def pushActiveRoot (active : Active) (path : Path) (fd : Nat) (owner : Owner) : Active :=
  let entries := (active.rootPaths.get path).getD []
  { active with rootPaths := active.rootPaths.set path (entries ++ [(fd, owner)]) }

/-- The list without the last entry that equals `x`. -/
def withoutLast [DecidableEq α] (x : α) (l : List α) : List α := (l.reverse.erase x).reverse

def popActiveRoot (active : Active) (path : Path) (fd : Nat) (owner : Owner) : Active :=
  let current := withoutLast (fd, owner) ((active.rootPaths.get path).getD [])
  { active with
    rootPaths := active.rootPaths.assign path (if current = [] then none else some current) }

end Active

/-- `_descriptor_root`: `isDir` says which directories of descriptors there are. -/
def descriptorRoot (isDir : Path → Bool) (fd : Nat) : Option Path :=
  ([["proc", "self", "fd"], ["dev", "fd"]].find? isDir).map (· ++ [toString fd])

/-- `candidate.relative_to(root)` -/
def relativeTo (candidate root : Path) : Option Path :=
  if root <+: candidate then some (candidate.drop root.length) else none

/-- A path below the root that a descriptor stands for. -/
def anchored (isDir : Path → Bool) (candidate : Path) (fd : Nat) (relative : Path) : Path :=
  match descriptorRoot isDir fd with
  | none => candidate
  | some descriptor => descriptor ++ relative

/-- The loop of `artifact_path` over the roots. -/
def firstRoot (isDir : Path → Bool) (owner : Owner) (candidate : Path) :
    List (Path × List (Nat × Owner)) → Path
  | [] => candidate
  | (root, entries) :: rest =>
    match entries.getLast? with
    | none => firstRoot isDir owner candidate rest
    | some (fd, holder) =>
      if holder ≠ owner then firstRoot isDir owner candidate rest
      else match relativeTo candidate root with
        | none => firstRoot isDir owner candidate rest
        | some relative => anchored isDir candidate fd relative

/-- The roots with the longest text first. -/
def longestFirst (roots : List (Path × List (Nat × Owner))) : List (Path × List (Nat × Owner)) :=
  roots.mergeSort fun a b => decide (b.1.text.length ≤ a.1.text.length)

/-- Return an owner-scoped descriptor-relative path for an active artifact root. -/
def artifactPath (isDir : Path → Bool) (owner : Owner) (active : Active) (cwd : Path)
    (path : GivenPath) : Path :=
  firstRoot isDir owner (canonicalRoot cwd path) (longestFirst active.rootPaths.entries)

-- ---------------------------------------------------------------------------
-- The lease object
-- ---------------------------------------------------------------------------

structure ArtifactLease where
  root : Path
  exclusive : Bool
  timeoutSeconds : Option Rat
  domain : Option Path
  domainKey : Option Path
  parentFd : Option Nat
  parentInfo : Option Stat
  domainFd : Option Nat
  domainInfo : Option Stat
  gate : Option Path
  gateFd : Option Nat
  gateInfo : Option Stat
  identityFd : Option Nat
  leaseFd : Option Nat
  rootFd : Option Nat
  rootInfo : Option Stat
  gateLocked : Bool
  domainLocked : Bool
  leaseLocked : Bool
  reentrant : Bool
  active : Bool
  deriving DecidableEq, Repr

/-- `_ArtifactLease(root, exclusive=…, timeout_seconds=…)`, with the root already canonical. -/
def artifactLease (root : Path) (exclusive : Bool) (timeoutSeconds : Option Rat) :
    ArtifactLease where
  root := root
  exclusive := exclusive
  timeoutSeconds := timeoutSeconds
  domain := none
  domainKey := none
  parentFd := none
  parentInfo := none
  domainFd := none
  domainInfo := none
  gate := none
  gateFd := none
  gateInfo := none
  identityFd := none
  leaseFd := none
  rootFd := none
  rootInfo := none
  gateLocked := false
  domainLocked := false
  leaseLocked := false
  reentrant := false
  active := false

def ArtifactLease.parent (self : ArtifactLease) : Path := self.root.parent

/-- What a method of a lease works on. -/
structure Scene where
  sys : Sys
  maps : Active
  self : ArtifactLease

abbrev LeaseM := EStateM Exc Scene

def system (m : SysM α) : LeaseM α := within Scene.sys (fun scene sys => { scene with sys }) m

def self : LeaseM ArtifactLease := do return (← get).self

def maps : LeaseM Active := do return (← get).maps

def setSelf (f : ArtifactLease → ArtifactLease) : LeaseM Unit :=
  modify fun scene => { scene with self := f scene.self }

def setMaps (f : Active → Active) : LeaseM Unit :=
  modify fun scene => { scene with maps := f scene.maps }

def notAcquired : Exc := leaseError "artifact lease parent was not acquired"

/-- `_prepare_domain` -/
def prepareDomain : LeaseM Unit := do
  let lease ← self
  system (validateParentPath lease.parent)
  system (makeParent lease.parent)
  system (validateParentPath lease.parent)
  let parentInfo ← system (wrapping Exc.isOs
    (fun exc => leaseError ("cannot inspect artifact lease parent: " ++ exc.text))
    (call fun kernel => kernel.lstat lease.parent))
  system (validateParentInfo parentInfo)
  let domain ← system (stableDomain lease.parent)
  setSelf fun lease => { lease with domain := some domain, gate := some domain.parent }
  raiseIf (domain.parent = domain)
    (leaseError "artifact lease domain has no stable turnstile parent")
  setSelf fun lease => { lease with domainKey := some domain }

/-- `if self.domain is None: self._prepare_domain()` -/
def ensureDomain : LeaseM Unit := do
  let lease ← self
  onlyIf (lease.domain = none) prepareDomain

/-- `if self.parent_fd is None or self.parent_info is None: … = _open_parent(self.parent)` -/
def ensureParent : LeaseM Unit := do
  let lease ← self
  onlyIf (lease.parentFd = none ∨ lease.parentInfo = none) do
    let (fd, info) ← system (openParent lease.parent)
    setSelf fun lease => { lease with parentFd := some fd, parentInfo := some info }

/-- The root's directory is no longer the one that was opened. -/
def dropRoot (rootFd : Nat) : LeaseM Unit := do
  let error ← system (releaseDescriptor "stale artifact root" (some rootFd) false)
  setSelf fun lease => { lease with rootFd := none, rootInfo := none }
  match error with
  | some error => throw error
  | none => pure ()

/-- The part of `_open_root_anchor` that opens the root. -/
def anchorRoot (parentFd : Nat) : LeaseM Unit := do
  let lease ← self
  match ← system (attempt (openDescriptor (.anchor parentFd lease.root.name))) with
  | .error (.os ⟨.noent, _⟩ _) | .error (.os ⟨.notdir, _⟩ _) =>
    setSelf fun lease => { lease with rootFd := none, rootInfo := none }
  | .error exc => throw (leaseError ("cannot anchor artifact root: " ++ exc.text))
  | .ok fd => do
    setSelf fun lease => { lease with rootFd := some fd }
    let info ← system (call fun kernel => kernel.fstat fd)
    setSelf fun lease => { lease with rootInfo := some info }
    raiseIf (info.kind ≠ .directory) (leaseError "artifact root must be a regular directory")
    let current ← system (call fun kernel => kernel.statAt parentFd lease.root.name)
    raiseIf (identity info current = false)
      (leaseError "artifact root changed during acquisition")

def openRootAnchor : LeaseM Unit := do
  let lease ← self
  raiseIf (lease.parentInfo = none) notAcquired
  let parentFd ← need lease.parentFd notAcquired
  match lease.rootFd with
  | none => anchorRoot parentFd
  | some rootFd => do
    let rootInfo ← need lease.rootInfo (leaseError "artifact root anchor is incomplete")
    let current ← system (attempt (call fun kernel => kernel.statAt parentFd lease.root.name))
    if current.toOption.any (identity rootInfo) then pure ()
    else do
      dropRoot rootFd
      anchorRoot parentFd

def checkActiveParent (owner : Owner) : LeaseM Unit := do
  let lease ← self
  let info ← need lease.parentInfo notAcquired
  match (← maps).parents.get lease.parent with
  | none => pure ()
  | some current =>
    raiseIf (current.owner = owner ∧ (current.dev, current.ino) ≠ (info.dev, info.ino))
      (leaseError "artifact lease parent changed before nested acquisition")

def recordActiveParent (owner : Owner) : LeaseM Unit := do
  let lease ← self
  let info ← need lease.parentInfo notAcquired
  let key := lease.parent
  match (← maps).parents.get key with
  | none =>
    setMaps fun maps => maps.setActiveParent key (some ⟨info.dev, info.ino, 1, owner⟩)
  | some current => do
    raiseIf (current.owner ≠ owner ∨ (current.dev, current.ino) ≠ (info.dev, info.ino))
      (leaseError "artifact lease parent changed during nested acquisition")
    setMaps fun maps =>
      maps.setActiveParent key (some ⟨current.dev, current.ino, current.count + 1, owner⟩)

def releaseActiveParent (owner : Owner) : LeaseM Unit := do
  let lease ← self
  let key := lease.parent
  match (← maps).parents.get key with
  | none => pure ()
  | some current =>
    if current.owner = owner then
      setMaps fun maps => maps.setActiveParent key
        (if current.count ≤ 1 then none
          else some ⟨current.dev, current.ino, current.count - 1, owner⟩)
    else pure ()

/-- The root's descriptor and path, once there is one. -/
def pushRoot (owner : Owner) : LeaseM Unit := do
  let lease ← self
  match lease.rootFd with
  | none => pure ()
  | some fd => setMaps fun maps =>
    (maps.setActiveRootFd fd (some owner)).pushActiveRoot lease.root fd owner

/-- `_enter_reentrant_if_safe`, once the domain is found active. -/
def enterReentrant (me : Owner) (key : Path) (current : ActiveDomain) : LeaseM Unit := do
  let lease ← self
  raiseIf (lease.exclusive = true ∧ current.exclusive = false)
    (leaseError "cannot acquire nested exclusive artifact lease")
  ensureParent
  checkActiveParent me
  let lease ← self
  onlyIf (lease.rootFd = none) openRootAnchor
  setSelf fun lease => { lease with reentrant := true, active := true }
  recordActiveParent me
  pushRoot current.owner
  setMaps fun maps => maps.setActiveDomain key
    (some ⟨current.exclusive, current.count + 1, current.owner⟩)

def enterReentrantIfSafe (me : Owner) : LeaseM Bool := do
  let lease ← self
  let key ← need lease.domainKey .assertion
  match (← maps).domains.get key with
  | none => pure false
  | some current =>
    if current.owner ≠ me then pure false
    else do
      enterReentrant me key current
      pure true

/-- The first part of `_mark_active`. -/
def markDomain (me : Owner) (key : Path) : LeaseM Unit := do
  let lease ← self
  match (← maps).domains.get key with
  | none => setMaps fun maps => maps.setActiveDomain key (some ⟨lease.exclusive, 1, me⟩)
  | some current => do
    raiseIf (current.owner ≠ me) (leaseError "artifact lease context owner changed")
    setMaps fun maps => maps.setActiveDomain key
      (some ⟨current.exclusive || lease.exclusive, current.count + 1, me⟩)

def markActive (me : Owner) : LeaseM Unit := do
  let lease ← self
  let key ← need lease.domainKey .assertion
  markDomain me key
  recordActiveParent me
  pushRoot me
  setSelf fun lease => { lease with active := true }

def popRoot (me : Owner) : LeaseM Unit := do
  let lease ← self
  match lease.rootFd with
  | none => pure ()
  | some fd => setMaps fun maps =>
    (maps.popActiveRoot lease.root fd me).setActiveRootFd fd none

def unmarkActive (me : Owner) : LeaseM Unit := do
  let lease ← self
  match lease.active, lease.domainKey with
  | true, some key =>
    match (← maps).domains.get key with
    | none => setSelf fun lease => { lease with active := false }
    | some current => do
      popRoot me
      releaseActiveParent me
      setMaps fun maps => maps.setActiveDomain key
        (if current.count ≤ 1 then none
          else some ⟨current.exclusive, current.count - 1, current.owner⟩)
      setSelf fun lease => { lease with active := false }
  | _, _ => pure ()

def validateCurrentParent : LeaseM Unit := do
  let lease ← self
  let fd ← need lease.parentFd notAcquired
  let info ← need lease.parentInfo notAcquired
  system (revalidateDirectory lease.parent fd info
    "artifact lease parent changed while the lease was active")

-- ---------------------------------------------------------------------------
-- Releasing
-- ---------------------------------------------------------------------------

def raiseFirst : List (Option Exc) → LeaseM Unit
  | [] => pure ()
  | some exc :: _ => throw exc
  | none :: rest => raiseFirst rest

/-- `release` of a lease that had entered an active domain. -/
def releaseReentrant (me : Owner) : LeaseM Unit := do
  let valid ← attempt validateCurrentParent
  unmarkActive me
  let lease ← self
  let rootError ← system (releaseDescriptor "artifact root" lease.rootFd false)
  let closeError ← system (releaseDescriptor "artifact parent" lease.parentFd false)
  setSelf fun lease => { lease with
    rootFd := none, rootInfo := none, parentFd := none, parentInfo := none, reentrant := false }
  match valid with
  | .error exc => throw exc
  | .ok () => raiseFirst [rootError, closeError]

/-- The descriptors in the order of their release. -/
def ArtifactLease.descriptors (lease : ArtifactLease) : List (String × Option Nat × Bool) :=
  [("artifact root", lease.rootFd, false),
    ("artifact data", lease.leaseFd, lease.leaseLocked),
    ("artifact identity", lease.identityFd, false),
    ("artifact parent", lease.parentFd, false),
    ("artifact coordination domain", lease.domainFd, lease.domainLocked),
    ("artifact writer turnstile", lease.gateFd, lease.gateLocked)]

def releaseDescriptors : List (String × Option Nat × Bool) → SysM (List (Option Exc))
  | [] => pure []
  | (name, fd, locked) :: rest => do
    let error ← releaseDescriptor name fd locked
    let errors ← releaseDescriptors rest
    pure (error :: errors)

/-- `release` of any other lease. -/
def releaseOutermost (me : Owner) : LeaseM Unit := do
  unmarkActive me
  let lease ← self
  let errors ← system (releaseDescriptors lease.descriptors)
  setSelf fun lease => { lease with
    rootFd := none, leaseFd := none, identityFd := none, parentFd := none, domainFd := none
    gateFd := none, rootInfo := none
    leaseLocked := false, domainLocked := false, gateLocked := false }
  raiseFirst errors

def release (me : Owner) : LeaseM Unit := do
  let lease ← self
  if lease.reentrant then releaseReentrant me else releaseOutermost me

/-- `_release_after_failure(exc)` and then `raise`. -/
def releaseAfterFailure (me : Owner) (exc : Exc) : LeaseM Unit := do
  match ← attempt (release me) with
  | .ok () => throw exc
  | .error releaseError =>
    throw (if releaseError.isLease then exc.addNote releaseError.text else releaseError)

-- ---------------------------------------------------------------------------
-- Acquiring
-- ---------------------------------------------------------------------------

def prepareAnchor : LeaseM Unit := do
  ensureDomain
  ensureParent
  let lease ← self
  onlyIf (lease.rootFd = none) openRootAnchor

/-- The turnstile is locked and still the one that was opened. -/
def lockGate (gate : Path) (fd : Nat) (info : Stat) : LeaseM Unit := do
  let lease ← self
  system (lock fd true lease.timeoutSeconds "artifact writer turnstile")
  setSelf fun lease => { lease with gateLocked := true }
  system (revalidateDirectory gate fd info "artifact writer turnstile changed during locking")
  validateCurrentParent

/-- `acquire_intent` for a domain that is not active. -/
def acquireGate (me : Owner) : LeaseM Unit := do
  let lease ← self
  let domain ← need lease.domain .assertion
  let gate ← need lease.gate .assertion
  ensureParent
  let (domainFd, domainInfo) ← system (openDirectory domain false)
  setSelf fun lease => { lease with domainFd := some domainFd, domainInfo := some domainInfo }
  let (gateFd, gateInfo) ← system (openDirectory gate false)
  setSelf fun lease => { lease with gateFd := some gateFd, gateInfo := some gateInfo }
  handle (lockGate gate gateFd gateInfo) (releaseAfterFailure me)

def acquireIntent (me : Owner) : LeaseM Unit := do
  ensureDomain
  if ← enterReentrantIfSafe me then pure () else acquireGate me

/-- What `acquire_body` needs from the intent. -/
structure Intent where
  parentFd : Nat
  parentInfo : Stat
  domain : Path
  domainFd : Nat
  domainInfo : Stat

def ArtifactLease.intent (lease : ArtifactLease) : Option Intent := do
  let parentFd ← lease.parentFd
  let parentInfo ← lease.parentInfo
  let domain ← lease.domain
  let domainFd ← lease.domainFd
  let domainInfo ← lease.domainInfo
  if lease.gateLocked then some ⟨parentFd, parentInfo, domain, domainFd, domainInfo⟩ else none

/-- The domain is locked and still the one that was opened. -/
def lockDomain (intent : Intent) (exclusive : Bool) : LeaseM Unit := do
  let lease ← self
  system (lock intent.domainFd exclusive lease.timeoutSeconds "artifact coordination domain")
  setSelf fun lease => { lease with domainLocked := true }
  system (revalidateDirectory intent.domain intent.domainFd intent.domainInfo
    "artifact coordination domain changed during locking")
  validateCurrentParent

/-- A new identity is recorded, and a reader goes back to a shared lock. -/
def recordIdentity (intent : Intent) (identityFd : Nat) (current : Identity) : LeaseM Unit := do
  let lease ← self
  system (writeIdentity identityFd current)
  onlyIf (lease.exclusive = false) <|
    system (wrapping Exc.isOs
      (fun _ => leaseError "cannot downgrade artifact coordination domain")
      (call fun kernel => kernel.flock intent.domainFd .shared))

/-- `acquire_body` up to the point where the lease becomes active. -/
def takeLocks [Hashing] (intent : Intent) : LeaseM Unit := do
  let lease ← self
  onlyIf lease.exclusive (lockDomain intent true)
  let path := leasePath lease.root
  let leaseFd ← system (openLockFile intent.parentFd path intent.parentInfo)
  setSelf fun lease => { lease with leaseFd := some leaseFd }
  let leaseInfo ← system (call fun kernel => kernel.fstat leaseFd)
  let euid ← system (ask Kernel.euid)
  let identityFd ← system (openLockFile intent.domainFd
    (intent.domain ++ [identityName euid lease.root]) intent.domainInfo)
  setSelf fun lease => { lease with identityFd := some identityFd }
  let current : Identity :=
    (intent.parentInfo.dev, intent.parentInfo.ino, leaseInfo.dev, leaseInfo.ino)
  let recorded ← system (readIdentity identityFd)
  let changed : Bool := recorded ≠ some current
  onlyIf (lease.exclusive = false) (lockDomain intent changed)
  system (revalidateLockFile lease.parent intent.parentFd path leaseFd intent.parentInfo)
  onlyIf changed (recordIdentity intent identityFd current)
  system (lock leaseFd lease.exclusive lease.timeoutSeconds "artifact data")
  system (revalidateLockFile lease.parent intent.parentFd path leaseFd intent.parentInfo)
  validateCurrentParent
  openRootAnchor
  setSelf fun lease => { lease with leaseLocked := true }

/-- A reader lets the turnstile go. -/
def releaseGate : LeaseM Unit := do
  let lease ← self
  onlyIf (lease.exclusive = false) do
    let error ← system (releaseDescriptor "artifact writer turnstile" lease.gateFd lease.gateLocked)
    setSelf fun lease => { lease with gateFd := none, gateLocked := false }
    raiseFirst [error]

def acquireBody [Hashing] (me : Owner) : LeaseM Unit := do
  let lease ← self
  if lease.reentrant then do
    validateCurrentParent
    setSelf fun lease => { lease with leaseLocked := true }
  else do
    let intent ← need lease.intent (leaseError "artifact lease intent was not acquired")
    handle
      (do
        takeLocks intent
        markActive me
        releaseGate)
      (releaseAfterFailure me)

/-- `__enter__` -/
def enter [Hashing] (me : Owner) : LeaseM Unit :=
  handle
    (do
      acquireIntent me
      acquireBody me)
    (releaseAfterFailure me)

/-- `__exit__`, with the exception that left the block: what is raised after it. -/
def exit (me : Owner) (exc : Option Exc) : LeaseM (Option Exc) := do
  match ← attempt (release me), exc with
  | .ok (), exc => pure exc
  | .error releaseError, some exc =>
    if releaseError.isLease then pure (some (exc.addNote releaseError.text))
    else throw releaseError
  | .error releaseError, none => throw releaseError

end Paic.Leases
