import Paic.Leases.Files
import Mathlib

/-!
# Leases of many owners

The locks behind the leases, where the directories stay as they are. A lease
locks three places: the gate (the directory above its coordination domain),
the domain, and its lease file. Each `flock` belongs to a descriptor of the
lease, so two leases of one owner exclude each other like those of two. A
change from exclusive to shared gives the lock up before it is asked for again.

One step is one `flock` call, one read or write of the identity file, or one
update of the owner's map of active domains. Owners take their steps in any
order.
-/

namespace Paic.Leases.Turnstile

/-- The coordination domain of each root. -/
structure Layout (Root : Type) where
  domain : Root → Path
  gated : ∀ root, (domain root).parent ≠ domain root

/-- What is locked. The gate of one domain may be the domain of other roots. -/
inductive Place (Root : Type) where
  | directory (path : Path)
  | leaseFile (root : Root)

/-- What a lease does next. -/
inductive Phase where
  /-- `_lock(self.gate_fd, exclusive=True)` -/
  | turnstile
  /-- `_lock(self.domain_fd, …)`, for a reader after `identity_changed` is known. -/
  | domain (changed : Bool)
  /-- `_read_identity` -/
  | identity
  /-- `_write_identity` -/
  | record
  /-- `fcntl.flock(self.domain_fd, fcntl.LOCK_SH)`: the exclusive lock goes … -/
  | downgrade
  /-- … and the shared one comes. -/
  | converting
  /-- `_lock(self.lease_fd, …)` -/
  | data
  /-- `_mark_active` -/
  | mark
  /-- `_release_descriptor` of a reader's gate. -/
  | marked
  | active
  | nested
  | releasing
  deriving DecidableEq, Repr

structure Lease (Root : Type) where
  root : Root
  exclusive : Bool
  phase : Phase
  /-- The locks that its descriptors have. -/
  gate : Bool
  domain : Option Flock
  data : Option Flock

structure State (Owner Root : Type) where
  /-- The leases of an owner, the innermost first. -/
  stack : Owner → List (Lease Root)
  /-- `_ACTIVE_DOMAINS`: the mode and the number of the leases. -/
  domains : Owner → Path → Option (Bool × Nat)
  /-- The identity file of the root has what the directories are now. -/
  recorded : Root → Bool

section
variable {Root : Type}

namespace Lease

def entering (root : Root) (exclusive : Bool) : Lease Root :=
  ⟨root, exclusive, .turnstile, false, none, none⟩

def reentrant (root : Root) (exclusive : Bool) : Lease Root :=
  ⟨root, exclusive, .nested, false, none, none⟩

/-- `exclusive=self.exclusive` -/
def mode (ℓ : Lease Root) : Flock := if ℓ.exclusive then .exclusive else .shared

/-- It is registered in the map of active domains. -/
def isMarked (ℓ : Lease Root) : Bool :=
  ℓ.phase = .marked || ℓ.phase = .active || ℓ.phase = .nested

/-- Its `with` block is running. -/
def isOpen (ℓ : Lease Root) : Bool := ℓ.phase = .active || ℓ.phase = .nested

/-- What it locks, and how. -/
inductive Holds (layout : Layout Root) (ℓ : Lease Root) : Place Root → Flock → Prop where
  | gate (h : ℓ.gate = true) : ℓ.Holds layout (.directory (layout.domain ℓ.root).parent) .exclusive
  | domain (h : ℓ.domain = some m) : ℓ.Holds layout (.directory (layout.domain ℓ.root)) m
  | data (h : ℓ.data = some m) : ℓ.Holds layout (.leaseFile ℓ.root) m

/-- It has a lock that keeps others from this one. -/
def Blocks (layout : Layout Root) (ℓ : Lease Root) (place : Place Root) (m : Flock) : Prop :=
  ∃ m', ℓ.Holds layout place m' ∧ (m = .exclusive ∨ m' = .exclusive)

/-- The next step of a lease that is not open, and the lock it asks for. -/
def next (layout : Layout Root) (recorded : Bool) (ℓ : Lease Root) :
    Lease Root × Option (Place Root × Flock) :=
  let domain := layout.domain ℓ.root
  match ℓ.phase with
  | .turnstile =>
    ({ ℓ with gate := true, phase := if ℓ.exclusive then .domain true else .identity },
      some (.directory domain.parent, .exclusive))
  | .domain changed =>
    let m := if changed then Flock.exclusive else .shared
    ({ ℓ with
        domain := some m
        phase := if ℓ.exclusive then .identity else if changed then .record else .data },
      some (.directory domain, m))
  | .identity =>
    ({ ℓ with phase :=
        if ℓ.exclusive then if recorded then .data else .record else .domain !recorded }, none)
  | .record => ({ ℓ with phase := if ℓ.exclusive then .data else .downgrade }, none)
  | .downgrade => ({ ℓ with domain := none, phase := .converting }, none)
  | .converting =>
    ({ ℓ with domain := some .shared, phase := .data }, some (.directory domain, .shared))
  | .data => ({ ℓ with data := some ℓ.mode, phase := .mark }, some (.leaseFile ℓ.root, ℓ.mode))
  | .mark => ({ ℓ with phase := if ℓ.exclusive then .active else .marked }, none)
  | .marked => ({ ℓ with gate := false, phase := .active }, none)
  | .active | .nested => (ℓ, none)
  | .releasing =>
    -- the lease file first, the gate last
    (if ℓ.data.isSome then { ℓ with data := none }
      else if ℓ.domain.isSome then { ℓ with domain := none }
      else { ℓ with gate := false }, none)

/-- All its locks are given back. -/
def isReleased (ℓ : Lease Root) : Bool :=
  ℓ.phase = .releasing && !ℓ.gate && ℓ.domain.isNone && ℓ.data.isNone

end Lease

variable {Owner : Type} [DecidableEq Owner]

namespace State

def withStack (s : State Owner Root) (o : Owner) (stack : List (Lease Root)) : State Owner Root :=
  { s with stack := Function.update s.stack o stack }

def setDomain (s : State Owner Root) (o : Owner) (domain : Path) (value : Option (Bool × Nat)) :
    State Owner Root :=
  { s with domains := Function.update s.domains o (Function.update (s.domains o) domain value) }

/-- `_write_identity` -/
def write [DecidableEq Root] (s : State Owner Root) (root : Root) : State Owner Root :=
  { s with recorded := Function.update s.recorded root true }

/-- `_mark_active` -/
def markActive (s : State Owner Root) (o : Owner) (domain : Path) (exclusive : Bool) :
    State Owner Root :=
  s.setDomain o domain <| match s.domains o domain with
    | none => some (exclusive, 1)
    | some (wasExclusive, count) => some (wasExclusive || exclusive, count + 1)

/-- `_unmark_active` -/
def unmarkActive (s : State Owner Root) (o : Owner) (domain : Path) : State Owner Root :=
  match s.domains o domain with
  | none => s
  | some (exclusive, count) =>
    s.setDomain o domain (if count ≤ 1 then none else some (exclusive, count - 1))

/-- The kernel gives the lock to the innermost lease of the owner: no other
lease is in the way, of this owner or of another. -/
def Grants (layout : Layout Root) (s : State Owner Root) (o : Owner) (rest : List (Lease Root))
    (place : Place Root) (m : Flock) : Prop :=
  (∀ ℓ ∈ rest, ¬ ℓ.Blocks layout place m) ∧
    ∀ o', o' ≠ o → ∀ ℓ ∈ s.stack o', ¬ ℓ.Blocks layout place m

/-- After the next step of the innermost lease. -/
def advance [DecidableEq Root] (layout : Layout Root) (s : State Owner Root) (o : Owner)
    (ℓ : Lease Root) (rest : List (Lease Root)) : State Owner Root :=
  let moved := s.withStack o ((ℓ.next layout (s.recorded ℓ.root)).1 :: rest)
  match ℓ.phase with
  | .record => moved.write ℓ.root
  | .mark => moved.markActive o (layout.domain ℓ.root) ℓ.exclusive
  | _ => moved

/-- After `release` was called. -/
def leave (layout : Layout Root) (s : State Owner Root) (o : Owner) (ℓ : Lease Root)
    (rest : List (Lease Root)) : State Owner Root :=
  let left := s.withStack o ({ ℓ with phase := .releasing } :: rest)
  if ℓ.isMarked then left.unmarkActive o (layout.domain ℓ.root) else left

/-- The process ended: the kernel has closed its descriptors. -/
def ended (s : State Owner Root) (o : Owner) : State Owner Root :=
  { s.withStack o [] with domains := Function.update s.domains o fun _ => none }

/-- Nothing has happened yet. -/
def Initial (s : State Owner Root) : Prop :=
  (∀ o, s.stack o = []) ∧ ∀ o domain, s.domains o domain = none

end State

variable [DecidableEq Root]

/-- A step of one owner. -/
inductive Step (layout : Layout Root) (o : Owner) (s : State Owner Root) :
    State Owner Root → Prop where
  /-- `__enter__` on a domain that is not active. -/
  | enter (root : Root) (exclusive : Bool) (hopen : ∀ ℓ ∈ (s.stack o).head?, ℓ.isOpen = true)
      (hdomain : s.domains o (layout.domain root) = none) :
      Step layout o s (s.withStack o (Lease.entering root exclusive :: s.stack o))
  /-- `_enter_reentrant_if_safe` -/
  | nest (root : Root) (exclusive : Bool) (hopen : ∀ ℓ ∈ (s.stack o).head?, ℓ.isOpen = true)
      (hdomain : s.domains o (layout.domain root) = some (activeExclusive, count))
      (hsafe : exclusive = true → activeExclusive = true) :
      Step layout o s ((s.withStack o (Lease.reentrant root exclusive :: s.stack o)).setDomain o
        (layout.domain root) (some (activeExclusive, count + 1)))
  /-- The next step of the innermost lease, once the lock it asks for is free. -/
  | advance (hstack : s.stack o = ℓ :: rest) (hphase : ℓ.isOpen = false)
      (hlast : ℓ.isReleased = false)
      (hfree : ∀ request ∈ (ℓ.next layout (s.recorded ℓ.root)).2,
        s.Grants layout o rest request.1 request.2) :
      Step layout o s (s.advance layout o ℓ rest)
  /-- The `with` block ends, or the acquisition fails. -/
  | leave (hstack : s.stack o = ℓ :: rest) (hphase : ℓ.phase ≠ .releasing) :
      Step layout o s (s.leave layout o ℓ rest)
  | close (hstack : s.stack o = ℓ :: rest) (hlast : ℓ.isReleased = true) :
      Step layout o s (s.withStack o rest)
  | die : Step layout o s (s.ended o)

/-- Any number of steps, of any owners in any order. -/
inductive Runs (layout : Layout Root) (s₀ : State Owner Root) : State Owner Root → Prop where
  | start : Runs layout s₀ s₀
  | step (h : Runs layout s₀ s) (o : Owner) (hs : Step layout o s s') : Runs layout s₀ s'

/-- Steps with the property all the way. -/
inductive RunsWhile (layout : Layout Root) (P : State Owner Root → Prop) (s₀ : State Owner Root) :
    State Owner Root → Prop where
  | start (hp : P s₀) : RunsWhile layout P s₀ s₀
  | step (h : RunsWhile layout P s₀ s) (o : Owner) (hs : Step layout o s s') (hp : P s') :
    RunsWhile layout P s₀ s'

end

end Paic.Leases.Turnstile
