import Paic.Leases.Entering
import Mathlib

/-!
# Nested leases of one owner

A session is the lease objects of one execution owner. Those that are
entered form a stack, as `with` blocks do; only the innermost is left. In
every session that the condition of `ParentKept` leads to, the four maps are
a function of the stack.
-/

namespace Paic.Leases

open Routine

structure Session where
  sys : Sys
  maps : Active
  /-- The innermost lease first. -/
  opened : List ArtifactLease
  idle : List ArtifactLease

inductive Action where
  | create (cwd : Path) (root : GivenPath) (exclusive : Bool) (timeoutSeconds : Option Rat)
  | prepare (i : Nat)
  | enter (i : Nat)
  | exit (exc : Option Exc)
  | release (i : Nat)

def Session.scene (s : Session) (lease : ArtifactLease) : Scene := ⟨s.sys, s.maps, lease⟩

/-- The session after a method of the idle lease `i` that does not enter it. -/
def Session.withIdle (s : Session) (i : Nat) (scene : Scene) : Session :=
  { s with sys := scene.sys, maps := scene.maps, idle := s.idle.set i scene.self }

/-- What a method leaves, whether it returned or raised. -/
def final : EStateM.Result Exc Scene α → Scene
  | .ok _ scene => scene
  | .error _ scene => scene

/-- One action of the owner, where it is one that can be taken. -/
def Session.step [Hashing] (me : Owner) (s : Session) : Action → Option Session
  | .create cwd root exclusive timeoutSeconds =>
    some { s with
      idle := artifactLease (canonicalRoot cwd root) exclusive timeoutSeconds :: s.idle }
  | .prepare i => s.idle[i]?.map fun lease => s.withIdle i (final (prepareAnchor (s.scene lease)))
  | .enter i => s.idle[i]?.map fun lease =>
    match Leases.enter me (s.scene lease) with
    | .ok _ scene =>
      ⟨scene.sys, scene.maps, scene.self :: s.opened, s.idle.eraseIdx i⟩
    | .error _ scene => s.withIdle i scene
  | .exit exc =>
    match s.opened with
    | [] => none
    | lease :: rest =>
      let scene := final (Leases.exit me exc (s.scene lease))
      some ⟨scene.sys, scene.maps, rest, scene.self :: s.idle⟩
  | .release i => s.idle[i]?.map fun lease => s.withIdle i (final (Leases.release me (s.scene lease)))

def Session.run [Hashing] (me : Owner) (s : Session) (actions : List Action) : Option Session :=
  actions.foldlM (Session.step me) s

/-- Every enter keeps to the parent directories that are active. -/
def Session.Kept [Hashing] (me : Owner) (s : Session) (a : Action) : Prop :=
  ∀ i lease, a = .enter i → s.idle[i]? = some lease → ParentKept me (s.scene lease)

structure Step [Hashing] (me : Owner) (s : Session) (a : Action) (s' : Session) : Prop where
  taken : s.step me a = some s'
  kept : s.Kept me a

/-- A fresh context, before any lease. -/
def Session.Starts (s : Session) : Prop :=
  s.sys.table = [] ∧ s.maps = .empty ∧ s.opened = [] ∧ s.idle = []

inductive Reachable [Hashing] (me : Owner) : Session → Prop
  | start (h : s.Starts) : Reachable me s
  | step (hs : Reachable me s) (h : Step me s a s') : Reachable me s'

/-- A stretch of a run in which every lease that is entered is left again. -/
inductive Nested [Hashing] (me : Owner) : Session → Session → Prop
  | done : Nested me s s
  | aside (h : Step me s a s₁) (hsame : s₁.opened = s.opened) (rest : Nested me s₁ s₂) :
      Nested me s s₂
  | block (henter : Step me s (.enter i) s₁) (hopened : s₁.opened = lease :: s.opened)
      (body : Nested me s₁ s₂) (hexit : Step me s₂ (.exit exc) s₃) (rest : Nested me s₃ s₄) :
      Nested me s s₄

-- ---------------------------------------------------------------------------
-- The maps of a stack
-- ---------------------------------------------------------------------------

def openAll (me : Owner) : List ArtifactLease → Active
  | [] => .empty
  | lease :: rest =>
    match lease.domainKey, lease.parentInfo with
    | some key, some info => Active.entered me (openAll me rest) lease key info
    | _, _ => openAll me rest

/-- An entered lease object. -/
structure ArtifactLease.IsOpen (lease : ArtifactLease) : Prop where
  active : lease.active = true
  found : ∃ key info, lease.domainKey = some key ∧ lease.parentInfo = some info
  inside : lease.reentrant = true → lease.domainFd = none ∧ lease.gateFd = none ∧
    lease.leaseFd = none ∧ lease.identityFd = none

/-- A lease object that can be entered. -/
structure ArtifactLease.IsIdle (lease : ArtifactLease) : Prop where
  active : lease.active = false
  reentrant : lease.reentrant = false
  parent : lease.parentInfo = none → lease.parentFd = none
  closed : lease.kept.Closed

def holdings (leases : List ArtifactLease) (n : Nat) : Nat :=
  (leases.map fun lease => lease.holds n).sum

/-- The maps are those of the stack, and the open descriptors are those of
the leases. -/
structure Balanced (me : Owner) (s : Session) : Prop where
  maps : s.maps = openAll me s.opened
  opened : ∀ lease ∈ s.opened, lease.IsOpen
  idle : ∀ lease ∈ s.idle, lease.IsIdle
  nodup : s.sys.table.Nodup
  count : ∀ n, s.sys.table.count n = holdings s.opened n + holdings s.idle n

section
variable {me : Owner} {lease : ArtifactLease} {leases rest : List ArtifactLease}

theorem openAll_cons {key : Path} {info : Stat} (hkey : lease.domainKey = some key)
    (hinfo : lease.parentInfo = some info) :
    openAll me (lease :: rest) = Active.entered me (openAll me rest) lease key info := by
  rw [openAll, hkey, hinfo]

theorem coherent_openAll (hopen : ∀ lease ∈ leases, lease.IsOpen) :
    Active.Coherent me (openAll me leases) := by
  induction leases with
  | nil => exact Active.coherent_empty me
  | cons lease rest ih =>
    obtain ⟨key, info, hkey, hinfo⟩ := (hopen lease List.mem_cons_self).found
    rw [openAll_cons hkey hinfo]
    exact Active.coherent_entered (ih fun l hl => hopen l (List.mem_cons_of_mem _ hl))

/-- A domain's entry counts the open leases on it. -/
theorem openAll_domains (me : Owner) (hopen : ∀ lease ∈ leases, lease.IsOpen) (key : Path) :
    (((openAll me leases).domains.get key).elim 0 ActiveDomain.count) =
      leases.countP fun lease => lease.domainKey = some key := by
  induction leases with
  | nil => rfl
  | cons lease rest ih =>
    obtain ⟨key', info, hkey, hinfo⟩ := (hopen lease List.mem_cons_self).found
    have ih := ih fun l hl => hopen l (List.mem_cons_of_mem _ hl)
    rw [openAll_cons hkey hinfo, Active.entered_domains, Dict.get_set, List.countP_cons, hkey]
    by_cases h : key = key'
    · subst h
      rw [if_pos rfl, Option.elim_some, ← ih, decide_eq_true rfl, if_pos rfl]
      cases (openAll me rest).domains.get key <;> rfl
    · rw [if_neg h, ih, if_neg (by simpa using Ne.symm h), Nat.add_zero]

/-- The descriptor of the innermost open lease on a root that was there. -/
def innermost (leases : List ArtifactLease) (root : Path) : Option Nat :=
  leases.findSome? fun lease => if lease.root = root then lease.rootFd else none

theorem innermost_root {root : Path} (h : innermost leases root ≠ none) :
    root ∈ leases.map ArtifactLease.root := by
  obtain ⟨fd, hfd⟩ := Option.ne_none_iff_exists'.mp h
  obtain ⟨lease, hmem, hlease⟩ := List.exists_of_findSome?_eq_some hfd
  split at hlease
  · exact List.mem_map.mpr ⟨lease, hmem, ‹_›⟩
  · contradiction

theorem openAll_rootPaths (me : Owner) (hopen : ∀ lease ∈ leases, lease.IsOpen) (root : Path) :
    (((openAll me leases).rootPaths.get root).bind List.getLast?) =
      (innermost leases root).map fun fd => (fd, me) := by
  induction leases with
  | nil => rfl
  | cons lease rest ih =>
    obtain ⟨key, info, hkey, hinfo⟩ := (hopen lease List.mem_cons_self).found
    have ih := ih fun l hl => hopen l (List.mem_cons_of_mem _ hl)
    rw [openAll_cons hkey hinfo, Active.entered_rootPaths, innermost, List.findSome?_cons]
    cases hroot : lease.rootFd with
    | none =>
      rw [ite_self]
      exact ih
    | some fd =>
      dsimp only [Active.rooted, Active.pushActiveRoot, Active.setActiveRootFd]
      rw [Dict.get_set]
      by_cases h : lease.root = root
      · rw [if_pos h.symm, if_pos h]
        simp
      · rw [if_neg (Ne.symm h), if_neg h]
        exact ih

theorem openAll_rootFds {n : Nat} (hopen : ∀ lease ∈ leases, lease.IsOpen)
    (h : (openAll me leases).rootFds.get n ≠ none) : ∃ lease ∈ leases, lease.rootFd = some n := by
  induction leases with
  | nil => exact absurd rfl h
  | cons lease rest ih =>
    obtain ⟨key, info, hkey, hinfo⟩ := (hopen lease List.mem_cons_self).found
    have ih := ih fun l hl => hopen l (List.mem_cons_of_mem _ hl)
    rw [openAll_cons hkey hinfo, Active.entered_rootFds] at h
    cases hroot : lease.rootFd with
    | none =>
      rw [hroot] at h
      obtain ⟨l, hl, hn⟩ := ih h
      exact ⟨l, List.mem_cons_of_mem _ hl, hn⟩
    | some fd =>
      rw [hroot] at h
      by_cases hfd : n = fd
      · exact ⟨lease, List.mem_cons_self, hroot.trans (congrArg some hfd.symm)⟩
      · have hget : ((openAll me rest).rootFds.set fd me).get n ≠ none := h
        rw [Dict.get_set, if_neg hfd] at hget
        obtain ⟨l, hl, hn⟩ := ih hget
        exact ⟨l, List.mem_cons_of_mem _ hl, hn⟩

theorem holdings_cons (n : Nat) :
    holdings (lease :: rest) n = lease.holds n + holdings rest n := by
  simp [holdings]

theorem le_holdings (hmem : lease ∈ leases) (n : Nat) : lease.holds n ≤ holdings leases n := by
  obtain ⟨front, back, rfl⟩ := List.append_of_mem hmem
  simp only [holdings, List.map_append, List.map_cons, List.sum_append, List.sum_cons]
  omega

theorem holdings_perm {leases' : List ArtifactLease} (h : leases.Perm leases') (n : Nat) :
    holdings leases n = holdings leases' n :=
  (h.map _).sum_eq

/-- A stack's registered roots are descriptors of the stack. -/
theorem covers_openAll {frame : Nat → Nat} (hopen : ∀ lease ∈ leases, lease.IsOpen)
    (hframe : ∀ n, holdings leases n ≤ frame n) : Covers frame (openAll me leases) := by
  intro n hn
  obtain ⟨lease, hmem, hroot⟩ := openAll_rootFds hopen hn
  have hholds : 0 < lease.holds n := by
    simp only [ArtifactLease.holds, hroot, holding, if_true]
    omega
  have hle := le_holdings hmem n
  have := hframe n
  omega

-- ---------------------------------------------------------------------------
-- One action
-- ---------------------------------------------------------------------------

theorem after_final {α : Type} {m : LeaseM α} {scene : Scene} {I : Scene → Prop}
    (h : After m scene (fun _ => I) fun _ => I) : I (final (m scene)) := by
  unfold After at h
  split at h <;> rename_i heq
  · rw [heq]
    exact h
  · rw [heq]
    exact h

variable {s s' : Session} {i : Nat}

/-- The descriptors of the other leases. -/
def Session.others (s : Session) (i n : Nat) : Nat :=
  holdings s.opened n + holdings (s.idle.eraseIdx i) n

theorem Balanced.idle_scene (h : Balanced me s) (hlease : s.idle[i]? = some lease) :
    Idle s.maps (s.others i) (s.scene lease) := by
  obtain ⟨hi, hget⟩ := List.getElem?_eq_some_iff.mp hlease
  have hidle := h.idle lease (List.mem_of_getElem? hlease)
  refine ⟨lease.kept, hidle.closed, rfl, hidle.active, hidle.reentrant, hidle.parent, rfl,
    h.nodup, fun n => ?_⟩
  have hperm : s.idle.Perm (lease :: s.idle.eraseIdx i) := by
    rw [← hget]
    exact (List.getElem_cons_eraseIdx_perm hi).symm
  have hcount := h.count n
  rw [holdings_perm hperm, holdings_cons] at hcount
  dsimp only [Session.scene, Session.others]
  omega

theorem Idle.isIdle {base : Active} {frame : Nat → Nat} {scene : Scene}
    (h : Idle base frame scene) : scene.self.IsIdle := by
  obtain ⟨kept, hclosed, h⟩ := h
  exact ⟨h.active, h.reentrant, h.parent, h.kept ▸ hclosed⟩

theorem Balanced.withIdle (h : Balanced me s) (hlease : s.idle[i]? = some lease) {scene : Scene}
    (hscene : Idle s.maps (s.others i) scene) : Balanced me (s.withIdle i scene) := by
  obtain ⟨hi, -⟩ := List.getElem?_eq_some_iff.mp hlease
  have hisIdle := hscene.isIdle
  obtain ⟨kept, -, hpending⟩ := hscene
  refine ⟨hpending.maps.trans h.maps, h.opened, fun l hl => ?_, hpending.owns.nodup, fun n => ?_⟩
  · rcases List.mem_or_eq_of_mem_set hl with hl | rfl
    · exact h.idle l hl
    · exact hisIdle
  · have hcount := hpending.owns.count n
    dsimp only [Session.withIdle, Session.others] at hcount ⊢
    rw [holdings_perm (List.set_perm_cons_eraseIdx hi _), holdings_cons]
    omega

theorem Balanced.covers (h : Balanced me s) : Covers (s.others i) s.maps := by
  rw [h.maps]
  exact covers_openAll h.opened fun n => Nat.le_add_right _ _

theorem Balanced.coherent (h : Balanced me s) : Active.Coherent me s.maps := by
  rw [h.maps]
  exact coherent_openAll h.opened

/-- An enter that holds its lease puts it on the stack. -/
theorem Balanced.entered (h : Balanced me s) {scene : Scene}
    (hscene : Held me s.maps (s.others i) scene) :
    Balanced me ⟨scene.sys, scene.maps, scene.self :: s.opened, s.idle.eraseIdx i⟩ := by
  obtain ⟨key, info, hkey, hinfo, hmaps⟩ := hscene.entered
  refine ⟨?_, fun l hl => ?_, fun l hl => h.idle l (List.mem_of_mem_eraseIdx hl),
    hscene.owns.nodup, fun n => ?_⟩
  · dsimp only
    rw [openAll_cons hkey hinfo, ← h.maps]
    exact hmaps
  · rcases List.mem_cons.mp hl with rfl | hl
    · exact ⟨hscene.active, ⟨key, info, hkey, hinfo⟩, hscene.inside⟩
    · exact h.opened l hl
  · have hcount := hscene.owns.count n
    dsimp only [Session.others] at hcount ⊢
    rw [holdings_cons]
    omega

/-- The innermost lease, before it is left. -/
theorem Balanced.held (h : Balanced me s) (hopened : s.opened = lease :: rest) :
    Held me (openAll me rest) (fun n => holdings rest n + holdings s.idle n) (s.scene lease) := by
  have hopen := h.opened lease (hopened ▸ List.mem_cons_self)
  obtain ⟨key, info, hkey, hinfo⟩ := hopen.found
  refine ⟨hopen.active, ⟨key, info, hkey, hinfo, ?_⟩, ⟨h.nodup, fun n => ?_⟩, hopen.inside⟩
  · dsimp only [Session.scene]
    rw [h.maps, hopened]
    exact openAll_cons hkey hinfo
  · have hcount := h.count n
    rw [hopened, holdings_cons] at hcount
    dsimp only [Session.scene]
    omega

theorem Balanced.left (h : Balanced me s) (hopened : s.opened = lease :: rest) {scene : Scene}
    (hscene : Idle (openAll me rest) (fun n => holdings rest n + holdings s.idle n) scene) :
    Balanced me ⟨scene.sys, scene.maps, rest, scene.self :: s.idle⟩ := by
  have hisIdle := hscene.isIdle
  obtain ⟨kept, -, hpending⟩ := hscene
  refine ⟨hpending.maps, fun l hl => h.opened l (hopened ▸ List.mem_cons_of_mem _ hl),
    fun l hl => ?_, hpending.owns.nodup, fun n => ?_⟩
  · rcases List.mem_cons.mp hl with rfl | hl
    · exact hisIdle
    · exact h.idle l hl
  · have hcount := hpending.owns.count n
    dsimp only at hcount ⊢
    rw [holdings_cons]
    omega

/-- What one action keeps. -/
theorem Balanced.step [Hashing] {a : Action} (h : Balanced me s) (hstep : Step me s a s') :
    Balanced me s' := by
  have htaken := hstep.taken
  cases a with
  | create cwd root exclusive timeoutSeconds =>
    obtain rfl := Option.some.inj htaken
    refine ⟨h.maps, h.opened, fun l hl => ?_, h.nodup, fun n => ?_⟩
    · rcases List.mem_cons.mp hl with rfl | hl
      · exact ⟨rfl, rfl, fun _ => rfl, ⟨rfl, rfl, rfl, rfl⟩⟩
      · exact h.idle l hl
    · dsimp only
      rw [holdings_cons, h.count n]
      exact congrArg (holdings s.opened n + ·) (Nat.zero_add _).symm
  | prepare i =>
    obtain ⟨lease, hlease, rfl⟩ := Option.map_eq_some_iff.mp htaken
    exact h.withIdle hlease (after_final (idle_prepareAnchor (h.idle_scene hlease)))
  | enter i =>
    obtain ⟨lease, hlease, rfl⟩ := Option.map_eq_some_iff.mp htaken
    have hafter := held_enter h.coherent h.covers (h.idle_scene hlease)
      (hstep.kept i lease rfl hlease)
    split
    · exact h.entered (hafter.ok ‹_›)
    · exact h.withIdle hlease (hafter.error ‹_›)
  | exit exc =>
    cases hopened : s.opened with
    | nil =>
      rw [Session.step, hopened] at htaken
      contradiction
    | cons lease rest =>
      rw [Session.step, hopened] at htaken
      obtain rfl := Option.some.inj htaken
      have hopen : ∀ l ∈ rest, l.IsOpen := fun l hl =>
        h.opened l (hopened ▸ List.mem_cons_of_mem _ hl)
      exact h.left hopened (after_final (idle_exit (coherent_openAll hopen)
        (covers_openAll hopen fun n => Nat.le_add_right _ _) (h.held hopened) exc))
  | release i =>
    obtain ⟨lease, hlease, rfl⟩ := Option.map_eq_some_iff.mp htaken
    exact h.withIdle hlease (after_final (idle_release (h.idle_scene hlease).unentered))

end

end Paic.Leases
