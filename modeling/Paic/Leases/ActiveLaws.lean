import Paic.Leases.Lease

/-!
# A lease in the four maps

What a lease writes into the context variables when it becomes active is a
function of the maps and of the lease, and what it writes when it is
released undoes it.
-/

namespace Paic.Leases

namespace Active

/-- A domain's entry with one more lease. -/
def enteredDomain (me : Owner) (exclusive : Bool) : Option ActiveDomain → ActiveDomain
  | none => ⟨exclusive, 1, me⟩
  | some current => ⟨current.exclusive, current.count + 1, current.owner⟩

/-- A parent's entry with one more lease. -/
def enteredParent (me : Owner) (info : Stat) : Option ActiveParent → ActiveParent
  | none => ⟨info.dev, info.ino, 1, me⟩
  | some current => ⟨current.dev, current.ino, current.count + 1, me⟩

/-- The root's descriptor and path, if the root was there to be opened. -/
def rooted (me : Owner) (root : Path) (active : Active) : Option Nat → Active
  | none => active
  | some fd => (active.setActiveRootFd fd (some me)).pushActiveRoot root fd me

def unrooted (me : Owner) (root : Path) (active : Active) : Option Nat → Active
  | none => active
  | some fd => (active.popActiveRoot root fd me).setActiveRootFd fd none

/-- The maps with one more lease. -/
def entered (me : Owner) (active : Active) (lease : ArtifactLease) (key : Path) (info : Stat) :
    Active :=
  let parents := active.setActiveParent lease.parent
    (some (enteredParent me info (active.parents.get lease.parent)))
  (rooted me lease.root parents lease.rootFd).setActiveDomain key
    (some (enteredDomain me lease.exclusive (active.domains.get key)))

/-- What one owner's open leases leave in the maps. -/
structure Coherent (me : Owner) (active : Active) : Prop where
  domains : ∀ {key entry}, active.domains.get key = some entry → entry.owner = me ∧ 0 < entry.count
  parents : ∀ {key entry}, active.parents.get key = some entry → entry.owner = me ∧ 0 < entry.count
  rootPaths : ∀ {root entries}, active.rootPaths.get root = some entries → entries ≠ []

theorem coherent_empty (me : Owner) : Coherent me empty := ⟨nofun, nofun, nofun⟩

theorem withoutLast_append [DecidableEq α] (x : α) (l : List α) : withoutLast x (l ++ [x]) = l := by
  simp [withoutLast]

-- ---------------------------------------------------------------------------
-- Leaving
-- ---------------------------------------------------------------------------

/-- A domain's entry with one lease less. -/
def leftDomain (current : ActiveDomain) : Option ActiveDomain :=
  if current.count ≤ 1 then none
  else some ⟨current.exclusive, current.count - 1, current.owner⟩

def leftParent (me : Owner) (current : ActiveParent) : Option ActiveParent :=
  if current.count ≤ 1 then none else some ⟨current.dev, current.ino, current.count - 1, me⟩

theorem leftDomain_enteredDomain {entry : Option ActiveDomain} (me : Owner) (exclusive : Bool)
    (h : ∀ current, entry = some current → 0 < current.count) :
    leftDomain (enteredDomain me exclusive entry) = entry := by
  cases entry with
  | none => rfl
  | some current =>
    have hpos := h current rfl
    rw [enteredDomain, leftDomain, if_neg (by dsimp only; omega)]
    rfl

theorem leftParent_enteredParent {entry : Option ActiveParent} (me : Owner) (info : Stat)
    (h : ∀ current, entry = some current → current.owner = me ∧ 0 < current.count) :
    leftParent me (enteredParent me info entry) = entry := by
  cases entry with
  | none => rfl
  | some current =>
    obtain ⟨rfl, hpos⟩ := h current rfl
    rw [enteredParent, leftParent, if_neg (by dsimp only; omega)]
    rfl

theorem enteredParent_owner (me : Owner) (info : Stat) (entry : Option ActiveParent) :
    (enteredParent me info entry).owner = me := by
  cases entry <;> rfl

section
variable {me : Owner} {base : Active} {root key : Path} {fd : Option Nat}

theorem rooted_domains : (rooted me root base fd).domains = base.domains := by
  cases fd <;> rfl

theorem rooted_parents : (rooted me root base fd).parents = base.parents := by
  cases fd <;> rfl

/-- Taking the root out again, whatever happened to the other two maps. -/
theorem unrooted_rooted (hpaths : ∀ entries, base.rootPaths.get root = some entries → entries ≠ [])
    (hfd : ∀ n, fd = some n → base.rootFds.get n = none)
    (other : Active) (hfds : other.rootFds = (rooted me root base fd).rootFds)
    (hroots : other.rootPaths = (rooted me root base fd).rootPaths) :
    unrooted me root other fd = { other with rootFds := base.rootFds, rootPaths := base.rootPaths } := by
  cases fd with
  | none =>
    cases other
    exact congrArg₂ (Active.mk _ _) hfds hroots
  | some n =>
    have hcurrent : withoutLast (n, me) ((other.rootPaths.get root).getD []) =
        (base.rootPaths.get root).getD [] := by
      rw [hroots]
      dsimp only [rooted, pushActiveRoot, setActiveRootFd]
      rw [Dict.get_set, if_pos rfl, Option.getD_some, withoutLast_append]
    have hback : (if (base.rootPaths.get root).getD [] = [] then none
        else some ((base.rootPaths.get root).getD [])) = base.rootPaths.get root := by
      cases hget : base.rootPaths.get root with
      | none => rfl
      | some entries => exact if_neg (hpaths entries hget)
    have hpop : (other.popActiveRoot root n me).rootPaths = base.rootPaths := by
      dsimp only [popActiveRoot]
      simp only [hcurrent]
      rw [hback, hroots]
      exact Dict.assign_set
    have hset : (other.rootFds.assign n none) = base.rootFds := by
      rw [hfds, ← hfd n rfl]
      exact Dict.assign_set
    rw [unrooted, setActiveRootFd, hpop]
    exact congrArg (fun fds => { other with rootFds := fds, rootPaths := base.rootPaths }) hset

variable {lease : ArtifactLease} {info : Stat}

theorem entered_domains : (entered me base lease key info).domains =
    base.domains.set key (enteredDomain me lease.exclusive (base.domains.get key)) := by
  dsimp only [entered, setActiveDomain]
  rw [rooted_domains]
  rfl

theorem entered_parents : (entered me base lease key info).parents =
    base.parents.set lease.parent (enteredParent me info (base.parents.get lease.parent)) := by
  dsimp only [entered, setActiveDomain]
  rw [rooted_parents]
  rfl

theorem entered_rootFds :
    (entered me base lease key info).rootFds = (rooted me lease.root base lease.rootFd).rootFds := by
  dsimp only [entered, setActiveDomain]
  cases lease.rootFd <;> rfl

theorem entered_rootPaths : (entered me base lease key info).rootPaths =
    (rooted me lease.root base lease.rootFd).rootPaths := by
  dsimp only [entered, setActiveDomain]
  cases lease.rootFd <;> rfl

theorem coherent_entered (h : Coherent me base) : Coherent me (entered me base lease key info) where
  domains := by
    intro key' entry hget
    rw [entered_domains, Dict.get_set] at hget
    split at hget
    · obtain rfl := Option.some.inj hget
      cases hbase : base.domains.get key with
      | none => exact ⟨rfl, Nat.one_pos⟩
      | some current => exact ⟨(h.domains hbase).1, Nat.succ_pos _⟩
    · exact h.domains hget
  parents := by
    intro key' entry hget
    rw [entered_parents, Dict.get_set] at hget
    split at hget
    · obtain rfl := Option.some.inj hget
      cases hbase : base.parents.get lease.parent with
      | none => exact ⟨rfl, Nat.one_pos⟩
      | some current => exact ⟨rfl, Nat.succ_pos _⟩
    · exact h.parents hget
  rootPaths := by
    intro root' entries hget
    rw [entered_rootPaths] at hget
    cases hroot : lease.rootFd with
    | none =>
      rw [hroot] at hget
      exact h.rootPaths hget
    | some fd =>
      rw [hroot] at hget
      dsimp only [rooted, pushActiveRoot, setActiveRootFd] at hget
      rw [Dict.get_set] at hget
      split at hget
      · obtain rfl := Option.some.inj hget
        simp
      · exact h.rootPaths hget

end

end Active

-- ---------------------------------------------------------------------------
-- The methods on the maps
-- ---------------------------------------------------------------------------

open Routine

section
variable {scene : Scene} {α : Type}

@[simp] theorem after_self {Q : ArtifactLease → Scene → Prop} {E : Exc → Scene → Prop} :
    After self scene Q E ↔ Q scene.self scene := Iff.rfl

@[simp] theorem after_maps {Q : Active → Scene → Prop} {E : Exc → Scene → Prop} :
    After maps scene Q E ↔ Q scene.maps scene := Iff.rfl

@[simp] theorem after_setSelf {f : ArtifactLease → ArtifactLease} {Q : Unit → Scene → Prop}
    {E : Exc → Scene → Prop} :
    After (setSelf f) scene Q E ↔ Q () { scene with self := f scene.self } := Iff.rfl

@[simp] theorem after_setMaps {f : Active → Active} {Q : Unit → Scene → Prop}
    {E : Exc → Scene → Prop} :
    After (setMaps f) scene Q E ↔ Q () { scene with maps := f scene.maps } := Iff.rfl

variable {me : Owner} {base : Active} {key : Path} {info : Stat}

theorem after_popRoot : After (popRoot me) scene
    (fun _ scene' => scene' =
      { scene with maps := Active.unrooted me scene.self.root scene.maps scene.self.rootFd })
    fun _ _ => False := by
  rw [popRoot, after_bind, after_self]
  cases hfd : scene.self.rootFd <;> rfl

theorem after_pushRoot : After (pushRoot me) scene
    (fun _ scene' => scene' =
      { scene with maps := Active.rooted me scene.self.root scene.maps scene.self.rootFd })
    fun _ _ => False := by
  rw [pushRoot, after_bind, after_self]
  cases hfd : scene.self.rootFd <;> rfl

theorem after_releaseActiveParent {entry : ActiveParent}
    (hentry : scene.maps.parents.get scene.self.parent = some entry) (howner : entry.owner = me) :
    After (releaseActiveParent me) scene
      (fun _ scene' => scene' = { scene with
        maps := scene.maps.setActiveParent scene.self.parent (Active.leftParent me entry) })
      fun _ _ => False := by
  rw [releaseActiveParent, after_bind, after_self, after_bind, after_maps, hentry]
  dsimp only
  rw [if_pos howner]
  rfl

theorem after_unmarkActive_idle (h : scene.self.active = false) :
    After (unmarkActive me) scene (fun _ scene' => scene' = scene) fun _ _ => False := by
  rw [unmarkActive, after_bind, after_self, h]
  rfl

/-- Releasing an active lease restores the maps. -/
theorem after_unmarkActive (hbase : Active.Coherent me base)
    (hmaps : scene.maps = Active.entered me base scene.self key info)
    (hactive : scene.self.active = true) (hkey : scene.self.domainKey = some key)
    (hfd : ∀ n, scene.self.rootFd = some n → base.rootFds.get n = none) :
    After (unmarkActive me) scene
      (fun _ scene' => scene' =
        { scene with maps := base, self := { scene.self with active := false } })
      fun _ _ => False := by
  have hdomains : scene.maps.domains = base.domains.set key
      (Active.enteredDomain me scene.self.exclusive (base.domains.get key)) := by
    rw [hmaps, Active.entered_domains]
  have hparents : scene.maps.parents = base.parents.set scene.self.parent
      (Active.enteredParent me info (base.parents.get scene.self.parent)) := by
    rw [hmaps, Active.entered_parents]
  have hdomain : scene.maps.domains.get key =
      some (Active.enteredDomain me scene.self.exclusive (base.domains.get key)) := by
    rw [hdomains, Dict.get_set, if_pos rfl]
  have hunrooted : Active.unrooted me scene.self.root scene.maps scene.self.rootFd =
      { scene.maps with rootFds := base.rootFds, rootPaths := base.rootPaths } := by
    refine Active.unrooted_rooted (fun entries h => hbase.rootPaths h) hfd scene.maps ?_ ?_
    · rw [hmaps, Active.entered_rootFds]
    · rw [hmaps, Active.entered_rootPaths]
  rw [unmarkActive, after_bind, after_self, hactive, hkey]
  dsimp only
  rw [after_bind, after_maps, hdomain]
  dsimp only
  rw [after_bind]
  refine after_popRoot.mono ?_ fun _ _ => False.elim
  rintro - scene₁ rfl
  rw [hunrooted, after_bind]
  have hparent : scene.maps.parents.get scene.self.parent =
      some (Active.enteredParent me info (base.parents.get scene.self.parent)) := by
    rw [hparents, Dict.get_set, if_pos rfl]
  refine After.mono (after_releaseActiveParent hparent (Active.enteredParent_owner me info _)) ?_
    fun _ _ => False.elim
  rintro - scene₂ rfl
  rw [after_bind, after_setMaps, after_setSelf]
  have hleft : scene.maps.domains.assign key (Active.leftDomain
      (Active.enteredDomain me scene.self.exclusive (base.domains.get key))) = base.domains := by
    rw [hdomains, Active.leftDomain_enteredDomain me _ fun _ h => (hbase.domains h).2]
    exact Dict.assign_set
  have hleft' : scene.maps.parents.assign scene.self.parent (Active.leftParent me
      (Active.enteredParent me info (base.parents.get scene.self.parent))) = base.parents := by
    rw [hparents, Active.leftParent_enteredParent me info fun _ h => hbase.parents h]
    exact Dict.assign_set
  refine congrArg (fun maps => Scene.mk scene.sys maps _) ?_
  exact congrArg₂ (fun domains parents => Active.mk domains parents _ _) hleft hleft'

theorem after_recordActiveParent (hinfo : scene.self.parentInfo = some info)
    (hparent : ∀ entry, scene.maps.parents.get scene.self.parent = some entry →
      entry.owner = me ∧ (entry.dev, entry.ino) = (info.dev, info.ino)) :
    After (recordActiveParent me) scene
      (fun _ scene' => scene' = { scene with
        maps := scene.maps.setActiveParent scene.self.parent
          (some (Active.enteredParent me info (scene.maps.parents.get scene.self.parent))) })
      fun _ _ => False := by
  rw [recordActiveParent, after_bind, after_self, after_bind, after_need, hinfo]
  refine ⟨?_, nofun⟩
  rintro _ ⟨⟩
  rw [after_bind, after_maps]
  cases hget : scene.maps.parents.get scene.self.parent with
  | none => rfl
  | some entry =>
    obtain ⟨howner, hsame⟩ := hparent entry hget
    dsimp only
    rw [after_bind, after_raiseIf]
    exact ⟨fun h => absurd h (by simp [howner, hsame]), fun _ => rfl⟩

/-- The parent directory is not the one that is active under its path. -/
theorem after_recordActiveParent_changed {entry : ActiveParent}
    (hinfo : scene.self.parentInfo = some info)
    (hget : scene.maps.parents.get scene.self.parent = some entry)
    (hchanged : (entry.dev, entry.ino) ≠ (info.dev, info.ino)) :
    After (recordActiveParent me) scene (fun _ _ => False) fun _ scene' => scene' = scene := by
  rw [recordActiveParent, after_bind, after_self, after_bind, after_need, hinfo]
  refine ⟨?_, nofun⟩
  rintro _ ⟨⟩
  rw [after_bind, after_maps, hget]
  dsimp only
  rw [after_bind, after_raiseIf]
  exact ⟨fun _ => rfl, fun h => absurd (Or.inr hchanged) h⟩

theorem after_markDomain (hnone : scene.maps.domains.get key = none) :
    After (markDomain me key) scene
      (fun _ scene' => scene' = { scene with
        maps := scene.maps.setActiveDomain key (some ⟨scene.self.exclusive, 1, me⟩) })
      fun _ _ => False := by
  rw [markDomain, after_bind, after_self, after_bind, after_maps, hnone]
  rfl

/-- The parent directory, where it is active, is the one that was active before. -/
def Compatible (scene : Scene) : Prop :=
  ∀ info, scene.self.parentInfo = some info →
    ∀ entry, scene.maps.parents.get scene.self.parent = some entry →
      (entry.dev, entry.ino) = (info.dev, info.ino)

theorem after_markActive (hbase : Active.Coherent me scene.maps)
    (hkey : scene.self.domainKey = some key) (hnone : scene.maps.domains.get key = none)
    (hinfo : scene.self.parentInfo = some info) (hcompatible : Compatible scene) :
    After (markActive me) scene
      (fun _ scene' => scene' = { scene with
        maps := Active.entered me scene.maps scene.self key info
        self := { scene.self with active := true } })
      fun _ _ => False := by
  rw [markActive, after_bind, after_self, after_bind, after_need, hkey]
  refine ⟨?_, nofun⟩
  rintro _ ⟨⟩
  rw [after_bind]
  refine After.mono (after_markDomain hnone) ?_ fun _ _ => False.elim
  rintro - scene₁ rfl
  rw [after_bind]
  refine After.mono (after_recordActiveParent hinfo fun entry hentry => ?_) ?_ fun _ _ => False.elim
  · exact ⟨(hbase.parents hentry).1, hcompatible info hinfo entry hentry⟩
  rintro - scene₂ rfl
  rw [after_bind]
  refine After.mono after_pushRoot ?_ fun _ _ => False.elim
  rintro - scene₃ rfl
  rw [after_setSelf]
  refine congrArg (fun maps => Scene.mk scene.sys maps _) ?_
  dsimp only [Active.entered]
  rw [hnone]
  cases hroot : scene.self.rootFd <;> rfl

/-- `_mark_active` raises where the parent was replaced, and leaves the domain
registered. -/
theorem after_markActive_changed {entry : ActiveParent} (hkey : scene.self.domainKey = some key)
    (hnone : scene.maps.domains.get key = none) (hinfo : scene.self.parentInfo = some info)
    (hget : scene.maps.parents.get scene.self.parent = some entry)
    (hchanged : (entry.dev, entry.ino) ≠ (info.dev, info.ino)) :
    After (markActive me) scene (fun _ _ => False)
      fun _ scene' => scene' = { scene with
        maps := scene.maps.setActiveDomain key (some ⟨scene.self.exclusive, 1, me⟩) } := by
  rw [markActive, after_bind, after_self, after_bind, after_need, hkey]
  refine ⟨?_, nofun⟩
  rintro _ ⟨⟩
  rw [after_bind]
  refine After.mono (after_markDomain hnone) ?_ fun _ _ => False.elim
  rintro - scene₁ rfl
  rw [after_bind]
  exact After.mono (after_recordActiveParent_changed hinfo hget hchanged) (fun _ _ => False.elim)
    fun _ _ h => h

end

end Paic.Leases
