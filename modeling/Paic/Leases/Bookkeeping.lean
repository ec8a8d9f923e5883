import Paic.Leases.Sessions
import Paic.Platform

/-!
# The bookkeeping of nested leases

A run whose enters keep to the active parent directories leaves the maps as
its stack of leases says. Without the condition an enter can fail between
the two parts of `_mark_active`, and the domain it had registered stays.
-/

namespace Paic.Leases

open Routine

-- ---------------------------------------------------------------------------
-- The longest root
-- ---------------------------------------------------------------------------

theorem normalized_proper {path : Path} (h : "" ∉ path) (part : String) :
    "" ∉ normalized path part := by
  unfold normalized
  split
  · exact h
  · split
    · exact fun hmem => h (List.dropLast_subset path hmem)
    · rename_i hpart _
      rw [List.mem_append, List.mem_singleton]
      exact not_or.mpr ⟨h, fun heq => hpart (.inl heq.symm)⟩

/-- No name of a canonical path is empty. -/
theorem canonicalRoot_proper {cwd : Path} (h : "" ∉ cwd) (root : GivenPath) :
    "" ∉ canonicalRoot cwd root := by
  unfold canonicalRoot
  have hstart : "" ∉ (if root.absolute then [] else cwd) := by
    split
    · exact List.not_mem_nil
    · exact h
  generalize (if root.absolute then [] else cwd) = start at hstart
  induction root.parts generalizing start with
  | nil => exact hstart
  | cons part rest ih => exact ih _ (normalized_proper hstart part)

/-- Of two prefixes of a path the shorter has the shorter text. -/
theorem text_length_lt {p q : Path} (hpre : p <+: q) (hne : p ≠ q) (hproper : "" ∉ q) :
    p.text.length < q.text.length := by
  obtain ⟨rest, rfl⟩ := hpre
  cases rest with
  | nil => exact absurd (List.append_nil p).symm hne
  | cons name rest =>
    have hname : name.toList.length ≠ 0 := by
      intro hzero
      have hempty : name = "" := by simpa using hzero
      exact hproper (by simp [hempty])
    cases p with
    | nil =>
      simp only [Path.text, List.nil_append, if_true, List.cons_ne_nil, if_false,
        List.flatMap_cons, List.length_append, List.length_cons, List.length_nil]
      omega
    | cons first front =>
      simp only [Path.text, List.cons_append, List.cons_ne_nil, if_false, List.flatMap_cons,
        List.flatMap_append, List.length_append, List.length_cons]
      omega

section
variable {isDir : Path → Bool} {me : Owner} {candidate root : Path} {fd : Nat}

/-- The loop stops at the longest root that the candidate is under. -/
theorem firstRoot_longest {roots : List (Path × List (Nat × Owner))}
    (hsorted : roots.Pairwise fun a b => b.1.text.length ≤ a.1.text.length)
    (hkeys : (roots.map Prod.fst).Nodup)
    (howned : ∀ e ∈ roots, ∃ n, e.2.getLast? = some (n, me))
    {entries : List (Nat × Owner)} (hmem : (root, entries) ∈ roots)
    (hlast : entries.getLast? = some (fd, me)) (hpre : root <+: candidate)
    (hlongest : ∀ e ∈ roots, e.1 <+: candidate → e.1 ≠ root → e.1.text.length < root.text.length) :
    firstRoot isDir me candidate roots =
      anchored isDir candidate fd (candidate.drop root.length) := by
  induction roots with
  | nil => exact absurd hmem List.not_mem_nil
  | cons e rest ih =>
    obtain ⟨path, held⟩ := e
    rw [List.pairwise_cons] at hsorted
    rw [List.map_cons, List.nodup_cons] at hkeys
    obtain ⟨n, hn⟩ := howned _ List.mem_cons_self
    rw [firstRoot, hn]
    dsimp only
    rw [if_neg (not_not_intro rfl)]
    rcases List.mem_cons.mp hmem with heq | hrest
    · obtain ⟨rfl, rfl⟩ := Prod.mk.inj heq
      obtain rfl : n = fd := by simpa using hn.symm.trans hlast
      have hrelative : relativeTo candidate root = some (candidate.drop root.length) := if_pos hpre
      simp only [hrelative]
    · have hne : path ≠ root := by
        rintro rfl
        exact hkeys.1 (List.mem_map.mpr ⟨_, hrest, rfl⟩)
      have hnot : ¬ path <+: candidate := by
        intro hpath
        have hlt := hlongest _ List.mem_cons_self hpath hne
        have hle := hsorted.1 _ hrest
        dsimp only at hlt hle
        omega
      have hrelative : relativeTo candidate path = none := if_neg hnot
      simp only [hrelative]
      exact ih hsorted.2 hkeys.2 (fun e he => howned e (List.mem_cons_of_mem _ he)) hrest
        fun e he => hlongest e (List.mem_cons_of_mem _ he)

theorem longestFirst_perm (roots : List (Path × List (Nat × Owner))) :
    (longestFirst roots).Perm roots := List.mergeSort_perm _ _

theorem longestFirst_sorted (roots : List (Path × List (Nat × Owner))) :
    (longestFirst roots).Pairwise fun a b => b.1.text.length ≤ a.1.text.length := by
  refine (List.pairwise_mergeSort ?_ ?_ roots).imp fun h => by simpa using h
  · intro a b c hab hbc
    simp only [decide_eq_true_eq] at hab hbc ⊢
    omega
  · intro a b
    simp only [Bool.or_eq_true, decide_eq_true_eq]
    omega

theorem firstRoot_elsewhere {roots : List (Path × List (Nat × Owner))}
    (h : ∀ e ∈ roots, ¬ e.1 <+: candidate) : firstRoot isDir me candidate roots = candidate := by
  induction roots with
  | nil => rfl
  | cons e rest ih =>
    obtain ⟨path, held⟩ := e
    have hrest := ih fun e he => h e (List.mem_cons_of_mem _ he)
    rw [firstRoot, relativeTo, if_neg (h _ List.mem_cons_self)]
    split
    · exact hrest
    · split <;> exact hrest

variable {s : Session} {cwd : Path}

/-- The roots in the map are those of open leases, with the innermost descriptor last. -/
theorem Balanced.registered (h : Balanced me s) {e : Path × List (Nat × Owner)}
    (hmem : e ∈ s.maps.rootPaths.entries) :
    ∃ n, innermost s.opened e.1 = some n ∧ e.2.getLast? = some (n, me) := by
  have hget : s.maps.rootPaths.get e.1 = some e.2 := Dict.mem_get hmem
  have hlast := openAll_rootPaths me h.opened e.1
  rw [← h.maps, hget, Option.bind_some] at hlast
  have hne : e.2 ≠ [] := h.coherent.rootPaths hget
  rw [List.getLast?_eq_some_getLast hne] at hlast
  obtain ⟨n, hn, heq⟩ := Option.map_eq_some_iff.mp hlast.symm
  exact ⟨n, hn, (List.getLast?_eq_some_getLast hne).trans (congrArg some heq.symm)⟩

theorem Balanced.artifactPath_innermost (h : Balanced me s) (hcwd : "" ∉ cwd) (path : GivenPath)
    (hroot : innermost s.opened root = some fd) (hpre : root <+: canonicalRoot cwd path)
    (hlongest : ∀ other, innermost s.opened other ≠ none → other <+: canonicalRoot cwd path →
      other <+: root) :
    artifactPath isDir me s.maps cwd path =
      anchored isDir (canonicalRoot cwd path) fd ((canonicalRoot cwd path).drop root.length) := by
  have hperm := longestFirst_perm s.maps.rootPaths.entries
  have hentries := openAll_rootPaths me h.opened root
  rw [← h.maps, hroot, Option.map_some] at hentries
  obtain ⟨entries, hget, hlast⟩ := Option.bind_eq_some_iff.mp hentries
  refine firstRoot_longest (longestFirst_sorted _)
    ((hperm.map Prod.fst).nodup_iff.mpr s.maps.rootPaths.keys_nodup) (fun e he => ?_)
    (hperm.mem_iff.mpr (Dict.get_mem hget)) hlast hpre fun e he hpath hne => ?_
  · obtain ⟨n, -, hn⟩ := h.registered (hperm.mem_iff.mp he)
    exact ⟨n, hn⟩
  · obtain ⟨n, hn, -⟩ := h.registered (hperm.mem_iff.mp he)
    have hproper : "" ∉ root := fun hmem =>
      canonicalRoot_proper hcwd path (hpre.subset hmem)
    exact text_length_lt (hlongest e.1 (by simp [hn]) hpath) hne hproper

theorem Balanced.artifactPath_elsewhere (h : Balanced me s) (path : GivenPath)
    (hnone : ∀ other, innermost s.opened other ≠ none → ¬ other <+: canonicalRoot cwd path) :
    artifactPath isDir me s.maps cwd path = canonicalRoot cwd path := by
  refine firstRoot_elsewhere fun e he => ?_
  obtain ⟨n, hn, -⟩ := h.registered ((longestFirst_perm _).mem_iff.mp he)
  exact hnone e.1 (by simp [hn])

end

-- ---------------------------------------------------------------------------
-- Runs
-- ---------------------------------------------------------------------------

section
variable {me : Owner} {s s' s₁ s₂ s₃ : Session} {lease : ArtifactLease} {rest : List ArtifactLease}

theorem Session.Starts.balanced (h : s.Starts) : Balanced me s := by
  obtain ⟨htable, hmaps, hopened, hidle⟩ := h
  refine ⟨by rw [hmaps, hopened]; rfl, by simp [hopened], by simp [hidle], by simp [htable],
    fun n => ?_⟩
  rw [htable, hopened, hidle]
  rfl

/-- Sessions with one stack have the same maps. -/
theorem Balanced.maps_eq (h : Balanced me s) (h' : Balanced me s') (hopened : s'.opened = s.opened) :
    s'.maps = s.maps := by
  rw [h.maps, h'.maps, hopened]

theorem Balanced.domain_registered (h : Balanced me s) (key : Path) :
    s.maps.domains.get key ≠ none ↔ ∃ lease ∈ s.opened, lease.domainKey = some key := by
  have hcount := openAll_domains me h.opened key
  have hcoherent := h.coherent
  rw [← h.maps] at hcount
  have hpos : (∃ lease ∈ s.opened, lease.domainKey = some key) ↔
      0 < s.opened.countP fun lease => lease.domainKey = some key := by
    simp [List.countP_pos_iff]
  rw [hpos, ← hcount]
  cases hget : s.maps.domains.get key with
  | none => simp
  | some entry => simpa using (hcoherent.domains hget).2

theorem Balanced.domain_counted (h : Balanced me s) {key : Path} {entry : ActiveDomain}
    (hget : s.maps.domains.get key = some entry) :
    entry.count = s.opened.countP fun lease => lease.domainKey = some key := by
  have hcount := openAll_domains me h.opened key
  rwa [← h.maps, hget] at hcount

variable [Hashing]

theorem Reachable.balanced (h : Reachable me s) : Balanced me s := by
  induction h with
  | start h => exact h.balanced
  | step _ hstep ih => exact ih.step hstep

theorem exit_opened {exc : Option Exc} (h : Step me s (.exit exc) s')
    (hopened : s.opened = lease :: rest) : s'.opened = rest := by
  have htaken := h.taken
  rw [Session.step, hopened] at htaken
  obtain rfl := Option.some.inj htaken
  rfl

/-- A nested stretch leaves the stack as it was. -/
theorem Nested.balanced (h : Nested me s s') (hs : Balanced me s) :
    Balanced me s' ∧ s'.opened = s.opened := by
  induction h with
  | done => exact ⟨hs, rfl⟩
  | aside hstep hsame _ ih =>
    obtain ⟨hb, hopened⟩ := ih (hs.step hstep)
    exact ⟨hb, hopened.trans hsame⟩
  | block henter hopened _ hexit _ ihbody ihrest =>
    obtain ⟨hb, hbody⟩ := ihbody (hs.step henter)
    obtain ⟨hb', hrest⟩ := ihrest (hb.step hexit)
    exact ⟨hb', hrest.trans (exit_opened hexit (hbody.trans hopened))⟩

/-- What the four maps say of a session's leases. -/
structure Bookkeeping (me : Owner) (s : Session) : Prop where
  /-- A lease that is left takes out of the maps what it had put there. -/
  exits : ∀ {i exc lease s₁ s₂ s₃}, Step me s (.enter i) s₁ → s₁.opened = lease :: s.opened →
    Nested me s₁ s₂ → Step me s₂ (.exit exc) s₃ → s₃.maps = s.maps
  /-- So does one that could not be entered, and a lease that is released again. -/
  failures : ∀ {a s'}, Step me s a s' → s'.opened = s.opened → s'.maps = s.maps
  registered : ∀ key,
    s.maps.domains.get key ≠ none ↔ ∃ lease ∈ s.opened, lease.domainKey = some key
  counted : ∀ {key entry}, s.maps.domains.get key = some entry →
    entry.count = s.opened.countP fun lease => lease.domainKey = some key
  paths : ∀ {isDir cwd path root fd descriptor}, "" ∉ cwd →
    innermost s.opened root = some fd → root <+: canonicalRoot cwd path →
    (∀ other, innermost s.opened other ≠ none → other <+: canonicalRoot cwd path →
      other <+: root) →
    descriptorRoot isDir fd = some descriptor →
    artifactPath isDir me s.maps cwd path =
      descriptor ++ (canonicalRoot cwd path).drop root.length
  elsewhere : ∀ {isDir cwd path},
    (∀ other, innermost s.opened other ≠ none → ¬ other <+: canonicalRoot cwd path) →
    artifactPath isDir me s.maps cwd path = canonicalRoot cwd path

/-- In every run whose enters keep to the active parent directories, the
bookkeeping of the leases is balanced. -/
theorem lease_bookkeeping (h : Reachable me s) : Bookkeeping me s := by
  have hs := h.balanced
  constructor
  case exits =>
    intro i exc lease s₁ s₂ s₃ henter hopened hbody hexit
    have h₁ := hs.step henter
    obtain ⟨h₂, hsame⟩ := hbody.balanced h₁
    exact hs.maps_eq (h₂.step hexit) (exit_opened hexit (hsame.trans hopened))
  case failures =>
    intro a s' hstep hopened
    exact hs.maps_eq (hs.step hstep) hopened
  case registered => exact hs.domain_registered
  case counted => exact fun hget => hs.domain_counted hget
  case paths =>
    intro isDir cwd path root fd descriptor hcwd hroot hpre hlongest hdescriptor
    rw [hs.artifactPath_innermost hcwd path hroot hpre hlongest, anchored, hdescriptor]
  case elsewhere => exact fun hnone => hs.artifactPath_elsewhere _ hnone

/-- In a balanced session the condition is the one under which an enter keeps
the balance. -/
theorem Balanced.enter_iff {i : Nat} (h : Balanced me s) (hlease : s.idle[i]? = some lease)
    (hstep : s.step me (.enter i) = some s') :
    Balanced me s' ↔ ParentKept me (s.scene lease) := by
  constructor
  · intro h' scene₂ harrives
    by_contra hnot
    have hafter := enter_leaves_domain h.coherent (h.idle_scene hlease) harrives hnot
    rw [Session.step, hlease] at hstep
    obtain rfl := Option.some.inj hstep
    dsimp only at h'
    split at h'
    · exact hafter.ok ‹_›
    · obtain ⟨key, hnone, hsome⟩ := hafter.error ‹_›
      have hmaps := h.maps_eq h' rfl
      dsimp only [Session.withIdle] at hmaps
      exact hsome (hmaps ▸ hnone)
  · intro hkept
    refine h.step ⟨hstep, ?_⟩
    rintro j lease' ⟨⟩ hlease'
    obtain rfl := Option.some.inj (hlease.symm.trans hlease')
    exact hkept

end

-- ---------------------------------------------------------------------------
-- A run
-- ---------------------------------------------------------------------------

namespace Sample

def directory (uid mode ino : Nat) : Stat := ⟨.directory, mode, 2, uid, 0, 1, ino⟩

def lockFile : Stat := ⟨.regular, 0o600, 1, 1000, 0, 1, 6⟩

def missing : OsError := ⟨.noent, "No such file or directory"⟩

/-- The user owns `/srv/data`, but not `/srv`. Once it is `replaced`, its
entries can be renamed, and `run` is another directory. -/
def lstat (replaced : Bool) (path : Path) : Except OsError Stat :=
  if path = ["srv"] then .ok (directory 0 0o755 1)
  else if path = ["srv", "data"] then .ok (directory 1000 (if replaced then 0o755 else 0o555) 2)
  else if path = ["srv", "data", "run"] then .ok (directory 1000 0o755 (if replaced then 4 else 3))
  else .error missing

/-- The inode of what is opened. -/
def inodeOf (replaced : Bool) : Target → Except OsError Nat
  | .directory path => (lstat replaced path).map Stat.ino
  | .anchor _ _ => .ok 5
  | .lockFile _ _ => .ok 6

/-- A descriptor above those that are open; its remainder by eight is the inode. -/
def newDescriptor (table : List Nat) (ino : Nat) : Nat := 8 * (table.sum + 1) + ino

theorem newDescriptor_not_mem (table : List Nat) (ino : Nat) : newDescriptor table ino ∉ table := by
  intro h
  obtain ⟨front, back, heq⟩ := List.append_of_mem h
  have hsum := congrArg List.sum heq
  simp only [List.sum_append, List.sum_cons, newDescriptor] at hsum
  omega

def kernel (replaced : Bool) : Kernel where
  euid := 1000
  egid := 1000
  groups := [1000]
  lstat := lstat replaced
  statAt _ name := .ok (if name = "out" then directory 1000 0o755 5 else lockFile)
  fstat fd := .ok <|
    if fd % 8 = 6 then lockFile
    else if fd % 8 = 1 then directory 0 0o755 1
    else directory 1000 0o755 (fd % 8)
  mkdir _ := .ok ()
  opens target table := (inodeOf replaced target).map (newDescriptor table)
  flock _ _ := .ok ()
  poll _ _ := .acquired
  unlock _ := .ok ()
  close _ := .ok ()
  read _ := .ok []
  overwrite _ _ := .ok ()
  opens_fresh := by
    intro target table fd h
    cases hino : inodeOf replaced target with
    | error e =>
      rw [hino] at h
      contradiction
    | ok ino =>
      rw [hino] at h
      obtain rfl := Except.ok.inj h
      exact newDescriptor_not_mem table ino

def me : Owner := ⟨1, none⟩

/-- The directory is replaced after so many system calls. -/
def start (calls : Nat) : Session := ⟨⟨fun n => kernel (decide (calls ≤ n)), []⟩, .empty, [], []⟩

def create : Action := .create [] ⟨true, ["srv", "data", "run", "out"]⟩ false none

def created : Session :=
  { start 1000 with idle := [artifactLease ["srv", "data", "run", "out"] false none] }

def opened : Session := (created.step me (.enter 0)).getD created

theorem reachable_created : Reachable me created := by
  refine .step (a := create) (.start (s := start 1000) ⟨rfl, rfl, rfl, rfl⟩) ⟨rfl, ?_⟩
  rintro i lease ⟨⟩

theorem opened_taken : created.step me (.enter 0) = some opened := by
  have htaken : (created.step me (.enter 0)).isSome = true := by simp [Session.step, created]
  obtain ⟨s, hs⟩ := Option.isSome_iff_exists.mp htaken
  rw [opened, hs]
  rfl

theorem reachable_opened : Reachable me opened := by
  refine .step (a := .enter 0) reachable_created ⟨opened_taken, ?_⟩
  rintro i lease ⟨⟩ hlease
  exact parentKept_of_free reachable_created.balanced.coherent
    (reachable_created.balanced.idle_scene hlease) rfl

/-- With one lease open, its domain counts one lease, and a path under its
root is taken relative to its descriptor. -/
theorem lease_bookkeeping_sample :
    ((opened.maps.domains.get ["srv", "data", "run"]).map ActiveDomain.count,
      opened.opened.map ArtifactLease.rootFd) = (some 1, [some 649133]) ∧
    (opened.maps.domains.get ["srv", "data", "run"] ≠ none ↔
      ∃ lease ∈ opened.opened, lease.domainKey = some ["srv", "data", "run"]) ∧
    artifactPath (fun _ => true) me opened.maps ["home"]
        ⟨true, ["srv", "data", "run", "out", ".", "rows.csv"]⟩ =
      ["proc", "self", "fd", "649133", "rows.csv"] := by
  have h := lease_bookkeeping reachable_opened
  refine ⟨by decide +kernel, h.registered _, ?_⟩
  have hroot : innermost opened.opened ["srv", "data", "run", "out"] = some 649133 := by
    decide +kernel
  have hroots : opened.opened.map ArtifactLease.root = [["srv", "data", "run", "out"]] := by
    decide +kernel
  refine (h.paths (by decide) hroot (by decide) (fun other hother _ => ?_) rfl).trans (by decide)
  have hmem := innermost_root hother
  rw [hroots, List.mem_singleton] at hmem
  exact hmem ▸ List.prefix_rfl

/-- A second lease under the same parent fails in `_mark_active` once the
parent has been replaced, and leaves its domain registered when none is open. -/
theorem domain_stays_registered :
    ((start 90).run me [create, create, .enter 0, .enter 0, .exit none]).map
        (fun s => (s.opened.length, s.maps.domains.get ["srv", "data"])) =
      some (0, some ⟨false, 1, me⟩) := by
  decide +kernel

end Sample

end Paic.Leases
