import Paic.Lib.Acyclic
import Paic.Lib.Sorted
import Mathlib

/-!
# The lineage graph

`_lineage_has_cycle` takes nodes away that no edge leads to any more, and looks
whether all of them went. `_semantic_issues` grows the set of nodes that are
reached from the sources until it stays the same.
-/

namespace Paic.Evidence

open Relation (TransGen ReflTransGen)
open Sorted (byKey)

abbrev Edge := String × String

-- ---------------------------------------------------------------------------
-- Taking nodes away
-- ---------------------------------------------------------------------------

/-- The dictionary `indegree`: its keys, and what it holds for each. -/
structure Degrees where
  keys : List String
  value : String → Int

/-- `indegree[node] = degree` -/
def Degrees.set (d : Degrees) (node : String) (degree : Int) : Degrees where
  keys := if node ∈ d.keys then d.keys else d.keys ++ [node]
  value := Function.update d.value node degree

/-- `{node: 0 for node in nodes}`, and one more for every edge to a node. -/
def indegrees (nodes : List String) (edges : List Edge) : Degrees :=
  edges.foldl (fun d e => d.set e.2 (d.value e.2 + 1))
    (nodes.foldl (fun d node => d.set node 0) ⟨[], fun _ => 0⟩)

/-- `adjacency[node]` -/
def adjacency (edges : List Edge) (node : String) : List String :=
  (edges.filter fun e => e.1 = node).map Prod.snd

/-- The variables of the loop over the queue. -/
structure CycleSearch where
  indegree : Degrees
  queue : List String
  visited : Nat

/-- The body of the loop over the downstream nodes. -/
def release (state : Degrees × List String) (downstream : String) : Degrees × List String :=
  let degree := state.1.value downstream - 1
  (state.1.set downstream degree, if degree = 0 then state.2 ++ [downstream] else state.2)

/-- The loop over the queue: the number of visited nodes, unless the fuel ends. -/
def visitQueue (edges : List Edge) : Nat → CycleSearch → Option Nat
  | 0, _ => none
  | fuel + 1, s =>
    match s.queue with
    | [] => some s.visited
    | node :: queue =>
      let (indegree, queue) := (byKey id (adjacency edges node)).foldl release (s.indegree, queue)
      visitQueue edges fuel ⟨indegree, queue, s.visited + 1⟩

/-- `_lineage_has_cycle` -/
def lineageHasCycle (fuel : Nat) (nodes : List String) (edges : List Edge) : Option Bool :=
  let indegree := indegrees nodes edges
  let queue := byKey id (indegree.keys.filter fun node => indegree.value node = 0)
  (visitQueue edges fuel ⟨indegree, queue, 0⟩).map fun visited => visited ≠ indegree.keys.length

/-- An edge leads from one node to the other. -/
def Leads (edges : List Edge) (u v : String) : Prop := (u, v) ∈ edges

section Degrees

theorem set_known {d : Degrees} (h : node ∈ d.keys) : (d.set node degree).keys = d.keys := if_pos h

@[simp] theorem set_value (d : Degrees) (node : String) (degree : Int) :
    (d.set node degree).value = Function.update d.value node degree := rfl

theorem mem_set_keys {d : Degrees} : v ∈ (d.set node degree).keys ↔ v ∈ d.keys ∨ v = node := by
  unfold Degrees.set
  split
  · next hmem =>
    constructor
    · exact .inl
    · rintro (hv | rfl)
      · exact hv
      · exact hmem
  · rw [List.mem_append, List.mem_singleton]

theorem set_nodup {d : Degrees} (h : d.keys.Nodup) : (d.set node degree).keys.Nodup := by
  unfold Degrees.set
  split
  · exact h
  · next hnew => exact h.append (List.nodup_singleton _) (List.disjoint_singleton.mpr hnew)

/-- The dictionary before the loop: all nodes, none of which has an edge yet. -/
theorem indegrees_start (nodes : List String) {d : Degrees} (hkeys : d.keys.Nodup)
    (hzero : ∀ v, d.value v = 0) :
    let start := nodes.foldl (fun d node => d.set node 0) d
    start.keys.Nodup ∧ (∀ v, v ∈ start.keys ↔ v ∈ d.keys ∨ v ∈ nodes) ∧
      ∀ v, start.value v = 0 := by
  induction nodes generalizing d with
  | nil => exact ⟨hkeys, by simp, hzero⟩
  | cons node nodes ih =>
    have hzero' : ∀ v, (d.set node 0).value v = 0 := by
      intro v
      by_cases hv : v = node
      · simp [hv]
      · simp [hv, hzero v]
    have hkeys' : (d.set node 0).keys.Nodup := set_nodup hkeys
    obtain ⟨hnodup, hmem, hvalue⟩ := ih hkeys' hzero'
    refine ⟨hnodup, fun v => ?_, hvalue⟩
    rw [List.foldl_cons, hmem, mem_set_keys, List.mem_cons, or_assoc]

theorem indegrees_edges (edges : List Edge) {d : Degrees} (hkeys : d.keys.Nodup)
    (hknown : ∀ e ∈ edges, e.2 ∈ d.keys) :
    let final := edges.foldl (fun d e => d.set e.2 (d.value e.2 + 1)) d
    final.keys = d.keys ∧ ∀ v, final.value v = d.value v + (edges.countP fun e => e.2 = v : Nat) := by
  induction edges generalizing d with
  | nil => simp
  | cons e edges ih =>
    obtain ⟨he, hrest⟩ := List.forall_mem_cons.mp hknown
    have hsame : (d.set e.2 (d.value e.2 + 1)).keys = d.keys := set_known he
    obtain ⟨hfinal, hvalue⟩ := ih (d := d.set e.2 (d.value e.2 + 1)) (hsame ▸ hkeys)
      (hsame ▸ hrest)
    refine ⟨hfinal.trans hsame, fun v => ?_⟩
    rw [List.foldl_cons, hvalue, set_value, List.countP_cons]
    by_cases hv : e.2 = v
    · subst hv
      simp
      omega
    · simp [hv, Ne.symm hv]

/-- The counts of the edges to each node. -/
theorem indegrees_eq {nodes : List String} {edges : List Edge} (hends : ∀ e ∈ edges, e.2 ∈ nodes) :
    (indegrees nodes edges).keys.Nodup ∧ (∀ v, v ∈ (indegrees nodes edges).keys ↔ v ∈ nodes) ∧
      ∀ v, (indegrees nodes edges).value v = (edges.countP fun e => e.2 = v : Nat) := by
  obtain ⟨hnodup, hmem, hzero⟩ :=
    indegrees_start nodes (d := ⟨[], fun _ => 0⟩) List.nodup_nil fun _ => rfl
  have hmem : ∀ v, v ∈ _ ↔ v ∈ nodes := fun v => (hmem v).trans (by simp)
  obtain ⟨hkeys, hvalue⟩ := indegrees_edges edges hnodup fun e he => (hmem _).mpr (hends e he)
  refine ⟨?_, fun v => ?_, fun v => ?_⟩
  · exact hkeys ▸ hnodup
  · rw [indegrees, hkeys, hmem]
  · rw [indegrees, hvalue, hzero, Int.zero_add]

end Degrees

-- ---------------------------------------------------------------------------
-- One node
-- ---------------------------------------------------------------------------

/-- The loop over the downstream nodes takes from the counts how often each node
is downstream, and queues those that come to zero. -/
theorem foldl_release {ds : List String} {d : Degrees} (queue : List String)
    (hknown : ∀ v ∈ ds, v ∈ d.keys) (hcount : ∀ v, (ds.count v : Int) ≤ d.value v ∨ v ∉ ds) :
    ∃ new, (ds.foldl release (d, queue)).2 = queue ++ new ∧ new.Nodup ∧
      (ds.foldl release (d, queue)).1.keys = d.keys ∧
      (∀ v, (ds.foldl release (d, queue)).1.value v = d.value v - ds.count v) ∧
      ∀ v, v ∈ new ↔ v ∈ ds ∧ d.value v = ds.count v := by
  induction ds generalizing d queue with
  | nil => exact ⟨[], by simp, List.nodup_nil, rfl, by simp, by simp⟩
  | cons w ds ih =>
    obtain ⟨hw, hrest⟩ := List.forall_mem_cons.mp hknown
    let degree := d.value w - 1
    have hkeys : (d.set w degree).keys = d.keys := set_known hw
    have hvalue : ∀ v, (d.set w degree).value v = d.value v - if v = w then 1 else 0 := by
      intro v
      by_cases hv : v = w
      · simp [hv, degree]
      · simp [hv]
    have hcons : ∀ v, ((w :: ds).count v : Int) = ds.count v + if v = w then 1 else 0 := by
      intro v
      by_cases hv : v = w
      · simp [hv]
      · simp [hv, Ne.symm hv]
    have hcount' : ∀ v, (ds.count v : Int) ≤ (d.set w degree).value v ∨ v ∉ ds := by
      intro v
      rcases hcount v with h | h
      · rw [hvalue]
        rw [hcons] at h
        exact .inl (by omega)
      · exact .inr fun hv => h (List.mem_cons_of_mem _ hv)
    have hwcount : (ds.count w : Int) ≤ degree := by
      have h := (hcount w).resolve_right fun h => h List.mem_cons_self
      rw [hcons, if_pos rfl] at h
      omega
    obtain ⟨new, hqueue, hnodup, hkeys', hvalue', hmem⟩ :=
      ih (if degree = 0 then queue ++ [w] else queue) (hkeys ▸ hrest) hcount'
    have hfinal : ∀ v, (ds.foldl release (release (d, queue) w)).1.value v =
        d.value v - (w :: ds).count v := by
      intro v
      refine (hvalue' v).trans ?_
      rw [hvalue, hcons]
      omega
    by_cases hzero : degree = 0
    · -- a node that comes to zero is not downstream again
      have hlast : w ∉ ds := List.count_eq_zero.mp (by omega)
      refine ⟨w :: new, ?_, ?_, hkeys'.trans hkeys, hfinal, fun v => ?_⟩
      · refine hqueue.trans ?_
        rw [if_pos hzero, List.append_assoc, List.singleton_append]
      · exact List.nodup_cons.mpr ⟨fun h => hlast ((hmem w).mp h).1, hnodup⟩
      · rw [List.mem_cons, List.mem_cons, hmem, hvalue, hcons]
        by_cases hv : v = w
        · subst hv
          have hcount : ds.count v = 0 := List.count_eq_zero.mpr hlast
          simp only [true_or, true_and, if_true, true_iff]
          omega
        · simp [hv]
    · refine ⟨new, hqueue.trans (by rw [if_neg hzero]), hnodup, hkeys'.trans hkeys, hfinal,
        fun v => ?_⟩
      rw [List.mem_cons, hmem, hvalue, hcons]
      by_cases hv : v = w
      · subst hv
        simp only [if_true, true_or, true_and]
        constructor
        · rintro ⟨-, h⟩
          omega
        · intro h
          refine ⟨List.count_pos_iff.mp ?_, by omega⟩
          omega
      · simp [hv]

-- ---------------------------------------------------------------------------
-- The queue
-- ---------------------------------------------------------------------------

/-- How many edges lead to a node from one that has not been visited. -/
def remaining (edges : List Edge) (done : List String) (v : String) : Nat :=
  edges.countP fun e => e.2 = v ∧ e.1 ∉ done

section Queue
variable {keys done : List String} {edges : List Edge} {s : CycleSearch}

theorem remaining_visit (edges : List Edge) (hnew : node ∉ done) (v : String) :
    remaining edges done v = remaining edges (done ++ [node]) v + (adjacency edges node).count v := by
  have hadjacent : (adjacency edges node).count v = edges.countP fun e => e.2 = v ∧ e.1 = node := by
    rw [adjacency, List.count_eq_countP, List.countP_map, List.countP_filter]
    refine List.countP_congr fun e _ => ?_
    simp [and_comm]
  rw [hadjacent, remaining, remaining]
  clear hadjacent
  induction edges with
  | nil => rfl
  | cons e edges ih =>
    rw [List.countP_cons, List.countP_cons, List.countP_cons, ih]
    by_cases hu : e.1 = node
    · by_cases hv : e.2 = v
      · simp [hu, hv, hnew]
        omega
      · simp [hv]
    · simp [hu]
      omega

theorem remaining_eq_zero : remaining edges done v = 0 ↔ ∀ u, Leads edges u v → u ∈ done := by
  rw [remaining, List.countP_eq_zero]
  constructor
  · intro h u hu
    by_contra hdone
    exact h _ hu (decide_eq_true ⟨rfl, hdone⟩)
  · rintro h ⟨u, w⟩ he hleft
    obtain ⟨rfl, hdone⟩ := of_decide_eq_true hleft
    exact hdone (h u he)

/-- `done` are the visited nodes, in their order. What waits in the queue has
only visited nodes before it. -/
structure Visiting (keys : List String) (edges : List Edge) (done : List String)
    (s : CycleSearch) : Prop where
  dictionary : s.indegree.keys = keys
  degree : ∀ v ∈ keys, s.indegree.value v = remaining edges done v
  nodup : (done ++ s.queue).Nodup
  mem : ∀ v, v ∈ done ++ s.queue ↔ v ∈ keys ∧ remaining edges done v = 0
  visited : s.visited = done.length
  ends : ∀ v ∈ done, Acc (Leads edges) v

/-- One pass of the loop. -/
theorem Visiting.step (h : Visiting keys edges done s) (hends : ∀ e ∈ edges, e.2 ∈ keys)
    (hqueue : s.queue = node :: queue) :
    let next := (byKey id (adjacency edges node)).foldl release (s.indegree, queue)
    Visiting keys edges (done ++ [node]) ⟨next.1, next.2, s.visited + 1⟩ := by
  have hmem : node ∈ done ++ s.queue := by
    rw [hqueue]
    exact List.mem_append_right _ List.mem_cons_self
  obtain ⟨-, hzero⟩ := (h.mem node).mp hmem
  have hnodup := h.nodup
  rw [hqueue, List.append_cons] at hnodup
  have hnew : node ∉ done := fun hdone =>
    (List.nodup_append.mp (List.nodup_append.mp hnodup).1).2.2 node hdone node
      (List.mem_singleton_self _) rfl
  have hperm : (byKey id (adjacency edges node)).Perm (adjacency edges node) := Sorted.byKey_perm _ _
  have hcounts : ∀ v, (byKey id (adjacency edges node)).count v = (adjacency edges node).count v :=
    fun v => hperm.count_eq v
  have hdown : ∀ v ∈ byKey id (adjacency edges node), v ∈ keys := by
    intro v hv
    obtain ⟨e, he, rfl⟩ := List.mem_map.mp (hperm.mem_iff.mp hv)
    exact hends e (List.mem_filter.mp he).1
  have henough : ∀ v, ((byKey id (adjacency edges node)).count v : Int) ≤ s.indegree.value v ∨
      v ∉ byKey id (adjacency edges node) := by
    intro v
    by_cases hv : v ∈ byKey id (adjacency edges node)
    · have hsplit := remaining_visit edges hnew v
      rw [h.degree v (hdown v hv), hcounts]
      exact .inl (by omega)
    · exact .inr hv
  obtain ⟨new, hnext, hfresh, hkeys, hvalue, hreleased⟩ :=
    foldl_release queue (h.dictionary ▸ hdown) henough
  have hold : ∀ v, v ∈ done ++ [node] ++ queue ↔ v ∈ keys ∧ remaining edges done v = 0 := by
    intro v
    rw [← h.mem v, hqueue, ← List.append_cons]
  have hadded : ∀ v, v ∈ new ↔ v ∈ keys ∧ remaining edges (done ++ [node]) v = 0 ∧
      remaining edges done v ≠ 0 := by
    intro v
    have hsplit := remaining_visit edges hnew v
    rw [hreleased, hcounts]
    constructor
    · rintro ⟨hv, hdegree⟩
      have hpos := List.count_pos_iff.mpr (hperm.mem_iff.mp hv)
      rw [h.degree v (hdown v hv)] at hdegree
      exact ⟨hdown v hv, by omega, by omega⟩
    · rintro ⟨hv, hnone, hsome⟩
      refine ⟨hperm.mem_iff.mpr (List.count_pos_iff.mp (by omega)), ?_⟩
      rw [h.degree v hv]
      omega
  constructor
  case dictionary => exact hkeys.trans h.dictionary
  case degree =>
    intro v hv
    have hsplit := remaining_visit edges hnew v
    refine (hvalue v).trans ?_
    rw [h.degree v hv, hcounts]
    omega
  case nodup =>
    change (done ++ [node] ++ (List.foldl release _ _).2).Nodup
    rw [hnext, ← List.append_assoc]
    refine hnodup.append hfresh fun v hv hvnew => ?_
    exact ((hadded v).mp hvnew).2.2 ((hold v).mp hv).2
  case mem =>
    intro v
    have hsplit := remaining_visit edges hnew v
    change v ∈ done ++ [node] ++ (List.foldl release _ _).2 ↔ _
    rw [hnext, ← List.append_assoc, List.mem_append, hold, hadded]
    by_cases hv : v ∈ keys
    · simp only [hv, true_and]
      omega
    · simp [hv]
  case visited => simp [h.visited]
  case ends =>
    intro v hv
    rcases List.mem_append.mp hv with hv | hv
    · exact h.ends v hv
    · obtain rfl := List.mem_singleton.mp hv
      exact .intro _ fun u hu => h.ends u (remaining_eq_zero.mp hzero u hu)

theorem Visiting.length_le (h : Visiting keys edges done s) : done.length ≤ keys.length := by
  have hsub : done ⊆ keys := fun v hv => ((h.mem v).mp (List.mem_append_left _ hv)).1
  exact ((List.nodup_append.mp h.nodup).1.subperm hsub).length_le

/-- The loop ends once every node can have been visited. -/
theorem Visiting.run (hends : ∀ e ∈ edges, e.2 ∈ keys) (h : Visiting keys edges done s)
    (hfuel : keys.length < done.length + fuel) : ∃ final s',
      visitQueue edges fuel s = some final.length ∧ Visiting keys edges final s' ∧
        s'.queue = [] := by
  induction fuel generalizing done s with
  | zero => exact absurd h.length_le (by omega)
  | succ fuel ih =>
    cases hqueue : s.queue with
    | nil => exact ⟨done, s, by rw [visitQueue, hqueue, h.visited], h, hqueue⟩
    | cons node queue =>
      have hstep := h.step hends hqueue
      obtain ⟨final, s', hrun, hfinal⟩ := ih hstep (by simp; omega)
      refine ⟨final, s', ?_, hfinal⟩
      rw [visitQueue, hqueue]
      exact hrun

/-- At the end all nodes have been visited exactly when there is no cycle. -/
theorem Visiting.final (h : Visiting keys edges done s) (hkeys : keys.Nodup)
    (hends : ∀ e ∈ edges, e.1 ∈ keys ∧ e.2 ∈ keys) (hqueue : s.queue = []) :
    done.length ≠ keys.length ↔ ∃ v, TransGen (Leads edges) v v := by
  have hmem : ∀ v, v ∈ done ↔ v ∈ keys ∧ remaining edges done v = 0 := by
    intro v
    rw [← h.mem v, hqueue, List.append_nil]
  have hnodup : done.Nodup := (List.nodup_append.mp h.nodup).1
  constructor
  · intro hne
    -- every node that is left has one that is left before it
    let left := keys.toFinset \ done.toFinset
    have hback : ∀ v ∈ left, ∃ u ∈ left, Leads edges u v := by
      intro v hv
      simp only [left, Finset.mem_sdiff, List.mem_toFinset] at hv ⊢
      have hsome : remaining edges done v ≠ 0 := fun hzero => hv.2 ((hmem v).mpr ⟨hv.1, hzero⟩)
      rw [Ne, remaining_eq_zero, not_forall] at hsome
      obtain ⟨u, hu⟩ := hsome
      rw [Classical.not_imp] at hu
      exact ⟨u, ⟨(hends _ hu.1).1, hu.2⟩, hu.1⟩
    have hleft : left.Nonempty := by
      by_contra hempty
      rw [Finset.not_nonempty_iff_eq_empty, Finset.sdiff_eq_empty_iff_subset] at hempty
      have hsub : keys ⊆ done := fun v hv => List.mem_toFinset.mp (hempty (List.mem_toFinset.mpr hv))
      exact hne (le_antisymm h.length_le (hkeys.subperm hsub).length_le)
    obtain ⟨v, -, hcycle⟩ := Acyclic.exists_cycle hleft hback
    exact ⟨v, hcycle⟩
  · rintro ⟨v, hcycle⟩ heq
    have hsub : done ⊆ keys := fun v hv => ((hmem v).mp hv).1
    have hperm := (hnodup.subperm hsub).perm_of_length_le (le_of_eq heq.symm)
    obtain ⟨u, -, huv⟩ := TransGen.tail'_iff.mp hcycle
    have hv : v ∈ done := hperm.mem_iff.mpr (hends _ huv).2
    exact Acyclic.not_cycle_of_acc (h.ends v hv) hcycle

end Queue

/-- `_lineage_has_cycle` comes to an end, and says whether there is a cycle. -/
theorem lineageHasCycle_iff {nodes : List String} {edges : List Edge}
    (hends : ∀ e ∈ edges, e.1 ∈ nodes ∧ e.2 ∈ nodes) (hfuel : nodes.length < fuel) :
    ∃ answer, lineageHasCycle fuel nodes edges = some answer ∧
      (answer = true ↔ ∃ v, TransGen (Leads edges) v v) := by
  obtain ⟨hnodup, hmem, hvalue⟩ := indegrees_eq fun e he => (hends e he).2
  have hends' : ∀ e ∈ edges, e.1 ∈ (indegrees nodes edges).keys ∧
      e.2 ∈ (indegrees nodes edges).keys := fun e he =>
    ⟨(hmem _).mpr (hends e he).1, (hmem _).mpr (hends e he).2⟩
  let queue := byKey id ((indegrees nodes edges).keys.filter fun node =>
    (indegrees nodes edges).value node = 0)
  have hstart : ∀ v, remaining edges [] v = edges.countP fun e => e.2 = v := by
    intro v
    simp [remaining]
  have hvisiting : Visiting (indegrees nodes edges).keys edges [] ⟨indegrees nodes edges, queue, 0⟩ := by
    constructor
    case dictionary => rfl
    case degree =>
      intro v _
      rw [hstart]
      exact hvalue v
    case nodup => exact (Sorted.byKey_perm _ _).nodup_iff.mpr (hnodup.filter _)
    case mem =>
      intro v
      rw [List.nil_append, Sorted.mem_byKey, List.mem_filter, decide_eq_true_eq, hvalue, hstart]
      exact and_congr_right fun _ => Int.natCast_eq_zero
    case visited => rfl
    case ends => exact nofun
  have hlength : (indegrees nodes edges).keys.length ≤ nodes.length :=
    (hnodup.subperm fun v hv => (hmem v).mp hv).length_le
  have hfuel' : (indegrees nodes edges).keys.length < ([] : List String).length + fuel := by
    rw [List.length_nil]
    omega
  obtain ⟨final, s', hrun, hfinal, hqueue⟩ :=
    hvisiting.run (fun e he => (hends' e he).2) hfuel'
  refine ⟨decide (final.length ≠ (indegrees nodes edges).keys.length), ?_, ?_⟩
  · rw [lineageHasCycle]
    exact congrArg (Option.map _) hrun
  · rw [decide_eq_true_eq]
    exact hfinal.final hnodup hends' hqueue

/-- `_lineage_has_cycle` is about the set of nodes and the edges, in any order. -/
theorem lineage_has_cycle_exact {nodes : List String} {edges : List Edge}
    (hends : ∀ e ∈ edges, e.1 ∈ nodes ∧ e.2 ∈ nodes) :
    ∃ answer, (∀ fuel, nodes.length < fuel → lineageHasCycle fuel nodes edges = some answer) ∧
      (answer = true ↔ ∃ v, TransGen (Leads edges) v v) ∧
      ∀ (nodes' : List String) (edges' : List Edge) fuel, (∀ v, v ∈ nodes' ↔ v ∈ nodes) →
        edges'.Perm edges → nodes'.length < fuel →
          lineageHasCycle fuel nodes' edges' = some answer := by
  obtain ⟨answer, -, hanswer⟩ := lineageHasCycle_iff hends (Nat.lt_succ_self nodes.length)
  have hany : ∀ (nodes' : List String) (edges' : List Edge) fuel, (∀ v, v ∈ nodes' ↔ v ∈ nodes) →
      edges'.Perm edges → nodes'.length < fuel →
        lineageHasCycle fuel nodes' edges' = some answer := by
    intro nodes' edges' fuel hnodes hedges hfuel
    have hends' : ∀ e ∈ edges', e.1 ∈ nodes' ∧ e.2 ∈ nodes' := by
      intro e he
      obtain ⟨hup, hdown⟩ := hends e (hedges.mem_iff.mp he)
      exact ⟨(hnodes _).mpr hup, (hnodes _).mpr hdown⟩
    have hleads : Leads edges' = Leads edges := by
      funext u v
      exact propext hedges.mem_iff
    obtain ⟨answer', hrun, hanswer'⟩ := lineageHasCycle_iff hends' hfuel
    rw [hleads, ← hanswer, Bool.coe_iff_coe] at hanswer'
    exact hanswer' ▸ hrun
  exact ⟨answer, fun fuel => hany nodes edges fuel (fun _ => .rfl) (.refl _), hanswer, hany⟩

/-- A table that is made of a metric, which is made of the table, with one edge twice. -/
theorem lineage_has_cycle_sample : lineageHasCycle 4 ["orders", "table", "metric"]
    [("orders", "table"), ("table", "metric"), ("metric", "table"), ("table", "metric")] =
      some true := by
  let edges : List Edge :=
    [("orders", "table"), ("table", "metric"), ("metric", "table"), ("table", "metric")]
  have hends : ∀ e ∈ edges, e.1 ∈ ["orders", "table", "metric"] ∧
      e.2 ∈ ["orders", "table", "metric"] := by decide
  obtain ⟨answer, hrun, hanswer, -⟩ := lineage_has_cycle_exact hends
  have hforth : Leads edges "table" "metric" := List.mem_cons_of_mem _ List.mem_cons_self
  have hback : Leads edges "metric" "table" :=
    List.mem_cons_of_mem _ (List.mem_cons_of_mem _ List.mem_cons_self)
  have hcycle : answer = true := hanswer.mpr ⟨"table", .tail (.single hforth) hback⟩
  rw [hrun 4 (by decide), hcycle]

-- ---------------------------------------------------------------------------
-- Reaching nodes
-- ---------------------------------------------------------------------------

/-- `reachable | {downstream for upstream, downstream in pairs if upstream in reachable}` -/
def expanded (pairs : List Edge) (reachable : Finset String) : Finset String :=
  reachable ∪ ((pairs.filter fun e => e.1 ∈ reachable).map Prod.snd).toFinset

/-- The loop over `expanded`: the set that stays the same, unless the fuel ends. -/
def reachLoop (pairs : List Edge) : Nat → Finset String → Option (Finset String)
  | 0, _ => none
  | fuel + 1, reachable =>
    if expanded pairs reachable = reachable then some reachable
    else reachLoop pairs fuel (expanded pairs reachable)

section Reach
variable {pairs : List Edge} {reachable : Finset String}

theorem mem_expanded : v ∈ expanded pairs reachable ↔
    v ∈ reachable ∨ ∃ u ∈ reachable, Leads pairs u v := by
  rw [expanded, Finset.mem_union, List.mem_toFinset, List.mem_map]
  refine or_congr_right ?_
  constructor
  · rintro ⟨⟨u, w⟩, he, rfl⟩
    obtain ⟨he, hu⟩ := List.mem_filter.mp he
    exact ⟨u, of_decide_eq_true hu, he⟩
  · rintro ⟨u, hu, he⟩
    exact ⟨(u, v), List.mem_filter.mpr ⟨he, decide_eq_true hu⟩, rfl⟩

/-- The targets that have not been reached. -/
def unreached (pairs : List Edge) (reachable : Finset String) : Finset String :=
  (pairs.map Prod.snd).toFinset \ reachable

/-- A pass that changes the set reaches a target. -/
theorem unreached_expanded (h : expanded pairs reachable ≠ reachable) :
    (unreached pairs (expanded pairs reachable)).card < (unreached pairs reachable).card := by
  have hsub : reachable ⊆ expanded pairs reachable := fun v hv => mem_expanded.mpr (.inl hv)
  obtain ⟨v, hv, hnew⟩ := Finset.exists_of_ssubset (hsub.ssubset_of_ne h.symm)
  obtain ⟨u, -, hedge⟩ := (mem_expanded.mp hv).resolve_left hnew
  have htarget : v ∈ (pairs.map Prod.snd).toFinset :=
    List.mem_toFinset.mpr (List.mem_map_of_mem hedge)
  refine Finset.card_lt_card (Finset.ssubset_iff_of_subset ?_ |>.mpr ⟨v, ?_, ?_⟩)
  · exact Finset.sdiff_subset_sdiff (Finset.Subset.refl _) hsub
  · exact Finset.mem_sdiff.mpr ⟨htarget, hnew⟩
  · exact fun hleft => (Finset.mem_sdiff.mp hleft).2 hv

/-- The loop ends, with all that its set leads to. -/
theorem reachLoop_run (hfuel : (unreached pairs reachable).card < fuel) :
    ∃ final, reachLoop pairs fuel reachable = some final ∧
      ∀ v, v ∈ final ↔ ∃ u ∈ reachable, ReflTransGen (Leads pairs) u v := by
  induction fuel generalizing reachable with
  | zero => exact absurd hfuel (Nat.not_lt_zero _)
  | succ fuel ih =>
    by_cases hsame : expanded pairs reachable = reachable
    · refine ⟨reachable, by rw [reachLoop, if_pos hsame], fun v => ⟨fun hv => ⟨v, hv, .refl⟩, ?_⟩⟩
      rintro ⟨u, hu, hpath⟩
      induction hpath with
      | refl => exact hu
      | tail _ hedge ih =>
        rw [← hsame]
        exact mem_expanded.mpr (.inr ⟨_, ih, hedge⟩)
    · have hless := unreached_expanded hsame
      have hfuel' : (unreached pairs (expanded pairs reachable)).card < fuel := by omega
      obtain ⟨final, hrun, hfinal⟩ := ih hfuel'
      refine ⟨final, by rw [reachLoop, if_neg hsame, hrun], fun v => ?_⟩
      rw [hfinal]
      constructor
      · rintro ⟨u, hu, hpath⟩
        rcases mem_expanded.mp hu with hu | ⟨w, hw, hedge⟩
        · exact ⟨u, hu, hpath⟩
        · exact ⟨w, hw, .head hedge hpath⟩
      · rintro ⟨u, hu, hpath⟩
        exact ⟨u, mem_expanded.mpr (.inl hu), hpath⟩

end Reach

/-- The loop of `_semantic_issues` over the lineage ends with the nodes that are
reached from the sources. -/
theorem lineage_reachable_exact (sources : Finset String) (pairs : List Edge) :
    ∃ final, (∀ fuel, pairs.length < fuel → reachLoop pairs fuel sources = some final) ∧
      ∀ v, v ∈ final ↔ ∃ s ∈ sources, ReflTransGen (Leads pairs) s v := by
  have hbound : (unreached pairs sources).card ≤ pairs.length := by
    refine (Finset.card_le_card Finset.sdiff_subset).trans ?_
    refine (List.toFinset_card_le _).trans (le_of_eq ?_)
    rw [List.length_map]
  obtain ⟨final, -, hfinal⟩ := reachLoop_run (Nat.lt_succ_of_le hbound)
  refine ⟨final, fun fuel hfuel => ?_, hfinal⟩
  obtain ⟨final', hrun, hfinal'⟩ := reachLoop_run (hbound.trans_lt hfuel)
  have hsame : final' = final := by
    ext v
    rw [hfinal', hfinal]
  exact hsame ▸ hrun

end Paic.Evidence
