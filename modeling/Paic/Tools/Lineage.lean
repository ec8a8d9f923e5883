import Paic.Lib.Checks
import Paic.Lib.Reach
import Paic.Tools.Models
import Mathlib

/-!
# Tracing the lineage

`_lineage_trace` goes from a node along the edges, layer by layer, and returns
the nodes within the depth and the edges that leave the nearer ones.
-/

namespace Paic.Tools

open Checks (raiseIf)
open Reach (Within Layer)

/-- A row of `lineage_nodes`. -/
structure LineageNode where
  nodeId : String
  row : Json
  deriving DecidableEq

/-- A row of `lineage_edges`. -/
structure LineageEdge where
  edgeId : String
  upstreamNodeId : String
  downstreamNodeId : String
  row : Json
  deriving DecidableEq

inductive TraceDirection where
  | both | upstream | downstream
  deriving DecidableEq, Repr

/-- `direction in {"both", "downstream"}` -/
def TraceDirection.goesDown (d : TraceDirection) : Bool := d = .both ∨ d = .downstream

/-- `direction in {"both", "upstream"}` -/
def TraceDirection.goesUp (d : TraceDirection) : Bool := d = .both ∨ d = .upstream

/-- The variables of the loop. -/
structure TraceState where
  selectedNodes : Finset String
  selectedEdges : Finset String
  frontier : Finset String

/-- One edge of a round: the next frontier and the edges so far. -/
def visitEdge (direction : TraceDirection) (frontier : Finset String)
    (seen : Finset String × Finset String) (edge : LineageEdge) : Finset String × Finset String :=
  let down := direction.goesDown ∧ edge.upstreamNodeId ∈ frontier
  let up := direction.goesUp ∧ edge.downstreamNodeId ∈ frontier
  let next := if down then insert edge.downstreamNodeId seen.1 else seen.1
  let next := if up then insert edge.upstreamNodeId next else next
  (next, if down ∨ up then insert edge.edgeId seen.2 else seen.2)

/-- The loop over the depth, which ends at an empty frontier. -/
def traceRounds (edges : List LineageEdge) (direction : TraceDirection) :
    Nat → TraceState → TraceState
  | 0, s => s
  | depth + 1, s =>
    let (next, selectedEdges) := edges.foldl (visitEdge direction s.frontier) (∅, s.selectedEdges)
    let next := next \ s.selectedNodes
    if next = ∅ then { s with selectedEdges }
    else traceRounds edges direction depth
      { selectedNodes := s.selectedNodes ∪ next, selectedEdges, frontier := next }

structure LineageTrace where
  nodes : List LineageNode
  edges : List LineageEdge

/-- `Gateway._lineage_trace` -/
def lineageTrace (nodes : List LineageNode) (edges : List LineageEdge) (nodeId : String)
    (direction : TraceDirection) (depth : Nat) : Except Error LineageTrace :=
  if nodes = [] ∨ edges = [] then .ok ⟨[], []⟩
  else do
    raiseIf (nodes.filter (·.nodeId = nodeId) = []) (.gatewayError "unknown lineage node")
    let s := traceRounds edges direction depth ⟨{nodeId}, ∅, {nodeId}⟩
    pure ⟨nodes.filter (·.nodeId ∈ s.selectedNodes), edges.filter (·.edgeId ∈ s.selectedEdges)⟩

-- ---------------------------------------------------------------------------
-- One round
-- ---------------------------------------------------------------------------

/-- An edge leads from `u` to `v` in the direction of the trace. -/
def LineageEdge.Leads (direction : TraceDirection) (e : LineageEdge) (u v : String) : Prop :=
  (direction.goesDown = true ∧ e.upstreamNodeId = u ∧ e.downstreamNodeId = v) ∨
    (direction.goesUp = true ∧ e.downstreamNodeId = u ∧ e.upstreamNodeId = v)

/-- The steps of a trace. -/
def Follows (edges : List LineageEdge) (direction : TraceDirection) (u v : String) : Prop :=
  ∃ e ∈ edges, e.Leads direction u v

section Round

variable {edges : List LineageEdge} {direction : TraceDirection} {frontier : Finset String}
  {seen : Finset String × Finset String} {v id : String}

theorem mem_visitEdge_nodes : v ∈ (visitEdge direction frontier seen e).1 ↔
    v ∈ seen.1 ∨ ∃ u ∈ frontier, e.Leads direction u v := by
  have hleads : (∃ u ∈ frontier, e.Leads direction u v) ↔
      (direction.goesDown = true ∧ e.upstreamNodeId ∈ frontier ∧ v = e.downstreamNodeId) ∨
        (direction.goesUp = true ∧ e.downstreamNodeId ∈ frontier ∧ v = e.upstreamNodeId) := by
    constructor
    · rintro ⟨u, hu, ⟨hd, rfl, rfl⟩ | ⟨hd, rfl, rfl⟩⟩
      · exact .inl ⟨hd, hu, rfl⟩
      · exact .inr ⟨hd, hu, rfl⟩
    · rintro (⟨hd, hu, rfl⟩ | ⟨hd, hu, rfl⟩)
      · exact ⟨_, hu, .inl ⟨hd, rfl, rfl⟩⟩
      · exact ⟨_, hu, .inr ⟨hd, rfl, rfl⟩⟩
  rw [hleads]
  simp only [visitEdge]
  split
  · next hup => split <;> simp only [Finset.mem_insert] <;> tauto
  · next hup =>
    split
    · rw [Finset.mem_insert]
      tauto
    · tauto

theorem mem_visitEdge_edges : id ∈ (visitEdge direction frontier seen e).2 ↔
    id ∈ seen.2 ∨ (e.edgeId = id ∧ ∃ u ∈ frontier, ∃ v, e.Leads direction u v) := by
  have hleads : (∃ u ∈ frontier, ∃ v, e.Leads direction u v) ↔
      (direction.goesDown = true ∧ e.upstreamNodeId ∈ frontier) ∨
        (direction.goesUp = true ∧ e.downstreamNodeId ∈ frontier) := by
    constructor
    · rintro ⟨u, hu, v, ⟨hd, rfl, rfl⟩ | ⟨hd, rfl, rfl⟩⟩
      · exact .inl ⟨hd, hu⟩
      · exact .inr ⟨hd, hu⟩
    · rintro (⟨hd, hu⟩ | ⟨hd, hu⟩)
      · exact ⟨_, hu, _, .inl ⟨hd, rfl, rfl⟩⟩
      · exact ⟨_, hu, _, .inr ⟨hd, rfl, rfl⟩⟩
  rw [hleads]
  simp only [visitEdge]
  split
  · next h => simp only [Finset.mem_insert, eq_comm (a := id)]; tauto
  · next h => tauto

/-- A round collects the ends and the edges of the steps out of the frontier. -/
theorem mem_visited_nodes : v ∈ (edges.foldl (visitEdge direction frontier) seen).1 ↔
    v ∈ seen.1 ∨ ∃ u ∈ frontier, Follows edges direction u v := by
  induction edges generalizing seen with
  | nil => simp [Follows]
  | cons e edges ih =>
    rw [List.foldl_cons, ih, mem_visitEdge_nodes]
    simp only [Follows, List.exists_mem_cons_iff, and_or_left, exists_or, or_assoc]

theorem mem_visited_edges : id ∈ (edges.foldl (visitEdge direction frontier) seen).2 ↔
    id ∈ seen.2 ∨ ∃ e ∈ edges, e.edgeId = id ∧ ∃ u ∈ frontier, ∃ v, e.Leads direction u v := by
  induction edges generalizing seen with
  | nil => simp
  | cons e edges ih =>
    rw [List.foldl_cons, ih, mem_visitEdge_edges]
    simp only [List.exists_mem_cons_iff, or_assoc]

end Round

-- ---------------------------------------------------------------------------
-- The rounds
-- ---------------------------------------------------------------------------

/-- The nodes within a distance of the start. -/
abbrev Near (edges : List LineageEdge) (direction : TraceDirection) (start : String) :
    Nat → String → Prop :=
  Within (Follows edges direction) start

/-- An edge that leaves a node at a distance below `n`. -/
def Leaves (edges : List LineageEdge) (direction : TraceDirection) (start : String) (n : Nat)
    (e : LineageEdge) : Prop :=
  ∃ u v, e.Leads direction u v ∧ ∃ m < n, Near edges direction start m u

/-- The nodes and the edges are those of distance `n`. -/
structure Reached (edges : List LineageEdge) (direction : TraceDirection) (start : String)
    (n : Nat) (s : TraceState) : Prop where
  nodeIds : ∀ v, v ∈ s.selectedNodes ↔ Near edges direction start n v
  edgeIds : ∀ id, id ∈ s.selectedEdges ↔
    ∃ e ∈ edges, e.edgeId = id ∧ Leaves edges direction start n e

/-- What holds before every round. -/
structure Traced (edges : List LineageEdge) (direction : TraceDirection) (start : String)
    (n : Nat) (s : TraceState) : Prop extends Reached edges direction start n s where
  frontier : ∀ v, v ∈ s.frontier ↔ Layer (Follows edges direction) start n v

section Rounds

variable {edges : List LineageEdge} {direction : TraceDirection} {start : String} {n : Nat}

theorem traced_start : Traced edges direction start 0 ⟨{start}, ∅, {start}⟩ where
  nodeIds v := by rw [Near, Reach.within_zero, Finset.mem_singleton]
  edgeIds id := by simp [Leaves]
  frontier v := by
    rw [Finset.mem_singleton, Layer, Reach.within_zero]
    exact ⟨fun h => ⟨h, fun m hm => absurd hm (Nat.not_lt_zero m)⟩, fun h => h.1⟩

theorem leaves_succ : Leaves edges direction start (n + 1) e ↔ Leaves edges direction start n e ∨
    ∃ u, Layer (Follows edges direction) start n u ∧ ∃ v, e.Leads direction u v := by
  constructor
  · rintro ⟨u, v, hleads, m, hm, hu⟩
    rcases (hu.mono (Nat.le_of_lt_succ hm)).layer with hlayer | hnear
    · exact .inr ⟨u, hlayer, v, hleads⟩
    · exact .inl ⟨u, v, hleads, hnear⟩
  · rintro (⟨u, v, hleads, m, hm, hu⟩ | ⟨u, hlayer, v, hleads⟩)
    · exact ⟨u, v, hleads, m, hm.trans (Nat.lt_succ_self n), hu⟩
    · exact ⟨u, v, hleads, n, Nat.lt_succ_self n, hlayer.1⟩

variable {s : TraceState} {id : String}

/-- The new nodes of a round are the next layer. -/
theorem Traced.mem_next (h : Traced edges direction start n s) :
    v ∈ (edges.foldl (visitEdge direction s.frontier) (∅, s.selectedEdges)).1 \ s.selectedNodes ↔
      Layer (Follows edges direction) start (n + 1) v := by
  have hstep : (∃ u ∈ s.frontier, Follows edges direction u v) ↔
      ∃ u, Layer (Follows edges direction) start n u ∧ Follows edges direction u v := by
    simp only [h.frontier]
  rw [Finset.mem_sdiff, mem_visited_nodes, h.nodeIds, Reach.layer_succ, Reach.within_succ_layer, hstep]
  simp only [Finset.notMem_empty, false_or]
  tauto

/-- The edges of a round are those that leave the last layer. -/
theorem Traced.mem_edges (h : Traced edges direction start n s) :
    id ∈ (edges.foldl (visitEdge direction s.frontier) (∅, s.selectedEdges)).2 ↔
      ∃ e ∈ edges, e.edgeId = id ∧ Leaves edges direction start (n + 1) e := by
  rw [mem_visited_edges, h.edgeIds]
  simp only [h.frontier, leaves_succ, ← exists_or, ← and_or_left]

theorem Traced.step (h : Traced edges direction start n s) :
    let visited := edges.foldl (visitEdge direction s.frontier) (∅, s.selectedEdges)
    let next := visited.1 \ s.selectedNodes
    Traced edges direction start (n + 1) ⟨s.selectedNodes ∪ next, visited.2, next⟩ where
  nodeIds v := by
    rw [Finset.mem_union, h.nodeIds, h.mem_next, Reach.layer_succ]
    constructor
    · rintro (hv | hv)
      · exact hv.mono (Nat.le_succ n)
      · exact hv.1
    · intro hv
      by_cases hnear : Near edges direction start n v
      · exact .inl hnear
      · exact .inr ⟨hv, hnear⟩
  edgeIds id := h.mem_edges
  frontier v := h.mem_next

/-- Once a round finds no new node, the remaining rounds would find none either. -/
theorem Traced.stop (h : Traced edges direction start n s)
    (hnext : (edges.foldl (visitEdge direction s.frontier) (∅, s.selectedEdges)).1 \
      s.selectedNodes = ∅) (hle : n < m) :
    Reached edges direction start m
      { s with selectedEdges := (edges.foldl (visitEdge direction s.frontier)
        (∅, s.selectedEdges)).2 } := by
  have hstable : ∀ v, Near edges direction start (n + 1) v → Near edges direction start n v := by
    intro v hv
    by_contra hnear
    have hmem := h.mem_next.mpr (Reach.layer_succ.mpr ⟨hv, hnear⟩)
    rw [hnext] at hmem
    exact absurd hmem (Finset.notMem_empty v)
  have hall : ∀ k v, Near edges direction start k v → Near edges direction start n v :=
    fun k v hv => Reach.within_of_stable hstable hv
  constructor
  · intro v
    rw [h.nodeIds]
    exact ⟨fun hv => hv.mono hle.le, hall m v⟩
  · intro id
    rw [h.mem_edges]
    constructor
    · rintro ⟨e, he, hid, u, v, hleads, k, hk, hu⟩
      exact ⟨e, he, hid, u, v, hleads, k, by omega, hu⟩
    · rintro ⟨e, he, hid, u, v, hleads, k, -, hu⟩
      exact ⟨e, he, hid, u, v, hleads, n, Nat.lt_succ_self n, hall k u hu⟩

theorem traceRounds_succ : traceRounds edges direction (depth + 1) s =
    let visited := edges.foldl (visitEdge direction s.frontier) (∅, s.selectedEdges)
    let next := visited.1 \ s.selectedNodes
    if next = ∅ then { s with selectedEdges := visited.2 }
    else traceRounds edges direction depth ⟨s.selectedNodes ∪ next, visited.2, next⟩ := rfl

theorem Traced.rounds (h : Traced edges direction start n s) (depth : Nat) :
    Reached edges direction start (n + depth) (traceRounds edges direction depth s) := by
  induction depth generalizing n s with
  | zero => exact h.toReached
  | succ depth ih =>
    simp only [traceRounds_succ]
    split
    · next hnext => exact h.stop hnext (by omega)
    · have hstep := ih h.step
      rw [Nat.add_right_comm] at hstep
      exact hstep

end Rounds

-- ---------------------------------------------------------------------------
-- The trace of a graph
-- ---------------------------------------------------------------------------

/-- The lineage tables of a bundle. -/
structure LineageGraph where
  nodes : List LineageNode
  edges : List LineageEdge
  uniqueNodes : (nodes.map (·.nodeId)).Nodup
  uniqueEdges : (edges.map (·.edgeId)).Nodup
  known : ∀ e ∈ edges, e.upstreamNodeId ∈ nodes.map (·.nodeId) ∧
    e.downstreamNodeId ∈ nodes.map (·.nodeId)

/-- The edge table names an edge by its id. -/
theorem LineageGraph.edge_eq (g : LineageGraph) (he : e ∈ g.edges) (he' : e' ∈ g.edges)
    (hid : e.edgeId = e'.edgeId) : e = e' :=
  List.inj_on_of_nodup_map g.uniqueEdges he he' hid

theorem LineageEdge.leads_known {g : LineageGraph} {e : LineageEdge} (he : e ∈ g.edges)
    (h : e.Leads direction u v) : v ∈ g.nodes.map (·.nodeId) := by
  rcases h with ⟨-, -, rfl⟩ | ⟨-, -, rfl⟩
  · exact (g.known e he).2
  · exact (g.known e he).1

section Trace

variable {g : LineageGraph} {start : String} {direction : TraceDirection} {depth more : Nat}

/-- A trace stays in the node table. -/
theorem LineageGraph.near_known (hstart : start ∈ g.nodes.map (·.nodeId))
    (h : Near g.edges direction start depth v) : v ∈ g.nodes.map (·.nodeId) := by
  obtain ⟨k, -, hwalk⟩ := h
  cases hwalk with
  | nil => exact hstart
  | next _ hstep =>
    obtain ⟨e, he, hleads⟩ := hstep
    exact LineageEdge.leads_known he hleads

theorem lineageTrace_returns (hedges : g.edges ≠ []) (hstart : start ∈ g.nodes.map (·.nodeId))
    (direction : TraceDirection) (depth : Nat) :
    ∃ t, lineageTrace g.nodes g.edges start direction depth = .ok t ∧
      t.nodes.Sublist g.nodes ∧ t.edges.Sublist g.edges ∧
      (∀ n, n ∈ t.nodes ↔ n ∈ g.nodes ∧ Near g.edges direction start depth n.nodeId) ∧
      ∀ e, e ∈ t.edges ↔ e ∈ g.edges ∧ Leaves g.edges direction start depth e := by
  have hreached : Reached g.edges direction start depth
      (traceRounds g.edges direction depth ⟨{start}, ∅, {start}⟩) := by
    have h : Traced g.edges direction start 0 ⟨{start}, ∅, {start}⟩ := traced_start
    have hrounds := h.rounds depth
    rwa [Nat.zero_add] at hrounds
  obtain ⟨n, hn, hid⟩ := List.mem_map.mp hstart
  have hknown : g.nodes.filter (·.nodeId = start) ≠ [] :=
    List.ne_nil_of_mem (List.mem_filter.mpr ⟨hn, by simpa using hid⟩)
  have hempty : ¬ (g.nodes = [] ∨ g.edges = []) := by
    rintro (h | h)
    · exact absurd h (List.ne_nil_of_mem hn)
    · exact hedges h
  refine ⟨_, by rw [lineageTrace, if_neg hempty, Checks.raiseIf_neg hknown]; rfl,
    List.filter_sublist, List.filter_sublist, ?_, ?_⟩
  · intro n
    rw [List.mem_filter, decide_eq_true_iff, hreached.nodeIds]
  · intro e
    rw [List.mem_filter, decide_eq_true_iff, hreached.edgeIds]
    refine and_congr_right fun he => ⟨?_, fun hleaves => ⟨e, he, rfl, hleaves⟩⟩
    rintro ⟨e', he', hid, hleaves⟩
    exact g.edge_eq he' he hid ▸ hleaves

theorem Leaves.mono (h : Leaves g.edges direction start depth e) (hle : depth ≤ more) :
    Leaves g.edges direction start more e := by
  obtain ⟨u, v, hleads, m, hm, hu⟩ := h
  exact ⟨u, v, hleads, m, hm.trans_le hle, hu⟩

/-- Both ends of an edge that leaves a nearer node are within the depth. -/
theorem Leaves.near (he : e ∈ g.edges) (h : Leaves g.edges direction start depth e) :
    Near g.edges direction start depth e.upstreamNodeId ∧
      Near g.edges direction start depth e.downstreamNodeId := by
  obtain ⟨u, v, hleads, m, hm, hu⟩ := h
  have hfrom := hu.mono hm.le
  have hto : Near g.edges direction start depth v :=
    (Reach.within_succ.mpr (.inr ⟨u, hu, e, he, hleads⟩)).mono hm
  rcases hleads with ⟨-, rfl, rfl⟩ | ⟨-, rfl, rfl⟩
  · exact ⟨hfrom, hto⟩
  · exact ⟨hto, hfrom⟩

end Trace

/-- A trace returns the nodes within the depth and the edges that leave the nearer ones. -/
theorem lineage_trace_exact (g : LineageGraph) (hedges : g.edges ≠ [])
    (hstart : start ∈ g.nodes.map (·.nodeId)) (direction : TraceDirection) (depth : Nat) :
    ∃ t, lineageTrace g.nodes g.edges start direction depth = .ok t ∧
      (t.nodes.map (·.nodeId)).Nodup ∧ (t.edges.map (·.edgeId)).Nodup ∧
      (∀ v, v ∈ t.nodes.map (·.nodeId) ↔
        Within (Follows g.edges direction) start depth v) ∧
      (∀ n, n ∈ t.nodes ↔
        n ∈ g.nodes ∧ Within (Follows g.edges direction) start depth n.nodeId) ∧
      (∀ e, e ∈ t.edges ↔ e ∈ g.edges ∧ ∃ u v, e.Leads direction u v ∧
        ∃ m < depth, Within (Follows g.edges direction) start m u) ∧
      (∀ e ∈ t.edges, e.upstreamNodeId ∈ t.nodes.map (·.nodeId) ∧
        e.downstreamNodeId ∈ t.nodes.map (·.nodeId)) ∧
      ∀ more ≥ depth, ∃ t', lineageTrace g.nodes g.edges start direction more = .ok t' ∧
        t.nodes ⊆ t'.nodes ∧ t.edges ⊆ t'.edges := by
  obtain ⟨t, ht, hnodes, hedgesSub, hmem, hmemEdges⟩ :=
    lineageTrace_returns hedges hstart direction depth
  have hids : ∀ v, v ∈ t.nodes.map (·.nodeId) ↔ Near g.edges direction start depth v := by
    intro v
    constructor
    · intro hv
      obtain ⟨n, hn, rfl⟩ := List.mem_map.mp hv
      exact ((hmem n).mp hn).2
    · intro hv
      obtain ⟨n, hn, rfl⟩ := List.mem_map.mp (g.near_known hstart hv)
      exact List.mem_map_of_mem ((hmem n).mpr ⟨hn, hv⟩)
  refine ⟨t, ht, g.uniqueNodes.sublist (hnodes.map _), g.uniqueEdges.sublist (hedgesSub.map _),
    hids, hmem, hmemEdges, ?_, ?_⟩
  · intro e he
    obtain ⟨hin, hleaves⟩ := (hmemEdges e).mp he
    have hnear := Leaves.near hin hleaves
    exact ⟨(hids _).mpr hnear.1, (hids _).mpr hnear.2⟩
  · intro more hle
    obtain ⟨t', ht', -, -, hmem', hmemEdges'⟩ :=
      lineageTrace_returns hedges hstart direction more
    refine ⟨t', ht', ?_, ?_⟩
    · intro n hn
      obtain ⟨hin, hnear⟩ := (hmem n).mp hn
      exact (hmem' n).mpr ⟨hin, hnear.mono hle⟩
    · intro e he
      obtain ⟨hin, hleaves⟩ := (hmemEdges e).mp he
      exact (hmemEdges' e).mpr ⟨hin, Leaves.mono hleaves hle⟩

namespace Sample

/-- A cycle of two nodes with a parallel edge, and a node behind it. -/
def lineageGraph : LineageGraph where
  nodes := ["a", "b", "c"].map fun nodeId => ⟨nodeId, .str nodeId⟩
  edges := [("e1", "a", "b"), ("e2", "b", "a"), ("e3", "a", "b"), ("e4", "b", "c")].map
    fun (edgeId, upstream, downstream) => ⟨edgeId, upstream, downstream, .str edgeId⟩
  uniqueNodes := by decide
  uniqueEdges := by decide
  known := by decide

theorem lineage_trace_sample :
    ∃ t, lineageTrace lineageGraph.nodes lineageGraph.edges "a" .downstream 1 = .ok t ∧
      t.edges.map (·.edgeId) = ["e1", "e3"] := by
  obtain ⟨t, ht, -⟩ := lineage_trace_exact lineageGraph (by decide)
    (by decide : "a" ∈ lineageGraph.nodes.map (·.nodeId)) .downstream 1
  refine ⟨t, ht, ?_⟩
  have hrun : lineageTrace lineageGraph.nodes lineageGraph.edges "a" .downstream 1 =
      .ok ⟨[⟨"a", .str "a"⟩, ⟨"b", .str "b"⟩], [⟨"e1", "a", "b", .str "e1"⟩,
        ⟨"e3", "a", "b", .str "e3"⟩]⟩ := by rfl
  rw [hrun] at ht
  cases ht
  decide

end Sample

end Paic.Tools
