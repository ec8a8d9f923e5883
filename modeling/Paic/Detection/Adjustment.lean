import Paic.Detection.Statistics
import Paic.Lib.StepUp
import Mathlib

/-!
# The Benjamini-Hochberg adjustment

The loop of `benjamini_hochberg` runs from the largest p-value down and keeps a
running minimum. On exact numbers that is the adjusted value of the step-up
procedure, whatever the order and the ties of the p-values.
-/

namespace Paic.Detection

open DetectionMath (add sub mul div)
open Sorted (byKey Strict)

/-- Nothing is rounded. -/
structure Exact [DetectionMath] : Prop where
  add : ∀ a b : Rat, add a b = a + b
  sub : ∀ a b : Rat, sub a b = a - b
  mul : ∀ a b : Rat, mul a b = a * b
  div : ∀ a b : Rat, div a b = a / b

/-- `np.quantile`: between the two neighbours of the place in sorted order. -/
def exactQuantile (values : List Rat) (share : Rat) : Rat :=
  let sorted := values.insertionSort (· ≤ ·)
  let place := ((values.length : Rat) - 1) * share
  let low := sorted.getD ⌊place⌋.toNat 0
  let high := sorted.getD (⌊place⌋.toNat + 1) low
  low + (place - ⌊place⌋) * (high - low)

def exactVariance (values : List Rat) : Rat :=
  let mean := values.sum / values.length
  (values.map fun x => (x - mean) * (x - mean)).sum / (values.length - 1)

/-- Exact numbers. A square root is that of a square, logarithms are known of
three and of the smallest q-value, and there are no distributions. -/
@[reducible] def exactMath : DetectionMath where
  add := (· + ·)
  sub := (· - ·)
  mul := (· * ·)
  div := (· / ·)
  sqrt := Rat.sqrt
  log x := if x = 3 then 4947709893870347 / 2 ^ 52 else 0
  log10 x := if x = epsilon then -12 else 0
  log1p x := x
  sum := List.sum
  npSum := List.sum
  mean values := values.sum / values.length
  variance := exactVariance
  std values := Rat.sqrt (exactVariance values)
  quantile := exactQuantile
  tSf _ _ := 0
  betabinomPmf _ _ _ _ := 0
  nbinomPmf _ _ _ := 0
  poissonPmf _ _ := 0

theorem exactMath_exact : @Exact exactMath :=
  @Exact.mk exactMath (fun _ _ => rfl) (fun _ _ => rfl) (fun _ _ => rfl) fun _ _ => rfl

-- ---------------------------------------------------------------------------
-- The order
-- ---------------------------------------------------------------------------

section
variable {cleaned : List Rat}

theorem pValueOrder_perm (cleaned : List Rat) :
    (pValueOrder cleaned).Perm (List.range cleaned.length) := Sorted.byKey_perm _ _

theorem pValueOrder_strict (cleaned : List Rat) :
    Strict (fun i => toLex (cleaned.getD i 1, i)) (pValueOrder cleaned) := by
  refine Sorted.byKey_strict (List.nodup_range.map fun i j h => ?_)
  exact congrArg (fun key => (ofLex key).2) h

theorem pValueOrder_length (cleaned : List Rat) :
    (pValueOrder cleaned).length = cleaned.length := by
  rw [(pValueOrder_perm cleaned).length_eq, List.length_range]

theorem mem_pValueOrder : i ∈ pValueOrder cleaned ↔ i < cleaned.length := by
  rw [(pValueOrder_perm cleaned).mem_iff, List.mem_range]

/-- The p-values in the order of the loop are the order statistics. -/
theorem pValueOrder_values (cleaned : List Rat) :
    (pValueOrder cleaned).map (fun i => cleaned.getD i 1) = cleaned.insertionSort (· ≤ ·) := by
  have hrange : (List.range cleaned.length).map (fun i => cleaned.getD i 1) = cleaned := by
    refine List.ext_getElem (by simp) fun i hi hi' => ?_
    simp [List.getElem_eq_getD (h := hi') 1]
  have hperm := ((pValueOrder_perm cleaned).map fun i => cleaned.getD i 1).trans
    (.of_eq hrange)
  have hsorted : ((pValueOrder cleaned).map fun i => cleaned.getD i 1).Pairwise (· ≤ ·) := by
    rw [List.pairwise_map]
    refine List.Pairwise.imp (fun hlt => ?_) (pValueOrder_strict cleaned)
    rcases Prod.Lex.toLex_lt_toLex.mp hlt with h | h
    · exact le_of_lt h
    · exact le_of_eq h.1
  exact (hperm.trans (List.perm_insertionSort _ _).symm).eq_of_pairwise
    (fun a b _ _ hab hba => le_antisymm hab hba) hsorted (List.pairwise_insertionSort _ _)

end

-- ---------------------------------------------------------------------------
-- The loop
-- ---------------------------------------------------------------------------

section
variable [DetectionMath]

/-- The running minimum once the loop has come down to rank `r`: the indices
from that rank on are left. -/
def running (cleaned : List Rat) : List Nat → Nat → Rat
  | [], _ => 1
  | i :: rest, r =>
    min (running cleaned rest (r + 1)) (div (mul (cleaned.getD i 1) cleaned.length) r)

/-- The loop over the indices from rank `k + 1` on leaves the running minimum
and, at each of them, the one that was reached there. -/
theorem loop_running {cleaned : List Rat} {later : List Nat} (hlen : k + later.length = cleaned.length)
    (hnodup : later.Nodup) (hlt : ∀ i ∈ later, i < cleaned.length) :
    let final := (later.reverse.zipIdx 1).foldl (adjustPass cleaned)
      (1, List.replicate cleaned.length 1)
    final.1 = running cleaned later (k + 1) ∧ final.2.length = cleaned.length ∧
      ∀ j (hj : j < later.length), final.2[later[j]]? =
        some (min (max (running cleaned (later.drop j) (k + 1 + j)) (cleaned.getD later[j] 1)) 1) := by
  induction later generalizing k with
  | nil => simp [running]
  | cons i rest ih =>
    rw [List.length_cons] at hlen
    obtain ⟨hfresh, hnodup⟩ := List.nodup_cons.mp hnodup
    obtain ⟨hi, hlt⟩ := List.forall_mem_cons.mp hlt
    obtain ⟨hrunning, hlength, hadjusted⟩ := ih (by omega : k + 1 + rest.length = _) hnodup hlt
    rw [List.reverse_cons, List.zipIdx_append, List.foldl_append]
    set before := (rest.reverse.zipIdx 1).foldl (adjustPass cleaned)
      (1, List.replicate cleaned.length 1) with hbefore
    have hrank : cleaned.length - (1 + rest.reverse.length) + 1 = k + 1 := by
      rw [List.length_reverse]
      omega
    have hpass : ([i].zipIdx (1 + rest.reverse.length)).foldl (adjustPass cleaned) before =
        (running cleaned (i :: rest) (k + 1), before.2.set i
          (min (max (running cleaned (i :: rest) (k + 1)) (cleaned.getD i 1)) 1)) := by
      simp only [List.zipIdx_cons, List.zipIdx_nil, List.foldl_cons, List.foldl_nil, adjustPass,
        hrank, hrunning, running]
    rw [hpass]
    refine ⟨rfl, by simpa using hlength, fun j hj => ?_⟩
    cases j with
    | zero => simp [hlength, hi]
    | succ j =>
      have hj' : j < rest.length := by simpa using hj
      have hne : i ≠ rest[j] := fun h => hfresh (h ▸ List.getElem_mem hj')
      have hindex : k + 1 + 1 + j = k + 1 + (j + 1) := by omega
      simp only [List.getElem_cons_succ, List.drop_succ_cons, List.getElem?_set_ne hne,
        hadjusted j hj', hindex]

/-- On exact numbers the running minimum is the least of what the order
statistics from its rank on are worth. -/
theorem running_isLeast (hexact : Exact) {cleaned : List Rat} {later : List Nat}
    (hdrop : (pValueOrder cleaned).drop k = later) :
    IsLeast (StepUp.fromRank (cleaned.insertionSort (· ≤ ·)) k) (running cleaned later (k + 1)) := by
  have hlength : (cleaned.insertionSort (· ≤ ·)).length = cleaned.length :=
    List.length_insertionSort _ _
  induction later generalizing k with
  | nil =>
    refine ⟨Set.mem_insert _ _, ?_⟩
    rintro x (rfl | ⟨j, hj, -⟩)
    · exact le_rfl
    · have hle := List.drop_eq_nil_iff.mp hdrop
      have hj' := j.isLt
      rw [pValueOrder_length] at hle
      omega
  | cons i rest ih =>
    have hk : k < (pValueOrder cleaned).length := by
      by_contra hge
      rw [List.drop_eq_nil_of_le (not_lt.mp hge)] at hdrop
      exact absurd hdrop nofun
    rw [List.drop_eq_getElem_cons hk] at hdrop
    obtain ⟨hi, hrest⟩ := List.cons.inj hdrop
    have hk' : k < (cleaned.insertionSort (· ≤ ·)).length := by
      rwa [hlength, ← pValueOrder_length]
    have hvalue : (cleaned.insertionSort (· ≤ ·))[k] = cleaned.getD i 1 := by
      have hvalues := pValueOrder_values cleaned
      simp only [← hvalues, List.getElem_map, hi]
    have hscaled : StepUp.scaled (cleaned.insertionSort (· ≤ ·)) ⟨k, hk'⟩ =
        div (mul (cleaned.getD i 1) cleaned.length) (k + 1 : Nat) := by
      simp only [StepUp.scaled, hexact.div, hexact.mul, Nat.cast_succ, Fin.getElem_fin, hvalue,
        hlength]
    have hset : StepUp.fromRank (cleaned.insertionSort (· ≤ ·)) k =
        insert (StepUp.scaled _ ⟨k, hk'⟩)
          (StepUp.fromRank (cleaned.insertionSort (· ≤ ·)) (k + 1)) := StepUp.fromRank_eq ⟨k, hk'⟩
    rw [hset, running, min_comm, ← hscaled]
    exact (ih hrest).insert _

end

-- ---------------------------------------------------------------------------
-- Ranks and order statistics
-- ---------------------------------------------------------------------------

def pValue (ps : List Rat) (i : Nat) : Rat := ps.getD i 1

/-- The rank of an index: how many p-values are smaller, or equal and at no
later index. -/
def rank (ps : List Rat) (i : Nat) : Nat :=
  (List.range ps.length).countP fun j => toLex (pValue ps j, j) ≤ toLex (pValue ps i, i)

/-- `p_(j)`, the `j`-th smallest p-value. -/
def orderStatistic (ps : List Rat) (j : Nat) : Rat := (ps.insertionSort (· ≤ ·)).getD (j - 1) 1

section
variable {ps : List Rat}

theorem pValue_eq (hi : i < ps.length) : pValue ps i = ps[i] := (List.getElem_eq_getD 1).symm

theorem pValue_mem (hi : i < ps.length) : pValue ps i ∈ ps := by
  rw [pValue_eq hi]
  exact List.getElem_mem hi

theorem cleaned_eq (hps : ∀ p ∈ ps, 0 ≤ p ∧ p ≤ 1) :
    ps.map (fun value => clamp value 0 1) = ps := by
  refine (List.map_congr_left fun p hp => ?_).trans (List.map_id ps)
  obtain ⟨h0, h1⟩ := hps p hp
  rw [clamp, max_eq_left h0, min_eq_left h1, id]

theorem sorted_length : (ps.insertionSort (· ≤ ·)).length = ps.length := List.length_insertionSort _ _

theorem sorted_ordered (hps : ∀ p ∈ ps, 0 ≤ p ∧ p ≤ 1) :
    StepUp.Ordered (ps.insertionSort (· ≤ ·)) where
  sorted := List.pairwise_insertionSort _ _
  nonneg := fun x hx => (hps x ((List.mem_insertionSort _).mp hx)).1

theorem orderStatistic_succ (j : Fin (ps.insertionSort (· ≤ ·)).length) :
    orderStatistic ps (j + 1) = (ps.insertionSort (· ≤ ·))[j] :=
  (List.getElem_eq_getD _).symm

theorem succ_le_length (j : Fin (ps.insertionSort (· ≤ ·)).length) : j + 1 ≤ ps.length :=
  Nat.lt_of_lt_of_eq j.isLt sorted_length

theorem scaled_eq (j : Fin (ps.insertionSort (· ≤ ·)).length) :
    StepUp.scaled (ps.insertionSort (· ≤ ·)) j =
      orderStatistic ps (j + 1) * ps.length / (j + 1 : Nat) := by
  simp only [StepUp.scaled, orderStatistic_succ, sorted_length, Nat.cast_succ]

theorem mem_below (j : Fin (ps.insertionSort (· ≤ ·)).length) :
    j ∈ StepUp.below (ps.insertionSort (· ≤ ·)) alpha ↔
      orderStatistic ps (j + 1) ≤ (j + 1 : Nat) * alpha / ps.length := by
  simp only [StepUp.below, Set.mem_ofPred_eq, orderStatistic_succ, sorted_length, Nat.cast_succ]

/-- The place of an index in the order of the loop is its rank less one. -/
theorem rank_eq (hi : i < ps.length) : ∃ j : Fin (ps.insertionSort (· ≤ ·)).length,
    rank ps i = j + 1 ∧ (pValueOrder ps)[j.val]? = some i ∧
      (ps.insertionSort (· ≤ ·))[j] = pValue ps i := by
  obtain ⟨j, hj, rfl⟩ := List.mem_iff_getElem.mp (mem_pValueOrder.mpr hi)
  have hj' : j < (ps.insertionSort (· ≤ ·)).length := by
    rwa [sorted_length, ← pValueOrder_length]
  have hvalue : (ps.insertionSort (· ≤ ·))[j] = pValue ps (pValueOrder ps)[j] := by
    simp only [← pValueOrder_values ps, List.getElem_map, pValue]
  refine ⟨⟨j, hj'⟩, ?_, List.getElem?_eq_getElem hj, hvalue⟩
  rw [rank, ← (pValueOrder_perm ps).countP_eq]
  exact (pValueOrder_strict ps).countP_le j hj

/-- One, and what the order statistics from a rank on are worth. -/
theorem fromRank_eq_orderStatistic (r : Nat) :
    StepUp.fromRank (ps.insertionSort (· ≤ ·)) r = insert 1
      {x | ∃ j, r + 1 ≤ j ∧ j ≤ ps.length ∧ x = orderStatistic ps j * ps.length / j} := by
  rw [StepUp.fromRank]
  congr 1
  ext x
  constructor
  · rintro ⟨j, hj, rfl⟩
    exact ⟨j + 1, Nat.succ_le_succ hj, succ_le_length j, scaled_eq j⟩
  · rintro ⟨j, hj, hle, rfl⟩
    obtain ⟨m, rfl⟩ : ∃ m, j = m + 1 := ⟨j - 1, by omega⟩
    let place : Fin (ps.insertionSort (· ≤ ·)).length := ⟨m, by rw [sorted_length]; omega⟩
    exact ⟨place, Nat.le_of_succ_le_succ hj, (scaled_eq place).symm⟩

theorem rejects_iff_orderStatistic : StepUp.Rejects (ps.insertionSort (· ≤ ·)) alpha p ↔
    ∃ k, IsGreatest {k : Nat | 1 ≤ k ∧ k ≤ ps.length ∧
      orderStatistic ps k ≤ k * alpha / ps.length} k ∧ p ≤ orderStatistic ps k := by
  constructor
  · rintro ⟨k, ⟨hk, hmax⟩, hp⟩
    refine ⟨k + 1, ⟨⟨Nat.succ_pos _, succ_le_length k, (mem_below k).mp hk⟩, ?_⟩,
      orderStatistic_succ k ▸ hp⟩
    rintro j ⟨hpos, hle, hj⟩
    obtain ⟨m, rfl⟩ : ∃ m, j = m + 1 := ⟨j - 1, by omega⟩
    let place : Fin (ps.insertionSort (· ≤ ·)).length := ⟨m, by rw [sorted_length]; omega⟩
    exact Nat.succ_le_succ (hmax ((mem_below place).mpr hj))
  · rintro ⟨k, ⟨⟨hpos, hle, hk⟩, hmax⟩, hp⟩
    obtain ⟨m, rfl⟩ : ∃ m, k = m + 1 := ⟨k - 1, by omega⟩
    let place : Fin (ps.insertionSort (· ≤ ·)).length := ⟨m, by rw [sorted_length]; omega⟩
    refine ⟨place, ⟨(mem_below place).mpr hk, fun j hj => ?_⟩, ?_⟩
    · exact Nat.le_of_succ_le_succ
        (hmax ⟨Nat.succ_pos _, succ_le_length j, (mem_below j).mp hj⟩)
    · exact orderStatistic_succ place ▸ hp

end

-- ---------------------------------------------------------------------------
-- The adjusted values
-- ---------------------------------------------------------------------------

section
variable [DetectionMath] {ps : List Rat}

def qValue (ps : List Rat) (i : Nat) : Rat := (benjaminiHochberg ps).getD i 1

/-- The values are those of the Benjamini-Hochberg adjustment and of the
step-up procedure. -/
structure StepUpAdjusted (ps : List Rat) : Prop where
  length : (benjaminiHochberg ps).length = ps.length
  ranked : ∀ i < ps.length, IsLeast (insert 1 {x | ∃ j, rank ps i ≤ j ∧ j ≤ ps.length ∧
    x = orderStatistic ps j * ps.length / j}) (qValue ps i)
  bounds : ∀ i < ps.length, pValue ps i ≤ qValue ps i ∧ qValue ps i ≤ 1
  ties : ∀ i < ps.length, ∀ j < ps.length, pValue ps i = pValue ps j → qValue ps i = qValue ps j
  monotone : ∀ i < ps.length, ∀ j < ps.length,
    pValue ps i ≤ pValue ps j → qValue ps i ≤ qValue ps j
  permuted : ∀ σ : Equiv.Perm (Fin ps.length),
    benjaminiHochberg (List.ofFn fun i => pValue ps (σ i)) = List.ofFn fun i => qValue ps (σ i)
  rejected : ∀ alpha < 1, ∀ i < ps.length, qValue ps i ≤ alpha ↔
    ∃ k, IsGreatest {k : Nat | 1 ≤ k ∧ k ≤ ps.length ∧
      orderStatistic ps k ≤ k * alpha / ps.length} k ∧ pValue ps i ≤ orderStatistic ps k

/-- What the loop leaves. -/
theorem benjaminiHochberg_running (hps : ∀ p ∈ ps, 0 ≤ p ∧ p ≤ 1) :
    (benjaminiHochberg ps).length = ps.length ∧
      ∀ j (hj : j < (pValueOrder ps).length), (benjaminiHochberg ps)[(pValueOrder ps)[j]]? =
        some (min (max (running ps ((pValueOrder ps).drop j) (j + 1))
          (pValue ps (pValueOrder ps)[j])) 1) := by
  have hnodup : (pValueOrder ps).Nodup := (pValueOrder_perm ps).nodup_iff.mpr List.nodup_range
  obtain ⟨-, hlength, hvalues⟩ := loop_running (k := 0)
    (by rw [Nat.zero_add, pValueOrder_length]) hnodup fun i hi => mem_pValueOrder.mp hi
  rw [benjaminiHochberg]
  simp only [cleaned_eq hps]
  refine ⟨hlength, fun j hj => ?_⟩
  rw [hvalues j hj, Nat.zero_add, Nat.add_comm 1 j]
  rfl

variable (hexact : Exact)
include hexact

/-- The adjusted value of a rank. -/
theorem qValue_isLeast (hps : ∀ p ∈ ps, 0 ≤ p ∧ p ≤ 1) (hi : i < ps.length) :
    ∃ j : Fin (ps.insertionSort (· ≤ ·)).length, rank ps i = j + 1 ∧
      (ps.insertionSort (· ≤ ·))[j] = pValue ps i ∧
      IsLeast (StepUp.fromRank (ps.insertionSort (· ≤ ·)) j) (qValue ps i) := by
  have hordered := sorted_ordered hps
  obtain ⟨j, hrank, hplace, hvalue⟩ := rank_eq hi
  refine ⟨j, hrank, hvalue, ?_⟩
  obtain ⟨hj, hget⟩ := List.getElem?_eq_some_iff.mp hplace
  have hleast := running_isLeast hexact (rfl : (pValueOrder ps).drop j = _)
  have hle : pValue ps i ≤ running ps ((pValueOrder ps).drop j) (j + 1) := by
    refine StepUp.le_of_isLeast hordered ?_ (hps _ (pValue_mem hi)).2
    rw [← hvalue]
    exact (StepUp.isLeast_fromRank_iff hordered j).mp hleast
  have hq : qValue ps i = running ps ((pValueOrder ps).drop j) (j + 1) := by
    have hrun := (benjaminiHochberg_running hps).2 j hj
    rw [hget] at hrun
    rw [qValue, List.getD_eq_getElem?_getD, hrun, Option.getD_some, max_eq_left hle,
      min_eq_left (hleast.2 (Set.mem_insert _ _))]
  rw [hq]
  exact hleast

/-- The adjusted value depends on the p-value and the order statistics only. -/
theorem qValue_isLeast_value (hps : ∀ p ∈ ps, 0 ≤ p ∧ p ≤ 1) (hi : i < ps.length) :
    IsLeast (StepUp.fromValue (ps.insertionSort (· ≤ ·)) (pValue ps i)) (qValue ps i) := by
  obtain ⟨j, -, hvalue, hleast⟩ := qValue_isLeast hexact hps hi
  rw [← hvalue]
  exact (StepUp.isLeast_fromRank_iff (sorted_ordered hps) j).mp hleast

theorem benjaminiHochberg_permuted (hps : ∀ p ∈ ps, 0 ≤ p ∧ p ≤ 1)
    (σ : Equiv.Perm (Fin ps.length)) :
    benjaminiHochberg (List.ofFn fun i => pValue ps (σ i)) = List.ofFn fun i => qValue ps (σ i) := by
  have hperm : (List.ofFn fun i => pValue ps (σ i)).Perm ps := by
    have hfn : List.ofFn (fun i : Fin ps.length => pValue ps i) = ps := by
      refine List.ext_getElem (by simp) fun i hi hi' => ?_
      rw [List.getElem_ofFn, pValue_eq hi']
    exact (σ.ofFn_comp_perm fun i => pValue ps i).trans (.of_eq hfn)
  have hps' : ∀ p ∈ List.ofFn (fun i => pValue ps (σ i)), 0 ≤ p ∧ p ≤ 1 :=
    fun p hp => hps p (hperm.mem_iff.mp hp)
  have hsorted : (List.ofFn fun i => pValue ps (σ i)).insertionSort (· ≤ ·) =
      ps.insertionSort (· ≤ ·) :=
    (((List.perm_insertionSort _ _).trans hperm).trans (List.perm_insertionSort _ _).symm)
      |>.eq_of_pairwise (fun a b _ _ hab hba => le_antisymm hab hba)
        (List.pairwise_insertionSort _ _) (List.pairwise_insertionSort _ _)
  refine List.ext_getElem ?_ fun i hi hi' => ?_
  · rw [(benjaminiHochberg_running hps').1, List.length_ofFn, List.length_ofFn]
  · have hlt : i < ps.length := by simpa using hi'
    have hleft := qValue_isLeast_value hexact hps' (i := i) (by simpa using hlt)
    have hright := qValue_isLeast_value hexact hps (σ ⟨i, hlt⟩).isLt
    have hvalue : pValue (List.ofFn fun i => pValue ps (σ i)) i = pValue ps (σ ⟨i, hlt⟩) := by
      rw [pValue_eq (by simpa using hlt), List.getElem_ofFn]
    rw [hsorted, hvalue] at hleft
    rw [List.getElem_ofFn, ← hleft.unique hright]
    exact List.getElem_eq_getD 1

/-- `benjamini_hochberg` on exact p-values. -/
theorem benjamini_hochberg_step_up (hps : ∀ p ∈ ps, 0 ≤ p ∧ p ≤ 1) : StepUpAdjusted ps := by
  have hordered := sorted_ordered hps
  have hleast : ∀ i < ps.length, _ := fun i hi => qValue_isLeast_value hexact hps hi
  constructor
  case length => exact (benjaminiHochberg_running hps).1
  case ranked =>
    intro i hi
    obtain ⟨j, hrank, -, hleast⟩ := qValue_isLeast hexact hps hi
    rw [fromRank_eq_orderStatistic] at hleast
    rwa [hrank]
  case bounds =>
    intro i hi
    exact ⟨StepUp.le_of_isLeast hordered (hleast i hi) (hps _ (pValue_mem hi)).2,
      StepUp.le_one (hleast i hi)⟩
  case ties =>
    intro i hi j hj heq
    exact le_antisymm (StepUp.isLeast_mono (hleast i hi) (hleast j hj) heq.le)
      (StepUp.isLeast_mono (hleast j hj) (hleast i hi) heq.ge)
  case monotone =>
    intro i hi j hj hle
    exact StepUp.isLeast_mono (hleast i hi) (hleast j hj) hle
  case permuted => exact benjaminiHochberg_permuted hexact hps
  case rejected =>
    intro alpha halpha i hi
    rw [StepUp.le_level_iff hordered (hleast i hi) halpha, rejects_iff_orderStatistic]

end

/-- Four p-values, two of them equal. -/
theorem benjamini_hochberg_sample :
    @StepUpAdjusted exactMath [1 / 50, 1 / 2, 1 / 100, 1 / 50] :=
  @benjamini_hochberg_step_up exactMath _ exactMath_exact (by decide +kernel)

example : @benjaminiHochberg exactMath [1 / 50, 1 / 2, 1 / 100, 1 / 50] =
    [2 / 75, 1 / 2, 2 / 75, 2 / 75] := by decide +kernel

end Paic.Detection
