import Mathlib

/-!
# Shares of positive weights

Positive weights, each divided by their sum, are a distribution. The weights
may be exponentials of scores, and then a shift of the scores cancels. The
entropy of a distribution of `n` values is between zero and `log n`.
-/

namespace Paic.Distribution

/-- The shares of the weights in their sum. -/
noncomputable def shares (weights : List ℝ) : List ℝ := weights.map fun w => w / weights.sum

@[simp] theorem length_shares (weights : List ℝ) : (shares weights).length = weights.length :=
  List.length_map _

theorem sum_pos {weights : List ℝ} (hne : weights ≠ []) (hpos : ∀ w ∈ weights, 0 < w) :
    0 < weights.sum := List.sum_pos _ hpos hne

theorem shares_pos {weights : List ℝ} (hpos : ∀ w ∈ weights, 0 < w) (hp : p ∈ shares weights) :
    0 < p := by
  obtain ⟨w, hw, rfl⟩ := List.mem_map.mp hp
  exact div_pos (hpos w hw) (sum_pos (List.ne_nil_of_mem hw) hpos)

theorem sum_shares {weights : List ℝ} (hne : weights ≠ []) (hpos : ∀ w ∈ weights, 0 < w) :
    (shares weights).sum = 1 := by
  have hsum := sum_pos hne hpos
  simp only [shares, div_eq_mul_inv]
  rw [List.sum_map_mul_right, List.map_id', mul_inv_cancel₀ hsum.ne']

-- ---------------------------------------------------------------------------
-- Exponentials
-- ---------------------------------------------------------------------------

/-- The shift that keeps the exponentials small does not change the shares. -/
theorem shares_shift (scores : List ℝ) (m : ℝ) :
    shares (scores.map fun x => Real.exp (x - m)) = shares (scores.map Real.exp) := by
  have hweights : scores.map (fun x => Real.exp (x - m)) =
      (scores.map Real.exp).map fun w => w * (Real.exp m)⁻¹ := by
    rw [List.map_map]
    refine List.map_congr_left fun x _ => ?_
    rw [Function.comp_apply, Real.exp_sub, div_eq_mul_inv]
  have hm : (Real.exp m)⁻¹ ≠ 0 := inv_ne_zero (Real.exp_ne_zero m)
  rw [shares, shares, hweights, List.sum_map_mul_right, List.map_id', List.map_map]
  refine List.map_congr_left fun w _ => ?_
  rw [Function.comp_apply, mul_div_mul_right _ _ hm]

-- ---------------------------------------------------------------------------
-- One weight raised
-- ---------------------------------------------------------------------------

theorem share_lt_of_raised {w w' rest : ℝ} (hw : 0 < w) (hrest : 0 < rest) (h : w < w') :
    w / (w + rest) < w' / (w' + rest) := by
  rw [div_lt_div_iff₀ (add_pos hw hrest) (add_pos (hw.trans h) hrest)]
  nlinarith [mul_lt_mul_of_pos_right h hrest]

theorem share_lt_of_other_raised {v total total' : ℝ} (hv : 0 < v) (htotal : 0 < total)
    (h : total < total') : v / total' < v / total :=
  div_lt_div_of_pos_left hv htotal h

-- ---------------------------------------------------------------------------
-- Entropy
-- ---------------------------------------------------------------------------

/-- `-sum(p * log(p))` -/
noncomputable def entropy (ps : List ℝ) : ℝ := -(ps.map fun p => p * Real.log p).sum

theorem entropy_nonneg {ps : List ℝ} (hpos : ∀ p ∈ ps, 0 < p) (hsum : ps.sum = 1) :
    0 ≤ entropy ps := by
  have hterm : ∀ x ∈ ps.map fun p => p * Real.log p, x ≤ 0 := by
    intro x hx
    obtain ⟨p, hp, rfl⟩ := List.mem_map.mp hx
    have hle : p ≤ ps.sum := List.single_le_sum (fun q hq => (hpos q hq).le) p hp
    rw [hsum] at hle
    exact mul_nonpos_of_nonneg_of_nonpos (hpos p hp).le (Real.log_nonpos (hpos p hp).le hle)
  have htotal := List.sum_le_card_nsmul _ 0 hterm
  rw [smul_zero] at htotal
  exact neg_nonneg_of_nonpos htotal

/-- Each term is at most that of the uniform distribution, up to the distance
of `p` from it. -/
theorem neg_mul_log_le {p : ℝ} (hp : 0 < p) {n : ℝ} (hn : 0 < n) :
    -(p * Real.log p) ≤ p * Real.log n + n⁻¹ - p := by
  have hlog : Real.log (n * p)⁻¹ ≤ (n * p)⁻¹ - 1 :=
    Real.log_le_sub_one_of_pos (inv_pos.mpr (mul_pos hn hp))
  rw [Real.log_inv, Real.log_mul hn.ne' hp.ne'] at hlog
  have hmul := mul_le_mul_of_nonneg_left hlog hp.le
  have hcancel : p * ((n * p)⁻¹ - 1) = n⁻¹ - p := by
    rw [mul_sub, mul_inv, mul_one, mul_comm n⁻¹, ← mul_assoc, mul_inv_cancel₀ hp.ne', one_mul]
  rw [hcancel] at hmul
  linarith

theorem entropy_le_sum {ps : List ℝ} (hpos : ∀ p ∈ ps, 0 < p) {n : ℝ} (hn : 0 < n) :
    entropy ps ≤ ps.sum * Real.log n + ps.length * n⁻¹ - ps.sum := by
  induction ps with
  | nil => simp [entropy]
  | cons p ps ih =>
    rw [List.forall_mem_cons] at hpos
    have hfirst := neg_mul_log_le hpos.1 hn
    have hrest := ih hpos.2
    simp only [entropy, List.map_cons, List.sum_cons, List.length_cons, Nat.cast_add,
      Nat.cast_one] at hrest ⊢
    linarith

theorem entropy_le_log {ps : List ℝ} (hne : ps ≠ []) (hpos : ∀ p ∈ ps, 0 < p)
    (hsum : ps.sum = 1) : entropy ps ≤ Real.log ps.length := by
  have hn : (0 : ℝ) < ps.length := Nat.cast_pos.mpr (List.length_pos_iff.mpr hne)
  have hle := entropy_le_sum hpos hn
  rw [hsum, mul_inv_cancel₀ hn.ne'] at hle
  linarith

end Paic.Distribution
