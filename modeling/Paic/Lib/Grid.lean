import Mathlib

/-!
# Consecutive points of a grid

As many points of a grid as a window has places, in order, are consecutive.
-/

namespace Paic.Grid

variable {l : List Int} {step : Int}

/-- Points of the grid in order are at least a step apart. -/
theorem step_le (hsorted : l.Pairwise (· < ·)) (hdvd : ∀ x ∈ l, step ∣ x) :
    ∀ k i (h : i + k < l.length), l[i] + k * step ≤ l[i + k] := by
  intro k
  induction k with
  | zero => simp
  | succ k ih =>
    intro i h
    have hk := ih i (by omega)
    have hlt : l[i + k] < l[i + (k + 1)] :=
      List.pairwise_iff_getElem.mp hsorted _ _ (by omega) h (by omega)
    have hstep := Int.le_of_dvd (by omega)
      (Int.dvd_sub (hdvd _ (List.getElem_mem h)) (hdvd _ (List.getElem_mem (by omega : i + k < _))))
    push_cast
    linarith

/-- The points fill the window. -/
theorem consecutive (hsorted : l.Pairwise (· < ·)) (hdvd : ∀ x ∈ l, step ∣ x)
    (hlow : ∀ x ∈ l, a ≤ x) (hhigh : ∀ x ∈ l, x < a + l.length * step) :
    ∃ first, l = (List.range l.length).map fun (k : Nat) => first + (k : Int) * step := by
  by_cases hempty : l.length = 0
  · exact ⟨0, by rw [List.length_eq_zero_iff.mp hempty]; rfl⟩
  have h0 : 0 < l.length := by omega
  refine ⟨l[0], List.ext_getElem (by simp) fun k hk _ => ?_⟩
  rw [List.getElem_map, List.getElem_range]
  have hafter := step_le hsorted hdvd k 0 (by omega)
  have hbefore := step_le hsorted hdvd (l.length - 1 - k) k (by omega)
  simp only [Nat.zero_add] at hafter
  have hlast : l[k + (l.length - 1 - k)] < l[0] + l.length * step := by
    have := hhigh _ (List.getElem_mem (by omega : k + (l.length - 1 - k) < l.length))
    have := hlow _ (List.getElem_mem h0)
    linarith
  have hlength : ((l.length - 1 - k : Nat) : Int) * step = l.length * step - step - k * step := by
    rw [show ((l.length - 1 - k : Nat) : Int) = l.length - 1 - k by omega]
    ring
  rw [hlength] at hbefore
  have hdiff : step ∣ l[k] - l[0] - k * step :=
    Int.dvd_sub (Int.dvd_sub (hdvd _ (List.getElem_mem hk)) (hdvd _ (List.getElem_mem h0)))
      (Int.dvd_mul_left ..)
  have hzero := Int.eq_zero_of_dvd_of_nonneg_of_lt (by linarith) (by linarith) hdiff
  linarith

end Paic.Grid
