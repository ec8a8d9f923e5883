import Mathlib

/-!
# Rounding to the nearest integer

Of two integers that are equally near the even one is taken. Rounding moves a
number by a half at most and never past an integer, so sums of
rounded numbers stay near the sums of the numbers.
-/

namespace Paic.Rounding

/-- `numpy.rint`, and `round` of a float. -/
def rint (q : Rat) : Int :=
  let rest := q - ⌊q⌋
  if rest < 1 / 2 then ⌊q⌋ else if 1 / 2 < rest then ⌊q⌋ + 1 else if ⌊q⌋ % 2 = 0 then ⌊q⌋ else ⌊q⌋ + 1

theorem rint_eq (q : Rat) : (rint q = ⌊q⌋ ∧ q - ⌊q⌋ ≤ 1 / 2) ∨ (rint q = ⌊q⌋ + 1 ∧ 1 / 2 ≤ q - ⌊q⌋) := by
  unfold rint
  dsimp only
  split
  · next hlow => exact .inl ⟨rfl, hlow.le⟩
  · next hlow =>
    split
    · next hhigh => exact .inr ⟨rfl, hhigh.le⟩
    · next hhigh =>
      have hhalf : q - ⌊q⌋ = 1 / 2 := le_antisymm (not_lt.mp hhigh) (not_lt.mp hlow)
      split
      · exact .inl ⟨rfl, hhalf.le⟩
      · exact .inr ⟨rfl, hhalf.ge⟩

@[simp] theorem rint_intCast (n : Int) : rint n = n := by simp [rint]

theorem abs_rint_sub_le (q : Rat) : |(rint q : Rat) - q| ≤ 1 / 2 := by
  have hfloor := Int.floor_le q
  have hlt := Int.lt_floor_add_one q
  rw [abs_le]
  rcases rint_eq q with ⟨heq, hrest⟩ | ⟨heq, hrest⟩
  · rw [heq]
    constructor <;> linarith
  · rw [heq, Int.cast_add, Int.cast_one]
    constructor <;> linarith

/-- Rounding never passes an integer from below … -/
theorem le_rint {n : Int} {q : Rat} (h : (n : Rat) ≤ q) : n ≤ rint q := by
  have hfloor : n ≤ ⌊q⌋ := Int.le_floor.mpr h
  rcases rint_eq q with ⟨heq, -⟩ | ⟨heq, -⟩ <;> omega

/-- … nor from above. -/
theorem rint_le {n : Int} {q : Rat} (h : q ≤ n) : rint q ≤ n := by
  rcases h.eq_or_lt with rfl | hlt
  · rw [rint_intCast]
  · have hfloor : ⌊q⌋ < n := Int.floor_lt.mpr hlt
    rcases rint_eq q with ⟨heq, -⟩ | ⟨heq, -⟩ <;> omega

theorem rint_nonneg {q : Rat} (h : 0 ≤ q) : 0 ≤ rint q := le_rint (by simpa using h)

/-- Sums lie as near as their terms, together. -/
theorem abs_sum_sub_le {l : List α} {f g : α → Rat} {ε : Rat} (h : ∀ a ∈ l, |f a - g a| ≤ ε) :
    |(l.map f).sum - (l.map g).sum| ≤ l.length * ε := by
  induction l with
  | nil => simp
  | cons a rest ih =>
    have ha := h a (List.mem_cons_self ..)
    have ih := ih fun b hb => h b (List.mem_cons_of_mem _ hb)
    rw [List.map_cons, List.sum_cons, List.map_cons, List.sum_cons, List.length_cons]
    push_cast
    rw [abs_le] at ha ih ⊢
    constructor <;> linarith [ha.1, ha.2, ih.1, ih.2]

end Paic.Rounding
