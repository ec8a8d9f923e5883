import Mathlib

/-!
# Rate and mix

The change of a weighted mean between two populations, taken apart into what
the rates and what the weights have changed (after Kitagawa): each effect is a
difference times an average.
-/

namespace Paic.Kitagawa

variable {K : Type*} [Field K]

/-- What the change of a rate adds, at the average of the weights. -/
def rateEffect (weight weight' rate rate' : K) : K := 1 / 2 * (weight + weight') * (rate' - rate)

/-- What the change of a weight adds, at the average of the rates. -/
def mixEffect (weight weight' rate rate' : K) : K := 1 / 2 * (rate + rate') * (weight' - weight)

/-- The two effects make up the change of the product. -/
theorem rateEffect_add_mixEffect [CharZero K] (weight weight' rate rate' : K) :
    rateEffect weight weight' rate rate' + mixEffect weight weight' rate rate' =
      weight' * rate' - weight * rate := by
  rw [rateEffect, mixEffect]
  ring

theorem rateEffect_swap (weight weight' rate rate' : K) :
    rateEffect weight' weight rate' rate = -rateEffect weight weight' rate rate' := by
  rw [rateEffect, rateEffect]
  ring

theorem mixEffect_swap (weight weight' rate rate' : K) :
    mixEffect weight' weight rate' rate = -mixEffect weight weight' rate rate' := by
  rw [mixEffect, mixEffect]
  ring

theorem sum_map_sub (f g : α → K) (l : List α) :
    (l.map fun a => f a - g a).sum = (l.map f).sum - (l.map g).sum := by
  have hsum := Multiset.sum_map_sub (m := (l : Multiset α)) (f := f) (g := g)
  simpa only [Multiset.map_coe, Multiset.sum_coe] using hsum

end Paic.Kitagawa
