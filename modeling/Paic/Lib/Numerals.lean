import Mathlib

/-!
# Numerals with leading zeros

`f"{n:0w}"`: the decimal digits of a number, filled up with zeros to a width.
The number can be read back, so a name that ends in such a numeral is the name
of one number.
-/

namespace Paic.Numerals

/-- `f"{n:0{width}d}"` -/
def padded (width n : Nat) : String :=
  String.ofList (List.replicate (width - (Nat.toDigits 10 n).length) '0' ++ Nat.toDigits 10 n)

theorem padded_injective (width : Nat) (h : padded width m = padded width n) : m = n := by
  have read : ∀ n, Nat.ofDigitChars 10 (padded width n).toList 0 = n := fun n => by
    simp [padded, Nat.ofDigitChars_append]
  rw [← read m, h, read]

/-- A text before the numeral changes nothing. -/
theorem append_padded_injective (label : String) (width : Nat)
    (h : label ++ padded width m = label ++ padded width n) : m = n :=
  padded_injective width (String.append_right_inj label |>.mp h)

theorem padded_nodup (label : String) (width : Nat) {l : List Nat} (h : l.Nodup) :
    (l.map fun n => label ++ padded width n).Nodup :=
  h.map fun _ _ heq => append_padded_injective label width heq

end Paic.Numerals
