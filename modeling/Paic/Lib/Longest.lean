import Mathlib

/-!
# The longest prefix of a list that fits

A loop that drops the last element until the list fits ends at the longest
prefix that does, whatever it is to fit.
-/

namespace Paic.Longest

variable {α : Type*} {fits : List α → Prop} {l p q : List α}

/-- The longest prefix that fits. -/
structure IsLongest (fits : List α → Prop) (l p : List α) : Prop where
  isPrefix : p <+: l
  fit : fits p
  longest : ∀ q, q <+: l → fits q → q.length ≤ p.length

theorem isLongest_self (h : fits l) : IsLongest fits l l :=
  ⟨List.prefix_rfl, h, fun _ hq _ => hq.length_le⟩

/-- A list that does not fit has the longest prefix that it has without its
last element. -/
theorem isLongest_dropLast (h : ¬ fits l) (hp : IsLongest fits l.dropLast p) :
    IsLongest fits l p := by
  refine ⟨hp.isPrefix.trans (List.dropLast_prefix l), hp.fit, fun q hq hfits => ?_⟩
  have hne : q ≠ l := by
    rintro rfl
    exact h hfits
  have hlt : q.length < l.length :=
    Nat.lt_of_le_of_ne hq.length_le fun heq => hne (hq.eq_of_length heq)
  refine hp.longest q ?_ hfits
  refine List.prefix_of_prefix_length_le hq (List.dropLast_prefix l) ?_
  rw [List.length_dropLast]
  omega

/-- The longest prefix of at most `n` elements. -/
theorem isLongest_take (hp : IsLongest fits (l.take n) p) :
    IsLongest (fun q => q.length ≤ n ∧ fits q) l p := by
  have hlength : p.length ≤ n := hp.isPrefix.length_le.trans (List.length_take_le n l)
  refine ⟨hp.isPrefix.trans (List.take_prefix n l), ⟨hlength, hp.fit⟩, fun q hq hfits => ?_⟩
  refine hp.longest q ?_ hfits.2
  refine List.prefix_of_prefix_length_le hq (List.take_prefix n l) ?_
  rw [List.length_take]
  exact Nat.le_min.mpr ⟨hfits.1, hq.length_le⟩

theorem IsLongest.unique (hp : IsLongest fits l p) (hq : IsLongest fits l q) : p = q :=
  (List.prefix_of_prefix_length_le hp.isPrefix hq.isPrefix
    (hq.longest p hp.isPrefix hp.fit)).eq_of_length
      (le_antisymm (hq.longest p hp.isPrefix hp.fit) (hp.longest q hq.isPrefix hq.fit))

end Paic.Longest
