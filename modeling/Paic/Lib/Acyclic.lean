import Mathlib

/-!
# Cycles of a relation

What can be reached by going back finitely often lies on no cycle. A finite set
in which every point has a predecessor holds one.
-/

namespace Paic.Acyclic

open Relation (TransGen ReflTransGen)

variable {α : Type*} {r : α → α → Prop}

/-- A point from which every way back ends is on no cycle. -/
theorem not_cycle_of_acc (h : Acc r v) : ¬ TransGen r v v := by
  induction h with
  | intro v _ ih =>
    intro hcycle
    obtain ⟨u, hvu, huv⟩ := TransGen.tail'_iff.mp hcycle
    -- the predecessor on the cycle is on it too
    exact ih u huv (.head' huv hvu)

/-- Going back within a finite set comes around. -/
theorem exists_cycle {s : Finset α} (hs : s.Nonempty) (hback : ∀ v ∈ s, ∃ u ∈ s, r u v) :
    ∃ v ∈ s, TransGen r v v := by
  by_contra hnone
  rw [not_exists] at hnone
  let within (u v : s) : Prop := TransGen r u v
  have htrans : IsTrans s within := ⟨fun _ _ _ h h' => h.trans h'⟩
  have hirrefl : Std.Irrefl within := ⟨fun v h => hnone v ⟨v.2, h⟩⟩
  have hwf : WellFounded within := Finite.wellFounded_of_trans_of_irrefl within
  obtain ⟨v, hv⟩ := hs
  obtain ⟨m, -, hmin⟩ := hwf.has_min Set.univ ⟨⟨v, hv⟩, trivial⟩
  obtain ⟨u, hu, hum⟩ := hback m m.2
  exact hmin ⟨u, hu⟩ trivial (.single hum)

end Paic.Acyclic
