import Paic.Impact.Engine
import Paic.Lib.Greedy

/-!
# What a nearest-neighbour match is

The loop over the treated is the greedy matching whose pick is the nearest
unused control within the caliper, so that no pair within the caliper is left
out. In the propensity table both members of a pair name each other.
-/

namespace Paic.Impact

open Greedy (greedy Picks Maximal greedy_maximal greedy_nil)

section
variable {K : Type} [Field K] [LinearOrder K] [LogitMath K] {n : Nat} {scores : Fin n → K}
variable {exposed : Fin n → Bool}

/-- The nearest unused control, if it is near enough. -/
def pick (scores : Fin n → K) (maximumDistance : K) (index : Fin n) (unused : List (Fin n)) :
    Option (Fin n) :=
  (candidate scores index unused).filter fun item =>
    logitDistance scores index item ≤ maximumDistance

theorem candidate_nearest (h : candidate scores index unused = some item) (hb : b ∈ unused) :
    logitDistance scores index item ≤ logitDistance scores index b := by
  have hle := List.le_of_mem_argmin hb h
  rw [Prod.Lex.toLex_le_toLex] at hle
  rcases hle with hlt | ⟨heq, -⟩
  · exact hlt.le
  · exact heq.le

theorem pick_picks (scores : Fin n → K) (maximumDistance : K) :
    Picks (fun index item => logitDistance scores index item ≤ maximumDistance)
      (pick scores maximumDistance) where
  mem h := List.argmin_mem (Option.filter_eq_some_iff.mp h).1
  fit h := of_decide_eq_true (Option.filter_eq_some_iff.mp h).2
  nothing := by
    intro index unused h b hb hfit
    cases hnearest : candidate scores index unused with
    | none =>
      rw [List.argmin_eq_none.mp hnearest] at hb
      exact List.not_mem_nil hb
    | some item =>
      have hnear : logitDistance scores index item ≤ maximumDistance :=
        (candidate_nearest hnearest hb).trans hfit
      rw [pick, hnearest, Option.filter_some, if_pos (decide_eq_true hnear)] at h
      exact absurd h nofun

/-- The loop adds to what it has found the greedy matching of the rest. -/
theorem matchLoop_eq (scores : Fin n → K) (maximumDistance : K)
    (items unused : List (Fin n)) (found : List (Fin n × Fin n)) :
    matchLoop scores maximumDistance items unused found =
      found ++ greedy (pick scores maximumDistance) items unused := by
  induction items generalizing unused found with
  | nil => rw [matchLoop, greedy, List.append_nil]
  | cons index items ih =>
    rw [matchLoop]
    cases hnearest : candidate scores index unused with
    | none =>
      obtain rfl := List.argmin_eq_none.mp hnearest
      rw [greedy_nil (pick_picks scores maximumDistance), List.append_nil]
    | some item =>
      by_cases hnear : logitDistance scores index item ≤ maximumDistance
      · have hpick : pick scores maximumDistance index unused = some item := by
          rw [pick, hnearest, Option.filter_some, if_pos (decide_eq_true hnear)]
        dsimp only
        rw [if_pos hnear, greedy, hpick, ih, List.append_assoc]
        rfl
      · have hpick : pick scores maximumDistance index unused = none := by
          rw [pick, hnearest, Option.filter_some, if_neg (by rwa [decide_eq_true_iff])]
        dsimp only
        rw [if_neg hnear, greedy, hpick, ih]

-- ---------------------------------------------------------------------------
-- The matching
-- ---------------------------------------------------------------------------

/-- Exposed indices, each with an unexposed one of its own within the caliper;
an exposed and an unexposed index without a partner are farther apart. -/
structure CaliperMatching (scores : Fin n → K) (exposed : Fin n → Bool) (caliper : K)
    (found : List (Fin n × Fin n)) : Prop where
  treated : ∀ p ∈ found, exposed p.1 = true
  control : ∀ p ∈ found, exposed p.2 = false
  treatedOnce : (found.map Prod.fst).Nodup
  controlOnce : (found.map Prod.snd).Nodup
  within : ∀ p ∈ found, logitDistance scores p.1 p.2 ≤ caliper * logitScale scores
  maximal : ∀ index item, exposed index = true → exposed item = false →
    index ∉ found.map Prod.fst → item ∉ found.map Prod.snd →
    caliper * logitScale scores < logitDistance scores index item

theorem mem_treatedOf : index ∈ treatedOf exposed ↔ exposed index = true := by
  rw [treatedOf, List.mem_filter]
  exact and_iff_right (List.mem_finRange index)

theorem mem_controlsOf : item ∈ controlsOf exposed ↔ exposed item = false := by
  rw [controlsOf, List.mem_filter, Bool.not_eq_true']
  exact and_iff_right (List.mem_finRange item)

theorem nearestNeighborMatches_caliper (scores : Fin n → K) (exposed : Fin n → Bool) (caliper : K) :
    CaliperMatching scores exposed caliper (nearestNeighborMatches scores exposed caliper) := by
  rw [nearestNeighborMatches]
  by_cases hempty : treatedOf exposed = [] ∨ controlsOf exposed = []
  · rw [if_pos hempty]
    refine ⟨nofun, nofun, List.nodup_nil, List.nodup_nil, nofun, fun index item ht hc _ _ => ?_⟩
    rcases hempty with hempty | hempty
    · exact absurd (hempty ▸ mem_treatedOf.mpr ht) List.not_mem_nil
    · exact absurd (hempty ▸ mem_controlsOf.mpr hc) List.not_mem_nil
  · have hfinRange := List.nodup_finRange n
    have hmax := greedy_maximal (pick_picks scores (caliper * logitScale scores))
      (Sorted.byKey (fun item => toLex (scores item, item)) (treatedOf exposed))
      (hfinRange.filter fun index => !exposed index)
    rw [if_neg hempty, matchLoop_eq, List.nil_append]
    have hitem : ∀ {index}, index ∈ Sorted.byKey (fun item => toLex (scores item, item))
        (treatedOf exposed) ↔ exposed index = true :=
      Sorted.mem_byKey.trans mem_treatedOf
    constructor
    case treated =>
      exact fun p hp => hitem.mp (hmax.sublist.subset (List.mem_map_of_mem hp))
    case control =>
      exact fun p hp => mem_controlsOf.mp (hmax.available p.2 (List.mem_map_of_mem hp))
    case treatedOnce =>
      exact hmax.sublist.nodup ((Sorted.byKey_perm _ _).nodup_iff.mpr (hfinRange.filter _))
    case controlOnce => exact hmax.once
    case within => exact hmax.fit
    case maximal =>
      intro index item ht hc hindex hunused
      exact not_le.mp (hmax.maximal index (hitem.mpr ht) hindex item (mem_controlsOf.mpr hc) hunused)

-- ---------------------------------------------------------------------------
-- The propensity table
-- ---------------------------------------------------------------------------

omit [Field K] [LinearOrder K] [LogitMath K] in
/-- A dict of pairs whose keys differ. -/
theorem dictOf_eq_some {items : List (Fin n × Fin n)} (h : (items.map Prod.fst).Nodup) :
    dictOf items k = some v ↔ (k, v) ∈ items := by
  have hfold : ∀ dict : Fin n → Option (Fin n),
      items.foldl (fun (dict : Fin n → Option (Fin n)) (item : Fin n × Fin n) =>
          Function.update dict item.1 (some item.2)) dict k = some v ↔
        (k, v) ∈ items ∨ k ∉ items.map Prod.fst ∧ dict k = some v := by
    induction items with
    | nil => simp
    | cons item items ih =>
      intro dict
      obtain ⟨hnew, hnodup⟩ := List.nodup_cons.mp h
      rw [List.foldl_cons, ih hnodup, List.mem_cons, List.map_cons, List.mem_cons, not_or]
      by_cases hk : k = item.1
      · subst hk
        have hnot : (item.1, v) ∉ items := fun hmem =>
          hnew (List.mem_map.mpr ⟨_, hmem, rfl⟩)
        rw [Function.update_self, Option.some.injEq]
        constructor
        · rintro (hmem | ⟨-, rfl⟩)
          · exact absurd hmem hnot
          · exact .inl (.inl rfl)
        · rintro ((heq | hmem) | ⟨⟨hne, -⟩, -⟩)
          · exact .inr ⟨hnew, congrArg Prod.snd heq.symm⟩
          · exact absurd hmem hnot
          · exact absurd rfl hne
      · have hne : (k, v) ≠ item := fun heq => hk (congrArg Prod.fst heq)
        rw [Function.update_of_ne hk]
        simp only [hne, hk, false_or, not_false_eq_true, true_and]
  rw [dictOf, hfold]
  simp

/-- A customer's partner is the other member of its pair. -/
theorem CaliperMatching.matchedIndex_iff (h : CaliperMatching scores exposed caliper found) :
    matchedIndex exposed found index = some item ↔ (index, item) ∈ found ∨ (item, index) ∈ found := by
  have hswap : ((found.map Prod.swap).map Prod.fst).Nodup := by
    rw [List.map_map]
    exact h.controlOnce
  have hmem : (index, item) ∈ found.map Prod.swap ↔ (item, index) ∈ found := by
    rw [List.mem_map]
    constructor
    · rintro ⟨p, hp, heq⟩
      obtain rfl : p = (item, index) := by rw [← Prod.swap_swap p, heq, Prod.swap_prod_mk]
      exact hp
    · exact fun hp => ⟨_, hp, rfl⟩
  rw [matchedIndex]
  by_cases hexposed : exposed index = true
  · rw [if_pos hexposed, dictOf_eq_some h.treatedOnce, or_iff_left]
    intro hp
    exact absurd hexposed (Bool.not_eq_true _ ▸ h.control _ hp)
  · rw [if_neg hexposed, dictOf_eq_some hswap, hmem, or_iff_right]
    exact fun hp => hexposed (h.treated _ hp)

/-- No index is in two pairs. -/
theorem CaliperMatching.once (h : CaliperMatching scores exposed caliper found)
    (hp : p ∈ found) (hq : q ∈ found) (hip : index = p.1 ∨ index = p.2)
    (hiq : index = q.1 ∨ index = q.2) : p = q := by
  have htreated := h.treated
  have hcontrol := h.control
  rcases hip with rfl | rfl <;> rcases hiq with heq | heq
  · exact List.inj_on_of_nodup_map h.treatedOnce hp hq heq
  · exact absurd (htreated p hp) (by rw [heq, hcontrol q hq]; nofun)
  · exact absurd (htreated q hq) (by rw [← heq, hcontrol p hp]; nofun)
  · exact List.inj_on_of_nodup_map h.controlOnce hp hq heq

/-- The matching is a maximal matching within the caliper, every index is in at
most one pair of it, and where the customers' ids differ, two rows name each
other when they are a pair and not otherwise. -/
theorem matching_maximal (scores : Fin n → K) (exposed : Fin n → Bool) (caliper clip : K)
    (ids : Fin n → String) :
    CaliperMatching scores exposed caliper (nearestNeighborMatches scores exposed caliper) ∧
    (∀ p ∈ nearestNeighborMatches scores exposed caliper,
      ∀ q ∈ nearestNeighborMatches scores exposed caliper, ∀ index,
        (index = p.1 ∨ index = p.2) → (index = q.1 ∨ index = q.2) → p = q) ∧
    (∀ index item,
      matchedIndex exposed (nearestNeighborMatches scores exposed caliper) index = some item ↔
        matchedIndex exposed (nearestNeighborMatches scores exposed caliper) item = some index) ∧
    (Function.Injective ids → ∀ index item,
      ((propensityRow ids exposed scores caliper clip index).matchedCustomerId = some (ids item) ↔
        (index, item) ∈ nearestNeighborMatches scores exposed caliper ∨
        (item, index) ∈ nearestNeighborMatches scores exposed caliper) ∧
      ((propensityRow ids exposed scores caliper clip index).matchedCustomerId = some (ids item) ↔
        (propensityRow ids exposed scores caliper clip item).matchedCustomerId =
          some (ids index))) := by
  have hmatching := nearestNeighborMatches_caliper scores exposed caliper
  refine ⟨hmatching, fun p hp q hq index => hmatching.once hp hq, ?_, ?_⟩
  · intro index item
    rw [hmatching.matchedIndex_iff, hmatching.matchedIndex_iff, or_comm]
  · intro hids
    have hmatched : ∀ index item,
        (propensityRow ids exposed scores caliper clip index).matchedCustomerId = some (ids item) ↔
          (index, item) ∈ nearestNeighborMatches scores exposed caliper ∨
          (item, index) ∈ nearestNeighborMatches scores exposed caliper := by
      intro index item
      rw [← hmatching.matchedIndex_iff]
      exact Option.map_eq_some_iff.trans
        ⟨fun ⟨found, hfound, heq⟩ => hids heq ▸ hfound, fun hfound => ⟨item, hfound, rfl⟩⟩
    intro index item
    refine ⟨hmatched index item, ?_⟩
    rw [hmatched, hmatched, or_comm]

end

namespace Sample

/-- The logit and the deviation of scores that are all one half. -/
instance : LogitMath Rat where
  logit score := score - 1 / 2
  std logits := if ∃ logit ∈ logits, logit ≠ 0 then 1 else 0

def scores : Fin 5 → Rat := fun _ => 1 / 2

def exposed : Fin 5 → Bool := fun index => index = 1 ∨ index = 3

def ids : Fin 5 → String := fun index => toString index.val

theorem matching_maximal_sample :
    (propensityRow ids exposed scores (1 / 5) (1 / 50) 1).matchedCustomerId = some (ids 0) ∧
      (propensityRow ids exposed scores (1 / 5) (1 / 50) 0).matchedCustomerId = some (ids 1) := by
  have hids : Function.Injective ids := by
    intro a b
    revert a b
    decide +kernel
  obtain ⟨-, -, -, hrows⟩ := matching_maximal scores exposed (1 / 5) (1 / 50) ids
  have hfound : ((1 : Fin 5), (0 : Fin 5)) ∈ nearestNeighborMatches scores exposed (1 / 5) := by
    decide +kernel
  obtain ⟨hmatched, hboth⟩ := hrows hids 1 0
  have hone := hmatched.mpr (.inl hfound)
  exact ⟨hone, hboth.mp hone⟩

end Sample

end Paic.Impact
