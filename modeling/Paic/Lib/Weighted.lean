import Mathlib

/-!
# Choosing by weight

An option is chosen by a number from the unit interval: the first one up to
which the weights sum to more than that share of their total. With positive
weights there always is one.
-/

namespace Paic

/-- A number of the unit interval, its upper end left out. -/
structure Uniform where
  value : Rat
  nonneg : 0 ≤ value
  lt_one : value < 1

/-- Some options, each with a positive weight. -/
structure Weighted (α : Type*) where
  options : List (α × Rat)
  nonempty : options ≠ []
  positive : ∀ option ∈ options, 0 < option.2

namespace Weighted

/-- The first option up to which the weights sum to more than `x`. -/
def search : List (α × Rat) → Rat → Option α
  | [], _ => none
  | (a, weight) :: rest, x => if x < weight then some a else search rest (x - weight)

theorem search_mem {options : List (α × Rat)} (h : search options x = some a) :
    a ∈ options.map Prod.fst := by
  induction options generalizing x with
  | nil => exact absurd h nofun
  | cons option rest ih =>
    obtain ⟨b, weight⟩ := option
    rw [search] at h
    rw [List.map_cons, List.mem_cons]
    split at h
    · exact .inl (Option.some.inj h).symm
    · exact .inr (ih h)

theorem search_isSome {options : List (α × Rat)} (hx : 0 ≤ x)
    (h : x < (options.map Prod.snd).sum) : (search options x).isSome = true := by
  induction options generalizing x with
  | nil => exact absurd (hx.trans_lt h) (lt_irrefl 0)
  | cons option rest ih =>
    obtain ⟨b, weight⟩ := option
    rw [search]
    split
    · rfl
    · next hle =>
      rw [List.map_cons, List.sum_cons] at h
      exact ih (by linarith) (by linarith)

section
variable {α : Type*} (w : Weighted α) (u : Uniform)

def total : Rat := (w.options.map Prod.snd).sum

theorem total_pos : 0 < w.total := by
  obtain ⟨options, hne, hpos⟩ := w
  cases options with
  | nil => exact absurd rfl hne
  | cons option rest =>
    rw [total, List.map_cons, List.sum_cons]
    refine lt_add_of_pos_of_le (hpos option (List.mem_cons_self ..)) (List.sum_nonneg fun x hx => ?_)
    obtain ⟨o, ho, rfl⟩ := List.mem_map.mp hx
    exact (hpos o (List.mem_cons_of_mem _ ho)).le

theorem search_total_isSome : (search w.options (u.value * w.total)).isSome = true := by
  have hpos := w.total_pos
  refine search_isSome (mul_nonneg u.nonneg hpos.le) ?_
  exact mul_lt_of_lt_one_left hpos u.lt_one

/-- `rng.choice(options, p=weights / weights.sum())` -/
def choose : α := (search w.options (u.value * w.total)).get (search_total_isSome w u)

theorem choose_mem : w.choose u ∈ w.options.map Prod.fst :=
  search_mem (Option.some_get _).symm

/-- Rows with their weights. -/
def ofRows (rows : List α) (weight : α → Rat) (h : rows ≠ [] ∧ ∀ row ∈ rows, 0 < weight row) :
    Weighted α where
  options := rows.map fun row => (row, weight row)
  nonempty := by simpa using h.1
  positive option ho := by
    obtain ⟨row, hrow, rfl⟩ := List.mem_map.mp ho
    exact h.2 row hrow

theorem ofRows_choose_mem {rows : List α} {weight : α → Rat}
    (h : rows ≠ [] ∧ ∀ row ∈ rows, 0 < weight row) : (ofRows rows weight h).choose u ∈ rows := by
  have hmem := choose_mem (ofRows rows weight h) u
  have hrows : (ofRows rows weight h).options.map Prod.fst = rows :=
    (List.map_map ..).trans (List.map_id _)
  rwa [hrows] at hmem

end

end Weighted

end Paic
