import Mathlib

/-!
# Greedy matching

Items take, one after the other, their pick of what the ones before them have
left. When everybody who finds something that fits takes one, nobody who goes
without has anything left that fits.
-/

namespace Paic.Greedy

variable {α β : Type*} [DecidableEq β]

/-- Each item in turn takes its pick of what is left, if it has one. -/
def greedy (pick : α → List β → Option β) : List α → List β → List (α × β)
  | [], _ => []
  | a :: rest, left =>
    match pick a left with
    | none => greedy pick rest left
    | some b => (a, b) :: greedy pick rest (left.erase b)

/-- A pick is of what is left and fits, and there is none only where nothing
fits. -/
structure Picks (fits : α → β → Prop) (pick : α → List β → Option β) : Prop where
  mem : ∀ {a left b}, pick a left = some b → b ∈ left
  fit : ∀ {a left b}, pick a left = some b → fits a b
  nothing : ∀ {a left}, pick a left = none → ∀ b ∈ left, ¬ fits a b

/-- A matching of some of the items with some of what there is, to which no
pair that fits can be added. -/
structure Maximal (fits : α → β → Prop) (items : List α) (left : List β)
    (pairs : List (α × β)) : Prop where
  sublist : (pairs.map Prod.fst).Sublist items
  available : ∀ b ∈ pairs.map Prod.snd, b ∈ left
  once : (pairs.map Prod.snd).Nodup
  fit : ∀ p ∈ pairs, fits p.1 p.2
  maximal : ∀ a ∈ items, a ∉ pairs.map Prod.fst → ∀ b ∈ left, b ∉ pairs.map Prod.snd → ¬ fits a b

variable {fits : α → β → Prop} {pick : α → List β → Option β}

omit [DecidableEq β] in
theorem Maximal.nil (left : List β) : Maximal fits ([] : List α) left [] where
  sublist := List.nil_sublist _
  available _ h := absurd h List.not_mem_nil
  once := List.nodup_nil
  fit _ h := absurd h List.not_mem_nil
  maximal _ h := absurd h List.not_mem_nil

omit [DecidableEq β] in
/-- An item for which nothing fits goes without. -/
theorem Maximal.skip (h : Maximal fits items left pairs) (hnone : ∀ b ∈ left, ¬ fits a b) :
    Maximal fits (a :: items) left pairs where
  sublist := h.sublist.cons a
  available := h.available
  once := h.once
  fit := h.fit
  maximal := by
    intro a' ha' hwithout b hb hunused
    rcases List.mem_cons.mp ha' with rfl | ha'
    · exact hnone b hb
    · exact h.maximal a' ha' hwithout b hb hunused

/-- An item that takes something leaves the rest to the others. -/
theorem Maximal.take (hleft : left.Nodup) (hb : b ∈ left) (hfit : fits a b)
    (h : Maximal fits items (left.erase b) pairs) :
    Maximal fits (a :: items) left ((a, b) :: pairs) where
  sublist := h.sublist.cons_cons a
  available := List.forall_mem_cons.mpr ⟨hb, fun b' hb' => List.mem_of_mem_erase (h.available b' hb')⟩
  once := List.nodup_cons.mpr ⟨fun hmem => hleft.not_mem_erase (h.available b hmem), h.once⟩
  fit := List.forall_mem_cons.mpr ⟨hfit, h.fit⟩
  maximal := by
    intro a' ha' hwithout b' hb' hunused
    rw [List.map_cons, List.mem_cons, not_or] at hwithout hunused
    have hitem : a' ∈ items := (List.mem_cons.mp ha').resolve_left hwithout.1
    have herase : b' ∈ left.erase b := (List.mem_erase_of_ne hunused.1).mpr hb'
    exact h.maximal a' hitem hwithout.2 b' herase hunused.2

/-- The greedy matching is maximal. -/
theorem greedy_maximal (hpick : Picks fits pick) (items : List α) {left : List β}
    (hleft : left.Nodup) : Maximal fits items left (greedy pick items left) := by
  induction items generalizing left with
  | nil => exact .nil left
  | cons a items ih =>
    rw [greedy]
    split
    case h_1 hnone => exact (ih hleft).skip (hpick.nothing hnone)
    case h_2 b hsome =>
      exact (ih (hleft.erase b)).take hleft (hpick.mem hsome) (hpick.fit hsome)

/-- With nothing left, everybody goes without. -/
theorem greedy_nil (hpick : Picks fits pick) (items : List α) : greedy pick items [] = [] := by
  induction items with
  | nil => rfl
  | cons a items ih =>
    rw [greedy]
    split
    case h_1 => exact ih
    case h_2 b hsome => exact absurd (hpick.mem hsome) List.not_mem_nil

end Paic.Greedy
