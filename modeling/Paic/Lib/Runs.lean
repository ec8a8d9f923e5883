import Paic.Lib.Sorted
import Mathlib

/-!
# Maximal runs of a list

A list is cut between two neighbours that are not joined. The pieces are its
maximal runs: `step` carries the run it is in along, and what comes out is
`List.splitBy`. When the elements are intervals in strict order, a run is the
set of the elements between its ends, and nothing outside touches it.
-/

namespace Paic.Runs

variable {α κ : Type*}

section
variable (joined : α → α → Bool)

/-- One element: it ends the run when it is not joined to the last one. -/
def step (state : List (List α) × List α) (a : α) : List (List α) × List α :=
  match state.2.getLast? with
  | none => (state.1, [a])
  | some b => if joined b a then (state.1, state.2 ++ [a]) else (state.1 ++ [state.2], [a])

/-- The runs, the last one included. -/
def close (state : List (List α) × List α) : List (List α) :=
  if state.2 = [] then state.1 else state.1 ++ [state.2]

def runs (l : List α) : List (List α) := close (l.foldl (step joined) ([], []))

/-- A piece between two cuts. -/
structure Maximal (front run back : List α) : Prop where
  nonempty : run ≠ []
  chain : run.IsChain fun a b => joined a b = true
  front : ∀ a ∈ front.getLast?, ∀ b ∈ run.head?, joined a b = false
  back : ∀ a ∈ run.getLast?, ∀ b ∈ back.head?, joined a b = false

end

variable {joined : α → α → Bool}

/-- The finished runs and the one being extended, with what is still to come. -/
theorem foldl_step (done : List (List α)) (run l : List α) (hrun : run ≠ [])
    (hchain : run.IsChain fun a b => joined a b = true) :
    close (l.foldl (step joined) (done, run)) = done ++ (run ++ l).splitBy joined := by
  induction l generalizing done run with
  | nil =>
    rw [List.append_nil, List.splitBy_of_isChain hrun hchain, List.foldl_nil, close]
    exact if_neg hrun
  | cons a l ih =>
    have hlast : run.getLast? = some (run.getLast hrun) := List.getLast?_eq_some_getLast hrun
    have hstep : step joined (done, run) a = if joined (run.getLast hrun) a
        then (done, run ++ [a]) else (done ++ [run], [a]) := by
      simp only [step, hlast]
    rw [List.foldl_cons, hstep]
    by_cases h : joined (run.getLast hrun) a = true
    · have hchain' : (run ++ [a]).IsChain fun a b => joined a b = true := by
        refine List.isChain_append.mpr ⟨hchain, List.isChain_singleton _, fun x hx y hy => ?_⟩
        rw [hlast, Option.mem_some_iff] at hx
        rw [List.head?_cons, Option.mem_some_iff] at hy
        rwa [← hx, ← hy]
      rw [if_pos h, ih _ _ (by simp) hchain', List.append_assoc]
      rfl
    · have hcut : ∀ x ∈ run.getLast?, joined x a = false := by
        intro x hx
        rw [hlast, Option.mem_some_iff] at hx
        rw [← hx]
        exact Bool.eq_false_iff.mpr h
      rw [if_neg h, ih _ _ (by simp) (List.isChain_singleton _), List.splitBy_append_cons l hcut,
        List.splitBy_of_isChain hrun hchain, List.append_assoc]
      rfl

theorem runs_eq_splitBy (l : List α) : runs joined l = l.splitBy joined := by
  cases l with
  | nil => rfl
  | cons a l => exact foldl_step [] [a] l (by simp) (List.isChain_singleton _)

theorem flatten_runs (l : List α) : (runs joined l).flatten = l := by
  rw [runs_eq_splitBy, List.flatten_splitBy]

/-- The loop returns the maximal runs. -/
theorem mem_runs_iff {l run : List α} :
    run ∈ runs joined l ↔ ∃ front back, l = front ++ run ++ back ∧ Maximal joined front run back := by
  rw [runs_eq_splitBy]
  constructor
  · intro h
    obtain ⟨done, rest, hsplit⟩ := List.append_of_mem h
    obtain ⟨hl, hnil, -, hcuts⟩ := List.splitBy_eq_iff.mp hsplit
    rw [List.mem_append, List.mem_cons, not_or, not_or] at hnil
    obtain ⟨-, hright, hleft⟩ := List.isChain_append.mp hcuts
    refine ⟨done.flatten, rest.flatten, by simpa using hl, ?_⟩
    constructor
    case nonempty => exact List.ne_nil_of_mem_splitBy h
    case chain => exact List.isChain_of_mem_splitBy h
    case front =>
      intro a ha b hb
      have hdone : done ≠ [] := by
        rintro rfl
        simp at ha
      obtain ⟨hx, hy, hcut⟩ := hleft _ (List.getLast?_eq_some_getLast hdone) run rfl
      have hflat : done.flatten ≠ [] := by
        rw [Ne, List.flatten_eq_nil_iff]
        exact fun hall => hx (hall _ (List.getLast_mem hdone))
      rw [List.getLast?_eq_some_getLast hflat, Option.mem_some_iff,
        ← List.getLast_getLast_eq_getLast_flatten hdone hx] at ha
      rw [List.head?_eq_some_head hy, Option.mem_some_iff] at hb
      rwa [← ha, ← hb]
    case back =>
      intro a ha b hb
      have hrest : rest ≠ [] := by
        rintro rfl
        simp at hb
      obtain ⟨next, rest, rfl⟩ := List.exists_cons_of_ne_nil hrest
      obtain ⟨hx, hy, hcut⟩ := (List.isChain_cons_cons.mp hright).1
      rw [List.getLast?_eq_some_getLast hx, Option.mem_some_iff] at ha
      rw [List.flatten_cons, List.head?_append_of_ne_nil _ hy, List.head?_eq_some_head hy,
        Option.mem_some_iff] at hb
      rwa [← ha, ← hb]
  · rintro ⟨front, back, rfl, h⟩
    have hback : ∀ x ∈ (front ++ run).getLast?, ∀ y ∈ back.head?, joined x y = false := by
      rw [List.getLast?_append_of_ne_nil _ h.nonempty]
      exact h.back
    rw [List.splitBy_append hback, List.splitBy_append h.front,
      List.splitBy_of_isChain h.nonempty h.chain]
    simp

-- ---------------------------------------------------------------------------
-- Runs of intervals
-- ---------------------------------------------------------------------------

section Intervals
variable [LinearOrder κ] {start stop : α → κ}

/-- Intervals are joined when the next one starts no later than the last ends. -/
def touches (start stop : α → κ) (a b : α) : Bool := decide (start b ≤ stop a)

/-- Intervals in the order of their starts, which is also that of their ends. -/
structure Intervals (start stop : α → κ) (l : List α) : Prop where
  starts : Sorted.Strict start l
  stops : Sorted.Strict stop l
  proper : ∀ a ∈ l, start a < stop a

variable {front run back : List α}

theorem Intervals.append_left {l l' : List α} (h : Intervals start stop (l ++ l')) :
    Intervals start stop l :=
  ⟨h.starts.sublist (List.sublist_append_left ..), h.stops.sublist (List.sublist_append_left ..),
    fun a ha => h.proper a (List.mem_append_left _ ha)⟩

theorem Intervals.append_right {l l' : List α} (h : Intervals start stop (l ++ l')) :
    Intervals start stop l' :=
  ⟨h.starts.sublist (List.sublist_append_right ..), h.stops.sublist (List.sublist_append_right ..),
    fun a ha => h.proper a (List.mem_append_right _ ha)⟩

/-- The first element starts first. -/
theorem Strict.head_le {key : α → κ} {l : List α} (h : Sorted.Strict key l) (hne : l ≠ [])
    (ha : a ∈ l) : key (l.head hne) ≤ key a := by
  cases l with
  | nil => contradiction
  | cons b l =>
    rcases List.mem_cons.mp ha with rfl | ha
    · exact le_refl _
    · exact le_of_lt (List.rel_of_pairwise_cons h ha)

theorem Strict.le_getLast {key : α → κ} {l : List α} (h : Sorted.Strict key l) (hne : l ≠ [])
    (ha : a ∈ l) : key a ≤ key (l.getLast hne) := by
  induction l using List.reverseRecOn with
  | nil => contradiction
  | append_singleton l b =>
    rw [List.getLast_append_singleton]
    rcases List.mem_append.mp ha with ha | ha
    · exact le_of_lt ((List.pairwise_append.mp h).2.2 a ha b (List.mem_singleton_self b))
    · rw [List.mem_singleton.mp ha]

/-- What comes earlier ends before the run starts. -/
theorem Maximal.front_lt (h : Maximal (touches start stop) front run back)
    (hl : Intervals start stop (front ++ run ++ back)) (ha : a ∈ front) :
    stop a < start (run.head h.nonempty) := by
  have hne : front ≠ [] := List.ne_nil_of_mem ha
  have hcut := h.front _ (List.getLast?_eq_some_getLast hne) _ (List.head?_eq_some_head h.nonempty)
  rw [touches, decide_eq_false_iff_not, not_le] at hcut
  exact lt_of_le_of_lt (Strict.le_getLast hl.append_left.append_left.stops hne ha) hcut

/-- What comes later starts after the run has ended. -/
theorem Maximal.lt_back (h : Maximal (touches start stop) front run back)
    (hl : Intervals start stop (front ++ run ++ back)) (ha : a ∈ back) :
    stop (run.getLast h.nonempty) < start a := by
  have hne : back ≠ [] := List.ne_nil_of_mem ha
  have hcut := h.back _ (List.getLast?_eq_some_getLast h.nonempty) _ (List.head?_eq_some_head hne)
  rw [touches, decide_eq_false_iff_not, not_le] at hcut
  exact lt_of_lt_of_le hcut (Strict.head_le hl.append_right.starts hne ha)

/-- An interval that touches the run belongs to it. -/
theorem Maximal.mem_of_touches (h : Maximal (touches start stop) front run back)
    (hl : Intervals start stop (front ++ run ++ back)) (ha : a ∈ front ++ run ++ back)
    (hstart : start a ≤ stop (run.getLast h.nonempty))
    (hstop : start (run.head h.nonempty) ≤ stop a) : a ∈ run := by
  rcases List.mem_append.mp ha with ha | ha
  · rcases List.mem_append.mp ha with ha | ha
    · exact absurd (h.front_lt hl ha) (not_lt.mpr hstop)
    · exact ha
  · exact absurd (h.lt_back hl ha) (not_lt.mpr hstart)

theorem Maximal.intervals (h : Maximal (touches start stop) front run back)
    (hl : Intervals start stop (front ++ run ++ back)) (ha : a ∈ run) :
    start (run.head h.nonempty) ≤ start a ∧ stop a ≤ stop (run.getLast h.nonempty) :=
  ⟨Strict.head_le hl.append_left.append_right.starts h.nonempty ha,
    Strict.le_getLast hl.append_left.append_right.stops h.nonempty ha⟩

/-- The elements of a run are those that start between its ends. -/
theorem Maximal.mem_iff (h : Maximal (touches start stop) front run back)
    (hl : Intervals start stop (front ++ run ++ back)) (ha : a ∈ front ++ run ++ back) :
    a ∈ run ↔ start (run.head h.nonempty) ≤ start a ∧
      start a < stop (run.getLast h.nonempty) := by
  constructor
  · intro hmem
    obtain ⟨hstart, hstop⟩ := h.intervals hl hmem
    exact ⟨hstart, lt_of_lt_of_le (hl.proper a ha) hstop⟩
  · rintro ⟨hstart, hstop⟩
    exact h.mem_of_touches hl ha (le_of_lt hstop) (le_of_lt (lt_of_le_of_lt hstart (hl.proper a ha)))

/-- What starts later than a run starts after it has ended. -/
theorem Maximal.stop_lt (h : Maximal (touches start stop) front run back)
    (hl : Intervals start stop (front ++ run ++ back)) (hb : b ∈ front ++ run ++ back)
    (hlt : start (run.getLast h.nonempty) < start b) : stop (run.getLast h.nonempty) < start b := by
  have hstarts := hl.append_left.append_right.starts
  by_contra hle
  rw [not_lt] at hle
  have hhead := Strict.head_le hstarts h.nonempty (List.getLast_mem h.nonempty)
  have hmem := h.mem_of_touches hl hb hle
    (le_of_lt (lt_of_le_of_lt hhead (lt_trans hlt (hl.proper b hb))))
  exact absurd (Strict.le_getLast hstarts h.nonempty hmem) (not_le.mpr hlt)

/-- A run has ended before the later ones start. -/
theorem runs_pairwise {l : List α} (hl : Intervals start stop l) :
    (runs (touches start stop) l).Pairwise fun r r' =>
      ∀ a ∈ r.getLast?, ∀ b ∈ r', stop a < start b := by
  have hflatten : (runs (touches start stop) l).flatten = l := flatten_runs l
  have hstarts := hl.starts
  rw [Sorted.Strict, ← hflatten, List.pairwise_flatten] at hstarts
  refine hstarts.2.imp_of_mem fun {r r'} hr hr' hlt a ha b hb => ?_
  obtain ⟨front, back, hsplit, hmax⟩ := mem_runs_iff.mp hr
  have hmem : b ∈ l := by
    rw [← hflatten]
    exact List.mem_flatten_of_mem hr' hb
  rw [List.getLast?_eq_some_getLast hmax.nonempty, Option.mem_some_iff] at ha
  subst ha
  subst hsplit
  exact hmax.stop_lt hl hmem (hlt _ (List.getLast_mem _) b hb)

end Intervals

end Paic.Runs
