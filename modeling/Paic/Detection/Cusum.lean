import Paic.Detection.Adjustment
import Paic.Detection.Engine
import Paic.Lib.SuffixSum
import Mathlib

/-!
# What the CUSUM counts

On exact numbers the two sides are the greatest sums of a suffix of the calls,
a change is detected where the score first reaches the threshold, and its
estimated start is the call after which the larger side was never zero again.
-/

namespace Paic.Detection

open SuffixSum (side mark Since)

/-- The arguments of one call of `_update_cusum`. -/
structure CusumCall where
  zScore : Rat
  period : Instant
  deriving DecidableEq, Repr

/-- What a call adds to the positive side, and to the negative one. -/
def CusumCall.rise (drift : Rat) (call : CusumCall) : Rat := call.zScore - drift
def CusumCall.fall (drift : Rat) (call : CusumCall) : Rat := -call.zScore - drift

section
variable [DetectionMath]

def cusumCall (config : CusumConfig) (state : CusumState) (call : CusumCall) : CusumUpdate :=
  updateCusum state call.zScore call.period config

/-- The state that a series of calls leads to. -/
def cusumFrom (config : CusumConfig) (state : CusumState) (calls : List CusumCall) : CusumState :=
  calls.foldl (fun s call => (cusumCall config s call).state) state

/-- `CusumState()` and the calls after it. -/
def cusumAfter (config : CusumConfig) (calls : List CusumCall) : CusumState :=
  cusumFrom config SeriesState.start.cusum calls

/-- What a call after other calls returns. -/
structure CusumMeaning (config : CusumConfig) (calls : List CusumCall) (call : CusumCall)
    (update : CusumUpdate) : Prop where
  positive : IsGreatest {s | ∃ suffix, suffix <:+ calls ++ [call] ∧
    (suffix.map (CusumCall.rise config.drift)).sum = s} update.state.positive
  negative : IsGreatest {s | ∃ suffix, suffix <:+ calls ++ [call] ∧
    (suffix.map (CusumCall.fall config.drift)).sum = s} update.state.negative
  score : update.score = max update.state.positive update.state.negative
  detected : update.detected = true ↔ config.threshold ≤ update.score ∧
    ∀ earlier previous, calls = earlier ++ [previous] →
      (cusumCall config (cusumAfter config earlier) previous).score < config.threshold
  positiveStart : config.threshold ≤ update.score →
    update.state.negative ≤ update.state.positive →
      ∃ front first back, Since (CusumCall.rise config.drift) (calls ++ [call]) front first back ∧
        update.estimated = some first.period ∧
        update.state.positive = ((first :: back).map (CusumCall.rise config.drift)).sum
  negativeStart : config.threshold ≤ update.score →
    update.state.positive < update.state.negative →
      ∃ front first back, Since (CusumCall.fall config.drift) (calls ++ [call]) front first back ∧
        update.estimated = some first.period ∧
        update.state.negative = ((first :: back).map (CusumCall.fall config.drift)).sum
  below : update.score < config.threshold → update.estimated = none

-- ---------------------------------------------------------------------------
-- The state after some calls
-- ---------------------------------------------------------------------------

variable {config : CusumConfig} {calls : List CusumCall} {call : CusumCall}

theorem cusumAfter_concat :
    cusumAfter config (calls ++ [call]) = (cusumCall config (cusumAfter config calls) call).state :=
  List.foldl_concat ..

theorem cusumFrom_append (config : CusumConfig) (state : CusumState) (calls calls' : List CusumCall) :
    cusumFrom config state (calls ++ calls') =
      cusumFrom config (cusumFrom config state calls) calls' :=
  List.foldl_append ..

/-- The two sides, each with the call it last started at. -/
theorem cusumAfter_sides (hexact : Exact) (config : CusumConfig) (calls : List CusumCall) :
    let positive := calls.foldl (mark (CusumCall.rise config.drift)) (0, none)
    let negative := calls.foldl (mark (CusumCall.fall config.drift)) (0, none)
    (cusumAfter config calls).positive = positive.1 ∧
      (cusumAfter config calls).negative = negative.1 ∧
      (cusumAfter config calls).positiveStart = positive.2.map CusumCall.period ∧
      (cusumAfter config calls).negativeStart = negative.2.map CusumCall.period := by
  induction calls using List.reverseRecOn with
  | nil => exact ⟨rfl, rfl, rfl, rfl⟩
  | append_singleton calls call ih =>
    obtain ⟨hpositive, hnegative, hpositiveStart, hnegativeStart⟩ := ih
    have hrise : ∀ x : Rat, x + call.zScore - config.drift = x + call.rise config.drift := by
      intro x
      rw [CusumCall.rise]
      abel
    have hfall : ∀ x : Rat, x - call.zScore - config.drift = x + call.fall config.drift := by
      intro x
      rw [CusumCall.fall]
      abel
    rw [cusumAfter_concat]
    simp only [List.foldl_concat, cusumCall, updateCusum, mark, hexact.add, hexact.sub, hrise,
      hfall, hpositive, hnegative, hpositiveStart, hnegativeStart, true_and]
    constructor
    · split <;> rfl
    · split <;> rfl

theorem cusumAfter_positive (hexact : Exact) :
    (cusumAfter config calls).positive = side (calls.map (CusumCall.rise config.drift)) := by
  rw [(cusumAfter_sides hexact config calls).1, SuffixSum.foldl_mark_fst]

theorem cusumAfter_negative (hexact : Exact) :
    (cusumAfter config calls).negative = side (calls.map (CusumCall.fall config.drift)) := by
  rw [(cusumAfter_sides hexact config calls).2.1, SuffixSum.foldl_mark_fst]

theorem cusumCall_score (config : CusumConfig) (state : CusumState) (call : CusumCall) :
    (cusumCall config state call).score = max (cusumCall config state call).state.positive
      (cusumCall config state call).state.negative := rfl

theorem cusumCall_above (config : CusumConfig) (state : CusumState) (call : CusumCall) :
    (cusumCall config state call).state.previouslyAboveThreshold =
      decide (config.threshold ≤ (cusumCall config state call).score) := by
  simp only [cusumCall, updateCusum]
  exact decide_eq_decide.mpr Iff.rfl

/-- The flag is raised where the score reaches the threshold and was below it. -/
theorem cusumCall_detected (config : CusumConfig) (state : CusumState) (call : CusumCall) :
    (cusumCall config state call).detected = true ↔
      config.threshold ≤ (cusumCall config state call).score ∧
        state.previouslyAboveThreshold = false := by
  simp only [cusumCall, updateCusum, Bool.and_eq_true, decide_eq_true_eq, Bool.not_eq_true']

theorem cusumCall_estimated (config : CusumConfig) (state : CusumState) (call : CusumCall) :
    (cusumCall config state call).estimated =
      if config.threshold ≤ (cusumCall config state call).score then
        if (cusumCall config state call).state.negative ≤
            (cusumCall config state call).state.positive
          then (cusumCall config state call).state.positiveStart
          else (cusumCall config state call).state.negativeStart
      else none := by
  simp only [cusumCall, updateCusum, decide_eq_true_eq]

theorem cusumAfter_above (config : CusumConfig) (calls : List CusumCall) :
    (cusumAfter config calls).previouslyAboveThreshold = false ↔
      ∀ earlier previous, calls = earlier ++ [previous] →
        (cusumCall config (cusumAfter config earlier) previous).score < config.threshold := by
  rcases List.eq_nil_or_concat calls with rfl | ⟨earlier, previous, rfl⟩
  · simp [cusumAfter, cusumFrom, SeriesState.start]
  · rw [List.concat_eq_append, cusumAfter_concat, cusumCall_above, decide_eq_false_iff_not, not_le]
    constructor
    · intro h earlier' previous' heq
      obtain ⟨rfl, hlast⟩ := List.append_inj' heq rfl
      obtain rfl := List.head_eq_of_cons_eq hlast
      exact h
    · exact fun h => h earlier previous rfl

omit [DetectionMath] in
/-- The greatest sum over the suffixes of the calls. -/
theorem isGreatest_side (f : CusumCall → Rat) (calls : List CusumCall) :
    IsGreatest {s | ∃ suffix, suffix <:+ calls ∧ (suffix.map f).sum = s} (side (calls.map f)) := by
  have hset : {s | ∃ suffix, suffix <:+ calls ∧ (suffix.map f).sum = s} =
      {s | ∃ ys, ys <:+ calls.map f ∧ ys.sum = s} := by
    ext s
    constructor
    · rintro ⟨suffix, hsuffix, hsum⟩
      exact ⟨_, hsuffix.map f, hsum⟩
    · rintro ⟨ys, hys, hsum⟩
      obtain ⟨suffix, hsuffix, rfl⟩ := List.suffix_map_iff.mp hys
      exact ⟨suffix, hsuffix, hsum⟩
  rw [hset]
  exact SuffixSum.side_isGreatest _

/-- `_update_cusum` after any calls. -/
theorem cusum_meaning (hexact : Exact) (hthreshold : 0 < config.threshold) :
    CusumMeaning config calls call (cusumCall config (cusumAfter config calls) call) := by
  have hstate : cusumAfter config (calls ++ [call]) =
      (cusumCall config (cusumAfter config calls) call).state := cusumAfter_concat
  have hpositive : (cusumAfter config (calls ++ [call])).positive =
      side ((calls ++ [call]).map (CusumCall.rise config.drift)) := cusumAfter_positive hexact
  have hnegative : (cusumAfter config (calls ++ [call])).negative =
      side ((calls ++ [call]).map (CusumCall.fall config.drift)) := cusumAfter_negative hexact
  obtain ⟨-, -, hpositiveStart, hnegativeStart⟩ :=
    cusumAfter_sides hexact config (calls ++ [call])
  rw [hstate] at hpositive hnegative hpositiveStart hnegativeStart
  have hscore := cusumCall_score config (cusumAfter config calls) call
  have hestimated := cusumCall_estimated config (cusumAfter config calls) call
  constructor
  case positive =>
    rw [hpositive]
    exact isGreatest_side _ _
  case negative =>
    rw [hnegative]
    exact isGreatest_side _ _
  case score => exact hscore
  case detected => rw [cusumCall_detected, cusumAfter_above]
  case positiveStart =>
    intro habove hle
    rw [if_pos habove, if_pos hle] at hestimated
    rw [hscore, max_eq_left hle] at habove
    -- a side that reaches the threshold is positive
    have hpos := lt_of_lt_of_le hthreshold habove
    rw [hpositive] at hpos
    obtain ⟨front, first, back, hsince, hmark⟩ := SuffixSum.foldl_mark (calls ++ [call]) none hpos
    refine ⟨front, first, back, hsince, ?_, ?_⟩
    · rw [hestimated, hpositiveStart, hmark]
      rfl
    · rw [hpositive, hsince.sum]
  case negativeStart =>
    intro habove hlt
    rw [if_pos habove, if_neg (not_le.mpr hlt)] at hestimated
    rw [hscore, max_eq_right (le_of_lt hlt)] at habove
    have hpos := lt_of_lt_of_le hthreshold habove
    rw [hnegative] at hpos
    obtain ⟨front, first, back, hsince, hmark⟩ := SuffixSum.foldl_mark (calls ++ [call]) none hpos
    refine ⟨front, first, back, hsince, ?_, ?_⟩
    · rw [hestimated, hnegativeStart, hmark]
      rfl
    · rw [hnegative, hsince.sum]
  case below =>
    intro hbelow
    rw [hestimated, if_neg (not_le.mpr hbelow)]

-- ---------------------------------------------------------------------------
-- The calls of a series
-- ---------------------------------------------------------------------------

/-- The call that is made for a row with a p-value; the detectors are run on no
other row. -/
def callOf (s : Scored) : Option CusumCall :=
  if s.row.pValue.isSome then s.row.robustZ.map fun z => ⟨z, s.row.periodStart⟩ else none

variable [Hashing] [PeriodText]

theorem scoreRow_cusum {config : DetectionConfig} {setup : SeriesSetup} {s : Scored}
    (henabled : config.cusum.enabled = true)
    (h : scoreRow config setup state source = .ok (state', s)) :
    state'.cusum = cusumFrom config.cusum state.cusum (callOf s).toList ∧
      ∀ call ∈ callOf s, s.row.cusumScore = (cusumCall config.cusum state.cusum call).score ∧
        s.row.changeDetected = (cusumCall config.cusum state.cusum call).detected ∧
        s.row.estimatedChangeStart = (cusumCall config.cusum state.cusum call).estimated := by
  simp only [scoreRow, Checks.bind_eq_ok, Checks.pure_eq_ok, Prod.mk.injEq] at h
  obtain ⟨deviation, -, detected, hdetected, rfl, rfl⟩ := h
  unfold rowDetected at hdetected
  split at hdetected
  · simp only [detectedOf, henabled, if_true, Checks.bind_eq_ok, Checks.pure_eq_ok] at hdetected
    obtain ⟨predictive, -, rfl⟩ := hdetected
    exact ⟨rfl, by rintro _ ⟨⟩; exact ⟨rfl, rfl, rfl⟩⟩
  · rw [Checks.pure_eq_ok] at hdetected
    subst hdetected
    exact ⟨rfl, nofun⟩

/-- The CUSUM columns of a series are what the calls for its rows return. -/
theorem scoreRows_cusum {config : DetectionConfig} {setup : SeriesSetup} {output : List Scored}
    (henabled : config.cusum.enabled = true)
    (h : scoreRows config setup state rows = .ok output) :
    ∀ earlier s later, output = earlier ++ s :: later → ∀ call ∈ callOf s,
      let update := cusumCall config.cusum
        (cusumFrom config.cusum state.cusum (earlier.filterMap callOf)) call
      s.row.cusumScore = update.score ∧ s.row.changeDetected = update.detected ∧
        s.row.estimatedChangeStart = update.estimated := by
  induction rows generalizing state output with
  | nil =>
    obtain rfl : [] = output := Checks.pure_eq_ok.mp h
    simp
  | cons source rest ih =>
    simp only [scoreRows, Checks.bind_eq_ok, Checks.pure_eq_ok] at h
    obtain ⟨⟨state', first⟩, hfirst, output, houtput, rfl⟩ := h
    obtain ⟨hstate, hcolumns⟩ := scoreRow_cusum henabled hfirst
    intro earlier s later hsplit call hcall
    cases earlier with
    | nil =>
      obtain ⟨rfl, -⟩ := List.cons.inj hsplit
      exact hcolumns call hcall
    | cons before earlier =>
      rw [List.cons_append, List.cons.injEq] at hsplit
      obtain ⟨rfl, hsplit⟩ := hsplit
      have htail := ih houtput earlier s later hsplit call hcall
      rw [hstate, ← cusumFrom_append] at htail
      have hcalls : (first :: earlier).filterMap callOf =
          (callOf first).toList ++ earlier.filterMap callOf := by
        cases hcall : callOf first with
        | none => rw [List.filterMap_cons_none hcall]; rfl
        | some call => rw [List.filterMap_cons_some hcall]; rfl
      rw [hcalls]
      exact htail

end

/-- Three rises after a fall, with the positive side last at zero before them. -/
theorem cusum_meaning_sample :
    @CusumMeaning exactMath ⟨true, 1 / 2, 2⟩ [⟨-3, 0⟩, ⟨2, 1⟩, ⟨3 / 2, 2⟩] ⟨1, 3⟩
      (@cusumCall exactMath ⟨true, 1 / 2, 2⟩
        (@cusumAfter exactMath ⟨true, 1 / 2, 2⟩ [⟨-3, 0⟩, ⟨2, 1⟩, ⟨3 / 2, 2⟩]) ⟨1, 3⟩) :=
  @cusum_meaning exactMath ⟨true, 1 / 2, 2⟩ [⟨-3, 0⟩, ⟨2, 1⟩, ⟨3 / 2, 2⟩] ⟨1, 3⟩ exactMath_exact
    (by decide +kernel)

end Paic.Detection
