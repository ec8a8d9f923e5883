import Paic.Lib.Sorted
import Mathlib

/-!
# Estimators of the impact layer

Nearest-neighbour matching of scores, inverse-probability weights and the
Kaplan-Meier curve. Arrays of one length are functions of an index.
-/

namespace Paic.Impact

open Sorted (byKey)

-- ---------------------------------------------------------------------------
-- Matching
-- ---------------------------------------------------------------------------

/-- `np.log(scores / (1.0 - scores))`, of one score, and `np.std`. -/
class LogitMath (K : Type) where
  logit : K → K
  std : List K → K

section
variable {K : Type} [Field K] [LinearOrder K] [LogitMath K] {n : Nat}

/-- `float(np.std(logit)) or 1.0` -/
def logitScale (scores : Fin n → K) : K :=
  let std := LogitMath.std (List.ofFn fun index => LogitMath.logit (scores index))
  if std = 0 then 1 else std

/-- The difference of two logits. -/
def logitDistance (scores : Fin n → K) (index item : Fin n) : K :=
  |LogitMath.logit (scores index) - LogitMath.logit (scores item)|

/-- The unused control nearest to an index, of the first of those as near. -/
def candidate (scores : Fin n → K) (index : Fin n) (unused : List (Fin n)) : Option (Fin n) :=
  unused.argmin fun item => toLex (logitDistance scores index item, item)

/-- The loop of `nearest_neighbor_matches` over the treated in order. -/
def matchLoop (scores : Fin n → K) (maximumDistance : K) :
    List (Fin n) → List (Fin n) → List (Fin n × Fin n) → List (Fin n × Fin n)
  | [], _, found => found
  | index :: rest, unused, found =>
    match candidate scores index unused with
    -- nothing is unused: the loop breaks
    | none => found
    | some item =>
      if logitDistance scores index item ≤ maximumDistance then
        matchLoop scores maximumDistance rest (unused.erase item) (found ++ [(index, item)])
      else matchLoop scores maximumDistance rest unused found

def treatedOf (exposed : Fin n → Bool) : List (Fin n) :=
  (List.finRange n).filter fun index => exposed index

def controlsOf (exposed : Fin n → Bool) : List (Fin n) :=
  (List.finRange n).filter fun index => !exposed index

/-- `nearest_neighbor_matches`: the items of the dict, as they came in. -/
def nearestNeighborMatches (scores : Fin n → K) (exposed : Fin n → Bool) (caliper : K) :
    List (Fin n × Fin n) :=
  let treated := treatedOf exposed
  let controls := controlsOf exposed
  if treated = [] ∨ controls = [] then [] else
  let maximumDistance := caliper * logitScale scores
  let order := byKey (fun item => toLex (scores item, item)) treated
  matchLoop scores maximumDistance order controls []

/-- `stabilized_iptw`, of one index. -/
def stabilizedIptw (scores : Fin n → K) (exposed : Fin n → Bool) (clip : K) (index : Fin n) : K :=
  let prevalence := ((treatedOf exposed).length : K) / (n : K)
  let bounded := min (max (scores index) clip) (1 - clip)
  if exposed index then prevalence / bounded else (1 - prevalence) / (1 - bounded)

end

-- ---------------------------------------------------------------------------
-- Survival
-- ---------------------------------------------------------------------------

/-- `math.sqrt` and `norm.ppf` -/
class IntervalMath where
  sqrt : Rat → Rat
  ppf : Rat → Rat

structure SurvivalPoint where
  timeDays : Rat
  atRisk : Nat
  events : Nat
  censored : Nat
  survivalProbability : Rat
  lowerCi : Rat
  upperCi : Rat
  deriving DecidableEq, Repr

/-- How long a member was followed, and whether the event was observed then. -/
structure Followed where
  duration : Rat
  event : Bool
  deriving DecidableEq, Repr

def atRiskAt (members : List Followed) (time : Rat) : Nat :=
  members.countP fun m => time ≤ m.duration

def observedAt (members : List Followed) (time : Rat) : Nat :=
  members.countP fun m => m.duration = time ∧ m.event = true

def censoredAt (members : List Followed) (time : Rat) : Nat :=
  members.countP fun m => m.duration = time ∧ m.event = false

/-- `np.unique` -/
def unique (values : List Rat) : List Rat := byKey id values.dedup

section
variable [IntervalMath]

/-- The loop of `kaplan_meier` over the times. -/
def survivalRows (z : Rat) (members : List Followed) (survival greenwood : Rat) :
    List Rat → List SurvivalPoint
  | [] => []
  | time :: rest =>
    let atRisk := atRiskAt members time
    let observed := observedAt members time
    let falls := observed ≠ 0 ∧ atRisk ≠ 0
    let survival := if falls then survival * (1 - (observed : Rat) / atRisk) else survival
    let greenwood :=
      if falls ∧ observed < atRisk then
        greenwood + (observed : Rat) / (atRisk * ((atRisk : Rat) - observed))
      else greenwood
    let standardError := survival * IntervalMath.sqrt (max greenwood 0)
    { timeDays := time
      atRisk := atRisk
      events := observed
      censored := censoredAt members time
      survivalProbability := survival
      lowerCi := max 0 (survival - z * standardError)
      upperCi := min 1 (survival + z * standardError) } ::
      survivalRows z members survival greenwood rest

/-- `kaplan_meier` -/
def kaplanMeier (members : List Followed) (confidence : Rat) : List SurvivalPoint :=
  if members = [] then [] else
  let z := IntervalMath.ppf (1 / 2 + confidence / 2)
  survivalRows z members 1 0 (unique (members.map Followed.duration))

end

end Paic.Impact
