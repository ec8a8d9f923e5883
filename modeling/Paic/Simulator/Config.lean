import Paic.Detection.Models
import Paic.Lib.Numerals
import Paic.Lib.Rounding
import Paic.Lib.Weighted

/-!
# Configuration and random draws of the simulator

Instants are microseconds of UTC and numbers are exact. The outcomes of random
draws are arguments: whatever comes out, within the range of its distribution.
The parameters of a distribution only say how likely an outcome is and are left
out; weights and probabilities that can make one impossible are not. A draw
against a probability that `clipped_probabilities` keeps inside (0, 1) may go
either way.
-/

namespace Paic.Simulator

open Detection (Instant)
open Rounding (rint)

-- ---------------------------------------------------------------------------
-- Time
-- ---------------------------------------------------------------------------

abbrev millisecond : Int := 1000
abbrev second : Int := 1000000
abbrev minute : Int := 60 * second
abbrev hour : Int := 60 * minute
abbrev day : Int := 24 * hour

/-- A `timedelta` of a floating-point number of units. -/
def timedelta (n : Rat) (unit : Int) : Int := rint (n * unit)

/-- `value.date()`, as the number of the day. -/
def date (t : Instant) : Int := t / day

-- ---------------------------------------------------------------------------
-- Draws
-- ---------------------------------------------------------------------------

/-- A number of the unit interval, both ends included. -/
structure Fraction where
  value : Rat
  nonneg : 0 ≤ value
  le_one : value ≤ 1

/-- `rng.uniform(low, high)`, which may round to `high`. -/
def uniform (f : Fraction) (low high : Rat) : Rat := low + (high - low) * f.value

/-- `rng.integers(low, high)`: any number is an outcome, counted round. -/
def integers (draw low high : Nat) : Nat := low + draw % (high - low)

/-- `rng.choice(options)` -/
def choice (draw : Nat) (options : List α) (h : options ≠ []) : α :=
  options.get ⟨draw % options.length, Nat.mod_lt _ (List.length_pos_of_ne_nil h)⟩

/-- `np.clip` -/
def clip (x low high : Rat) : Rat := min (max x low) high

/-- `rng.shuffle`: from the back, each element is swapped with one up to it. -/
def shuffle (draw : Nat → Nat) (xs : List α) : List α :=
  (List.range xs.length).reverse.foldl (fun xs i => xs.swap i (draw i % (i + 1))) xs

/-- `round(x, 2)` and `rounded_money` -/
def rounded (x : Rat) : Rat := rint (x * 100) / 100

/-- `stable_ids(prefix, …)[index]` -/
def stableId (label : String) (width index : Nat) : String :=
  label ++ "-" ++ Numerals.padded width (index + 1)

-- ---------------------------------------------------------------------------
-- Configuration
-- ---------------------------------------------------------------------------

structure WeightedValue where
  value : String
  weight : Rat
  weight_pos : 0 < weight

structure RegionConfig where
  code : String
  weight : Rat
  currency : String
  taxRate : Rat
  deliveryDays : Nat
  weight_pos : 0 < weight
  taxRate_nonneg : 0 ≤ taxRate
  taxRate_le : taxRate ≤ 1 / 2
  deliveryDays_ge : 1 ≤ deliveryDays
  deliveryDays_le : deliveryDays ≤ 14

structure ScaleConfig where
  customers : Nat
  sellers : Nat
  products : Nat
  warehouses : Nat
  promotions : Nat
  customers_ge : 100 ≤ customers
  sellers_ge : 5 ≤ sellers
  products_ge : 50 ≤ products
  warehouses_ge : 2 ≤ warehouses
  sellers_le_products : sellers ≤ products
  sellers_le_customers : sellers ≤ customers

/-- The rates are between zero and one, which no draw depends on. -/
structure BehaviorConfig where
  addressAttemptRate : Rat
  paymentAttemptRate : Rat
  baseReturnRate : Rat
  baseLateDeliveryRate : Rat
  refundCompletionRate : Rat
  promotionSessionShare : Rat
  returningCustomerShare : Rat
  preferredDeviceAdherence : Rat
  preferredPaymentAdherence : Rat

structure SimulationConfig where
  startAt : Instant
  durationDays : Nat
  scale : ScaleConfig
  behavior : BehaviorConfig
  regions : List RegionConfig
  devices : List WeightedValue
  channels : List WeightedValue
  paymentMethods : List WeightedValue
  issuers : List WeightedValue
  categories : List WeightedValue
  carriers : List WeightedValue
  services : List String
  pipelines : List String
  startAt_hour : startAt % hour = 0
  durationDays_ge : 1 ≤ durationDays
  durationDays_le : durationDays ≤ 365
  regions_ge : 2 ≤ regions.length
  devices_ge : 2 ≤ devices.length
  channels_ge : 2 ≤ channels.length
  paymentMethods_ge : 2 ≤ paymentMethods.length
  issuers_ge : 2 ≤ issuers.length
  categories_ge : 3 ≤ categories.length
  carriers_ge : 2 ≤ carriers.length
  services_ge : 3 ≤ services.length
  pipelines_ge : 2 ≤ pipelines.length
  regions_nodup : (regions.map RegionConfig.code).Nodup
  services_nodup : services.Nodup
  pipelines_nodup : pipelines.Nodup
  warehouses_ge_regions : regions.length ≤ scale.warehouses

theorem ne_nil_of_length_ge {l : List α} (h : n ≤ l.length) (hn : 0 < n) : l ≠ [] :=
  List.ne_nil_of_length_pos (hn.trans_le h)

/-- `values_and_probabilities` -/
def valuesAndProbabilities (options : List WeightedValue) (h : options ≠ []) : Weighted String where
  options := options.map fun item => (item.value, item.weight)
  nonempty := by simpa using h
  positive option ho := by
    obtain ⟨item, -, rfl⟩ := List.mem_map.mp ho
    exact item.weight_pos

namespace SimulationConfig
variable (config : SimulationConfig)

/-- `end_at` -/
def endAt : Instant := config.startAt + config.durationDays * day

def regionChoice : Weighted String where
  options := config.regions.map fun item => (item.code, item.weight)
  nonempty := by
    simpa using ne_nil_of_length_ge config.regions_ge (by decide)
  positive option ho := by
    obtain ⟨item, -, rfl⟩ := List.mem_map.mp ho
    exact item.weight_pos

def deviceChoice : Weighted String :=
  valuesAndProbabilities config.devices (ne_nil_of_length_ge config.devices_ge (by decide))

def channelChoice : Weighted String :=
  valuesAndProbabilities config.channels (ne_nil_of_length_ge config.channels_ge (by decide))

def paymentMethodChoice : Weighted String :=
  valuesAndProbabilities config.paymentMethods
    (ne_nil_of_length_ge config.paymentMethods_ge (by decide))

def issuerChoice : Weighted String :=
  valuesAndProbabilities config.issuers (ne_nil_of_length_ge config.issuers_ge (by decide))

def categoryChoice : Weighted String :=
  valuesAndProbabilities config.categories (ne_nil_of_length_ge config.categories_ge (by decide))

def carrierChoice : Weighted String :=
  valuesAndProbabilities config.carriers (ne_nil_of_length_ge config.carriers_ge (by decide))

/-- `{item.code: item for item in config.regions}[code]` -/
def region (code : String) : Option RegionConfig := config.regions.find? fun item => item.code = code

end SimulationConfig

-- ---------------------------------------------------------------------------
-- Laws of the draws
-- ---------------------------------------------------------------------------

theorem integers_ge : low ≤ integers draw low high := Nat.le_add_right ..

theorem integers_lt (h : low < high) : integers draw low high < high := by
  have hlt := Nat.mod_lt draw (Nat.sub_pos_of_lt h)
  unfold integers
  omega

theorem uniform_ge (f : Fraction) (h : low ≤ high) : low ≤ uniform f low high :=
  le_add_of_nonneg_right (mul_nonneg (sub_nonneg.mpr h) f.nonneg)

theorem uniform_le (f : Fraction) (h : low ≤ high) : uniform f low high ≤ high := by
  have hle := mul_le_of_le_one_right (sub_nonneg.mpr h) f.le_one
  unfold uniform
  linarith

theorem choice_mem {options : List α} (draw : Nat) (h : options ≠ []) :
    choice draw options h ∈ options :=
  List.get_mem ..

theorem clip_ge (h : low ≤ high) : low ≤ clip x low high := le_min (le_max_right ..) h

theorem clip_le : clip x low high ≤ high := min_le_right ..

theorem shuffle_perm (draw : Nat → Nat) (xs : List α) : (shuffle draw xs).Perm xs := by
  have key : ∀ (l : List Nat) (ys : List α), ys.Perm xs →
      (l.foldl (fun ys i => ys.swap i (draw i % (i + 1))) ys).Perm xs := by
    intro l
    induction l with
    | nil => exact fun _ h => h
    | cons i l ih => exact fun ys h => ih _ ((List.swap_perm ys _ _).trans h)
  exact key _ _ (.refl xs)

theorem stableId_injective (label : String) (width : Nat) (h : stableId label width i = stableId label width j) :
    i = j :=
  Nat.succ_injective (Numerals.append_padded_injective _ width h)

theorem stableId_nodup (label : String) (width n : Nat) :
    ((List.range n).map (stableId label width)).Nodup :=
  List.Nodup.map (fun _ _ => stableId_injective label width) List.nodup_range

end Paic.Simulator
