import Mathlib

/-!
# Configuration and source tables of the impact layer

Instants are microseconds of UTC. Numbers are exact. A cell that a table may
leave empty is an `Option`.
-/

namespace Paic.Impact

inductive Error where
  | typeError (message : String)
  /-- polars has no rows to infer the columns of a table from. -/
  | noDataError (message : String)
  deriving DecidableEq, Repr

abbrev Instant := Int

/-- `timedelta(days=…)` -/
def timedeltaDays (days : Nat) : Int := days * 86400000000

/-- `total_seconds() / 86400.0` -/
def inDays (duration : Int) : Rat := duration / 86400000000

-- ---------------------------------------------------------------------------
-- Configuration
-- ---------------------------------------------------------------------------

inductive Family where
  | checkoutFailure | paymentDecline | lateDelivery | refundDelay
  deriving DecidableEq, Repr

structure IncidentDefinition where
  family : Family
  startedAt : Instant
  endedAt : Instant
  region : Option String
  device : Option String
  minimumInteractions : Nat
  region_nonEmpty : region ≠ some ""
  device_nonEmpty : device ≠ some ""
  minimumInteractions_ge : 1 ≤ minimumInteractions
  window : startedAt < endedAt

structure OutcomeDefinition where
  churnHorizonDays : Nat
  prePeriodDays : Nat
  ltvHorizonDays : Nat
  minimumPreOrders : Nat
  churnHorizonDays_in : 7 ≤ churnHorizonDays ∧ churnHorizonDays ≤ 365
  prePeriodDays_in : 7 ≤ prePeriodDays ∧ prePeriodDays ≤ 365
  ltvHorizonDays_in : 30 ≤ ltvHorizonDays ∧ ltvHorizonDays ≤ 730
  deriving DecidableEq

structure BenchmarkEffect where
  enabled : Bool
  delayDays : Nat
  censorProbability : Rat
  seed : Int
  delayDays_le : delayDays ≤ 180
  censorProbability_in : 0 ≤ censorProbability ∧ censorProbability ≤ 1

structure CausalConfig where
  propensityCaliper : Rat
  propensityClip : Rat
  confidenceLevel : Rat
  propensityCaliper_in : 0 < propensityCaliper ∧ propensityCaliper ≤ 1
  propensityClip_in : 0 < propensityClip ∧ propensityClip < 1 / 2
  confidenceLevel_in : 1 / 2 < confidenceLevel ∧ confidenceLevel < 1
  deriving DecidableEq

structure ImpactConfig where
  incident : IncidentDefinition
  outcome : OutcomeDefinition
  benchmarkEffect : BenchmarkEffect
  causal : CausalConfig
  observationWindow : incident.endedAt - incident.startedAt ≤ timedeltaDays 14

-- ---------------------------------------------------------------------------
-- Source tables
-- ---------------------------------------------------------------------------

structure Customer where
  customerId : String
  createdAt : Option Instant
  homeRegion : Option String
  customerSegment : Option String
  deriving DecidableEq, Repr

structure Order where
  orderId : String
  customerId : String
  orderedAt : Option Instant
  subtotal : Option Rat
  discountAmount : Option Rat
  totalAmount : Option Rat
  deriving DecidableEq, Repr

structure CheckoutSession where
  customerId : String
  region : Option String
  device : Option String
  startedAt : Option Instant
  completedAt : Option Instant
  expectedAmount : Option Rat
  deriving DecidableEq, Repr

structure PaymentAttempt where
  customerId : String
  attemptedAt : Option Instant
  amount : Option Rat
  approved : Option Bool
  deriving DecidableEq, Repr

structure Shipment where
  orderId : String
  promisedDeliveryAt : Option Instant
  late : Option Bool
  deriving DecidableEq, Repr

structure Return where
  returnId : String
  customerId : String
  requestedAt : Option Instant
  deriving DecidableEq, Repr

structure Refund where
  returnId : String
  initiatedAt : Option Instant
  completedAt : Option Instant
  amount : Option Rat
  deriving DecidableEq, Repr

structure OrderItem where
  orderId : String
  productId : String
  deriving DecidableEq, Repr

structure Product where
  productId : String
  category : Option String
  deriving DecidableEq, Repr

structure Tables where
  customers : List Customer
  orders : List Order
  checkoutSessions : List CheckoutSession
  paymentAttempts : List PaymentAttempt
  shipments : List Shipment
  returns : List Return
  refunds : List Refund
  orderItems : List OrderItem
  products : List Product
  deriving DecidableEq, Repr

end Paic.Impact
