import Paic.Impact.Models
import Paic.Impact.Statistics
import Paic.Lib.Checks
import Mathlib

/-!
# The impact engine

Who was exposed to the incident, what is known of each customer, and the tables
that are built of it: survival curves, propensity scores and the effect that
the benchmark put in.
-/

namespace Paic.Impact

open Checks (need raiseIf)
open Sorted (byKey)

/-- The first eight bytes of `hashlib.sha256(text.encode()).digest()`, as a
number. -/
class Digest where
  head : String → Nat

-- ---------------------------------------------------------------------------
-- Frames
-- ---------------------------------------------------------------------------

/-- `_window_filter`: an empty cell is in no window. -/
def windowFilter (column : Option Instant) (start stop : Instant) : Bool :=
  match column with
  | some at_ => decide (start ≤ at_ ∧ at_ < stop)
  | none => false

def before (column : Option Instant) (instant : Instant) : Bool :=
  match column with
  | some at_ => decide (at_ < instant)
  | none => false

/-- `pl.Expr.sum`: empty cells count nothing. -/
def columnSum (column : List (Option Rat)) : Rat := (column.filterMap id).sum

/-- `pl.Expr.mean`: of the cells that are not empty, if there are any. -/
def columnMean (column : List (Option Rat)) : Option Rat :=
  let values := column.filterMap id
  if values = [] then none else some (values.sum / values.length)

/-- `frame.group_by("customer_id").len()`, as a dict that is read with `0` for
a customer who is not in it. -/
def lenBy (customer : α → String) (frame : List α) (customerId : String) : Nat :=
  frame.countP fun row => customer row = customerId

/-- An inner join on one column. -/
def join (left : List α) (right : List β) (leftOn : α → String) (rightOn : β → String) :
    List (α × β) :=
  left.flatMap fun l => (right.filter fun r => leftOn l = rightOn r).map fun r => (l, r)

-- ---------------------------------------------------------------------------
-- Exposure
-- ---------------------------------------------------------------------------

structure Exposure where
  counts : String → Nat
  immediateFailures : Nat
  immediateLoss : Rat

/-- `_exposure_counts` -/
def exposureCounts (tables : Tables) (incident : IncidentDefinition) : Exposure :=
  match incident.family with
  | .checkoutFailure =>
    let inWindow := tables.checkoutSessions.filter fun row =>
      windowFilter row.startedAt incident.startedAt incident.endedAt
    let inRegion := match incident.region with
      | some region => inWindow.filter fun row => row.region = some region
      | none => inWindow
    let frame := match incident.device with
      | some device => inRegion.filter fun row => row.device = some device
      | none => inRegion
    let failed := frame.filter fun row => row.completedAt.isNone
    ⟨lenBy CheckoutSession.customerId frame, failed.length,
      columnSum (failed.map CheckoutSession.expectedAmount)⟩
  | .paymentDecline =>
    let frame := tables.paymentAttempts.filter fun row =>
      windowFilter row.attemptedAt incident.startedAt incident.endedAt
    let failed := frame.filter fun row => row.approved = some false
    ⟨lenBy PaymentAttempt.customerId frame, failed.length,
      columnSum (failed.map PaymentAttempt.amount)⟩
  | .lateDelivery =>
    let frame := join
      (tables.shipments.filter fun row =>
        windowFilter row.promisedDeliveryAt incident.startedAt incident.endedAt)
      tables.orders Shipment.orderId Order.orderId
    let failed := frame.filter fun row => row.1.late = some true
    ⟨lenBy (fun row => row.2.customerId) frame, failed.length,
      columnSum (failed.map fun row => row.2.totalAmount)⟩
  | .refundDelay =>
    let refunds := join
      (tables.refunds.filter fun row =>
        windowFilter row.initiatedAt incident.startedAt incident.endedAt)
      tables.returns Refund.returnId Return.returnId
    let failed := refunds.filter fun row => row.1.completedAt.isNone
    ⟨lenBy (fun row => row.2.customerId) refunds, failed.length,
      columnSum (failed.map fun row => row.1.amount)⟩

-- ---------------------------------------------------------------------------
-- Customers
-- ---------------------------------------------------------------------------

structure CustomerFeatures where
  customerId : String
  indexAt : Instant
  homeRegion : Option String
  customerSegment : Option String
  exposed : Bool
  exposureInteractions : Nat
  tenureDays : Rat
  recencyDays : Rat
  preOrders : Nat
  postOrders : Nat
  preSpend : Rat
  averageOrderValue : Rat
  orderFrequency30d : Rat
  prePurchaseRate : Rat
  postPurchaseRate : Rat
  failedCheckoutCount : Nat
  paymentDeclineCount : Nat
  lateDeliveryCount : Nat
  returnCount : Nat
  refundCount : Nat
  discountShare : Rat
  categoryDiversity : Nat
  baselineLtv : Rat
  controlEventDays : Rat
  treatedEventDays : Rat
  observedEventDays : Rat
  eventObserved : Bool
  churned : Bool
  controlChurned : Bool
  treatedChurned : Bool
  benchmarkEffectApplied : Bool
  deriving DecidableEq, Repr

/-- The orders of one customer in the two periods, and the counts of what
happened before the incident. -/
structure History where
  pre : List Order
  post : List Order
  failedCheckout : Nat
  declined : Nat
  late : Nat
  returned : Nat
  refunded : Nat
  diversity : Nat

/-- When the next order came, or the horizon, and whether none came. -/
structure EventTime where
  days : Rat
  churned : Bool

section
variable [Digest]

/-- `_stable_uniform` -/
def stableUniform (customerId : String) (seed : Int) : Rat :=
  Digest.head (toString seed ++ ":" ++ customerId) / 2 ^ 64

def horizonOf (config : ImpactConfig) : Rat := config.outcome.churnHorizonDays

/-- `control_event_days` and `control_churned` -/
def controlEvent (config : ImpactConfig) (nextOrder : Option Instant) : EventTime :=
  match nextOrder with
  | some at_ => ⟨min (inDays (at_ - config.incident.endedAt)) (horizonOf config), false⟩
  | none => ⟨horizonOf config, true⟩

/-- `treated_event_days` and `treated_churned`, of an exposed customer when the
effect is enabled. -/
def treatedEvent (config : ImpactConfig) (customerId : String) (control : EventTime) : EventTime :=
  let effect := config.benchmarkEffect
  if stableUniform customerId effect.seed < effect.censorProbability then
    ⟨horizonOf config, true⟩
  else if control.churned then control
  else
    let days := min (horizonOf config) (control.days + effect.delayDays)
    ⟨days, decide (horizonOf config ≤ days)⟩

/-- What `_customer_features` finds of one customer in the tables. -/
def historyOf (tables : Tables) (config : ImpactConfig) (customerId : String) : History :=
  let incident := config.incident
  let preStart := incident.startedAt - timedeltaDays config.outcome.prePeriodDays
  let horizonEnd := incident.endedAt + timedeltaDays config.outcome.churnHorizonDays
  let preOrders := tables.orders.filter fun row =>
    windowFilter row.orderedAt preStart incident.startedAt
  let postOrders := tables.orders.filter fun row =>
    windowFilter row.orderedAt incident.endedAt horizonEnd
  let sessions := tables.checkoutSessions.filter fun row =>
    windowFilter row.startedAt preStart incident.startedAt
  let payments := tables.paymentAttempts.filter fun row =>
    windowFilter row.attemptedAt preStart incident.startedAt
  let shipments := join
    (tables.shipments.filter fun row => before row.promisedDeliveryAt incident.startedAt)
    tables.orders Shipment.orderId Order.orderId
  let returns := tables.returns.filter fun row => before row.requestedAt incident.startedAt
  let refunds := join
    (tables.refunds.filter fun row => before row.initiatedAt incident.startedAt)
    tables.returns Refund.returnId Return.returnId
  let items := join (join tables.orderItems preOrders OrderItem.orderId Order.orderId)
    tables.products (fun row => row.1.productId) Product.productId
  let categories := (items.filter fun row => row.1.2.customerId = customerId).map fun row =>
    row.2.category
  { pre := preOrders.filter fun row => row.customerId = customerId
    post := postOrders.filter fun row => row.customerId = customerId
    failedCheckout :=
      lenBy CheckoutSession.customerId (sessions.filter fun row => row.completedAt.isNone) customerId
    declined :=
      lenBy PaymentAttempt.customerId (payments.filter fun row => row.approved = some false)
        customerId
    late :=
      lenBy (fun row => row.2.customerId) (shipments.filter fun row => row.1.late = some true)
        customerId
    returned := lenBy Return.customerId returns customerId
    refunded := lenBy (fun row => row.2.customerId) refunds customerId
    diversity := categories.dedup.length }

/-- One pass of the loop of `_customer_features`: the row of a customer, if it
has one. -/
def featureRow (tables : Tables) (config : ImpactConfig) (exposure : Exposure)
    (customer : Customer) : Except Error (Option CustomerFeatures) := do
  let incident := config.incident
  let outcome := config.outcome
  let customerId := customer.customerId
  let history := historyOf tables config customerId
  let preCount := history.pre.length
  if preCount < outcome.minimumPreOrders then return none
  let spend := columnSum (history.pre.map Order.totalAmount)
  let averageOrder := (columnMean (history.pre.map Order.totalAmount)).getD 0
  let recency := match (history.pre.filterMap Order.orderedAt).max? with
    | some lastOrder => inDays (incident.startedAt - lastOrder)
    | none => outcome.prePeriodDays
  let subtotal := columnSum (history.pre.map Order.subtotal)
  let discountAmount := columnSum (history.pre.map Order.discountAmount)
  let postCount := history.post.length
  let nextOrder := (history.post.filterMap Order.orderedAt).min?
  let control := controlEvent config nextOrder
  let interactions := exposure.counts customerId
  let exposed := decide (incident.minimumInteractions ≤ interactions)
  let applied := exposed && config.benchmarkEffect.enabled
  let treated := if applied then treatedEvent config customerId control else control
  let observed := if exposed then treated else control
  let createdAt ← need customer.createdAt
    (.typeError "unsupported operand type(s) for -: 'datetime.datetime' and 'NoneType'")
  return some
    { customerId := customerId
      indexAt := incident.endedAt
      homeRegion := customer.homeRegion
      customerSegment := customer.customerSegment
      exposed := exposed
      exposureInteractions := interactions
      tenureDays := max 0 (inDays (incident.startedAt - createdAt))
      recencyDays := recency
      preOrders := preCount
      postOrders := postCount
      preSpend := spend
      averageOrderValue := averageOrder
      orderFrequency30d := (preCount : Rat) / outcome.prePeriodDays * 30
      prePurchaseRate := (preCount : Rat) / outcome.prePeriodDays
      postPurchaseRate := (postCount : Rat) / outcome.churnHorizonDays
      failedCheckoutCount := history.failedCheckout
      paymentDeclineCount := history.declined
      lateDeliveryCount := history.late
      returnCount := history.returned
      refundCount := history.refunded
      discountShare := if 0 < subtotal then discountAmount / subtotal else 0
      categoryDiversity := history.diversity
      baselineLtv := spend / max outcome.prePeriodDays 1 * outcome.ltvHorizonDays
      controlEventDays := control.days
      treatedEventDays := treated.days
      observedEventDays := observed.days
      eventObserved := !observed.churned
      churned := observed.churned
      controlChurned := control.churned
      treatedChurned := treated.churned
      benchmarkEffectApplied := applied }

/-- `_customer_features`: the features with the number of failures and the loss
at once. -/
def customerFeatures (tables : Tables) (config : ImpactConfig) :
    Except Error (List CustomerFeatures × Nat × Rat) := do
  let exposure := exposureCounts tables config.incident
  let rows ← tables.customers.mapM (featureRow tables config exposure)
  let rows := rows.filterMap id
  raiseIf (rows = []) (.noDataError "no data, cannot infer schema")
  return (byKey CustomerFeatures.customerId rows, exposure.immediateFailures,
    exposure.immediateLoss)

end

-- ---------------------------------------------------------------------------
-- Survival curves
-- ---------------------------------------------------------------------------

inductive Group where
  | exposed | control | overall
  deriving DecidableEq, Repr

def Group.name : Group → String
  | .exposed => "exposed"
  | .control => "control"
  | .overall => "overall"

structure SurvivalRow where
  group : Group
  point : SurvivalPoint
  deriving DecidableEq, Repr

/-- The mask of a group. -/
def Group.holds (group : Group) (row : CustomerFeatures) : Bool :=
  match group with
  | .exposed => row.exposed
  | .control => !row.exposed
  | .overall => true

/-- The durations and events of a group. -/
def membersOf (features : List CustomerFeatures) (group : Group) : List Followed :=
  (features.filter group.holds).map fun row => ⟨row.observedEventDays, row.eventObserved⟩

section
variable [IntervalMath]

/-- The rows of one group, in the order of the times. -/
def groupRows (features : List CustomerFeatures) (config : ImpactConfig) (group : Group) :
    List SurvivalRow :=
  (kaplanMeier (membersOf features group) config.causal.confidenceLevel).map (SurvivalRow.mk group)

/-- `_build_survival` -/
def buildSurvival (features : List CustomerFeatures) (config : ImpactConfig) :
    Except Error (List SurvivalRow) := do
  let rows := [Group.exposed, .control, .overall].flatMap (groupRows features config)
  raiseIf (rows = []) (.noDataError "no data, cannot infer schema")
  return byKey (fun row => toLex (row.group.name, row.point.timeDays)) rows

end

-- ---------------------------------------------------------------------------
-- Causal tables
-- ---------------------------------------------------------------------------

structure PropensityRow (K : Type) where
  customerId : String
  exposed : Bool
  propensityScore : K
  stabilizedWeight : K
  matchedCustomerId : Option String
  matched : Bool
  deriving DecidableEq, Repr

/-- A dict of pairs, of which a later one replaces an earlier one. -/
def dictOf (items : List (Fin n × Fin n)) : Fin n → Option (Fin n) :=
  items.foldl (fun dict item => Function.update dict item.1 (some item.2)) fun _ => none

/-- `matches.get(index) if exposed[index] else reverse_matches.get(index)` -/
def matchedIndex (exposed : Fin n → Bool) (found : List (Fin n × Fin n)) (index : Fin n) :
    Option (Fin n) :=
  let reverseMatches := dictOf (found.map Prod.swap)
  if exposed index then dictOf found index else reverseMatches index

section
variable {K : Type} [Field K] [LinearOrder K] [LogitMath K] {n : Nat}

/-- `propensity_rows` of `_build_causal`, over the scores of the fitted
model. -/
def propensityRow (ids : Fin n → String) (exposed : Fin n → Bool) (scores : Fin n → K)
    (caliper clip : K) (index : Fin n) : PropensityRow K :=
  let found := nearestNeighborMatches scores exposed caliper
  let matched := matchedIndex exposed found index
  { customerId := ids index
    exposed := exposed index
    propensityScore := scores index
    stabilizedWeight := stabilizedIptw scores exposed clip index
    matchedCustomerId := matched.map ids
    matched := matched.isSome }

end

/-- `true_att` of `_build_causal` -/
def trueAtt (features : List CustomerFeatures) : Rat :=
  let exposed := features.filter CustomerFeatures.exposed
  (columnMean (exposed.map fun row =>
    some ((row.treatedChurned.toNat : Rat) - row.controlChurned.toNat))).getD 0

end Paic.Impact
