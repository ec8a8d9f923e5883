import Paic.Simulator.Dimensions

/-!
# Checkout, payment, order and order-item events

The session state of the generators is a list with one record for each session.
-/

namespace Paic.Simulator

open Checks (need raiseIf)
open Detection (Instant)
open Numerals (padded)
open Sorted (byKey)

-- ---------------------------------------------------------------------------
-- Draws
-- ---------------------------------------------------------------------------

structure SessionDraw where
  customer : Uniform
  product : Uniform
  returning : Uniform
  region : Uniform
  device : Uniform
  usePreferredDevice : Uniform
  channel : Uniform
  campaign : Nat
  second : Nat
  appVersion : Uniform
  promotion : Uniform
  promotionIndex : Nat
  basket : Rat
  addressReached : Uniform
  addressOk : Bool
  inventoryOk : Bool
  paymentReached : Uniform
  addressSeconds : Nat
  inventorySeconds : Nat
  paymentSeconds : Nat

structure PaymentDraw where
  method : Uniform
  adherence : Uniform
  fraudScore : Rat
  approved : Bool
  latency : Rat
  declineReason : Nat
  processor : Uniform

structure ItemDraw where
  product : Uniform
  quantity : Uniform

structure OrderDraw where
  itemCount : Nat
  item : Nat → ItemDraw
  milliseconds : Nat

structure CommerceDraws where
  /-- Sessions of an hour. -/
  count : Nat → Nat
  session : Nat → SessionDraw
  payment : Nat → PaymentDraw
  order : Nat → OrderDraw

-- ---------------------------------------------------------------------------
-- Sessions
-- ---------------------------------------------------------------------------

structure SessionState where
  sessionId : String
  customerId : String
  customerPreferredPayment : String
  customerIssuer : String
  productId : String
  promotionId : Option String
  promotionDiscount : Rat
  campaignId : Option String
  region : String
  device : String
  channel : String
  customerType : String
  appVersion : String
  startedAt : Instant
  addressSubmittedAt : Option Instant
  inventoryCheckedAt : Option Instant
  paymentStartedAt : Option Instant
  completedAt : Option Instant
  addressReached : Bool
  addressOk : Bool
  inventoryOk : Bool
  paymentReached : Bool
  approved : Bool
  expectedAmount : Rat

section
variable (config : SimulationConfig)

/-- `_hourly_schedule` -/
def hourlySchedule (count : Nat → Nat) : List Instant :=
  let hours := (List.range (config.durationDays * 24)).flatMap fun offset =>
    List.replicate (count offset) (config.startAt + offset * hour)
  if hours = [] then [config.startAt] else hours

def appVersions : Weighted String where
  options := [("7.3.0", 8 / 100), ("7.3.1", 18 / 100), ("7.4.0", 46 / 100), ("7.4.1", 28 / 100)]
  nonempty := nofun
  positive := by decide +kernel

/-- Channels that have no campaigns. -/
def unattributedChannels : List String := ["organic", "direct"]

/-- Letters of a campaign's code; `str.upper` maps the rest of Unicode too,
which nothing here looks at. -/
def campaignCode (channel : String) : String :=
  channel.map fun c => if c = '_' then '-' else c.toUpper

def campaignId (channel : String) (draw : Nat) : Option String :=
  if channel ∈ unattributedChannels then none
  else some ("CAM-" ++ campaignCode channel ++ "-" ++ padded 2 (integers draw 1 5))

/-- `_select_promotions`, for one session. -/
def selectPromotion (promotions : List Promotion) (draw : SessionDraw) (start : Instant)
    (region channel category : String) : Option Promotion :=
  if draw.promotion.value < config.behavior.promotionSessionShare then
    let candidates := promotions.filter fun item =>
      item.startAt ≤ start ∧ start < item.endAt ∧ item.region = region ∧ item.channel = channel ∧
        item.category = category
    if h : candidates ≠ [] then some (choice draw.promotionIndex candidates h) else none
  else none

/-- `probability_vector`, with the rows whose weights they are. -/
def probabilityVector (rows : List α) (weight : α → Rat) : Except Error (Weighted α) :=
  if h : rows ≠ [] ∧ ∀ row ∈ rows, 0 < weight row then .ok (.ofRows rows weight h)
  else .error (.valueError "weights must be finite and strictly positive")

/-- One session of `_generate_session_state`. -/
def sessionState (promotions : List Promotion) (customers : Weighted Customer)
    (products : Weighted Product) (draw : SessionDraw) (index : Nat) (hourStart : Instant) :
    SessionState :=
  let customer := customers.choose draw.customer
  let product := products.choose draw.product
  let isReturning : Bool := draw.returning.value < config.behavior.returningCustomerShare
  let region := if isReturning then customer.homeRegion else config.regionChoice.choose draw.region
  let device :=
    if draw.usePreferredDevice.value < config.behavior.preferredDeviceAdherence then
      customer.preferredDevice
    else config.deviceChoice.choose draw.device
  let channel := config.channelChoice.choose draw.channel
  let start := hourStart + integers draw.second 0 3600 * second
  let promotion := selectPromotion config promotions draw start region channel product.category
  let discount := (promotion.map Promotion.discountPct).getD 0
  let basketFactor := clip (1 + draw.basket) 1 (45 / 10)
  let addressReached : Bool := draw.addressReached.value < config.behavior.addressAttemptRate
  let addressOk := addressReached && draw.addressOk
  let inventoryOk := addressOk && draw.inventoryOk
  let paymentReached := inventoryOk &&
    decide (draw.paymentReached.value < config.behavior.paymentAttemptRate)
  let addressAt := if addressReached then
    some (start + integers draw.addressSeconds 10 121 * second) else none
  let inventoryAt := match addressAt with
    | some t => if addressOk then some (t + integers draw.inventorySeconds 1 16 * second) else none
    | none => none
  let paymentAt := match inventoryAt with
    | some t => if paymentReached then some (t + integers draw.paymentSeconds 4 91 * second) else none
    | none => none
  { sessionId := stableId "SES" 10 index
    customerId := customer.customerId
    customerPreferredPayment := customer.preferredPaymentMethod
    customerIssuer := customer.issuer
    productId := product.productId
    promotionId := promotion.map Promotion.promotionId
    promotionDiscount := discount
    campaignId := campaignId channel draw.campaign
    region, device, channel
    customerType := if isReturning then "returning" else "new"
    appVersion := if device = "web" then "web-2026.07" else appVersions.choose draw.appVersion
    startedAt := start
    addressSubmittedAt := addressAt
    inventoryCheckedAt := inventoryAt
    paymentStartedAt := paymentAt
    completedAt := none
    addressReached, addressOk, inventoryOk, paymentReached
    approved := false
    expectedAmount := rounded (product.basePrice * basketFactor * (1 - discount)) }

/-- `_generate_session_state` -/
def generateSessionState (draws : CommerceDraws) (dimensions : Dimensions) :
    Except Error (List SessionState) := do
  let customers ← probabilityVector dimensions.customers Customer.baselineActivityScore
  let products ← probabilityVector dimensions.products Product.demandWeight
  return (hourlySchedule config draws.count).mapIdx fun index hourStart =>
    sessionState config dimensions.promotions customers products (draws.session index) index hourStart

-- ---------------------------------------------------------------------------
-- Payments
-- ---------------------------------------------------------------------------

/-- `processors` with the share of each. -/
def processors : Weighted String where
  options := [("adyen-sim", 42 / 100), ("stripe-sim", 38 / 100), ("checkout-sim", 20 / 100)]
  nonempty := nofun
  positive := by decide +kernel

def declineReasons : List String := ["issuer_declined", "insufficient_funds", "authentication_failed"]

/-- One attempt of `_generate_payments`; the attempt began with the session's
`payment_started_at`. -/
def paymentAttempt (draw : PaymentDraw) (index : Nat) (state : SessionState) (attemptedAt : Instant)
    (currency : String) : PaymentAttempt :=
  let fraudScore := clip draw.fraudScore (1 / 1000) (98 / 100)
  { paymentAttemptId := stableId "PAY" 10 index
    sessionId := state.sessionId
    customerId := state.customerId
    paymentMethod :=
      if draw.adherence.value < config.behavior.preferredPaymentAdherence then
        state.customerPreferredPayment
      else config.paymentMethodChoice.choose draw.method
    issuer := state.customerIssuer
    processor := processors.choose draw.processor
    attemptedAt
    amount := state.expectedAmount
    currency
    approved := draw.approved
    declineReason :=
      if draw.approved then none
      else if 42 / 100 < fraudScore then some "risk_rejected"
      else some (choice draw.declineReason declineReasons nofun)
    latencyMs := ⌊clip draw.latency 80 5000⌋
    fraudScore
    fraudRuleVersion := "17" }

def SessionState.withApproved (state : SessionState) (approved : Bool) : SessionState :=
  { state with approved }

/-- `state_approved[indices] = approved`: the sessions that reached a payment
take the values in turn. -/
def setApproved : List SessionState → List Bool → List SessionState
  | state :: rest, approved :: values =>
    if state.paymentReached then state.withApproved approved :: setApproved rest values
    else state :: setApproved rest (approved :: values)
  | states, _ => states

def paymentRow (draws : CommerceDraws) (row : SessionState × Nat) : Except Error PaymentAttempt := do
  let region ← need (config.region row.1.region) (.keyError row.1.region)
  let attemptedAt ← need row.1.paymentStartedAt (.valueError "attempted_at")
  return paymentAttempt config (draws.payment row.2) row.2 row.1 attemptedAt region.currency

/-- `_generate_payments` -/
def generatePayments (draws : CommerceDraws) (states : List SessionState) :
    Except Error (List PaymentAttempt × List SessionState) := do
  let reached := states.filter SessionState.paymentReached
  raiseIf (reached = [])
    (.runtimeError "healthy baseline unexpectedly generated zero payment attempts")
  let attempts ← reached.zipIdx.mapM (paymentRow config draws)
  return (byKey PaymentAttempt.paymentAttemptId attempts,
    setApproved states (attempts.map PaymentAttempt.approved))

-- ---------------------------------------------------------------------------
-- Orders
-- ---------------------------------------------------------------------------

def quantities : Weighted Nat where
  options := [(1, 55 / 100), (1, 20 / 100), (1, 15 / 100), (2, 10 / 100)]
  nonempty := nofun
  positive := by decide +kernel

/-- An item of an order, before it has its number. -/
structure OrderLine where
  orderId : String
  product : Product
  quantity : Nat
  discount : Rat

namespace OrderLine
variable (line : OrderLine)

def lineSubtotal : Rat := line.product.basePrice * line.quantity
def lineDiscount : Rat := line.lineSubtotal * line.discount
def lineTotal : Rat := line.lineSubtotal - line.lineDiscount

def row (index : Nat) : OrderItem where
  orderItemId := "ITM-" ++ padded 11 (index + 1)
  orderId := line.orderId
  productId := line.product.productId
  sellerId := line.product.sellerId
  quantity := line.quantity
  unitPrice := rounded line.product.basePrice
  discountAmount := rounded line.lineDiscount
  lineTotal := rounded line.lineTotal

end OrderLine

/-- `item_counts` -/
def OrderDraw.count (draw : OrderDraw) : Nat := min (1 + draw.itemCount) 4

/-- The lines of one order: the product of the session first, then what else is
chosen. -/
def orderLines (products : List Product) (demand : Weighted Product) (draw : OrderDraw)
    (orderId : String) (state : SessionState) : Except Error (List OrderLine) := do
  let primary ← need (products.find? fun product => product.productId = state.productId)
    (.keyError state.productId)
  let others := (List.range (draw.count - 1)).map fun i => demand.choose (draw.item (i + 1)).product
  return (primary :: others).mapIdx fun i product =>
    { orderId, product, quantity := quantities.choose (draw.item i).quantity
      discount := state.promotionDiscount }

/-- One order of `_generate_orders`. -/
def orderOf (draw : OrderDraw) (orderId : String) (payment : PaymentAttempt) (state : SessionState)
    (region : RegionConfig) (lines : List OrderLine) : Order :=
  let subtotal := (lines.map OrderLine.lineSubtotal).sum
  let discount := (lines.map OrderLine.lineDiscount).sum
  let taxable := subtotal - discount
  let tax := rounded (taxable * region.taxRate)
  let shipping := rounded (if 75 ≤ taxable then 0 else 599 / 100)
  { orderId
    sessionId := payment.sessionId
    customerId := payment.customerId
    paymentAttemptId := payment.paymentAttemptId
    orderedAt := payment.attemptedAt + integers draw.milliseconds 100 1501 * millisecond
    region := state.region
    channel := state.channel
    campaignId := state.campaignId
    status := "placed"
    subtotal := rounded subtotal
    discountAmount := rounded discount
    taxAmount := tax
    shippingAmount := shipping
    totalAmount := rounded (taxable + tax + shipping)
    currency := region.currency
    itemCount := draw.count }

/-- The order of a payment, with its lines. -/
def orderRow (draws : CommerceDraws) (products : List Product) (demand : Weighted Product)
    (states : List SessionState) (row : PaymentAttempt × Nat) :
    Except Error (Order × List OrderLine) := do
  let state ← need (states.find? fun state => state.sessionId = row.1.sessionId)
    (.keyError row.1.sessionId)
  let orderId := stableId "ORD" 10 row.2
  let lines ← orderLines products demand (draws.order row.2) orderId state
  let region ← need (config.region state.region) (.keyError state.region)
  return (orderOf (draws.order row.2) orderId row.1 state region lines, lines)

def SessionState.withOrder (state : SessionState) (order : Order) : SessionState :=
  { state with completedAt := some order.orderedAt, expectedAmount := order.totalAmount }

/-- `completed_at[session_index] = ordered`, and the amount. -/
def completeSession (orders : List Order) (state : SessionState) : SessionState :=
  match orders.find? fun order => order.sessionId = state.sessionId with
  | some order => state.withOrder order
  | none => state

/-- `pl.coalesce("order_total", "amount")` -/
def settle (orders : List Order) (payment : PaymentAttempt) : PaymentAttempt :=
  match orders.find? fun order => order.paymentAttemptId = payment.paymentAttemptId with
  | some order => { payment with amount := order.totalAmount }
  | none => payment

/-- `_generate_orders` -/
def generateOrders (draws : CommerceDraws) (dimensions : Dimensions) (states : List SessionState)
    (payments : List PaymentAttempt) :
    Except Error (List Order × List OrderItem × List PaymentAttempt × List SessionState) := do
  let approved := payments.filter PaymentAttempt.approved
  raiseIf (approved = [])
    (.runtimeError "healthy baseline unexpectedly generated zero approved payments")
  let demand ← probabilityVector dimensions.products Product.demandWeight
  let placed ← approved.zipIdx.mapM (orderRow config draws dimensions.products demand states)
  let orders := placed.map Prod.fst
  let items := (placed.flatMap Prod.snd).mapIdx fun index line => line.row index
  return (byKey Order.orderId orders, byKey OrderItem.orderItemId items,
    byKey PaymentAttempt.paymentAttemptId (payments.map (settle orders)),
    states.map (completeSession orders))

-- ---------------------------------------------------------------------------
-- Commerce
-- ---------------------------------------------------------------------------

/-- Stage and reason of `_finalize_sessions`: later assignments overwrite. -/
def stageAndReason (state : SessionState) : String × Option String :=
  if state.approved then ("order_completed", none)
  else if state.paymentReached then ("payment_started", some "payment_declined")
  else if state.inventoryOk then ("inventory_confirmed", some "before_payment")
  else if state.addressOk then ("inventory_checked", some "inventory_unavailable")
  else if state.addressReached then ("address_submitted", some "address_validation_failed")
  else ("checkout_started", some "customer_abandoned")

/-- A row of `_finalize_sessions`. -/
def SessionState.row (state : SessionState) : CheckoutSession where
  sessionId := state.sessionId
  customerId := state.customerId
  productId := state.productId
  promotionId := state.promotionId
  campaignId := state.campaignId
  region := state.region
  device := state.device
  channel := state.channel
  customerType := state.customerType
  appVersion := state.appVersion
  startedAt := state.startedAt
  addressSubmittedAt := state.addressSubmittedAt
  inventoryCheckedAt := state.inventoryCheckedAt
  paymentStartedAt := state.paymentStartedAt
  completedAt := state.completedAt
  stageReached := (stageAndReason state).1
  abandonmentReason := (stageAndReason state).2
  expectedAmount := rounded state.expectedAmount

/-- `_finalize_sessions` -/
def finalizeSessions (states : List SessionState) : List CheckoutSession :=
  byKey CheckoutSession.sessionId (states.map SessionState.row)

/-- `generate_commerce_events` -/
def generateCommerceEvents (draws : CommerceDraws) (dimensions : Dimensions) :
    Except Error Commerce := do
  let states ← generateSessionState config draws dimensions
  let (payments, states) ← generatePayments config draws states
  let (orders, orderItems, payments, states) ←
    generateOrders config draws dimensions states payments
  return { checkoutSessions := finalizeSessions states, paymentAttempts := payments, orders, orderItems }

end

end Paic.Simulator
