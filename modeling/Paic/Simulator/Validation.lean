import Paic.Simulator.Operations
import Mathlib

/-!
# Validation of a dataset

`validate_tables` on tables whose columns have their types: the checks of
presence, columns and nulls have nothing left to find.
-/

namespace Paic.Simulator

open Detection (Instant)

inductive Severity where
  | error | warning
  deriving DecidableEq, Repr

structure Issue where
  severity : Severity
  code : String
  table : String
  message : String
  deriving DecidableEq, Repr

/-- An issue when something is wrong. -/
def issueIf (wrong : Prop) [Decidable wrong] (code table message : String) : List Issue :=
  if wrong then [⟨.error, code, table, message⟩] else []

-- ---------------------------------------------------------------------------
-- Keys
-- ---------------------------------------------------------------------------

/-- A foreign key of a table: its values, the nulls left out, and what they
refer to. -/
structure ForeignKey where
  column : String
  source : Tables → List String
  target : Tables → List String

/-- Name, primary key and foreign keys of a table. -/
structure TableSpec where
  name : String
  primaryKey : Tables → List String
  foreignKeys : List ForeignKey

/-- `TABLE_SPECS` -/
def tableSpecs : List TableSpec :=
  let customer : Tables → List String := fun t => t.customers.map (·.customerId)
  let seller : Tables → List String := fun t => t.sellers.map (·.sellerId)
  let warehouse : Tables → List String := fun t => t.warehouses.map (·.warehouseId)
  let product : Tables → List String := fun t => t.products.map (·.productId)
  let promotion : Tables → List String := fun t => t.promotions.map (·.promotionId)
  let session : Tables → List String := fun t => t.checkoutSessions.map (·.sessionId)
  let payment : Tables → List String := fun t => t.paymentAttempts.map (·.paymentAttemptId)
  let order : Tables → List String := fun t => t.orders.map (·.orderId)
  let item : Tables → List String := fun t => t.orderItems.map (·.orderItemId)
  let shipment : Tables → List String := fun t => t.shipments.map (·.shipmentId)
  let returned : Tables → List String := fun t => t.returns.map (·.returnId)
  [⟨"customers", customer, []⟩,
    ⟨"sellers", seller, []⟩,
    ⟨"warehouses", warehouse, []⟩,
    ⟨"products", product,
      [⟨"seller_id", fun t => t.products.map (·.sellerId), seller⟩,
        ⟨"warehouse_id", fun t => t.products.map (·.warehouseId), warehouse⟩]⟩,
    ⟨"promotions", promotion, []⟩,
    ⟨"checkout_sessions", session,
      [⟨"customer_id", fun t => t.checkoutSessions.map (·.customerId), customer⟩,
        ⟨"product_id", fun t => t.checkoutSessions.map (·.productId), product⟩,
        ⟨"promotion_id", fun t => t.checkoutSessions.filterMap (·.promotionId), promotion⟩]⟩,
    ⟨"payment_attempts", payment,
      [⟨"session_id", fun t => t.paymentAttempts.map (·.sessionId), session⟩,
        ⟨"customer_id", fun t => t.paymentAttempts.map (·.customerId), customer⟩]⟩,
    ⟨"orders", order,
      [⟨"session_id", fun t => t.orders.map (·.sessionId), session⟩,
        ⟨"customer_id", fun t => t.orders.map (·.customerId), customer⟩,
        ⟨"payment_attempt_id", fun t => t.orders.map (·.paymentAttemptId), payment⟩]⟩,
    ⟨"order_items", item,
      [⟨"order_id", fun t => t.orderItems.map (·.orderId), order⟩,
        ⟨"product_id", fun t => t.orderItems.map (·.productId), product⟩,
        ⟨"seller_id", fun t => t.orderItems.map (·.sellerId), seller⟩]⟩,
    ⟨"inventory_snapshots", fun t => t.inventorySnapshots.map (·.snapshotId),
      [⟨"product_id", fun t => t.inventorySnapshots.map (·.productId), product⟩,
        ⟨"warehouse_id", fun t => t.inventorySnapshots.map (·.warehouseId), warehouse⟩]⟩,
    ⟨"shipments", shipment,
      [⟨"order_id", fun t => t.shipments.map (·.orderId), order⟩,
        ⟨"warehouse_id", fun t => t.shipments.map (·.warehouseId), warehouse⟩]⟩,
    ⟨"warehouse_scan_events", fun t => t.warehouseScanEvents.map (·.scanEventId),
      [⟨"shipment_id", fun t => t.warehouseScanEvents.map (·.shipmentId), shipment⟩,
        ⟨"order_id", fun t => t.warehouseScanEvents.map (·.orderId), order⟩,
        ⟨"warehouse_id", fun t => t.warehouseScanEvents.map (·.warehouseId), warehouse⟩]⟩,
    ⟨"returns", returned,
      [⟨"order_id", fun t => t.returns.map (·.orderId), order⟩,
        ⟨"order_item_id", fun t => t.returns.map (·.orderItemId), item⟩,
        ⟨"customer_id", fun t => t.returns.map (·.customerId), customer⟩]⟩,
    ⟨"refunds", fun t => t.refunds.map (·.refundId),
      [⟨"return_id", fun t => t.refunds.map (·.returnId), returned⟩,
        ⟨"order_id", fun t => t.refunds.map (·.orderId), order⟩]⟩,
    ⟨"seller_feed_runs", fun t => t.sellerFeedRuns.map (·.feedRunId),
      [⟨"seller_id", fun t => t.sellerFeedRuns.map (·.sellerId), seller⟩]⟩,
    ⟨"pipeline_runs", fun t => t.pipelineRuns.map (·.pipelineRunId), []⟩,
    ⟨"deployments", fun t => t.deployments.map (·.deploymentId), []⟩]

/-- Tables that may be empty. -/
def mayBeEmpty : List String := ["promotions", "returns", "refunds"]

/-- `_validate_keys` -/
def validateKeys (tables : Tables) : List Issue :=
  tableSpecs.flatMap fun spec =>
    let keys := spec.primaryKey tables
    if keys = [] then
      issueIf (spec.name ∉ mayBeEmpty) "table.empty" spec.name "required baseline table is empty"
    else
      issueIf (keys.dedup.length ≠ keys.length) "primary_key.duplicate" spec.name
        "primary key is not unique"

/-- `_validate_foreign_keys` -/
def validateForeignKeys (tables : Tables) : List Issue :=
  tableSpecs.flatMap fun spec => spec.foreignKeys.flatMap fun key =>
    let unmatched := (key.source tables).dedup.filter fun value => value ∉ key.target tables
    issueIf (unmatched ≠ []) "foreign_key.unmatched" spec.name
      s!"{key.column} has {unmatched.length} unmatched values"

-- ---------------------------------------------------------------------------
-- Order in time
-- ---------------------------------------------------------------------------

/-- Two columns of a table, the first of which is the earlier where there are both. -/
structure TemporalCheck where
  table : String
  earlier : String
  later : String
  pairs : Tables → List (Option Instant × Option Instant)

/-- `checks` of `_validate_temporal_order` -/
def temporalChecks : List TemporalCheck :=
  [⟨"checkout_sessions", "started_at", "address_submitted_at",
      fun t => t.checkoutSessions.map fun r => (some r.startedAt, r.addressSubmittedAt)⟩,
    ⟨"checkout_sessions", "address_submitted_at", "inventory_checked_at",
      fun t => t.checkoutSessions.map fun r => (r.addressSubmittedAt, r.inventoryCheckedAt)⟩,
    ⟨"checkout_sessions", "inventory_checked_at", "payment_started_at",
      fun t => t.checkoutSessions.map fun r => (r.inventoryCheckedAt, r.paymentStartedAt)⟩,
    ⟨"checkout_sessions", "payment_started_at", "completed_at",
      fun t => t.checkoutSessions.map fun r => (r.paymentStartedAt, r.completedAt)⟩,
    ⟨"promotions", "start_at", "end_at",
      fun t => t.promotions.map fun r => (some r.startAt, some r.endAt)⟩,
    ⟨"shipments", "shipped_at", "delivered_at",
      fun t => t.shipments.map fun r => (some r.shippedAt, r.deliveredAt)⟩,
    ⟨"warehouse_scan_events", "source_event_at", "platform_received_at",
      fun t => t.warehouseScanEvents.map fun r => (some r.sourceEventAt, some r.platformReceivedAt)⟩,
    ⟨"returns", "requested_at", "received_at",
      fun t => t.returns.map fun r => (some r.requestedAt, r.receivedAt)⟩,
    ⟨"refunds", "initiated_at", "completed_at",
      fun t => t.refunds.map fun r => (some r.initiatedAt, r.completedAt)⟩,
    ⟨"seller_feed_runs", "started_at", "completed_at",
      fun t => t.sellerFeedRuns.map fun r => (some r.startedAt, some r.completedAt)⟩,
    ⟨"pipeline_runs", "started_at", "completed_at",
      fun t => t.pipelineRuns.map fun r => (some r.startedAt, some r.completedAt)⟩]

/-- Both are there, and the earlier one comes after. -/
def isReversed (pair : Option Instant × Option Instant) : Bool :=
  match pair with
  | (some earlier, some later) => later < earlier
  | _ => false

/-- `_validate_temporal_order` -/
def validateTemporalOrder (tables : Tables) : List Issue :=
  temporalChecks.flatMap fun check =>
    let invalid := (check.pairs tables).filter isReversed
    issueIf (invalid ≠ []) "temporal.order" check.table
      s!"{invalid.length} rows have {check.earlier} after {check.later}"

-- ---------------------------------------------------------------------------
-- Commerce
-- ---------------------------------------------------------------------------

/-- `(a - b).abs() > 0.02` -/
def differ (a b : Rat) : Prop := 2 / 100 < |a - b|

instance : Decidable (differ a b) := inferInstanceAs (Decidable (_ < _))

/-- `item_summary`, joined on: nothing where an order has no items. -/
def itemSummary (items : List OrderItem) (orderId : String) : Option (Nat × Rat) :=
  let own := items.filter fun item => item.orderId = orderId
  if own = [] then none else some (own.length, (own.map OrderItem.lineTotal).sum)

/-- `_validate_commerce_reconciliation` -/
def validateCommerceReconciliation (tables : Tables) : List Issue :=
  let approved := tables.paymentAttempts.filter PaymentAttempt.approved
  let completed := tables.checkoutSessions.filter fun session =>
    session.stageReached = "order_completed"
  let badItemCount := tables.orders.filter fun order =>
    (itemSummary tables.orderItems order.orderId).any fun (count, _) => order.itemCount ≠ count
  let badNet := tables.orders.filter fun order =>
    (itemSummary tables.orderItems order.orderId).any fun (_, total) =>
      differ total (order.subtotal - order.discountAmount)
  let badTotal := tables.orders.filter fun order => differ order.totalAmount
    (order.subtotal - order.discountAmount + order.taxAmount + order.shippingAmount)
  let badPayment := tables.orders.flatMap fun order => tables.paymentAttempts.filter fun payment =>
    payment.paymentAttemptId = order.paymentAttemptId ∧ differ payment.amount order.totalAmount
  issueIf (approved.length ≠ tables.orders.length) "commerce.approved_order_count" "orders"
      "approved payment count must equal order count" ++
    issueIf (completed.length ≠ tables.orders.length) "commerce.completed_order_count"
      "checkout_sessions" "completed session count must equal order count" ++
    issueIf (badItemCount.length ≠ 0) "commerce.item_count" "orders"
      "order item_count does not match item rows" ++
    issueIf (badNet.length ≠ 0) "commerce.item_total" "orders"
      "order net subtotal does not reconcile to item rows" ++
    issueIf (badTotal.length ≠ 0) "commerce.order_total" "orders" "order total does not reconcile" ++
    issueIf (badPayment.length ≠ 0) "commerce.payment_amount" "payment_attempts"
      "approved payment amount does not equal order total"

/-- A stage with its reason, the columns it needs and those it must not have. -/
structure Expectation where
  stage : String
  reason : Option String
  required : List (CheckoutSession → Option Instant)
  forbidden : List (CheckoutSession → Option Instant)

/-- `expectations` -/
def expectations : List Expectation :=
  let address := CheckoutSession.addressSubmittedAt
  let inventory := CheckoutSession.inventoryCheckedAt
  let payment := CheckoutSession.paymentStartedAt
  let completed := CheckoutSession.completedAt
  [⟨"checkout_started", some "customer_abandoned", [], [address, inventory, payment, completed]⟩,
    ⟨"address_submitted", some "address_validation_failed", [address], [inventory, payment, completed]⟩,
    ⟨"inventory_checked", some "inventory_unavailable", [address, inventory], [payment, completed]⟩,
    ⟨"inventory_confirmed", some "before_payment", [address, inventory], [payment, completed]⟩,
    ⟨"payment_started", some "payment_declined", [address, inventory, payment], [completed]⟩,
    ⟨"order_completed", none, [address, inventory, payment, completed], []⟩]

/-- A row of the stage is inconsistent; a reason that is missing is not compared. -/
def Expectation.Violated (e : Expectation) (session : CheckoutSession) : Prop :=
  (∃ column ∈ e.required, column session = none) ∨ (∃ column ∈ e.forbidden, column session ≠ none) ∨
    ∃ reason ∈ session.abandonmentReason, some reason ≠ e.reason

instance (e : Expectation) (session : CheckoutSession) : Decidable (e.Violated session) :=
  inferInstanceAs (Decidable (_ ∨ _ ∨ _))

/-- `_validate_funnel_states` -/
def validateFunnelStates (tables : Tables) : List Issue :=
  let sessions := tables.checkoutSessions
  let unknown := Sorted.byKey id <| (sessions.map CheckoutSession.stageReached).dedup.filter fun stage =>
    stage ∉ expectations.map Expectation.stage
  let unattributed := sessions.filter fun session =>
    session.channel ∈ unattributedChannels ∧ session.campaignId.isSome
  let paidWithoutCampaign := sessions.filter fun session =>
    session.channel ∉ unattributedChannels ∧ session.campaignId.isNone
  issueIf (unknown ≠ []) "funnel.stage_unknown" "checkout_sessions"
      ("unknown funnel stages: " ++ ", ".intercalate unknown) ++
    (expectations.flatMap fun e =>
      let count := (sessions.filter fun session =>
        session.stageReached = e.stage ∧ e.Violated session).length
      issueIf (count ≠ 0) "funnel.state" "checkout_sessions"
        s!"{count} {e.stage} rows have inconsistent timestamps or abandonment reason") ++
    issueIf (unattributed.length ≠ 0 ∨ paidWithoutCampaign.length ≠ 0) "commerce.campaign_attribution"
      "checkout_sessions"
      "campaign attribution does not match organic/direct versus campaign channels"

-- ---------------------------------------------------------------------------
-- Fulfilment and inventory
-- ---------------------------------------------------------------------------

/-- A shipment and the sequence numbers of its scans do not reconcile. -/
def scanCountWrong (scans : List ScanEvent) (shipment : Shipment) : Bool :=
  let numbers := (scans.filter fun scan => scan.shipmentId = shipment.shipmentId).map
    ScanEvent.sequenceNumber
  match numbers.min?, numbers.max? with
  | some least, some greatest =>
    shipment.scanCount ≠ numbers.length ∨ least ≠ 1 ∨ greatest ≠ numbers.length
  | _, _ => true

/-- `.dt.total_seconds()`, which drops what is less than a second. -/
def totalSeconds (microseconds : Int) : Int := microseconds.tdiv second

/-- `_validate_operational_reconciliation` -/
def validateOperationalReconciliation (tables : Tables) : List Issue :=
  let scans := tables.warehouseScanEvents
  if scans.length = 0 ∧ tables.shipments.length ≠ 0 then
    [⟨.error, "fulfilment.scan_events_missing", "warehouse_scan_events",
      "shipments exist without warehouse scan events"⟩]
  else
    let invalidCount := tables.shipments.filter (scanCountWrong scans)
    let invalidLag := scans.filter fun scan =>
      scan.ingestionLagSeconds ≠ totalSeconds (scan.platformReceivedAt - scan.sourceEventAt) ∨
        scan.ingestionLagSeconds < scan.connectorBatchSeconds ∨ scan.ingestionLagSeconds ≤ 0
    let inconsistentContext := scans.flatMap fun scan => tables.shipments.filter fun shipment =>
      shipment.shipmentId = scan.shipmentId ∧
        (scan.orderId ≠ shipment.orderId ∨ scan.warehouseId ≠ shipment.warehouseId)
    let invalidAttribution := tables.orders.flatMap fun order =>
      tables.checkoutSessions.filter fun session =>
        session.sessionId = order.sessionId ∧
          (order.channel ≠ session.channel ∨ order.campaignId.getD "" ≠ session.campaignId.getD "")
    issueIf (invalidCount.length ≠ 0) "fulfilment.scan_count" "shipments"
        "shipment scan_count or scan sequence does not reconcile to scan events" ++
      issueIf (invalidLag.length ≠ 0) "fulfilment.scan_lag" "warehouse_scan_events"
        "scan receipt timestamps or ingestion lag fields do not reconcile" ++
      issueIf (inconsistentContext.length ≠ 0) "fulfilment.scan_context" "warehouse_scan_events"
        "scan event order or warehouse does not match its shipment" ++
      issueIf (invalidAttribution.length ≠ 0) "commerce.order_attribution" "orders"
        "order channel or campaign does not match the originating checkout session"

/-- `_validate_inventory` -/
def validateInventory (tables : Tables) : List Issue :=
  let invalid := tables.inventorySnapshots.filter fun row =>
    row.availableQuantity ≠ row.onHandQuantity - row.reservedQuantity ∨ row.onHandQuantity < 0 ∨
      row.reservedQuantity < 0 ∨ row.availableQuantity < 0
  let deltas := tables.inventorySnapshots.map fun row =>
    |row.feedReportedQuantity - row.availableQuantity|
  issueIf (invalid.length ≠ 0) "inventory.balance" "inventory_snapshots"
      "inventory quantities do not reconcile or contain negatives" ++
    issueIf (1 < deltas.max?.getD 0) "inventory.feed_delta" "inventory_snapshots"
      "incident-free feed quantity differs from availability by more than one unit"

-- ---------------------------------------------------------------------------
-- Baseline health and window
-- ---------------------------------------------------------------------------

/-- A share, and zero of nothing. -/
def share (part whole : Nat) : Rat := if whole = 0 then 0 else part / whole

/-- `f"{value:.3f}"` of a number that is not negative. -/
def thousandths (value : Rat) : String :=
  let n := (Rounding.rint (value * 1000)).toNat
  toString (n / 1000) ++ "." ++ Numerals.padded 3 (n % 1000)

structure Statistics where
  checkoutConversionRate : Rat
  paymentApprovalRate : Rat
  lateDeliveryRate : Rat
  sessionCount : Nat
  orderCount : Nat

/-- The statistics of `_validate_baseline_health`. -/
def baselineStatistics (tables : Tables) : Statistics :=
  let approved := tables.paymentAttempts.filter PaymentAttempt.approved
  let delivered := tables.shipments.filter fun shipment => shipment.status = "delivered"
  { checkoutConversionRate := share tables.orders.length tables.checkoutSessions.length
    paymentApprovalRate := share approved.length tables.paymentAttempts.length
    lateDeliveryRate := share (delivered.filter Shipment.late).length delivered.length
    sessionCount := tables.checkoutSessions.length
    orderCount := tables.orders.length }

def conversionIssue (statistics : Statistics) : List Issue :=
  let rate := statistics.checkoutConversionRate
  issueIf (¬ (45 / 100 ≤ rate ∧ rate ≤ 95 / 100)) "baseline.conversion" "checkout_sessions"
    s!"checkout conversion {thousandths rate} is outside healthy baseline bounds"

def approvalIssue (statistics : Statistics) : List Issue :=
  let rate := statistics.paymentApprovalRate
  issueIf (¬ (70 / 100 ≤ rate ∧ rate ≤ 995 / 1000)) "baseline.payment_approval" "payment_attempts"
    s!"payment approval {thousandths rate} is outside healthy baseline bounds"

def lateDeliveryIssue (statistics : Statistics) : List Issue :=
  let rate := statistics.lateDeliveryRate
  issueIf (30 / 100 < rate) "baseline.late_delivery" "shipments"
    s!"late delivery rate {thousandths rate} is outside healthy baseline bounds"

/-- `_validate_baseline_health` -/
def validateBaselineHealth (tables : Tables) : List Issue :=
  let statistics := baselineStatistics tables
  let nonBaselineRules := tables.paymentAttempts.filter fun payment =>
    payment.fraudRuleVersion ≠ "17"
  conversionIssue statistics ++ approvalIssue statistics ++
    issueIf (nonBaselineRules.length ≠ 0) "baseline.fraud_rule" "payment_attempts"
      "incident-free baseline must use fraud rule version 17" ++
    lateDeliveryIssue statistics

/-- `_validate_window` -/
def validateWindow (tables : Tables) (config : SimulationConfig) : List Issue :=
  let starts := tables.checkoutSessions.map CheckoutSession.startedAt
  match starts.min?, starts.max? with
  | some least, some greatest =>
    issueIf (least < config.startAt) "window.before_start" "checkout_sessions"
        "session predates start_at" ++
      issueIf (config.endAt ≤ greatest) "window.after_end" "checkout_sessions"
        "session is at or after end_at"
  | _, _ => []

structure Report where
  issues : List Issue
  statistics : Statistics

/-- `valid` -/
def Report.valid (report : Report) : Bool := !report.issues.any fun issue => issue.severity = .error

/-- `validate_tables`, with a configuration and without a manifest. -/
def validateTables (tables : Tables) (config : SimulationConfig) : Report where
  issues := validateKeys tables ++ validateForeignKeys tables ++ validateTemporalOrder tables ++
    validateCommerceReconciliation tables ++ validateFunnelStates tables ++
    validateOperationalReconciliation tables ++ validateInventory tables ++
    validateBaselineHealth tables ++ validateWindow tables config
  statistics := baselineStatistics tables

end Paic.Simulator
