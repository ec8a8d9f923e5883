import Paic.Simulator.Events

/-!
# Operational tables

Inventory, shipments with their scan events, returns and refunds, seller feeds,
pipeline runs and deployments.
-/

namespace Paic.Simulator

open Checks (need)
open Detection (Instant)
open Numerals (padded)
open Rounding (rint)
open Sorted (byKey)

-- ---------------------------------------------------------------------------
-- Draws
-- ---------------------------------------------------------------------------

structure InventoryDraws where
  initialFactor : Nat → Nat
  initialRest : Nat → Nat
  /-- By the day, then by the product. -/
  restock : Nat → Nat → Nat
  reserved : Nat → Nat → Nat
  feedNoise : Nat → Nat → Nat

structure ShipmentDraw where
  service : Uniform
  handling : Fraction
  late : Uniform
  transit : Rat
  delay : Fraction
  carrier : Uniform

structure ScanDraw where
  connectorBatch : Uniform
  processing : Rat

structure ShipmentScanDraw where
  packed : Fraction
  departed : Fraction
  outForDelivery : Fraction
  scan : Nat → ScanDraw

structure ReturnDraw where
  returned : Uniform
  requested : Fraction
  received : Fraction
  reason : Uniform

structure RefundDraw where
  initiated : Fraction
  completes : Uniform
  completed : Fraction
  processor : Nat

structure FeedDraw where
  started : Fraction
  latency : Rat
  success : Uniform
  records : Nat
  rejected : Nat

structure PipelineDraw where
  inputRows : Rat
  succeeded : Uniform
  qualityPassed : Uniform
  outputRatio : Fraction
  latency : Rat

structure DeploymentDraw where
  hours : Nat
  minutes : Nat
  regional : Uniform
  region : Nat
  changeType : Nat

structure OperationDraws where
  inventory : InventoryDraws
  shipment : Nat → ShipmentDraw
  shipmentScan : Nat → ShipmentScanDraw
  return_ : Nat → ReturnDraw
  refund : Nat → RefundDraw
  feed : Nat → Nat → FeedDraw
  pipeline : Nat → Nat → PipelineDraw
  deployment : Nat → Nat → DeploymentDraw

section
variable (config : SimulationConfig)

-- ---------------------------------------------------------------------------
-- Inventory
-- ---------------------------------------------------------------------------

/-- What is ordered of a product on a day. -/
def demandOn (orders : List Order) (orderItems : List OrderItem) (productId : String) (on : Int) :
    Nat :=
  let rows := orderItems.flatMap fun item => orders.filterMap fun order =>
    if order.orderId = item.orderId ∧ date order.orderedAt = on ∧ item.productId = productId then
      some item.quantity
    else none
  rows.sum

def feedNoises : List Int := [-1, 0, 0, 0, 0, 1]

/-- A product's row of one day, from what was on hand the day before. -/
def snapshot (draws : InventoryDraws) (demand : Nat) (product : Product) (index dayOffset : Nat)
    (count : Nat) (onHand : Int) : InventorySnapshot :=
  let left := max (onHand - demand) 0
  let restock : Int :=
    if left < product.reorderPoint then
      product.reorderPoint * integers (draws.restock dayOffset index) 3 6
    else 0
  let onHand := left + restock
  let reserved := min (draws.reserved dayOffset index : Int) onHand
  let available := onHand - reserved
  let reported := max (available + choice (draws.feedNoise dayOffset index) feedNoises nofun) 0
  { snapshotId := "INV-" ++ padded 12 (dayOffset * count + index + 1)
    productId := product.productId
    warehouseId := product.warehouseId
    snapshotAt := config.startAt + dayOffset * day + 23 * hour + 55 * minute
    onHandQuantity := onHand
    reservedQuantity := reserved
    availableQuantity := available
    reorderPoint := product.reorderPoint
    feedReportedQuantity := reported }

/-- A day of the loop: the rows of all products, each from its own quantity on
hand. -/
def inventoryDay (draws : InventoryDraws) (commerce : Commerce) (products : List Product)
    (dayOffset : Nat) (onHand : List Int) : List InventorySnapshot :=
  let today := date (config.startAt + dayOffset * day + 23 * hour + 55 * minute)
  (products.zip onHand).mapIdx fun index (product, quantity) =>
    snapshot config draws (demandOn commerce.orders commerce.orderItems product.productId today)
      product index dayOffset products.length quantity

/-- The days from `dayOffset` on. -/
def inventoryDays (draws : InventoryDraws) (commerce : Commerce) (products : List Product) :
    Nat → Nat → List Int → List InventorySnapshot
  | 0, _, _ => []
  | days + 1, dayOffset, onHand =>
    let rows := inventoryDay config draws commerce products dayOffset onHand
    rows ++ inventoryDays draws commerce products days (dayOffset + 1)
      (rows.map InventorySnapshot.onHandQuantity)

/-- `_generate_inventory` -/
def generateInventory (draws : InventoryDraws) (dimensions : Dimensions) (commerce : Commerce) :
    List InventorySnapshot :=
  let onHand := dimensions.products.mapIdx fun index product =>
    (product.reorderPoint * integers (draws.initialFactor index) 3 7 +
      integers (draws.initialRest index) 10 100 : Int)
  byKey InventorySnapshot.snapshotId <|
    inventoryDays config draws commerce dimensions.products config.durationDays 0 onHand

-- ---------------------------------------------------------------------------
-- Shipments
-- ---------------------------------------------------------------------------

def deliveryServices : Weighted String where
  options := [("standard", 78 / 100), ("express", 22 / 100)]
  nonempty := nofun
  positive := by decide +kernel

/-- A row of `_generate_shipments`. -/
def shipmentOf (draw : ShipmentDraw) (index : Nat) (order : Order) (region : RegionConfig)
    (warehouseId : String) : Shipment :=
  let deliveryService := deliveryServices.choose draw.service
  let standard : Bool := deliveryService = "standard"
  let handlingHours := uniform draw.handling 3 (if standard then 28 else 16)
  let shippedAt := order.orderedAt + timedelta handlingHours hour
  let promisedDays := if standard then region.deliveryDays else max 1 (region.deliveryDays - 1)
  let promisedAt := order.orderedAt + promisedDays * day + 20 * hour
  let isLate := draw.late.value < config.behavior.baseLateDeliveryRate
  let transitDays := max (6 / 10) draw.transit + if isLate then uniform draw.delay 1 3 else 0
  let candidate := shippedAt + timedelta transitDays day
  let deliveredAt := if candidate ≤ config.endAt then some candidate else none
  { shipmentId := "SHP-" ++ padded 10 (index + 1)
    orderId := order.orderId
    warehouseId
    carrier := config.carrierChoice.choose draw.carrier
    deliveryService
    shippedAt
    promisedDeliveryAt := promisedAt
    deliveredAt
    status := if deliveredAt.isSome then "delivered" else "in_transit"
    scanCount := 0
    late := deliveredAt.any fun t => promisedAt < t }

/-- `first_items`: the product of the first item of an order, with the warehouse
of the product. -/
def firstWarehouse (products : List Product) (orderItems : List OrderItem) (orderId : String) :
    Option String := do
  let item ← (byKey OrderItem.orderItemId orderItems).find? fun item => item.orderId = orderId
  let product ← products.find? fun product => product.productId = item.productId
  return product.warehouseId

def shipmentRow (draw : Nat → ShipmentDraw) (row : (Order × String) × Nat) :
    Except Error Shipment := do
  let region ← need (config.region row.1.1.region) (.keyError row.1.1.region)
  return shipmentOf config (draw row.2) row.2 row.1.1 region row.1.2

/-- The status of the shipment of an order. -/
def updateStatus (shipments : List Shipment) (order : Order) : Order :=
  match shipments.find? fun shipment => shipment.orderId = order.orderId with
  | some shipment => { order with status := shipment.status }
  | none => order

/-- `_generate_shipments` -/
def generateShipments (draw : Nat → ShipmentDraw) (dimensions : Dimensions) (commerce : Commerce) :
    Except Error (List Shipment × List Order) := do
  let base := commerce.orders.filterMap fun order =>
    (firstWarehouse dimensions.products commerce.orderItems order.orderId).map (order, ·)
  let rows ← base.zipIdx.mapM (shipmentRow config draw)
  let orders := commerce.orders.map (updateStatus rows)
  return (byKey Shipment.shipmentId rows, byKey Order.orderId orders)

-- ---------------------------------------------------------------------------
-- Scan events
-- ---------------------------------------------------------------------------

def connectorBatches : Weighted Nat where
  options := [(30, 58 / 100), (60, 34 / 100), (120, 8 / 100)]
  nonempty := nofun
  positive := by decide +kernel

/-- Types and times of the scans of a shipment. -/
def scansOf (draw : ShipmentScanDraw) (shipment : Shipment) : List (String × Instant) :=
  let shippedAt := shipment.shippedAt
  let packedAt := shippedAt - timedelta (uniform draw.packed (15 / 10) (35 / 10)) hour
  let departedAt := shippedAt - timedelta (uniform draw.departed 20 75) minute
  let sent := [("packed", packedAt), ("departed_warehouse", departedAt), ("carrier_handoff", shippedAt)]
  match shipment.deliveredAt with
  | some deliveredAt =>
    let outForDelivery := max (shippedAt + minute)
      (deliveredAt - timedelta (uniform draw.outForDelivery 2 8) hour)
    sent ++ [("out_for_delivery", outForDelivery), ("delivered", deliveredAt)]
  | none => sent

/-- A scan event, before it has its number. -/
def scanEvent (draw : ScanDraw) (shipment : Shipment) (index : Nat) (scan : String × Instant)
    (scanEventId : String) : ScanEvent :=
  let connectorBatchSeconds := connectorBatches.choose draw.connectorBatch
  let processingSeconds := ⌊clip draw.processing 1 45⌋
  let ingestionLagSeconds := connectorBatchSeconds + processingSeconds
  { scanEventId
    shipmentId := shipment.shipmentId
    orderId := shipment.orderId
    warehouseId := shipment.warehouseId
    eventType := scan.1
    sequenceNumber := index + 1
    sourceEventAt := scan.2
    platformReceivedAt := scan.2 + ingestionLagSeconds * second
    ingestionLagSeconds
    connectorBatchSeconds }

/-- `_generate_scan_events` -/
def generateScanEvents (draw : Nat → ShipmentScanDraw) (shipments : List Shipment) :
    List ScanEvent × List Shipment :=
  let scans := shipments.mapIdx fun position shipment =>
    (scansOf (draw position) shipment).mapIdx fun index scan =>
      scanEvent ((draw position).scan index) shipment index scan
  let events := scans.flatten.mapIdx fun index event => event ("SCN-" ++ padded 12 (index + 1))
  let updated := shipments.zipWith (fun shipment events =>
    { shipment with scanCount := events.length }) scans
  (byKey ScanEvent.scanEventId events, byKey Shipment.shipmentId updated)

-- ---------------------------------------------------------------------------
-- Returns and refunds
-- ---------------------------------------------------------------------------

def returnReasons : Weighted String where
  options := [("changed_mind", 34 / 100), ("not_as_described", 18 / 100), ("damaged", 12 / 100),
    ("wrong_size", 24 / 100), ("late_delivery", 12 / 100)]
  nonempty := nofun
  positive := by decide +kernel

/-- A row of `candidate_items`. -/
structure CandidateItem where
  item : OrderItem
  order : Order
  deliveredAt : Instant
  product : Product
  customer : Customer

/-- The inner joins of `candidate_items`. -/
def candidateItems (dimensions : Dimensions) (orders : List Order) (orderItems : List OrderItem)
    (shipments : List Shipment) : List CandidateItem :=
  orderItems.flatMap fun item =>
    (orders.filter fun order => order.orderId = item.orderId).flatMap fun order =>
      (shipments.filter fun shipment =>
        shipment.status = "delivered" ∧ shipment.orderId = item.orderId).flatMap fun shipment =>
        (dimensions.products.filter fun product => product.productId = item.productId).flatMap
          fun product =>
            (dimensions.customers.filter fun customer =>
              customer.customerId = order.customerId).filterMap fun customer =>
              shipment.deliveredAt.map fun deliveredAt => { item, order, deliveredAt, product, customer }

/-- The return of an item, if there is one. -/
def returnOf (draw : ReturnDraw) (row : CandidateItem) (returnId : String) : Option Return :=
  let probability := min (75 / 100) (config.behavior.baseReturnRate *
    (55 / 100 + row.product.returnPropensity * (22 / 10)) *
    (60 / 100 + row.customer.baselineReturnPropensity * (25 / 10)))
  if probability ≤ draw.returned.value then none
  else
    let requestedAt := row.deliveredAt + timedelta (uniform draw.requested 1 14) day
    if config.endAt < requestedAt then none
    else
      let candidate := requestedAt + timedelta (uniform draw.received 2 8) day
      let receivedAt := if candidate ≤ config.endAt then some candidate else none
      some {
        returnId
        orderId := row.item.orderId
        orderItemId := row.item.orderItemId
        customerId := row.order.customerId
        requestedAt
        receivedAt
        reason := returnReasons.choose draw.reason
        status := if receivedAt.isSome then "received" else "in_transit"
        refundAmount := rounded row.item.lineTotal }

/-- The loop over the candidates, with the returns so far. -/
def returnLoop (draw : Nat → ReturnDraw) : Nat → List CandidateItem → List Return → List Return
  | _, [], returns => returns
  | position, row :: rest, returns =>
    if row.item.orderId ∈ returns.map Return.orderId then
      returnLoop draw (position + 1) rest returns
    else
      match returnOf config (draw position) row ("RET-" ++ padded 10 (returns.length + 1)) with
      | some returned => returnLoop draw (position + 1) rest (returns ++ [returned])
      | none => returnLoop draw (position + 1) rest returns

def refundProcessors : List String := ["adyen-sim", "stripe-sim", "checkout-sim"]

/-- A refund of a return. -/
def refundOf (draw : RefundDraw) (index : Nat) (row : Return) : Refund :=
  let initiatedAt := row.receivedAt.getD row.requestedAt +
    timedelta (uniform draw.initiated (5 / 10) 12) hour
  let completes := row.receivedAt.isSome ∧ draw.completes.value < config.behavior.refundCompletionRate
  let candidate := initiatedAt + timedelta (uniform draw.completed 2 72) hour
  let completedAt := if completes ∧ candidate ≤ config.endAt then some candidate else none
  { refundId := "RFD-" ++ padded 10 (index + 1)
    returnId := row.returnId
    orderId := row.orderId
    initiatedAt
    completedAt
    status := if completedAt.isSome then "completed" else "pending"
    amount := row.refundAmount
    processor := choice draw.processor refundProcessors nofun }

/-- `_generate_returns_and_refunds` -/
def generateReturnsAndRefunds (draws : OperationDraws) (dimensions : Dimensions)
    (orders : List Order) (orderItems : List OrderItem) (shipments : List Shipment) :
    List Return × List Refund :=
  let candidates := candidateItems dimensions orders orderItems shipments
  let returns := byKey Return.returnId (returnLoop config draws.return_ 0 candidates [])
  let refunds := returns.mapIdx fun index row => refundOf config (draws.refund index) index row
  (returns, byKey Refund.refundId refunds)

-- ---------------------------------------------------------------------------
-- Feeds, pipelines, deployments
-- ---------------------------------------------------------------------------

/-- A row of `_generate_seller_feed_runs`. -/
def feedRun (draw : FeedDraw) (dayOffset index : Nat) (seller : Seller) (feedRunId : String) :
    SellerFeedRun :=
  let startedAt := config.startAt + dayOffset * day + timedelta (uniform draw.started 0 23) hour
  let latency := ⌊clip draw.latency 5 1800⌋
  let success := draw.success.value < seller.feedReliability
  let records := integers draw.records 20 2501
  { feedRunId
    sellerId := seller.sellerId
    startedAt
    completedAt := startedAt + latency * second
    schemaVersion := seller.feedSchemaVersion
    recordsReceived := records
    -- `rng.binomial(records, …)`
    recordsRejected := integers draw.rejected 0 (records + 1)
    status := if success then "succeeded" else "failed"
    latencySeconds := latency }

/-- `_generate_seller_feed_runs` -/
def generateSellerFeedRuns (draw : Nat → Nat → FeedDraw) (sellers : List Seller) :
    List SellerFeedRun :=
  let rows := (List.range config.durationDays).flatMap fun dayOffset =>
    sellers.mapIdx fun index seller => feedRun config (draw dayOffset index) dayOffset index seller
  byKey SellerFeedRun.feedRunId <| rows.mapIdx fun index row => row ("FED-" ++ padded 12 (index + 1))

/-- A row of `_generate_pipeline_runs`. -/
def pipelineRun (draw : PipelineDraw) (dayOffset position : Nat) (pipeline : String)
    (pipelineRunId : String) : PipelineRun :=
  let startedAt := config.startAt + dayOffset * day + (1 + position * 3 : Nat) * hour
  let inputRows := ⌊max 1 draw.inputRows⌋
  let succeeded : Bool := draw.succeeded.value < 995 / 1000
  let outputRatio := uniform draw.outputRatio (96 / 100) (102 / 100)
  { pipelineRunId
    pipelineName := pipeline
    startedAt
    completedAt := startedAt + timedelta (clip draw.latency 1 45) minute
    inputRows
    outputRows := max 0 (rint (inputRows * outputRatio))
    status := if succeeded then "succeeded" else "retried"
    dataQualityPassed := succeeded || draw.qualityPassed.value < 98 / 100
    codeVersion := s!"2026.{1 + dayOffset / 14}.{1 + position}" }

/-- `_generate_pipeline_runs` -/
def generatePipelineRuns (draw : Nat → Nat → PipelineDraw) : List PipelineRun :=
  let rows := (List.range config.durationDays).flatMap fun dayOffset =>
    config.pipelines.mapIdx fun position pipeline =>
      pipelineRun config (draw dayOffset position) dayOffset position pipeline
  byKey PipelineRun.pipelineRunId <| rows.mapIdx fun index row => row ("PIP-" ++ padded 10 (index + 1))

def changeTypes : List String := ["application", "configuration", "dependency", "feature_flag"]

/-- A row of `_generate_deployments`. -/
def deploymentOf (draw : DeploymentDraw) (position patch dayOffset : Nat) (service : String)
    (deploymentId : String) : Deployment :=
  { deploymentId
    service
    version := s!"{1 + position}.4.{patch + 1}"
    regionScope :=
      if draw.regional.value < 35 / 100 then regionAt config draw.region else "all"
    deployedAt := config.startAt + dayOffset * day + integers draw.hours 8 19 * hour +
      integers draw.minutes 0 60 * minute
    status := "succeeded"
    changeType := choice draw.changeType changeTypes nofun
    rollbackAvailable := true }

/-- `range(service_position % 3, config.duration_days, 7)` -/
def deploymentDays (position : Nat) : List Nat :=
  (List.range config.durationDays).filter fun dayOffset =>
    position % 3 ≤ dayOffset ∧ (dayOffset - position % 3) % 7 = 0

/-- `_generate_deployments` -/
def generateDeployments (draw : Nat → Nat → DeploymentDraw) : List Deployment :=
  let rows := (config.services.mapIdx fun position service =>
    (deploymentDays config position).mapIdx fun patch dayOffset =>
      deploymentOf config (draw position patch) position patch dayOffset service).flatten
  byKey Deployment.deploymentId <| rows.mapIdx fun index row => row ("DEP-" ++ padded 8 (index + 1))

-- ---------------------------------------------------------------------------
-- The dataset
-- ---------------------------------------------------------------------------

/-- `generate_operational_data`, and the tables together. -/
def generateOperationalData (draws : OperationDraws) (dimensions : Dimensions) (commerce : Commerce) :
    Except Error Tables := do
  let inventorySnapshots := generateInventory config draws.inventory dimensions commerce
  let (shipments, orders) ← generateShipments config draws.shipment dimensions commerce
  let (warehouseScanEvents, shipments) := generateScanEvents draws.shipmentScan shipments
  let (returns, refunds) :=
    generateReturnsAndRefunds config draws dimensions orders commerce.orderItems shipments
  return {
    dimensions, commerce with
    orders, inventorySnapshots, shipments, warehouseScanEvents, returns, refunds
    sellerFeedRuns := generateSellerFeedRuns config draws.feed dimensions.sellers
    pipelineRuns := generatePipelineRuns config draws.pipeline
    deployments := generateDeployments config draws.deployment }

structure Draws where
  dimensions : DimensionDraws
  commerce : CommerceDraws
  operations : OperationDraws

/-- `simulate` -/
def simulate (draws : Draws) : Except Error Tables := do
  let dimensions ← generateDimensions config draws.dimensions
  let commerce ← generateCommerceEvents config draws.commerce dimensions
  generateOperationalData config draws.operations dimensions commerce

end

end Paic.Simulator
