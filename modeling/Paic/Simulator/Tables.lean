import Paic.Simulator.Config

/-!
# Tables of a dataset

The rows of the canonical tables, with the columns that the generators and the
checks read. A cell that may be empty is an `Option`.
-/

namespace Paic.Simulator

open Detection (Instant)

structure Customer where
  customerId : String
  homeRegion : String
  preferredDevice : String
  preferredPaymentMethod : String
  issuer : String
  baselineActivityScore : Rat
  baselineReturnPropensity : Rat

structure Seller where
  sellerId : String
  categoryFocus : String
  feedSchemaVersion : String
  feedReliability : Rat

structure Warehouse where
  warehouseId : String
  region : String
  serviceLevelDays : Nat

structure Product where
  productId : String
  sellerId : String
  warehouseId : String
  category : String
  basePrice : Rat
  demandWeight : Rat
  returnPropensity : Rat
  reorderPoint : Nat

structure Promotion where
  promotionId : String
  channel : String
  region : String
  category : String
  startAt : Instant
  endAt : Instant
  discountPct : Rat

structure CheckoutSession where
  sessionId : String
  customerId : String
  productId : String
  promotionId : Option String
  campaignId : Option String
  region : String
  device : String
  channel : String
  customerType : String
  appVersion : String
  startedAt : Instant
  addressSubmittedAt : Option Instant
  inventoryCheckedAt : Option Instant
  paymentStartedAt : Option Instant
  completedAt : Option Instant
  stageReached : String
  abandonmentReason : Option String
  expectedAmount : Rat

structure PaymentAttempt where
  paymentAttemptId : String
  sessionId : String
  customerId : String
  paymentMethod : String
  issuer : String
  processor : String
  attemptedAt : Instant
  amount : Rat
  currency : String
  approved : Bool
  declineReason : Option String
  latencyMs : Int
  fraudScore : Rat
  fraudRuleVersion : String

structure Order where
  orderId : String
  sessionId : String
  customerId : String
  paymentAttemptId : String
  orderedAt : Instant
  region : String
  channel : String
  campaignId : Option String
  status : String
  subtotal : Rat
  discountAmount : Rat
  taxAmount : Rat
  shippingAmount : Rat
  totalAmount : Rat
  currency : String
  itemCount : Nat

structure OrderItem where
  orderItemId : String
  orderId : String
  productId : String
  sellerId : String
  quantity : Nat
  unitPrice : Rat
  discountAmount : Rat
  lineTotal : Rat

structure InventorySnapshot where
  snapshotId : String
  productId : String
  warehouseId : String
  snapshotAt : Instant
  onHandQuantity : Int
  reservedQuantity : Int
  availableQuantity : Int
  reorderPoint : Int
  feedReportedQuantity : Int

structure Shipment where
  shipmentId : String
  orderId : String
  warehouseId : String
  carrier : String
  deliveryService : String
  shippedAt : Instant
  promisedDeliveryAt : Instant
  deliveredAt : Option Instant
  status : String
  scanCount : Nat
  late : Bool

structure ScanEvent where
  scanEventId : String
  shipmentId : String
  orderId : String
  warehouseId : String
  eventType : String
  sequenceNumber : Nat
  sourceEventAt : Instant
  platformReceivedAt : Instant
  ingestionLagSeconds : Int
  connectorBatchSeconds : Int

structure Return where
  returnId : String
  orderId : String
  orderItemId : String
  customerId : String
  requestedAt : Instant
  receivedAt : Option Instant
  reason : String
  status : String
  refundAmount : Rat

structure Refund where
  refundId : String
  returnId : String
  orderId : String
  initiatedAt : Instant
  completedAt : Option Instant
  status : String
  amount : Rat
  processor : String

structure SellerFeedRun where
  feedRunId : String
  sellerId : String
  startedAt : Instant
  completedAt : Instant
  schemaVersion : String
  recordsReceived : Nat
  recordsRejected : Nat
  status : String
  latencySeconds : Int

structure PipelineRun where
  pipelineRunId : String
  pipelineName : String
  startedAt : Instant
  completedAt : Instant
  inputRows : Int
  outputRows : Int
  status : String
  dataQualityPassed : Bool
  codeVersion : String

structure Deployment where
  deploymentId : String
  service : String
  version : String
  regionScope : String
  deployedAt : Instant
  status : String
  changeType : String
  rollbackAvailable : Bool

/-- `generate_dimensions` -/
structure Dimensions where
  customers : List Customer
  sellers : List Seller
  warehouses : List Warehouse
  products : List Product
  promotions : List Promotion

/-- `generate_commerce_events` -/
structure Commerce where
  checkoutSessions : List CheckoutSession
  paymentAttempts : List PaymentAttempt
  orders : List Order
  orderItems : List OrderItem

/-- The frames of `TABLE_ORDER`. -/
structure Tables extends Dimensions, Commerce where
  inventorySnapshots : List InventorySnapshot
  shipments : List Shipment
  warehouseScanEvents : List ScanEvent
  returns : List Return
  refunds : List Refund
  sellerFeedRuns : List SellerFeedRun
  pipelineRuns : List PipelineRun
  deployments : List Deployment

/-- The first exception that a generator raises. -/
inductive Error where
  | valueError (message : String)
  | keyError (key : String)
  | runtimeError (message : String)
  deriving DecidableEq, Repr

end Paic.Simulator
