import Paic.Simulator.RecordsLaws

/-!
# What a run comes to

A run ends with a dataset whose tables agree with one another, or in one of
three failures, each for a reason of its own.
-/

namespace Paic.Simulator

open Checks (bind_eq_ok bind_eq_error pure_eq_ok raiseIf_pos)
open Sorted (byKey byKey_perm mem_byKey)

-- ---------------------------------------------------------------------------
-- Orders with the status of their shipments
-- ---------------------------------------------------------------------------

section
variable {config : SimulationConfig} {d : Dimensions}

theorem OrderOk.withStatus {c : Commerce} {o : Order} {p : PaymentAttempt} {s : CheckoutSession}
    (h : OrderOk config c o p s) (orders : List Order) (status : String) :
    OrderOk config { c with orders } { o with status } p s where
  payment := h.payment
  session := h.session
  payment_key := h.payment_key
  session_key := h.session_key
  customer := h.customer
  approved := h.approved
  amount := h.amount
  channel := h.channel
  campaign := h.campaign
  region := h.region
  started := h.started
  completed := h.completed
  attempted := h.attempted
  total := h.total
  item_count := h.item_count
  items := h.items
  net := h.net

theorem updateStatus_orderId (shipments : List Shipment) (orders : List Order) :
    (orders.map (updateStatus shipments)).map Order.orderId = orders.map Order.orderId := by
  rw [List.map_map]
  refine List.map_congr_left fun o _ => ?_
  obtain ⟨status, heq⟩ := updateStatus_eq shipments o
  rw [Function.comp_apply, heq]

/-- Nothing that was said of the commerce tables depends on the status. -/
theorem CommerceOk.withOrders {c : Commerce} (h : CommerceOk config d c) (shipments : List Shipment) :
    CommerceOk config d
      { c with orders := byKey Order.orderId (c.orders.map (updateStatus shipments)) } where
  sessions_ne := h.sessions_ne
  sessions_nodup := h.sessions_nodup
  sessions_ok := h.sessions_ok
  payments_ne := h.payments_ne
  payments_nodup := h.payments_nodup
  payments_rules := h.payments_rules
  payments_session := h.payments_session
  orders_ne := byKey_ne_nil fun hnil => h.orders_ne (List.map_eq_nil_iff.mp hnil)
  orders_nodup := by
    refine byKey_nodup ?_
    rw [updateStatus_orderId]
    exact h.orders_nodup
  orders_ok := by
    intro o ho
    obtain ⟨o₀, ho₀, rfl⟩ := List.mem_map.mp (mem_byKey.mp ho)
    obtain ⟨p, s, hok⟩ := h.orders_ok o₀ ho₀
    obtain ⟨status, heq⟩ := updateStatus_eq shipments o₀
    rw [heq]
    exact ⟨p, s, hok.withStatus _ status⟩
  items_nodup := h.items_nodup
  items_ok := by
    intro item hitem
    obtain ⟨horder, hproduct⟩ := h.items_ok item hitem
    refine ⟨?_, hproduct⟩
    rw [← updateStatus_orderId shipments] at horder
    exact ((byKey_perm _ _).map _).mem_iff.mpr horder
  approved_count := by
    rw [(byKey_perm _ _).length_eq, List.length_map]
    exact h.approved_count
  completed_count := by
    rw [(byKey_perm _ _).length_eq, List.length_map]
    exact h.completed_count

end

-- ---------------------------------------------------------------------------
-- Datasets
-- ---------------------------------------------------------------------------

/-- The tables agree with one another. -/
structure Coherent (config : SimulationConfig) (t : Tables) : Prop where
  dimensions : DimensionsOk config t.toDimensions
  commerce : CommerceOk config t.toDimensions t.toCommerce
  shipments_nodup : (t.shipments.map Shipment.shipmentId).Nodup
  /-- One shipment to each order. -/
  orders_shipped : (t.shipments.map Shipment.orderId).Perm (t.orders.map Order.orderId)
  shipments_ok : ∀ s ∈ t.shipments, ∃ o ∈ t.orders,
    ShipmentOk config t.toDimensions o s ∧ o.status = s.status
  scans : ScannedOk t.shipments t.warehouseScanEvents
  stock_ne : t.inventorySnapshots ≠ []
  stock_nodup : (t.inventorySnapshots.map InventorySnapshot.snapshotId).Nodup
  stock_ok : ∀ row ∈ t.inventorySnapshots, ∃ p ∈ t.products, StockOk p row
  refunds : RefundsOk config t.orders t.orderItems t.shipments t.returns t.refunds
  logs : LogsOk config t.sellers t.sellerFeedRuns t.pipelineRuns t.deployments

section
variable (config : SimulationConfig) (draws : Draws)

/-- The sessions of a run. -/
def sessionsOf : Except Error (List SessionState) := do
  let dimensions ← generateDimensions config draws.dimensions
  generateSessionState config draws.commerce dimensions

/-- The payments of a run. -/
def paymentsOf : Except Error (List PaymentAttempt × List SessionState) := do
  let states ← sessionsOf config draws
  generatePayments config draws.commerce states

/-- No session reached a payment. -/
def NonePaid : Prop := ∃ states, sessionsOf config draws = .ok states ∧
  ∀ s ∈ states, s.paymentReached = false

/-- There were payments, and none of them was approved. -/
def NoneApproved : Prop := ∃ payments states, paymentsOf config draws = .ok (payments, states) ∧
  ∀ p ∈ payments, p.approved = false

def broadcastMessage (rows count : Nat) : String :=
  s!"could not broadcast input array from shape ({rows},) into shape ({count},)"

/-- The failures of a run. -/
inductive Fails : Error → Prop
  | tooManyWarehouses (h : config.scale.products < config.scale.warehouses) :
      Fails (.valueError (broadcastMessage config.scale.warehouses config.scale.products))
  | nonePaid (h : NonePaid config draws) :
      Fails (.runtimeError "healthy baseline unexpectedly generated zero payment attempts")
  | noneApproved (h : NoneApproved config draws) :
      Fails (.runtimeError "healthy baseline unexpectedly generated zero approved payments")

end

section
variable {config : SimulationConfig} {draws : Draws}

/-- What is generated after the commerce tables always comes out. -/
theorem generateOperationalData_ok {d : Dimensions} {c : Commerce} (hd : DimensionsOk config d)
    (hc : CommerceOk config d c) (draws : OperationDraws) : ∃ tables,
      generateOperationalData config draws d c = .ok tables ∧ Coherent config tables := by
  obtain ⟨shipments, orders, hshipments, hshipped⟩ := generateShipments_ok hd hc draws.shipment
  refine ⟨_, bind_eq_ok.mpr ⟨_, hshipments, rfl⟩, ?_⟩
  have hperm := byKey_perm Shipment.shipmentId shipments
  have hkeys : (shipments.map Shipment.orderId).Nodup :=
    hshipped.orders_shipped.nodup_iff.mpr hc.orders_nodup
  have hnodup : ((byKey Shipment.shipmentId shipments).map Shipment.shipmentId).Nodup :=
    byKey_nodup hshipped.nodup
  obtain rfl := hshipped.orders_eq
  constructor
  case dimensions => exact hd
  case commerce => exact hc.withOrders shipments
  case shipments_nodup =>
    exact (scanned_map (fun _ _ => rfl) draws.shipmentScan _).nodup_iff.mpr hnodup
  case orders_shipped =>
    refine (scanned_map (fun _ _ => rfl) draws.shipmentScan _).trans ?_
    refine ((hperm.map _).trans hshipped.orders_shipped).trans ?_
    rw [← updateStatus_orderId shipments]
    exact ((byKey_perm _ _).map _).symm
  case shipments_ok =>
    intro s' hs'
    obtain ⟨s, hs, scanCount, rfl⟩ := mem_scanned hs'
    obtain ⟨o, ho, hok⟩ := hshipped.shipments_ok s (mem_byKey.mp hs)
    have heq := updateStatus_of_mem hkeys (mem_byKey.mp hs) hok.order_key
    refine ⟨updateStatus shipments o, mem_byKey.mpr (List.mem_map_of_mem ho), ?_, ?_⟩
    · rw [heq]
      exact ⟨hok.order_key, hok.warehouse, hok.handled, hok.delivered, hok.status, hok.late⟩
    · rw [heq]
  case scans =>
    refine generateScanEvents_ok _ hnodup fun s hs t ht => ?_
    obtain ⟨o, -, hok⟩ := hshipped.shipments_ok s (mem_byKey.mp hs)
    exact (hok.delivered t ht).1
  case stock_ne => exact generateInventory_ne hd.products_ne
  case stock_nodup => exact (generateInventory_ok d c).1
  case stock_ok => exact (generateInventory_ok d c).2
  case refunds => exact generateReturnsAndRefunds_ok _ _ _ _ _
  case logs => exact logs_ok hd.sellers_ne draws

theorem generateDimensions_fails (draws : DimensionDraws)
    (h : config.scale.products < config.scale.warehouses) : generateDimensions config draws =
      .error (.valueError (broadcastMessage config.scale.warehouses config.scale.products)) := by
  obtain ⟨rows, hrows, -, hlength⟩ := generateWarehouses_ok config
  refine bind_eq_error.mpr (.inr ⟨rows, hrows, bind_eq_error.mpr (.inl ?_)⟩)
  refine bind_eq_error.mpr (.inl ?_)
  rw [hlength, raiseIf_pos h]
  rfl

/-- Each reason makes the run fail. -/
theorem Fails.simulate_eq (h : Fails config draws e) : simulate config draws = .error e := by
  cases h with
  | tooManyWarehouses h =>
    exact bind_eq_error.mpr (.inl (generateDimensions_fails draws.dimensions h))
  | nonePaid h =>
    obtain ⟨states, hstates, hnone⟩ := h
    obtain ⟨d, hd, hstates⟩ := bind_eq_ok.mp hstates
    refine bind_eq_error.mpr (.inr ⟨d, hd, bind_eq_error.mpr (.inl ?_)⟩)
    refine bind_eq_error.mpr (.inr ⟨states, hstates, bind_eq_error.mpr (.inl ?_)⟩)
    refine bind_eq_error.mpr (.inl (raiseIf_pos (List.filter_eq_nil_iff.mpr fun s hs => ?_)))
    rw [hnone s hs]
    exact Bool.false_ne_true
  | noneApproved h =>
    obtain ⟨payments, states, hpayments, hnone⟩ := h
    obtain ⟨states₀, hstates, hpayments⟩ := bind_eq_ok.mp hpayments
    obtain ⟨d, hd, hstates⟩ := bind_eq_ok.mp hstates
    refine bind_eq_error.mpr (.inr ⟨d, hd, bind_eq_error.mpr (.inl ?_)⟩)
    refine bind_eq_error.mpr (.inr ⟨states₀, hstates, ?_⟩)
    refine bind_eq_error.mpr (.inr ⟨_, hpayments, bind_eq_error.mpr (.inl ?_)⟩)
    refine bind_eq_error.mpr (.inl (raiseIf_pos (List.filter_eq_nil_iff.mpr fun p hp => ?_)))
    rw [hnone p hp]
    exact Bool.false_ne_true

/-- There is a reason to fail, or a dataset comes out. -/
theorem fails_or_coherent (config : SimulationConfig) (draws : Draws) :
    (∃ e, Fails config draws e) ∨
      ∃ tables, simulate config draws = .ok tables ∧ Coherent config tables := by
  rcases lt_or_ge config.scale.products config.scale.warehouses with hlt | hle
  · exact .inl ⟨_, .tooManyWarehouses hlt⟩
  obtain ⟨d, hdimensions⟩ := (generateDimensions_returns config draws.dimensions).mpr hle
  have hd := generateDimensions_ok hdimensions
  obtain ⟨states, hstates, hne, hnodup, hok⟩ := generateSessionState_ok hd draws.commerce
  have hsessions : sessionsOf config draws = .ok states :=
    bind_eq_ok.mpr ⟨d, hdimensions, hstates⟩
  by_cases hreached : ∃ s ∈ states, s.paymentReached = true
  case neg =>
    push Not at hreached
    refine .inl ⟨_, .nonePaid ⟨states, hsessions, fun s hs => ?_⟩⟩
    exact Bool.eq_false_iff.mpr (hreached s hs)
  obtain ⟨⟨payments, paid⟩, hpayments⟩ : ∃ x, generatePayments config draws.commerce states = .ok x :=
    (generatePayments_returns fun s hs => (hok s hs).1).mpr hreached
  have hpaid := generatePayments_ok hne hnodup hok hpayments
  by_cases happroved : ∃ p ∈ payments, p.approved = true
  case neg =>
    push Not at happroved
    refine .inl ⟨_, .noneApproved ⟨payments, paid, bind_eq_ok.mpr ⟨_, hsessions, hpayments⟩,
      fun p hp => ?_⟩⟩
    exact Bool.eq_false_iff.mpr (happroved p hp)
  obtain ⟨placed, horders⟩ := (generateOrders_returns hd hpaid).mpr happroved
  have hcommerce : ∃ c, generateCommerceEvents config draws.commerce d = .ok c :=
    ⟨_, bind_eq_ok.mpr ⟨states, hstates, bind_eq_ok.mpr ⟨_, hpayments,
      bind_eq_ok.mpr ⟨placed, horders, rfl⟩⟩⟩⟩
  obtain ⟨c, hcommerce⟩ := hcommerce
  obtain ⟨tables, htables, hcoherent⟩ :=
    generateOperationalData_ok hd (generateCommerceEvents_ok hd hcommerce) draws.operations
  exact .inr ⟨tables, bind_eq_ok.mpr ⟨d, hdimensions, bind_eq_ok.mpr ⟨c, hcommerce, htables⟩⟩,
    hcoherent⟩

end

end Paic.Simulator
