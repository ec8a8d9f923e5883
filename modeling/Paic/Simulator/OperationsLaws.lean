import Paic.Simulator.CommerceLaws

/-!
# What the operational tables hold

Every order has one shipment, handled after it was placed. The scans of a
shipment are numbered without a gap and follow one another in time.
-/

namespace Paic.Simulator

open Checks (bind_eq_ok pure_eq_ok mapM_ok mapM_returns mapM_mem mapM_map need_ok)
open Detection (Instant)
open Rounding (le_rint rint_le)
open Sorted (byKey byKey_perm mem_byKey)

-- ---------------------------------------------------------------------------
-- Spans of time
-- ---------------------------------------------------------------------------

theorem le_timedelta {x : Rat} {n unit : Int} (hunit : 0 ≤ unit) (h : (n : Rat) ≤ x) :
    n * unit ≤ timedelta x unit := by
  refine le_rint ?_
  rw [Int.cast_mul]
  exact mul_le_mul_of_nonneg_right h (by exact_mod_cast hunit)

theorem timedelta_le {x : Rat} {n unit : Int} (hunit : 0 ≤ unit) (h : x ≤ n) :
    timedelta x unit ≤ n * unit := by
  refine rint_le ?_
  rw [Int.cast_mul]
  exact mul_le_mul_of_nonneg_right h (by exact_mod_cast hunit)

-- ---------------------------------------------------------------------------
-- Shipments
-- ---------------------------------------------------------------------------

/-- What holds of the shipment of an order. -/
structure ShipmentOk (config : SimulationConfig) (d : Dimensions) (order : Order) (s : Shipment) :
    Prop where
  order_key : s.orderId = order.orderId
  warehouse : s.warehouseId ∈ d.warehouses.map Warehouse.warehouseId
  handled : order.orderedAt + 3 * hour ≤ s.shippedAt
  delivered : ∀ t ∈ s.deliveredAt, s.shippedAt + 14 * hour ≤ t ∧ t ≤ config.endAt
  status : s.status = if s.deliveredAt.isSome then "delivered" else "in_transit"
  late : s.late = s.deliveredAt.any fun t => s.promisedDeliveryAt < t

section
variable {config : SimulationConfig} {d : Dimensions}

theorem shipmentOf_ok {order : Order} {warehouseId : String} (draw : ShipmentDraw) (index : Nat)
    (region : RegionConfig) (h : warehouseId ∈ d.warehouses.map Warehouse.warehouseId) :
    ShipmentOk config d order (shipmentOf config draw index order region warehouseId) := by
  have hhour : (0 : Int) ≤ hour := by decide
  constructor
  case order_key => rfl
  case warehouse => exact h
  case handled =>
    refine (add_le_add_iff_left _).mpr (le_timedelta hhour ?_)
    rw [Int.cast_ofNat]
    refine uniform_ge _ ?_
    split <;> norm_num
  case delivered =>
    intro t ht
    simp only [shipmentOf, Option.mem_def, Option.ite_none_right_eq_some, Option.some.injEq] at ht
    obtain ⟨hle, rfl⟩ := ht
    refine ⟨(add_le_add_iff_left _).mpr (le_rint ?_), hle⟩
    generalize hx : max (6 / 10) draw.transit + _ = x
    have hdelay : (6 / 10 : Rat) ≤ x := by
      rw [← hx]
      refine le_add_of_le_of_nonneg (le_max_left ..) ?_
      split
      · exact (uniform_ge _ (by norm_num)).trans' (by norm_num)
      · exact le_rfl
    have hmul : (6 / 10 : Rat) * (day : Int) ≤ x * (day : Int) :=
      mul_le_mul_of_nonneg_right hdelay (by norm_num [day, hour, minute, second])
    exact le_trans (by norm_num [day, hour, minute, second]) hmul
  case status => rfl
  case late => rfl

/-- The first item of an order lies in a warehouse. -/
theorem firstWarehouse_ok {c : Commerce} (hd : DimensionsOk config d) (hc : CommerceOk config d c)
    {order : Order} (horder : order ∈ c.orders) : ∃ id ∈ d.warehouses.map Warehouse.warehouseId,
      firstWarehouse d.products c.orderItems order.orderId = some id := by
  obtain ⟨p, s, hok⟩ := hc.orders_ok order horder
  have hpos : 0 < (c.orderItems.filter fun item => item.orderId = order.orderId).length := by
    rw [hok.items]
    exact hok.item_count
  obtain ⟨item, hitem⟩ := List.exists_mem_of_length_pos hpos
  obtain ⟨hmem, hkey⟩ := List.mem_filter.mp hitem
  have hsorted : item ∈ byKey OrderItem.orderItemId c.orderItems := mem_byKey.mpr hmem
  obtain ⟨first, hfirst⟩ := Rows.find_of_mem hsorted (of_decide_eq_true hkey)
  obtain ⟨-, product, hproduct, hid, -⟩ := hc.items_ok first (mem_byKey.mp (Rows.find_key hfirst).1)
  obtain ⟨found, hfound⟩ := Rows.find_of_mem hproduct hid.symm
  refine ⟨found.warehouseId, hd.products_warehouse found (Rows.find_key hfound).1, ?_⟩
  exact Option.bind_eq_some_iff.mpr ⟨first, hfirst, Option.bind_eq_some_iff.mpr ⟨found, hfound, rfl⟩⟩

/-- `shipment_base` -/
def shipmentBase (d : Dimensions) (c : Commerce) : List (Order × String) :=
  c.orders.filterMap fun order =>
    (firstWarehouse d.products c.orderItems order.orderId).map (order, ·)

theorem shipmentBase_orders {c : Commerce} (hd : DimensionsOk config d) (hc : CommerceOk config d c) :
    (shipmentBase d c).map Prod.fst = c.orders := by
  refine Rows.map_fst_filterMap fun order horder => ?_
  obtain ⟨id, -, hid⟩ := firstWarehouse_ok hd hc horder
  exact ⟨id, hid⟩

theorem mem_shipmentBase {c : Commerce} (hd : DimensionsOk config d) (hc : CommerceOk config d c)
    (h : pair ∈ shipmentBase d c) :
    pair.1 ∈ c.orders ∧ pair.2 ∈ d.warehouses.map Warehouse.warehouseId := by
  obtain ⟨order, horder, hpair⟩ := List.mem_filterMap.mp h
  obtain ⟨id, hid, rfl⟩ := Option.map_eq_some_iff.mp hpair
  obtain ⟨id', hmem, hid'⟩ := firstWarehouse_ok hd hc horder
  obtain rfl := Option.some.inj (hid.symm.trans hid')
  exact ⟨horder, hmem⟩

theorem shipmentRow_ok {draw : Nat → ShipmentDraw} {row : (Order × String) × Nat}
    (h : row.1.2 ∈ d.warehouses.map Warehouse.warehouseId)
    (hrow : shipmentRow config draw row = .ok s) :
    s.shipmentId = "SHP-" ++ Numerals.padded 10 (row.2 + 1) ∧ ShipmentOk config d row.1.1 s := by
  obtain ⟨region, -, hrow⟩ := bind_eq_ok.mp hrow
  obtain rfl := pure_eq_ok.mp hrow
  exact ⟨rfl, shipmentOf_ok _ _ _ h⟩

/-- The orders, each with the status of its shipment. -/
theorem updateStatus_eq (shipments : List Shipment) (order : Order) :
    ∃ status, updateStatus shipments order = { order with status } := by
  unfold updateStatus
  split
  · exact ⟨_, rfl⟩
  · exact ⟨order.status, rfl⟩

theorem updateStatus_of_mem {shipments : List Shipment} {order : Order}
    (hnodup : (shipments.map Shipment.orderId).Nodup) (hs : s ∈ shipments)
    (hkey : s.orderId = order.orderId) :
    updateStatus shipments order = { order with status := s.status } := by
  rw [updateStatus, Rows.find_eq hnodup hs hkey]

/-- What holds of the shipments and the orders they belong to. -/
structure ShippedOk (config : SimulationConfig) (d : Dimensions) (c : Commerce)
    (shipments : List Shipment) (orders : List Order) : Prop where
  nodup : (shipments.map Shipment.shipmentId).Nodup
  /-- One to each order. -/
  orders_shipped : (shipments.map Shipment.orderId).Perm (c.orders.map Order.orderId)
  shipments_ok : ∀ s ∈ shipments, ∃ order ∈ c.orders, ShipmentOk config d order s
  orders_eq : orders = byKey Order.orderId (c.orders.map (updateStatus shipments))

/-- The shipments always come out. -/
theorem generateShipments_ok {c : Commerce} (hd : DimensionsOk config d) (hc : CommerceOk config d c)
    (draw : Nat → ShipmentDraw) : ∃ shipments orders,
      generateShipments config draw d c = .ok (byKey Shipment.shipmentId shipments, orders) ∧
        ShippedOk config d c shipments orders := by
  have hreturns : ∃ rows, (shipmentBase d c).zipIdx.mapM (shipmentRow config draw) = .ok rows := by
    refine mapM_returns.mpr fun row hrow => ?_
    obtain ⟨horder, -⟩ := mem_shipmentBase hd hc (Rows.mem_zipIdx hrow)
    obtain ⟨p, s, hok⟩ := hc.orders_ok row.1.1 horder
    obtain ⟨region, hregion⟩ := SimulationConfig.region_isSome hok.region
    exact ⟨_, bind_eq_ok.mpr ⟨region, need_ok.mpr hregion, rfl⟩⟩
  obtain ⟨rows, hrows⟩ := hreturns
  have hok : ∀ row s, shipmentRow config draw row = .ok s →
      s.shipmentId = "SHP-" ++ Numerals.padded 10 (row.2 + 1) ∧ s.orderId = row.1.1.orderId := by
    intro row s hrow
    obtain ⟨region, -, hrow⟩ := bind_eq_ok.mp hrow
    obtain rfl := pure_eq_ok.mp hrow
    exact ⟨rfl, rfl⟩
  refine ⟨rows, _, bind_eq_ok.mpr ⟨rows, hrows, rfl⟩, ?_⟩
  constructor
  case nodup => exact mapM_numbered_nodup "SHP-" 10 hrows fun row s hrow => (hok row s hrow).1
  case orders_shipped =>
    refine .of_eq ?_
    have hzip : (shipmentBase d c).zipIdx.map (fun row => row.1.1.orderId) =
        ((shipmentBase d c).map Prod.fst).map Order.orderId := by
      conv_rhs => rw [← List.zipIdx_map_fst 0 (shipmentBase d c), List.map_map, List.map_map]
      rfl
    rw [mapM_map hrows fun row s hrow => (hok row s hrow).2, hzip, shipmentBase_orders hd hc]
  case shipments_ok =>
    intro s hs
    obtain ⟨row, hrow, hrow_ok⟩ := (mapM_mem hrows).mp hs
    obtain ⟨horder, hwarehouse⟩ := mem_shipmentBase hd hc (Rows.mem_zipIdx hrow)
    exact ⟨row.1.1, horder, (shipmentRow_ok hwarehouse hrow_ok).2⟩
  case orders_eq => rfl

end

-- ---------------------------------------------------------------------------
-- Scans
-- ---------------------------------------------------------------------------

/-- A scan is made after the one before it. -/
theorem scansOf_chain (draw : ShipmentScanDraw) {s : Shipment}
    (h : ∀ t ∈ s.deliveredAt, s.shippedAt + 14 * hour ≤ t) :
    ((scansOf draw s).map Prod.snd).IsChain (· < ·) := by
  have hminute : (0 : Int) ≤ minute := by decide
  have hpacked : 90 * minute ≤ timedelta (uniform draw.packed (15 / 10) (35 / 10)) hour := by
    refine le_rint ?_
    have hge := uniform_ge draw.packed (show (15 / 10 : Rat) ≤ 35 / 10 by norm_num)
    have hmul := mul_le_mul_of_nonneg_right hge
      (show (0 : Rat) ≤ (hour : Int) by norm_num [hour, minute, second])
    exact le_trans (by norm_num [hour, minute, second]) hmul
  have hdeparted_le : timedelta (uniform draw.departed 20 75) minute ≤ 75 * minute := by
    refine timedelta_le hminute ?_
    rw [Int.cast_ofNat]
    exact uniform_le _ (by norm_num)
  have hdeparted_ge : 20 * minute ≤ timedelta (uniform draw.departed 20 75) minute := by
    refine le_timedelta hminute ?_
    rw [Int.cast_ofNat]
    exact uniform_ge _ (by norm_num)
  have hout : 2 * hour ≤ timedelta (uniform draw.outForDelivery 2 8) hour := by
    refine le_timedelta (by decide) ?_
    rw [Int.cast_ofNat]
    exact uniform_ge _ (by norm_num)
  have hpos : (0 : Int) < minute := by decide
  have hhour : hour = 60 * minute := rfl
  have hsent : s.shippedAt - timedelta (uniform draw.packed (15 / 10) (35 / 10)) hour <
      s.shippedAt - timedelta (uniform draw.departed 20 75) minute := by linarith
  have hhandoff : s.shippedAt - timedelta (uniform draw.departed 20 75) minute < s.shippedAt := by
    linarith
  cases hdelivered : s.deliveredAt with
  | none =>
    simp only [scansOf, hdelivered, List.map_cons, List.map_nil]
    exact .cons_cons hsent (.cons_cons hhandoff (.singleton _))
  | some t =>
    have ht := h t (Option.mem_def.mpr hdelivered)
    simp only [scansOf, hdelivered, List.map_cons, List.map_nil, List.cons_append, List.nil_append]
    refine .cons_cons hsent (.cons_cons hhandoff (.cons_cons ?_ (.cons_cons ?_ (.singleton _))))
    · exact lt_of_lt_of_le (by linarith) (le_max_left ..)
    · exact max_lt (by linarith) (by linarith)

/-- What holds of a scan of a shipment. -/
structure ScanOk (s : Shipment) (e : ScanEvent) : Prop where
  shipment_key : e.shipmentId = s.shipmentId
  order_key : e.orderId = s.orderId
  warehouse : e.warehouseId = s.warehouseId
  received : e.platformReceivedAt = e.sourceEventAt + e.ingestionLagSeconds * second
  batch : e.connectorBatchSeconds ≤ e.ingestionLagSeconds
  lag : 0 < e.ingestionLagSeconds

theorem scanEvent_ok (draw : ScanDraw) (s : Shipment) (index : Nat) (scan : String × Instant)
    (id : String) : ScanOk s (scanEvent draw s index scan id) := by
  have hprocessing : 1 ≤ ⌊clip draw.processing 1 45⌋ := by
    refine Int.le_floor.mpr ?_
    rw [Int.cast_one]
    exact clip_ge (by norm_num)
  constructor
  case shipment_key => rfl
  case order_key => rfl
  case warehouse => rfl
  case received => rfl
  case batch => exact le_add_of_nonneg_right (by linarith)
  case lag =>
    have hbatch : (0 : Int) ≤ (connectorBatches.choose draw.connectorBatch : Nat) :=
      Int.natCast_nonneg _
    exact add_pos_of_nonneg_of_pos hbatch (by linarith)

/-- The shipments, each with its scans before they have their numbers. -/
def scanBlocks (draw : Nat → ShipmentScanDraw) (shipments : List Shipment) :
    List (Shipment × List (String → ScanEvent)) :=
  shipments.mapIdx fun position shipment =>
    (shipment, (scansOf (draw position) shipment).mapIdx fun index scan =>
      scanEvent ((draw position).scan index) shipment index scan)

theorem generateScanEvents_eq (draw : Nat → ShipmentScanDraw) (shipments : List Shipment) :
    generateScanEvents draw shipments =
      (byKey ScanEvent.scanEventId (((scanBlocks draw shipments).flatMap Prod.snd).mapIdx
          fun index event => event ("SCN-" ++ Numerals.padded 12 (index + 1))),
        byKey Shipment.shipmentId ((scanBlocks draw shipments).map fun block =>
          { block.1 with scanCount := block.2.length })) := by
  have hscans : (shipments.mapIdx fun position shipment =>
      (scansOf (draw position) shipment).mapIdx fun index scan =>
        scanEvent ((draw position).scan index) shipment index scan) =
      (scanBlocks draw shipments).map Prod.snd :=
    List.ext_getElem (by simp [scanBlocks]) fun i _ _ => by simp [scanBlocks]
  have hupdated : shipments.zipWith (fun shipment (events : List (String → ScanEvent)) =>
      { shipment with scanCount := events.length }) ((scanBlocks draw shipments).map Prod.snd) =
      (scanBlocks draw shipments).map fun block => { block.1 with scanCount := block.2.length } :=
    List.ext_getElem (by simp [scanBlocks]) fun i _ _ => by simp [scanBlocks]
  unfold generateScanEvents
  dsimp only
  rw [hscans, hupdated, List.flatMap_def]

theorem mem_scanBlocks {draw : Nat → ShipmentScanDraw} {shipments : List Shipment}
    {block : Shipment × List (String → ScanEvent)} (h : block ∈ scanBlocks draw shipments) :
    block.1 ∈ shipments ∧ ∃ draw', block.2 = (scansOf draw' block.1).mapIdx fun index scan =>
      scanEvent (draw'.scan index) block.1 index scan := by
  obtain ⟨position, s, hs, rfl⟩ := Rows.mem_mapIdx h
  exact ⟨hs, draw position, rfl⟩

theorem scanBlocks_shipments (draw : Nat → ShipmentScanDraw) (shipments : List Shipment) :
    (scanBlocks draw shipments).map Prod.fst = shipments := by
  exact List.ext_getElem (by simp [scanBlocks]) fun i _ _ => by simp [scanBlocks]

/-- What holds of the scans of the shipments. -/
structure ScannedOk (shipments : List Shipment) (scans : List ScanEvent) : Prop where
  nodup : (scans.map ScanEvent.scanEventId).Nodup
  scans_ok : ∀ e ∈ scans, ∃ s ∈ shipments, ScanOk s e
  count : ∀ s ∈ shipments, 3 ≤ s.scanCount
  /-- The scans of a shipment have the numbers from one to its count, and are made
  in their order. -/
  numbers : ∀ s ∈ shipments, ∃ times : List Instant, times.length = s.scanCount ∧
    times.IsChain (· < ·) ∧ ((scans.filter fun e => e.shipmentId = s.shipmentId).map
      fun e => (e.sequenceNumber, e.sourceEventAt)).Perm (times.mapIdx fun i t => (i + 1, t))

theorem three_le_scans (draw : ShipmentScanDraw) (s : Shipment) : 3 ≤ (scansOf draw s).length := by
  unfold scansOf
  dsimp only
  split <;> simp

theorem generateScanEvents_ok (draw : Nat → ShipmentScanDraw) {shipments : List Shipment}
    (hnodup : (shipments.map Shipment.shipmentId).Nodup)
    (hdelivered : ∀ s ∈ shipments, ∀ t ∈ s.deliveredAt, s.shippedAt + 14 * hour ≤ t) :
    ScannedOk (generateScanEvents draw shipments).2 (generateScanEvents draw shipments).1 := by
  rw [generateScanEvents_eq]
  have hblocks : ((scanBlocks draw shipments).map fun block => block.1.shipmentId).Nodup := by
    have h := hnodup
    rw [← scanBlocks_shipments draw shipments, List.map_map] at h
    exact h
  have hkey : ∀ block ∈ scanBlocks draw shipments, ∀ event ∈ block.2,
      (event "").shipmentId = block.1.shipmentId := by
    intro block hblock event hevent
    obtain ⟨-, draw', heq⟩ := mem_scanBlocks hblock
    rw [heq] at hevent
    obtain ⟨index, scan, -, rfl⟩ := Rows.mem_mapIdx hevent
    rfl
  -- nothing but its own number of an event depends on it
  have hsame : ∀ event ∈ (scanBlocks draw shipments).flatMap Prod.snd, ∀ id,
      (event id).shipmentId = (event "").shipmentId ∧
        (event id).sequenceNumber = (event "").sequenceNumber ∧
        (event id).sourceEventAt = (event "").sourceEventAt ∧ (event id).scanEventId = id := by
    intro event hevent id
    obtain ⟨block, hblock, hevent⟩ := List.mem_flatMap.mp hevent
    obtain ⟨-, draw', heq⟩ := mem_scanBlocks hblock
    rw [heq] at hevent
    obtain ⟨index, scan, -, rfl⟩ := Rows.mem_mapIdx hevent
    exact ⟨rfl, rfl, rfl, rfl⟩
  constructor
  case nodup =>
    refine byKey_nodup ?_
    have hids : (((scanBlocks draw shipments).flatMap Prod.snd).mapIdx fun index event =>
        (event ("SCN-" ++ Numerals.padded 12 (index + 1)) : ScanEvent)).map ScanEvent.scanEventId =
        (List.range ((scanBlocks draw shipments).flatMap Prod.snd).length).map fun index =>
          "SCN-" ++ Numerals.padded 12 (index + 1) := by
      refine List.ext_getElem (by simp) fun i hi _ => ?_
      rw [List.getElem_map, List.getElem_mapIdx, List.getElem_map, List.getElem_range]
      exact (hsame _ (List.getElem_mem _) _).2.2.2
    rw [hids]
    exact numbers_nodup _ _ List.nodup_range
  case scans_ok =>
    intro e he
    obtain ⟨index, event, hevent, rfl⟩ := Rows.mem_mapIdx (mem_byKey.mp he)
    obtain ⟨block, hblock, hevent⟩ := List.mem_flatMap.mp hevent
    refine ⟨_, mem_byKey.mpr (List.mem_map.mpr ⟨block, hblock, rfl⟩), ?_⟩
    obtain ⟨-, draw', heq⟩ := mem_scanBlocks hblock
    rw [heq] at hevent
    obtain ⟨i, scan, -, rfl⟩ := Rows.mem_mapIdx hevent
    have h := scanEvent_ok (draw'.scan i) block.1 i scan ("SCN-" ++ Numerals.padded 12 (index + 1))
    exact ⟨h.shipment_key, h.order_key, h.warehouse, h.received, h.batch, h.lag⟩
  case count =>
    intro s hs
    obtain ⟨block, hblock, rfl⟩ := List.mem_map.mp (mem_byKey.mp hs)
    obtain ⟨-, draw', heq⟩ := mem_scanBlocks hblock
    have hlength := congrArg List.length heq
    rw [List.length_mapIdx] at hlength
    exact (three_le_scans draw' block.1).trans hlength.ge
  case numbers =>
    intro s hs
    obtain ⟨block, hblock, rfl⟩ := List.mem_map.mp (mem_byKey.mp hs)
    obtain ⟨hmem, draw', heq⟩ := mem_scanBlocks hblock
    have hown := Rows.flatMap_filter_block Shipment.shipmentId
      (fun event : String → ScanEvent => (event "").shipmentId) hkey hblocks hblock
    have hrows : (((scanBlocks draw shipments).flatMap Prod.snd).mapIdx fun index event =>
        (event ("SCN-" ++ Numerals.padded 12 (index + 1)) : ScanEvent)).map
          (fun e => (e.shipmentId, e.sequenceNumber, e.sourceEventAt)) =
        ((scanBlocks draw shipments).flatMap Prod.snd).map fun event =>
          ((event "").shipmentId, (event "").sequenceNumber, (event "").sourceEventAt) := by
      refine Rows.map_mapIdx_mem fun i event hevent => ?_
      obtain ⟨hshipment, hnumber, htime, -⟩ :=
        hsame event hevent ("SCN-" ++ Numerals.padded 12 (i + 1))
      rw [hshipment, hnumber, htime]
    refine ⟨(scansOf draw' block.1).map Prod.snd, ?_,
      scansOf_chain draw' (hdelivered block.1 hmem), ?_⟩
    · rw [heq, List.length_map, List.length_mapIdx]
    refine (((byKey_perm _ _).filter _).map _).trans (.of_eq ?_)
    calc ((((scanBlocks draw shipments).flatMap Prod.snd).mapIdx fun index event =>
          (event ("SCN-" ++ Numerals.padded 12 (index + 1)) : ScanEvent)).filter fun e =>
            e.shipmentId = block.1.shipmentId).map (fun e => (e.sequenceNumber, e.sourceEventAt))
        = (((((scanBlocks draw shipments).flatMap Prod.snd).mapIdx fun index event =>
            (event ("SCN-" ++ Numerals.padded 12 (index + 1)) : ScanEvent)).map
              fun e => (e.shipmentId, e.sequenceNumber, e.sourceEventAt)).filter
                fun row => row.1 = block.1.shipmentId).map Prod.snd := by
          rw [List.filter_map, List.map_map]
          rfl
      _ = (((scanBlocks draw shipments).flatMap Prod.snd).filter fun event =>
            (event "").shipmentId = block.1.shipmentId).map fun event =>
              ((event "").sequenceNumber, (event "").sourceEventAt) := by
          rw [hrows, List.filter_map, List.map_map]
          rfl
      _ = block.2.map fun event => ((event "").sequenceNumber, (event "").sourceEventAt) := by
          rw [hown]
      _ = ((scansOf draw' block.1).map Prod.snd).mapIdx fun i t => (i + 1, t) := by
          rw [heq]
          exact List.ext_getElem (by simp) fun i _ _ => by simp [scanEvent]

/-- Shipments have nothing new but their counts. -/
theorem mem_scanned {draw : Nat → ShipmentScanDraw} {shipments : List Shipment} {s' : Shipment}
    (h : s' ∈ (generateScanEvents draw shipments).2) :
    ∃ s ∈ shipments, ∃ scanCount, s' = { s with scanCount } := by
  rw [generateScanEvents_eq] at h
  obtain ⟨block, hblock, rfl⟩ := List.mem_map.mp (mem_byKey.mp h)
  exact ⟨block.1, (mem_scanBlocks hblock).1, _, rfl⟩

theorem scanned_map {g : Shipment → β} (hg : ∀ s scanCount, g { s with scanCount } = g s)
    (draw : Nat → ShipmentScanDraw) (shipments : List Shipment) :
    ((generateScanEvents draw shipments).2.map g).Perm (shipments.map g) := by
  have hshipments := congrArg (List.map g) (scanBlocks_shipments draw shipments)
  rw [List.map_map] at hshipments
  rw [generateScanEvents_eq, ← hshipments]
  refine ((byKey_perm _ _).map g).trans (.of_eq ?_)
  rw [List.map_map]
  exact List.map_congr_left fun block _ => hg block.1 _

end Paic.Simulator
