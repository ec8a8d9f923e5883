import Paic.Simulator.OperationsLaws

/-!
# What the stock, the returns and the logs hold

Stock balances on every day and is filled up in time. An order is returned once
at most, after its delivery, and each return has one refund. Feeds, pipelines
and deployments have records of their own on every day they run.
-/

namespace Paic.Simulator

open Detection (Instant)
open Sorted (byKey byKey_perm mem_byKey)

-- ---------------------------------------------------------------------------
-- Stock
-- ---------------------------------------------------------------------------

/-- What holds of a product's row of a day. -/
structure StockOk (p : Product) (row : InventorySnapshot) : Prop where
  product_key : row.productId = p.productId
  warehouse : row.warehouseId = p.warehouseId
  balance : row.availableQuantity = row.onHandQuantity - row.reservedQuantity
  stocked : (p.reorderPoint : Int) ≤ row.onHandQuantity
  reserved : 0 ≤ row.reservedQuantity
  available : 0 ≤ row.availableQuantity
  feed : |row.feedReportedQuantity - row.availableQuantity| ≤ 1

section
variable {config : SimulationConfig} {draws : InventoryDraws}

theorem restocked_ge (left : Int) (reorderPoint draw : Nat) (h : 0 ≤ left) :
    (reorderPoint : Int) ≤
      left + if left < reorderPoint then (reorderPoint * integers draw 3 6 : Int) else 0 := by
  split
  · have hfactor : (1 : Int) ≤ integers draw 3 6 := by
      have hge : 3 ≤ integers draw 3 6 := integers_ge
      omega
    have hmul := le_mul_of_one_le_right (Int.natCast_nonneg reorderPoint) hfactor
    linarith
  · linarith

theorem reported_near {available noise : Int} (h : 0 ≤ available) (hnoise : noise ∈ feedNoises) :
    |max (available + noise) 0 - available| ≤ 1 := by
  have hcases : noise = -1 ∨ noise = 0 ∨ noise = 1 := by
    simp only [feedNoises, List.mem_cons, List.not_mem_nil, or_false] at hnoise
    omega
  rw [abs_le]
  omega

theorem snapshot_ok (demand : Nat) (p : Product) (index dayOffset count : Nat) (onHand : Int) :
    StockOk p (snapshot config draws demand p index dayOffset count onHand) := by
  have hstocked := restocked_ge (max (onHand - demand) 0) p.reorderPoint
    (draws.restock dayOffset index) (le_max_right ..)
  have hreorder := Int.natCast_nonneg p.reorderPoint
  constructor
  case product_key => rfl
  case warehouse => rfl
  case balance => rfl
  case stocked => exact hstocked
  case reserved => exact le_min (Int.natCast_nonneg _) (hreorder.trans hstocked)
  case available => exact sub_nonneg.mpr (min_le_right ..)
  case feed => exact reported_near (sub_nonneg.mpr (min_le_right ..)) (choice_mem _ _)

theorem mem_inventoryDays {c : Commerce} {products : List Product} {days dayOffset : Nat}
    {onHand : List Int} (h : row ∈ inventoryDays config draws c products days dayOffset onHand) :
    ∃ p ∈ products, StockOk p row := by
  induction days generalizing dayOffset onHand with
  | zero => exact absurd h List.not_mem_nil
  | succ days ih =>
    rcases List.mem_append.mp h with h | h
    · obtain ⟨index, ⟨p, quantity⟩, hp, rfl⟩ := Rows.mem_mapIdx h
      exact ⟨p, (List.of_mem_zip hp).1, snapshot_ok _ _ _ _ _ _⟩
    · exact ih h

/-- The rows of all days are numbered one after the other. -/
theorem inventoryDays_ids {c : Commerce} {products : List Product} {days dayOffset : Nat}
    {onHand : List Int} (h : onHand.length = products.length) :
    (inventoryDays config draws c products days dayOffset onHand).map InventorySnapshot.snapshotId =
      (List.range' (dayOffset * products.length) (days * products.length)).map fun i =>
        "INV-" ++ Numerals.padded 12 (i + 1) := by
  induction days generalizing dayOffset onHand with
  | zero => rw [Nat.zero_mul]; rfl
  | succ days ih =>
    have hlength : (inventoryDay config draws c products dayOffset onHand).length =
        products.length := by
      rw [inventoryDay, List.length_mapIdx, List.length_zip, h, Nat.min_self]
    have hday : (inventoryDay config draws c products dayOffset onHand).map
        InventorySnapshot.snapshotId = (List.range' (dayOffset * products.length)
          products.length).map fun i => "INV-" ++ Numerals.padded 12 (i + 1) := by
      rw [List.range'_eq_map_range, List.map_map]
      refine List.ext_getElem (by simp [hlength]) fun i _ _ => ?_
      simp [inventoryDay, snapshot]
    rw [inventoryDays, List.map_append, hday, ih (by rw [List.length_map, hlength]),
      ← List.map_append, Nat.succ_mul dayOffset, List.range'_append_1, Nat.succ_mul days,
      Nat.add_comm products.length]

theorem generateInventory_ok (d : Dimensions) (c : Commerce) :
    ((generateInventory config draws d c).map InventorySnapshot.snapshotId).Nodup ∧
      ∀ row ∈ generateInventory config draws d c, ∃ p ∈ d.products, StockOk p row := by
  refine ⟨byKey_nodup ?_, fun row hrow => mem_inventoryDays (mem_byKey.mp hrow)⟩
  rw [inventoryDays_ids (List.length_mapIdx ..)]
  exact numbers_nodup _ _ List.nodup_range'

theorem generateInventory_ne {d : Dimensions} {c : Commerce} (h : d.products ≠ []) :
    generateInventory config draws d c ≠ [] := by
  refine byKey_ne_nil fun hnil => ?_
  have hids := congrArg (List.map InventorySnapshot.snapshotId) hnil
  rw [inventoryDays_ids (List.length_mapIdx ..), List.map_nil, List.map_eq_nil_iff,
    List.range'_eq_nil_iff] at hids
  have hdays := config.durationDays_ge
  have hproducts := List.length_pos_of_ne_nil h
  exact absurd hids (Nat.mul_pos hdays hproducts).ne'

end

-- ---------------------------------------------------------------------------
-- Returns
-- ---------------------------------------------------------------------------

/-- What holds of the return of an item. -/
structure ReturnOk (config : SimulationConfig) (orders : List Order) (items : List OrderItem)
    (shipments : List Shipment) (r : Return) : Prop where
  item : ∃ item ∈ items, r.orderItemId = item.orderItemId ∧ r.orderId = item.orderId ∧
    r.refundAmount = rounded item.lineTotal
  order : ∃ o ∈ orders, r.orderId = o.orderId ∧ r.customerId = o.customerId
  delivered : ∃ s ∈ shipments, r.orderId = s.orderId ∧ ∃ t ∈ s.deliveredAt, t + day ≤ r.requestedAt
  requested : r.requestedAt ≤ config.endAt
  received : ∀ t ∈ r.receivedAt, r.requestedAt + 2 * day ≤ t ∧ t ≤ config.endAt
  status : r.status = if r.receivedAt.isSome then "received" else "in_transit"

section
variable {config : SimulationConfig} {d : Dimensions} {orders : List Order}
  {items : List OrderItem} {shipments : List Shipment}

theorem mem_candidateItems {row : CandidateItem}
    (h : row ∈ candidateItems d orders items shipments) : row.item ∈ items ∧
      row.order ∈ orders ∧ row.item.orderId = row.order.orderId ∧
      ∃ s ∈ shipments, row.item.orderId = s.orderId ∧ row.deliveredAt ∈ s.deliveredAt := by
  obtain ⟨item, hitem, h⟩ := List.mem_flatMap.mp h
  obtain ⟨order, horder, h⟩ := List.mem_flatMap.mp h
  obtain ⟨s, hs, h⟩ := List.mem_flatMap.mp h
  obtain ⟨product, -, h⟩ := List.mem_flatMap.mp h
  obtain ⟨customer, -, h⟩ := List.mem_filterMap.mp h
  obtain ⟨deliveredAt, hdelivered, rfl⟩ := Option.map_eq_some_iff.mp h
  obtain ⟨horder, hkey⟩ := List.mem_filter.mp horder
  obtain ⟨hs, hshipment⟩ := List.mem_filter.mp hs
  exact ⟨hitem, horder, (of_decide_eq_true hkey).symm, s, hs,
    (of_decide_eq_true hshipment).2.symm, hdelivered⟩

theorem returnOf_ok {draw : ReturnDraw} {row : CandidateItem} {id : String}
    (hrow : row ∈ candidateItems d orders items shipments)
    (h : returnOf config draw row id = some r) :
    r.returnId = id ∧ r.orderId = row.item.orderId ∧ ReturnOk config orders items shipments r := by
  obtain ⟨hitem, horder, hkey, s, hs, hshipment, hdelivered⟩ := mem_candidateItems hrow
  have hday : (0 : Int) ≤ day := by decide
  unfold returnOf at h
  dsimp only at h
  split at h
  · exact absurd h (by rintro ⟨⟩)
  · split at h
    · exact absurd h (by rintro ⟨⟩)
    · next hlate =>
      obtain rfl := Option.some.inj h
      refine ⟨rfl, rfl, ?_⟩
      constructor
      case item => exact ⟨row.item, hitem, rfl, rfl, rfl⟩
      case order => exact ⟨row.order, horder, hkey, rfl⟩
      case delivered =>
        refine ⟨s, hs, hshipment, row.deliveredAt, hdelivered, (add_le_add_iff_left _).mpr ?_⟩
        have hge := le_timedelta (n := 1) hday
          (show ((1 : Int) : Rat) ≤ uniform draw.requested 1 14 by
            rw [Int.cast_one]
            exact uniform_ge _ (by norm_num))
        rwa [one_mul] at hge
      case requested => exact not_lt.mp hlate
      case received =>
        intro t ht
        split at ht
        · next hle =>
          obtain rfl := Option.some.inj ht
          refine ⟨(add_le_add_iff_left _).mpr (le_timedelta hday ?_), hle⟩
          rw [Int.cast_ofNat]
          exact uniform_ge _ (by norm_num)
        · exact absurd ht (by rintro ⟨⟩)
      case status => rfl

/-- What the loop keeps: numbers one after the other, and an order once at most. -/
structure ReturnsOk (config : SimulationConfig) (orders : List Order) (items : List OrderItem)
    (shipments : List Shipment) (returns : List Return) : Prop where
  ids : returns.map Return.returnId =
    (List.range returns.length).map fun i => "RET-" ++ Numerals.padded 10 (i + 1)
  orders_nodup : (returns.map Return.orderId).Nodup
  returns_ok : ∀ r ∈ returns, ReturnOk config orders items shipments r

theorem ReturnsOk.append {returns : List Return} (h : ReturnsOk config orders items shipments returns)
    (hid : r.returnId = "RET-" ++ Numerals.padded 10 (returns.length + 1))
    (horder : r.orderId ∉ returns.map Return.orderId)
    (hok : ReturnOk config orders items shipments r) :
    ReturnsOk config orders items shipments (returns ++ [r]) where
  ids := by
    rw [List.map_append, h.ids, List.length_append, List.length_singleton, List.range_succ,
      List.map_append, List.map_singleton, List.map_singleton, hid]
  orders_nodup := by
    rw [List.map_append, List.map_singleton]
    exact List.nodup_append'.mpr ⟨h.orders_nodup, List.nodup_singleton _,
      List.disjoint_singleton.mpr horder⟩
  returns_ok := by
    intro r' hr'
    rcases List.mem_append.mp hr' with hr' | hr'
    · exact h.returns_ok r' hr'
    · rw [List.mem_singleton.mp hr']
      exact hok

theorem returnLoop_ok {draw : Nat → ReturnDraw} {position : Nat} {rest : List CandidateItem}
    {returns : List Return} (hrest : ∀ row ∈ rest, row ∈ candidateItems d orders items shipments)
    (h : ReturnsOk config orders items shipments returns) :
    ReturnsOk config orders items shipments (returnLoop config draw position rest returns) := by
  induction rest generalizing position returns with
  | nil => exact h
  | cons row rest ih =>
    have hrow := hrest row (List.mem_cons_self ..)
    have hrest := fun row' hrow' => hrest row' (List.mem_cons_of_mem _ hrow')
    rw [returnLoop]
    split
    · exact ih hrest h
    · next hnew =>
      split
      · next r hr =>
        obtain ⟨hid, horder, hok⟩ := returnOf_ok hrow hr
        refine ih hrest (h.append hid ?_ hok)
        rw [horder]
        exact hnew
      · exact ih hrest h

-- ---------------------------------------------------------------------------
-- Refunds
-- ---------------------------------------------------------------------------

/-- What holds of the refund of a return. -/
structure RefundOk (config : SimulationConfig) (r : Return) (f : Refund) : Prop where
  return_key : f.returnId = r.returnId
  order_key : f.orderId = r.orderId
  amount : f.amount = r.refundAmount
  initiated : r.receivedAt.getD r.requestedAt ≤ f.initiatedAt
  completed : ∀ t ∈ f.completedAt, r.receivedAt.isSome = true ∧ f.initiatedAt + 2 * hour ≤ t ∧
    t ≤ config.endAt
  status : f.status = if f.completedAt.isSome then "completed" else "pending"

theorem refundOf_ok (draw : RefundDraw) (index : Nat) (r : Return) :
    RefundOk config r (refundOf config draw index r) := by
  have hhour : (0 : Int) ≤ hour := by decide
  constructor
  case return_key => rfl
  case order_key => rfl
  case amount => rfl
  case initiated =>
    refine le_add_of_nonneg_right (Rounding.rint_nonneg (mul_nonneg ?_ (by exact_mod_cast hhour)))
    exact (uniform_ge draw.initiated (show (5 / 10 : Rat) ≤ 12 by norm_num)).trans' (by norm_num)
  case completed =>
    intro t ht
    simp only [refundOf] at ht
    split at ht
    · next hcompletes =>
      obtain rfl := Option.some.inj ht
      refine ⟨hcompletes.1.1, (add_le_add_iff_left _).mpr (le_timedelta hhour ?_), hcompletes.2⟩
      rw [Int.cast_ofNat]
      exact uniform_ge _ (by norm_num)
    · exact absurd ht (by rintro ⟨⟩)
  case status => rfl

/-- What holds of the returns with their refunds, one to each. -/
structure RefundsOk (config : SimulationConfig) (orders : List Order) (items : List OrderItem)
    (shipments : List Shipment) (returns : List Return) (refunds : List Refund) : Prop where
  returns_nodup : (returns.map Return.returnId).Nodup
  orders_nodup : (returns.map Return.orderId).Nodup
  returns_ok : ∀ r ∈ returns, ReturnOk config orders items shipments r
  refunds_nodup : (refunds.map Refund.refundId).Nodup
  refunded : (refunds.map Refund.returnId).Perm (returns.map Return.returnId)
  refunds_ok : ∀ f ∈ refunds, ∃ r ∈ returns, RefundOk config r f

theorem generateReturnsAndRefunds_ok (draws : OperationDraws) (d : Dimensions) (orders : List Order)
    (items : List OrderItem) (shipments : List Shipment) :
    RefundsOk config orders items shipments
      (generateReturnsAndRefunds config draws d orders items shipments).1
      (generateReturnsAndRefunds config draws d orders items shipments).2 := by
  have hloop : ReturnsOk config orders items shipments
      (returnLoop config draws.return_ 0 (candidateItems d orders items shipments) []) :=
    returnLoop_ok (fun _ h => h) ⟨rfl, .nil, fun _ h => absurd h List.not_mem_nil⟩
  have hreturns : (generateReturnsAndRefunds config draws d orders items shipments).1 =
      byKey Return.returnId
        (returnLoop config draws.return_ 0 (candidateItems d orders items shipments) []) := rfl
  have hrefunds : (generateReturnsAndRefunds config draws d orders items shipments).2 =
      byKey Refund.refundId ((generateReturnsAndRefunds config draws d orders items shipments).1.mapIdx
        fun index row => refundOf config (draws.refund index) index row) := rfl
  rw [hrefunds]
  generalize (generateReturnsAndRefunds config draws d orders items shipments).1 = returns at hreturns ⊢
  subst hreturns
  have hperm := byKey_perm Return.returnId
    (returnLoop config draws.return_ 0 (candidateItems d orders items shipments) [])
  constructor
  case returns_nodup =>
    refine byKey_nodup ?_
    rw [hloop.ids]
    exact numbers_nodup _ _ List.nodup_range
  case orders_nodup => exact (hperm.map _).nodup_iff.mpr hloop.orders_nodup
  case returns_ok => exact fun r hr => hloop.returns_ok r (mem_byKey.mp hr)
  case refunds_nodup => exact byKey_nodup (numbered_nodup fun _ _ => rfl)
  case refunded =>
    refine ((byKey_perm _ _).map _).trans (.of_eq ?_)
    exact List.ext_getElem (by simp) fun i _ _ => by simp [refundOf]
  case refunds_ok =>
    intro f hf
    obtain ⟨index, r, hr, rfl⟩ := Rows.mem_mapIdx (mem_byKey.mp hf)
    exact ⟨r, hr, refundOf_ok _ _ _⟩

end

-- ---------------------------------------------------------------------------
-- Feeds, pipelines and deployments
-- ---------------------------------------------------------------------------

/-- What holds of the records of feeds, pipelines and deployments. -/
structure LogsOk (config : SimulationConfig) (sellers : List Seller) (feeds : List SellerFeedRun)
    (pipelines : List PipelineRun) (deployments : List Deployment) : Prop where
  feeds_ne : feeds ≠ []
  feeds_nodup : (feeds.map SellerFeedRun.feedRunId).Nodup
  feeds_ok : ∀ f ∈ feeds, f.sellerId ∈ sellers.map Seller.sellerId ∧ f.startedAt ≤ f.completedAt ∧
    f.recordsRejected ≤ f.recordsReceived
  pipelines_ne : pipelines ≠ []
  pipelines_nodup : (pipelines.map PipelineRun.pipelineRunId).Nodup
  pipelines_ok : ∀ p ∈ pipelines, p.pipelineName ∈ config.pipelines ∧ p.startedAt ≤ p.completedAt
  deployments_ne : deployments ≠ []
  deployments_nodup : (deployments.map Deployment.deploymentId).Nodup
  deployments_ok : ∀ p ∈ deployments, p.service ∈ config.services ∧ config.startAt ≤ p.deployedAt ∧
    p.deployedAt < config.endAt

section
variable {config : SimulationConfig}

/-- Rows that take their numbers at the end. -/
theorem numbered_rows_nodup {rows : List (String → α)} {key : α → String} {label : String}
    {width : Nat} (h : ∀ row ∈ rows, ∀ id, key (row id) = id) :
    ((rows.mapIdx fun index row => row (label ++ Numerals.padded width (index + 1))).map key).Nodup := by
  have hids : (rows.mapIdx fun index row => row (label ++ Numerals.padded width (index + 1))).map key =
      (List.range rows.length).map fun index => label ++ Numerals.padded width (index + 1) := by
    refine List.ext_getElem (by simp) fun i hi _ => ?_
    rw [List.getElem_map, List.getElem_mapIdx, List.getElem_map, List.getElem_range]
    exact h _ (List.getElem_mem _) _
  rw [hids]
  exact numbers_nodup label width List.nodup_range

theorem first_day : 0 ∈ List.range config.durationDays :=
  List.mem_range.mpr config.durationDays_ge

theorem feedRows {draw : Nat → Nat → FeedDraw} {sellers : List Seller} {row : String → SellerFeedRun}
    (h : row ∈ (List.range config.durationDays).flatMap fun dayOffset =>
      sellers.mapIdx fun index seller => feedRun config (draw dayOffset index) dayOffset index seller) :
    ∃ draw' dayOffset index, ∃ seller ∈ sellers, row = feedRun config draw' dayOffset index seller := by
  obtain ⟨dayOffset, -, h⟩ := List.mem_flatMap.mp h
  obtain ⟨index, seller, hseller, rfl⟩ := Rows.mem_mapIdx h
  exact ⟨_, dayOffset, index, seller, hseller, rfl⟩

theorem feedRun_ok (draw : FeedDraw) (dayOffset index : Nat) (seller : Seller) (id : String) :
    (feedRun config draw dayOffset index seller id).startedAt ≤
        (feedRun config draw dayOffset index seller id).completedAt ∧
      (feedRun config draw dayOffset index seller id).recordsRejected ≤
        (feedRun config draw dayOffset index seller id).recordsReceived := by
  constructor
  · refine le_add_of_nonneg_right (mul_nonneg (Int.floor_nonneg.mpr ?_) (by decide))
    exact (clip_ge (by norm_num)).trans' (by norm_num)
  · exact Nat.le_of_lt_succ (integers_lt (Nat.succ_pos _))

theorem pipelineRun_ok (draw : PipelineDraw) (dayOffset position : Nat) (pipeline id : String) :
    (pipelineRun config draw dayOffset position pipeline id).startedAt ≤
      (pipelineRun config draw dayOffset position pipeline id).completedAt := by
  refine le_add_of_nonneg_right (Rounding.rint_nonneg (mul_nonneg ?_ ?_))
  · exact (clip_ge (by norm_num)).trans' (by norm_num)
  · norm_num [minute, second]

theorem deploymentOf_ok (draw : DeploymentDraw) (position patch : Nat) {dayOffset : Nat}
    (service id : String) (h : dayOffset < config.durationDays) :
    config.startAt ≤ (deploymentOf config draw position patch dayOffset service id).deployedAt ∧
      (deploymentOf config draw position patch dayOffset service id).deployedAt < config.endAt := by
  have hhours : integers draw.hours 8 19 < 19 := integers_lt (by decide)
  have hminutes : integers draw.minutes 0 60 < 60 := integers_lt (by decide)
  have hend : config.endAt = config.startAt + config.durationDays * day := rfl
  have hdays : (dayOffset : Int) + 1 ≤ config.durationDays := by exact_mod_cast h
  have hdeployed : (deploymentOf config draw position patch dayOffset service id).deployedAt =
      config.startAt + dayOffset * day + integers draw.hours 8 19 * hour +
        integers draw.minutes 0 60 * minute := rfl
  rw [hdeployed, hend]
  simp only [day, hour, minute, second]
  constructor
  · have : (0 : Int) ≤ dayOffset := Int.natCast_nonneg _
    have : (0 : Int) ≤ integers draw.hours 8 19 := Int.natCast_nonneg _
    have : (0 : Int) ≤ integers draw.minutes 0 60 := Int.natCast_nonneg _
    linarith
  · have : (integers draw.hours 8 19 : Int) + 1 ≤ 19 := by exact_mod_cast hhours
    have : (integers draw.minutes 0 60 : Int) + 1 ≤ 60 := by exact_mod_cast hminutes
    linarith

theorem logs_ok {sellers : List Seller} (hsellers : sellers ≠ []) (draws : OperationDraws) :
    LogsOk config sellers (generateSellerFeedRuns config draws.feed sellers)
      (generatePipelineRuns config draws.pipeline) (generateDeployments config draws.deployment) := by
  constructor
  case feeds_ne =>
    refine byKey_ne_nil fun hnil => ?_
    rw [List.mapIdx_eq_nil_iff, List.flatMap_eq_nil_iff] at hnil
    exact hsellers (List.mapIdx_eq_nil_iff.mp (hnil 0 first_day))
  case feeds_nodup =>
    refine byKey_nodup (numbered_rows_nodup fun row hrow id => ?_)
    obtain ⟨draw, dayOffset, index, seller, -, rfl⟩ := feedRows hrow
    rfl
  case feeds_ok =>
    intro f hf
    obtain ⟨i, row, hrow, rfl⟩ := Rows.mem_mapIdx (mem_byKey.mp hf)
    obtain ⟨draw, dayOffset, index, seller, hseller, rfl⟩ := feedRows hrow
    exact ⟨List.mem_map_of_mem hseller, feedRun_ok _ _ _ _ _⟩
  case pipelines_ne =>
    refine byKey_ne_nil fun hnil => ?_
    rw [List.mapIdx_eq_nil_iff, List.flatMap_eq_nil_iff] at hnil
    refine ne_nil_of_length_ge config.pipelines_ge (by decide) ?_
    exact List.mapIdx_eq_nil_iff.mp (hnil 0 first_day)
  case pipelines_nodup =>
    refine byKey_nodup (numbered_rows_nodup fun row hrow id => ?_)
    obtain ⟨dayOffset, -, hrow⟩ := List.mem_flatMap.mp hrow
    obtain ⟨position, pipeline, -, rfl⟩ := Rows.mem_mapIdx hrow
    rfl
  case pipelines_ok =>
    intro p hp
    obtain ⟨i, row, hrow, rfl⟩ := Rows.mem_mapIdx (mem_byKey.mp hp)
    obtain ⟨dayOffset, -, hrow⟩ := List.mem_flatMap.mp hrow
    obtain ⟨position, pipeline, hpipeline, rfl⟩ := Rows.mem_mapIdx hrow
    exact ⟨hpipeline, pipelineRun_ok _ _ _ _ _⟩
  case deployments_ne =>
    refine byKey_ne_nil fun hnil => ?_
    rw [List.mapIdx_eq_nil_iff, List.flatten_eq_nil_iff] at hnil
    obtain ⟨service, services, hservices⟩ :=
      List.exists_cons_of_ne_nil (ne_nil_of_length_ge config.services_ge (by decide))
    have hfirst := hnil _ (List.mem_mapIdx.mpr ⟨0, by rw [hservices]; exact Nat.succ_pos _, rfl⟩)
    rw [List.mapIdx_eq_nil_iff, deploymentDays, List.filter_eq_nil_iff] at hfirst
    exact hfirst 0 first_day (by decide)
  case deployments_nodup =>
    refine byKey_nodup (numbered_rows_nodup fun row hrow id => ?_)
    obtain ⟨rows, hrows, hrow⟩ := List.mem_flatten.mp hrow
    obtain ⟨position, service, -, rfl⟩ := Rows.mem_mapIdx hrows
    obtain ⟨patch, dayOffset, -, rfl⟩ := Rows.mem_mapIdx hrow
    rfl
  case deployments_ok =>
    intro p hp
    obtain ⟨i, row, hrow, rfl⟩ := Rows.mem_mapIdx (mem_byKey.mp hp)
    obtain ⟨rows, hrows, hrow⟩ := List.mem_flatten.mp hrow
    obtain ⟨position, service, hservice, rfl⟩ := Rows.mem_mapIdx hrows
    obtain ⟨patch, dayOffset, hday, rfl⟩ := Rows.mem_mapIdx hrow
    have hlt := List.mem_range.mp (List.mem_of_mem_filter hday)
    exact ⟨hservice, deploymentOf_ok _ _ _ _ _ hlt⟩

end

end Paic.Simulator
