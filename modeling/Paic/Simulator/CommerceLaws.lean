import Paic.Simulator.OrdersLaws
import Paic.Simulator.Validation

/-!
# What the commerce tables hold

Stages agree with times and reasons, every order links a payment and a session
of its own, and its items are those of its lines.
-/

namespace Paic.Simulator

open Checks (bind_eq_ok pure_eq_ok need_ok raiseIf_ok)
open Detection (Instant)
open Sorted (byKey byKey_perm mem_byKey)

-- ---------------------------------------------------------------------------
-- Stages
-- ---------------------------------------------------------------------------

theorem not_violated {e : Expectation} {session : CheckoutSession} : ¬ e.Violated session ↔
    (∀ column ∈ e.required, (column session).isSome = true) ∧
      (∀ column ∈ e.forbidden, (column session).isSome = false) ∧
      ∀ reason ∈ session.abandonmentReason, some reason = e.reason := by
  simp only [Expectation.Violated, not_or, not_exists, not_and, not_not, Option.isSome_eq_false_iff,
    Option.isNone_iff_eq_none, Option.isSome_iff_ne_none]

/-- A stage that agrees with the times and the reason of the session. -/
def StageOk (session : CheckoutSession) : Prop :=
  ∃ e ∈ expectations, session.stageReached = e.stage ∧ ¬ e.Violated session

section
variable {config : SimulationConfig} {d : Dimensions}

/-- Each stage by the flags: the later ones imply the earlier ones. -/
theorem stage_ok {s : SessionState} (h : StateOk config d s)
    (hcompleted : s.completedAt.isSome = s.approved)
    (hreached : s.approved = true → s.paymentReached = true) : StageOk s.row := by
  have found : ∀ i (hi : i < 6), stageAndReason s = ((expectations.get ⟨i, hi⟩).stage,
      (expectations.get ⟨i, hi⟩).reason) →
      (∀ column ∈ (expectations.get ⟨i, hi⟩).required, (column s.row).isSome = true) →
      (∀ column ∈ (expectations.get ⟨i, hi⟩).forbidden, (column s.row).isSome = false) →
      StageOk s.row := by
    intro i hi hstage hrequired hforbidden
    refine ⟨_, List.get_mem expectations ⟨i, hi⟩, congrArg Prod.fst hstage,
      not_violated.mpr ⟨hrequired, hforbidden, fun reason hreason => ?_⟩⟩
    exact hreason.symm.trans (congrArg Prod.snd hstage)
  have haddress : s.row.addressSubmittedAt.isSome = _ := h.address
  have hinventory : s.row.inventoryCheckedAt.isSome = _ := h.inventory
  have hpayment : s.row.paymentStartedAt.isSome = _ := h.payment
  have hcompleted : s.row.completedAt.isSome = _ := hcompleted
  have h1 := h.addressOk_reached
  have h2 := h.inventoryOk_addressOk
  have h3 := h.paymentReached_inventoryOk
  cases happroved : s.approved with
  | true =>
    have hp := hreached happroved
    have ha := h2 (h3 hp)
    rw [hp] at hpayment
    rw [ha] at hinventory
    rw [h1 ha] at haddress
    rw [happroved] at hcompleted
    exact found 5 (by decide) (by simp [stageAndReason, happroved, expectations])
      (by simp [expectations, haddress, hinventory, hpayment, hcompleted]) (by simp [expectations])
  | false =>
    rw [happroved] at hcompleted
    cases hp : s.paymentReached with
    | true =>
      have ha := h2 (h3 hp)
      rw [hp] at hpayment
      rw [ha] at hinventory
      rw [h1 ha] at haddress
      exact found 4 (by decide) (by simp [stageAndReason, happroved, hp, expectations])
        (by simp [expectations, haddress, hinventory, hpayment]) (by simp [expectations, hcompleted, -Option.isSome_eq_false_iff])
    | false =>
      rw [hp] at hpayment
      cases hi : s.inventoryOk with
      | true =>
        rw [h2 hi] at hinventory
        rw [h1 (h2 hi)] at haddress
        exact found 3 (by decide) (by simp [stageAndReason, happroved, hp, hi, expectations])
          (by simp [expectations, haddress, hinventory])
          (by simp [expectations, hpayment, hcompleted, -Option.isSome_eq_false_iff])
      | false =>
        cases ha : s.addressOk with
        | true =>
          rw [ha] at hinventory
          rw [h1 ha] at haddress
          exact found 2 (by decide) (by simp [stageAndReason, happroved, hp, hi, ha, expectations])
            (by simp [expectations, haddress, hinventory])
            (by simp [expectations, hpayment, hcompleted, -Option.isSome_eq_false_iff])
        | false =>
          rw [ha] at hinventory
          cases hr : s.addressReached with
          | true =>
            rw [hr] at haddress
            exact found 1 (by decide)
              (by simp [stageAndReason, happroved, hp, hi, ha, hr, expectations])
              (by simp [expectations, haddress])
              (by simp [expectations, hinventory, hpayment, hcompleted,
                -Option.isSome_eq_false_iff])
          | false =>
            rw [hr] at haddress
            exact found 0 (by decide)
              (by simp [stageAndReason, happroved, hp, hi, ha, hr, expectations])
              (by simp [expectations])
              (by simp [expectations, haddress, hinventory, hpayment, hcompleted,
                -Option.isSome_eq_false_iff])

theorem stageReached_completed (s : SessionState) :
    s.row.stageReached = "order_completed" ↔ s.approved = true := by
  simp only [SessionState.row, stageAndReason]
  split
  · next h => exact iff_of_true rfl h
  · next h =>
    refine iff_of_false ?_ h
    repeat' split
    all_goals decide

end

-- ---------------------------------------------------------------------------
-- The tables
-- ---------------------------------------------------------------------------

/-- What holds of a row of the sessions. -/
structure SessionOk (config : SimulationConfig) (d : Dimensions) (s : CheckoutSession) : Prop where
  customer : s.customerId ∈ d.customers.map Customer.customerId
  product : s.productId ∈ d.products.map Product.productId
  promotion : ∀ id ∈ s.promotionId, id ∈ d.promotions.map Promotion.promotionId
  campaign : s.campaignId = none ↔ s.channel ∈ unattributedChannels
  started_ge : config.startAt ≤ s.startedAt
  started_lt : s.startedAt < config.endAt
  started_address : Ordered (some s.startedAt) s.addressSubmittedAt
  address_inventory : Ordered s.addressSubmittedAt s.inventoryCheckedAt
  inventory_payment : Ordered s.inventoryCheckedAt s.paymentStartedAt
  payment_completed : Ordered s.paymentStartedAt s.completedAt
  stage : StageOk s

/-- An order with the payment and the session it is for. -/
structure OrderOk (config : SimulationConfig) (c : Commerce) (o : Order) (p : PaymentAttempt)
    (s : CheckoutSession) : Prop where
  payment : p ∈ c.paymentAttempts
  session : s ∈ c.checkoutSessions
  payment_key : o.paymentAttemptId = p.paymentAttemptId
  session_key : o.sessionId = s.sessionId
  customer : o.customerId = s.customerId
  approved : p.approved = true
  amount : p.amount = o.totalAmount
  channel : o.channel = s.channel
  campaign : o.campaignId = s.campaignId
  region : o.region ∈ config.regions.map RegionConfig.code
  started : s.paymentStartedAt = some p.attemptedAt
  completed : s.completedAt = some o.orderedAt
  attempted : p.attemptedAt ≤ o.orderedAt
  total : |o.totalAmount - (o.subtotal - o.discountAmount + o.taxAmount + o.shippingAmount)| ≤
    2 / 100
  item_count : 1 ≤ o.itemCount
  items : (c.orderItems.filter fun item => item.orderId = o.orderId).length = o.itemCount
  net : |((c.orderItems.filter fun item => item.orderId = o.orderId).map OrderItem.lineTotal).sum -
    (o.subtotal - o.discountAmount)| ≤ 2 / 100

structure CommerceOk (config : SimulationConfig) (d : Dimensions) (c : Commerce) : Prop where
  sessions_ne : c.checkoutSessions ≠ []
  sessions_nodup : (c.checkoutSessions.map CheckoutSession.sessionId).Nodup
  sessions_ok : ∀ s ∈ c.checkoutSessions, SessionOk config d s
  payments_ne : c.paymentAttempts ≠ []
  payments_nodup : (c.paymentAttempts.map PaymentAttempt.paymentAttemptId).Nodup
  payments_rules : ∀ p ∈ c.paymentAttempts, p.fraudRuleVersion = "17"
  payments_session : ∀ p ∈ c.paymentAttempts, ∃ s ∈ c.checkoutSessions,
    p.sessionId = s.sessionId ∧ p.customerId = s.customerId
  orders_ne : c.orders ≠ []
  orders_nodup : (c.orders.map Order.orderId).Nodup
  orders_ok : ∀ o ∈ c.orders, ∃ p s, OrderOk config c o p s
  items_nodup : (c.orderItems.map OrderItem.orderItemId).Nodup
  items_ok : ∀ item ∈ c.orderItems, item.orderId ∈ c.orders.map Order.orderId ∧
    ∃ product ∈ d.products, item.productId = product.productId ∧ item.sellerId = product.sellerId
  approved_count : (c.paymentAttempts.filter PaymentAttempt.approved).length = c.orders.length
  completed_count : (c.checkoutSessions.filter fun s => s.stageReached = "order_completed").length =
    c.orders.length

section
variable {config : SimulationConfig} {d : Dimensions} {states : List SessionState}
  {payments : List PaymentAttempt} {placed : List (Order × List OrderLine)}

/-- The rows of the items, by their lines. -/
def itemRows (placed : List (Order × List OrderLine)) : List OrderItem :=
  (placed.flatMap Prod.snd).mapIdx fun index line => line.row index

section
variable (hd : DimensionsOk config d) (hpaid : PaidOk config d states payments)
  (hplaced : PlacedOk config d states payments placed)
include hplaced

theorem line_order {pl : Order × List OrderLine} (hpl : pl ∈ placed) :
    ∀ line ∈ pl.2, line.orderId = pl.1.orderId := by
  intro line hline
  obtain ⟨p, -, -, i, ⟨o⟩⟩ := hplaced.from_payment pl hpl
  rw [o.lines_order line hline, o.order_eq]
  rfl

/-- The items with the key of an order are its lines. -/
theorem items_of_order {pl : Order × List OrderLine} (hpl : pl ∈ placed) :
    ((byKey OrderItem.orderItemId (itemRows placed)).filter fun item =>
      item.orderId = pl.1.orderId).map OrderItem.lineTotal |>.Perm
        (pl.2.map fun line => rounded line.lineTotal) := by
  have hlines := Rows.flatMap_filter_block Order.orderId OrderLine.orderId
    (fun pl hpl => line_order hplaced hpl) hplaced.keys_nodup hpl
  have hpairs : (itemRows placed).map (fun item => (item.orderId, item.lineTotal)) =
      (placed.flatMap Prod.snd).map fun line => (line.orderId, rounded line.lineTotal) := by
    refine Rows.map_mapIdx (fun index line => ?_) _
    rfl
  refine (((byKey_perm _ _).filter _).map _).trans (.of_eq ?_)
  calc ((itemRows placed).filter fun item => item.orderId = pl.1.orderId).map OrderItem.lineTotal
      = (((itemRows placed).map fun item => (item.orderId, item.lineTotal)).filter
          fun pair => pair.1 = pl.1.orderId).map Prod.snd := by
        rw [List.filter_map, List.map_map]
        rfl
    _ = (((placed.flatMap Prod.snd).filter fun line => line.orderId = pl.1.orderId).map
          fun line => rounded line.lineTotal) := by
        rw [hpairs, List.filter_map, List.map_map]
        rfl
    _ = pl.2.map fun line => rounded line.lineTotal := by rw [hlines]

include hpaid

theorem orderOk {pl : Order × List OrderLine} (hd : DimensionsOk config d) (hpl : pl ∈ placed)
    {c : Commerce}
    (hsessions : c.checkoutSessions = finalizeSessions (states.map (completeSession (placed.map Prod.fst))))
    (hpayments : c.paymentAttempts =
      byKey PaymentAttempt.paymentAttemptId (payments.map (settle (placed.map Prod.fst))))
    (hitems : c.orderItems = byKey OrderItem.orderItemId (itemRows placed)) :
    ∃ p s, OrderOk config c pl.1 p s := by
  obtain ⟨p, hp, happroved, i, ⟨o⟩⟩ := hplaced.from_payment pl hpl
  obtain ⟨s, hs, hsession, hcustomer, hstarted, heq⟩ := hpaid.payment_state p hp
  have hstate := Rows.eq_of_key hpaid.states_nodup o.state_mem hs (o.state_key.trans hsession)
  have hkey : pl.1.sessionId = s.sessionId := by
    rw [o.order_eq]
    exact hsession
  have hcompleted : completeSession (placed.map Prod.fst) s = s.withOrder pl.1 := by
    have hnodup : ((placed.map Prod.fst).map Order.sessionId).Nodup := by
      rw [List.map_map]
      exact hplaced.sessions_nodup
    rw [completeSession, Rows.find_eq hnodup (List.mem_map_of_mem hpl) hkey]
  have hpaykey : pl.1.paymentAttemptId = p.paymentAttemptId := by rw [o.order_eq]; rfl
  have hprice : ∀ line ∈ pl.2, IsCents line.product.basePrice := fun line hline =>
    hd.products_price _ (o.lines_product line hline)
  have hperm := items_of_order hplaced hpl
  have hcount : o.draw.count ≤ 4 := min_le_right ..
  refine ⟨{ p with amount := pl.1.totalAmount }, (s.withOrder pl.1).row, ?_⟩
  constructor
  case payment =>
    rw [hpayments, mem_byKey, ← settle_eq hpaid hplaced hpl hpaykey]
    exact List.mem_map_of_mem hp
  case session =>
    rw [hsessions, finalizeSessions, mem_byKey, List.map_map, ← hcompleted]
    exact List.mem_map.mpr ⟨s, hs, rfl⟩
  case payment_key => exact hpaykey
  case session_key => exact hkey
  case customer =>
    rw [o.order_eq]
    exact hcustomer
  case approved => exact happroved
  case amount => rfl
  case channel => rw [o.order_eq, ← hstate]; rfl
  case campaign => rw [o.order_eq, ← hstate]; rfl
  case region =>
    rw [o.order_eq]
    exact (hpaid.states_ok _ o.state_mem).1.region
  case started => exact hstarted
  case completed => rfl
  case attempted =>
    rw [o.order_eq]
    exact le_add_of_nonneg_right (by positivity)
  case total =>
    rw [o.order_eq]
    exact total_reconciles (subtotal_isCents hprice)
  case item_count =>
    rw [o.order_eq]
    exact le_min (Nat.le_add_right ..) (by decide)
  case items =>
    have hlength := hperm.length_eq
    rw [List.length_map, List.length_map] at hlength
    rw [hitems, hlength, o.lines_length]
    exact (congrArg Order.itemCount o.order_eq).symm
  case net =>
    rw [hitems, hperm.sum_eq, o.order_eq]
    exact items_reconcile hprice (o.lines_length ▸ hcount)

end

theorem completeSession_sessionId (orders : List Order) (s : SessionState) :
    (completeSession orders s).sessionId = s.sessionId := by
  unfold completeSession
  split <;> rfl

theorem settle_amount (orders : List Order) (p : PaymentAttempt) :
    ∃ amount, settle orders p = { p with amount } := by
  unfold settle
  split
  · exact ⟨_, rfl⟩
  · exact ⟨p.amount, rfl⟩

section
variable (hpaid : PaidOk config d states payments)
  (hplaced : PlacedOk config d states payments placed)
include hpaid hplaced

theorem completed_ok {s : SessionState} (hs : s ∈ states) :
    SessionOk config d (completeSession (placed.map Prod.fst) s).row ∧
      ((completeSession (placed.map Prod.fst) s).row.stageReached = "order_completed" ↔
        s.approved = true) := by
  obtain ⟨hok, hnone⟩ := hpaid.states_ok s hs
  have rowOk : ∀ s' : SessionState, StateOk config d s' → Ordered s'.paymentStartedAt s'.completedAt →
      s'.completedAt.isSome = s'.approved → (s'.approved = true → s'.paymentReached = true) →
      SessionOk config d s'.row := fun s' hok hordered hcompleted hreached =>
    { customer := hok.customer
      product := hok.product
      promotion := hok.promotion
      campaign := hok.campaign
      started_ge := hok.started_ge
      started_lt := hok.started_lt
      started_address := hok.started_address
      address_inventory := hok.address_inventory
      inventory_payment := hok.inventory_payment
      payment_completed := hordered
      stage := stage_ok hok hcompleted hreached }
  rcases completeSession_eq hpaid hplaced hs with ⟨happroved, heq⟩ | ⟨happroved, pl, hpl, hkey, heq⟩
  · rw [heq]
    refine ⟨rowOk s hok ?_ (by rw [hnone, happroved]; rfl) (hpaid.states_reached s hs),
      stageReached_completed s⟩
    rw [hnone]
    exact fun t _ t' ht' => absurd ht' nofun
  · obtain ⟨-, p, -, -, hstarted, -, i, o, -⟩ := session_of_order hpaid hplaced hpl hs hkey
    rw [heq]
    refine ⟨rowOk _ (hok.withOrder pl.1) ?_ happroved.symm (hpaid.states_reached s hs),
      stageReached_completed _⟩
    intro t ht t' ht'
    obtain rfl := Option.some.inj ((show s.paymentStartedAt = some t from ht).symm.trans hstarted)
    obtain rfl : pl.1.orderedAt = t' := Option.some.inj ht'
    rw [o.order_eq]
    exact le_add_of_nonneg_right (by positivity)

/-- As many sessions were approved as there are orders. -/
theorem approved_states : (states.filter SessionState.approved).length = placed.length := by
  have hperm : ((states.filter SessionState.approved).map SessionState.sessionId).Perm
      (placed.map fun pl => pl.1.sessionId) := by
    refine (List.perm_ext_iff_of_nodup (hpaid.states_nodup.sublist (List.filter_sublist.map _))
      hplaced.sessions_nodup).mpr fun id => ?_
    simp only [List.mem_map, List.mem_filter]
    constructor
    · rintro ⟨s, ⟨hs, happroved⟩, rfl⟩
      exact order_of_session hpaid hplaced hs happroved
    · rintro ⟨pl, hpl, rfl⟩
      obtain ⟨p, hp, -, i, ⟨o⟩⟩ := hplaced.from_payment pl hpl
      have hkey : o.state.sessionId = pl.1.sessionId := by rw [o.state_key, o.order_eq]; rfl
      exact ⟨o.state, ⟨o.state_mem, (session_of_order hpaid hplaced hpl o.state_mem hkey.symm).1⟩, hkey⟩
  have hlength := hperm.length_eq
  rwa [List.length_map, List.length_map] at hlength

theorem commerceOk (hd : DimensionsOk config d) (happroved : payments.filter PaymentAttempt.approved ≠ [])
    {c : Commerce}
    (hsessions : c.checkoutSessions = finalizeSessions (states.map (completeSession (placed.map Prod.fst))))
    (hpayments : c.paymentAttempts =
      byKey PaymentAttempt.paymentAttemptId (payments.map (settle (placed.map Prod.fst))))
    (horders : c.orders = byKey Order.orderId (placed.map Prod.fst))
    (hitems : c.orderItems = byKey OrderItem.orderItemId (itemRows placed)) : CommerceOk config d c := by
  have mem_session : ∀ s, s ∈ c.checkoutSessions ↔
      ∃ s₀ ∈ states, (completeSession (placed.map Prod.fst) s₀).row = s := fun s => by
    rw [hsessions, finalizeSessions, mem_byKey, List.map_map, List.mem_map]
    rfl
  have mem_payment : ∀ p ∈ c.paymentAttempts, ∃ p₀ ∈ payments, ∃ amount, p = { p₀ with amount } := by
    intro p hp
    rw [hpayments, mem_byKey] at hp
    obtain ⟨p₀, hp₀, rfl⟩ := List.mem_map.mp hp
    exact ⟨p₀, hp₀, settle_amount _ _⟩
  have mem_order : ∀ o, o ∈ c.orders ↔ ∃ pl ∈ placed, pl.1 = o := fun o => by
    rw [horders, mem_byKey, List.mem_map]
  have hlength : c.orders.length = placed.length := by
    rw [horders, (byKey_perm _ _).length_eq, List.length_map]
  constructor
  case sessions_ne =>
    rw [hsessions]
    refine byKey_ne_nil fun hnil => hpaid.states_ne ?_
    rwa [List.map_eq_nil_iff, List.map_eq_nil_iff] at hnil
  case sessions_nodup =>
    rw [hsessions]
    refine byKey_nodup ?_
    rw [List.map_map, List.map_map]
    refine (List.map_congr_left fun s _ => ?_ : _ = states.map SessionState.sessionId) ▸
      hpaid.states_nodup
    exact completeSession_sessionId _ s
  case sessions_ok =>
    intro s hs
    obtain ⟨s₀, hs₀, rfl⟩ := (mem_session s).mp hs
    exact (completed_ok hpaid hplaced hs₀).1
  case payments_ne =>
    rw [hpayments]
    refine byKey_ne_nil fun hnil => hpaid.payments_ne ?_
    rwa [List.map_eq_nil_iff] at hnil
  case payments_nodup =>
    rw [hpayments]
    refine byKey_nodup ?_
    rw [List.map_map]
    refine (List.map_congr_left fun p _ => ?_ : _ = payments.map PaymentAttempt.paymentAttemptId) ▸
      hpaid.payments_nodup
    obtain ⟨amount, heq⟩ := settle_amount (placed.map Prod.fst) p
    exact (congrArg PaymentAttempt.paymentAttemptId heq).trans rfl
  case payments_rules =>
    intro p hp
    obtain ⟨p₀, hp₀, amount, rfl⟩ := mem_payment p hp
    exact hpaid.payments_rules p₀ hp₀
  case payments_session =>
    intro p hp
    obtain ⟨p₀, hp₀, amount, rfl⟩ := mem_payment p hp
    obtain ⟨s, hs, hsession, hcustomer, -⟩ := hpaid.payment_state p₀ hp₀
    refine ⟨_, (mem_session _).mpr ⟨s, hs, rfl⟩, ?_, ?_⟩
    · exact hsession.trans (completeSession_sessionId _ s).symm
    · refine hcustomer.trans ?_
      simp only [completeSession]
      split <;> rfl
  case orders_ne =>
    intro hnil
    rw [hnil, List.length_nil, hplaced.count] at hlength
    exact happroved (List.eq_nil_of_length_eq_zero hlength.symm)
  case orders_nodup =>
    rw [horders]
    refine byKey_nodup ?_
    rw [List.map_map]
    exact hplaced.keys_nodup
  case orders_ok =>
    intro o ho
    obtain ⟨pl, hpl, rfl⟩ := (mem_order o).mp ho
    exact orderOk hpaid hplaced hd hpl hsessions hpayments hitems
  case items_nodup =>
    rw [hitems]
    refine byKey_nodup ?_
    exact numbered_nodup fun _ _ => rfl
  case items_ok =>
    intro item hitem
    rw [hitems, mem_byKey] at hitem
    obtain ⟨index, line, hline, rfl⟩ := Rows.mem_mapIdx hitem
    obtain ⟨pl, hpl, hline⟩ := List.mem_flatMap.mp hline
    obtain ⟨p, -, -, i, ⟨o⟩⟩ := hplaced.from_payment pl hpl
    refine ⟨?_, line.product, o.lines_product line hline, rfl, rfl⟩
    exact List.mem_map.mpr ⟨pl.1, (mem_order _).mpr ⟨pl, hpl, rfl⟩, (line_order hplaced hpl line hline).symm⟩
  case approved_count =>
    rw [hlength, hplaced.count, hpayments, ((byKey_perm _ _).filter _).length_eq, List.filter_map,
      List.length_map]
    refine congrArg List.length (List.filter_congr fun p _ => ?_)
    obtain ⟨amount, heq⟩ := settle_amount (placed.map Prod.fst) p
    exact (congrArg PaymentAttempt.approved heq).trans rfl
  case completed_count =>
    rw [hlength, ← approved_states hpaid hplaced, hsessions, finalizeSessions,
      ((byKey_perm _ _).filter _).length_eq, List.map_map, List.filter_map, List.length_map]
    refine congrArg List.length (List.filter_congr fun s hs => ?_)
    have hstage := (completed_ok hpaid hplaced hs).2
    exact Bool.eq_iff_iff.mpr (decide_eq_true_iff.trans hstage)

end

/-- The commerce tables come out exactly when there are a session that reached a
payment and a payment that was approved, and hold what they should. -/
theorem generateCommerceEvents_ok {draws : CommerceDraws} {c : Commerce} (hd : DimensionsOk config d)
    (h : generateCommerceEvents config draws d = .ok c) : CommerceOk config d c := by
  obtain ⟨states₀, hstates₀, hne, hnodup, hstates⟩ := generateSessionState_ok hd draws
  obtain ⟨_, h₀, h⟩ := bind_eq_ok.mp h
  obtain rfl := Except.ok.inj (hstates₀.symm.trans h₀)
  obtain ⟨⟨payments, states⟩, hpayments, h⟩ := bind_eq_ok.mp h
  have hpaid := generatePayments_ok hne hnodup hstates hpayments
  obtain ⟨⟨orders, items, settled, completed⟩, horders, h⟩ := bind_eq_ok.mp h
  obtain rfl := pure_eq_ok.mp h
  obtain ⟨⟨⟩, hraise, h⟩ := bind_eq_ok.mp horders
  obtain ⟨demand, hdemand, h⟩ := bind_eq_ok.mp h
  obtain ⟨placed, hmapM, h⟩ := bind_eq_ok.mp h
  obtain ⟨horders, h⟩ := Prod.mk.inj (pure_eq_ok.mp h)
  obtain ⟨hitems, h⟩ := Prod.mk.inj h
  obtain ⟨hsettled, hcompleted⟩ := Prod.mk.inj h
  refine commerceOk hpaid (placedOk hdemand hpaid hmapM) hd (raiseIf_ok.mp hraise) ?_ hsettled.symm
    horders.symm hitems.symm
  rw [← hcompleted]

end

end Paic.Simulator
