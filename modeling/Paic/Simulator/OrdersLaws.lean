import Paic.Simulator.SessionsLaws
import Mathlib

/-!
# What the orders hold

Every approved payment has one order. Its lines are items with its own key, the
amounts reconcile to two cents whatever is rounded, and the sessions that were
approved are those that get completed.
-/

namespace Paic.Simulator

open Checks (bind_eq_ok pure_eq_ok mapM_ok mapM_returns mapM_mem mapM_map need_ok raiseIf_ok)
open Detection (Instant)
open Rounding (rint abs_rint_sub_le abs_sum_sub_le)
open Sorted (byKey byKey_perm mem_byKey)

-- ---------------------------------------------------------------------------
-- Money
-- ---------------------------------------------------------------------------

theorem IsCents.rounded_eq (h : IsCents amount) : rounded amount = amount := by
  obtain ⟨n, hn⟩ := h
  rw [rounded, hn, Rounding.rint_intCast, ← hn]
  ring

theorem IsCents.add (ha : IsCents a) (hb : IsCents b) : IsCents (a + b) := by
  obtain ⟨m, hm⟩ := ha
  obtain ⟨n, hn⟩ := hb
  exact ⟨m + n, by rw [add_mul, hm, hn, Int.cast_add]⟩

theorem IsCents.mul_nat (h : IsCents a) (k : Nat) : IsCents (a * k) := by
  obtain ⟨n, hn⟩ := h
  refine ⟨n * k, ?_⟩
  rw [Int.cast_mul, Int.cast_natCast, ← hn]
  ring

theorem isCents_sum {l : List Rat} (h : ∀ a ∈ l, IsCents a) : IsCents l.sum := by
  induction l with
  | nil => exact ⟨0, by simp⟩
  | cons a l ih =>
    rw [List.sum_cons]
    exact (h a (List.mem_cons_self ..)).add (ih fun b hb => h b (List.mem_cons_of_mem _ hb))

/-- A difference of whole cents below three is at most two. -/
theorem cents_le {x : Rat} (hcents : IsCents x) (h : |x| < 3 / 100) : |x| ≤ 2 / 100 := by
  obtain ⟨n, hn⟩ := hcents
  have hx : x = n / 100 := by rw [← hn]; ring
  rw [hx, abs_div, abs_of_pos (show (0 : Rat) < 100 by norm_num)] at h ⊢
  have hlt : |(n : Rat)| < 3 := by linarith
  have hle : |n| ≤ 2 := by
    have : |n| < 3 := by exact_mod_cast hlt
    omega
  have hle : |(n : Rat)| ≤ 2 := by exact_mod_cast hle
  linarith

theorem rounded_sub_abs (x : Rat) : |rounded x - x| ≤ 1 / 200 := by
  have h := abs_rint_sub_le (x * 100)
  have heq : rounded x - x = (rint (x * 100) - x * 100) / 100 := by
    rw [rounded]
    ring
  rw [heq, abs_div, abs_of_pos (show (0 : Rat) < 100 by norm_num)]
  linarith

theorem totals_eq (lines : List OrderLine) : (lines.map OrderLine.lineTotal).sum =
    (lines.map OrderLine.lineSubtotal).sum - (lines.map OrderLine.lineDiscount).sum := by
  induction lines with
  | nil => simp
  | cons line rest ih =>
    rw [List.map_cons, List.sum_cons, ih, List.map_cons, List.sum_cons, List.map_cons, List.sum_cons,
      OrderLine.lineTotal]
    ring

section
variable {lines : List OrderLine} (hprice : ∀ line ∈ lines, IsCents line.product.basePrice)
  (hlength : lines.length ≤ 4)
include hprice

theorem subtotal_isCents : IsCents (lines.map OrderLine.lineSubtotal).sum := by
  refine isCents_sum fun a ha => ?_
  obtain ⟨line, hline, rfl⟩ := List.mem_map.mp ha
  exact (hprice line hline).mul_nat _

include hlength

/-- The items, each rounded, against the rounded amounts of the order. -/
theorem items_reconcile :
    |((lines.map fun line => rounded line.lineTotal)).sum -
      (rounded (lines.map OrderLine.lineSubtotal).sum -
        rounded (lines.map OrderLine.lineDiscount).sum)| ≤ 2 / 100 := by
  have hitems := abs_sum_sub_le fun line (_ : line ∈ lines) => rounded_sub_abs line.lineTotal
  rw [totals_eq] at hitems
  have hdiscount := rounded_sub_abs (lines.map OrderLine.lineDiscount).sum
  rw [(subtotal_isCents hprice).rounded_eq]
  have hlength : (lines.length : Rat) ≤ 4 := by exact_mod_cast hlength
  -- whole cents all of them, and within two and a half
  refine cents_le ?_ ?_
  · have hneg : ∀ a, IsCents a → IsCents (-a) := fun a ⟨n, hn⟩ => ⟨-n, by rw [neg_mul, hn, Int.cast_neg]⟩
    rw [sub_eq_add_neg, neg_sub, sub_eq_add_neg]
    refine IsCents.add (isCents_sum fun a ha => ?_) ((rounded_isCents _).add
      (hneg _ (subtotal_isCents hprice)))
    obtain ⟨line, -, rfl⟩ := List.mem_map.mp ha
    exact rounded_isCents _
  · rw [abs_le] at hitems hdiscount
    rw [abs_lt]
    constructor <;> linarith [hitems.1, hitems.2, hdiscount.1, hdiscount.2]

end

/-- The rounded total against the sum of the rounded parts. -/
theorem total_reconciles {subtotal discount tax shipping : Rat} (hsubtotal : IsCents subtotal) :
    |rounded (subtotal - discount + tax + shipping) -
      (rounded subtotal - rounded discount + tax + shipping)| ≤ 2 / 100 := by
  have htotal := rounded_sub_abs (subtotal - discount + tax + shipping)
  have hdiscount := rounded_sub_abs discount
  rw [hsubtotal.rounded_eq]
  rw [abs_le] at htotal hdiscount ⊢
  constructor <;> linarith [htotal.1, htotal.2, hdiscount.1, hdiscount.2]

-- ---------------------------------------------------------------------------
-- Orders
-- ---------------------------------------------------------------------------

/-- An order with its lines, and the payment and the session it comes from. -/
structure OrderFrom (config : SimulationConfig) (d : Dimensions) (states : List SessionState)
    (payment : PaymentAttempt) (index : Nat) (order : Order) (lines : List OrderLine) where
  draw : OrderDraw
  state : SessionState
  region : RegionConfig
  state_mem : state ∈ states
  state_key : state.sessionId = payment.sessionId
  region_eq : config.region state.region = some region
  lines_length : lines.length = draw.count
  lines_order : ∀ line ∈ lines, line.orderId = stableId "ORD" 10 index
  lines_product : ∀ line ∈ lines, line.product ∈ d.products
  order_eq : order = orderOf draw (stableId "ORD" 10 index) payment state region lines

section
variable {config : SimulationConfig} {d : Dimensions} {draws : CommerceDraws}

theorem orderLines_ok {demand : Weighted Product} {draw : OrderDraw} {orderId : String}
    {state : SessionState}
    (hdemand : probabilityVector d.products Product.demandWeight = .ok demand)
    (h : orderLines d.products demand draw orderId state = .ok lines) :
    lines.length = draw.count ∧ (∀ line ∈ lines, line.orderId = orderId) ∧
      ∀ line ∈ lines, line.product ∈ d.products := by
  obtain ⟨primary, hprimary, h⟩ := bind_eq_ok.mp h
  obtain rfl := pure_eq_ok.mp h
  have hprimary := List.mem_of_find?_eq_some (need_ok.mp hprimary)
  refine ⟨?_, fun line hline => ?_, fun line hline => ?_⟩
  · rw [List.length_mapIdx, List.length_cons, List.length_map, List.length_range, OrderDraw.count]
    omega
  · obtain ⟨i, product, -, rfl⟩ := Rows.mem_mapIdx hline
    rfl
  · obtain ⟨i, product, hproduct, rfl⟩ := Rows.mem_mapIdx hline
    rcases List.mem_cons.mp hproduct with rfl | hproduct
    · exact hprimary
    · obtain ⟨j, -, rfl⟩ := List.mem_map.mp hproduct
      exact probabilityVector_choose hdemand _

theorem orderRow_ok {demand : Weighted Product} {states : List SessionState}
    {row : PaymentAttempt × Nat} {placed : Order × List OrderLine}
    (hdemand : probabilityVector d.products Product.demandWeight = .ok demand)
    (h : orderRow config draws d.products demand states row = .ok placed) :
    Nonempty (OrderFrom config d states row.1 row.2 placed.1 placed.2) := by
  obtain ⟨state, hstate, h⟩ := bind_eq_ok.mp h
  obtain ⟨lines, hlines, h⟩ := bind_eq_ok.mp h
  obtain ⟨region, hregion, h⟩ := bind_eq_ok.mp h
  obtain rfl := pure_eq_ok.mp h
  rw [need_ok] at hstate hregion
  obtain ⟨hlength, horder, hproduct⟩ := orderLines_ok hdemand hlines
  exact ⟨{
    draw := draws.order row.2
    state, region
    state_mem := List.mem_of_find?_eq_some hstate
    state_key := (Rows.find_key hstate).2
    region_eq := hregion
    lines_length := hlength
    lines_order := horder
    lines_product := hproduct
    order_eq := rfl }⟩

/-- The orders come out exactly when a payment was approved. -/
theorem generateOrders_returns {states : List SessionState} {payments : List PaymentAttempt}
    (hd : DimensionsOk config d) (h : PaidOk config d states payments) :
    (∃ result, generateOrders config draws d states payments = .ok result) ↔
      ∃ p ∈ payments, p.approved = true := by
  have hsome : (∃ p ∈ payments, p.approved = true) ↔ payments.filter PaymentAttempt.approved ≠ [] := by
    rw [Ne, List.filter_eq_nil_iff]
    push Not
    rfl
  rw [hsome]
  constructor
  · rintro ⟨result, h⟩
    obtain ⟨⟨⟩, hraise, -⟩ := bind_eq_ok.mp h
    exact raiseIf_ok.mp hraise
  · intro hne
    obtain ⟨demand, hdemand⟩ := probabilityVector_ok.mpr ⟨hd.products_ne, hd.products_weight⟩
    have hreturns : ∃ placed, (payments.filter PaymentAttempt.approved).zipIdx.mapM
        (orderRow config draws d.products demand states) = .ok placed := by
      refine mapM_returns.mpr fun row hrow => ?_
      obtain ⟨hmem, -⟩ := List.mem_filter.mp (Rows.mem_zipIdx hrow)
      obtain ⟨s, hs, hkey, -⟩ := h.payment_state row.1 hmem
      obtain ⟨state, hstate⟩ := Rows.find_of_mem hs hkey.symm
      have hok := (h.states_ok state (Rows.find_key hstate).1).1
      obtain ⟨region, hregion⟩ := SimulationConfig.region_isSome hok.region
      obtain ⟨product, hproduct, hid⟩ := List.mem_map.mp hok.product
      obtain ⟨primary, hprimary⟩ := Rows.find_of_mem hproduct hid
      exact ⟨_, bind_eq_ok.mpr ⟨_, need_ok.mpr hstate, bind_eq_ok.mpr ⟨_,
        bind_eq_ok.mpr ⟨_, need_ok.mpr hprimary, rfl⟩, bind_eq_ok.mpr ⟨_, need_ok.mpr hregion, rfl⟩⟩⟩⟩
    obtain ⟨placed, hplaced⟩ := hreturns
    exact ⟨_, bind_eq_ok.mpr ⟨(), raiseIf_ok.mpr hne, bind_eq_ok.mpr ⟨_, hdemand,
      bind_eq_ok.mpr ⟨_, hplaced, rfl⟩⟩⟩⟩

/-- The approved payments and their orders, one to each. -/
structure PlacedOk (config : SimulationConfig) (d : Dimensions) (states : List SessionState)
    (payments : List PaymentAttempt) (placed : List (Order × List OrderLine)) : Prop where
  count : placed.length = (payments.filter PaymentAttempt.approved).length
  keys_nodup : (placed.map fun pl => pl.1.orderId).Nodup
  sessions_nodup : (placed.map fun pl => pl.1.sessionId).Nodup
  payments_nodup : (placed.map fun pl => pl.1.paymentAttemptId).Nodup
  from_payment : ∀ pl ∈ placed, ∃ p ∈ payments, p.approved = true ∧
    ∃ i, Nonempty (OrderFrom config d states p i pl.1 pl.2)
  to_order : ∀ p ∈ payments, p.approved = true → ∃ pl ∈ placed,
    ∃ i, Nonempty (OrderFrom config d states p i pl.1 pl.2)

theorem placedOk {demand : Weighted Product} {states : List SessionState}
    {payments : List PaymentAttempt} {placed : List (Order × List OrderLine)}
    (hdemand : probabilityVector d.products Product.demandWeight = .ok demand)
    (hpaid : PaidOk config d states payments)
    (h : (payments.filter PaymentAttempt.approved).zipIdx.mapM
      (orderRow config draws d.products demand states) = .ok placed) :
    PlacedOk config d states payments placed := by
  have hall := Rows.forall₂_zipIdx (mapM_ok.mp h)
  have hfrom : List.Forall₂ (fun p pl => ∃ i, Nonempty (OrderFrom config d states p i pl.1 pl.2))
      (payments.filter PaymentAttempt.approved) placed :=
    hall.imp fun p pl ⟨i, hrow⟩ => ⟨i, orderRow_ok hdemand hrow⟩
  have hsub := List.filter_sublist (p := PaymentAttempt.approved) (l := payments)
  constructor
  case count => exact hfrom.length_eq.symm
  case keys_nodup =>
    refine mapM_numbered_nodup ("ORD" ++ "-") 10 h fun row pl hrow => ?_
    obtain ⟨horder⟩ := orderRow_ok hdemand hrow
    rw [horder.order_eq]
    rfl
  case sessions_nodup =>
    have heq := Rows.forall₂_map_eq (f := PaymentAttempt.sessionId)
      (g := fun pl : Order × List OrderLine => pl.1.sessionId) hfrom fun p pl ⟨i, ⟨horder⟩⟩ => by
        rw [horder.order_eq]
        rfl
    rw [heq]
    exact hpaid.attempts_nodup.sublist (hsub.map _)
  case payments_nodup =>
    have heq := Rows.forall₂_map_eq (f := PaymentAttempt.paymentAttemptId)
      (g := fun pl : Order × List OrderLine => pl.1.paymentAttemptId) hfrom fun p pl ⟨i, ⟨horder⟩⟩ => by
        rw [horder.order_eq]
        rfl
    rw [heq]
    exact hpaid.payments_nodup.sublist (hsub.map _)
  case from_payment =>
    intro pl hpl
    obtain ⟨p, hp, hi⟩ := Rows.forall₂_mem_right hfrom hpl
    obtain ⟨hp, happroved⟩ := List.mem_filter.mp hp
    exact ⟨p, hp, happroved, hi⟩
  case to_order =>
    intro p hp happroved
    obtain ⟨pl, hpl, hi⟩ := Rows.forall₂_mem_right hfrom.flip (List.mem_filter.mpr ⟨hp, happroved⟩)
    exact ⟨pl, hpl, hi⟩

-- ---------------------------------------------------------------------------
-- Sessions and payments with their orders
-- ---------------------------------------------------------------------------

theorem StateOk.withOrder {s : SessionState} (h : StateOk config d s) (order : Order) :
    StateOk config d (s.withOrder order) where
  customer := h.customer
  product := h.product
  promotion := h.promotion
  region := h.region
  campaign := h.campaign
  started_ge := h.started_ge
  started_lt := h.started_lt
  address := h.address
  inventory := h.inventory
  payment := h.payment
  addressOk_reached := h.addressOk_reached
  inventoryOk_addressOk := h.inventoryOk_addressOk
  paymentReached_inventoryOk := h.paymentReached_inventoryOk
  started_address := h.started_address
  address_inventory := h.address_inventory
  inventory_payment := h.inventory_payment

section
variable {states : List SessionState} {payments : List PaymentAttempt}
  {placed : List (Order × List OrderLine)} (hpaid : PaidOk config d states payments)
  (hplaced : PlacedOk config d states payments placed)
include hpaid hplaced

/-- An order's session was approved, and started the payment it is for. -/
theorem session_of_order {pl : Order × List OrderLine} (hpl : pl ∈ placed) {s : SessionState}
    (hs : s ∈ states) (hkey : pl.1.sessionId = s.sessionId) : s.approved = true ∧
      ∃ p ∈ payments, p.approved = true ∧ s.paymentStartedAt = some p.attemptedAt ∧
        p.customerId = s.customerId ∧ ∃ i, ∃ o : OrderFrom config d states p i pl.1 pl.2, o.state = s := by
  obtain ⟨p, hp, happroved, i, ⟨o⟩⟩ := hplaced.from_payment pl hpl
  obtain ⟨s', hs', hsession, hcustomer, hstarted, heq⟩ := hpaid.payment_state p hp
  have hp_session : pl.1.sessionId = p.sessionId := by rw [o.order_eq]; rfl
  obtain rfl := Rows.eq_of_key hpaid.states_nodup hs hs' (hkey.symm.trans (hp_session.trans hsession))
  have hstate := Rows.eq_of_key hpaid.states_nodup o.state_mem hs (o.state_key.trans hsession)
  exact ⟨heq.trans happroved, p, hp, happroved, hstarted, hcustomer, i, o, hstate⟩

theorem order_of_session {s : SessionState} (hs : s ∈ states) (happroved : s.approved = true) :
    ∃ pl ∈ placed, pl.1.sessionId = s.sessionId := by
  obtain ⟨p, hp, hsession, heq⟩ := hpaid.state_payment s hs (hpaid.states_reached s hs happroved)
  obtain ⟨pl, hpl, i, ⟨o⟩⟩ := hplaced.to_order p hp (heq.trans happroved)
  refine ⟨pl, hpl, ?_⟩
  rw [o.order_eq]
  exact hsession

/-- A session is completed by its order exactly when its payment was approved. -/
theorem completeSession_eq {s : SessionState} (hs : s ∈ states) :
    (s.approved = false ∧ completeSession (placed.map Prod.fst) s = s) ∨
      (s.approved = true ∧ ∃ pl ∈ placed, pl.1.sessionId = s.sessionId ∧
        completeSession (placed.map Prod.fst) s = s.withOrder pl.1) := by
  unfold completeSession
  cases hfind : (placed.map Prod.fst).find? fun order => order.sessionId = s.sessionId with
  | none =>
    refine .inl ⟨Bool.eq_false_iff.mpr fun happroved => ?_, rfl⟩
    obtain ⟨pl, hpl, hkey⟩ := order_of_session hpaid hplaced hs happroved
    exact Rows.find_none hfind (List.mem_map_of_mem hpl) hkey
  | some order =>
    obtain ⟨horder, hkey⟩ := Rows.find_key hfind
    obtain ⟨pl, hpl, rfl⟩ := List.mem_map.mp horder
    exact .inr ⟨(session_of_order hpaid hplaced hpl hs hkey).1, pl, hpl, hkey, rfl⟩

/-- A payment costs what its order costs. -/
theorem settle_eq {pl : Order × List OrderLine} (hpl : pl ∈ placed) {p : PaymentAttempt}
    (hkey : pl.1.paymentAttemptId = p.paymentAttemptId) :
    settle (placed.map Prod.fst) p = { p with amount := pl.1.totalAmount } := by
  have hnodup : ((placed.map Prod.fst).map Order.paymentAttemptId).Nodup := by
    rw [List.map_map]
    exact hplaced.payments_nodup
  rw [settle, Rows.find_eq hnodup (List.mem_map_of_mem hpl) hkey]

end

end

end Paic.Simulator
