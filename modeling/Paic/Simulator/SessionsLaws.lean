import Paic.Simulator.DimensionsLaws
import Paic.Simulator.Events

/-!
# What the sessions and payments hold

A session's flags say which of its times there are, and its times are in
order. Each session that reached a payment has one attempt, whose outcome the
session takes over.
-/

namespace Paic.Simulator

open Checks (bind_eq_ok pure_eq_ok mapM_ok mapM_returns mapM_mem mapM_map need_ok raiseIf_ok)
open Detection (Instant)
open Rows (map_mapIdx map_mapIdx_range)
open Sorted (byKey byKey_perm mem_byKey)

/-- The first is not after the second, where there are both. -/
def Ordered (earlier later : Option Instant) : Prop := ∀ t ∈ earlier, ∀ t' ∈ later, t ≤ t'

/-- What holds of a session from its beginning on. -/
structure StateOk (config : SimulationConfig) (d : Dimensions) (s : SessionState) : Prop where
  customer : s.customerId ∈ d.customers.map Customer.customerId
  product : s.productId ∈ d.products.map Product.productId
  promotion : ∀ id ∈ s.promotionId, id ∈ d.promotions.map Promotion.promotionId
  region : s.region ∈ config.regions.map RegionConfig.code
  campaign : s.campaignId = none ↔ s.channel ∈ unattributedChannels
  started_ge : config.startAt ≤ s.startedAt
  started_lt : s.startedAt < config.endAt
  address : s.addressSubmittedAt.isSome = s.addressReached
  inventory : s.inventoryCheckedAt.isSome = s.addressOk
  payment : s.paymentStartedAt.isSome = s.paymentReached
  addressOk_reached : s.addressOk = true → s.addressReached = true
  inventoryOk_addressOk : s.inventoryOk = true → s.addressOk = true
  paymentReached_inventoryOk : s.paymentReached = true → s.inventoryOk = true
  started_address : Ordered (some s.startedAt) s.addressSubmittedAt
  address_inventory : Ordered s.addressSubmittedAt s.inventoryCheckedAt
  inventory_payment : Ordered s.inventoryCheckedAt s.paymentStartedAt

-- ---------------------------------------------------------------------------
-- Sessions
-- ---------------------------------------------------------------------------

section
variable {config : SimulationConfig} {d : Dimensions}

theorem probabilityVector_ok {rows : List α} {weight : α → Rat} :
    (∃ w, probabilityVector rows weight = .ok w) ↔ rows ≠ [] ∧ ∀ row ∈ rows, 0 < weight row := by
  unfold probabilityVector
  split
  · next h => exact ⟨fun _ => h, fun _ => ⟨_, rfl⟩⟩
  · next h => exact ⟨fun ⟨_, hw⟩ => absurd hw nofun, fun h' => absurd h' h⟩

theorem probabilityVector_choose {rows : List α} {weight : α → Rat}
    (h : probabilityVector rows weight = .ok w) (u : Uniform) : w.choose u ∈ rows := by
  unfold probabilityVector at h
  split at h
  · obtain rfl := Except.ok.inj h
    exact Weighted.ofRows_choose_mem u _
  · exact absurd h nofun

theorem mem_hourlySchedule {count : Nat → Nat} {t : Instant} (h : t ∈ hourlySchedule config count) :
    config.startAt ≤ t ∧ t + hour ≤ config.endAt := by
  have hdays : (1 : Int) ≤ config.durationDays := by exact_mod_cast config.durationDays_ge
  have hend : config.endAt = config.startAt + config.durationDays * day := rfl
  unfold hourlySchedule at h
  dsimp only at h
  split at h
  · rw [List.mem_singleton.mp h, hend]
    constructor
    · exact le_rfl
    · simp only [day]
      have : (0 : Int) < hour := by decide
      nlinarith
  · obtain ⟨offset, hoffset, hmem⟩ := List.mem_flatMap.mp h
    obtain ⟨-, rfl⟩ := List.mem_replicate.mp hmem
    have hlt : (offset : Int) + 1 ≤ config.durationDays * 24 := by
      have := List.mem_range.mp hoffset
      exact_mod_cast this
    have hhour : (0 : Int) < hour := by decide
    constructor
    · exact le_add_of_nonneg_right (mul_nonneg (Int.natCast_nonneg _) hhour.le)
    · rw [hend]
      simp only [day]
      nlinarith

theorem hourlySchedule_ne_nil (count : Nat → Nat) : hourlySchedule config count ≠ [] := by
  unfold hourlySchedule
  dsimp only
  split
  · exact List.cons_ne_nil _ _
  · assumption

theorem campaignId_eq_none (channel : String) (draw : Nat) :
    campaignId channel draw = none ↔ channel ∈ unattributedChannels := by
  unfold campaignId
  split
  · next h => exact iff_of_true rfl h
  · next h => exact iff_of_false nofun h

theorem selectPromotion_mem {promotions : List Promotion} {draw : SessionDraw} {start : Instant}
    (h : selectPromotion config promotions draw start region channel category = some promotion) :
    promotion ∈ promotions := by
  unfold selectPromotion at h
  split at h
  · dsimp only at h
    split at h
    · obtain rfl := Option.some.inj h
      exact List.mem_of_mem_filter (choice_mem _ _)
    · exact absurd h nofun
  · exact absurd h nofun

theorem sessionState_ok {customers : Weighted Customer} {products : Weighted Product}
    (hd : DimensionsOk config d)
    (hcustomers : probabilityVector d.customers Customer.baselineActivityScore = .ok customers)
    (hproducts : probabilityVector d.products Product.demandWeight = .ok products)
    (draw : SessionDraw) (index : Nat) {hourStart : Instant} (hge : config.startAt ≤ hourStart)
    (hle : hourStart + hour ≤ config.endAt) :
    StateOk config d (sessionState config d.promotions customers products draw index hourStart) := by
  have hcustomer := probabilityVector_choose hcustomers draw.customer
  have hsecond : integers draw.second 0 3600 < 3600 := integers_lt (by decide)
  constructor
  case customer => exact List.mem_map_of_mem hcustomer
  case product => exact List.mem_map_of_mem (probabilityVector_choose hproducts draw.product)
  case promotion =>
    intro id hid
    obtain ⟨promotion, hpromotion, rfl⟩ := Option.map_eq_some_iff.mp hid
    exact List.mem_map_of_mem (selectPromotion_mem hpromotion)
  case region =>
    simp only [sessionState]
    split
    · exact hd.customers_region _ hcustomer
    · exact config.regionChoice_mem _
  case campaign => exact campaignId_eq_none _ _
  case started_ge => exact hge.trans (le_add_of_nonneg_right (by positivity))
  case started_lt =>
    refine lt_of_lt_of_le ?_ hle
    refine (add_lt_add_iff_left _).mpr ?_
    have : (integers draw.second 0 3600 : Int) < 3600 := by exact_mod_cast hsecond
    linarith
  case address =>
    simp only [sessionState]
    split <;> simp_all
  case inventory =>
    simp only [sessionState]
    split <;> cases hok : draw.addressOk <;> simp_all
  case payment =>
    simp only [sessionState]
    cases hreached : decide (draw.addressReached.value < config.behavior.addressAttemptRate) <;>
      cases hok : draw.addressOk <;> cases hinventory : draw.inventoryOk <;>
        cases hpayment : decide (draw.paymentReached.value < config.behavior.paymentAttemptRate) <;>
          simp_all
  case addressOk_reached =>
    intro h
    exact (Bool.and_eq_true_iff.mp h).1
  case inventoryOk_addressOk =>
    intro h
    exact (Bool.and_eq_true_iff.mp h).1
  case paymentReached_inventoryOk =>
    intro h
    exact (Bool.and_eq_true_iff.mp h).1
  case started_address =>
    rintro _ ⟨⟩ t' ht'
    simp only [sessionState] at ht'
    split at ht'
    · obtain rfl := Option.some.inj ht'
      exact le_add_of_nonneg_right (by positivity)
    · exact absurd ht' nofun
  case address_inventory =>
    intro t ht t' ht'
    simp only [sessionState] at ht ht'
    rw [Option.mem_def] at ht
    rw [ht] at ht'
    dsimp only at ht'
    split at ht'
    · obtain rfl := Option.some.inj ht'
      exact le_add_of_nonneg_right (by positivity)
    · exact absurd ht' nofun
  case inventory_payment =>
    intro t ht t' ht'
    simp only [sessionState] at ht ht'
    rw [Option.mem_def] at ht
    rw [ht] at ht'
    dsimp only at ht'
    split at ht'
    · obtain rfl := Option.some.inj ht'
      exact le_add_of_nonneg_right (by positivity)
    · exact absurd ht' nofun

/-- The sessions come out, with a key of their own each, none of them paid yet. -/
theorem generateSessionState_ok (hd : DimensionsOk config d) (draws : CommerceDraws) :
    ∃ states, generateSessionState config draws d = .ok states ∧ states ≠ [] ∧
      (states.map SessionState.sessionId).Nodup ∧
      ∀ s ∈ states, StateOk config d s ∧ s.approved = false ∧ s.completedAt = none := by
  obtain ⟨customers, hcustomers⟩ :=
    probabilityVector_ok.mpr ⟨hd.customers_ne, hd.customers_weight⟩
  obtain ⟨products, hproducts⟩ := probabilityVector_ok.mpr ⟨hd.products_ne, hd.products_weight⟩
  refine ⟨_, bind_eq_ok.mpr ⟨_, hcustomers, bind_eq_ok.mpr ⟨_, hproducts, rfl⟩⟩, ?_, ?_, ?_⟩
  · rw [Ne, List.mapIdx_eq_nil_iff]
    exact hourlySchedule_ne_nil _
  · exact mapIdx_nodup fun _ _ => rfl
  · intro s hs
    obtain ⟨index, hourStart, hmem, rfl⟩ := Rows.mem_mapIdx hs
    obtain ⟨hge, hle⟩ := mem_hourlySchedule hmem
    exact ⟨sessionState_ok hd hcustomers hproducts _ _ hge hle, rfl, rfl⟩

end

-- ---------------------------------------------------------------------------
-- Payments
-- ---------------------------------------------------------------------------

/-- Nothing but the outcome of a payment is set, and only where there was one. -/
theorem setApproved_rel (states : List SessionState) (values : List Bool) :
    List.Forall₂ (fun s s' => ∃ approved, s' = s.withApproved approved ∧
      (s.paymentReached = false → s' = s)) states (setApproved states values) := by
  have same : ∀ s : SessionState, ∃ approved, s = s.withApproved approved ∧
      (s.paymentReached = false → s = s) := fun s => ⟨s.approved, rfl, fun _ => rfl⟩
  induction states generalizing values with
  | nil => cases values <;> exact .nil
  | cons s rest ih =>
    cases values with
    | nil => exact List.forall₂_same.mpr fun s _ => same s
    | cons approved values =>
      rw [setApproved]
      split
      · next hreached =>
        exact .cons ⟨approved, rfl, fun h => absurd (hreached.symm.trans h) nofun⟩ (ih values)
      · exact .cons (same s) (ih _)

theorem setApproved_filter {states : List SessionState} {values : List Bool}
    (h : (states.filter SessionState.paymentReached).length = values.length) :
    (setApproved states values).filter SessionState.paymentReached =
      (states.filter SessionState.paymentReached).zipWith SessionState.withApproved values := by
  induction states generalizing values with
  | nil => cases values <;> rfl
  | cons s rest ih =>
    cases hs : s.paymentReached with
    | true =>
      rw [List.filter_cons_of_pos hs] at h ⊢
      cases values with
      | nil => exact absurd h nofun
      | cons approved values =>
        have hset : (s.withApproved approved).paymentReached = true := hs
        rw [setApproved, if_pos hs, List.filter_cons_of_pos hset, List.zipWith_cons_cons,
          ih (Nat.succ_injective h)]
    | false =>
      have hs' : ¬ s.paymentReached = true := by rw [hs]; exact Bool.false_ne_true
      rw [List.filter_cons_of_neg hs'] at h ⊢
      cases values with
      | nil =>
        rw [List.length_nil, List.length_eq_zero_iff] at h
        rw [h, List.zipWith_nil_right]
        exact (List.filter_cons_of_neg hs').trans h
      | cons approved values =>
        rw [setApproved, if_neg hs', List.filter_cons_of_neg hs', ih h]

/-- What holds of the sessions with their payments, before any is completed. -/
structure PaidOk (config : SimulationConfig) (d : Dimensions) (states : List SessionState)
    (payments : List PaymentAttempt) : Prop where
  states_ne : states ≠ []
  states_nodup : (states.map SessionState.sessionId).Nodup
  states_ok : ∀ s ∈ states, StateOk config d s ∧ s.completedAt = none
  states_reached : ∀ s ∈ states, s.approved = true → s.paymentReached = true
  payments_ne : payments ≠ []
  payments_nodup : (payments.map PaymentAttempt.paymentAttemptId).Nodup
  /-- A session has one attempt at most. -/
  attempts_nodup : (payments.map PaymentAttempt.sessionId).Nodup
  payments_rules : ∀ p ∈ payments, p.fraudRuleVersion = "17"
  payment_state : ∀ p ∈ payments, ∃ s ∈ states, p.sessionId = s.sessionId ∧
    p.customerId = s.customerId ∧ s.paymentStartedAt = some p.attemptedAt ∧ s.approved = p.approved
  state_payment : ∀ s ∈ states, s.paymentReached = true → ∃ p ∈ payments, p.sessionId = s.sessionId ∧
    p.approved = s.approved

section
variable {config : SimulationConfig} {d : Dimensions} {draws : CommerceDraws}

theorem paymentRow_ok {row : SessionState × Nat} (h : paymentRow config draws row = .ok p) :
    ∃ region attemptedAt, row.1.paymentStartedAt = some attemptedAt ∧
      p = paymentAttempt config (draws.payment row.2) row.2 row.1 attemptedAt region := by
  obtain ⟨region, -, h⟩ := bind_eq_ok.mp h
  obtain ⟨attemptedAt, hattempted, h⟩ := bind_eq_ok.mp h
  exact ⟨region.currency, attemptedAt, need_ok.mp hattempted, (pure_eq_ok.mp h).symm⟩

theorem StateOk.withApproved {s : SessionState} (h : StateOk config d s) (approved : Bool) :
    StateOk config d (s.withApproved approved) where
  customer := h.customer
  product := h.product
  promotion := h.promotion
  region := h.region
  campaign := h.campaign
  started_ge := h.started_ge
  started_lt := h.started_lt
  address := h.address
  inventory := h.inventory
  payment := h.payment
  addressOk_reached := h.addressOk_reached
  inventoryOk_addressOk := h.inventoryOk_addressOk
  paymentReached_inventoryOk := h.paymentReached_inventoryOk
  started_address := h.started_address
  address_inventory := h.address_inventory
  inventory_payment := h.inventory_payment

/-- The attempts belong to the sessions that reached a payment, one to each. -/
theorem attempts_of_reached {reached : List SessionState} {attempts : List PaymentAttempt}
    (h : reached.zipIdx.mapM (paymentRow config draws) = .ok attempts) :
    reached.length = attempts.length ∧ ∀ pair ∈ reached.zip attempts, ∃ i region attemptedAt,
      pair.1.paymentStartedAt = some attemptedAt ∧
        pair.2 = paymentAttempt config (draws.payment i) i pair.1 attemptedAt region := by
  have hall := Rows.forall₂_zipIdx (mapM_ok.mp h)
  refine ⟨hall.length_eq, fun pair hpair => ?_⟩
  obtain ⟨i, hrow⟩ := (List.forall₂_iff_zip.mp hall).2 hpair
  obtain ⟨region, attemptedAt, hattempted, heq⟩ := paymentRow_ok hrow
  exact ⟨i, region, attemptedAt, hattempted, heq⟩

theorem attempts_ids {reached : List SessionState} {attempts : List PaymentAttempt}
    (h : reached.zipIdx.mapM (paymentRow config draws) = .ok attempts) :
    (attempts.map PaymentAttempt.paymentAttemptId).Nodup := by
  refine mapM_numbered_nodup ("PAY" ++ "-") 10 h fun row p hrow => ?_
  obtain ⟨region, attemptedAt, -, rfl⟩ := paymentRow_ok hrow
  rfl

/-- The payments come out exactly when a session reached one. -/
theorem generatePayments_returns {states : List SessionState}
    (hstates : ∀ s ∈ states, StateOk config d s) :
    (∃ result, generatePayments config draws states = .ok result) ↔
      ∃ s ∈ states, s.paymentReached = true := by
  have hsome : (∃ s ∈ states, s.paymentReached = true) ↔
      states.filter SessionState.paymentReached ≠ [] := by
    rw [Ne, List.filter_eq_nil_iff]
    push Not
    rfl
  rw [hsome]
  constructor
  · rintro ⟨result, h⟩
    obtain ⟨⟨⟩, hraise, -⟩ := bind_eq_ok.mp h
    exact raiseIf_ok.mp hraise
  · intro hne
    have hreturns : ∃ attempts, (states.filter SessionState.paymentReached).zipIdx.mapM
        (paymentRow config draws) = .ok attempts := by
      refine mapM_returns.mpr fun row hrow => ?_
      obtain ⟨hmem, hreached⟩ := List.mem_filter.mp (Rows.mem_zipIdx hrow)
      have hok := hstates row.1 hmem
      obtain ⟨region, hregion⟩ := SimulationConfig.region_isSome hok.region
      obtain ⟨t, ht⟩ := Option.isSome_iff_exists.mp (hok.payment.trans hreached)
      exact ⟨_, bind_eq_ok.mpr ⟨_, need_ok.mpr hregion, bind_eq_ok.mpr ⟨_, need_ok.mpr ht, rfl⟩⟩⟩
    obtain ⟨attempts, hattempts⟩ := hreturns
    exact ⟨_, bind_eq_ok.mpr ⟨(), raiseIf_ok.mpr hne, bind_eq_ok.mpr ⟨_, hattempts, rfl⟩⟩⟩

theorem generatePayments_ok {states₀ states : List SessionState} {payments : List PaymentAttempt}
    (hne : states₀ ≠ []) (hnodup : (states₀.map SessionState.sessionId).Nodup)
    (hstates : ∀ s ∈ states₀, StateOk config d s ∧ s.approved = false ∧ s.completedAt = none)
    (h : generatePayments config draws states₀ = .ok (payments, states)) :
    PaidOk config d states payments := by
  obtain ⟨⟨⟩, hraise, h⟩ := bind_eq_ok.mp h
  obtain ⟨attempts, hattempts, h⟩ := bind_eq_ok.mp h
  obtain ⟨rfl, rfl⟩ := Prod.mk.inj (pure_eq_ok.mp h)
  generalize hfilter : states₀.filter SessionState.paymentReached = reached at hraise hattempts
  have hreached : reached ≠ [] := raiseIf_ok.mp hraise
  obtain ⟨hlength, hpairs⟩ := attempts_of_reached hattempts
  obtain ⟨hfst, hsnd⟩ := Rows.zip_sides hlength
  have hrel := setApproved_rel states₀ (attempts.map PaymentAttempt.approved)
  have hids : (setApproved states₀ (attempts.map PaymentAttempt.approved)).map SessionState.sessionId =
      states₀.map SessionState.sessionId := by
    refine Rows.forall₂_map_eq hrel fun s s' hs => ?_
    obtain ⟨approved, rfl, -⟩ := hs
    rfl
  -- the sessions that reached a payment, with their attempts
  have hset : (setApproved states₀ (attempts.map PaymentAttempt.approved)).filter
      SessionState.paymentReached =
        (reached.zip attempts).map fun pair => pair.1.withApproved pair.2.approved := by
    rw [setApproved_filter (by rw [List.length_map, hfilter]; exact hlength), hfilter,
      List.zipWith_map_right, List.map_zip_eq_zipWith]
    rfl
  have hof : ∀ p ∈ attempts, ∃ s, (s, p) ∈ reached.zip attempts := by
    intro p hp
    rw [← hsnd] at hp
    obtain ⟨⟨s, p'⟩, hpair, rfl⟩ := List.mem_map.mp hp
    exact ⟨s, hpair⟩
  have hsessions : attempts.map PaymentAttempt.sessionId = reached.map SessionState.sessionId := by
    have hcongr : (reached.zip attempts).map (fun pair => pair.2.sessionId) =
        (reached.zip attempts).map fun pair => pair.1.sessionId := by
      refine List.map_congr_left fun pair hpair => ?_
      obtain ⟨i, region, t, -, heq⟩ := hpairs pair hpair
      rw [heq]
      rfl
    calc attempts.map PaymentAttempt.sessionId
        = (reached.zip attempts).map fun pair => pair.2.sessionId := by
          nth_rewrite 1 [← hsnd]
          exact List.map_map
      _ = (reached.zip attempts).map fun pair => pair.1.sessionId := hcongr
      _ = reached.map SessionState.sessionId := by
          nth_rewrite 2 [← hfst]
          exact List.map_map.symm
  have hstate : ∀ s ∈ setApproved states₀ (attempts.map PaymentAttempt.approved), ∃ s₀ ∈ states₀,
      ∃ approved, s = s₀.withApproved approved ∧ (s₀.paymentReached = false → s = s₀) :=
    fun s hs => Rows.forall₂_mem_right hrel hs
  constructor
  case states_ne =>
    intro hnil
    rw [hnil, List.forall₂_nil_right_iff] at hrel
    exact hne hrel
  case states_nodup => rw [hids]; exact hnodup
  case states_ok =>
    intro s hs
    obtain ⟨s₀, hs₀, approved, rfl, -⟩ := hstate s hs
    obtain ⟨hok, -, hcompleted⟩ := hstates s₀ hs₀
    exact ⟨hok.withApproved approved, hcompleted⟩
  case states_reached =>
    intro s hs happroved
    obtain ⟨s₀, hs₀, approved, rfl, hsame⟩ := hstate s hs
    by_contra hnot
    have hnot : s₀.paymentReached = false := Bool.eq_false_iff.mpr hnot
    rw [hsame hnot, (hstates s₀ hs₀).2.1] at happroved
    exact absurd happroved nofun
  case payments_ne =>
    refine byKey_ne_nil fun hnil => hreached ?_
    rw [← hfst, hnil, List.zip_nil_right]
    rfl
  case payments_nodup => exact byKey_nodup (attempts_ids hattempts)
  case attempts_nodup =>
    refine ((byKey_perm _ _).map _).nodup_iff.mpr ?_
    rw [hsessions, ← hfilter]
    exact hnodup.sublist (List.filter_sublist.map _)
  case payments_rules =>
    intro p hp
    obtain ⟨s, hpair⟩ := hof p (mem_byKey.mp hp)
    obtain ⟨i, region, t, -, heq⟩ := hpairs _ hpair
    exact congrArg PaymentAttempt.fraudRuleVersion heq
  case payment_state =>
    intro p hp
    obtain ⟨s, hpair⟩ := hof p (mem_byKey.mp hp)
    obtain ⟨i, region, t, ht, heq⟩ := hpairs _ hpair
    have hmem : s.withApproved p.approved ∈ (setApproved states₀
        (attempts.map PaymentAttempt.approved)).filter SessionState.paymentReached := by
      rw [hset]
      exact List.mem_map.mpr ⟨_, hpair, rfl⟩
    refine ⟨_, List.mem_of_mem_filter hmem, congrArg PaymentAttempt.sessionId heq,
      congrArg PaymentAttempt.customerId heq, ?_, rfl⟩
    exact ht.trans (congrArg (some ∘ PaymentAttempt.attemptedAt) heq).symm
  case state_payment =>
    intro s hs hpaid
    have hmem := List.mem_filter.mpr ⟨hs, hpaid⟩
    rw [hset] at hmem
    obtain ⟨⟨s₀, p⟩, hpair, rfl⟩ := List.mem_map.mp hmem
    obtain ⟨i, region, t, -, heq⟩ := hpairs _ hpair
    exact ⟨p, mem_byKey.mpr (List.of_mem_zip hpair).2, congrArg PaymentAttempt.sessionId heq, rfl⟩

end

end Paic.Simulator
