import Paic.Lib.Rows
import Paic.Simulator.Dimensions

/-!
# What the dimension tables hold

They come out exactly when there is a product for each warehouse. Keys are
unique, products refer to sellers and warehouses, prices are whole cents.
-/

namespace Paic.Simulator

open Checks (bind_eq_ok pure_eq_ok mapM_returns mapM_mem mapM_map need need_ok raiseIf_ok)
open Rows (map_mapIdx map_mapIdx_range)
open Sorted (byKey byKey_perm mem_byKey)

/-- A number of whole cents. -/
def IsCents (amount : Rat) : Prop := ∃ n : Int, amount * 100 = n

structure DimensionsOk (config : SimulationConfig) (d : Dimensions) : Prop where
  customers_nodup : (d.customers.map Customer.customerId).Nodup
  customers_ne : d.customers ≠ []
  customers_weight : ∀ row ∈ d.customers, 0 < row.baselineActivityScore
  customers_region : ∀ row ∈ d.customers, row.homeRegion ∈ config.regions.map RegionConfig.code
  sellers_nodup : (d.sellers.map Seller.sellerId).Nodup
  sellers_ne : d.sellers ≠ []
  warehouses_nodup : (d.warehouses.map Warehouse.warehouseId).Nodup
  warehouses_ne : d.warehouses ≠ []
  products_nodup : (d.products.map Product.productId).Nodup
  products_ne : d.products ≠ []
  products_weight : ∀ row ∈ d.products, 0 < row.demandWeight
  products_seller : ∀ row ∈ d.products, row.sellerId ∈ d.sellers.map Seller.sellerId
  products_warehouse : ∀ row ∈ d.products, row.warehouseId ∈ d.warehouses.map Warehouse.warehouseId
  products_price : ∀ row ∈ d.products, IsCents row.basePrice
  promotions_nodup : (d.promotions.map Promotion.promotionId).Nodup
  promotions_ordered : ∀ row ∈ d.promotions, row.startAt ≤ row.endAt

-- ---------------------------------------------------------------------------
-- General facts
-- ---------------------------------------------------------------------------

theorem byKey_nodup [LinearOrder κ] {key : α → κ} {l : List α} (h : (l.map key).Nodup) : ((byKey key l).map key).Nodup :=
  (List.Perm.map key (byKey_perm key l)).nodup_iff.mpr h

theorem byKey_ne_nil [LinearOrder κ] {key : α → κ} {l : List α} (h : l ≠ []) : byKey key l ≠ [] := by
  intro hnil
  have hperm := byKey_perm key l
  rw [hnil] at hperm
  exact h hperm.nil_eq.symm

/-- Rows in the order of an index, each with its own stable id. -/
theorem range_map_nodup {f : Nat → α} {key : α → String} {label : String} {width n : Nat}
    (h : ∀ i, key (f i) = stableId label width i) : (((List.range n).map f).map key).Nodup := by
  have heq : ((List.range n).map f).map key = (List.range n).map (stableId label width) := by
    rw [List.map_map]
    exact List.map_congr_left fun i _ => h i
  rw [heq]
  exact stableId_nodup label width n

theorem numbers_nodup (label : String) (width : Nat) {l : List Nat} (h : l.Nodup) :
    (l.map fun i => label ++ Numerals.padded width (i + 1)).Nodup := by
  have hnumbers := Numerals.padded_nodup label width (h.map Nat.succ_injective)
  rwa [List.map_map] at hnumbers

/-- Rows numbered one after the other. -/
theorem numbered_nodup {f : Nat → α → β} {key : β → String} {label : String} {width : Nat}
    {l : List α} (h : ∀ i a, key (f i a) = label ++ Numerals.padded width (i + 1)) :
    ((l.mapIdx f).map key).Nodup := by
  rw [map_mapIdx_range h]
  exact numbers_nodup label width List.nodup_range

/-- The same where a row may not come out. -/
theorem mapM_numbered_nodup {f : α × Nat → Except Error β} {key : β → String} {l : List α}
    (label : String) (width : Nat) (h : l.zipIdx.mapM f = .ok rows)
    (hkey : ∀ row b, f row = .ok b → key b = label ++ Numerals.padded width (row.2 + 1)) :
    (rows.map key).Nodup := by
  have hsnd : l.zipIdx.map (fun row => label ++ Numerals.padded width (row.2 + 1)) =
      (l.zipIdx.map Prod.snd).map fun i => label ++ Numerals.padded width (i + 1) := by
    rw [List.map_map]
    rfl
  rw [mapM_map h hkey, hsnd, List.zipIdx_map_snd]
  exact numbers_nodup label width List.nodup_range'

theorem mapIdx_nodup {f : Nat → α → β} {key : β → String} {label : String} {width : Nat} {l : List α}
    (h : ∀ i a, key (f i a) = stableId label width i) : ((l.mapIdx f).map key).Nodup :=
  numbered_nodup h

theorem rounded_isCents (amount : Rat) : IsCents (rounded amount) :=
  ⟨Rounding.rint (amount * 100), by rw [rounded]; ring⟩

section
variable {config : SimulationConfig}

theorem SimulationConfig.region_isSome {code : String}
    (h : code ∈ config.regions.map RegionConfig.code) : ∃ region, config.region code = some region := by
  obtain ⟨region, hmem, hcode⟩ := List.mem_map.mp h
  refine Option.isSome_iff_exists.mp (List.find?_isSome.mpr ⟨region, hmem, ?_⟩)
  exact decide_eq_true hcode

theorem SimulationConfig.regionChoice_mem (u : Uniform) :
    config.regionChoice.choose u ∈ config.regions.map RegionConfig.code := by
  have hmem := config.regionChoice.choose_mem u
  rwa [regionChoice, List.map_map] at hmem

theorem regionAt_mem (index : Nat) : regionAt config index ∈ config.regions.map RegionConfig.code :=
  choice_mem _ _

end

-- ---------------------------------------------------------------------------
-- The tables
-- ---------------------------------------------------------------------------

section
variable (config : SimulationConfig) (draws : DimensionDraws)

theorem sellerIds_nodup (count : Nat) : (sellerIds count).Nodup := by
  refine List.Nodup.sublist (List.take_sublist _ _) ?_
  refine List.Nodup.append (by decide) ?_ ?_
  · exact List.Nodup.map (fun i j h => by
      have := Numerals.append_padded_injective _ _ h
      omega) List.nodup_range
  · intro id hreserved hgeneric
    obtain ⟨i, -, rfl⟩ := List.mem_map.mp hgeneric
    have hlength : 4 ≤ (Nat.toDigits 10 (1000 + i)).length := by
      have hle := Nat.length_toDigits_le_iff (b := 10) (k := 3) (n := 1000 + i) (by decide) (by decide)
      omega
    have key : ∀ id ∈ reservedSellerIds, id.toList.length = 5 := by decide
    have h := key _ hreserved
    simp [Numerals.padded] at h
    omega

theorem sellerIds_length (count : Nat) (h : 5 ≤ count) : (sellerIds count).length = count := by
  have hreserved : reservedSellerIds.length = 3 := rfl
  simp only [sellerIds, List.length_take, List.length_append, List.length_map, List.length_range]
  omega

theorem generateSellers_ids :
    ((generateSellers config draws).map Seller.sellerId).Perm (sellerIds config.scale.sellers) := by
  refine ((byKey_perm _ _).map _).trans (.of_eq ?_)
  exact List.ext_getElem (by simp) fun i _ _ => by simp


theorem generateSellers_nodup :
    ((generateSellers config draws).map Seller.sellerId).Nodup :=
  (generateSellers_ids config draws).nodup_iff.mpr (sellerIds_nodup _)

theorem generateSellers_length : (generateSellers config draws).length = config.scale.sellers := by
  rw [← sellerIds_length _ config.scale.sellers_ge, ← (generateSellers_ids config draws).length_eq,
    List.length_map]

theorem generateSellers_ne_nil : generateSellers config draws ≠ [] := by
  intro hnil
  have hlength := generateSellers_length config draws
  rw [hnil] at hlength
  exact absurd (hlength ▸ config.scale.sellers_ge) (by decide)

theorem assignedRegions_ids_nodup : ((assignedRegions config).map Prod.fst).Nodup := by
  have hreserved : ((reservedWarehouses.take config.scale.warehouses).map Prod.fst).Nodup :=
    List.Nodup.sublist ((List.take_sublist _ _).map _) (by decide)
  have hids : (assignedRegions config).map Prod.fst =
      (reservedWarehouses.take config.scale.warehouses).map Prod.fst ++
        (List.range (config.scale.warehouses - reservedWarehouses.length)).map
          fun index => "W-" ++ Numerals.padded 0 (100 + index) := by
    rw [assignedRegions, List.map_append, List.map_map]
    refine congrArg₂ _ (map_mapIdx (fun i row => ?_) _) rfl
    rfl
  rw [hids]
  refine hreserved.append (List.Nodup.map (fun i j h => ?_) List.nodup_range) ?_
  · have := Numerals.append_padded_injective _ _ h
    omega
  · intro id hreserved hgeneric
    obtain ⟨i, -, rfl⟩ := List.mem_map.mp hgeneric
    have hlength : 3 ≤ (Nat.toDigits 10 (100 + i)).length := by
      have hle := Nat.length_toDigits_le_iff (b := 10) (k := 2) (n := 100 + i) (by decide) (by decide)
      omega
    have key : ∀ id ∈ reservedWarehouses.map Prod.fst, id.toList.length = 4 := by decide
    have h := key _ (((List.take_sublist _ _).map _).subset hreserved)
    simp [Numerals.padded] at h
    omega

theorem assignedRegions_length : (assignedRegions config).length = config.scale.warehouses := by
  have hreserved : reservedWarehouses.length = 4 := rfl
  simp only [assignedRegions, List.length_append, List.length_mapIdx, List.length_take,
    List.length_map, List.length_range]
  omega

theorem assignedRegions_code : ∀ row ∈ assignedRegions config,
    row.2 ∈ config.regions.map RegionConfig.code := by
  intro row hrow
  rcases List.mem_append.mp hrow with hrow | hrow
  · obtain ⟨i, ⟨id, region⟩, -, rfl⟩ := Rows.mem_mapIdx hrow
    dsimp only
    split
    · assumption
    · exact regionAt_mem _
  · obtain ⟨i, -, rfl⟩ := List.mem_map.mp hrow
    exact regionAt_mem _

/-- The warehouses always come out. -/
theorem generateWarehouses_ok : ∃ rows, generateWarehouses config = .ok rows ∧
    (rows.map Warehouse.warehouseId).Nodup ∧ rows.length = config.scale.warehouses := by
  have hreturns : ∃ rows, (assignedRegions config).mapM (warehouseRow config) = .ok rows := by
    refine mapM_returns.mpr fun row hrow => ?_
    obtain ⟨region, hregion⟩ := SimulationConfig.region_isSome (assignedRegions_code config row hrow)
    exact ⟨_, bind_eq_ok.mpr ⟨region, need_ok.mpr hregion, rfl⟩⟩
  obtain ⟨rows, hrows⟩ := hreturns
  have hids : rows.map Warehouse.warehouseId = (assignedRegions config).map Prod.fst := by
    refine mapM_map hrows fun row warehouse h => ?_
    obtain ⟨region, -, h⟩ := bind_eq_ok.mp h
    rw [← pure_eq_ok.mp h]
  refine ⟨_, bind_eq_ok.mpr ⟨rows, hrows, rfl⟩, byKey_nodup ?_, ?_⟩
  · rw [hids]
    exact assignedRegions_ids_nodup config
  · rw [(byKey_perm _ _).length_eq, ← List.length_map, hids, List.length_map,
      assignedRegions_length]

theorem shuffledIndices_lt (draw order : Nat → Nat) {rows : Nat} (hrows : 0 < rows) (count : Nat) :
    ∀ index ∈ shuffledIndices draw order rows count, index < rows := by
  intro index hindex
  obtain ⟨i, -, rfl⟩ := List.mem_map.mp ((shuffle_perm _ _).mem_iff.mp hindex)
  split
  · assumption
  · exact integers_lt hrows

theorem shuffledIndices_length (draw order : Nat → Nat) (rows count : Nat) :
    (shuffledIndices draw order rows count).length = count := by
  rw [shuffledIndices, (shuffle_perm _ _).length_eq, List.length_map, List.length_range]

theorem productRow_ok {sellers : List Seller} {warehouses : List Warehouse}
    {row : (Nat × Nat) × Nat} (h : productRow config draws sellers warehouses row = .ok product) :
    ∃ seller ∈ sellers, ∃ warehouse ∈ warehouses, sellers[row.1.1]? = some seller ∧
      warehouses[row.1.2]? = some warehouse ∧
      product = productOf config (draws.product row.2) row.2 seller warehouse := by
  obtain ⟨seller, hseller, h⟩ := bind_eq_ok.mp h
  obtain ⟨warehouse, hwarehouse, h⟩ := bind_eq_ok.mp h
  rw [need_ok] at hseller hwarehouse
  exact ⟨seller, List.mem_of_getElem? hseller, warehouse, List.mem_of_getElem? hwarehouse,
    hseller, hwarehouse, (pure_eq_ok.mp h).symm⟩

/-- What the products are computed from. -/
def productPlaces (sellers : List Seller) (warehouses : List Warehouse) : List ((Nat × Nat) × Nat) :=
  ((shuffledIndices (fun i => (draws.product i).sellerIndex) draws.sellerShuffle sellers.length
      config.scale.products).zip
    (shuffledIndices (fun i => (draws.product i).warehouseIndex) draws.warehouseShuffle
      warehouses.length config.scale.products)).zipIdx

theorem generateProducts_ok_iff {sellers : List Seller} {warehouses : List Warehouse} :
    generateProducts config draws sellers warehouses = .ok products ↔
      warehouses.length ≤ config.scale.products ∧
        ∃ rows, (productPlaces config draws sellers warehouses).mapM
          (productRow config draws sellers warehouses) = .ok rows ∧
          byKey Product.productId rows = products := by
  constructor
  · intro h
    obtain ⟨⟨⟩, hraise, h⟩ := bind_eq_ok.mp h
    obtain ⟨rows, hrows, h⟩ := bind_eq_ok.mp h
    exact ⟨not_lt.mp (raiseIf_ok.mp hraise), rows, hrows, pure_eq_ok.mp h⟩
  · rintro ⟨hle, rows, hrows, rfl⟩
    exact bind_eq_ok.mpr ⟨(), raiseIf_ok.mpr (not_lt.mpr hle), bind_eq_ok.mpr ⟨rows, hrows, rfl⟩⟩

theorem productPlaces_length (sellers : List Seller) (warehouses : List Warehouse) :
    (productPlaces config draws sellers warehouses).length = config.scale.products := by
  simp [productPlaces, shuffledIndices_length]

section
variable {sellers : List Seller} {warehouses : List Warehouse} (hsellers : sellers ≠ [])
  (hwarehouses : warehouses ≠ [])
include hsellers hwarehouses

theorem productPlaces_lt (hrow : row ∈ productPlaces config draws sellers warehouses) :
    row.1.1 < sellers.length ∧ row.1.2 < warehouses.length := by
  obtain ⟨⟨i, j⟩, index⟩ := row
  obtain ⟨hi, hj⟩ := List.of_mem_zip (Rows.mem_zipIdx hrow)
  exact ⟨shuffledIndices_lt _ _ (List.length_pos_of_ne_nil hsellers) _ _ hi,
    shuffledIndices_lt _ _ (List.length_pos_of_ne_nil hwarehouses) _ _ hj⟩

/-- The products come out exactly when there is one for each warehouse. -/
theorem generateProducts_returns :
    (∃ products, generateProducts config draws sellers warehouses = .ok products) ↔
      warehouses.length ≤ config.scale.products := by
  refine ⟨fun ⟨products, h⟩ => ((generateProducts_ok_iff config draws).mp h).1, fun hle => ?_⟩
  have hreturns : ∃ rows, (productPlaces config draws sellers warehouses).mapM
      (productRow config draws sellers warehouses) = .ok rows := by
    refine mapM_returns.mpr fun row hrow => ?_
    obtain ⟨hi, hj⟩ := productPlaces_lt config draws hsellers hwarehouses hrow
    exact ⟨_, bind_eq_ok.mpr ⟨_, need_ok.mpr (List.getElem?_eq_getElem hi),
      bind_eq_ok.mpr ⟨_, need_ok.mpr (List.getElem?_eq_getElem hj), rfl⟩⟩⟩
  obtain ⟨rows, hrows⟩ := hreturns
  exact ⟨_, (generateProducts_ok_iff config draws).mpr ⟨hle, rows, hrows, rfl⟩⟩

end

theorem mem_generateProducts {sellers : List Seller} {warehouses : List Warehouse}
    (h : generateProducts config draws sellers warehouses = .ok products)
    (hmem : product ∈ products) : ∃ seller ∈ sellers, ∃ warehouse ∈ warehouses, ∃ index,
      product = productOf config (draws.product index) index seller warehouse := by
  obtain ⟨-, rows, hrows, rfl⟩ := (generateProducts_ok_iff config draws).mp h
  obtain ⟨row, -, hrow⟩ := (Checks.mapM_mem hrows).mp (mem_byKey.mp hmem)
  obtain ⟨seller, hseller, warehouse, hwarehouse, -, -, heq⟩ := productRow_ok config draws hrow
  exact ⟨seller, hseller, warehouse, hwarehouse, row.2, heq⟩

theorem generateProducts_nodup {sellers : List Seller} {warehouses : List Warehouse}
    (h : generateProducts config draws sellers warehouses = .ok products) :
    (products.map Product.productId).Nodup := by
  obtain ⟨-, rows, hrows, rfl⟩ := (generateProducts_ok_iff config draws).mp h
  refine byKey_nodup (mapM_numbered_nodup ("PRD" ++ "-") 7 hrows fun row product h => ?_)
  obtain ⟨seller, -, warehouse, -, -, -, rfl⟩ := productRow_ok config draws h
  rfl

theorem generateProducts_length {sellers : List Seller} {warehouses : List Warehouse}
    (h : generateProducts config draws sellers warehouses = .ok products) :
    products.length = config.scale.products := by
  obtain ⟨-, rows, hrows, rfl⟩ := (generateProducts_ok_iff config draws).mp h
  rw [(byKey_perm _ _).length_eq, ← (Checks.mapM_ok.mp hrows).length_eq, productPlaces_length]

theorem generatePromotions_ordered : ∀ row ∈ generatePromotions config draws,
    row.startAt ≤ row.endAt := by
  intro row hrow
  obtain ⟨index, -, rfl⟩ := List.mem_map.mp (mem_byKey.mp hrow)
  have hdays : (1 : Int) ≤ config.durationDays := by exact_mod_cast config.durationDays_ge
  have hend : config.endAt = config.startAt + config.durationDays * day := rfl
  dsimp only
  refine le_min ?_ ?_
  · exact le_add_of_nonneg_right (by positivity)
  · have hpos : 0 < (config.endAt - 12 * hour - (config.startAt - 3 * day)).toNat := by
      refine Int.pos_iff_toNat_pos.mp ?_
      rw [hend]
      linarith [show (0 : Int) ≤ config.durationDays * day by positivity]
    have hlt : integers (draws.promotion index).startAt 0 _ < _ := integers_lt hpos
    have hlt := Int.lt_toNat.mp hlt
    have : (0 : Int) < hour := by decide
    linarith

end

/-- The dimensions come out exactly when there is a product for each warehouse. -/
theorem generateDimensions_returns (config : SimulationConfig) (draws : DimensionDraws) :
    (∃ d, generateDimensions config draws = .ok d) ↔
      config.scale.warehouses ≤ config.scale.products := by
  obtain ⟨warehouses, hwarehouses, -, hlength⟩ := generateWarehouses_ok config
  have hne : warehouses ≠ [] := by
    rintro rfl
    exact absurd (hlength ▸ config.scale.warehouses_ge) (by decide)
  have hreturns := generateProducts_returns config draws (generateSellers_ne_nil config draws) hne
  rw [hlength] at hreturns
  rw [← hreturns]
  constructor
  · rintro ⟨d, h⟩
    obtain ⟨warehouses', hwarehouses', h⟩ := bind_eq_ok.mp h
    obtain rfl := Except.ok.inj (hwarehouses.symm.trans hwarehouses')
    obtain ⟨products, hproducts, -⟩ := bind_eq_ok.mp h
    exact ⟨products, hproducts⟩
  · rintro ⟨products, hproducts⟩
    exact ⟨_, bind_eq_ok.mpr ⟨_, hwarehouses, bind_eq_ok.mpr ⟨_, hproducts, rfl⟩⟩⟩

theorem generateDimensions_ok {config : SimulationConfig} {draws : DimensionDraws}
    (h : generateDimensions config draws = .ok d) : DimensionsOk config d := by
  obtain ⟨rows, hrows, hnodup, hlength⟩ := generateWarehouses_ok config
  obtain ⟨warehouses, hwarehouses, h⟩ := bind_eq_ok.mp h
  obtain rfl := Except.ok.inj (hrows.symm.trans hwarehouses)
  obtain ⟨products, hproducts, h⟩ := bind_eq_ok.mp h
  obtain rfl := pure_eq_ok.mp h
  have hcustomers : ∀ row ∈ generateCustomers config draws, ∃ index,
      row.homeRegion = config.regionChoice.choose (draws.customer index).homeRegion ∧
        row.baselineActivityScore = clip (draws.customer index).activity (8 / 100) 12 := by
    intro row hrow
    obtain ⟨index, -, rfl⟩ := List.mem_map.mp (mem_byKey.mp hrow)
    exact ⟨index, rfl, rfl⟩
  constructor
  case customers_nodup => exact byKey_nodup (range_map_nodup fun _ => rfl)
  case customers_ne =>
    refine byKey_ne_nil fun hnil => ?_
    have hge := config.scale.customers_ge
    rw [List.map_eq_nil_iff, List.range_eq_nil] at hnil
    omega
  case customers_weight =>
    intro row hrow
    obtain ⟨index, -, hweight⟩ := hcustomers row hrow
    rw [hweight]
    exact lt_of_lt_of_le (by norm_num) (clip_ge (by norm_num))
  case customers_region =>
    intro row hrow
    obtain ⟨index, hregion, -⟩ := hcustomers row hrow
    rw [hregion]
    exact config.regionChoice_mem _
  case sellers_nodup => exact generateSellers_nodup config draws
  case sellers_ne => exact generateSellers_ne_nil config draws
  case warehouses_nodup => exact hnodup
  case warehouses_ne =>
    rintro rfl
    exact absurd (hlength ▸ config.scale.warehouses_ge) (by decide)
  case products_nodup => exact generateProducts_nodup config draws hproducts
  case products_ne =>
    rintro rfl
    have hlength := generateProducts_length config draws hproducts
    exact absurd (hlength ▸ config.scale.products_ge) (by decide)
  case products_weight =>
    intro row hrow
    obtain ⟨_, -, _, -, index, rfl⟩ := mem_generateProducts config draws hproducts hrow
    exact lt_of_lt_of_le (by norm_num) (clip_ge (by norm_num))
  case products_seller =>
    intro row hrow
    obtain ⟨seller, hseller, _, -, index, rfl⟩ := mem_generateProducts config draws hproducts hrow
    exact List.mem_map_of_mem hseller
  case products_warehouse =>
    intro row hrow
    obtain ⟨_, -, warehouse, hwarehouse, index, rfl⟩ :=
      mem_generateProducts config draws hproducts hrow
    exact List.mem_map_of_mem hwarehouse
  case products_price =>
    intro row hrow
    obtain ⟨_, -, _, -, index, rfl⟩ := mem_generateProducts config draws hproducts hrow
    exact rounded_isCents _
  case promotions_nodup => exact byKey_nodup (range_map_nodup fun _ => rfl)
  case promotions_ordered => exact generatePromotions_ordered config draws

end Paic.Simulator
