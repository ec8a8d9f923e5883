import Paic.Lib.Checks
import Paic.Lib.Sorted
import Paic.Simulator.Tables
import Mathlib

/-!
# Dimension tables

Customers, sellers, warehouses, products and promotions.
-/

namespace Paic.Simulator

open Checks (need raiseIf)
open Detection (Instant)
open Numerals (padded)
open Sorted (byKey)

structure CustomerDraw where
  activity : Rat
  returnPropensity : Rat
  homeRegion : Uniform
  preferredDevice : Uniform
  preferredPaymentMethod : Uniform
  issuer : Uniform

structure SellerDraw where
  reliability : Rat
  categoryFocus : Uniform
  feedSchemaVersion : Uniform

structure ProductDraw where
  sellerIndex : Nat
  followFocus : Uniform
  category : Uniform
  price : Rat
  demand : Rat
  returnPropensity : Rat
  reorderPoint : Nat
  warehouseIndex : Nat

structure PromotionDraw where
  startAt : Nat
  duration : Nat
  channel : Uniform
  region : Uniform
  category : Uniform
  discountPct : Nat

structure DimensionDraws where
  customer : Nat → CustomerDraw
  seller : Nat → SellerDraw
  product : Nat → ProductDraw
  sellerShuffle : Nat → Nat
  warehouseShuffle : Nat → Nat
  promotion : Nat → PromotionDraw

section
variable (config : SimulationConfig) (draws : DimensionDraws)

/-- `_generate_customers` -/
def generateCustomers : List Customer :=
  byKey Customer.customerId <| (List.range config.scale.customers).map fun index =>
    let draw := draws.customer index
    { customerId := stableId "CUS" 8 index
      homeRegion := config.regionChoice.choose draw.homeRegion
      preferredDevice := config.deviceChoice.choose draw.preferredDevice
      preferredPaymentMethod := config.paymentMethodChoice.choose draw.preferredPaymentMethod
      issuer := config.issuerChoice.choose draw.issuer
      baselineActivityScore := clip draw.activity (8 / 100) 12
      baselineReturnPropensity := clip draw.returnPropensity (1 / 100) (65 / 100) }

/-- The ids of the first sellers. -/
def reservedSellerIds : List String := ["S-101", "S-204", "S-305"]

def sellerIds (count : Nat) : List String :=
  let genericIds := (List.range (count - reservedSellerIds.length)).map fun index =>
    "S-" ++ padded 0 (1000 + index)
  (reservedSellerIds ++ genericIds).take count

/-- Category and schema version of `reserved_profiles`. -/
def reservedProfiles : List (String × String × String) :=
  [("S-101", "home", "v2"), ("S-204", "consumer-electronics", "v2"), ("S-305", "apparel", "v2")]

def feedSchemaVersions : Weighted String where
  options := [("v2", 82 / 100), ("v3", 18 / 100)]
  nonempty := nofun
  positive := by decide +kernel

/-- `_generate_sellers` -/
def generateSellers : List Seller :=
  byKey Seller.sellerId <| (sellerIds config.scale.sellers).mapIdx fun index sellerId =>
    let draw := draws.seller index
    let category := config.categoryChoice.choose draw.categoryFocus
    let profile := reservedProfiles.lookup sellerId
    { sellerId
      categoryFocus := match profile with
        | some (reserved, _) =>
          if reserved ∈ config.categories.map WeightedValue.value then reserved else category
        | none => category
      feedSchemaVersion := match profile with
        | some (_, version) => version
        | none => feedSchemaVersions.choose draw.feedSchemaVersion
      feedReliability := clip draw.reliability (8 / 10) (999 / 1000) }

def reservedWarehouses : List (String × String) :=
  [("W-12", "IN-NORTH"), ("W-17", "IN-WEST"), ("W-22", "IN-SOUTH"), ("W-31", "IN-EAST")]

/-- `region_codes[index % len(region_codes)]` and `rng.choice(region_values)` -/
def regionAt (index : Nat) : String :=
  choice index (config.regions.map RegionConfig.code) <| by
    simpa using ne_nil_of_length_ge config.regions_ge (by decide)

/-- The ids of the warehouses with their `assigned_regions`. -/
def assignedRegions : List (String × String) :=
  let count := config.scale.warehouses
  let reserved := reservedWarehouses.take count
  let generic := count - reservedWarehouses.length
  let regionCodes := config.regions.map RegionConfig.code
  (reserved.mapIdx fun index (warehouseId, region) =>
    (warehouseId, if region ∈ regionCodes then region else regionAt config index)) ++
  (List.range generic).map fun index => ("W-" ++ padded 0 (100 + index), regionAt config index)

def warehouseRow (assigned : String × String) : Except Error Warehouse := do
  let region ← need (config.region assigned.2) (.keyError assigned.2)
  return { warehouseId := assigned.1, region := assigned.2, serviceLevelDays := region.deliveryDays }

/-- `_generate_warehouses` -/
def generateWarehouses : Except Error (List Warehouse) := do
  let rows ← (assignedRegions config).mapM (warehouseRow config)
  return byKey Warehouse.warehouseId rows

/-- Every index of the rows once at the front, in the order of a shuffle. -/
def shuffledIndices (draw : Nat → Nat) (order : Nat → Nat) (rows count : Nat) : List Nat :=
  shuffle order <| (List.range count).map fun index =>
    if index < rows then index else integers (draw index) 0 rows

/-- A row of `_generate_products`. -/
def productOf (draw : ProductDraw) (index : Nat) (seller : Seller) (warehouse : Warehouse) :
    Product :=
  let followFocus := draw.followFocus.value < 72 / 100 ∨ seller.sellerId ∈ reservedSellerIds
  { productId := stableId "PRD" 7 index
    sellerId := seller.sellerId
    warehouseId := warehouse.warehouseId
    category :=
      if followFocus then seller.categoryFocus else config.categoryChoice.choose draw.category
    basePrice := rounded (clip draw.price 3 2500)
    demandWeight := clip draw.demand (2 / 100) 50
    returnPropensity := clip draw.returnPropensity (1 / 100) (65 / 100)
    reorderPoint := integers draw.reorderPoint 5 101 }

def productRow (sellers : List Seller) (warehouses : List Warehouse) (row : (Nat × Nat) × Nat) :
    Except Error Product := do
  let seller ← need sellers[row.1.1]? (.keyError s!"{row.1.1}")
  let warehouse ← need warehouses[row.1.2]? (.keyError s!"{row.1.2}")
  return productOf config (draws.product row.2) row.2 seller warehouse

/-- `_generate_products` -/
def generateProducts (sellers : List Seller) (warehouses : List Warehouse) :
    Except Error (List Product) := do
  let count := config.scale.products
  let sellerIndices :=
    shuffledIndices (fun i => (draws.product i).sellerIndex) draws.sellerShuffle sellers.length count
  -- the indices of the warehouses are written over the first ones drawn
  raiseIf (count < warehouses.length) (.valueError
    s!"could not broadcast input array from shape ({warehouses.length},) into shape ({count},)")
  let warehouseIndices :=
    shuffledIndices (fun i => (draws.product i).warehouseIndex) draws.warehouseShuffle
      warehouses.length count
  let rows ← (sellerIndices.zip warehouseIndices).zipIdx.mapM
    (productRow config draws sellers warehouses)
  return byKey Product.productId rows

def discounts : List Rat := [5 / 100, 10 / 100, 15 / 100, 20 / 100, 25 / 100]

/-- `_generate_promotions` -/
def generatePromotions : List Promotion :=
  byKey Promotion.promotionId <| (List.range config.scale.promotions).map fun index =>
    let draw := draws.promotion index
    let first := config.startAt - 3 * day
    let last := config.endAt - 12 * hour
    -- `random_datetimes(rng, first, last, count)`
    let startAt := first + integers draw.startAt 0 (last - first).toNat
    let duration := integers draw.duration 12 (max 13 (min (config.durationDays * 24) 168))
    { promotionId := stableId "PRO" 5 index
      channel := config.channelChoice.choose draw.channel
      region := config.regionChoice.choose draw.region
      category := config.categoryChoice.choose draw.category
      startAt
      endAt := min (startAt + duration * hour) config.endAt
      discountPct := rounded (choice draw.discountPct discounts nofun) }

/-- `generate_dimensions` -/
def generateDimensions : Except Error Dimensions := do
  let warehouses ← generateWarehouses config
  let sellers := generateSellers config draws
  let customers := generateCustomers config draws
  let products ← generateProducts config draws sellers warehouses
  let promotions := generatePromotions config draws
  return { customers, sellers, warehouses, products, promotions }

end

end Paic.Simulator
