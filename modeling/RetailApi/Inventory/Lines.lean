import RetailApi.Base.Rows
import RetailApi.Inventory.Store

/-! Request lines: duplicates merged by their texts and sorted, and the order in which
stored lines are locked. -/

namespace Inventory

open Transaction

structure StockLine where
  warehouseId : Text
  skuId : Text
  qty : String

structure NormalizedSkuQtyLine where
  warehouseId : Text
  skuId : Text
  qtyMilli : Int

/-- The key `warehouseId:skuId` of the merge map. -/
def NormalizedSkuQtyLine.texts (line : NormalizedSkuQtyLine) : Text × Text := (line.warehouseId, line.skuId)

def NormalizedSkuQtyLine.combine (existing line : NormalizedSkuQtyLine) : NormalizedSkuQtyLine :=
  { existing with qtyMilli := existing.qtyMilli + line.qtyMilli }

def NormalizedSkuQtyLine.before (left right : NormalizedSkuQtyLine) : Prop :=
  if left.warehouseId = right.warehouseId then left.skuId.le right.skuId = true
  else left.warehouseId.le right.warehouseId = true

open NormalizedSkuQtyLine

instance : DecidableRel before := fun left right => by
  unfold before
  infer_instance

/-- Combines lines with equal texts and sorts them by warehouse and SKU text. -/
def normalizeAndSortWarehouseLines (lines : List StockLine) : Except Failure (List NormalizedSkuQtyLine) := do
  ensure (lines ≠ []) (.domain .invalidQuantity "At least one stock line is required" 400)
  let merged ← lines.foldlM (fun merged line => do
    let qtyMilli ← parseQtyToMilli line.qty false false
    return Merge.insert texts combine
      ⟨line.warehouseId, line.skuId, qtyMilli⟩ merged) []
  return merged.insertionSort before

/-- `ORDER BY sku_id ASC` -/
def orderBySku {α : Type} (skuId : α → Uuid) (lines : List α) : List α :=
  lines.insertionSort fun left right => skuId left ≤ skuId right

theorem orderBySku_perm {α : Type} (skuId : α → Uuid) (lines : List α) : (orderBySku skuId lines).Perm lines :=
  List.perm_insertionSort _ lines

theorem orderBySku_nodup {α : Type} {skuId : α → Uuid} {lines : List α} (distinct : (lines.map skuId).Nodup) :
    ((orderBySku skuId lines).map skuId).Nodup :=
  (((orderBySku_perm skuId lines).map _).nodup_iff).mpr distinct

theorem normalizeAndSortWarehouseLines_ok {lines normalized} (accepted : normalizeAndSortWarehouseLines lines = .ok normalized) :
    (normalized.map (·.texts)).Nodup ∧ ∀ line ∈ normalized, ∃ given ∈ lines, line.texts = (given.warehouseId, given.skuId) := by
  simp only [normalizeAndSortWarehouseLines, eq_ok] at accepted
  obtain ⟨_, _, merged, collected, rfl⟩ := accepted
  have sorted := List.perm_insertionSort before merged
  have kept : ∀ first second : NormalizedSkuQtyLine, (first.combine second).texts = first.texts :=
    fun _ _ => rfl
  have gathered : (merged.map (·.texts)).Nodup ∧
      ∀ texts ∈ merged.map (·.texts), ∃ given ∈ lines, texts = (given.warehouseId, given.skuId) := by
    refine foldlM_links (fun finished merged => (merged.map (·.texts)).Nodup ∧
      ∀ texts ∈ merged.map (·.texts), ∃ given ∈ finished, texts = (given.warehouseId, given.skuId)) ?_ ?_ collected
    · simp
    · intro finished line rest before after _ linked stepped
      simp only [eq_ok] at stepped
      obtain ⟨qtyMilli, _, rfl⟩ := stepped
      refine ⟨Merge.nodup_keys_insert kept _ linked.1, fun texts member => ?_⟩
      rcases (Merge.mem_keys_insert kept _ before texts).mp member with same | listed
      · exact ⟨line, by simp, same⟩
      · obtain ⟨given, inside, same⟩ := linked.2 texts listed
        exact ⟨given, by simp [inside], same⟩
  refine ⟨((sorted.map _).nodup_iff).mpr gathered.1, fun line member => ?_⟩
  exact gathered.2 line.texts (List.mem_map_of_mem (sorted.mem_iff.mp member))

end Inventory
