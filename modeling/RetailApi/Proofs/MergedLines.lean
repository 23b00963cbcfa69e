import Mathlib.Algebra.Order.Group.Abs
import RetailApi.Inventory.Procurement

/-! Purchase lines that name one SKU twice, as an order and as a receipt merge them: what happens to quantities and money. -/

namespace Inventory

open Transaction List Keyed

/-- What both loops read of an item. -/
def CreatePurchaseOrderItem.line (item : CreatePurchaseOrderItem) : Except Failure MergedReceiptLine := do
  let _ ← parseConversionFactorToTenThousandths item.conversionFactor
  let baseQtyMilli ← convertToBaseQtyMilli item.orderedQty item.conversionFactor
  let unitCostVnd ← parseMoneyToVnd item.unitCost
  return ⟨item.skuId, baseQtyMilli, unitCostVnd⟩

/-- The item as a receipt lists it. -/
def CreatePurchaseOrderItem.received (item : CreatePurchaseOrderItem) : CreateStockReceiptItem :=
  { skuId := item.skuId, qty := item.orderedQty, unitCost := some item.unitCost, conversionFactor := item.conversionFactor }

def mergeOrder (items : List CreatePurchaseOrderItem) : Except Failure (List MergedReceiptLine) :=
  items.foldlM mergePurchaseOrderItem []

def mergeReceipt (store : Store) (items : List CreatePurchaseOrderItem) : Except Failure (List MergedReceiptLine) :=
  (items.map (·.received)).foldlM (mergeReceiptItem store) []

/-- The merged lines carry the quantities and the money that was asked for, in whatever order the items came. -/
structure KeepsMoney (merge : List CreatePurchaseOrderItem → Except Failure (List MergedReceiptLine))
    (items : List CreatePurchaseOrderItem) (asked merged : List MergedReceiptLine) : Prop where
  created : merge items = .ok merged
  distinct : (merged.map (·.skuId)).Nodup
  quantities : ∀ skuId, total (·.skuId) (·.baseQtyMilli) skuId merged = total (·.skuId) (·.baseQtyMilli) skuId asked
  amount : |1000 * (merged.map fun line => valueOf line.baseQtyMilli line.unitCostVnd).sum -
    (asked.map fun line => line.baseQtyMilli * line.unitCostVnd).sum| ≤ 500 * asked.length
  unordered : ∀ other, other.Perm items → ∃ same, merge other = .ok same ∧ same.Perm merged

def gathered (combine : MergedReceiptLine → MergedReceiptLine → MergedReceiptLine) (lines : List MergedReceiptLine) :
    List MergedReceiptLine :=
  lines.foldl (fun collected line => Merge.insert (·.skuId) combine line collected) []

def MergedReceiptLine.keepLast (existing line : MergedReceiptLine) : MergedReceiptLine :=
  { existing with baseQtyMilli := existing.baseQtyMilli + line.baseQtyMilli, unitCostVnd := line.unitCostVnd }

variable {store : Store} {items : List CreatePurchaseOrderItem} {asked : List MergedReceiptLine}
  {merge : List CreatePurchaseOrderItem → Except Failure (List MergedReceiptLine)}
  {combine : MergedReceiptLine → MergedReceiptLine → MergedReceiptLine}

theorem mergeOrder_ok (read : items.mapM (·.line) = .ok asked) : mergeOrder items = .ok (gathered .keepLast asked) := by
  unfold mergeOrder gathered
  generalize ([] : List MergedReceiptLine) = collected
  induction mapM_eq_ok.mp read generalizing collected with
  | nil => rfl
  | cons first rest inner =>
    refine foldlM_cons.mpr ⟨_, ?_, inner (mapM_eq_ok.mpr rest) _⟩
    simp only [CreatePurchaseOrderItem.line, eq_ok] at first
    obtain ⟨factor, parsed, qty, converted, cost, priced, rfl⟩ := first
    simp only [mergePurchaseOrderItem, eq_ok]
    exact ⟨factor, parsed, qty, converted, cost, priced, rfl⟩

theorem mergeReceipt_ok (own : ∀ item ∈ items, assertCatalogSkuEligible store item.skuId = .ok item.skuId)
    (read : items.mapM (·.line) = .ok asked) : mergeReceipt store items = .ok (gathered .combine asked) := by
  unfold mergeReceipt gathered
  generalize ([] : List MergedReceiptLine) = collected
  induction mapM_eq_ok.mp read generalizing collected with
  | nil => rfl
  | cons first rest inner =>
    refine foldlM_cons.mpr ⟨_, ?_, inner (fun item later => own item (.tail _ later)) (mapM_eq_ok.mpr rest) _⟩
    simp only [CreatePurchaseOrderItem.line, eq_ok] at first
    obtain ⟨factor, parsed, qty, converted, cost, priced, rfl⟩ := first
    simp only [mergeReceiptItem, eq_ok]
    exact ⟨_, own _ (.head _), factor, parsed, qty, converted, cost, priced, rfl⟩

theorem line_positive (read : items.mapM (·.line) = .ok asked) {line} (member : line ∈ asked) : 0 < line.baseQtyMilli := by
  obtain ⟨item, _, made⟩ := mapM_mem read member
  simp only [CreatePurchaseOrderItem.line, convertToBaseQtyMilli, eq_ok] at made
  obtain ⟨_, _, _, ⟨_, _, _, _, _, positive, rfl⟩, _, _, rfl⟩ := made
  exact positive

structure Priced (cost : Text → Int) (line : MergedReceiptLine) : Prop where
  positive : 0 < line.baseQtyMilli
  cost : line.unitCostVnd = cost line.skuId

/-- A way to merge that leaves the cost alone where both lines agree on it. -/
structure Merges (combine : MergedReceiptLine → MergedReceiptLine → MergedReceiptLine) : Prop where
  skuId : ∀ first second, (combine first second).skuId = first.skuId
  quantity : ∀ first second, (combine first second).baseQtyMilli = first.baseQtyMilli + second.baseQtyMilli
  priced : ∀ {cost} first second, first.skuId = second.skuId → Priced cost first → Priced cost second →
    Priced cost (combine first second)

theorem keepLast_merges : Merges .keepLast where
  skuId _ _ := rfl
  quantity _ _ := rfl
  priced _ _ same before last := ⟨Int.add_pos before.positive last.positive, last.cost.trans (congrArg _ same.symm)⟩

theorem combine_merges : Merges .combine where
  skuId _ _ := rfl
  quantity _ _ := rfl
  priced {cost} first second same before last := by
    have total := Int.add_pos before.positive last.positive
    refine ⟨total, ?_⟩
    have price : second.unitCostVnd = cost first.skuId := last.cost.trans (congrArg cost same.symm)
    simp only [MergedReceiptLine.combine]
    rw [before.cost, price, ← Int.add_mul, Int.mul_comm, Int.add_comm, Int.add_mul_ediv_right _ _ total.ne',
      Int.ediv_eq_zero_of_lt (by omega) (by omega), zero_add]

section Gathered

variable {cost : Text → Int} (merges : Merges combine)
include merges

theorem gathered_distinct : ((gathered combine asked).map (·.skuId)).Nodup :=
  Merge.nodup_keys_foldl_insert merges.skuId nodup_nil

theorem gathered_total (skuId : Text) : total (·.skuId) (·.baseQtyMilli) skuId (gathered combine asked) =
    total (·.skuId) (·.baseQtyMilli) skuId asked :=
  (total_foldl_insert merges.skuId (fun first second _ => merges.quantity first second) (fun _ _ => id) asked []).trans
    (zero_add _)

theorem gathered_priced (priced : ∀ line ∈ asked, Priced cost line) : ∀ line ∈ gathered combine asked, Priced cost line :=
  Merge.forall_foldl_insert merges.priced priced (by simp)

theorem gathered_length : (gathered combine asked).length ≤ asked.length := by
  have inside : ∀ line ∈ gathered combine asked, line.skuId ∈ asked.map (·.skuId) :=
    Merge.forall_foldl_insert (fun first second _ listed _ => merges.skuId first second ▸ listed)
      (fun line => mem_map_of_mem) (by simp)
  have fits : (gathered combine asked).map (·.skuId) ⊆ asked.map (·.skuId) := by
    intro skuId listed
    obtain ⟨line, member, rfl⟩ := mem_map.mp listed
    exact inside line member
  simpa using (subperm_of_subset (gathered_distinct merges) fits).length_le

theorem gathered_worth (priced : ∀ line ∈ asked, Priced cost line) :
    ((gathered combine asked).map fun line => line.baseQtyMilli * line.unitCostVnd).sum =
      (asked.map fun line => line.baseQtyMilli * line.unitCostVnd).sum := by
  have worth : total (fun _ => ()) (fun line => line.baseQtyMilli * cost line.skuId) () (gathered combine asked) =
      total (fun _ => ()) (fun line => line.baseQtyMilli * cost line.skuId) () asked := by
    refine (total_foldl_insert (fun _ _ => (rfl : () = ())) (fun first second same => ?_) (fun _ _ _ => rfl) asked []).trans
      (zero_add _)
    rw [merges.skuId, merges.quantity, Int.add_mul, same]
  have amounts : ∀ lines : List MergedReceiptLine, (∀ line ∈ lines, Priced cost line) →
      total (fun _ => ()) (fun line => line.baseQtyMilli * cost line.skuId) () lines =
        (lines.map fun line => line.baseQtyMilli * line.unitCostVnd).sum := by
    intro lines each
    apply congrArg sum
    apply map_congr_left
    intro line member
    rw [if_pos rfl, (each line member).cost]
  rw [← amounts _ (gathered_priced merges priced), ← amounts _ priced, worth]

theorem gathered_perm {other} (same : other.Perm asked) (priced : ∀ line ∈ asked, Priced cost line) :
    (gathered combine other).Perm (gathered combine asked) := by
  have across : ∀ {first second : List MergedReceiptLine}, first.Perm second → (∀ line ∈ first, Priced cost line) →
      ∀ line ∈ gathered combine first, line ∈ gathered combine second := by
    intro first second same priced line member
    have twice : ∀ line ∈ second, Priced cost line := fun line listed => priced line (same.mem_iff.mpr listed)
    have quantity : total (·.skuId) (·.baseQtyMilli) line.skuId (gathered combine second) = line.baseQtyMilli := by
      rw [gathered_total merges, ← total_perm same, ← gathered_total merges,
        total_of_nodup (gathered_distinct merges) member]
    obtain ⟨positive, price⟩ := gathered_priced merges priced line member
    by_cases listed : ∃ twin ∈ gathered combine second, twin.skuId = line.skuId
    · obtain ⟨twin, inside, sku⟩ := listed
      have own : total (·.skuId) (·.baseQtyMilli) twin.skuId (gathered combine second) = twin.baseQtyMilli :=
        total_of_nodup (gathered_distinct merges) inside
      rw [sku, quantity] at own
      have priceToo := (gathered_priced merges twice twin inside).cost
      rw [sku, ← price] at priceToo
      cases line
      cases twin
      cases sku
      cases own
      cases priceToo
      exact inside
    · rw [total_of_absent fun twin inside sku => listed ⟨twin, inside, sku⟩] at quantity
      omega
  have again : ∀ line ∈ other, Priced cost line := fun line listed => priced line (same.mem_iff.mp listed)
  exact (perm_ext_iff_of_nodup (gathered_distinct merges).of_map (gathered_distinct merges).of_map).mpr
    fun line => ⟨across same again line, across same.symm priced line⟩

end Gathered

theorem rounded_within (lines : List MergedReceiptLine) :
    |1000 * (lines.map fun line => valueOf line.baseQtyMilli line.unitCostVnd).sum -
      (lines.map fun line => line.baseQtyMilli * line.unitCostVnd).sum| ≤ 500 * lines.length := by
  rw [abs_le]
  induction lines with
  | nil => simp
  | cons line lines inner =>
    have first : (line.baseQtyMilli * line.unitCostVnd + 500) / 1000 = valueOf line.baseQtyMilli line.unitCostVnd := rfl
    simp only [map_cons, sum_cons, length_cons]
    constructor <;> push_cast <;> omega

theorem exists_cost (one : ∀ first ∈ asked, ∀ second ∈ asked, first.skuId = second.skuId → first.unitCostVnd = second.unitCostVnd) :
    ∃ cost : Text → Int, ∀ line ∈ asked, line.unitCostVnd = cost line.skuId := by
  refine ⟨fun skuId => ((asked.find? (·.skuId = skuId)).map (·.unitCostVnd)).getD 0, fun line member => ?_⟩
  have there : (asked.find? (·.skuId = line.skuId)).isSome := find?_isSome.mpr ⟨line, member, by simp⟩
  obtain ⟨twin, found⟩ := Option.isSome_iff_exists.mp there
  show line.unitCostVnd = ((asked.find? (·.skuId = line.skuId)).map (·.unitCostVnd)).getD 0
  have sku : twin.skuId = line.skuId := by simpa using find?_some found
  rw [found]
  exact one line member twin (mem_of_find?_eq_some found) sku.symm

theorem gathered_keeps (merges : Merges combine)
    (ran : ∀ other, other.Perm items → ∀ lines, other.mapM (·.line) = .ok lines → merge other = .ok (gathered combine lines))
    (read : items.mapM (·.line) = .ok asked)
    (one : ∀ first ∈ asked, ∀ second ∈ asked, first.skuId = second.skuId → first.unitCostVnd = second.unitCostVnd) :
    KeepsMoney merge items asked (gathered combine asked) := by
  obtain ⟨cost, each⟩ := exists_cost one
  have priced : ∀ line ∈ asked, Priced cost line := fun line member => ⟨line_positive read member, each line member⟩
  refine ⟨ran items .rfl asked read, gathered_distinct merges, gathered_total merges, ?_, fun other same => ?_⟩
  · rw [← gathered_worth merges priced]
    refine (rounded_within _).trans ?_
    have fewer : (gathered combine asked).length ≤ asked.length := gathered_length merges
    omega
  · obtain ⟨lines, parsed, perm⟩ := perm_comp_forall₂ same (mapM_eq_ok.mp read)
    exact ⟨_, ran other same lines (mapM_eq_ok.mpr parsed), gathered_perm merges perm priced⟩

/-- Of the lines of a SKU, the order keeps the cost of whichever comes last. -/
theorem order_keeps_any {merged line} (keeps : KeepsMoney mergeOrder items asked merged) (read : items.mapM (·.line) = .ok asked)
    (member : line ∈ asked) : ∃ found ∈ merged, found.skuId = line.skuId ∧ found.unitCostVnd = line.unitCostVnd := by
  obtain ⟨front, back, rfl⟩ := append_of_mem member
  have moved : (front ++ back ++ [line]).Perm (front ++ line :: back) :=
    (perm_append_singleton line (front ++ back)).trans perm_middle.symm
  obtain ⟨other, parsed, perm⟩ := perm_comp_forall₂ moved (mapM_eq_ok.mp read).flip
  obtain ⟨same, ran, sameLines⟩ := keeps.unordered other perm
  rw [mergeOrder_ok (mapM_eq_ok.mpr parsed.flip), gathered, foldl_append] at ran
  cases ran
  rcases Merge.mem_insert (·.skuId) .keepLast line (gathered .keepLast (front ++ back)) with own | ⟨first, sku, own⟩
  · exact ⟨line, sameLines.mem_iff.mp own, rfl, rfl⟩
  · exact ⟨first.keepLast line, sameLines.mem_iff.mp own, sku, rfl⟩

/-- Merging keeps the money exactly when the items of a SKU agree on its cost. -/
theorem merged_money_kept_iff (store : Store) (items : List CreatePurchaseOrderItem) (asked : List MergedReceiptLine)
    (read : items.mapM (·.line) = .ok asked)
    (own : ∀ item ∈ items, assertCatalogSkuEligible store item.skuId = .ok item.skuId) :
    (∃ ordered received, KeepsMoney mergeOrder items asked ordered ∧ KeepsMoney (mergeReceipt store) items asked received) ↔
      ∀ first ∈ asked, ∀ second ∈ asked, first.skuId = second.skuId → first.unitCostVnd = second.unitCostVnd := by
  constructor
  · rintro ⟨ordered, _, keeps, _⟩ first member second memberToo sku
    obtain ⟨found, inside, named, cost⟩ := order_keeps_any keeps read member
    obtain ⟨twin, insideToo, namedToo, costToo⟩ := order_keeps_any keeps read memberToo
    have only : found = twin :=
      inj_on_of_nodup_map keeps.distinct inside insideToo (named.trans (sku.trans namedToo.symm))
    rw [← cost, ← costToo, only]
  · intro one
    refine ⟨_, _, gathered_keeps keepLast_merges (fun other _ lines => mergeOrder_ok) read one,
      gathered_keeps combine_merges (fun other same lines => mergeReceipt_ok ?_) read one⟩
    exact fun item member => own item (same.mem_iff.mp member)

def shirt (unitCost : Int) : CreatePurchaseOrderItem := { skuId := Text.ofUuid 1, orderedQty := "1", unitCost }

theorem shirts_of_one_cost :
    let asked : List MergedReceiptLine := [⟨Text.ofUuid 1, 1000, 1000⟩, ⟨Text.ofUuid 1, 1000, 1000⟩]
    (∃ ordered received, KeepsMoney mergeOrder [shirt 1000, shirt 1000] asked ordered ∧
      KeepsMoney (mergeReceipt {}) [shirt 1000, shirt 1000] asked received) ↔
      ∀ first ∈ asked, ∀ second ∈ asked, first.skuId = second.skuId → first.unitCostVnd = second.unitCostVnd :=
  merged_money_kept_iff {} _ _ (by rfl) (by intro _ _; rfl)

/-- Two shirts asked for 1000 and 2000 are ordered for 4000. -/
theorem dearer_shirt_last : ¬ ∃ ordered, KeepsMoney mergeOrder [shirt 1000, shirt 2000]
    [⟨Text.ofUuid 1, 1000, 1000⟩, ⟨Text.ofUuid 1, 1000, 2000⟩] ordered := by
  rintro ⟨ordered, keeps⟩
  have merged : mergeOrder [shirt 1000, shirt 2000] = .ok [⟨Text.ofUuid 1, 2000, 2000⟩] := by rfl
  cases merged.symm.trans keeps.created
  exact absurd keeps.amount (by decide)

end Inventory
