import RetailApi.Base.Run
import RetailApi.Proofs.Quantities
import RetailApi.Proofs.TransferOperations

/-! Receiving against a purchase order: what the order counts as received is what its
receipts put on the shelf, as long as a request names each SKU once. -/

namespace Inventory

open Transaction Text List Change Run

def PurchaseOrder.receivedOf (order : PurchaseOrder) (skuId : Uuid) : Int :=
  (order.items.map fun item => if item.skuId = skuId then item.receivedQty else 0).sum

def StockReceipt.qtyOf (receipt : StockReceipt) (skuId : Uuid) : Int :=
  (receipt.items.map fun item => if item.skuId = skuId then item.qty else 0).sum

def Store.postedQty (store : Store) (poId skuId : Uuid) : Int :=
  store.receipts.sumBy fun _ receipt =>
    if receipt.purchaseOrderId = some poId ∧ receipt.status = .posted then receipt.qtyOf skuId else 0

def amountOf (amounts : List (Text × Int)) (skuId : Uuid) : Int :=
  (amounts.map fun amount => if amount.1 = ofUuid skuId then amount.2 else 0).sum

theorem amountOf_append (first second : List (Text × Int)) (skuId : Uuid) :
    amountOf (first ++ second) skuId = amountOf first skuId + amountOf second skuId := by
  rw [amountOf, map_append, sum_append]
  rfl

structure AsksFor (item : CreateStockReceiptItem) (amount : Text × Int) : Prop where
  sku : item.skuId = amount.1
  qty : item.qty = formatMilliToQty amount.2
  positive : 0 < amount.2
  plain : item.conversionFactor = none

section Order

variable {order : PurchaseOrder} {new item : PurchaseOrderItem}

theorem receivedOf_setItem {old} (member : old ∈ order.items) (same : new.skuId = old.skuId) (skuId : Uuid) :
    (order.setItem new).receivedOf skuId =
      order.receivedOf skuId + if old.skuId = skuId then new.receivedQty - old.receivedQty else 0 := by
  have replaced := Merge.sum_replace order.distinct member same fun item =>
    if item.skuId = skuId then item.receivedQty else 0
  simp only [PurchaseOrder.receivedOf, PurchaseOrder.setItem]
  rw [replaced, same]
  split <;> omega

theorem mem_setItem (member : item ∈ order.items) (other : item.skuId ≠ new.skuId) : item ∈ (order.setItem new).items :=
  mem_map.mpr ⟨item, member, if_neg other⟩

structure LinesTaken (header : PurchaseOrder) (finished : List ReceivePurchaseOrderLine)
    (progress : PurchaseOrder × List CreateStockReceiptItem) (amounts : List (Text × Int)) : Prop where
  texts : amounts.map (·.1) = finished.map (·.skuId)
  items : Forall₂ AsksFor progress.2 amounts
  printed : ∀ amount ∈ amounts, ∃ item ∈ header.items, amount.1 = ofUuid item.skuId
  received : ∀ skuId, progress.1.receivedOf skuId = header.receivedOf skuId + amountOf amounts skuId
  untouched : ∀ item ∈ header.items, (∀ line ∈ finished, line.skuId ≠ ofUuid item.skuId) → item ∈ progress.1.items
  warehouse : progress.1.warehouseId = header.warehouseId

theorem checkedPurchaseOrderItem_ok {skuId orderedQty receivedQty unitCost}
    (checked : checkedPurchaseOrderItem skuId orderedQty receivedQty unitCost = .ok item) :
    item.skuId = skuId ∧ item.receivedQty = receivedQty := by
  unfold checkedPurchaseOrderItem at checked
  split at checked
  · cases checked
    exact ⟨rfl, rfl⟩
  · cases checked

theorem ofUuid_injective {first second} (same : ofUuid first = ofUuid second) : first = second := by
  injection same

theorem receivePurchaseOrderLines_ok {header} {lines}
    {result} (once : (lines.map (·.skuId)).Nodup)
    (ran : lines.foldlM (receivePurchaseOrderLine header) (header, []) = .ok result) :
    ∃ amounts, LinesTaken header lines result amounts := by
  refine foldlM_links (fun finished progress => ∃ amounts, LinesTaken header finished progress amounts)
    ⟨[], rfl, .nil, by simp, fun skuId => by simp [amountOf], fun item member _ => member, rfl⟩ ?_ ran
  rintro finished line rest progress next whole ⟨amounts, taken⟩ stepped
  simp only [receivePurchaseOrderLine, eq_ok] at stepped
  obtain ⟨dbItem, found, receiveNow, parsed, _, _, unitCost, _, received, checked, rfl⟩ := stepped
  have listed : dbItem ∈ header.items := mem_of_find?_eq_some found
  have named : ofUuid dbItem.skuId = line.skuId := by simpa using find?_some found
  obtain ⟨sku, qty⟩ := checkedPurchaseOrderItem_ok checked
  have fresh := nodup_split (whole ▸ once)
  -- the line is still as it was read: no earlier request line named its SKU
  have current : dbItem ∈ progress.1.items :=
    taken.untouched dbItem listed fun other member same => fresh other member (same.trans named)
  refine ⟨amounts ++ [(line.skuId, receiveNow)], ?_, ?_, ?_, fun skuId => ?_, fun item member outside => ?_, ?_⟩
  · rw [map_append, taken.texts, map_append]
    rfl
  · refine rel_append taken.items (.cons ⟨rfl, rfl, parseQtyToMilli_pos parsed, rfl⟩ .nil)
  · intro amount member
    rcases mem_append.mp member with earlier | last
    · exact taken.printed amount earlier
    · rw [mem_singleton] at last
      exact ⟨dbItem, listed, by rw [last, ← named]⟩
  · have last : amountOf [(line.skuId, receiveNow)] skuId = if dbItem.skuId = skuId then receiveNow else 0 := by
      simp only [amountOf, map_cons, map_nil, sum_cons, sum_nil, add_zero, ← named]
      exact if_congr ⟨ofUuid_injective, fun same => by rw [same]⟩ rfl rfl
    rw [receivedOf_setItem current sku, taken.received skuId, qty, amountOf_append, last, add_sub_cancel_left, add_assoc]
  · refine mem_setItem (taken.untouched item member fun other inside => outside other (by simp [inside])) ?_
    rw [sku]
    intro same
    exact outside line (by simp) (by rw [same, named])
  · exact taken.warehouse

end Order

section Receipt

variable {store after : Store}

def ResolvesToItself (store : Store) (text : Text) : Prop :=
  ∀ resolved, assertCatalogSkuEligible store text = .ok resolved → resolved = text

structure Merged (amounts : List (Text × Int)) (merged : List MergedReceiptLine) : Prop where
  total : ∀ skuId, (merged.map fun line => if line.skuId = ofUuid skuId then line.baseQtyMilli else 0).sum =
    amountOf amounts skuId
  printed : ∀ line ∈ merged, ∃ skuId, line.skuId = ofUuid skuId

theorem MergedReceiptLine.combine_skuId (first second : MergedReceiptLine) :
    (first.combine second).skuId = first.skuId := rfl

theorem MergedReceiptLine.combine_baseQtyMilli (first second : MergedReceiptLine) :
    (first.combine second).baseQtyMilli = first.baseQtyMilli + second.baseQtyMilli := rfl

variable {amounts : List (Text × Int)}

theorem mergeReceiptItem_ok {merged next item amount skuId} (asks : AsksFor item amount)
    (named : amount.1 = ofUuid skuId) (resolves : ResolvesToItself store amount.1) (before : Merged amounts merged)
    (stepped : mergeReceiptItem store merged item = .ok next) : Merged (amounts ++ [amount]) next := by
  simp only [mergeReceiptItem, eq_ok] at stepped
  obtain ⟨resolved, eligible, factor, _, qty, converted, cost, _, rfl⟩ := stepped
  rw [asks.sku] at eligible
  obtain rfl := resolves resolved eligible
  have base : qty = amount.2 := by
    rw [asks.qty, asks.plain] at converted
    simp only [convertToBaseQtyMilli, eq_ok, parseQtyToMilli_format asks.positive, parseConversionFactorToTenThousandths,
      Except.ok.injEq] at converted
    obtain ⟨_, rfl, _, rfl, _, _, rfl⟩ := converted
    omega
  refine ⟨fun other => ?_, fun line member => ?_⟩
  · rw [Merge.sum_insert (fun first second same => ?_), before.total other, amountOf_append]
    · simp [amountOf, base]
    · have texts : first.skuId = second.skuId := same
      rw [MergedReceiptLine.combine_skuId, MergedReceiptLine.combine_baseQtyMilli, texts]
      split <;> omega
  · have key : line.skuId ∈ (Merge.insert MergedReceiptLine.skuId MergedReceiptLine.combine ⟨amount.1, qty, cost⟩
        merged).map (·.skuId) := mem_map_of_mem member
    rcases (Merge.mem_keys_insert MergedReceiptLine.combine_skuId _ merged line.skuId).mp key with same | listed
    · exact ⟨skuId, same.trans named⟩
    · obtain ⟨old, inside, same⟩ := mem_map.mp listed
      obtain ⟨oldSku, printed⟩ := before.printed old inside
      exact ⟨oldSku, same ▸ printed⟩

theorem mergeReceiptItems_ok {items merged} (asks : Forall₂ AsksFor items amounts)
    (printed : ∀ amount ∈ amounts, ∃ skuId, amount.1 = ofUuid skuId)
    (resolves : ∀ amount ∈ amounts, ResolvesToItself store amount.1)
    (ran : items.foldlM (mergeReceiptItem store) [] = .ok merged) : Merged amounts merged := by
  suffices general : ∀ earlier start, Merged earlier start → items.foldlM (mergeReceiptItem store) start = .ok merged →
      Merged (earlier ++ amounts) merged from
    general [] [] ⟨fun _ => rfl, by simp⟩ ran
  clear ran
  induction asks with
  | nil =>
    intro earlier start before ran
    rw [foldlM_nil] at ran
    rwa [append_nil, ← ran]
  | @cons item amount items amounts first rest inner =>
    intro earlier start before ran
    obtain ⟨next, stepped, ran⟩ := foldlM_cons.mp ran
    obtain ⟨skuId, named⟩ := printed amount (.head _)
    have extended := mergeReceiptItem_ok first named (resolves amount (.head _)) before stepped
    have whole := inner (fun other member => printed other (.tail _ member))
      (fun other member => resolves other (.tail _ member)) (earlier ++ [amount]) next extended ran
    rwa [append_assoc] at whole

theorem insertReceiptItem_ok {line item}
    (inserted : insertReceiptItem line = .ok item) : line.skuId.toUuid = .ok item.skuId ∧ item.qty = line.baseQtyMilli := by
  simp only [insertReceiptItem, eq_ok] at inserted
  obtain ⟨skuId, parsed, unitCost, _, inserted⟩ := inserted
  split at inserted
  · rw [pure_eq_ok] at inserted
    rw [parsed, ← inserted]
    exact ⟨rfl, rfl⟩
  · simp at inserted

theorem insertedItems_total {lines : List MergedReceiptLine} {items}
    (printed : ∀ line ∈ lines, ∃ skuId, line.skuId = ofUuid skuId) (inserted : lines.mapM insertReceiptItem = .ok items)
    (skuId : Uuid) :
    (items.map fun item => if item.skuId = skuId then item.qty else 0).sum =
      (lines.map fun line => if line.skuId = ofUuid skuId then line.baseQtyMilli else 0).sum := by
  induction mapM_eq_ok.mp inserted with
  | nil => rfl
  | @cons line item lines items first rest inner =>
    obtain ⟨parsed, qty⟩ := insertReceiptItem_ok first
    obtain ⟨own, named⟩ := printed line (.head _)
    rw [named, toUuid_ofUuid, Except.ok.injEq] at parsed
    rw [map_cons, map_cons, sum_cons, sum_cons,
      inner (fun other member => printed other (.tail _ member)) (mapM_eq_ok.mpr rest), named, qty, ← parsed]
    congr 1
    exact if_congr ⟨fun same => by rw [same], ofUuid_injective⟩ rfl rfl

theorem createReceiptInTx_posts {receiptId answered poId : Uuid} {dto}
    {idempotencyKey} (order : dto.purchaseOrderId = some poId)
    (auto : dto.autoPost = true) (free : findReceiptByKey store (cleanKey idempotencyKey) = none)
    (asks : Forall₂ AsksFor dto.items amounts) (printed : ∀ amount ∈ amounts, ∃ skuId, amount.1 = ofUuid skuId)
    (resolves : ∀ amount ∈ amounts, ResolvesToItself store amount.1)
    (ran : createReceiptInTx store receiptId dto idempotencyKey = .ok (after, answered)) :
    Moved store after (shift dto.warehouseId (amountOf amounts) 0) ∧
      (∀ skuId, after.postedQty poId skuId = store.postedQty poId skuId + amountOf amounts skuId) := by
  rcases createReceiptInTx_ok ran with ⟨_, found, used⟩ | ⟨receipt, merged, _, fresh, warehouse, purchase, draft, _,
    collected, inserted, posted⟩
  · cases free.symm.trans used
  rw [if_pos auto] at posted
  have gathered := mergeReceiptItems_ok asks printed resolves collected
  have sorted := perm_insertionSort (fun left right : MergedReceiptLine => left.skuId.le right.skuId = true) merged
  have total : ∀ skuId, receipt.qtyOf skuId = amountOf amounts skuId := by
    intro skuId
    rw [StockReceipt.qtyOf,
      insertedItems_total (fun line member => gathered.printed line (sorted.mem_iff.mp member)) inserted,
      (sorted.map _).sum_eq, gathered.total]
  rcases postReceiptInTx_ok posted with ⟨_, stored, lookedUp, replayed⟩ | ⟨stored, key, lookedUp, _, moved, records⟩
  · rw [Table.lookup_insert_self] at lookedUp
    cases lookedUp
    cases draft.symm.trans replayed
  rw [Table.lookup_insert_self] at lookedUp
  cases lookedUp
  refine ⟨?_, fun skuId => ?_⟩
  · have change : receipt.change = shift dto.warehouseId (amountOf amounts) 0 := by
      rw [StockReceipt.change, ← warehouse, ← funext total]
      funext measure
      rw [sum_changes_apply]
      cases measure with
      | onHand key => exact sum_rows_apply receipt.items (·.skuId) receipt.warehouseId (·.qty) key
      | _ => simp [row, shift]
    rw [← change]
    exact moved.ofStore rfl rfl
  · have receipts : after.receipts = (store.receipts.insert receiptId
        { receipt with status := .posted, idempotencyKey := key }) := by
      rw [records]
      exact AList.insert_insert _
    rw [Store.postedQty, receipts, Table.sumBy_insert_fresh fresh, if_pos ⟨purchase.trans order, rfl⟩, ← total skuId]
    rfl

end Receipt

/-- A call of `receivePurchaseOrder`, with the id and code of the receipt it posts. -/
structure ReceiveCall where
  receiptId : Uuid
  receiptCode : String
  lines : List ReceivePurchaseOrderLine := []
  idempotencyKey : Option String := none

def receiveCall (poId : Uuid) (store : Store) (call : ReceiveCall) : Store :=
  perform store (.receivePurchaseOrder poId call.receiptId call.receiptCode call.lines call.idempotencyKey)

/-- A call that is not a replay names each SKU once, and the catalog knows each of these SKUs under its own id. -/
def ReceiveCall.NamesSkusOnce (poId : Uuid) (store : Store) (call : ReceiveCall) : Prop :=
  findReceiptByKey store (cleanKey call.idempotencyKey) = none →
    (call.lines.map (·.skuId)).Nodup ∧
    ∀ order, store.purchaseOrders.lookup poId = some order → ∀ item ∈ order.items,
      call.lines = [] ∨ ofUuid item.skuId ∈ call.lines.map (·.skuId) →
        ResolvesToItself store (ofUuid item.skuId)

section Calls

variable {store after : Store} {poId : Uuid}

variable {call : ReceiveCall}

theorem receivePurchaseOrder_ok (once : call.NamesSkusOnce poId store)
    (ran : receivePurchaseOrder store poId call.receiptId call.receiptCode call.lines call.idempotencyKey = .ok after) :
    after = store ∨ ∃ header order received, store.purchaseOrders.lookup poId = some header ∧
      after.purchaseOrders.lookup poId = some order ∧ order.warehouseId = header.warehouseId ∧
      (∀ skuId, order.receivedOf skuId = header.receivedOf skuId + received skuId) ∧
      Moved store after (shift header.warehouseId received 0) ∧
      ∀ skuId, after.postedQty poId skuId = store.postedQty poId skuId + received skuId := by
  simp only [receivePurchaseOrder, findPurchaseOrder, eq_ok] at ran
  obtain ⟨header, found, ran⟩ := ran
  split at ran
  · simp only [eq_ok] at ran
    obtain ⟨_, _, rfl⟩ := ran
    exact .inl rfl
  · next fresh =>
    obtain ⟨distinct, resolves⟩ := once fresh
    simp only [eq_ok] at ran
    obtain ⟨_, _, ⟨order, receiptItems⟩, looped, ⟨middle, answered⟩, created, rfl⟩ := ran
    have named : (((if call.lines.isEmpty then (orderBySku (·.skuId) header.items).map openPurchaseOrderLine
        else call.lines)).map (·.skuId)).Nodup := by
      split
      · rw [map_map]
        have texts := (orderBySku_nodup header.distinct).map fun _ _ => ofUuid_injective
        rwa [map_map] at texts
      · exact distinct
    obtain ⟨amounts, taken⟩ := receivePurchaseOrderLines_ok named looped
    have printed : ∀ amount ∈ amounts, ∃ skuId, amount.1 = ofUuid skuId := by
      intro amount member
      obtain ⟨item, _, same⟩ := taken.printed amount member
      exact ⟨item.skuId, same⟩
    have known : ∀ amount ∈ amounts, ResolvesToItself store amount.1 := by
      intro amount member
      obtain ⟨item, listed, same⟩ := taken.printed amount member
      have text : amount.1 ∈ amounts.map (·.1) := mem_map_of_mem member
      rw [taken.texts] at text
      rw [same] at text ⊢
      refine resolves header found item listed ?_
      by_cases empty : call.lines = []
      · exact .inl empty
      · rw [if_neg (by simpa using empty)] at text
        exact .inr text
    have unused : findReceiptByKey (store.putPurchaseOrder poId order) (cleanKey call.idempotencyKey) = none := fresh
    have knownThere : ∀ amount ∈ amounts, ResolvesToItself (store.putPurchaseOrder poId order) amount.1 := known
    obtain ⟨moved, posted⟩ := createReceiptInTx_posts rfl rfl unused taken.items printed knownThere created
    have fromStore : Moved store middle (shift header.warehouseId (amountOf amounts) 0) := moved.ofStore rfl rfl
    exact .inr ⟨header, { order with status := _ }, amountOf amounts, found, Table.lookup_insert_self _ _ _,
      taken.warehouse, taken.received, fromStore.inStore rfl rfl, posted⟩

/-- Where an order stands against its start: shelf, receipts and order have grown alike. -/
structure InStep (poId : Uuid) (start : Store) (ordered : PurchaseOrder) (store : Store) : Prop where
  agree : ∃ order, store.purchaseOrders.lookup poId = some order ∧ order.warehouseId = ordered.warehouseId ∧
    (∀ skuId, store.onHandQty ⟨ordered.warehouseId, skuId⟩ - start.onHandQty ⟨ordered.warehouseId, skuId⟩ =
      order.receivedOf skuId - ordered.receivedOf skuId) ∧
    ∀ skuId, store.postedQty poId skuId - start.postedQty poId skuId =
      order.receivedOf skuId - ordered.receivedOf skuId

theorem InStep.receive {start ordered} (once : call.NamesSkusOnce poId store) (before : InStep poId start ordered store) :
    InStep poId start ordered (receiveCall poId store call) := by
  refine commit_preserves (InStep poId start ordered) before fun after ran => ?_
  rcases receivePurchaseOrder_ok once ran with rfl | ⟨header, order, received, found, stored, warehouse, counted,
    moved, posted⟩
  · exact before
  · obtain ⟨current, lookedUp, sameWarehouse, shelf, receipts⟩ := before.agree
    cases found.symm.trans lookedUp
    refine ⟨order, stored, warehouse.trans sameWarehouse, fun skuId => ?_, fun skuId => ?_⟩
    · have grown : after.onHandQty ⟨ordered.warehouseId, skuId⟩ = _ := moved.apply (.onHand _)
      simp only [Store.measure, shift, sameWarehouse, if_true] at grown
      have total := counted skuId
      have earlier := shelf skuId
      omega
    · have total := counted skuId
      have earlier := receipts skuId
      have grown := posted skuId
      omega

end Calls

/-- From any state of an order, calls that each name a SKU once put on the shelf and post on receipts exactly
what they add to the order's lines, and no line is received beyond what was ordered. -/
theorem purchase_receiving_agrees {start : Store} {poId : Uuid} {ordered : PurchaseOrder}
    (found : start.purchaseOrders.lookup poId = some ordered) (calls : List ReceiveCall)
    (once : Meets (receiveCall poId) (fun store call => call.NamesSkusOnce poId store) start calls) :
    ∃ order, (after (receiveCall poId) start calls).purchaseOrders.lookup poId = some order ∧
      (∀ skuId, (after (receiveCall poId) start calls).onHandQty ⟨ordered.warehouseId, skuId⟩ -
        start.onHandQty ⟨ordered.warehouseId, skuId⟩ = order.receivedOf skuId - ordered.receivedOf skuId) ∧
      (∀ skuId, (after (receiveCall poId) start calls).postedQty poId skuId - start.postedQty poId skuId =
        order.receivedOf skuId - ordered.receivedOf skuId) ∧
      ∀ item ∈ order.items, item.receivedQty ≤ item.orderedQty := by
  have initially : InStep poId start ordered start :=
    ⟨ordered, found, rfl, fun _ => by simp, fun _ => by simp⟩
  obtain ⟨order, stored, _, shelf, receipts⟩ :=
    (invariant_of_meets (InStep poId start ordered) (fun _ _ met before => before.receive met) once initially).agree
  exact ⟨order, stored, shelf, receipts, fun item _ => item.legal.2.2.1⟩

def approvedOrder : List Operation :=
  [.setWarehouse 1 { code := "W1", kind := .branch, branchId := none, isDefault := true, status := .active },
    .setSupplier 3 .active,
    .createPurchaseOrder 40 { code := "PO1", supplierId := 3, warehouseId := 1,
                              items := [{ skuId := ofUuid 7, orderedQty := "5", unitCost := 2000 }] },
    .approvePurchaseOrder 40]

def receiveLines (quantities : List String) : ReceiveCall :=
  { receiptId := 50, receiptCode := "GR1", lines := quantities.map fun qty => { skuId := ofUuid 7, qty } }

theorem purchase_receiving_agrees_once :
    ∃ order, (receiveCall 40 (after perform {} approvedOrder) (receiveLines ["3"])).purchaseOrders.lookup 40
      = some order ∧ ∀ item ∈ order.items, item.receivedQty ≤ item.orderedQty := by
  have stored : ((after perform {} approvedOrder).purchaseOrders.lookup 40).isSome = true := by
    decide
  obtain ⟨ordered, found⟩ := Option.isSome_iff_exists.mp stored
  have once : (receiveLines ["3"]).NamesSkusOnce 40 (after perform {} approvedOrder) := by
    refine fun _ => ⟨by decide, fun order lookedUp item listed _ resolved eligible => ?_⟩
    have unknown : (after perform {} approvedOrder).catalogSkus = [] := by decide
    cases eligible
    rfl
  obtain ⟨order, later, _, _, within⟩ := purchase_receiving_agrees found [receiveLines ["3"]] ⟨once, trivial⟩
  exact ⟨order, later, within⟩

/-- Two lines of one SKU are validated one by one and the last one is what the order counts, while the
receipt posts their sum. -/
theorem purchase_receiving_disagrees :
    ((receiveCall 40 (after perform {} approvedOrder) (receiveLines ["4", "3"])).purchaseOrders.lookup 40).map
        (fun order => order.items.map fun item => (item.orderedQty, item.receivedQty)) = some [(5000, 3000)] ∧
      (receiveCall 40 (after perform {} approvedOrder) (receiveLines ["4", "3"])).onHandQty ⟨1, 7⟩ = 7000 := by
  decide

end Inventory
