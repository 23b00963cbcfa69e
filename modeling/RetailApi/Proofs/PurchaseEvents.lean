import RetailApi.Base.Run
import RetailApi.Proofs.JournalRequests
import RetailApi.Proofs.PayableRequests

/-! The payable of a purchase order, whatever order its events arrive in: the first event that states a
supplier and an amount settles it, so that the order makes no difference exactly when they all state the same. -/

namespace Finance

open Transaction JsNumber JsString GlAccountCodes PurchaseDelivery List PurchaseEvent Run

variable {amount : Int} {purchaseOrderId supplierId : Uuid} {event : PurchaseEvent} {deliveries : List PurchaseDelivery}

namespace PurchaseEvent

def About (purchaseOrderId : Uuid) : PurchaseEvent → Prop
  | .approved envelope => envelope.payload.purchaseOrderId = some purchaseOrderId
  | .received envelope => envelope.payload.purchaseOrderId = some purchaseOrderId

instance (purchaseOrderId : Uuid) : ∀ event : PurchaseEvent, Decidable (event.About purchaseOrderId)
  | .approved _ => inferInstanceAs (Decidable (_ = _))
  | .received _ => inferInstanceAs (Decidable (_ = _))

def stated : PurchaseEvent → Option (Uuid × Int)
  | .approved envelope => match envelope.tenantId, envelope.payload.supplierId with
    | some _, some supplierId => some (supplierId, envelope.payload.totalAmount)
    | _, _ => none
  | .received envelope => match envelope.tenantId, envelope.payload.supplierId, envelope.payload.totalAmount with
    | some _, some supplierId, some totalAmount => some (supplierId, totalAmount)
    | _, _, _ => none

end PurchaseEvent

def purchaseKeys (purchaseOrderId : Uuid) : List String :=
  [toLowerCase (trimmed s!"po-approved:{purchaseOrderId}"), toLowerCase (trimmed s!"stock-rcv:{purchaseOrderId}")]

structure OrderDto (purchaseOrderId supplierId : Uuid) (amount : Int) (dto : RecognizePayableDto) : Prop where
  supplier : dto.supplierId = supplierId
  amount : dto.amount = amount
  order : dto.purchaseOrderId = some purchaseOrderId
  sourceType : dto.sourceType = some "PURCHASE_ORDER"
  sourceId : dto.sourceId = some (toString purchaseOrderId)

theorem OrderDto.keys {dto} (order : OrderDto purchaseOrderId supplierId amount dto) (key : String) :
    dto.keys (some key) = ⟨"PURCHASE_ORDER", toString purchaseOrderId, toLowerCase (trimmed key)⟩ := by
  have folded : toUpperCase (trimmed "PURCHASE_ORDER") = "PURCHASE_ORDER" := by decide +kernel
  simp only [RecognizePayableDto.keys, order.sourceType, order.sourceId, Option.getD_some, folded, cleanKey]
  show RecognitionKeys.mk _ (trimmed (toString purchaseOrderId)) _ = _
  rw [trimmed_toString]
  rfl

theorem recognizeEvent_zero (db : FinanceDb) (draws : Draws) (key : String) (dto : Int → RecognizePayableDto) :
    recognizeEvent db draws key 0 dto = .ok db := by
  have read : parseVnd (0 : Int) { allowZero := true, field := "totalAmount" } = .ok 0 :=
    parseVnd_eq_ok.mpr ⟨rfl, by decide, .inl le_rfl, .inr rfl⟩
  simp only [recognizeEvent, eq_ok]
  exact ⟨0, read, rfl⟩

theorem PurchaseEvent.perform_about (about : event.About purchaseOrderId) (db : FinanceDb) (draws : Draws) :
    (event.stated = none → event.perform db draws = .ok db) ∧ ∀ supplierId total, event.stated = some (supplierId, total) →
        ∃ key dto, toLowerCase (trimmed key) ∈ purchaseKeys purchaseOrderId ∧
          (∀ amount, OrderDto purchaseOrderId supplierId amount (dto amount)) ∧
          event.perform db draws = recognizeEvent db draws key total dto := by
  cases event with
  | approved envelope =>
    obtain ⟨tenantId, payload⟩ := envelope
    change payload.purchaseOrderId = some purchaseOrderId at about
    cases tenantId with
    | none => exact ⟨fun _ => rfl, by rintro _ _ ⟨⟩⟩
    | some tenantId =>
      cases supplier : payload.supplierId with
      | none =>
        simp only [stated, supplier, perform, onPurchaseOrderApproved, about]
        exact ⟨fun _ => trivial, by rintro _ _ ⟨⟩⟩
      | some supplierId =>
        simp only [stated, supplier, perform, onPurchaseOrderApproved, about]
        refine ⟨by rintro ⟨⟩, ?_⟩
        rintro _ _ ⟨⟩
        exact ⟨_, _, .head _, fun amount => ⟨rfl, rfl, rfl, rfl, rfl⟩, rfl⟩
  | received envelope =>
    obtain ⟨tenantId, payload⟩ := envelope
    change payload.purchaseOrderId = some purchaseOrderId at about
    cases tenantId with
    | none => exact ⟨fun _ => rfl, by rintro _ _ ⟨⟩⟩
    | some tenantId =>
      cases supplier : payload.supplierId with
      | none =>
        simp only [stated, supplier, perform, onStockReceived]
        exact ⟨fun _ => trivial, by rintro _ _ ⟨⟩⟩
      | some supplierId =>
        cases given : payload.totalAmount with
        | none =>
          simp only [stated, supplier, given, perform, onStockReceived]
          exact ⟨fun _ => rfl, by rintro _ _ ⟨⟩⟩
        | some total =>
          simp only [stated, supplier, given, perform, onStockReceived, about]
          refine ⟨by rintro ⟨⟩, ?_⟩
          rintro _ _ ⟨⟩
          refine ⟨s!"stock-rcv:{purchaseOrderId}", fun amount => {
            supplierId, amount, purchaseOrderId := some purchaseOrderId, receiptId := some payload.receiptId
            warehouseId := payload.warehouseId, sourceType := some "PURCHASE_ORDER"
            sourceId := some (toString purchaseOrderId) }, .tail _ (.head _), fun amount => ⟨rfl, rfl, rfl, rfl, rfl⟩, ?_⟩
          by_cases zero : total = 0
          · rw [zero, recognizeEvent_zero]
            rfl
          · rw [Option.filter_some, if_pos (by simpa using zero)]
            rfl

/-- What a payable states: its original amount, its supplier and its source. -/
structure PayableFacts where
  originalAmount : Int
  supplierId : Uuid
  sourceType : String
  sourceId : String
deriving DecidableEq

def payableFacts (doc : SupplierPayableEntity) : PayableFacts where
  originalAmount := doc.originalAmount
  supplierId := doc.partyId
  sourceType := doc.sourceType
  sourceId := doc.sourceId

def orderPayable (db : FinanceDb) (purchaseOrderId : Uuid) : Option PayableFacts :=
  (db.payables.documents.find? (·.columns.purchaseOrderId = some purchaseOrderId)).map payableFacts

/-- Finance has nothing of a purchase order yet, and nothing under the keys of its events. -/
structure Unrecorded (db : FinanceDb) (purchaseOrderId : Uuid) : Prop where
  documents : ∀ doc ∈ db.payables.documents, doc.columns.purchaseOrderId ≠ some purchaseOrderId ∧
    ¬(doc.sourceType = "PURCHASE_ORDER" ∧ doc.sourceId = toString purchaseOrderId) ∧
    doc.idempotencyKey ∉ purchaseKeys purchaseOrderId
  journals : ∀ journal ∈ db.ledger.journals, journal.source ≠ ("PURCHASE_ORDER", toString purchaseOrderId) ∧
    ∀ key ∈ purchaseKeys purchaseOrderId, journal.idempotencyKey ≠ toLowerCase (trimmed s!"ap-jnl:{key}")
  rows : ∀ row ∈ db.payables.ledger, ∀ key ∈ purchaseKeys purchaseOrderId, row.idempotencyKey ≠ s!"ap-ldg:{key}"

structure AcceptsPayable (db : FinanceDb) (supplierId : Uuid) : Prop where
  debt : (computeSupplierTotalDebt db.payables supplierId).isOk = true
  clearing : db.ledger.Accepts inventoryPurchaseClearing
  payable : db.ledger.Accepts accountsPayable

instance (db : FinanceDb) (supplierId : Uuid) : Decidable (AcceptsPayable db supplierId) :=
  decidable_of_iff ((computeSupplierTotalDebt db.payables supplierId).isOk = true ∧
    db.ledger.Accepts inventoryPurchaseClearing ∧ db.ledger.Accepts accountsPayable)
    ⟨fun ⟨debt, clearing, payable⟩ => ⟨debt, clearing, payable⟩, fun accepts => ⟨accepts.debt, accepts.clearing, accepts.payable⟩⟩

def Recorded (db : FinanceDb) (purchaseOrderId : Uuid) (facts : PayableFacts) (after : FinanceDb) : Prop :=
  ∃ doc, after.payables.documents = db.payables.documents ++ [doc] ∧ (∀ other ∈ db.payables.documents, other.id ≠ doc.id) ∧
    doc.columns.purchaseOrderId = some purchaseOrderId ∧ payableFacts doc = facts

section Order

variable {db after : FinanceDb} {draws : Draws} {purchaseOrderId supplierId : Uuid} {amount : Int} {dto : RecognizePayableDto}
  {key : String} {facts : PayableFacts}

theorem payableJournal_validated (keys : RecognitionKeys) (positive : 0 < amount) (safe : IsSafe amount) :
    ∃ validated, validateBalancedJournalLines (payableJournal keys amount).lines = .ok validated ∧
      validated.lines.map (·.accountCode) = [inventoryPurchaseClearing, accountsPayable] := by
  have debit : toUpperCase (trimmed inventoryPurchaseClearing) = inventoryPurchaseClearing := folded_code _ (by decide)
  have credit : toUpperCase (trimmed accountsPayable) = accountsPayable := folded_code _ (by decide)
  obtain ⟨validated, accepted, codes⟩ := validate_pair inventoryPurchaseClearing accountsPayable positive safe
    (by rw [debit]; decide) (by rw [credit]; decide)
  exact ⟨validated, accepted, codes⟩

section

variable (unrecorded : Unrecorded db purchaseOrderId)
include unrecorded

theorem orderPayable_unrecorded : orderPayable db purchaseOrderId = none := by
  rw [orderPayable, Option.map_eq_none_iff, find?_eq_none]
  intro doc member
  rw [decide_eq_true_eq]
  exact (unrecorded.documents doc member).1

theorem orderPayable_recorded (recorded : Recorded db purchaseOrderId facts after) :
    orderPayable after purchaseOrderId = some facts := by
  obtain ⟨doc, documents, _, order, rfl⟩ := recorded
  have absent : db.payables.documents.find? (·.columns.purchaseOrderId = some purchaseOrderId) = none :=
    Option.map_eq_none_iff.mp (orderPayable_unrecorded unrecorded)
  rw [orderPayable, documents, find?_append, absent, Option.none_or, find?_cons_of_pos (by exact decide_eq_true order)]
  rfl

variable (keyed : toLowerCase (trimmed key) ∈ purchaseKeys purchaseOrderId)
include keyed

theorem existing_unrecorded :
    db.ledger.existing (payableJournal ⟨"PURCHASE_ORDER", toString purchaseOrderId, toLowerCase (trimmed key)⟩ amount) = none := by
  have folded : toUpperCase (trimmed "PURCHASE_ORDER") = "PURCHASE_ORDER" := by decide +kernel
  rw [JournalDb.existing, find?_eq_none]
  intro journal member
  rw [decide_eq_true_eq]
  obtain ⟨apart, keyless⟩ := unrecorded.journals journal member
  rintro (same | same)
  · rw [PostJournalInTxInput.source, payableJournal, folded, trimmed_toString] at same
    exact apart same
  · exact keyless _ keyed same

theorem insert_unrecorded (doc : SupplierPayableEntity)
    (source : doc.sourceType = "PURCHASE_ORDER" ∧ doc.sourceId = toString purchaseOrderId)
    (own : doc.idempotencyKey = toLowerCase (trimmed key)) (row : DebtLedgerEntity)
    (rowKey : row.idempotencyKey = s!"ap-ldg:{toLowerCase (trimmed key)}") :
    ∃ inserted, db.payables.insertDocument doc = .ok inserted ∧ ∃ book, inserted.insertLedger row = .ok book := by
  have sources : ∀ other ∈ db.payables.documents, (other.sourceType, other.sourceId) ≠ (doc.sourceType, doc.sourceId) := by
    intro other member same
    obtain ⟨type, id⟩ := Prod.mk.inj same
    exact (unrecorded.documents other member).2.1 ⟨type.trans source.1, id.trans source.2⟩
  have keys : ∀ other ∈ db.payables.documents, other.idempotencyKey ≠ doc.idempotencyKey := by
    intro other member same
    exact (unrecorded.documents other member).2.2 ((same.trans own).symm ▸ keyed)
  have rows : ∀ other ∈ db.payables.ledger, other.idempotencyKey ≠ row.idempotencyKey := by
    intro other member same
    exact unrecorded.rows other member _ keyed (same.trans rowKey)
  simp only [DebtBook.insertDocument, DebtBook.insertLedger, eq_ok]
  exact ⟨_, ⟨(), sources, (), keys, rfl⟩, _, (), rows, rfl⟩

variable {response : PayableResponse} (order : OrderDto purchaseOrderId supplierId amount dto)
include order

theorem recognized_unrecorded :
    recognizedPayable db.payables (dto.keys (some key)) dto.purchaseOrderId = none := by
  rw [recognizedPayable, find?_eq_none, order.keys, order.order]
  intro doc member
  rw [decide_eq_true_eq]
  obtain ⟨apart, source, keyless⟩ := unrecorded.documents doc member
  rintro (same | same | ⟨_, same⟩)
  · exact source same
  · exact keyless (same ▸ keyed)
  · exact apart same

theorem recorded_recognized {state} (recorded : Recorded db purchaseOrderId facts state)
    (executed : recognizePayable state draws (some key) dto = .ok (after, response)) :
    Recorded db purchaseOrderId facts after := by
  obtain ⟨doc, documents, fresh, own, rfl⟩ := recorded
  have absent := recognized_unrecorded unrecorded keyed order
  have found : recognizedPayable state.payables (dto.keys (some key)) dto.purchaseOrderId = some doc := by
    rw [recognizedPayable] at absent ⊢
    rw [documents, find?_append, absent, Option.none_or, find?_singleton, if_pos]
    rw [decide_eq_true_eq, order.order]
    exact .inr (.inr ⟨nofun, own⟩)
  simp only [recognizePayable, eq_ok] at executed
  obtain ⟨_, _, ran⟩ := executed
  rw [found] at ran
  simp only [replayPayable, eq_ok, Prod.mk.injEq] at ran
  obtain ⟨_, _, rfl, _⟩ := ran
  let new : SupplierPayableEntity := if dto.receiptId.isSome ∧ doc.columns.receiptId = none then
    { doc with columns := { doc.columns with receiptId := dto.receiptId } } else doc
  have id : new.id = doc.id := by
    show (if _ then _ else _ : SupplierPayableEntity).id = _
    split <;> rfl
  refine ⟨new, ?_, ?_, ?_, ?_⟩
  · show Rows.save _ _ state.payables.documents = _
    rw [documents]
    exact Rows.save_last (fun other member => id ▸ fresh other member) id.symm
  · exact fun other member => id ▸ fresh other member
  · show (if _ then _ else _ : SupplierPayableEntity).columns.purchaseOrderId = _
    split <;> exact own
  · show payableFacts (if _ then _ else _) = _
    split <;> rfl

theorem recognizePayable_accepted (draws : Draws) (positive : 0 < amount) (safe : IsSafe amount) (accepts : AcceptsPayable db supplierId) :
    ∃ after response, recognizePayable db draws (some key) dto = .ok (after, response) := by
  obtain ⟨debt, read⟩ : ∃ debt, computeSupplierTotalDebt db.payables dto.supplierId = .ok debt := by
    rw [order.supplier]
    have outcome := accepts.debt
    cases computed : computeSupplierTotalDebt db.payables supplierId with
    | ok debt => exact ⟨debt, rfl⟩
    | error failure =>
      rw [computed] at outcome
      cases outcome
  obtain ⟨validated, accepted, codes⟩ := payableJournal_validated
    ⟨"PURCHASE_ORDER", toString purchaseOrderId, toLowerCase (trimmed key)⟩ positive safe
  have accounts : ∀ line ∈ validated.lines, db.ledger.Accepts line.accountCode := by
    rw [← forall_mem_map (P := db.ledger.Accepts), codes]
    simp [accepts.clearing, accepts.payable]
  obtain ⟨ledger, posted, ran⟩ := postJournalInTx_new draws.journal accepted
    (existing_unrecorded unrecorded keyed) rfl accounts
  obtain ⟨inserted, insertion, book, rowed⟩ := insert_unrecorded unrecorded keyed
    (dto.payable (dto.keys (some key)) (newId (db.payables.documents.map (·.id)) draws.document)
      (documentCode "AP" (db.payables.issued + 1)) amount posted.journal.id) (by rw [order.keys]; exact ⟨rfl, rfl⟩)
    (by rw [order.keys]; rfl)
    (payableLedgerRow (dto.keys (some key)) dto.supplierId (newId (db.payables.documents.map (·.id)) draws.document)
      posted.journal.id amount debt) (by rw [order.keys]; rfl)
  have parsed : parseVnd dto.amount = .ok amount := by
    rw [order.amount]
    exact parseVnd_eq_ok.mpr ⟨rfl, safe, .inl (by omega), .inl (by omega)⟩
  rw [← order.keys] at ran
  simp only [recognizePayable, recognized_unrecorded unrecorded keyed order, recognizeNewPayable, eq_ok]
  exact ⟨_, _, amount, parsed, debt, read, (ledger, posted), ran, inserted, insertion, book, rowed, rfl⟩

theorem recognizePayable_recorded (executed : recognizePayable db draws (some key) dto = .ok (after, response)) :
    AcceptsPayable db supplierId ∧
      Recorded db purchaseOrderId ⟨amount, supplierId, "PURCHASE_ORDER", toString purchaseOrderId⟩ after := by
  simp only [recognizePayable, recognized_unrecorded unrecorded keyed order, recognizeNewPayable, eq_ok, parseVnd_eq_ok,
    Prod.mk.injEq] at executed
  obtain ⟨parsed, ⟨given, safe, sign, zero⟩, debt, read, ⟨ledger, posted⟩, ran, inserted, insertion, book, rowed, rfl, _⟩ :=
    executed
  cases given
  rw [order.amount, order.keys] at *
  simp only [postJournalInTx, existing_unrecorded unrecorded keyed, eq_ok] at ran
  obtain ⟨validated, accepted, checked, accounts, _⟩ := ran
  obtain ⟨_, same, codes⟩ := payableJournal_validated ⟨"PURCHASE_ORDER", toString purchaseOrderId, toLowerCase (trimmed key)⟩
    (positive_of_parsed sign zero) safe
  cases accepted.symm.trans same
  have each := checkAccounts_eq_ok.mp accounts
  rw [← forall_mem_map (P := db.ledger.Accepts), codes] at each
  obtain ⟨documents, _⟩ := insertDocument_ok insertion
  obtain ⟨kept, _⟩ := insertLedger_ok rowed
  rw [order.supplier] at read
  refine ⟨⟨?_, each _ (.head _), each _ (.tail _ (.head _))⟩, _, kept.trans documents, ?_, order.order, ?_⟩
  · rw [read]
    rfl
  · exact fun other member => Fresh.ne_pick (fun other : SupplierPayableEntity => other.id) draws.document member
  · rw [payableFacts, RecognizePayableDto.payable, order.supplier]

end

theorem recognizeEvent_cases (draws : Draws) (key : String) (total : Int) (make : Int → RecognizePayableDto) (db : FinanceDb) :
    commit db (recognizeEvent db draws key total make) = db ∨ 0 < total ∧ IsSafe total ∧
      commit db (recognizeEvent db draws key total make) =
        commit db ((·.1) <$> recognizePayable db draws (some key) (make total)) := by
  cases read : parseVnd total { allowZero := true, field := "totalAmount" } with
  | error failure =>
    have failed : recognizeEvent db draws key total make = .error failure := by
      rw [recognizeEvent, read]
      rfl
    rw [failed]
    exact .inl rfl
  | ok amount =>
    obtain ⟨given, safe, sign, _⟩ := parseVnd_eq_ok.mp read
    cases given
    have ran : recognizeEvent db draws key total make =
        if total ≤ 0 then .ok db else (·.1) <$> recognizePayable db draws (some key) (make total) := by
      rw [recognizeEvent, read]
      rfl
    by_cases small : total ≤ 0
    · rw [ran, if_pos small]
      exact .inl rfl
    · rw [ran, if_neg small]
      exact .inr ⟨by omega, safe, rfl⟩

end Order

/-- What an event lets finance recognise: a supplier and a positive amount, where a payable of the supplier can be posted. -/
def PurchaseEvent.countable (db : FinanceDb) (event : PurchaseEvent) : Option (Uuid × Int) :=
  event.stated.filter fun stated => 0 < stated.2 ∧ IsSafe stated.2 ∧ AcceptsPayable db stated.1

theorem PurchaseEvent.countable_eq_some {db} : event.countable db = some (supplierId, amount) ↔
      event.stated = some (supplierId, amount) ∧ 0 < amount ∧ IsSafe amount ∧ AcceptsPayable db supplierId := by
  rw [countable, Option.filter_eq_some_iff, decide_eq_true_eq]

def orderFacts (purchaseOrderId : Uuid) (counted : Uuid × Int) : PayableFacts :=
  ⟨counted.2, counted.1, "PURCHASE_ORDER", toString purchaseOrderId⟩

theorem purchase_settles {db} (unrecorded : Unrecorded db purchaseOrderId)
    (about : ∀ delivery ∈ deliveries, delivery.event.About purchaseOrderId) :
    Settles deliverPurchase (fun delivery => delivery.event.countable db) db
      (fun counted state => Recorded db purchaseOrderId (orderFacts purchaseOrderId counted) state) deliveries := by
  constructor
  · intro delivery member none
    obtain ⟨silent, stating⟩ := perform_about (about delivery member) db delivery.draws
    unfold deliverPurchase
    cases stated : delivery.event.stated with
    | none =>
      rw [silent stated]
      rfl
    | some pair =>
      obtain ⟨supplierId, total⟩ := pair
      obtain ⟨key, make, keyed, order, performed⟩ := stating supplierId total stated
      rw [performed]
      rcases recognizeEvent_cases delivery.draws key total make db with same | ⟨positive, safe, ran⟩
      · exact same
      · rw [ran]
        apply commit_preserves (· = db) rfl
        intro after executed
        simp only [map_eq_ok] at executed
        obtain ⟨⟨_, response⟩, recognized, rfl⟩ := executed
        have accepts := (recognizePayable_recorded unrecorded keyed (order total) recognized).1
        have counted := countable_eq_some.mpr ⟨stated, positive, safe, accepts⟩
        cases counted.symm.trans none
  · intro delivery member counted some
    obtain ⟨supplierId, total⟩ := counted
    obtain ⟨stated, positive, safe, accepts⟩ := countable_eq_some.mp some
    obtain ⟨_, stating⟩ := perform_about (about delivery member) db delivery.draws
    obtain ⟨key, make, keyed, order, performed⟩ := stating supplierId total stated
    obtain ⟨after, response, recognized⟩ := recognizePayable_accepted unrecorded keyed (order total) delivery.draws
      positive safe accepts
    have ran : deliverPurchase db delivery = after := by
      rw [deliverPurchase, performed]
      have small : ¬total ≤ 0 := by omega
      have read : parseVnd total { allowZero := true, field := "totalAmount" } = .ok total :=
        parseVnd_eq_ok.mpr ⟨rfl, safe, .inl (by omega), .inr rfl⟩
      simp only [recognizeEvent, read]
      show commit db (if total ≤ 0 then _ else _) = _
      rw [if_neg small, recognized]
      rfl
    rw [ran]
    exact (recognizePayable_recorded unrecorded keyed (order total) recognized).2
  · intro delivery member counted state recorded
    obtain ⟨silent, stating⟩ := perform_about (about delivery member) state delivery.draws
    unfold deliverPurchase
    cases stated : delivery.event.stated with
    | none =>
      rw [silent stated]
      exact recorded
    | some pair =>
      obtain ⟨supplierId, total⟩ := pair
      obtain ⟨key, make, keyed, order, performed⟩ := stating supplierId total stated
      rw [performed]
      rcases recognizeEvent_cases delivery.draws key total make state with same | ⟨_, _, ran⟩
      · rw [same]
        exact recorded
      · rw [ran]
        apply commit_preserves _ recorded
        intro after executed
        simp only [map_eq_ok] at executed
        obtain ⟨⟨_, response⟩, recognized, rfl⟩ := executed
        exact recorded_recognized unrecorded keyed (order total) recorded recognized

structure PurchaseHistory (purchaseOrderId : Uuid) where
  approval : PurchaseEnvelope PurchaseOrderApprovedPayload
  receipts : List (PurchaseEnvelope StockReceivedPayload)
  approvalAbout : approval.payload.purchaseOrderId = some purchaseOrderId
  receiptsAbout : ∀ receipt ∈ receipts, receipt.payload.purchaseOrderId = some purchaseOrderId

def PurchaseHistory.events {purchaseOrderId : Uuid} (history : PurchaseHistory purchaseOrderId) : List PurchaseEvent :=
  .approved history.approval :: history.receipts.map .received

theorem PurchaseHistory.about (history : PurchaseHistory purchaseOrderId)
    (member : event ∈ history.events) : event.About purchaseOrderId := by
  rcases mem_cons.mp member with rfl | listed
  · exact history.approvalAbout
  · obtain ⟨receipt, inside, rfl⟩ := mem_map.mp listed
    exact history.receiptsAbout receipt inside

/-- Every order of delivery, with any repetition, leaves the same payable of the order. -/
def OrderFree (db : FinanceDb) {purchaseOrderId : Uuid} (history : PurchaseHistory purchaseOrderId) : Prop :=
  ∀ first second : List PurchaseDelivery, Covers history.events (first.map (·.event)) →
    Covers history.events (second.map (·.event)) →
    orderPayable (after deliverPurchase db first) purchaseOrderId =
      orderPayable (after deliverPurchase db second) purchaseOrderId

/-- The events of an order that finance can recognise state one supplier and one amount. -/
def StatesOne (db : FinanceDb) {purchaseOrderId : Uuid} (history : PurchaseHistory purchaseOrderId) : Prop :=
  ∀ one ∈ history.events, ∀ other ∈ history.events, ∀ counted ∈ one.countable db, ∀ different ∈ other.countable db,
    counted = different

instance (db : FinanceDb) {purchaseOrderId : Uuid} (history : PurchaseHistory purchaseOrderId) :
    Decidable (StatesOne db history) :=
  inferInstanceAs (Decidable (∀ one ∈ history.events, ∀ other ∈ history.events, ∀ counted ∈ one.countable db,
    ∀ different ∈ other.countable db, counted = different))

theorem orderPayable_delivered {db} (unrecorded : Unrecorded db purchaseOrderId)
    (about : ∀ delivery ∈ deliveries, delivery.event.About purchaseOrderId) :
    orderPayable (after deliverPurchase db deliveries) purchaseOrderId =
      ((deliveries.map (·.event)).findSome? (·.countable db)).map (orderFacts purchaseOrderId) := by
  obtain ⟨silent, settled⟩ := (purchase_settles unrecorded about).after
  rw [findSome?_map]
  change _ = (deliveries.findSome? fun delivery => delivery.event.countable db).map _
  cases first : deliveries.findSome? fun delivery => delivery.event.countable db with
  | none =>
    rw [silent first]
    exact orderPayable_unrecorded unrecorded
  | some counted => exact orderPayable_recorded unrecorded (settled counted first)

def PurchaseDelivery.once (events : List PurchaseEvent) : List PurchaseDelivery := events.map fun event => { event }

@[simp] theorem PurchaseDelivery.events_once (events : List PurchaseEvent) : (once events).map (·.event) = events := by
  rw [once, map_map]
  exact map_id _

/-- In a store that has nothing of a purchase order, its payable does not depend on the order of its events exactly when
the events that can be recognised state one supplier and one amount. -/
theorem payable_order_free_iff {db : FinanceDb} {purchaseOrderId : Uuid} (unrecorded : Unrecorded db purchaseOrderId)
    (history : PurchaseHistory purchaseOrderId) : OrderFree db history ↔ StatesOne db history := by
  have about : ∀ {deliveries : List PurchaseDelivery}, Covers history.events (deliveries.map (·.event)) →
      ∀ delivery ∈ deliveries, delivery.event.About purchaseOrderId := by
    intro deliveries covers delivery member
    exact history.about ((covers delivery.event).mp (mem_map_of_mem (f := event) member))
  have injective : Function.Injective (orderFacts purchaseOrderId) := by
    rintro ⟨_, _⟩ ⟨_, _⟩ same
    cases same
    rfl
  unfold StatesOne
  rw [← firstValue_free_iff]
  constructor
  · intro free first second firstCovers secondCovers
    rw [← events_once first] at firstCovers
    rw [← events_once second] at secondCovers
    have same := free _ _ firstCovers secondCovers
    rw [orderPayable_delivered unrecorded (about firstCovers), orderPayable_delivered unrecorded (about secondCovers),
      events_once, events_once] at same
    exact Option.map_injective injective same
  · intro free first second firstCovers secondCovers
    rw [orderPayable_delivered unrecorded (about firstCovers), orderPayable_delivered unrecorded (about secondCovers),
      free _ _ firstCovers secondCovers]

private def orderOf (amounts : List Int) : PurchaseHistory 9 where
  approval := { tenantId := some 1, payload := { purchaseOrderId := some 9, supplierId := some 5, totalAmount := 2000000 } }
  receipts := amounts.mapIdx fun index amount => {
    tenantId := some 1
    payload := { receiptId := index, purchaseOrderId := some 9, supplierId := some 5, totalAmount := some amount } }
  approvalAbout := rfl
  receiptsAbout := by
    intro receipt member
    obtain ⟨index, _, rfl⟩ := mem_mapIdx.mp member
    rfl

private theorem unrecorded_empty (purchaseOrderId : Uuid) : Unrecorded {} purchaseOrderId := by
  constructor <;> simp

theorem received_whole_order_free : OrderFree {} (orderOf [2000000]) :=
  (payable_order_free_iff (unrecorded_empty 9) (orderOf [2000000])).mpr (by decide +kernel)

/-- A partial receipt that arrives before the approval makes its own amount that of the order. -/
theorem partial_receipt_first : ¬OrderFree {} (orderOf [800000, 1200000]) := by
  intro free
  have same := free (once (orderOf [800000, 1200000]).events) (once (orderOf [800000, 1200000]).events.reverse)
    (fun event => by rw [events_once])
    (fun event => by rw [events_once, mem_reverse])
  have apart : orderPayable (after deliverPurchase {} (once (orderOf [800000, 1200000]).events)) 9 ≠
      orderPayable (after deliverPurchase {} (once (orderOf [800000, 1200000]).events.reverse)) 9 := by
    decide +kernel
  exact apart same

end Finance
