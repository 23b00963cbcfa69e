import RetailApi.Base.Chain
import RetailApi.Finance.Debts
import RetailApi.Proofs.Allocations

/-! Debt books: documents whose amounts add up, and a ledger of running totals. Recognising a
document and applying a payment keep both, and keep them equal to the debt of every party. -/

namespace Finance

open Transaction JsNumber List PaymentProgress Rows PaymentEntry Keyed

variable {Columns : Type}

structure ObligationEntity.AddsUp (doc : ObligationEntity Columns) : Prop where
  original : doc.originalAmount = doc.paidAmount + doc.adjustedAmount + doc.outstandingAmount
  paid : 0 ≤ doc.paidAmount
  adjusted : 0 ≤ doc.adjustedAmount
  outstanding : 0 ≤ doc.outstandingAmount
  safe : IsSafe doc.originalAmount
  settled : doc.status.isOpen = false ↔ doc.outstandingAmount = 0

variable {doc : ObligationEntity Columns} {payment : PaymentEntry} {count : Nat} {lines : List (CalculatedAllocationLine × Nat)}
  {openDocs : List (ObligationEntity Columns)} {progress after : PaymentProgress Columns}

theorem ObligationEntity.AddsUp.allocated {line}
    (fits : doc.AddsUp) (allocates : Allocates doc.toOpenObligationSnapshot line) : (doc.allocated line).AddsUp := by
  have positive := allocates.positive
  have enough := allocates.enough
  have paid := fits.paid
  have adjusted := fits.adjusted
  have original := fits.original
  have sum : line.paidAmountAfter = doc.paidAmount + line.allocatedAmount := by
    rw [allocates.paid]
    apply add_of_safe
    have safe := fits.safe
    unfold IsSafe maxSafeInteger at safe ⊢
    omega
  have rest := allocates.outstanding
  constructor
  · show doc.originalAmount = line.paidAmountAfter + doc.adjustedAmount + line.outstandingAfter
    omega
  · show 0 ≤ line.paidAmountAfter
    omega
  · exact adjusted
  · show 0 ≤ line.outstandingAfter
    omega
  · exact fits.safe
  · show line.statusAfter.status.isOpen = false ↔ line.outstandingAfter = 0
    rw [allocates.status]
    by_cases all : line.outstandingAfter = 0
    · simp [all, PaidStatus.status, ObligationStatus.isOpen]
    · simp [all, PaidStatus.status, ObligationStatus.isOpen]

namespace DebtBook

def owed (book : DebtBook Columns) (party : Uuid) : Int :=
  total (·.partyId) (·.outstandingAmount) party book.documents

def outstanding (book : DebtBook Columns) : Int := (book.documents.map (·.outstandingAmount)).sum

end DebtBook

def PaymentProgress.settle (progress : PaymentProgress Columns) (payment : PaymentEntry) (count : Nat)
    (doc : ObligationEntity Columns) (line : CalculatedAllocationLine × Nat) : PaymentProgress Columns where
  book := { progress.book.saveDocument (doc.allocated line.1) with
    ledger := progress.book.ledger ++
      [payment.row count line.2 doc.id line.1.allocatedAmount progress.runningDebt] }
  runningDebt := lessAtMost progress.runningDebt line.1.allocatedAmount

@[simp] theorem PaymentProgress.ids_settle (progress : PaymentProgress Columns) (payment : PaymentEntry) (count : Nat)
    (doc : ObligationEntity Columns) (line : CalculatedAllocationLine × Nat) :
    (progress.settle payment count doc line).book.documents.map (·.id) = progress.book.documents.map (·.id) :=
  keys_save _ _

/-- What the loop over the allocations does: each line settles a part of a document of the party. -/
inductive Settling (payment : PaymentEntry) (count : Nat) :
    PaymentProgress Columns → List (CalculatedAllocationLine × Nat) → PaymentProgress Columns → Prop
  | done {progress : PaymentProgress Columns} : Settling payment count progress [] progress
  | line {progress after doc line lines} (member : doc ∈ progress.book.documents)
      (allocates : Allocates doc.toOpenObligationSnapshot line.1) (party : doc.partyId = payment.partyId)
      (fresh : ∀ row ∈ progress.book.ledger, row.idempotencyKey ≠ paymentRowKey payment.cleanKey count line.2)
      (rest : Settling payment count (progress.settle payment count doc line) lines after) :
      Settling payment count progress (line :: lines) after

def PaymentEntry.rows (payment : PaymentEntry) (count : Nat) :
    Int → List (CalculatedAllocationLine × Nat) → List DebtLedgerEntity
  | _, [] => []
  | debt, line :: lines => payment.row count line.2 line.1.documentId line.1.allocatedAmount debt ::
    payment.rows count (lessAtMost debt line.1.allocatedAmount) lines

theorem PaymentEntry.rows_party {debt row} (member : row ∈ payment.rows count debt lines) : row.partyId = payment.partyId := by
  induction lines generalizing debt with
  | nil => cases member
  | cons line lines inner =>
    rcases mem_cons.mp member with rfl | later
    · rfl
    · exact inner later

def Located (openDocs documents : List (ObligationEntity Columns)) (party : Uuid)
    (line : CalculatedAllocationLine) : Prop :=
  ∃ doc ∈ documents, openDocs.find? (·.id = line.documentId) = some doc ∧
    Allocates doc.toOpenObligationSnapshot line ∧ doc.partyId = party

theorem applyAllocation_settle {line}
    (found : openDocs.find? (·.id = line.1.documentId) = some doc)
    (ran : applyAllocation payment openDocs count progress line = .ok after) :
    after = progress.settle payment count doc line ∧
      ∀ row ∈ progress.book.ledger, row.idempotencyKey ≠ paymentRowKey payment.cleanKey count line.2 := by
  simp only [applyAllocation, DebtBook.insertLedger, found, eq_ok, parseVnd_eq_ok, Option.some.injEq] at ran
  obtain ⟨_, rfl, amount, ⟨given, _⟩, _, ⟨_, fresh, rfl⟩, rfl⟩ := ran
  rw [← given]
  exact ⟨rfl, fresh⟩

theorem settling_of_loop (distinct : (lines.map (·.1.documentId)).Nodup)
    (located : ∀ line ∈ lines, Located openDocs progress.book.documents payment.partyId line.1)
    (executed : lines.foldlM (applyAllocation payment openDocs count) progress = .ok after) :
    Settling payment count progress lines after := by
  induction lines generalizing progress with
  | nil =>
    rw [foldlM_nil] at executed
    rw [executed]
    exact .done
  | cons line lines inner =>
    obtain ⟨middle, stepped, ran⟩ := foldlM_cons.mp executed
    obtain ⟨doc, member, found, allocates, party⟩ := located line (.head _)
    obtain ⟨rfl, fresh⟩ := applyAllocation_settle found stepped
    obtain ⟨alone, distinct⟩ := nodup_cons.mp distinct
    refine .line member allocates party fresh (inner distinct ?_ ran)
    intro later inside
    obtain ⟨other, stored, otherFound, rest⟩ := located later (.tail _ inside)
    refine ⟨other, ?_, otherFound, rest⟩
    apply kept_mem stored
    intro same
    have named : other.id = doc.id := same
    apply alone
    show line.1.documentId ∈ _
    rw [allocates.own, ← named, ← rest.1.own]
    exact mem_map_of_mem (f := fun line : CalculatedAllocationLine × Nat => line.1.documentId) inside

theorem applyAllocations_settling {book} {chosen} {amount debt policy result}
    (ids : (book.documents.map (·.id)).Nodup) (party : ∀ doc ∈ book.documents.filter chosen, doc.partyId = payment.partyId)
    (allocation : Allocation amount ((book.documents.filter chosen).map (·.toOpenObligationSnapshot)) policy result)
    (ran : applyAllocations payment (book.documents.filter chosen) result.allocations book debt = .ok after) :
    Settling payment result.allocations.length { book, runningDebt := debt } result.allocations.zipIdx after := by
  apply settling_of_loop ?_ ?_ ran
  · have same : (result.allocations.zipIdx.map fun line => line.1.documentId) =
        result.allocations.map (·.documentId) := by
      conv_rhs => rw [← zipIdx_map_fst 0 result.allocations, map_map]
      rfl
    rw [same]
    exact allocation.distinct
  · intro line listed
    obtain ⟨_, taken, allocates⟩ := allocation.each line.1 (fst_mem_of_mem_zipIdx listed)
    obtain ⟨doc, inside, rfl⟩ := mem_map.mp taken
    have distinct : ((book.documents.filter chosen).map (·.id)).Nodup := (filter_sublist.map _).nodup ids
    refine ⟨doc, mem_of_mem_filter inside, ?_, allocates, party doc inside⟩
    rw [allocates.own]
    exact find_of_mem distinct inside

namespace Settling

variable {payment : PaymentEntry} {count : Nat} {progress after : PaymentProgress Columns}
  {lines : List (CalculatedAllocationLine × Nat)}

theorem ids (settling : Settling payment count progress lines after) :
    after.book.documents.map (·.id) = progress.book.documents.map (·.id) := by
  induction settling with
  | done => rfl
  | line _ _ _ _ _ inner => exact inner.trans (ids_settle ..)

theorem documents {P : ObligationEntity Columns → Prop}
    (kept : ∀ doc line, P doc → Allocates doc.toOpenObligationSnapshot line → P (doc.allocated line))
    (settling : Settling payment count progress lines after) (each : ∀ doc ∈ progress.book.documents, P doc) :
    ∀ doc ∈ after.book.documents, P doc := by
  induction settling with
  | done => exact each
  | line member allocates _ _ _ inner =>
    exact inner (forall_save each (kept _ _ (each _ member) allocates))

def allocated (lines : List (CalculatedAllocationLine × Nat)) : Int := (lines.map (·.1.allocatedAmount)).sum

theorem allocated_cons (line : CalculatedAllocationLine × Nat) (lines : List (CalculatedAllocationLine × Nat)) :
    allocated (line :: lines) = line.1.allocatedAmount + allocated lines := by
  rw [allocated, map_cons, sum_cons, allocated]

section

variable (settling : Settling payment count progress lines after)

include settling

theorem outstanding (ids : (progress.book.documents.map (·.id)).Nodup) :
    after.book.outstanding = progress.book.outstanding - allocated lines := by
  induction settling with
  | done => simp [allocated]
  | @line progress after doc line lines member allocates party fresh rest inner =>
    have same : (doc.allocated line.1).id = doc.id := rfl
    have saved := sum_save ids member same (·.outstandingAmount)
    have rest := inner (by rwa [ids_settle])
    have left := allocates.outstanding
    rw [allocated_cons, rest]
    show (map _ (save _ _ _)).sum - _ = _
    rw [saved, DebtBook.outstanding]
    show _ - doc.outstandingAmount + line.1.outstandingAfter - _ = _
    omega

theorem owed (ids : (progress.book.documents.map (·.id)).Nodup) (party : Uuid) : after.book.owed party =
      progress.book.owed party - if party = payment.partyId then allocated lines else 0 := by
  induction settling with
  | done => simp [allocated]
  | @line progress after doc line lines member allocates own fresh rest inner =>
    have same : (doc.allocated line.1).id = doc.id := rfl
    have saved := total_save ids member same (·.partyId) (·.outstandingAmount) party
    have rest := inner (by rwa [ids_settle])
    have left := allocates.outstanding
    rw [allocated_cons, rest]
    show total _ _ _ (save _ _ _) - _ = _
    rw [saved, DebtBook.owed]
    show _ - _ + (if doc.partyId = party then line.1.outstandingAfter else 0) - _ = _
    rw [own]
    by_cases same : party = payment.partyId
    · simp only [same, ↓reduceIte]
      omega
    · simp only [same, Ne.symm same, ↓reduceIte]
      omega

theorem ledger : after.book.ledger = progress.book.ledger ++ payment.rows count progress.runningDebt lines := by
  induction settling with
  | done => simp [rows]
  | line _ allocates _ _ _ inner =>
    rw [inner, rows, allocates.own]
    simp [PaymentProgress.settle]

theorem allocated_nonneg : 0 ≤ allocated lines := by
  induction settling with
  | done => exact le_rfl
  | line _ allocates _ _ _ inner =>
    have positive := allocates.positive
    rw [allocated_cons]
    omega

theorem chained (covered : allocated lines ≤ progress.runningDebt) : after.runningDebt = progress.runningDebt - allocated lines ∧
      Chain.Linked (·.amountDelta) (·.balanceAfter) progress.runningDebt
        (payment.rows count progress.runningDebt lines) after.runningDebt ∧
      ∀ row ∈ payment.rows count progress.runningDebt lines, row.balanceAfter = row.balanceBefore + row.amountDelta := by
  induction settling with
  | done => exact ⟨by simp [allocated], rfl, by simp [rows]⟩
  | @line progress after doc line lines member allocates own fresh rest inner =>
    have later := rest.allocated_nonneg
    rw [allocated_cons] at covered ⊢
    have exact_ : lessAtMost progress.runningDebt line.1.allocatedAmount = progress.runningDebt - line.1.allocatedAmount :=
      if_pos (by omega)
    have left : (progress.settle payment count doc line).runningDebt = progress.runningDebt - line.1.allocatedAmount := exact_
    obtain ⟨less, linked, rows⟩ := inner (by omega)
    refine ⟨by omega, ⟨?_, linked⟩, ?_⟩
    · show lessAtMost _ _ = _ + -line.1.allocatedAmount
      omega
    · intro row member
      rcases mem_cons.mp member with rfl | inside
      · show lessAtMost _ _ = progress.runningDebt + -line.1.allocatedAmount
        omega
      · exact rows row inside

theorem running_le (nonneg : 0 ≤ progress.runningDebt) : 0 ≤ after.runningDebt ∧ after.runningDebt ≤ progress.runningDebt := by
  induction settling with
  | done => exact ⟨nonneg, le_rfl⟩
  | @line progress after doc line lines member allocates own fresh rest inner =>
    have positive := allocates.positive
    have less : 0 ≤ lessAtMost progress.runningDebt line.1.allocatedAmount ∧
        lessAtMost progress.runningDebt line.1.allocatedAmount ≤ progress.runningDebt := by
      unfold lessAtMost
      split <;> omega
    obtain ⟨lower, upper⟩ := inner less.1
    exact ⟨lower, upper.trans less.2⟩

end

end Settling

/-- The documents and the ledger of a book say of every party what its debt says. -/
structure DebtBook.Agrees (book : DebtBook Columns) (debt : Uuid → Int) : Prop where
  ids : (book.documents.map (·.id)).Nodup
  documents : ∀ doc ∈ book.documents, doc.AddsUp
  owed : ∀ party, debt party = book.owed party
  linked : ∀ party, Chain.Linked (·.amountDelta) (·.balanceAfter) 0
    (book.ledger.filter fun row => row.partyId = party) (debt party)
  rows : ∀ row ∈ book.ledger, row.balanceAfter = row.balanceBefore + row.amountDelta

namespace DebtBook.Agrees

variable {book after : DebtBook Columns} {debt : Uuid → Int}

theorem empty (documents : book.documents = []) (ledger : book.ledger = []) : book.Agrees fun _ => 0 := by
  constructor <;> simp [documents, ledger, DebtBook.owed, Chain.Linked]

variable {doc : ObligationEntity Columns}

section

variable (agrees : book.Agrees debt)
include agrees

theorem outstanding_le (member : doc ∈ book.documents) :
    doc.outstandingAmount ≤ debt doc.partyId := by
  rw [agrees.owed]
  exact le_total (fun other : ObligationEntity Columns => other.partyId)
    (fun other inside => (agrees.documents other inside).outstanding) member

theorem linked_append {party} {rows : List DebtLedgerEntity} {finish : Int}
    (own : ∀ row ∈ rows, row.partyId = party)
    (linked : Chain.Linked (·.amountDelta) (·.balanceAfter) (debt party) rows finish) (wanted : Uuid) :
    Chain.Linked (·.amountDelta) (·.balanceAfter) 0 ((book.ledger ++ rows).filter fun row => row.partyId = wanted)
      (if wanted = party then finish else debt wanted) := by
  rw [filter_append]
  by_cases same : wanted = party
  · have all : rows.filter (fun row => row.partyId = wanted) = rows := by
      rw [filter_eq_self]
      intro row member
      rw [own row member, same, decide_eq_true_eq]
    rw [if_pos same, all, same]
    exact (agrees.linked party).append linked
  · have none : rows.filter (fun row => row.partyId = wanted) = [] := by
      rw [filter_eq_nil_iff]
      intro row member
      rw [own row member, decide_eq_true_eq]
      exact Ne.symm same
    rw [if_neg same, none, append_nil]
    exact agrees.linked wanted

theorem recognise {row}
    (documents : after.documents = book.documents ++ [doc]) (ledger : after.ledger = book.ledger ++ [row])
    (fresh : ∀ other ∈ book.documents, other.id ≠ doc.id) (fits : doc.AddsUp) (party : row.partyId = doc.partyId)
    (delta : row.amountDelta = doc.outstandingAmount) (before : row.balanceBefore = debt doc.partyId)
    (later : row.balanceAfter = debt doc.partyId + doc.outstandingAmount) :
    after.Agrees fun other => if other = doc.partyId then debt doc.partyId + doc.outstandingAmount else debt other := by
  constructor
  · rw [documents]
    exact nodup_append agrees.ids fresh
  · intro other member
    rw [documents, mem_append, mem_singleton] at member
    rcases member with old | rfl
    · exact agrees.documents other old
    · exact fits
  · intro other
    have owed := agrees.owed other
    rw [DebtBook.owed, documents, total_append, total_cons, total_nil]
    unfold DebtBook.owed at owed
    by_cases same : other = doc.partyId
    · rw [same] at owed ⊢
      simp only [↓reduceIte]
      omega
    · simp only [same, Ne.symm same, ↓reduceIte]
      omega
  · rw [ledger]
    refine agrees.linked_append ?_ ⟨?_, ?_⟩
    · intro other single
      rw [mem_singleton.mp single, party]
    · exact later.trans (congrArg (debt doc.partyId + ·) delta.symm)
    · exact later
  · intro other member
    rw [ledger, mem_append, mem_singleton] at member
    rcases member with old | rfl
    · exact agrees.rows other old
    · rw [before, later, delta]

theorem settle {payment count lines progress}
    (settling : Settling payment count { book, runningDebt := debt payment.partyId } lines progress) :
    progress.book.Agrees fun other => if other = payment.partyId then progress.runningDebt else debt other := by
  have documents := settling.documents (P := ObligationEntity.AddsUp) (fun doc line fits allocates => fits.allocated allocates)
    agrees.documents
  have owed := settling.owed agrees.ids
  have covered : Settling.allocated lines ≤ debt payment.partyId := by
    have rest := owed payment.partyId
    have nonneg : 0 ≤ progress.book.owed payment.partyId :=
      total_nonneg fun doc member => (documents doc member).outstanding
    have before : debt payment.partyId = book.owed payment.partyId := agrees.owed payment.partyId
    have same : progress.book.owed payment.partyId = book.owed payment.partyId - Settling.allocated lines := by
      rw [rest, if_pos rfl]
    omega
  obtain ⟨less, linked, rows⟩ := settling.chained covered
  constructor
  · rw [settling.ids]
    exact agrees.ids
  · exact documents
  · intro other
    rw [owed other]
    rw [← agrees.owed other]
    by_cases same : other = payment.partyId
    · rw [if_pos same, if_pos same, same]
      exact less
    · rw [if_neg same, if_neg same, Int.sub_zero]
  · rw [settling.ledger]
    exact agrees.linked_append (fun row member => rows_party member) linked
  · rw [settling.ledger]
    exact forall_mem_append.mpr ⟨agrees.rows, rows⟩

end

end DebtBook.Agrees

end Finance
