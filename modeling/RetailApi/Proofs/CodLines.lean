import RetailApi.Finance.Cod
import RetailApi.Proofs.RefundOperations

/-! What going through the lines of a carrier's statement does to the receivables: a line that
matches clears its receivable, and the matched lines add up to what the batch posts. -/

namespace Finance

open Transaction JsNumber List CodReceivableEntity CodDb Rows

def CodSettlementLineEntity.statement (line : CodSettlementLineEntity) : CodStatementLine where
  trackingNumber := line.trackingNumber
  reportedCodAmount := line.reportedCodAmount
  carrierFeeAmount := line.carrierFeeAmount
  netPayoutAmount := line.netPayoutAmount

def CodStatementLine.input (line : CodStatementLine) (expected : Int) : CodSettlementLineEvaluationInput where
  expectedGrossCod := expected
  reportedGrossCod := line.reportedCodAmount
  carrierFee := line.carrierFeeAmount
  reportedNetPayout := line.netPayoutAmount

def CodStatementLine.meets (line : CodStatementLine) (expected : Int) : Bool :=
  match evaluateCodSettlementLine (line.input expected) with
  | .ok result => result.status = .matched
  | .error _ => false

def CodDb.settles (db : CodDb) (carrierCode : String) (line : CodStatementLine) : Bool :=
  (db.shipment carrierCode line.trackingNumber).any fun receivable => line.meets receivable.expectedCodAmount

theorem discrepancyReasons_nil {expectedGross reportedGross fee reportedNet discrepancy}
    (none : discrepancyReasons expectedGross reportedGross fee reportedNet discrepancy = []) :
    reportedGross = expectedGross ∧ reportedGross - fee = reportedNet := by
  unfold discrepancyReasons at none
  by_cases gross : reportedGross = expectedGross
  · by_cases net : reportedGross - fee = reportedNet
    · exact ⟨gross, net⟩
    · simp [gross] at none net
      simp [net] at none
  · simp [gross] at none

variable {result : CodSettlementLineEvaluationResult} {batch : CodSettlementBatchEntity} {progress next : CodProgress}
  {Related : CodReceivableEntity → CodReceivableEntity → Prop}

theorem evaluateCodSettlementLine_ok {input} (ran : evaluateCodSettlementLine input = .ok result) :
    0 < input.expectedGrossCod ∧ 0 ≤ input.carrierFee ∧ (result.status = .matched →
      input.reportedGrossCod = input.expectedGrossCod ∧ input.reportedNetPayout = input.expectedGrossCod - input.carrierFee) := by
  simp only [evaluateCodSettlementLine, eq_ok, parseVnd_eq_ok] at ran
  obtain ⟨gross, ⟨grossIs, _, sign, zero⟩, reported, ⟨reportedIs, _⟩, fee, ⟨feeIs, _, feeSign, _⟩, net, ⟨netIs, _⟩, rfl⟩ :=
    ran
  cases grossIs
  cases reportedIs
  cases feeIs
  cases netIs
  simp only [Bool.false_eq_true, or_false] at sign zero feeSign
  refine ⟨by omega, feeSign, ?_⟩
  intro status
  simp only at status
  split at status
  · next none =>
    obtain ⟨gross, net⟩ := discrepancyReasons_nil none
    exact ⟨gross, by omega⟩
  · cases status

structure CodMatched where
  expected : Int
  fee : Int
  net : Int

def CodProgress.matched (progress : CodProgress) : CodMatched where
  expected := progress.matchedExpected
  fee := progress.matchedFee
  net := progress.matchedNet

def CodMatched.count (matched : CodMatched) (line : CodStatementLine) : CodMatched where
  expected := add matched.expected line.reportedCodAmount
  fee := add matched.fee line.carrierFeeAmount
  net := add matched.net line.netPayoutAmount

/-- What one line does: nothing when its shipment is not known, else it is held against the receivable. -/
inductive LinePassed (batch : CodSettlementBatchEntity) (progress : CodProgress) (line : CodSettlementLineEntity) :
    CodProgress → Prop
  | unknown {next : CodProgress} (absent : progress.cod.shipment batch.carrierCode line.trackingNumber = none)
      (cod : next.cod = progress.cod) (matched : next.matched = progress.matched) : LinePassed batch progress line next
  | held {next receivable result}
      (found : progress.cod.shipment batch.carrierCode line.trackingNumber = some receivable)
      (evaluated : evaluateCodSettlementLine (line.statement.input receivable.expectedCodAmount) = .ok result)
      (cod : next.cod = { progress.cod with
        receivables := save (·.id) (receivable.remit batch.id line result) progress.cod.receivables })
      (matched : next.matched =
        if result.status = .matched then progress.matched.count line.statement else progress.matched) :
      LinePassed batch progress line next

theorem passLine_ok {drawn line} (executed : passLine drawn batch progress line = .ok next) :
    LinePassed batch progress line next := by
  simp only [passLine, eq_ok] at executed
  obtain ⟨_, _, _, _, _, _, ran⟩ := executed
  split at ran
  · next absent =>
    cases ran
    exact .unknown absent rfl rfl
  · next receivable found =>
    simp only [passKnown, eq_ok, parseVnd_eq_ok] at ran
    obtain ⟨expected, ⟨given, _⟩, result, evaluated, ran⟩ := ran
    cases given
    cases status : result.status with
    | matched =>
      rw [status] at ran
      cases ran
      have gross := ((evaluateCodSettlementLine_ok evaluated).2.2 status).1
      refine .held found evaluated rfl ?_
      rw [status, if_pos rfl, CodProgress.matched, CodMatched.count]
      simp only at gross
      simp only [passMatched, CodProgress.matched, CodSettlementLineEntity.statement, gross]
    | discrepancy =>
      rw [status] at ran
      simp only [passDiscrepancy, eq_ok] at ran
      obtain ⟨_, _, rfl⟩ := ran
      refine .held found evaluated rfl ?_
      have apart : CodLineEvaluation.discrepancy ≠ .matched := by decide
      rw [status, if_neg apart]
      rfl

structure SameShipment (before after : CodReceivableEntity) : Prop where
  id : after.id = before.id
  carrier : after.carrierCode = before.carrierCode
  tracking : after.trackingNumber = before.trackingNumber
  expected : after.expectedCodAmount = before.expectedCodAmount

theorem shipment_related (keeps : ∀ before after, Related before after → SameShipment before after) {db later : CodDb}
    (related : Forall₂ Related db.receivables later.receivables) (carrierCode trackingNumber : String) :
    Option.Rel Related (db.shipment carrierCode trackingNumber) (later.shipment carrierCode trackingNumber) := by
  unfold shipment
  generalize db.receivables = before at related ⊢
  generalize later.receivables = after at related ⊢
  induction related with
  | nil => exact .none
  | @cons first second _ _ same _ inner =>
    have kept := keeps first second same
    rw [find?_cons, find?_cons, kept.carrier, kept.tracking]
    split
    · exact .some same
    · exact inner

theorem related_save {before after} (related : Forall₂ Related before after) (new : CodReceivableEntity)
    (saved : ∀ first ∈ before, ∀ second ∈ after, Related first second → second.id = new.id → Related first new) :
    Forall₂ Related before (save (·.id) new after) := by
  induction related with
  | nil => exact .nil
  | @cons first second rest others same _ inner =>
    have tail := inner fun one inside two member => saved one (.tail _ inside) two (.tail _ member)
    rw [save, map_cons]
    refine .cons ?_ tail
    by_cases own : second.id = new.id
    · rw [if_pos own]
      exact saved first (.head _) second (.head _) same own
    · rwa [if_neg own]

theorem related_map {β : Type} (read : CodReceivableEntity → β)
    (same : ∀ before after, Related before after → read after = read before) {before after}
    (related : Forall₂ Related before after) : after.map read = before.map read := by
  induction related with
  | nil => rfl
  | cons first _ inner => rw [map_cons, map_cons, inner, same _ _ first]

theorem related_ids (keeps : ∀ before after, Related before after → SameShipment before after) {before after}
    (related : Forall₂ Related before after) : after.map (·.id) = before.map (·.id) :=
  related_map (·.id) (fun before after kept => (keeps before after kept).id) related

theorem CodDb.shipment_some {db : CodDb} {carrierCode trackingNumber receivable}
    (found : db.shipment carrierCode trackingNumber = some receivable) :
    receivable ∈ db.receivables ∧ receivable.carrierCode = carrierCode ∧ receivable.trackingNumber = trackingNumber :=
  ⟨mem_of_find?_eq_some found, by simpa using find?_some found⟩

namespace CodReceivableEntity

def owed (receivable : CodReceivableEntity) : Int :=
  if receivable.status = .reconciled then 0 else receivable.expectedCodAmount

def paidOut (receivable : CodReceivableEntity) : Int :=
  if receivable.status = .reconciled then receivable.actualRemittedAmount else 0

end CodReceivableEntity

namespace CodDb

def owed (db : CodDb) : Int := (db.receivables.map (·.owed)).sum

def paidOut (db : CodDb) : Int := (db.receivables.map (·.paidOut)).sum

end CodDb

structure SameStanding (before after : CodReceivableEntity) : Prop extends SameShipment before after where
  reconciled : after.status = .reconciled ↔ before.status = .reconciled
  remitted : before.status = .reconciled → after.actualRemittedAmount = before.actualRemittedAmount

theorem SameStanding.owed {before after} (same : SameStanding before after) : after.owed = before.owed := by
  simp only [CodReceivableEntity.owed, same.reconciled, same.expected]

theorem SameStanding.paidOut {before after} (same : SameStanding before after) : after.paidOut = before.paidOut := by
  unfold CodReceivableEntity.paidOut
  by_cases status : before.status = .reconciled
  · rw [if_pos status, if_pos (same.reconciled.mpr status), same.remitted status]
  · rw [if_neg status, if_neg fun later => status (same.reconciled.mp later)]

/-- The lines of a statement whose payout is booked already leave the receivables as they stand. -/
def CodDb.Standing (db : CodDb) (carrierCode : String) (lines : List CodStatementLine) : Prop :=
  ∀ line ∈ lines, ∀ receivable ∈ db.shipment carrierCode line.trackingNumber,
    (receivable.status = .reconciled ↔ line.meets receivable.expectedCodAmount = true) ∧
      (receivable.status = .reconciled → receivable.actualRemittedAmount = line.netPayoutAmount)

instance (db : CodDb) (carrierCode : String) (lines : List CodStatementLine) : Decidable (db.Standing carrierCode lines) :=
  inferInstanceAs (Decidable (∀ _ ∈ _, ∀ _ ∈ _, _))

theorem meets_of_evaluated {line : CodStatementLine} {expected}
    (evaluated : evaluateCodSettlementLine (line.input expected) = .ok result) :
    line.meets expected = true ↔ result.status = .matched := by
  rw [CodStatementLine.meets, evaluated, decide_eq_true_eq]

theorem passLines_standing {db draws}
    (executed : passLines db draws batch = .ok progress) (distinct : (db.cod.receivables.map (·.id)).Nodup)
    (standing : db.cod.Standing batch.carrierCode (batch.lines.map (·.statement))) :
    Forall₂ SameStanding db.cod.receivables progress.cod.receivables ∧
      progress.cod = { db.cod with receivables := progress.cod.receivables } := by
  have keeps : ∀ before after, SameStanding before after → SameShipment before after := fun _ _ same => same.toSameShipment
  refine foldlM_links (fun _ (middle : CodProgress) =>
    Forall₂ SameStanding db.cod.receivables middle.cod.receivables ∧
      middle.cod = { db.cod with receivables := middle.cod.receivables }) ?_ ?_ executed
  · exact ⟨forall₂_same.mpr fun receivable _ => ⟨⟨rfl, rfl, rfl, rfl⟩, Iff.rfl, fun _ => rfl⟩, rfl⟩
  · rintro done line rest middle next split ⟨related, only⟩ ran
    cases passLine_ok ran with
    | unknown _ cod =>
      rw [cod]
      exact ⟨related, only⟩
    | @held receivable result found evaluated cod =>
      rw [cod]
      refine ⟨?_, by rw [only]⟩
      have shipments := shipment_related keeps related batch.carrierCode line.trackingNumber
      rw [found] at shipments
      generalize original : db.cod.shipment batch.carrierCode line.trackingNumber = before at shipments
      cases shipments with
      | @some first _ same =>
        have member : line.statement ∈ batch.lines.map (·.statement) := mem_map_of_mem (by simp [split])
        obtain ⟨status, net⟩ := standing line.statement member first (Option.mem_def.mpr original)
        rw [← same.expected, meets_of_evaluated evaluated] at status
        apply related_save related
        intro one inside two _ standing id
        have stored : first ∈ db.cod.receivables := (shipment_some original).1
        have own : one = first :=
          eq_of_key distinct inside stored ((standing.id.symm.trans id).trans same.id)
        rw [own]
        refine ⟨⟨same.id, same.carrier, same.tracking, same.expected⟩, ?_, fun reconciled => (net reconciled).symm⟩
        rw [status]
        cases kind : result.status <;> simp [remit, kind]

def CodDb.settled (db : CodDb) (carrierCode : String) (lines : List CodStatementLine) : List CodStatementLine :=
  lines.filter fun line => db.settles carrierCode line

/-- Every line of a statement is for a shipment that is not reconciled yet, by this statement or before it. -/
def CodDb.Clearing (db : CodDb) (carrierCode : String) (lines : List CodStatementLine) : Prop :=
  (∀ line ∈ lines, ∀ receivable ∈ db.shipment carrierCode line.trackingNumber, receivable.status ≠ .reconciled) ∧
    lines.Pairwise fun earlier later => db.settles carrierCode earlier = true → earlier.trackingNumber ≠ later.trackingNumber

instance (db : CodDb) (carrierCode : String) (lines : List CodStatementLine) : Decidable (db.Clearing carrierCode lines) :=
  inferInstanceAs (Decidable (_ ∧ _))

/-- What the matched lines of a batch clear, and the sums that were kept while going through them. -/
structure Cleared (db : CodDb) (carrierCode : String) (lines : List CodStatementLine) (progress : CodProgress) : Prop where
  shipments : Forall₂ SameShipment db.receivables progress.cod.receivables
  rest : progress.cod = { db with receivables := progress.cod.receivables }
  matched : progress.matched = (db.settled carrierCode lines).foldl CodMatched.count ⟨0, 0, 0⟩
  owed : progress.cod.owed = db.owed - ((db.settled carrierCode lines).map (·.reportedCodAmount)).sum
  paidOut : progress.cod.paidOut = db.paidOut + ((db.settled carrierCode lines).map (·.netPayoutAmount)).sum
  reconciled : ∀ receivable ∈ progress.cod.receivables, receivable.status = .reconciled →
    (∃ before ∈ db.receivables, before.id = receivable.id ∧ before.status = .reconciled) ∨
      ∃ line ∈ lines, db.settles carrierCode line = true ∧ line.trackingNumber = receivable.trackingNumber

theorem Cleared.start (db : FinanceDb) (carrierCode : String) :
    Cleared db.cod carrierCode [] { cod := db.cod, reconciliation := db.reconciliation } := by
  constructor
  · exact forall₂_same.mpr fun receivable _ => ⟨rfl, rfl, rfl, rfl⟩
  · rfl
  · rfl
  · exact (Int.sub_zero _).symm
  · exact (Int.add_zero _).symm
  · exact fun receivable member status => .inl ⟨receivable, member, rfl, status⟩

theorem CodDb.settled_append (db : CodDb) (carrierCode : String) (lines : List CodStatementLine) (line : CodStatementLine) :
    db.settled carrierCode (lines ++ [line]) =
      db.settled carrierCode lines ++ if db.settles carrierCode line = true then [line] else [] := by
  rw [settled, filter_append, filter_singleton, Bool.cond_eq_ite]
  rfl

theorem Cleared.unknown {db carrierCode lines} {line} (cleared : Cleared db carrierCode lines progress)
    (absent : db.shipment carrierCode line.trackingNumber = none) (cod : next.cod = progress.cod)
    (matched : next.matched = progress.matched) : Cleared db carrierCode (lines ++ [line]) next := by
  have unsettled : db.settles carrierCode line ≠ true := by rw [settles, absent]; nofun
  have same : db.settled carrierCode (lines ++ [line]) = db.settled carrierCode lines := by
    rw [settled_append, if_neg unsettled, append_nil]
  constructor
  · rw [cod]
    exact cleared.shipments
  · rw [cod]
    exact cleared.rest
  · rw [matched, same]
    exact cleared.matched
  · rw [cod, same]
    exact cleared.owed
  · rw [cod, same]
    exact cleared.paidOut
  · rw [cod]
    intro receivable member status
    rcases cleared.reconciled receivable member status with before | ⟨earlier, listed, settles⟩
    · exact .inl before
    · exact .inr ⟨earlier, mem_append_left _ listed, settles⟩

section Held

variable {db : CodDb} {batch : CodSettlementBatchEntity} {lines : List CodStatementLine} {line : CodSettlementLineEntity}
  {progress next : CodProgress} {receivable first : CodReceivableEntity} {result : CodSettlementLineEvaluationResult}

theorem CodReceivableEntity.remitted (batch : CodSettlementBatchEntity) (line : CodSettlementLineEntity)
    (result : CodSettlementLineEvaluationResult) (open_ : receivable.status ≠ .reconciled) :
    receivable.owed = receivable.expectedCodAmount ∧ receivable.paidOut = 0 ∧
      (receivable.remit batch.id line result).owed =
        (if result.status = .matched then 0 else receivable.expectedCodAmount) ∧
      (receivable.remit batch.id line result).paidOut = (if result.status = .matched then line.netPayoutAmount else 0) := by
  refine ⟨if_neg open_, if_neg open_, ?_, ?_⟩
  · cases status : result.status <;> simp [owed, remit, status]
  · cases status : result.status <;> simp [paidOut, remit, status]

theorem Cleared.held (cleared : Cleared db batch.carrierCode lines progress)
    (distinct : (db.receivables.map (·.id)).Nodup)
    (original : db.shipment batch.carrierCode line.trackingNumber = some first) (same : SameShipment first receivable)
    (found : progress.cod.shipment batch.carrierCode line.trackingNumber = some receivable)
    (open_ : receivable.status ≠ .reconciled)
    (evaluated : evaluateCodSettlementLine (line.statement.input receivable.expectedCodAmount) = .ok result)
    (cod : next.cod = { progress.cod with
      receivables := save (·.id) (receivable.remit batch.id line result) progress.cod.receivables })
    (matched : next.matched =
      if result.status = .matched then progress.matched.count line.statement else progress.matched) :
    Cleared db batch.carrierCode (lines ++ [line.statement]) next := by
  obtain ⟨member, _, tracking⟩ := CodDb.shipment_some found
  have ids : (progress.cod.receivables.map (·.id)).Nodup := by
    rw [related_ids (fun _ _ same => same) cleared.shipments]
    exact distinct
  have settles : db.settles batch.carrierCode line.statement = true ↔ result.status = .matched := by
    rw [CodDb.settles]
    show (Option.any _ (db.shipment batch.carrierCode line.trackingNumber)) = true ↔ _
    rw [original, Option.any_some, ← same.expected, meets_of_evaluated evaluated]
  obtain ⟨owedBefore, paidBefore, owedAfter, paidAfter⟩ := remitted batch line result open_
  have id : (receivable.remit batch.id line result).id = receivable.id := rfl
  have owed := sum_save ids member id (·.owed)
  have paid := sum_save ids member id (·.paidOut)
  rw [owedBefore, owedAfter] at owed
  rw [paidBefore, paidAfter] at paid
  have owedSoFar := cleared.owed
  have paidSoFar := cleared.paidOut
  unfold CodDb.owed at owedSoFar
  unfold CodDb.paidOut at paidSoFar
  constructor
  · rw [cod]
    apply related_save cleared.shipments
    intro one inside two _ shipment sameId
    have stored : first ∈ db.receivables := (CodDb.shipment_some original).1
    have own : one = first := eq_of_key distinct inside stored ((shipment.id.symm.trans sameId).trans same.id)
    rw [own]
    exact ⟨same.id, same.carrier, same.tracking, same.expected⟩
  · rw [cod, cleared.rest]
  · rw [matched, CodDb.settled_append, foldl_append, ← cleared.matched]
    by_cases status : result.status = .matched
    · rw [if_pos status, if_pos (settles.mpr status)]
      rfl
    · rw [if_neg status, if_neg fun settled => status (settles.mp settled)]
      rfl
  · rw [cod]
    refine owed.trans ?_
    rw [owedSoFar, CodDb.settled_append, map_append, sum_append]
    by_cases status : result.status = .matched
    · have gross := ((evaluateCodSettlementLine_ok evaluated).2.2 status).1
      rw [if_pos status, if_pos (settles.mpr status), map_singleton, sum_singleton]
      simp only [CodStatementLine.input] at gross
      show (db.receivables.map (·.owed)).sum - _ - _ + 0 = (db.receivables.map (·.owed)).sum - _
      omega
    · rw [if_neg status, if_neg fun settled => status (settles.mp settled)]
      show (db.receivables.map (·.owed)).sum - _ - _ + _ = (db.receivables.map (·.owed)).sum - (_ + 0)
      omega
  · rw [cod]
    refine paid.trans ?_
    rw [paidSoFar, CodDb.settled_append, map_append, sum_append]
    by_cases status : result.status = .matched
    · rw [if_pos status, if_pos (settles.mpr status), map_singleton, sum_singleton]
      show (db.receivables.map (·.paidOut)).sum + _ - 0 + _ = (db.receivables.map (·.paidOut)).sum + (_ + line.netPayoutAmount)
      omega
    · rw [if_neg status, if_neg fun settled => status (settles.mp settled)]
      show (db.receivables.map (·.paidOut)).sum + _ - 0 + 0 = (db.receivables.map (·.paidOut)).sum + (_ + 0)
      omega
  · rw [cod]
    intro other inside status
    rcases mem_save inside with rfl | ⟨kept, _⟩
    · have settled : result.status = .matched := by
        cases decided : result.status with
        | matched => rfl
        | discrepancy =>
          simp only [remit, decided] at status
          cases status
      exact .inr ⟨line.statement, by simp, settles.mpr settled, tracking.symm⟩
    · rcases cleared.reconciled other kept status with before | ⟨earlier, listed, settled⟩
      · exact .inl before
      · exact .inr ⟨earlier, mem_append_left _ listed, settled⟩

end Held

theorem passLines_clearing {db draws}
    (executed : passLines db draws batch = .ok progress) (distinct : (db.cod.receivables.map (·.id)).Nodup)
    (clearing : db.cod.Clearing batch.carrierCode (batch.lines.map (·.statement))) :
    Cleared db.cod batch.carrierCode (batch.lines.map (·.statement)) progress := by
  obtain ⟨unreconciled, apart⟩ := clearing
  refine foldlM_links (fun done middle => Cleared db.cod batch.carrierCode (done.map (·.statement)) middle)
    (.start db batch.carrierCode) ?_ executed
  rintro done line rest middle next split cleared ran
  rw [map_append, map_singleton]
  have shipments := shipment_related (fun _ _ same => same) cleared.shipments batch.carrierCode line.trackingNumber
  cases passLine_ok ran with
  | unknown absent cod matched =>
    rw [absent] at shipments
    generalize original : db.cod.shipment batch.carrierCode line.trackingNumber = before at shipments
    cases shipments
    exact cleared.unknown original cod matched
  | @held receivable result found evaluated cod matched =>
    rw [found] at shipments
    generalize original : db.cod.shipment batch.carrierCode line.trackingNumber = before at shipments
    cases shipments with
    | @some first _ same =>
      refine cleared.held distinct original same found ?_ evaluated cod matched
      -- Neither was it reconciled at the start, nor by a line before this one.
      intro status
      obtain ⟨member, _, tracking⟩ := shipment_some found
      have stored := (shipment_some original).1
      rcases cleared.reconciled receivable member status with ⟨other, inside, id, reconciled⟩ | ⟨earlier, listed, settles, own⟩
      · have own : other = first := eq_of_key distinct inside stored (id.trans same.id)
        rw [own] at reconciled
        exact unreconciled line.statement (mem_map_of_mem (by simp [split])) first original reconciled
      · rw [split, map_append, map_cons, pairwise_append] at apart
        exact apart.2.2 earlier listed line.statement (.head _) settles (own.trans tracking)

end Finance
