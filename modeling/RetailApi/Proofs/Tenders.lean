import RetailApi.Sales.Tenders

/-! What validated tenders are: line by line what was offered, in sum the bill, and in cash what
enters the drawer. -/

namespace Sales

open Transaction List TenderInputLine

structure TenderInputLine.Validates (allowZero : Bool) (input : TenderInputLine) (tender : ValidatedTenderLine) : Prop where
  method : tender.method = input.method
  amount : tender.amount = input.amount
  safe : isSafeInteger tender.amount
  nonneg : 0 ≤ tender.amount
  positive : allowZero = true ∨ tender.amount ≠ 0
  cash : tender.method = .cash → tender.status = .confirmed ∧
    tender.tenderedCash = input.tenderedCash.getD input.amount ∧
    tender.changeDue = tender.tenderedCash - tender.amount ∧ 0 ≤ tender.changeDue

theorem parseVndAmount_eq_ok {value amount} {allowZero} : parseVndAmount value allowZero = .ok amount ↔
      isSafeInteger value ∧ 0 ≤ value ∧ (allowZero = true ∨ value ≠ 0) ∧ amount = value := by
  simp only [parseVndAmount, eq_ok]
  constructor
  · rintro ⟨_, safe, _, ⟨nonneg, sign⟩, same⟩
    exact ⟨safe, nonneg, sign, same.symm⟩
  · rintro ⟨safe, nonneg, sign, same⟩
    exact ⟨(), safe, (), ⟨nonneg, sign⟩, same.symm⟩

theorem vndNumber_eq_ok {amount number} : vndNumber amount = .ok number ↔ isSafeInteger amount ∧ number = amount := by
  simp only [vndNumber, eq_ok]
  constructor
  · rintro ⟨_, safe, same⟩
    exact ⟨safe, same.symm⟩
  · rintro ⟨safe, same⟩
    exact ⟨(), safe, same.symm⟩

theorem TenderInputLine.validates {allowZero} {input tender}
    (validated : validateTender allowZero input = .ok tender) : input.Validates allowZero tender := by
  obtain ⟨amount, parsed, validated⟩ := bind_eq_ok.mp validated
  obtain ⟨safe, nonneg, positive, rfl⟩ := parseVndAmount_eq_ok.mp parsed
  split at validated
  · next cash =>
    cases given : input.tenderedCash with
    | none =>
      simp only [given, eq_ok, vndNumber_eq_ok] at validated
      obtain ⟨_, handed, _, enough, _, ⟨_, rfl⟩, _, ⟨_, rfl⟩, _, ⟨_, rfl⟩, rfl⟩ := validated
      obtain rfl := Except.ok.inj handed
      exact ⟨cash.symm, rfl, safe, nonneg, positive, fun _ => ⟨rfl, by rw [given]; rfl, rfl, Int.sub_nonneg_of_le enough⟩⟩
    | some handed =>
      simp only [given, eq_ok, vndNumber_eq_ok, parseVndAmount_eq_ok] at validated
      obtain ⟨_, ⟨_, _, _, rfl⟩, _, enough, _, ⟨_, rfl⟩, _, ⟨_, rfl⟩, _, ⟨_, rfl⟩, rfl⟩ := validated
      exact ⟨cash.symm, rfl, safe, nonneg, positive, fun _ => ⟨rfl, by rw [given]; rfl, rfl, Int.sub_nonneg_of_le enough⟩⟩
  · next cod =>
    simp only [eq_ok, vndNumber_eq_ok] at validated
    obtain ⟨_, ⟨_, rfl⟩, rfl⟩ := validated
    exact ⟨cod.symm, rfl, safe, nonneg, positive, by rintro ⟨⟩⟩
  · next notCash _ =>
    simp only [eq_ok, vndNumber_eq_ok] at validated
    obtain ⟨_, ⟨_, rfl⟩, rfl⟩ := validated
    exact ⟨rfl, rfl, safe, nonneg, positive, fun cash => absurd cash notCash⟩

structure ValidatedTenderSummary.Settles (inputs : List TenderInputLine) (grandTotal : Int) (summary : ValidatedTenderSummary) :
    Prop where
  lines : inputs.mapM (validateTender (grandTotal = 0)) = .ok summary.tenders
  allocated : (summary.tenders.map (·.amount)).sum = grandTotal
  confirmed : summary.totalConfirmed = ((summary.tenders.filter (·.status = .confirmed)).map (·.amount)).sum
  cash : summary.totalCashSales = ((summary.tenders.filter (·.method = .cash)).map (·.amount)).sum
  safe : isSafeInteger summary.totalCashSales
  paid : summary.paymentStatus = .paid ↔ summary.totalConfirmed = grandTotal

theorem ValidatedTenderSummary.settles {inputs grandTotal summary}
    (accepted : validateOrderTenders grandTotal inputs = .ok summary) : summary.Settles inputs grandTotal := by
  simp only [validateOrderTenders, eq_ok, vndNumber_eq_ok, parseVndAmount_eq_ok] at accepted
  obtain ⟨_, ⟨_, _, _, rfl⟩, _, _, tenders, mapped, _, allocated, _, ⟨_, rfl⟩, _, ⟨_, rfl⟩, _, ⟨safe, rfl⟩, _, ⟨_, rfl⟩, rfl⟩ :=
    accepted
  refine ⟨mapped, allocated, rfl, rfl, safe, ?_⟩
  simp only [decide_eq_true_eq]
  split
  · next all => exact ⟨fun _ => all, fun _ => rfl⟩
  · next short =>
    constructor
    · intro paid
      split at paid <;> cases paid
    · exact fun all => absurd all short

theorem tenders_part_le {tenders : List ValidatedTenderLine} (nonneg : ∀ tender ∈ tenders, 0 ≤ tender.amount)
    (chosen : ValidatedTenderLine → Bool) :
    0 ≤ ((tenders.filter chosen).map (·.amount)).sum ∧
      ((tenders.filter chosen).map (·.amount)).sum ≤ (tenders.map (·.amount)).sum := by
  induction tenders with
  | nil => exact ⟨Int.le_refl _, Int.le_refl _⟩
  | cons tender tenders inner =>
    have own := nonneg tender (.head _)
    obtain ⟨least, most⟩ := inner fun other member => nonneg other (.tail _ member)
    simp only [filter_cons, map_cons, sum_cons]
    split
    · simp only [map_cons, sum_cons]
      omega
    · omega

theorem cashSaleDrawerAmount_eq {tenders} (valid : ∀ tender ∈ tenders, isSafeInteger tender.amount ∧ 0 ≤ tender.amount)
    (safe : isSafeInteger ((tenders.filter (·.method = .cash)).map (·.amount)).sum) :
    cashSaleDrawerAmount tenders = .ok ((tenders.filter (·.method = .cash)).map (·.amount)).sum := by
  have general : ∀ start, tenders.foldlM (fun total tender =>
      if tender.method = .cash then do
        let amount ← parseVndAmount tender.amount
        return total + amount
      else .ok total) start =
      Except.ok (ε := Failure) (start + ((tenders.filter (·.method = .cash)).map (·.amount)).sum) := by
    clear safe
    induction tenders with
    | nil => exact fun start => congrArg Except.ok (Int.add_zero start).symm
    | cons tender tenders inner =>
      intro start
      have rest := inner fun other member => valid other (.tail _ member)
      obtain ⟨safe, nonneg⟩ := valid tender (.head _)
      apply foldlM_cons.mpr
      by_cases cash : tender.method = .cash
      · refine ⟨start + tender.amount, ?_, ?_⟩
        · simp only [cash, if_true, eq_ok, parseVndAmount_eq_ok]
          exact ⟨_, ⟨safe, nonneg, .inl trivial, rfl⟩, rfl⟩
        · rw [rest, filter_cons_of_pos (by simpa using cash), map_cons, sum_cons, Int.add_assoc]
      · refine ⟨start, by rw [if_neg cash], ?_⟩
        rw [rest, filter_cons_of_neg (by simpa using cash)]
  apply bind_eq_ok.mpr
  exact ⟨_, (general 0).trans (congrArg Except.ok (Int.zero_add _)), vndNumber_eq_ok.mpr ⟨safe, rfl⟩⟩

/-- The tenders of a bill settle it exactly, and what its cash tenders hand over less the change is what the drawer gets. -/
theorem tenders_settle_bill {grandTotal : Int} {inputs : List TenderInputLine} {summary : ValidatedTenderSummary}
    (accepted : validateOrderTenders grandTotal inputs = .ok summary) :
    (inputs.map (·.amount)).sum = grandTotal ∧ (summary.tenders.map (·.amount)).sum = grandTotal ∧
    summary.totalConfirmed = ((summary.tenders.filter (·.status = .confirmed)).map (·.amount)).sum ∧
    summary.totalConfirmed ≤ grandTotal ∧
    (summary.paymentStatus = .paid ↔ summary.totalConfirmed = grandTotal) ∧
    Forall₂ (fun input tender => tender.method = input.method ∧ tender.amount = input.amount ∧
      (tender.method = .cash → tender.tenderedCash = input.tenderedCash.getD input.amount ∧
        tender.changeDue = tender.tenderedCash - tender.amount ∧ 0 ≤ tender.changeDue)) inputs summary.tenders ∧
    cashSaleDrawerAmount summary.tenders = .ok ((summary.tenders.filter (·.method = .cash)).map (·.amount)).sum ∧
    ((summary.tenders.filter (·.method = .cash)).map fun tender => tender.tenderedCash - tender.changeDue).sum =
      ((summary.tenders.filter (·.method = .cash)).map (·.amount)).sum := by
  have settles := ValidatedTenderSummary.settles accepted
  have valid : ∀ tender ∈ summary.tenders, ∃ input : TenderInputLine, input.Validates (grandTotal = 0) tender := by
    intro tender member
    obtain ⟨input, _, made⟩ := mapM_mem settles.lines member
    exact ⟨input, validates made⟩
  have same : summary.tenders.map (·.amount) = inputs.map (·.amount) :=
    mapM_map_eq (fun _ _ made => (validates made).amount) settles.lines
  refine ⟨same ▸ settles.allocated, settles.allocated, settles.confirmed, ?_, settles.paid, ?_, ?_, ?_⟩
  · have part := tenders_part_le (fun tender member => (valid tender member).elim fun _ each => each.nonneg) (·.status = .confirmed)
    rw [settles.confirmed, ← settles.allocated]
    exact part.2
  · apply (mapM_eq_ok.mp settles.lines).imp
    intro input tender made
    have each := validates made
    exact ⟨each.method, each.amount, fun cash => (each.cash cash).2⟩
  · apply cashSaleDrawerAmount_eq
    · intro tender member
      obtain ⟨input, each⟩ := valid tender member
      exact ⟨each.safe, each.nonneg⟩
    · rw [← settles.cash]
      exact settles.safe
  · apply congrArg sum
    apply map_congr_left
    intro tender member
    obtain ⟨listed, cash⟩ := mem_filter.mp member
    obtain ⟨input, each⟩ := valid tender listed
    have change := (each.cash (of_decide_eq_true cash)).2.2.1
    omega

private def mixedInputs : List TenderInputLine :=
  [{ method := .cash, amount := 70, tenderedCash := some 100 },
   { method := .bankTransfer, amount := 20, verified := true, externalRef := some "FT1" },
   { method := .cod, amount := 10 }]

private def mixedSummary : ValidatedTenderSummary where
  tenders := [⟨.cash, 70, 100, 30, .confirmed, none⟩, ⟨.bankTransfer, 20, 0, 0, .confirmed, some "FT1"⟩, ⟨.cod, 10, 0, 0, .pending, none⟩]
  totalAllocated := 100
  totalConfirmed := 90
  totalCashSales := 70
  totalChangeDue := 30
  allConfirmed := false
  paymentStatus := .partiallyPaid

private theorem mixed_accepted : validateOrderTenders 100 mixedInputs = .ok mixedSummary := rfl

theorem mixed_tenders_settle :
    (mixedSummary.tenders.map (·.amount)).sum = 100 ∧ mixedSummary.totalConfirmed ≤ 100 ∧
      cashSaleDrawerAmount mixedSummary.tenders = .ok 70 := by
  obtain ⟨_, total, _, confirmed, _, _, drawer, _⟩ := tenders_settle_bill mixed_accepted
  exact ⟨total, confirmed, drawer⟩

end Sales
