import RetailApi.Base.Keyed
import RetailApi.Finance.Domain

/-! What a payment is spread into: each line takes a part of one document's outstanding
amount, no two lines take from one document, and the lines add up to no more than the payment. -/

namespace Finance

open Transaction JsNumber List Int

structure Allocates (doc : OpenObligationSnapshot) (line : CalculatedAllocationLine) : Prop where
  own : line.documentId = doc.id
  positive : 0 < line.allocatedAmount
  enough : line.allocatedAmount ≤ doc.outstandingAmount
  paid : line.paidAmountAfter = add doc.paidAmount line.allocatedAmount
  outstanding : line.outstandingAfter = doc.outstandingAmount - line.allocatedAmount
  status : line.statusAfter = if line.outstandingAfter = 0 then .paid else .partiallyPaid

theorem allocates_line {doc} {allocated} (positive : 0 < allocated)
    (enough : allocated ≤ doc.outstandingAmount) :
    Allocates doc (allocationLine doc doc.paidAmount doc.outstandingAmount allocated) :=
  ⟨rfl, positive, enough, rfl, rfl, rfl⟩

structure Spreads (docs : List OpenObligationSnapshot) (lines : List CalculatedAllocationLine) : Prop where
  each : ∀ line ∈ lines, ∃ doc ∈ docs, Allocates doc line
  distinct : (lines.map (·.documentId)).Nodup

variable {kind : ObligationKind} {docs : List OpenObligationSnapshot}

theorem allocateExplicit_spreads {request before after} (spread : Spreads docs before)
    (ran : allocateExplicit kind docs before request = .ok after) : Spreads docs after := by
  simp only [allocateExplicit, eq_ok, parseVnd_eq_ok] at ran
  obtain ⟨_, apart, doc, found, allocated, ⟨_, _, sign, zero⟩, outstanding, ⟨owed, _⟩, paid, ⟨settled, _⟩, _, enough, rfl⟩ :=
    ran
  cases owed
  cases settled
  have named : doc.id = request.documentId := by simpa using find?_some found
  have positive : 0 < allocated := by simp at sign zero; omega
  have line := allocates_line positive enough
  constructor
  · exact forall_concat spread.each ⟨doc, mem_of_find?_eq_some found, line⟩
  · apply Keyed.nodup_append spread.distinct
    intro other member
    rw [line.own, named]
    exact apart other member

theorem allocateFifo_spreads {remaining lines} (executed : allocateFifo remaining docs = .ok lines) :
    (∀ line ∈ lines, ∃ doc ∈ docs, Allocates doc line) ∧ (lines.map (·.documentId)).Sublist (docs.map (·.id)) := by
  induction docs generalizing remaining lines with
  | nil =>
    cases executed
    simp
  | cons doc docs inner =>
    have later : ∀ {rest : List CalculatedAllocationLine}, (∀ line ∈ rest, ∃ other ∈ docs, Allocates other line) →
        ∀ line ∈ rest, ∃ other ∈ doc :: docs, Allocates other line := by
      intro rest each line member
      obtain ⟨other, inside, allocates⟩ := each line member
      exact ⟨other, .tail _ inside, allocates⟩
    rw [allocateFifo] at executed
    split at executed
    · cases executed
      simp
    · next remains =>
      simp only [eq_ok, parseVnd_eq_ok] at executed
      obtain ⟨outstanding, ⟨owed, _⟩, ran⟩ := executed
      cases owed
      split at ran
      · obtain ⟨each, sub⟩ := inner ran
        exact ⟨later each, sub.cons _⟩
      · next owing =>
        simp only [eq_ok, parseVnd_eq_ok] at ran
        obtain ⟨paid, ⟨settled, _⟩, rest, ran, rfl⟩ := ran
        cases settled
        obtain ⟨each, sub⟩ := inner ran
        constructor
        · intro line member
          rcases mem_cons.mp member with rfl | inside
          · exact ⟨doc, .head _, allocates_line (by split <;> omega) (by split <;> omega)⟩
          · exact later each line inside
        · exact sub.cons_cons _

structure Allocation (payment : Int) (docs : List OpenObligationSnapshot) (policy : OverpaymentPolicy)
    (result : CalculatedPaymentAllocationResult) : Prop extends Spreads docs result.allocations where
  amount : result.paymentAmount = payment
  positive : 0 < payment
  safe : IsSafe payment
  total : result.totalAllocated = (result.allocations.map (·.allocatedAmount)).sum
  whole : result.totalAllocated + result.overpaymentAmount = payment
  beyond : 0 ≤ result.overpaymentAmount
  rejected : policy = .reject → result.overpaymentAmount = 0

theorem calculateDocumentAllocations_ok {payment explicit policy result} (distinct : (docs.map (·.id)).Nodup)
    (executed : calculateDocumentAllocations payment docs explicit policy kind = .ok result) :
    Allocation payment docs policy result := by
  simp only [calculateDocumentAllocations, eq_ok, parseVnd_eq_ok] at executed
  obtain ⟨amount, ⟨given, safe, sign, zero⟩, allocations, made, _, most, _, beyond, rfl⟩ := executed
  cases given
  have spread : Spreads docs allocations := by
    unfold allocate at made
    split at made
    · obtain ⟨each, sub⟩ := allocateFifo_spreads made
      exact ⟨each, sub.nodup distinct⟩
    · have start : Spreads docs [] := ⟨by simp, by simp⟩
      exact foldlM_preserves (Spreads docs) (fun _ _ _ _ kept ran => allocateExplicit_spreads kept ran) start made
  have positive : 0 < payment := by
    simp only [Bool.false_eq_true, or_false] at sign zero
    omega
  have exact_ : (allocations.map (·.allocatedAmount)).foldl add 0 = 0 + (allocations.map (·.allocatedAmount)).sum := by
    apply foldl_add_exact ?_ le_rfl (most.trans safe.2)
    rw [forall_mem_map]
    intro line member
    obtain ⟨_, _, allocates⟩ := spread.each line member
    exact allocates.positive.le
  refine ⟨spread, rfl, positive, safe, ?_, ?_, ?_, ?_⟩
  · exact exact_.trans (zero_add _)
  · exact add_sub_cancel _ payment
  · exact sub_nonneg_of_le most
  · intro reject
    rcases beyond with none | prepaid
    · exact le_antisymm none (sub_nonneg_of_le most)
    · cases reject.symm.trans prepaid

/-- A document as its table's check keeps it: amounts that are not negative, parts of an original amount that is safe. -/
structure OpenObligationSnapshot.Stored (doc : OpenObligationSnapshot) : Prop where
  paid : 0 ≤ doc.paidAmount
  outstanding : 0 ≤ doc.outstandingAmount
  whole : IsSafe (doc.paidAmount + doc.outstandingAmount)

/-- A request the amounts alone can refuse: a positive payment, and allocations that name each open document at most once. -/
structure Placeable (payment : Int) (docs : List OpenObligationSnapshot) (explicit : List RequestedAllocationLine) : Prop where
  positive : 0 < payment
  safe : IsSafe payment
  apart : (explicit.map (·.documentId)).Nodup
  each : ∀ request ∈ explicit, 0 < request.amount ∧ IsSafe request.amount ∧ ∃ doc ∈ docs, doc.id = request.documentId

/-- The outstanding amounts, or those asked for, take the payment up under the policy. -/
def Absorbs (payment : Int) (docs : List OpenObligationSnapshot) (policy : OverpaymentPolicy) :
    List RequestedAllocationLine → Prop
  | [] => policy = .prepayment ∨ payment ≤ (docs.map (·.outstandingAmount)).sum
  | explicit =>
    (∀ request ∈ explicit, ∀ doc ∈ docs, doc.id = request.documentId → request.amount ≤ doc.outstandingAmount) ∧
    (explicit.map (·.amount)).sum ≤ payment ∧ (policy = .prepayment ∨ payment ≤ (explicit.map (·.amount)).sum)

def placed (payment : Int) (docs : List OpenObligationSnapshot) : List RequestedAllocationLine → Int
  | [] => min payment (docs.map (·.outstandingAmount)).sum
  | explicit => (explicit.map (·.amount)).sum

def Exceeded (kind : ObligationKind) (failure : Failure) : Prop := ∃ message, failure = .domain kind.exceeded message 409

theorem parseVnd_error {raw options failure} (failed : parseVnd raw options = .error failure) : ¬Exceeded kind failure := by
  rintro ⟨message, rfl⟩
  simp only [parseVnd, bind_eq_error, required_eq_error, ensure_eq_error, pure_ne_error] at failed
  cases kind <;> simp [ObligationKind.exceeded] at failed

section Documents

variable {kind : ObligationKind} {docs : List OpenObligationSnapshot} (stored : ∀ doc ∈ docs, doc.Stored)

variable {doc : OpenObligationSnapshot} {request : RequestedAllocationLine} {failure : Failure}
  {lines allocations : List CalculatedAllocationLine}

theorem OpenObligationSnapshot.Stored.parses (stored : doc.Stored) (field : String) :
    parseVnd doc.outstandingAmount { allowZero := true, field } = .ok doc.outstandingAmount ∧
      parseVnd doc.paidAmount { allowZero := true, field } = .ok doc.paidAmount := by
  obtain ⟨paid, outstanding, whole⟩ := stored
  have small : IsSafe doc.outstandingAmount ∧ IsSafe doc.paidAmount := by
    unfold IsSafe maxSafeInteger at whole ⊢
    omega
  exact ⟨parseVnd_eq_ok.mpr ⟨rfl, small.1, .inl outstanding, .inr rfl⟩, parseVnd_eq_ok.mpr ⟨rfl, small.2, .inl paid, .inr rfl⟩⟩

theorem allocateExplicit_ok {before after} (ran : allocateExplicit kind docs before request = .ok after) :
    ∃ doc ∈ docs, doc.id = request.documentId ∧ (∀ line ∈ before, line.documentId ≠ request.documentId) ∧
      IsSafe request.amount ∧ 0 < request.amount ∧ request.amount ≤ doc.outstandingAmount ∧
      after = before ++ [allocationLine doc doc.paidAmount doc.outstandingAmount request.amount] := by
  simp only [allocateExplicit, eq_ok, parseVnd_eq_ok] at ran
  obtain ⟨_, apart, doc, found, allocated, ⟨given, safe, sign, zero⟩, outstanding, ⟨owed, _⟩, paid, ⟨settled, _⟩, _, enough, rfl⟩ :=
    ran
  cases given
  cases owed
  cases settled
  have named : doc.id = request.documentId := by simpa using find?_some found
  simp only [Bool.false_eq_true, or_false] at sign zero
  exact ⟨doc, mem_of_find?_eq_some found, named, apart, safe, lt_of_le_of_ne sign (Ne.symm zero), enough, rfl⟩

include stored in
theorem allocateExplicit_error {before} (failed : allocateExplicit kind docs before request = .error failure) :
    (Exceeded kind failure ∧ ∃ doc ∈ docs, doc.id = request.documentId ∧ doc.outstandingAmount < request.amount) ∨
      ¬Exceeded kind failure ∧ ((∃ line ∈ before, line.documentId = request.documentId) ∨
        (∀ doc ∈ docs, doc.id ≠ request.documentId) ∨ ¬(0 < request.amount ∧ IsSafe request.amount)) := by
  have other : ∀ {code message status}, code ≠ kind.exceeded → ¬Exceeded kind (.domain code message status) := by
    rintro code message status differs ⟨_, same⟩
    cases same
    exact differs rfl
  simp only [allocateExplicit, bind_eq_error, ensure_eq_error, eq_ok, required_eq_error, pure_ne_error, or_false, and_false,
    exists_false] at failed
  rcases failed with ⟨repeated, rfl⟩ | ⟨_, _, ⟨missing, rfl⟩ | ⟨doc, found, failed⟩⟩
  · refine .inr ⟨other (by cases kind <;> rintro ⟨⟩), .inl ?_⟩
    simpa using repeated
  · refine .inr ⟨other (by cases kind <;> rintro ⟨⟩), .inr (.inl ?_)⟩
    simpa using missing
  · have member := mem_of_find?_eq_some found
    have named : doc.id = request.documentId := by simpa using find?_some found
    have parses := (stored doc member).parses
    rcases failed with unparsed | ⟨allocated, parsed, failed⟩
    · refine .inr ⟨parseVnd_error unparsed, .inr (.inr ?_)⟩
      rintro ⟨positive, safe⟩
      have parsed : parseVnd request.amount { field := s!"allocation[{request.documentId}]" } = .ok request.amount :=
        parseVnd_eq_ok.mpr ⟨rfl, safe, .inl positive.le, .inl positive.ne'⟩
      cases parsed.symm.trans unparsed
    · simp only [parses, reduceCtorEq, false_or, Except.ok.injEq, exists_eq_left'] at failed
      obtain ⟨short, rfl⟩ := failed
      obtain ⟨given, _⟩ := parseVnd_eq_ok.mp parsed
      cases given
      exact .inl ⟨⟨_, rfl⟩, doc, member, named, not_le.mp short⟩

theorem explicit_lines {explicit : List RequestedAllocationLine}
    (ran : explicit.foldlM (allocateExplicit kind docs) [] = .ok lines) :
    lines.map (fun line => (line.documentId, line.allocatedAmount)) =
        explicit.map (fun request => (request.documentId, request.amount)) ∧
      ∀ request ∈ explicit, 0 < request.amount ∧ IsSafe request.amount ∧
        ∃ doc ∈ docs, doc.id = request.documentId ∧ request.amount ≤ doc.outstandingAmount := by
  refine foldlM_links (fun finished lines => lines.map (fun line => (line.documentId, line.allocatedAmount)) =
      finished.map (fun request => (request.documentId, request.amount)) ∧
    ∀ request ∈ finished, 0 < request.amount ∧ IsSafe request.amount ∧
      ∃ doc ∈ docs, doc.id = request.documentId ∧ request.amount ≤ doc.outstandingAmount) ⟨rfl, nofun⟩ ?_ ran
  intro finished request _ before after _ linked stepped
  obtain ⟨doc, member, named, _, safe, positive, enough, rfl⟩ := allocateExplicit_ok stepped
  constructor
  · rw [map_append, map_append, linked.1, map_singleton, map_singleton, ← named]
    rfl
  · exact forall_concat linked.2 ⟨positive, safe, doc, member, named, enough⟩

include stored in
theorem allocateFifo_total (remaining : Int) (sign : 0 ≤ remaining) :
    ∃ lines, allocateFifo remaining docs = .ok lines ∧
      (lines.map (·.allocatedAmount)).sum = min remaining (docs.map (·.outstandingAmount)).sum := by
  induction docs generalizing remaining with
  | nil => exact ⟨[], rfl, by simpa using sign⟩
  | cons doc docs inner =>
    have own := stored doc (.head _)
    have rest : ∀ other ∈ docs, other.Stored := fun other member => stored other (.tail _ member)
    have owed : 0 ≤ (docs.map (·.outstandingAmount)).sum := by
      refine sum_nonneg (forall_mem_map.mpr fun other member => ?_)
      exact (rest other member).outstanding
    have outstanding := own.outstanding
    rw [allocateFifo, map_cons, sum_cons]
    split
    · exact ⟨[], rfl, by simp; omega⟩
    · next remains =>
      simp only [own.parses, eq_ok, Except.ok.injEq, exists_eq_left']
      split
      · next none =>
        obtain ⟨lines, ran, total⟩ := inner rest remaining sign
        exact ⟨lines, ran, by omega⟩
      · next owing =>
        obtain ⟨lines, ran, total⟩ := inner rest (remaining - if remaining ≤ doc.outstandingAmount then remaining
          else doc.outstandingAmount) (by split <;> omega)
        refine ⟨_, bind_eq_ok.mpr ⟨_, rfl, bind_eq_ok.mpr ⟨lines, ran, rfl⟩⟩, ?_⟩
        rw [map_cons, sum_cons, total]
        simp only [allocationLine]
        split <;> omega

theorem allocateFifo_nothing (docs : List OpenObligationSnapshot) : allocateFifo 0 docs = .ok [] := by
  cases docs <;> rfl

theorem allocateFifo_prefix {remaining} (distinct : (docs.map (·.id)).Nodup) (executed : allocateFifo remaining docs = .ok lines)
    {before after} (whole : docs = before ++ doc :: after)
    (paid : ∃ line ∈ lines, line.documentId = doc.id) : ∀ earlier ∈ before, 0 < earlier.outstandingAmount →
      ∃ line ∈ lines, line.documentId = earlier.id ∧ line.outstandingAfter = 0 := by
  induction before generalizing remaining lines docs with
  | nil => nofun
  | cons first before inner =>
    subst whole
    obtain ⟨apart, distinct⟩ := nodup_cons.mp distinct
    obtain ⟨line, listed, own⟩ := paid
    intro earlier member owing
    rw [cons_append, allocateFifo] at executed
    split at executed
    · cases executed
      cases listed
    · next remains =>
      simp only [eq_ok, parseVnd_eq_ok] at executed
      obtain ⟨outstanding, ⟨owed, _⟩, ran⟩ := executed
      cases owed
      split at ran
      · next none =>
        rcases mem_cons.mp member with rfl | later
        · exact absurd owing (not_lt.mpr none)
        · exact inner distinct ran rfl ⟨line, listed, own⟩ earlier later owing
      · simp only [eq_ok, parseVnd_eq_ok] at ran
        obtain ⟨settled, _, rest, ran, rfl⟩ := ran
        have later : line ∈ rest := by
          rcases mem_cons.mp listed with rfl | later
          · exact absurd (mem_map.mpr ⟨doc, by simp, own.symm⟩) apart
          · exact later
        rcases mem_cons.mp member with rfl | behind
        · refine ⟨_, .head _, rfl, ?_⟩
          by_cases short : remaining ≤ earlier.outstandingAmount
          · rw [if_pos short, sub_self, allocateFifo_nothing] at ran
            cases ran
            cases later
          · simp [allocationLine, short]
        · obtain ⟨found, inside, same, none⟩ := inner distinct ran rfl ⟨line, later, own⟩ earlier behind owing
          exact ⟨found, .tail _ inside, same, none⟩

variable {payment : Int} {explicit : List RequestedAllocationLine} {policy : OverpaymentPolicy}

include stored in
theorem allocate_total (sign : 0 ≤ payment) (made : allocate kind docs payment explicit = .ok allocations) :
    (allocations.map (·.allocatedAmount)).sum = placed payment docs explicit := by
  cases explicit with
  | nil =>
    obtain ⟨lines, ran, total⟩ := allocateFifo_total stored payment sign
    cases ran.symm.trans made
    exact total
  | cons request rest =>
    have amounts := congrArg (map Prod.snd) (explicit_lines made).1
    simp only [map_map, Function.comp_def] at amounts
    exact congrArg sum amounts

theorem allocate_nonneg (made : allocate kind docs payment explicit = .ok allocations) :
    ∀ amount ∈ allocations.map (·.allocatedAmount), 0 ≤ amount := by
  rw [forall_mem_map]
  intro line member
  unfold allocate at made
  split at made
  · obtain ⟨doc, _, allocates⟩ := (allocateFifo_spreads made).1 line member
    exact allocates.positive.le
  · have spread : Spreads docs allocations :=
      foldlM_preserves (Spreads docs) (fun _ _ _ _ kept ran => allocateExplicit_spreads kept ran)
        ⟨by simp, by simp⟩ made
    obtain ⟨doc, _, allocates⟩ := spread.each line member
    exact allocates.positive.le

include stored in
theorem allocate_error (sign : 0 ≤ payment) (failed : allocate kind docs payment explicit = .error failure) :
    (Exceeded kind failure ∧ ¬Absorbs payment docs policy explicit) ∨
      (¬Exceeded kind failure ∧ ¬Placeable payment docs explicit) := by
  unfold allocate at failed
  split at failed
  · obtain ⟨lines, ran, _⟩ := allocateFifo_total stored payment sign
    cases ran.symm.trans failed
  · next some =>
    obtain ⟨finished, request, rest, middle, whole, ran, broke⟩ := foldlM_eq_error failed
    have listed : request ∈ explicit := by rw [whole]; simp
    rcases allocateExplicit_error stored broke with ⟨exceeded, doc, member, named, short⟩ | ⟨other, reason⟩
    · refine .inl ⟨exceeded, fun absorbs => ?_⟩
      cases explicit with
      | nil => exact some rfl
      | cons first later => exact absurd (absorbs.1 request listed doc member named) (not_le.mpr short)
    · refine .inr ⟨other, fun placeable => ?_⟩
      obtain ⟨positive, safe, doc, member, named⟩ := placeable.each request listed
      rcases reason with ⟨line, taken, same⟩ | missing | illegal
      · have ids := congrArg (map Prod.fst) (explicit_lines ran).1
        simp only [map_map, Function.comp_def] at ids
        have before : request.documentId ∈ finished.map (·.documentId) := ids ▸ mem_map.mpr ⟨line, taken, same⟩
        have apart := placeable.apart
        rw [whole, map_append, map_cons] at apart
        exact disjoint_of_nodup_append apart before (.head _)
      · exact missing doc member named
      · exact illegal ⟨positive, safe⟩

include stored in
theorem calculateDocumentAllocations_error
    (failed : calculateDocumentAllocations payment docs explicit policy kind = .error failure) :
    (Exceeded kind failure ∧ ¬Absorbs payment docs policy explicit) ∨
      (¬Exceeded kind failure ∧ ¬Placeable payment docs explicit) := by
  rcases bind_eq_error.mp failed with unparsed | ⟨amount, parsed, failed⟩
  · refine .inr ⟨parseVnd_error unparsed, fun placeable => ?_⟩
    rw [parseVnd_eq_ok.mpr ⟨rfl, placeable.safe, .inl placeable.positive.le, .inl placeable.positive.ne'⟩] at unparsed
    cases unparsed
  obtain ⟨given, safe, sign, zero⟩ := parseVnd_eq_ok.mp parsed
  cases given
  simp only [Bool.false_eq_true, or_false] at sign zero
  rcases bind_eq_error.mp failed with unmade | ⟨allocations, made, failed⟩
  · exact allocate_error stored sign unmade
  have nonneg := allocate_nonneg made
  have total := allocate_total stored sign made
  simp only [bind_eq_error, ensure_eq_error, ensure_eq_ok, pure_ne_error, and_false, exists_false, or_false] at failed
  rcases failed with ⟨beyond, rfl⟩ | ⟨_, most, left, rfl⟩
  · refine .inl ⟨⟨_, rfl⟩, fun absorbs => beyond ?_⟩
    have most : (allocations.map (·.allocatedAmount)).sum ≤ payment := by
      rw [total]
      cases explicit with
      | nil => exact min_le_left _ _
      | cons first later => exact absorbs.2.1
    rw [foldl_add_of_sum nonneg le_rfl (by simpa using most.trans safe.2), zero_add]
    exact most
  · refine .inl ⟨⟨_, rfl⟩, fun absorbs => left ?_⟩
    rw [foldl_add_exact nonneg le_rfl (most.trans safe.2), zero_add, total]
    cases explicit with
    | nil => exact absorbs.elim .inr fun enough => .inl (by simp [placed, min_eq_left enough])
    | cons first later => exact absorbs.2.2.elim .inr fun enough => .inl (sub_nonpos_of_le enough)

include stored in
theorem calculateDocumentAllocations_accepts {result} (distinct : (docs.map (·.id)).Nodup)
    (ran : calculateDocumentAllocations payment docs explicit policy kind = .ok result) :
    Placeable payment docs explicit ∧ Absorbs payment docs policy explicit := by
  have allocation := calculateDocumentAllocations_ok distinct ran
  simp only [calculateDocumentAllocations, eq_ok, parseVnd_eq_ok] at ran
  obtain ⟨amount, ⟨given, _⟩, allocations, made, _, _, _, _, rfl⟩ := ran
  cases given
  have total := (allocate_total stored allocation.positive.le made).symm.trans allocation.total.symm
  have most : placed payment docs explicit ≤ payment := by
    rw [total, ← allocation.whole]
    exact le_add_of_nonneg_right allocation.beyond
  have covered : policy = .prepayment ∨ payment ≤ placed payment docs explicit := by
    cases policy with
    | reject => exact .inr (by rw [total, ← allocation.whole, allocation.rejected rfl, add_zero])
    | prepayment => exact .inl rfl
  cases explicit with
  | nil => exact ⟨⟨allocation.positive, allocation.safe, .nil, by simp⟩, covered.imp_right fun enough => (le_min_iff.mp enough).2⟩
  | cons first later =>
    obtain ⟨lines, each⟩ := explicit_lines made
    have ids := congrArg (map Prod.fst) lines
    simp only [map_map, Function.comp_def] at ids
    refine ⟨⟨allocation.positive, allocation.safe, ids ▸ allocation.distinct, ?_⟩, ?_, most, covered⟩
    · intro request listed
      obtain ⟨positive, safe, doc, member, named, _⟩ := each request listed
      exact ⟨positive, safe, doc, member, named⟩
    · intro request listed doc member named
      obtain ⟨_, _, other, inside, same, enough⟩ := each request listed
      rw [inj_on_of_nodup_map distinct member inside (named.trans same.symm)]
      exact enough

end Documents

/-- A payment is placed exactly, first in, first out where nothing is named, and refused for its amount exactly
when what is outstanding or named does not take it up. -/
theorem payment_placed_exactly {payment : Int} {docs : List OpenObligationSnapshot} {explicit : List RequestedAllocationLine}
    {policy : OverpaymentPolicy} {kind : ObligationKind} (distinct : (docs.map (·.id)).Nodup)
    (stored : ∀ doc ∈ docs, doc.Stored) :
    (∀ result, calculateDocumentAllocations payment docs explicit policy kind = .ok result →
      (result.allocations.map (·.allocatedAmount)).sum + result.overpaymentAmount = payment ∧
      0 ≤ result.overpaymentAmount ∧ (policy = .reject → result.overpaymentAmount = 0) ∧
      (∀ line ∈ result.allocations, ∃ doc ∈ docs, doc.id = line.documentId ∧
        0 < line.allocatedAmount ∧ line.allocatedAmount ≤ doc.outstandingAmount ∧
        line.outstandingAfter = doc.outstandingAmount - line.allocatedAmount ∧
        line.paidAmountAfter = doc.paidAmount + line.allocatedAmount ∧
        (line.statusAfter = .paid ↔ line.outstandingAfter = 0)) ∧
      (result.allocations.map (·.documentId)).Nodup ∧
      (explicit ≠ [] → result.allocations.map (fun line => (line.documentId, line.allocatedAmount)) =
        explicit.map fun request => (request.documentId, request.amount)) ∧
      (explicit = [] → ∀ before doc after, docs = before ++ doc :: after →
        (∃ line ∈ result.allocations, line.documentId = doc.id) → ∀ earlier ∈ before, 0 < earlier.outstandingAmount →
          ∃ line ∈ result.allocations, line.documentId = earlier.id ∧ line.outstandingAfter = 0)) ∧
    ((∃ result, calculateDocumentAllocations payment docs explicit policy kind = .ok result) ↔
      Placeable payment docs explicit ∧ Absorbs payment docs policy explicit) ∧
    (Placeable payment docs explicit →
      ((∃ failure, calculateDocumentAllocations payment docs explicit policy kind = .error failure ∧ Exceeded kind failure) ↔
        ¬Absorbs payment docs policy explicit)) ∧
    (∀ failure, calculateDocumentAllocations payment docs explicit policy kind = .error failure → Exceeded kind failure →
      ¬Absorbs payment docs policy explicit) := by
  have refused : ∀ failure, calculateDocumentAllocations payment docs explicit policy kind = .error failure →
      Exceeded kind failure → ¬Absorbs payment docs policy explicit := fun failure failed exceeded =>
    (calculateDocumentAllocations_error stored failed).elim (·.2) fun other => absurd exceeded other.1
  refine ⟨?_, ⟨fun ⟨_, executed⟩ => calculateDocumentAllocations_accepts stored distinct executed, fun ⟨placeable, absorbs⟩ => ?_⟩,
    fun placeable => ⟨fun ⟨failure, failed, exceeded⟩ => refused failure failed exceeded, fun short => ?_⟩, refused⟩
  · intro result executed
    have allocation := calculateDocumentAllocations_ok distinct executed
    refine ⟨?_, allocation.beyond, allocation.rejected, ?_, allocation.distinct, ?_, ?_⟩
    · rw [← allocation.total]
      exact allocation.whole
    · intro line member
      obtain ⟨doc, inside, allocates⟩ := allocation.each line member
      refine ⟨doc, inside, allocates.own.symm, allocates.positive, allocates.enough, allocates.outstanding, ?_, ?_⟩
      · rw [allocates.paid]
        apply add_of_safe
        have kept := stored doc inside
        have part := kept.whole
        unfold IsSafe maxSafeInteger at part ⊢
        have := kept.paid
        have := allocates.positive
        have := allocates.enough
        omega
      · rw [allocates.status]
        split
        · next none => exact ⟨fun _ => none, fun _ => rfl⟩
        · next some => exact ⟨nofun, fun none => absurd none some⟩
    all_goals
      simp only [calculateDocumentAllocations, eq_ok, parseVnd_eq_ok] at executed
      obtain ⟨_, ⟨given, _⟩, allocations, made, _, _, _, _, rfl⟩ := executed
      cases given
    · intro some
      rw [allocate, if_neg some] at made
      exact (explicit_lines made).1
    · intro none before doc after whole
      rw [allocate, if_pos none] at made
      exact allocateFifo_prefix distinct made whole
  · cases executed : calculateDocumentAllocations payment docs explicit policy kind with
    | ok result => exact ⟨result, rfl⟩
    | error failure =>
      rcases calculateDocumentAllocations_error stored executed with ⟨_, beyond⟩ | ⟨_, unplaceable⟩
      · exact absurd absorbs beyond
      · exact absurd placeable unplaceable
  · cases executed : calculateDocumentAllocations payment docs explicit policy kind with
    | ok result => exact absurd (calculateDocumentAllocations_accepts stored distinct executed).2 short
    | error failure =>
      rcases calculateDocumentAllocations_error stored executed with ⟨exceeded, _⟩ | ⟨_, unplaceable⟩
      · exact ⟨failure, rfl, exceeded⟩
      · exact absurd placeable unplaceable

private def twoOpen : List OpenObligationSnapshot := [⟨1, "AR-1", 100, 40, 0, 60⟩, ⟨2, "AR-2", 50, 0, 0, 50⟩]

theorem two_documents_placed :
    ∃ result, calculateDocumentAllocations 80 twoOpen [] .reject .receivable = .ok result ∧
      (result.allocations.map (·.allocatedAmount)).sum + result.overpaymentAmount = 80 := by
  have distinct : (twoOpen.map (·.id)).Nodup := by decide
  have stored : ∀ doc ∈ twoOpen, doc.Stored := by
    intro doc member
    rcases mem_pair.mp member with rfl | rfl <;> exact ⟨by decide, by decide, by decide⟩
  obtain ⟨exact_, accepted, _⟩ := @payment_placed_exactly 80 twoOpen [] .reject .receivable distinct stored
  obtain ⟨result, executed⟩ := accepted.mpr ⟨⟨by decide, by decide, .nil, nofun⟩, .inr (by decide)⟩
  exact ⟨result, executed, (exact_ result executed).1⟩

end Finance
