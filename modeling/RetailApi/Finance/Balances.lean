import RetailApi.Base.JsText
import RetailApi.Finance.Journal

/-! What journals do to the balances of the general ledger: what a posting can store, and
what its lines amount to on each account. -/

namespace Finance

open Transaction JsString JsNumber ValidatedJournalLine List Keyed

def ValidatedJournalLine.net (line : ValidatedJournalLine) : Int := line.debitAmount - line.creditAmount

def netOn (code : String) (lines : List ValidatedJournalLine) : Int :=
  total accountCode net code lines

/-- Debit less credit of one account over all stored journals; the reversed ones count, as their reversals do. -/
def JournalDb.balance (db : JournalDb) (code : String) : Int := (db.journals.map fun journal => netOn code journal.lines).sum

variable {line : ValidatedJournalLine} {lines : List JournalLineInput} {validated : ValidatedJournal} {after ledger : JournalDb}
  {posted : PostedJournal} {journal : FinancialJournalEntity}

theorem validateJournalLine_ok {input} (accepted : validateJournalLine input = .ok line) :
    line.accountCode = toUpperCase (trimmed input.1.accountCode) ∧ line.accountCode ≠ "" ∧
      line.debitAmount = input.1.debitAmount.getD 0 ∧ line.creditAmount = input.1.creditAmount.getD 0 ∧
      IsSafe line.debitAmount ∧ IsSafe line.creditAmount := by
  simp only [validateJournalLine, eq_ok, parseVnd_eq_ok] at accepted
  obtain ⟨_, named, debit, ⟨given, safeDebit, _⟩, credit, ⟨owed, safeCredit, _⟩, chosen⟩ := accepted
  split at chosen
  · rw [pure_eq_ok] at chosen
    rw [← chosen]
    exact ⟨rfl, named, (Option.some.inj given).symm, (Option.some.inj owed).symm, safeDebit, safeCredit⟩
  · cases chosen

theorem validateBalancedJournalLines_ok (accepted : validateBalancedJournalLines lines = .ok validated) :
    2 ≤ lines.length ∧ lines.zipIdx.mapM validateJournalLine = .ok validated.lines := by
  simp only [validateBalancedJournalLines, eq_ok] at accepted
  obtain ⟨_, several, listed, mapped, chosen⟩ := accepted
  split at chosen
  · rw [pure_eq_ok] at chosen
    rw [← chosen]
    exact ⟨several, mapped⟩
  · cases chosen

def inputNetOn (code : String) (lines : List JournalLineInput) : Int :=
  total (fun line => toUpperCase (trimmed line.accountCode))
    (fun line => line.debitAmount.getD 0 - line.creditAmount.getD 0) code lines

theorem netOn_validated (accepted : validateBalancedJournalLines lines = .ok validated) (code : String) :
    netOn code validated.lines = inputNetOn code lines := by
  have mapped := (validateBalancedJournalLines_ok accepted).2
  have pairs : validated.lines.map (fun line => (line.accountCode, line.net)) = lines.zipIdx.map fun input =>
      (toUpperCase (trimmed input.1.accountCode), input.1.debitAmount.getD 0 - input.1.creditAmount.getD 0) := by
    refine mapM_map_eq ?_ mapped
    intro input line made
    obtain ⟨named, _, debit, credit, _⟩ := validateJournalLine_ok made
    simp only [named, net, debit, credit]
  have inputs : lines.zipIdx.map (fun input => (toUpperCase (trimmed input.1.accountCode),
      input.1.debitAmount.getD 0 - input.1.creditAmount.getD 0)) = lines.map fun line =>
      (toUpperCase (trimmed line.accountCode), line.debitAmount.getD 0 - line.creditAmount.getD 0) := by
    conv_rhs => rw [← zipIdx_map_fst 0 lines, map_map]
    rfl
  have totals := congrArg (total Prod.fst Prod.snd code) (pairs.trans inputs)
  rw [total_map, total_map] at totals
  exact totals

theorem inputNetOn_cons (code : String) (line : JournalLineInput) (lines : List JournalLineInput) :
    inputNetOn code (line :: lines) = (if toUpperCase (trimmed line.accountCode) = code then
      line.debitAmount.getD 0 - line.creditAmount.getD 0 else 0) + inputNetOn code lines :=
  total_cons line lines

@[simp] theorem inputNetOn_nil (code : String) : inputNetOn code [] = 0 := rfl

section

variable (accepted : validateBalancedJournalLines lines = .ok validated)

include accepted

theorem sum_validated (column : ValidatedJournalLine → Int) (given : JournalLineInput → Option Int)
    (read : ∀ input line, validateJournalLine input = .ok line → column line = (given input.1).getD 0) :
    (validated.lines.map column).sum = (lines.map fun line => (given line).getD 0).sum := by
  rw [mapM_map_eq read (validateBalancedJournalLines_ok accepted).2]
  conv_rhs => rw [← zipIdx_map_fst 0 lines, map_map]
  rfl

theorem debits_validated : debits validated.lines = (lines.map fun line => line.debitAmount.getD 0).sum :=
  sum_validated accepted _ (·.debitAmount) fun _ _ made => (validateJournalLine_ok made).2.2.1

theorem credits_validated : credits validated.lines = (lines.map fun line => line.creditAmount.getD 0).sum :=
  sum_validated accepted _ (·.creditAmount) fun _ _ made => (validateJournalLine_ok made).2.2.2.1

theorem validated_input (line : JournalLineInput) (member : line ∈ lines) :
    IsSafe (line.debitAmount.getD 0) ∧ IsSafe (line.creditAmount.getD 0) ∧
      (0 < line.debitAmount.getD 0 ∧ line.creditAmount.getD 0 = 0 ∨
        line.debitAmount.getD 0 = 0 ∧ 0 < line.creditAmount.getD 0) := by
  obtain ⟨index, listed⟩ : ∃ index, (line, index) ∈ lines.zipIdx := by
    rw [← zipIdx_map_fst 0 lines] at member
    obtain ⟨⟨_, index⟩, inside, rfl⟩ := mem_map.mp member
    exact ⟨index, inside⟩
  obtain ⟨made, _, ran⟩ := mapM_made (validateBalancedJournalLines_ok accepted).2 listed
  obtain ⟨_, _, debit, credit, safeDebit, safeCredit⟩ := validateJournalLine_ok ran
  have sides := made.oneSided
  rw [debit] at safeDebit sides
  rw [credit] at safeCredit sides
  exact ⟨safeDebit, safeCredit, sides⟩

end

theorem folded_code : ∀ code ∈ defaultFinanceAccounts, toUpperCase (trimmed code) = code := by decide +kernel

structure Lines (lines : List ValidatedJournalLine) : Prop where
  several : 2 ≤ lines.length
  folded : ∀ line ∈ lines, toUpperCase (trimmed line.accountCode) = line.accountCode
  named : ∀ line ∈ lines, line.accountCode ≠ ""
  safe : ∀ line ∈ lines, IsSafe line.debitAmount ∧ IsSafe line.creditAmount
  balanced : 0 < debits lines ∧ debits lines = credits lines

theorem validated_lines (accepted : validateBalancedJournalLines lines = .ok validated) : Lines validated.lines := by
  obtain ⟨several, mapped⟩ := validateBalancedJournalLines_ok accepted
  have made := fun line (member : line ∈ validated.lines) => mapM_mem mapped member
  refine ⟨?_, ?_, ?_, ?_, validated.balanced⟩
  · rw [← (mapM_eq_ok.mp mapped).length_eq, length_zipIdx]
    exact several
  · intro line member
    obtain ⟨input, _, made⟩ := made line member
    rw [(validateJournalLine_ok made).1]
    exact toUpperCase_trimmed_again _
  · intro line member
    obtain ⟨input, _, made⟩ := made line member
    exact (validateJournalLine_ok made).2.1
  · intro line member
    obtain ⟨input, _, made⟩ := made line member
    exact (validateJournalLine_ok made).2.2.2.2

/-- What a successful posting does: it answers with the journal posted before for its source, or it stores one. -/
inductive Posting (db : JournalDb) (input : PostJournalInTxInput) (validated : ValidatedJournal) :
    JournalDb → PostedJournal → Prop
  | replayed {existing : FinancialJournalEntity} (found : db.existing input = some existing)
      (source : existing.source = input.source) (total : existing.totalDebit = debits validated.lines) :
      Posting db input validated db { journal := existing, replayed := true }
  | stored {after : JournalDb} {id : Uuid} {code : String} (absent : db.existing input = none)
      (fresh : ∀ other ∈ db.journals, other.id ≠ id)
      (single : input.reversalOfJournalId = none ∨
        ∀ other ∈ db.journals, other.reversalOfJournalId ≠ input.reversalOfJournalId)
      (journals : after.journals = db.journals ++ [input.journal id code validated])
      (tenant : after.tenantId = db.tenantId) :
      Posting db input validated after { journal := input.journal id code validated, replayed := false }

theorem postJournalInTx_ok {db drawn input} (executed : postJournalInTx db drawn input = .ok (after, posted)) :
    ∃ validated, validateBalancedJournalLines input.lines = .ok validated ∧ Posting db input validated after posted := by
  simp only [postJournalInTx, eq_ok] at executed
  obtain ⟨validated, accepted, ran⟩ := executed
  refine ⟨validated, accepted, ?_⟩
  split at ran
  · next existing found =>
    simp only [replayJournal, eq_ok] at ran
    obtain ⟨_, ⟨_, ⟨total, source⟩, rfl⟩, same⟩ := ran
    cases same
    exact .replayed found source total
  · next absent =>
    simp only [JournalDb.insert, eq_ok, Prod.mk.injEq] at ran
    obtain ⟨_, _, inserted, ⟨_, single, rfl⟩, rfl, rfl⟩ := ran
    simp only [JournalDb.journals_ensureDefaultAccountsInTx, JournalDb.issued_ensureDefaultAccountsInTx,
      JournalDb.tenantId_ensureDefaultAccountsInTx] at single ⊢
    exact .stored absent (fun other member => Fresh.ne_pick _ drawn member) single rfl rfl

namespace JournalDb

variable {db : JournalDb} {input : PostJournalInTxInput} {journal : FinancialJournalEntity}

theorem existing_none (absent : db.existing input = none) {journal} (member : journal ∈ db.journals) :
    journal.source ≠ input.source ∧ journal.idempotencyKey ≠ input.key := by
  have other := find?_eq_none.mp absent journal member
  rwa [decide_eq_true_eq, not_or] at other

theorem existing_some (found : db.existing input = some journal) :
    journal ∈ db.journals ∧ (journal.source = input.source ∨ journal.idempotencyKey = input.key) :=
  ⟨mem_of_find?_eq_some found, by simpa using find?_some found⟩

theorem journal_some {id} (found : db.journal id = some journal) : journal ∈ db.journals ∧ journal.id = id :=
  ⟨mem_of_find?_eq_some found, by simpa using find?_some found⟩

end JournalDb

theorem Posting.balance {db input} (posting : Posting db input validated after posted) (code : String) :
    after.balance code = db.balance code + if posted.replayed then 0 else netOn code validated.lines := by
  cases posting with
  | replayed => simp
  | stored _ _ _ journals =>
    simp only [JournalDb.balance, journals, map_append, map_singleton, sum_append, sum_singleton]
    rfl

def JournalDb.Unposted (db : JournalDb) (source : JournalSource) (total : Int) : Prop :=
  ∀ journal ∈ db.journals, journal.source = source → journal.totalDebit ≠ total

instance (db : JournalDb) (source : JournalSource) (total : Int) : Decidable (db.Unposted source total) :=
  inferInstanceAs (Decidable (∀ _ ∈ _, _))

theorem Posting.new {db input}
    (posting : Posting db input validated after posted) (unposted : db.Unposted input.source (debits validated.lines)) :
    posted.replayed = false := by
  cases posting with
  | replayed found source total => exact absurd total (unposted _ (JournalDb.existing_some found).1 source)
  | stored => rfl

theorem Posting.mem {db input}
    (posting : Posting db input validated after posted) (member : journal ∈ db.journals) : journal ∈ after.journals := by
  cases posting with
  | replayed => exact member
  | stored _ _ _ journals => exact journals ▸ mem_append_left _ member

def PostsFor (db : FinanceDb) (input : PostJournalInTxInput) (ledger : JournalDb) : Prop :=
  ∃ validated posted, validateBalancedJournalLines input.lines = .ok validated ∧ Posting db.ledger input validated ledger posted

theorem posts_new {db input} (posts : PostsFor db input ledger)
    (unposted : db.ledger.Unposted input.source (input.lines.map fun line => line.debitAmount.getD 0).sum) (code : String) :
    ledger.balance code = db.ledger.balance code + inputNetOn code input.lines ∧
      (∀ journal ∈ db.ledger.journals, journal ∈ ledger.journals) ∧
      (∀ journal ∈ db.ledger.journals, journal.source ≠ input.source) ∧
      ∃ journal ∈ ledger.journals, journal.source = input.source := by
  obtain ⟨validated, posted, accepted, posting⟩ := posts
  have total := debits_validated accepted
  have new := posting.new (total ▸ unposted)
  have moved := posting.balance code
  rw [new, netOn_validated accepted code] at moved
  refine ⟨moved, fun journal member => posting.mem member, ?_⟩
  cases posting with
  | replayed => cases new
  | @stored _ id code absent _ _ journals =>
    refine ⟨fun journal member => (JournalDb.existing_none absent member).1, input.journal id code validated, ?_,
      PostJournalInTxInput.journal_source ..⟩
    rw [journals]
    exact mem_append_right _ (mem_singleton.mpr rfl)

theorem posts_source {db input} (posts : PostsFor db input ledger)
    (member : journal ∈ ledger.journals) : journal ∈ db.ledger.journals ∨ journal.source = input.source := by
  obtain ⟨validated, posted, _, posting⟩ := posts
  cases posting with
  | replayed => exact .inl member
  | stored _ _ _ journals =>
    rw [journals] at member
    rcases mem_append.mp member with old | new
    · exact .inl old
    · rw [mem_singleton.mp new]
      exact .inr (PostJournalInTxInput.journal_source ..)

theorem inputNetOn_reversalLines
    (folded : ∀ line ∈ journal.lines, toUpperCase (trimmed line.accountCode) = line.accountCode) (code : String) :
    inputNetOn code (reversalLines journal) = -netOn code journal.lines := by
  rw [inputNetOn, reversalLines, total_map, netOn, ← total_neg]
  apply congrArg sum
  apply map_congr_left
  intro line member
  simp only [Function.comp_apply, reversalLine, folded line member, Option.getD_some, net]
  split <;> omega

def ValidatedJournalLine.opposite (line : ValidatedJournalLine) : ValidatedJournalLine where
  accountCode := line.accountCode
  debitAmount := line.creditAmount
  creditAmount := line.debitAmount
  oneSided := line.oneSided.symm.imp And.symm And.symm

theorem validateJournalLine_opposite
    (folded : toUpperCase (trimmed line.accountCode) = line.accountCode) (named : line.accountCode ≠ "")
    (safe : IsSafe line.debitAmount ∧ IsSafe line.creditAmount) (number : Nat) :
    validateJournalLine (reversalLine line, number) = .ok line.opposite := by
  have sides := line.oneSided
  have chosen : 0 < line.creditAmount ∧ line.debitAmount = 0 ∨ line.creditAmount = 0 ∧ 0 < line.debitAmount := line.opposite.oneSided
  simp only [validateJournalLine, reversalLine, folded, eq_ok, parseVnd_eq_ok, Option.getD_some]
  refine ⟨(), named, line.creditAmount, ⟨rfl, safe.2, by omega, by simp⟩, line.debitAmount, ⟨rfl, safe.1, by omega, by simp⟩, ?_⟩
  rw [dif_pos chosen, pure_eq_ok]
  rfl

theorem validate_reversalLines (valid : Lines journal.lines) :
    ∃ validated, validateBalancedJournalLines (reversalLines journal) = .ok validated ∧
      validated.lines = journal.lines.map opposite := by
  have each : ∀ first (lines : List ValidatedJournalLine), (∀ line ∈ lines, line ∈ journal.lines) →
      Forall₂ (fun input line => validateJournalLine input = .ok line)
        ((lines.map reversalLine).zipIdx first) (lines.map opposite) := by
    intro first lines inside
    induction lines generalizing first with
    | nil => exact .nil
    | cons line lines inner =>
      have member := inside line (.head _)
      refine .cons ?_ (inner _ fun other later => inside other (.tail _ later))
      exact validateJournalLine_opposite (valid.folded line member) (valid.named line member) (valid.safe line member) first
  have debit : debits (journal.lines.map opposite) = credits journal.lines := by
    rw [debits, credits, map_map]
    rfl
  have credit : credits (journal.lines.map opposite) = debits journal.lines := by
    rw [debits, credits, map_map]
    rfl
  have balanced : 0 < debits (journal.lines.map opposite) ∧
      debits (journal.lines.map opposite) = credits (journal.lines.map opposite) := by
    have own := valid.balanced
    rw [debit, credit]
    omega
  refine ⟨⟨_, balanced⟩, ?_, rfl⟩
  simp only [validateBalancedJournalLines, eq_ok]
  refine ⟨(), ?_, _, mapM_eq_ok.mpr (each 0 journal.lines fun _ member => member), ?_⟩
  · rw [reversalLines, length_map]
    exact valid.several
  · rw [dif_pos balanced]
    rfl

namespace FinancialJournalEntity

variable (id reversalId : Uuid) (journal : FinancialJournalEntity)

@[simp] theorem mark_id : (journal.mark id reversalId).id = journal.id := by
  unfold mark
  split <;> rfl

@[simp] theorem mark_source : (journal.mark id reversalId).source = journal.source := by
  unfold mark
  split <;> rfl

@[simp] theorem mark_idempotencyKey : (journal.mark id reversalId).idempotencyKey = journal.idempotencyKey := by
  unfold mark
  split <;> rfl

@[simp] theorem mark_lines : (journal.mark id reversalId).lines = journal.lines := by
  unfold mark
  split <;> rfl

@[simp] theorem mark_totalDebit : (journal.mark id reversalId).totalDebit = journal.totalDebit := by
  unfold mark
  split <;> rfl

@[simp] theorem mark_reversalOfJournalId : (journal.mark id reversalId).reversalOfJournalId = journal.reversalOfJournalId := by
  unfold mark
  split <;> rfl

end FinancialJournalEntity

def FinancialJournalEntity.reversible (journal : FinancialJournalEntity) : Bool :=
  !(decide (journal.status = .reversed) && journal.reversedByJournalId.isSome)

/-- What a successful reversal does: it answers with the reversal made before, or it posts one. -/
inductive Reversing (db : JournalDb) (journalId : Uuid) (idempotencyKey : Option String) : JournalDb → PostedJournal → Prop
  | replayed {posted : PostedJournal} (flag : posted.replayed = true) : Reversing db journalId idempotencyKey db posted
  | reversed {orig : FinancialJournalEntity} {middle : JournalDb} {posted : PostedJournal} {validated : ValidatedJournal}
      (found : db.journal journalId = some orig) (reversible : orig.reversible = true)
      (accepted : validateBalancedJournalLines (reversalLines orig) = .ok validated)
      (posting : Posting db (reversalInput db orig idempotencyKey) validated middle posted) :
      Reversing db journalId idempotencyKey (middle.markReversed orig.id posted.journal.id) posted

theorem reverseJournalInTx_ok {db drawn journalId idempotencyKey}
    (executed : reverseJournalInTx db drawn journalId idempotencyKey = .ok (after, posted)) :
    Reversing db journalId idempotencyKey after posted := by
  simp only [reverseJournalInTx, eq_ok] at executed
  obtain ⟨orig, found, ran⟩ := executed
  split at ran
  · next reversalId status link =>
    simp only [replayReversal, eq_ok] at ran
    obtain ⟨_, ⟨reversal, _, rfl⟩, same⟩ := ran
    cases same
    exact .replayed rfl
  · next still =>
    simp only [eq_ok] at ran
    obtain ⟨⟨middle, made⟩, ran, same⟩ := ran
    cases same
    obtain ⟨validated, accepted, posting⟩ := postJournalInTx_ok ran
    refine .reversed found ?_ accepted posting
    unfold FinancialJournalEntity.reversible
    cases link : orig.reversedByJournalId with
    | none => simp
    | some reversalId =>
      cases status : orig.status with
      | posted => simp
      | reversed => exact absurd link (still reversalId status)

end Finance
