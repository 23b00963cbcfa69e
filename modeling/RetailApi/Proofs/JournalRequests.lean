import RetailApi.Finance.Balances

/-! When the ledger takes a journal: both sides of a pair of lines are read, and the accounts they name are open. -/

namespace Finance

open Transaction JsNumber JsString List

/-- Journals may be posted to an account, which is opened when the chart does not have it. -/
def JournalDb.Accepts (db : JournalDb) (code : String) : Prop := db.ensureDefaultAccountsInTx.accounts.lookup code = some .active

instance (db : JournalDb) (code : String) : Decidable (db.Accepts code) := inferInstanceAs (Decidable (_ = _))

theorem checkAccount_eq_ok {db : JournalDb} {line} :
    db.ensureDefaultAccountsInTx.checkAccount line = .ok () ↔ db.Accepts line.accountCode := by
  simp only [JournalDb.checkAccount, eq_ok, JournalDb.Accepts]
  constructor
  · rintro ⟨status, found, active⟩
    rw [found, active]
  · intro found
    exact ⟨_, found, rfl⟩

theorem validateJournalLine_sides (line : JournalLineInput) (index : Nat) {debit credit}
    (named : toUpperCase (trimmed line.accountCode) ≠ "") (debitIs : line.debitAmount.getD 0 = debit)
    (creditIs : line.creditAmount.getD 0 = credit) (safe : IsSafe debit ∧ IsSafe credit)
    (oneSided : 0 < debit ∧ credit = 0 ∨ debit = 0 ∧ 0 < credit) :
    validateJournalLine (line, index) = .ok ⟨toUpperCase (trimmed line.accountCode), debit, credit, oneSided⟩ := by
  have debitRead : parseVnd (line.debitAmount.getD 0) { allowZero := true, field := s!"lines[{index}].debitAmount" } =
      .ok debit := parseVnd_eq_ok.mpr ⟨congrArg some debitIs, safe.1, .inl (by omega), .inr rfl⟩
  have creditRead : parseVnd (line.creditAmount.getD 0) { allowZero := true, field := s!"lines[{index}].creditAmount" } =
      .ok credit := parseVnd_eq_ok.mpr ⟨congrArg some creditIs, safe.2, .inl (by omega), .inr rfl⟩
  simp only [validateJournalLine, ensure, if_pos named, debitRead, creditRead]
  exact dif_pos oneSided

theorem checkAccounts_eq_ok {db : JournalDb} {lines : List ValidatedJournalLine} :
    lines.forM db.ensureDefaultAccountsInTx.checkAccount = .ok () ↔ ∀ line ∈ lines, db.Accepts line.accountCode := by
  induction lines with
  | nil => exact ⟨nofun, fun _ => rfl⟩
  | cons line lines inner =>
    show (db.ensureDefaultAccountsInTx.checkAccount line >>= fun _ =>
      lines.forM db.ensureDefaultAccountsInTx.checkAccount) = .ok () ↔ _
    rw [bind_eq_ok, forall_mem_cons, ← inner, ← checkAccount_eq_ok]
    exact ⟨fun ⟨_, first, rest⟩ => ⟨first, rest⟩, fun ⟨first, rest⟩ => ⟨(), first, rest⟩⟩

theorem validate_pair {amount : Int} (debit credit : String) (positive : 0 < amount) (safe : IsSafe amount)
    (debitNamed : toUpperCase (trimmed debit) ≠ "") (creditNamed : toUpperCase (trimmed credit) ≠ "") :
    ∃ validated, validateBalancedJournalLines [{ accountCode := debit, debitAmount := some amount },
        { accountCode := credit, creditAmount := some amount }] = .ok validated ∧
      validated.lines.map (·.accountCode) = [toUpperCase (trimmed debit), toUpperCase (trimmed credit)] := by
  have zero : IsSafe 0 := by decide
  have first := validateJournalLine_sides { accountCode := debit, debitAmount := some amount } 0 debitNamed rfl rfl
    ⟨safe, zero⟩ (.inl ⟨positive, rfl⟩)
  have second := validateJournalLine_sides { accountCode := credit, creditAmount := some amount } 1 creditNamed rfl rfl
    ⟨zero, safe⟩ (.inr ⟨rfl, positive⟩)
  simp only at first second
  generalize madeFirst : ValidatedJournalLine.mk _ _ _ _ = one at first
  generalize madeSecond : ValidatedJournalLine.mk _ _ _ _ = two at second
  have balanced : 0 < debits [one, two] ∧ debits [one, two] = credits [one, two] := by
    rw [← madeFirst, ← madeSecond]
    simp [debits, credits, positive]
  refine ⟨⟨[one, two], balanced⟩, ?_, ?_⟩
  · simp only [validateBalancedJournalLines, eq_ok]
    exact ⟨(), le_rfl, [one, two], mapM_eq_ok.mpr (.cons first (.cons second .nil)), dif_pos balanced⟩
  · show [one.accountCode, two.accountCode] = _
    rw [← madeFirst, ← madeSecond]

theorem postJournalInTx_new {db : JournalDb} (drawn : Uuid) {input : PostJournalInTxInput} {validated}
    (accepted : validateBalancedJournalLines input.lines = .ok validated) (absent : db.existing input = none)
    (single : input.reversalOfJournalId = none) (accounts : ∀ line ∈ validated.lines, db.Accepts line.accountCode) :
    ∃ after posted, postJournalInTx db drawn input = .ok (after, posted) := by
  have checked := checkAccounts_eq_ok.mpr accounts
  simp only [postJournalInTx, absent, eq_ok, JournalDb.insert]
  exact ⟨_, _, validated, accepted, (), checked, _, ⟨(), .inl single, rfl⟩, rfl⟩

end Finance
