import RetailApi.Base.Run
import RetailApi.Finance.Balances

/-! The general ledger over whole runs: journals balance, are stored once for each source and
each key, and a reversal cancels what it reverses, as long as no journal posted for another
purpose stands where the reversal would. -/

namespace Finance

open Transaction JsString JournalDb FinancialJournalEntity List Run

/-- What always holds of a ledger that was filled by postings and reversals. -/
structure LedgerBooks (db : JournalDb) : Prop where
  ids : (db.journals.map (·.id)).Nodup
  sources : (db.journals.map (·.source)).Nodup
  keys : (db.journals.map (·.idempotencyKey)).Nodup
  lines : ∀ journal ∈ db.journals, Lines journal.lines
  totals : ∀ journal ∈ db.journals, journal.totalDebit = debits journal.lines
  single : ∀ first ∈ db.journals, ∀ second ∈ db.journals, first.reversalOfJournalId ≠ none →
    first.reversalOfJournalId = second.reversalOfJournalId → first = second
  linked : ∀ journal ∈ db.journals, ∀ id, journal.reversedByJournalId = some id → ∃ other ∈ db.journals, other.id = id
  marked : ∀ journal ∈ db.journals, journal.status = .reversed ↔ journal.reversedByJournalId ≠ none

/-- Every reversed journal and the journal that reversed it amount to nothing together. -/
def ReversalsCancel (db : JournalDb) : Prop :=
  ∀ orig ∈ db.journals, ∀ reversal ∈ db.journals, orig.reversedByJournalId = some reversal.id →
    ∀ code, netOn code orig.lines + netOn code reversal.lines = 0

inductive LedgerChange (db : JournalDb) : LedgerCall → JournalDb → Prop
  | same {call} : LedgerChange db call db
  | posted {drawn input validated after posted} (accepted : validateBalancedJournalLines input.lines = .ok validated)
      (posting : Posting db input validated after posted) : LedgerChange db (.post drawn input) after
  | reversed {drawn idempotencyKey orig middle posted validated} (found : db.journal orig.id = some orig)
      (reversible : orig.reversible = true) (accepted : validateBalancedJournalLines (reversalLines orig) = .ok validated)
      (posting : Posting db (reversalInput db orig idempotencyKey) validated middle posted) :
      LedgerChange db (.reverse drawn orig.id idempotencyKey) (middle.markReversed orig.id posted.journal.id)

theorem ledgerStep_change (db : JournalDb) (call : LedgerCall) : LedgerChange db call (ledgerStep db call) := by
  apply commit_preserves (LedgerChange db call) .same
  intro after ran
  simp only [map_eq_ok] at ran
  obtain ⟨⟨_, posted⟩, performed, rfl⟩ := ran
  cases call with
  | post drawn input =>
    obtain ⟨validated, accepted, posting⟩ := postJournalInTx_ok performed
    exact .posted accepted posting
  | reverse drawn journalId idempotencyKey =>
    cases reverseJournalInTx_ok performed with
    | replayed => exact .same
    | reversed found reversible accepted posting =>
      obtain ⟨_, rfl⟩ := journal_some found
      exact .reversed found reversible accepted posting

namespace LedgerBooks

theorem empty {db} (none : db.journals = []) : LedgerBooks db := by
  constructor <;> simp [none]

theorem posting {db after} {input} {validated posted}
    (books : LedgerBooks db) (accepted : validateBalancedJournalLines input.lines = .ok validated)
    (posting : Posting db input validated after posted) : LedgerBooks after := by
  cases posting with
  | replayed => exact books
  | @stored _ id code absent fresh single journals tenant =>
    have inside : ∀ {journal}, journal ∈ after.journals →
        journal ∈ db.journals ∨ journal = input.journal id code validated := by
      intro journal member
      rw [journals, mem_append, mem_singleton] at member
      exact member
    constructor
    · rw [journals]
      exact Keyed.nodup_append books.ids fresh
    · rw [journals]
      exact Keyed.nodup_append books.sources fun other member => (existing_none absent member).1
    · rw [journals]
      exact Keyed.nodup_append books.keys fun other member => (existing_none absent member).2
    · intro journal member
      rcases inside member with old | rfl
      · exact books.lines journal old
      · exact validated_lines accepted
    · intro journal member
      rcases inside member with old | rfl
      · exact books.totals journal old
      · rfl
    · intro first firstIn second secondIn some_ same
      have alone : ∀ other ∈ db.journals, input.reversalOfJournalId ≠ none →
          other.reversalOfJournalId ≠ input.reversalOfJournalId := by
        intro other member given
        rcases single with none | distinct
        · exact absurd none given
        · exact distinct other member
      rcases inside firstIn with firstOld | rfl <;> rcases inside secondIn with secondOld | rfl
      · exact books.single first firstOld second secondOld some_ same
      · exact absurd same (alone first firstOld fun none => some_ (same.trans none))
      · exact absurd same.symm (alone second secondOld some_)
      · rfl
    · intro journal member id link
      rcases inside member with old | rfl
      · obtain ⟨other, stored, named⟩ := books.linked journal old id link
        exact ⟨other, journals ▸ mem_append_left _ stored, named⟩
      · cases link
    · intro journal member
      rcases inside member with old | rfl
      · exact books.marked journal old
      · simp [PostJournalInTxInput.journal]

theorem mark {db} (books : LedgerBooks db) {reversal} (stored : reversal ∈ db.journals)
    (id : Uuid) : LedgerBooks (db.markReversed id reversal.id) := by
  have inside : ∀ {journal}, journal ∈ (db.markReversed id reversal.id).journals →
      ∃ old ∈ db.journals, journal = old.mark id reversal.id := by
    intro journal member
    obtain ⟨old, inside, rfl⟩ := mem_map.mp member
    exact ⟨old, inside, rfl⟩
  have column : ∀ {κ : Type} (read : FinancialJournalEntity → κ),
      (∀ journal : FinancialJournalEntity, read (journal.mark id reversal.id) = read journal) →
      (db.markReversed id reversal.id).journals.map read = db.journals.map read := by
    intro κ read kept
    rw [markReversed, map_map]
    exact map_congr_left fun journal _ => kept journal
  constructor
  · rw [column _ fun journal => journal.mark_id id _]
    exact books.ids
  · rw [column _ fun journal => journal.mark_source id _]
    exact books.sources
  · rw [column _ fun journal => journal.mark_idempotencyKey id _]
    exact books.keys
  · intro journal member
    obtain ⟨old, oldIn, rfl⟩ := inside member
    rw [FinancialJournalEntity.mark_lines]
    exact books.lines old oldIn
  · intro journal member
    obtain ⟨old, oldIn, rfl⟩ := inside member
    rw [FinancialJournalEntity.mark_totalDebit, FinancialJournalEntity.mark_lines]
    exact books.totals old oldIn
  · intro first firstIn second secondIn some_ same
    obtain ⟨old, oldIn, rfl⟩ := inside firstIn
    obtain ⟨other, otherIn, rfl⟩ := inside secondIn
    rw [FinancialJournalEntity.mark_reversalOfJournalId] at some_ same
    rw [FinancialJournalEntity.mark_reversalOfJournalId] at same
    rw [books.single old oldIn other otherIn some_ same]
  · intro journal member link named
    obtain ⟨old, oldIn, rfl⟩ := inside member
    have found : ∃ other ∈ db.journals, other.id = link := by
      unfold FinancialJournalEntity.mark at named
      split at named
      · cases named
        exact ⟨reversal, stored, rfl⟩
      · exact books.linked old oldIn link named
    obtain ⟨other, otherIn, same⟩ := found
    exact ⟨other.mark id reversal.id, mem_map_of_mem otherIn, by rw [FinancialJournalEntity.mark_id, same]⟩
  · intro journal member
    obtain ⟨old, oldIn, rfl⟩ := inside member
    unfold FinancialJournalEntity.mark
    split
    · simp
    · exact books.marked old oldIn

theorem posted_mem {db after input validated posted}
    (posting : Posting db input validated after posted) : posted.journal ∈ after.journals := by
  cases posting with
  | replayed found => exact (existing_some found).1
  | stored _ _ _ journals => simp [journals]

theorem change {db after call} (books : LedgerBooks db) (change : LedgerChange db call after) : LedgerBooks after := by
  cases change with
  | same => exact books
  | posted accepted posting => exact books.posting accepted posting
  | reversed found reversible accepted posting => exact (books.posting accepted posting).mark (posted_mem posting) _

theorem step {db} (books : LedgerBooks db) (call : LedgerCall) : LedgerBooks (ledgerStep db call) :=
  books.change (ledgerStep_change db call)

end LedgerBooks

theorem reversible_unmarked {db} (books : LedgerBooks db) {journal}
    (member : journal ∈ db.journals) (reversible : journal.reversible = true) : journal.reversedByJournalId = none := by
  by_contra marked
  have status := (books.marked journal member).mpr marked
  have some_ := Option.isSome_iff_ne_none.mpr marked
  rw [FinancialJournalEntity.reversible, status, some_] at reversible
  cases reversible

theorem cancel_posting {db after input validated posted} (books : LedgerBooks db) (posting : Posting db input validated after posted) :
    ReversalsCancel after ↔ ReversalsCancel db := by
  cases posting with
  | replayed => exact Iff.rfl
  | @stored _ id code absent fresh single journals tenant =>
    unfold ReversalsCancel
    rw [journals]
    constructor
    · intro cancel orig origIn reversal reversalIn
      exact cancel orig (mem_append_left _ origIn) reversal (mem_append_left _ reversalIn)
    · intro cancel orig origIn reversal reversalIn link
      rcases mem_append.mp origIn with origOld | origNew
      · rcases mem_append.mp reversalIn with reversalOld | reversalNew
        · exact cancel orig origOld reversal reversalOld link
        · obtain ⟨other, stored, named⟩ := books.linked orig origOld reversal.id link
          rw [mem_singleton.mp reversalNew] at named
          exact absurd named (fresh other stored)
      · rw [mem_singleton.mp origNew] at link
        cases link

theorem cancel_mark {db} (books : LedgerBooks db) {orig reversal}
    (origIn : orig ∈ db.journals) (unmarked : orig.reversedByJournalId = none) (reversalIn : reversal ∈ db.journals) :
    ReversalsCancel (db.markReversed orig.id reversal.id) ↔
      ReversalsCancel db ∧ ∀ code, netOn code orig.lines + netOn code reversal.lines = 0 := by
  have marked : orig.mark orig.id reversal.id = { orig with status := .reversed, reversedByJournalId := some reversal.id } :=
    if_pos rfl
  have apart : ∀ other ∈ db.journals, other.reversedByJournalId ≠ none → other.mark orig.id reversal.id = other := by
    intro other otherIn link
    apply if_neg
    intro same
    rw [Rows.eq_of_key books.ids otherIn origIn same] at link
    exact link unmarked
  constructor
  · intro cancel
    constructor
    · intro other otherIn second secondIn link code
      have kept := apart other otherIn (by simp [link])
      have both := cancel _ (mem_map_of_mem otherIn) _ (mem_map_of_mem secondIn)
      simp only [kept, mark_id, mark_lines] at both
      exact both link code
    · intro code
      have both := cancel _ (mem_map_of_mem origIn) _ (mem_map_of_mem reversalIn)
      simp only [marked, mark_id, mark_lines] at both
      exact both trivial code
  · rintro ⟨cancel, own⟩ first firstIn second secondIn link code
    obtain ⟨other, otherIn, rfl⟩ := mem_map.mp firstIn
    obtain ⟨target, targetIn, rfl⟩ := mem_map.mp secondIn
    rw [mark_id] at link
    rw [mark_lines, mark_lines]
    by_cases same : other.id = orig.id
    · have equal := Rows.eq_of_key books.ids otherIn origIn same
      rw [equal, marked] at link
      have target_ := Rows.eq_of_key books.ids targetIn reversalIn (Option.some.inj link).symm
      rw [equal, target_]
      exact own code
    · rw [mark, if_neg same] at link
      exact cancel other otherIn target targetIn link code

/-- A reversal that finds a journal under its source takes it only if it undoes the original. -/
def ReversedByOwn (db : JournalDb) : LedgerCall → Prop
  | .post _ _ => True
  | .reverse _ journalId idempotencyKey => ∀ orig existing, db.journal journalId = some orig → orig.reversible = true →
      db.existing (reversalInput db orig idempotencyKey) = some existing →
      existing.source = (reversalInput db orig idempotencyKey).source → existing.totalDebit = orig.totalDebit →
      ∀ code, netOn code orig.lines + netOn code existing.lines = 0

theorem debits_reversal {db} (books : LedgerBooks db) {journal} (member : journal ∈ db.journals) {validated}
    (accepted : validateBalancedJournalLines (reversalLines journal) = .ok validated) :
    debits validated.lines = journal.totalDebit := by
  obtain ⟨_, made, shape⟩ := validate_reversalLines (books.lines journal member)
  cases made.symm.trans accepted
  have opposite : debits (journal.lines.map ValidatedJournalLine.opposite) = credits journal.lines := by
    rw [debits, credits, map_map]
    rfl
  rw [shape, opposite, books.totals journal member, (books.lines journal member).balanced.2]

theorem ledgerStep_replayed {db} (books : LedgerBooks db) {drawn idempotencyKey}
    {orig existing} (found : db.journal orig.id = some orig) (reversible : orig.reversible = true)
    (taken : db.existing (reversalInput db orig idempotencyKey) = some existing)
    (source : existing.source = (reversalInput db orig idempotencyKey).source) (total : existing.totalDebit = orig.totalDebit) :
    ledgerStep db (.reverse drawn orig.id idempotencyKey) = db.markReversed orig.id existing.id := by
  have member := (journal_some found).1
  obtain ⟨validated, accepted, _⟩ := validate_reversalLines (books.lines orig member)
  have debit : existing.totalDebit = debits validated.lines := total.trans (debits_reversal books member accepted).symm
  have unmarked := reversible_unmarked books member reversible
  have posted : postJournalInTx db drawn (reversalInput db orig idempotencyKey) =
      .ok (db, { journal := existing, replayed := true }) := by
    simp only [postJournalInTx, eq_ok]
    refine ⟨validated, accepted, ?_⟩
    rw [taken]
    simp only [replayJournal, eq_ok]
    exact ⟨_, ⟨(), ⟨debit, source⟩, rfl⟩, rfl⟩
  have ran : LedgerCall.perform db (.reverse drawn orig.id idempotencyKey) =
      .ok (db.markReversed orig.id existing.id, { journal := existing, replayed := true }) := by
    simp only [LedgerCall.perform, reverseJournalInTx, eq_ok]
    refine ⟨orig, found, ?_⟩
    rw [unmarked]
    simp only [posted]
    cases orig.status <;> rfl
  rw [ledgerStep, ran]
  rfl

theorem reversed_exactly {db} (books : LedgerBooks db) (call : LedgerCall) :
    ReversalsCancel (ledgerStep db call) ↔ ReversalsCancel db ∧ ReversedByOwn db call := by
  by_cases replay : ∃ drawn idempotencyKey orig existing, call = .reverse drawn orig.id idempotencyKey ∧
      db.journal orig.id = some orig ∧ orig.reversible = true ∧
      db.existing (reversalInput db orig idempotencyKey) = some existing ∧
      existing.source = (reversalInput db orig idempotencyKey).source ∧ existing.totalDebit = orig.totalDebit
  · obtain ⟨drawn, idempotencyKey, orig, existing, rfl, found, reversible, taken, source, total⟩ := replay
    have member := (journal_some found).1
    rw [ledgerStep_replayed books found reversible taken source total, cancel_mark books member
      (reversible_unmarked books member reversible) (existing_some taken).1]
    constructor
    · rintro ⟨cancel, own⟩
      refine ⟨cancel, ?_⟩
      intro other second looked _ answered _ _
      cases found.symm.trans looked
      cases taken.symm.trans answered
      exact own
    · rintro ⟨cancel, own⟩
      exact ⟨cancel, own orig existing found reversible taken source total⟩
  · have own : ReversedByOwn db call := by
      cases call with
      | post => trivial
      | reverse drawn journalId idempotencyKey =>
        intro orig existing found reversible taken source total
        obtain ⟨_, rfl⟩ := journal_some found
        exact absurd ⟨drawn, idempotencyKey, orig, existing, rfl, found, reversible, taken, source, total⟩ replay
    rw [and_iff_left own]
    have change := ledgerStep_change db call
    generalize ledgerStep db call = after at change ⊢
    cases change with
    | same => exact Iff.rfl
    | posted accepted posting => exact cancel_posting books posting
    | @reversed drawn idempotencyKey orig middle posted validated found reversible accepted posting =>
      have member := (journal_some found).1
      have posted_ := posting
      cases posting with
      | replayed taken source total =>
        have same := total.trans (debits_reversal books member accepted)
        exact absurd ⟨drawn, idempotencyKey, orig, _, rfl, found, reversible, taken, source, same⟩ replay
      | @stored _ id code absent fresh single journals tenant =>
        have kept : orig ∈ middle.journals := journals ▸ mem_append_left _ member
        rw [cancel_mark (books.posting accepted posted_) kept (reversible_unmarked books member reversible)
          (LedgerBooks.posted_mem posted_), cancel_posting books posted_, and_iff_left]
        intro code
        show netOn code orig.lines + netOn code validated.lines = 0
        rw [netOn_validated accepted, inputNetOn_reversalLines (books.lines orig member).folded]
        omega

def Stores (db : JournalDb) (call : LedgerCall) : Prop := (ledgerStep db call).journals.length ≠ db.journals.length

structure LedgerLaw (db : JournalDb) : Prop where
  balanced : ∀ journal ∈ db.journals, debits journal.lines = credits journal.lines ∧ 0 < debits journal.lines
  oneSided : ∀ journal ∈ db.journals, ∀ line ∈ journal.lines,
    0 < line.debitAmount ∧ line.creditAmount = 0 ∨ line.debitAmount = 0 ∧ 0 < line.creditAmount
  reversedOnce : ∀ first ∈ db.journals, ∀ second ∈ db.journals, first.reversalOfJournalId ≠ none →
    first.reversalOfJournalId = second.reversalOfJournalId → first = second
  cancelled : ∀ orig ∈ db.journals, orig.status = .reversed → ∃ reversal ∈ db.journals,
    orig.reversedByJournalId = some reversal.id ∧ ∀ code, netOn code orig.lines + netOn code reversal.lines = 0

theorem law_iff {db} (books : LedgerBooks db) : LedgerLaw db ↔ ReversalsCancel db := by
  constructor
  · intro law orig origIn reversal reversalIn link
    have status := (books.marked orig origIn).mpr (by simp [link])
    obtain ⟨other, otherIn, named, cancel⟩ := law.cancelled orig origIn status
    rw [link] at named
    rw [Rows.eq_of_key books.ids reversalIn otherIn (Option.some.inj named)]
    exact cancel
  · intro cancel
    refine ⟨?_, fun journal _ line _ => line.oneSided, books.single, ?_⟩
    · intro journal member
      have valid := (books.lines journal member).balanced
      exact ⟨valid.2, valid.1⟩
    · intro orig origIn status
      obtain ⟨id, link⟩ := Option.ne_none_iff_exists'.mp ((books.marked orig origIn).mp status)
      obtain ⟨reversal, reversalIn, rfl⟩ := books.linked orig origIn id link
      exact ⟨reversal, reversalIn, link, cancel orig origIn reversal reversalIn link⟩

theorem stores_journal {db call} (stores : Stores db call) :
    (∀ journal ∈ db.journals, journal.source ≠ call.source ∧ journal.idempotencyKey ≠ call.key db.tenantId) ∧
      ∃ journal ∈ (ledgerStep db call).journals, journal.source = call.source ∧ journal.idempotencyKey = call.key db.tenantId := by
  have change := ledgerStep_change db call
  unfold Stores at stores
  generalize ledgerStep db call = after at change stores ⊢
  cases change with
  | same => exact absurd rfl stores
  | @posted drawn input validated after posted accepted posting =>
    cases posting with
    | replayed => exact absurd rfl stores
    | @stored _ id code absent fresh single journals tenant =>
      refine ⟨fun journal member => existing_none absent member, input.journal id code validated, ?_, ?_, ?_⟩
      · simp [journals]
      · exact input.journal_source id code validated
      · exact input.journal_idempotencyKey id code validated
  | @reversed drawn idempotencyKey orig middle posted validated found reversible accepted posting =>
    cases posting with
    | replayed => exact absurd (length_map _) stores
    | @stored _ id code absent fresh single journals tenant =>
      refine ⟨fun journal member => existing_none absent member,
        ((reversalInput db orig idempotencyKey).journal id code validated).mark orig.id id, ?_, ?_, ?_⟩
      · exact mem_map_of_mem (by simp [journals])
      · rw [mark_source]
        exact PostJournalInTxInput.journal_source _ _ _ _
      · rw [mark_idempotencyKey]
        exact PostJournalInTxInput.journal_idempotencyKey _ _ _ _

theorem tenantId_step (db : JournalDb) (call : LedgerCall) : (ledgerStep db call).tenantId = db.tenantId := by
  have change := ledgerStep_change db call
  generalize ledgerStep db call = after at change ⊢
  cases change with
  | same => rfl
  | posted _ posting => cases posting <;> first | rfl | assumption
  | reversed _ _ _ posting => cases posting <;> first | rfl | assumption

theorem stored_step {db} {source key} (call : LedgerCall)
    (stored : ∃ journal ∈ db.journals, journal.source = source ∧ journal.idempotencyKey = key) :
    ∃ journal ∈ (ledgerStep db call).journals, journal.source = source ∧ journal.idempotencyKey = key := by
  have change := ledgerStep_change db call
  generalize ledgerStep db call = after at change ⊢
  obtain ⟨journal, member, named⟩ := stored
  have grown : ∀ {input : PostJournalInTxInput} {validated : ValidatedJournal} {middle : JournalDb} {posted : PostedJournal},
      Posting db input validated middle posted → journal ∈ middle.journals := by
    intro input validated middle posted posting
    cases posting with
    | replayed => exact member
    | stored _ _ _ journals => exact journals ▸ mem_append_left _ member
  cases change with
  | same => exact ⟨journal, member, named⟩
  | posted _ posting => exact ⟨journal, grown posting, named⟩
  | @reversed _ _ orig _ posted _ _ _ _ posting =>
    refine ⟨journal.mark orig.id posted.journal.id, mem_map_of_mem (grown posting), ?_⟩
    rw [mark_source, mark_idempotencyKey]
    exact named

theorem stores_once {db} {first second} {middle}
    (same : first.source = second.source ∨ first.key db.tenantId = second.key db.tenantId) (stores : Stores db first) :
    ¬Stores (after ledgerStep db (first :: middle)) second := by
  intro again
  have tenant := invariant (fun now => now.tenantId = db.tenantId)
    (fun now call kept => (tenantId_step now call).trans kept) rfl (first :: middle)
  have stored := invariant _ (fun now call => @stored_step now _ _ call)
    (stores_journal stores).2 middle
  obtain ⟨journal, member, source, key⟩ := stored
  obtain ⟨otherSource, otherKey⟩ := (stores_journal again).1 journal member
  rw [tenant] at otherKey
  rcases same with sources | keys
  · exact otherSource (source.trans sources)
  · exact otherKey (key.trans keys)

/-- The law of the general ledger holds after exactly those runs in which no reversal takes a journal for
its own that was posted for another purpose; and no two calls for one source or key ever store two journals. -/
theorem ledger_law_exactly {db : JournalDb} (empty : db.journals = []) (calls : List LedgerCall) :
    (LedgerLaw (after ledgerStep db calls) ↔ Meets ledgerStep ReversedByOwn db calls) ∧
      ∀ earlier first middle second later, calls = earlier ++ first :: middle ++ second :: later →
        first.source = second.source ∨ first.key db.tenantId = second.key db.tenantId →
        Stores (after ledgerStep db earlier) first →
        ¬Stores (after ledgerStep db (earlier ++ first :: middle)) second := by
  have books := LedgerBooks.empty empty
  constructor
  · have all := invariant LedgerBooks (fun now call kept => kept.step call) books calls
    have start : ReversalsCancel db := by
      intro orig member
      rw [empty] at member
      cases member
    rw [law_iff all, iff_meets (fun now call kept => kept.step call) (fun now call kept => reversed_exactly kept call)
      books, and_iff_right start]
  · intro earlier first middle second later _ same stores
    rw [after_append]
    apply stores_once ?_ stores
    have tenant := invariant (fun now => now.tenantId = db.tenantId)
      (fun now call kept => (tenantId_step now call).trans kept) rfl earlier
    rw [tenant]
    exact same

private def twoLines (sourceType sourceId debited credited : String) : PostJournalInTxInput where
  journalType := "MANUAL"
  sourceType := sourceType
  sourceId := sourceId
  lines := [{ accountCode := debited, debitAmount := some 100 }, { accountCode := credited, creditAmount := some 100 }]

private def reversedSale : List LedgerCall := [.post 1 (twoLines "SALE" "7" "1110" "5110"), .reverse 2 1 none]

theorem reversed_sale_cancels : LedgerLaw (after ledgerStep {} reversedSale) := by
  have absent : ∀ orig ∈ (ledgerStep {} (.post 1 (twoLines "SALE" "7" "1110" "5110"))).journals,
      (ledgerStep {} (.post 1 (twoLines "SALE" "7" "1110" "5110"))).existing
        (reversalInput (ledgerStep {} (.post 1 (twoLines "SALE" "7" "1110" "5110"))) orig none) = none := by decide +kernel
  apply (ledger_law_exactly rfl reversedSale).1.mpr
  refine ⟨trivial, ?_, trivial⟩
  intro orig existing found _ taken
  rw [absent orig (journal_some found).1] at taken
  cases taken

/-- A manual journal with the source of a reversal to come is taken for that reversal. -/
theorem reversal_does_not_cancel : ¬LedgerLaw (after ledgerStep {} [.post 1 (twoLines "SALE" "7" "1110" "5110"),
    .post 2 (twoLines "journal_reversal" "1" "1120" "7110"), .reverse 3 1 none]) := by
  intro law
  have broken : ∃ orig ∈ (after ledgerStep {} [.post 1 (twoLines "SALE" "7" "1110" "5110"),
      .post 2 (twoLines "journal_reversal" "1" "1120" "7110"), .reverse 3 1 none]).journals, orig.status = .reversed ∧
      ∀ reversal ∈ (after ledgerStep {} [.post 1 (twoLines "SALE" "7" "1110" "5110"),
        .post 2 (twoLines "journal_reversal" "1" "1120" "7110"), .reverse 3 1 none]).journals,
      orig.reversedByJournalId = some reversal.id → netOn "1110" orig.lines + netOn "1110" reversal.lines ≠ 0 := by
    decide +kernel
  obtain ⟨orig, member, status, apart⟩ := broken
  obtain ⟨reversal, stored, link, cancel⟩ := law.cancelled orig member status
  exact apart reversal stored link (cancel "1110")

end Finance
