import RetailApi.Base.Run
import RetailApi.Platform.RefreshTokens

/-! A refresh token is exchanged once, and a family has one live token, whatever calls overlap. -/

namespace Platform

open TokenRun Table Option AList

def RefreshTokenEntity.owner (row : RefreshTokenEntity) : AccessTokenSubjectType × Uuid × Option Uuid :=
  (row.subjectType, row.subjectId, row.tenantId)

def TokenResult.presented : TokenResult → Option Uuid
  | .rotated presented _ _ _ _ => some presented
  | _ => none

def TokenCall.Fits (rows : Table Uuid RefreshTokenEntity) : TokenCall → Prop
  | .rotating current => ∃ row, rows.lookup current.1 = some row ∧ { row with revokedAt := none } = current.2
  | .claimed current => rows.lookup current.1 = some current.2 ∧ current.2.revokedAt = none
  | .stored current _ successor => (rows.lookup current.1 = some current.2 ∧ current.2.revokedAt = none) ∧
      successor.2.revokedAt = none ∧ successor.2.familyId = current.2.familyId ∧ successor.2.owner = current.2.owner ∧
      rows.lookup successor.1 = none ∧ ∀ id row, rows.lookup id = some row → row.tokenHash ≠ successor.2.tokenHash
  | .revoking _ result => result.presented = none
  | .finished result => ∀ id, result.presented = some id → ∃ row, rows.lookup id = some row ∧ row.revokedAt.isSome = true

structure TokenRun.Kept (run : TokenRun) : Prop where
  hashes : ∀ id other row otherRow, run.rows.lookup id = some row → run.rows.lookup other = some otherRow →
    row.tokenHash = otherRow.tokenHash → id = other
  live : ∀ id other row otherRow, run.rows.lookup id = some row → run.rows.lookup other = some otherRow →
    row.familyId = otherRow.familyId → row.revokedAt = none → otherRow.revokedAt = none → id = other
  owners : ∀ id other row otherRow, run.rows.lookup id = some row → run.rows.lookup other = some otherRow →
    row.familyId = otherRow.familyId → row.owner = otherRow.owner
  fits : ∀ call state, run.calls.lookup call = some state → state.Fits run.rows
  alone : ∀ first second state other id, run.calls.lookup first = some state → run.calls.lookup second = some other →
    state.locks id = true → other.locks id = true → first = second
  apart : ∀ first second current other token otherToken successor otherSuccessor,
    run.calls.lookup first = some (.stored current token successor) →
    run.calls.lookup second = some (.stored other otherToken otherSuccessor) →
    successor.1 = otherSuccessor.1 ∨ successor.2.tokenHash = otherSuccessor.2.tokenHash → first = second
  once : ∀ first second result other id, run.calls.lookup first = some (.finished result) →
    run.calls.lookup second = some (.finished other) → result.presented = some id → other.presented = some id → first = second

variable {settings : TokenSettings} {run : TokenRun} {call : Nat} {state : TokenCall}

theorem free_beside {id} (free : run.lockedBeside call id = false) {other state}
    (apart : other ≠ call) (found : run.calls.lookup other = some state) : state.locks id = false := by
  rw [lockedBeside, List.any_eq_false] at free
  have unlocked := free ⟨other, state⟩ (mem_lookup_iff.mp found)
  simpa [apart] using unlocked

theorem uninserted_beside {tokenHash} (free : run.insertsBeside call tokenHash = false) {other state} (apart : other ≠ call)
    (found : run.calls.lookup other = some state) : state.inserts tokenHash = false := by
  rw [insertsBeside, List.any_eq_false] at free
  have unlocked := free ⟨other, state⟩ (mem_lookup_iff.mp found)
  simpa [apart] using unlocked

theorem isFresh_rows {id} (fresh : run.isFresh id = true) : run.rows.lookup id = none := by
  rw [isFresh, Bool.and_eq_true] at fresh
  exact isNone_iff_eq_none.mp fresh.1

theorem isFresh_stored {id} (fresh : run.isFresh id = true) {other current token successor}
    (found : run.calls.lookup other = some (.stored current token successor)) : successor.1 ≠ id := by
  rw [isFresh, Bool.and_eq_true, List.all_eq_true] at fresh
  have apart := fresh.2 ⟨other, .stored current token successor⟩ (mem_lookup_iff.mp found)
  exact of_decide_eq_true apart

theorem findByHash_none {tokenHash} (none : (run.findByHash tokenHash).isSome = false) {id row}
    (found : run.rows.lookup id = some row) : row.tokenHash ≠ tokenHash := by
  rw [findByHash, isSome_map, isSome_eq_false_iff, isNone_iff_eq_none, List.find?_eq_none] at none
  simpa using none ⟨id, row⟩ (mem_lookup_iff.mp found)

theorem findByHash_some {tokenHash current} (found : run.findByHash tokenHash = some current) :
    run.rows.lookup current.1 = some current.2 ∧ current.2.tokenHash = tokenHash := by
  obtain ⟨entry, looked, rfl⟩ := map_eq_some_iff.mp found
  exact ⟨mem_lookup_iff.mpr (List.mem_of_find?_eq_some looked), by simpa using List.find?_some looked⟩

namespace TokenRun.Kept

theorem put (kept : run.Kept) (fits : state.Fits run.rows)
    (alone : ∀ id, state.locks id = true → ∀ other otherState, other ≠ call →
      run.calls.lookup other = some otherState → otherState.locks id = false)
    (apart : ∀ current token successor, state = .stored current token successor →
      ∀ other otherCurrent otherToken otherSuccessor, other ≠ call →
        run.calls.lookup other = some (.stored otherCurrent otherToken otherSuccessor) →
        successor.1 ≠ otherSuccessor.1 ∧ successor.2.tokenHash ≠ otherSuccessor.2.tokenHash)
    (unrotated : ∀ result, state = .finished result → result.presented = none) : (run.put call state).Kept where
  hashes := kept.hashes
  live := kept.live
  owners := kept.owners
  fits := forall_insert fits kept.fits
  alone := by
    intro first second left right id leftFound rightFound leftLocks rightLocks
    rcases of_lookup_insert leftFound with ⟨rfl, rfl⟩ | ⟨leftApart, leftBefore⟩ <;>
      rcases of_lookup_insert rightFound with ⟨here, same⟩ | ⟨rightApart, rightBefore⟩
    · exact here.symm
    · rw [alone id leftLocks second right rightApart rightBefore] at rightLocks
      cases rightLocks
    · rw [same] at rightLocks
      rw [alone id rightLocks first left leftApart leftBefore] at leftLocks
      cases leftLocks
    · exact kept.alone first second left right id leftBefore rightBefore leftLocks rightLocks
  apart := by
    intro first second current other token otherToken successor otherSuccessor leftFound rightFound same
    rcases of_lookup_insert leftFound with ⟨rfl, left⟩ | ⟨leftApart, leftBefore⟩ <;>
      rcases of_lookup_insert rightFound with ⟨here, right⟩ | ⟨rightApart, rightBefore⟩
    · exact here.symm
    · have different := apart current token successor left.symm second other otherToken otherSuccessor rightApart rightBefore
      exact absurd same (not_or.mpr different)
    · have different := apart other otherToken otherSuccessor right.symm first current token successor leftApart leftBefore
      exact absurd same (not_or.mpr ⟨different.1.symm, different.2.symm⟩)
    · exact kept.apart first second current other token otherToken successor otherSuccessor leftBefore rightBefore same
  once := by
    intro first second result other id leftFound rightFound leftPresented rightPresented
    rcases of_lookup_insert leftFound with ⟨rfl, left⟩ | ⟨_, leftBefore⟩
    · rw [unrotated result left.symm] at leftPresented
      cases leftPresented
    · rcases of_lookup_insert rightFound with ⟨rfl, right⟩ | ⟨_, rightBefore⟩
      · rw [unrotated other right.symm] at rightPresented
        cases rightPresented
      · exact kept.once first second result other id leftBefore rightBefore leftPresented rightPresented

theorem putIdle (kept : run.Kept) (fits : state.Fits run.rows) (unlocked : ∀ id, state.locks id = false)
    (inserts : ∀ current token successor, state ≠ .stored current token successor)
    (unrotated : ∀ result, state = .finished result → result.presented = none) : (run.put call state).Kept :=
  kept.put fits (fun id locked => absurd locked (by rw [unlocked id]; exact Bool.false_ne_true))
    (fun current token successor same => absurd same (inserts current token successor)) unrotated

theorem finish (kept : run.Kept) {result} (unrotated : result.presented = none) :
    (run.put call (.finished result)).Kept := by
  refine kept.putIdle (fun id presented => ?_) (fun _ => rfl) (fun _ _ _ same => by cases same) ?_
  · cases unrotated.symm.trans presented
  · rintro _ ⟨⟩
    exact unrotated

theorem startRevoke (kept : run.Kept) {familyIds} {result} (unrotated : result.presented = none) :
    (run.put call (.revoking { familyIds } result)).Kept :=
  kept.putIdle unrotated (fun _ => rfl) (fun _ _ _ same => by cases same) (fun _ same => by cases same)

end TokenRun.Kept

def written (now : Int) (rows : Table Uuid RefreshTokenEntity) (revoked : List Uuid) (added : Option TokenRow) :
    Table Uuid RefreshTokenEntity :=
  added.elim (revoked.foldl (revokeRow now) rows) fun row =>
    (revoked.foldl (revokeRow now) rows).insert row.1 row.2

theorem lookup_revokeRow (now : Int) (rows : Table Uuid RefreshTokenEntity) (id other : Uuid) :
    (revokeRow now rows id).lookup other =
      if other = id then (rows.lookup id).map fun row => { row with revokedAt := some now } else rows.lookup other := by
  rw [revokeRow]
  cases found : rows.lookup id with
  | none =>
    by_cases same : other = id
    · rw [if_pos same, same, found, map_none]
    · rw [if_neg same]
  | some row => exact lookup_insert_if ..

theorem lookup_revoked (now : Int) (rows : Table Uuid RefreshTokenEntity) (ids : List Uuid) (other : Uuid) :
    (ids.foldl (revokeRow now) rows).lookup other =
      if other ∈ ids then (rows.lookup other).map fun row => { row with revokedAt := some now } else rows.lookup other := by
  induction ids generalizing rows with
  | nil => simp
  | cons id ids inner =>
    rw [List.foldl_cons, inner, lookup_revokeRow]
    by_cases same : other = id
    · subst same
      rw [if_pos rfl, if_pos (List.mem_cons_self ..), map_map]
      split <;> rfl
    · simp [same]

theorem of_lookup_written {now rows revoked added id row} (found : (written now rows revoked added).lookup id = some row) :
    added = some (id, row) ∨ ∃ old, rows.lookup id = some old ∧
      (id ∈ revoked ∧ row = { old with revokedAt := some now } ∨ id ∉ revoked ∧ row = old) := by
  have before : (revoked.foldl (revokeRow now) rows).lookup id = some row → ∃ old, rows.lookup id = some old ∧
      (id ∈ revoked ∧ row = { old with revokedAt := some now } ∨ id ∉ revoked ∧ row = old) := by
    intro looked
    rw [lookup_revoked] at looked
    by_cases member : id ∈ revoked
    · rw [if_pos member] at looked
      obtain ⟨old, stored, rfl⟩ := map_eq_some_iff.mp looked
      exact ⟨old, stored, .inl ⟨member, rfl⟩⟩
    · rw [if_neg member] at looked
      exact ⟨row, looked, .inr ⟨member, rfl⟩⟩
  cases added with
  | none => exact .inr (before found)
  | some new =>
    rcases of_lookup_insert found with ⟨rfl, rfl⟩ | ⟨_, looked⟩
    · exact .inl rfl
    · exact .inr (before looked)

theorem lookup_written {now rows revoked added id} (old : ∀ new, added = some new → new.1 ≠ id) : (written now rows revoked added).lookup id =
      if id ∈ revoked then (rows.lookup id).map fun row => { row with revokedAt := some now } else rows.lookup id := by
  cases added with
  | none => exact lookup_revoked ..
  | some new =>
    refine (lookup_insert_if ..).trans ?_
    rw [if_neg (Ne.symm (old new rfl))]
    exact lookup_revoked ..

structure Commits (run : TokenRun) (call : Nat) (revoked : List Uuid) (added : Option TokenRow) (result : TokenResult) : Prop where
  locked : ∀ id ∈ revoked, ∀ other state, other ≠ call → run.calls.lookup other = some state → state.locks id = false
  fresh : ∀ new, added = some new → run.rows.lookup new.1 = none ∧
    (∀ id row, run.rows.lookup id = some row → row.tokenHash ≠ new.2.tokenHash) ∧
    ∀ other current token successor, other ≠ call → run.calls.lookup other = some (.stored current token successor) →
      successor.1 ≠ new.1 ∧ successor.2.tokenHash ≠ new.2.tokenHash
  family : ∀ new, added = some new → ∀ id row, run.rows.lookup id = some row → row.familyId = new.2.familyId →
    row.owner = new.2.owner ∧ (row.revokedAt = none → id ∈ revoked)
  presented : ∀ id, result.presented = some id → id ∈ revoked ∧ ∃ row, run.rows.lookup id = some row ∧ row.revokedAt = none

namespace Commits

variable {revoked : List Uuid} {added : Option TokenRow} {result : TokenResult}

theorem stays (commits : Commits run call revoked added result) {id row}
    (found : run.rows.lookup id = some row) : (written run.now run.rows revoked added).lookup id =
      some (if id ∈ revoked then { row with revokedAt := some run.now } else row) := by
  rw [lookup_written, found]
  · split <;> rfl
  · rintro new made rfl
    rw [(commits.fresh new made).1] at found
    cases found

theorem fits (commits : Commits run call revoked added result) {other} (apart : other ≠ call)
    (found : run.calls.lookup other = some state) (fits : state.Fits run.rows) :
    state.Fits (written run.now run.rows revoked added) := by
  have held : ∀ current : TokenRow, state.locks current.1 = true → run.rows.lookup current.1 = some current.2 →
      (written run.now run.rows revoked added).lookup current.1 = some current.2 := by
    intro current locks looked
    rw [commits.stays looked, if_neg]
    intro member
    rw [commits.locked current.1 member other state apart found] at locks
    cases locks
  cases state with
  | rotating current =>
    obtain ⟨row, looked, same⟩ := fits
    refine ⟨_, commits.stays looked, ?_⟩
    split <;> exact same
  | claimed current => exact ⟨held current (decide_eq_true rfl) fits.1, fits.2⟩
  | stored current token successor =>
    obtain ⟨⟨looked, live⟩, fresh, family, owner, absent, hashes⟩ := fits
    refine ⟨⟨held current (decide_eq_true rfl) looked, live⟩, fresh, family, owner, ?_, ?_⟩
    · rw [lookup_written, absent]
      · split <;> rfl
      · intro new made same
        exact ((commits.fresh new made).2.2 other current token successor apart found).1 same.symm
    · intro id row stored
      rcases of_lookup_written stored with made | ⟨old, before, ⟨_, rfl⟩ | ⟨_, rfl⟩⟩
      · exact ((commits.fresh _ made).2.2 other current token successor apart found).2.symm
      · exact hashes id old before
      · exact hashes id row before
  | revoking update result => exact fits
  | finished result =>
    intro id presented
    obtain ⟨row, looked, revokedBefore⟩ := fits id presented
    refine ⟨_, commits.stays looked, ?_⟩
    split
    · rfl
    · exact revokedBefore

end Commits

theorem fields_written {now rows revoked added id row} (found : (written now rows revoked added).lookup id = some row) :
    added = some (id, row) ∨ ∃ old, rows.lookup id = some old ∧ old.tokenHash = row.tokenHash ∧ old.familyId = row.familyId ∧
      old.owner = row.owner := by
  rcases of_lookup_written found with made | ⟨old, before, ⟨-, rfl⟩ | ⟨-, rfl⟩⟩
  · exact .inl made
  · exact .inr ⟨old, before, rfl, rfl, rfl⟩
  · exact .inr ⟨row, before, rfl, rfl, rfl⟩

theorem TokenRun.Kept.commit {revoked added result} (kept : run.Kept) (commits : Commits run call revoked added result) :
    Kept { run.put call (.finished result) with rows := written run.now run.rows revoked added } where
  hashes := by
    intro id other row otherRow found otherFound same
    rcases fields_written found with made | ⟨old, before, hash, -⟩ <;>
      rcases fields_written otherFound with otherMade | ⟨otherOld, otherBefore, otherHash, -⟩
    · exact (Prod.mk.inj (some.inj (made.symm.trans otherMade))).1
    · exact absurd (otherHash.trans same.symm) ((commits.fresh _ made).2.1 other otherOld otherBefore)
    · exact absurd (hash.trans same) ((commits.fresh _ otherMade).2.1 id old before)
    · exact kept.hashes id other old otherOld before otherBefore (hash.trans (same.trans otherHash.symm))
  live := by
    intro id other row otherRow found otherFound family alive otherAlive
    rcases of_lookup_written found with made | ⟨old, before, ⟨_, rfl⟩ | ⟨outside, rfl⟩⟩
    · rcases of_lookup_written otherFound with otherMade | ⟨otherOld, otherBefore, ⟨_, rfl⟩ | ⟨outside, rfl⟩⟩
      · exact (Prod.mk.inj (some.inj (made.symm.trans otherMade))).1
      · cases otherAlive
      · exact absurd ((commits.family _ made other otherRow otherBefore family.symm).2 otherAlive) outside
    · cases alive
    · rcases of_lookup_written otherFound with otherMade | ⟨otherOld, otherBefore, ⟨_, rfl⟩ | ⟨_, rfl⟩⟩
      · exact absurd ((commits.family _ otherMade id row before family).2 alive) outside
      · cases otherAlive
      · exact kept.live id other row otherRow before otherBefore family alive otherAlive
  owners := by
    intro id other row otherRow found otherFound family
    rcases fields_written found with made | ⟨old, stored, -, sameFamily, sameOwner⟩ <;>
      rcases fields_written otherFound with otherMade | ⟨otherOld, otherStored, -, otherFamily, otherOwner⟩
    · rw [(Prod.mk.inj (some.inj (made.symm.trans otherMade))).2]
    · rw [← otherOwner, (commits.family _ made other otherOld otherStored (otherFamily.trans family.symm)).1]
    · rw [← sameOwner, (commits.family _ otherMade id old stored (sameFamily.trans family)).1]
    · rw [← sameOwner, ← otherOwner]
      exact kept.owners id other old otherOld stored otherStored (sameFamily.trans (family.trans otherFamily.symm))
  fits := by
    intro other otherState found
    rcases of_lookup_insert found with ⟨_, rfl⟩ | ⟨apart, before⟩
    · intro id presented
      obtain ⟨member, row, looked, _⟩ := commits.presented id presented
      refine ⟨_, commits.stays looked, ?_⟩
      rw [if_pos member]
      rfl
    · exact commits.fits apart before (kept.fits other otherState before)
  alone := by
    intro first second left right id leftFound rightFound leftLocks rightLocks
    rcases of_lookup_insert leftFound with ⟨_, rfl⟩ | ⟨_, leftBefore⟩
    · cases leftLocks
    · rcases of_lookup_insert rightFound with ⟨_, rfl⟩ | ⟨_, rightBefore⟩
      · cases rightLocks
      · exact kept.alone first second left right id leftBefore rightBefore leftLocks rightLocks
  apart := by
    intro first second current other token otherToken successor otherSuccessor leftFound rightFound same
    rcases of_lookup_insert leftFound with ⟨_, left⟩ | ⟨_, leftBefore⟩
    · cases left
    · rcases of_lookup_insert rightFound with ⟨_, right⟩ | ⟨_, rightBefore⟩
      · cases right
      · exact kept.apart first second current other token otherToken successor otherSuccessor leftBefore rightBefore same
  once := by
    have unrotated : ∀ other otherResult id, run.calls.lookup other = some (.finished otherResult) →
        otherResult.presented = some id → result.presented ≠ some id := by
      intro other otherResult id found otherPresented presented
      obtain ⟨row, looked, revokedBefore⟩ := kept.fits other _ found id otherPresented
      obtain ⟨_, same, sameFound, alive⟩ := commits.presented id presented
      rw [looked] at sameFound
      cases sameFound
      rw [alive] at revokedBefore
      cases revokedBefore
    intro first second own other id leftFound rightFound leftPresented rightPresented
    rcases of_lookup_insert leftFound with ⟨rfl, left⟩ | ⟨_, leftBefore⟩ <;>
      rcases of_lookup_insert rightFound with ⟨here, right⟩ | ⟨_, rightBefore⟩
    · exact here.symm
    · cases left
      exact absurd leftPresented (unrotated second other id rightBefore rightPresented)
    · cases right
      exact absurd rightPresented (unrotated first own id leftBefore leftPresented)
    · exact kept.once first second own other id leftBefore rightBefore leftPresented rightPresented

namespace TokenRun.Kept

section

variable (kept : run.Kept)

include kept

theorem sole (found : run.calls.lookup call = some state) {id} (locks : state.locks id = true)
    {other otherState} (apart : other ≠ call) (otherFound : run.calls.lookup other = some otherState) :
    otherState.locks id = false := by
  rw [← Bool.not_eq_true]
  intro otherLocks
  exact apart (kept.alone other call otherState state id otherFound found otherLocks locks)

theorem issue (token familyId id subjectId tenantId userAgent ip subjectType) :
    (run.issue settings call token familyId id subjectId tenantId userAgent ip subjectType).Kept := by
  rw [TokenRun.issue]
  split
  · exact kept
  · next free =>
    simp only [Bool.or_eq_true, not_or, Bool.not_eq_true, Bool.not_eq_false', List.any_eq_false] at free
    obtain ⟨⟨fresh, family⟩, uninserted⟩ := free
    split
    · exact kept.finish rfl
    · next unused =>
      refine @TokenRun.Kept.commit run call [] (some (id, settings.store run.now token familyId subjectId tenantId userAgent ip
        subjectType)) (.issued token familyId) kept ?_
      refine ⟨fun _ member => (List.not_mem_nil member).elim, ?_, ?_, fun _ presented => by cases presented⟩
      · rintro _ ⟨⟩
        refine ⟨isFresh_rows fresh, fun other row found => findByHash_none (Bool.not_eq_true _ ▸ unused) found, ?_⟩
        intro other current token successor apart found
        have inserts := uninserted_beside uninserted apart found
        exact ⟨isFresh_stored fresh found, of_decide_eq_false inserts⟩
      · rintro _ ⟨⟩ other row found same
        have listed : row ∈ run.rows.rows := List.mem_map.mpr ⟨⟨other, row⟩, mem_lookup_iff.mp found, rfl⟩
        have apart : ¬row.familyId = familyId := by simpa using family row listed
        exact absurd same apart

theorem rotate (token : String) (expected : AccessTokenSubjectType) : (run.rotate settings call token expected).Kept := by
  rw [TokenRun.rotate]
  split
  · exact kept.finish rfl
  · next current found =>
    obtain ⟨looked, _⟩ := findByHash_some found
    split
    · exact kept.finish rfl
    · split
      · exact kept.startRevoke rfl
      · next live =>
        split
        · exact kept.finish rfl
        · refine kept.putIdle ⟨current.2, looked, ?_⟩ (fun _ => rfl) (fun _ _ _ same => by cases same) (fun _ same => by cases same)
          rw [Bool.not_eq_true, isSome_eq_false_iff, isNone_iff_eq_none] at live
          rw [← live]

theorem selectFamilies (filter : FamilyFilter) : (run.selectFamilies call filter).Kept := by
  rw [TokenRun.selectFamilies]
  split
  · exact kept.finish rfl
  · exact kept.startRevoke rfl

theorem revoke {update result}
    (found : run.calls.lookup call = some (.revoking update result)) : (run.revoke call update result).Kept := by
  have unrotated : result.presented = none := kept.fits call _ found
  rw [TokenRun.revoke]
  split
  · refine kept.put unrotated ?_ (fun _ _ _ same => by cases same) (fun _ same => by cases same)
    intro id locks other otherState apart otherFound
    exact kept.sole found locks apart otherFound
  · next id pending _ =>
    split
    · exact kept
    · next free =>
      refine kept.put unrotated ?_ (fun _ _ _ same => by cases same) (fun _ same => by cases same)
      intro wanted locks other otherState apart otherFound
      have held : wanted = id ∨ wanted ∈ update.locked := by
        simp only [TokenCall.locks] at locks
        split at locks
        · simpa using locks
        · exact .inr (by simpa using locks)
      rcases held with rfl | member
      · exact free_beside (Bool.not_eq_true _ ▸ free) apart otherFound
      · exact kept.sole found (by simpa [TokenCall.locks] using member) apart otherFound
  · refine @TokenRun.Kept.commit run call update.locked none result kept ?_
    refine ⟨?_, (fun _ none => by cases none), (fun _ none => by cases none), fun id presented => ?_⟩
    · intro id member other otherState apart otherFound
      exact kept.sole found (by simpa [TokenCall.locks] using member) apart otherFound
    · cases unrotated.symm.trans presented

theorem claim {current} (found : run.calls.lookup call = some (.rotating current))
    (free : run.lockedBeside call current.1 = false) (live : run.isLive current.1 = true) :
    (run.put call (.claimed current)).Kept := by
  obtain ⟨row, looked, same⟩ := kept.fits call _ found
  rw [isLive, looked, any_some, isNone_iff_eq_none] at live
  have stored : row = current.2 := by rw [← same, ← live]
  refine kept.put ⟨stored ▸ looked, stored ▸ live⟩ ?_ (fun _ _ _ same => by cases same) (fun _ same => by cases same)
  intro id locks other otherState apart otherFound
  obtain rfl : current.1 = id := of_decide_eq_true locks
  exact free_beside free apart otherFound

theorem store {current id token} {successor}
    (found : run.calls.lookup call = some (.claimed current)) (fresh : run.isFresh id = true)
    (uninserted : run.insertsBeside call successor.tokenHash = false) (unused : (run.findByHash successor.tokenHash).isSome = false)
    (live : successor.revokedAt = none) (family : successor.familyId = current.2.familyId)
    (owner : successor.owner = current.2.owner) : (run.put call (.stored current token (id, successor))).Kept := by
  refine kept.put ⟨kept.fits call _ found, live, family, owner, isFresh_rows fresh,
    fun other row looked => findByHash_none unused looked⟩ ?_ ?_ (fun _ same => by cases same)
  · intro wanted locks other otherState apart otherFound
    exact kept.sole found locks apart otherFound
  · rintro _ _ _ ⟨⟩ other otherCurrent otherToken otherSuccessor apart otherFound
    have inserts := uninserted_beside uninserted apart otherFound
    exact ⟨(isFresh_stored fresh otherFound).symm, Ne.symm (of_decide_eq_false inserts)⟩

theorem exchange {current token successor} (found : run.calls.lookup call = some (.stored current token successor)) :
    Kept { run.put call (.finished (.rotated current.1 token current.2.familyId current.2.subjectId current.2.tenantId)) with
      rows := (revokeRow run.now run.rows current.1).insert successor.1 successor.2 } := by
  obtain ⟨⟨looked, live⟩, fresh, family, owner, absent, hashes⟩ := kept.fits call _ found
  refine @Kept.commit run call [current.1] (some successor)
    (.rotated current.1 token current.2.familyId current.2.subjectId current.2.tenantId) kept ⟨?_, ?_, ?_, ?_⟩
  · intro id member other otherState apart otherFound
    obtain rfl := List.mem_singleton.mp member
    exact kept.sole found (decide_eq_true rfl) apart otherFound
  · rintro _ ⟨⟩
    refine ⟨absent, hashes, fun other otherCurrent otherToken otherSuccessor apart otherFound => ?_⟩
    refine not_or.mp fun same => apart ?_
    exact kept.apart other call otherCurrent current otherToken token otherSuccessor successor otherFound found same
  · rintro _ ⟨⟩ id row stored same
    have sameFamily : row.familyId = current.2.familyId := same.trans family
    refine ⟨(kept.owners id current.1 row current.2 stored looked sameFamily).trans owner.symm, fun alive => ?_⟩
    rw [kept.live id current.1 row current.2 stored looked sameFamily alive live]
    exact List.mem_singleton.mpr rfl
  · rintro _ ⟨⟩
    exact ⟨List.mem_singleton.mpr rfl, current.2, looked, live⟩

theorem next (found : run.calls.lookup call = some state) (id : Uuid) (token : String) :
    (run.next settings call id token state).Kept := by
  cases state with
  | rotating current =>
    rw [next]
    split
    · exact kept
    · next free =>
      split
      · next live => exact kept.claim found (Bool.not_eq_true _ ▸ free) live
      · exact kept.startRevoke rfl
  | claimed current =>
    rw [next]
    split
    · exact kept
    · next free =>
      simp only [Bool.or_eq_true, not_or, Bool.not_eq_true, Bool.not_eq_false'] at free
      split
      · exact kept.finish rfl
      · next unused => exact kept.store found free.1 free.2 (Bool.not_eq_true _ ▸ unused) rfl rfl rfl
  | stored current drawn successor => exact kept.exchange found
  | revoking update result => exact kept.revoke found
  | finished result => exact kept

end

theorem step (kept : run.Kept) (statement : TokenStatement) : (run.step settings statement).Kept := by
  cases statement with
  | issue call token familyId id subjectId tenantId userAgent ip subjectType =>
    rw [TokenRun.step]
    split
    · exact kept.issue ..
    · exact kept
  | rotate call token expected =>
    rw [TokenRun.step]
    split
    · exact kept.rotate token expected
    · exact kept
  | revokeFamily call familyId =>
    rw [TokenRun.step]
    split
    · exact kept.startRevoke rfl
    · exact kept
  | revokeActiveFamilies call filter =>
    rw [TokenRun.step]
    split
    · exact kept.selectFamilies filter
    · exact kept
  | next call id token =>
    rw [TokenRun.step]
    cases found : run.calls.lookup call with
    | none => exact kept
    | some state => exact kept.next found id token
  | lose call =>
    rw [TokenRun.step]
    split
    · exact kept
    · exact kept
    · exact kept.finish rfl
  | tick milliseconds => exact ⟨kept.hashes, kept.live, kept.owners, kept.fits, kept.alone, kept.apart, kept.once⟩

theorem start : Kept {} where
  hashes := fun _ _ _ _ found => by cases found
  live := fun _ _ _ _ found => by cases found
  owners := fun _ _ _ _ found => by cases found
  fits := fun _ _ found => by cases found
  alone := fun _ _ _ _ _ found => by cases found
  apart := fun _ _ _ _ _ _ _ _ found => by cases found
  once := fun _ _ _ _ _ found => by cases found

end TokenRun.Kept

def TokenCall.barred : TokenCall → Bool
  | .revoking _ result | .finished result => result.presented.isNone
  | _ => false

def Moves (run : TokenRun) (call : Nat) (after : TokenRun) : Prop :=
  after.calls = run.calls ∨ ∃ state, after.calls = run.calls.insert call state

theorem Moves.put (run : TokenRun) (call : Nat) (state : TokenCall) : Moves run call (run.put call state) := .inr ⟨state, rfl⟩

theorem Moves.others {after} (moves : Moves run call after) {other} (apart : other ≠ call) :
    after.calls.lookup other = run.calls.lookup other := by
  rcases moves with same | ⟨state, put⟩
  · rw [same]
  · rw [put, lookup_insert_ne apart]

theorem issue_moves (token familyId id subjectId tenantId userAgent ip subjectType) :
    Moves run call (run.issue settings call token familyId id subjectId tenantId userAgent ip subjectType) := by
  rw [issue]
  split
  · exact .inl rfl
  · split
    · exact .put ..
    · exact .inr ⟨_, rfl⟩

theorem rotate_moves (token : String) (expected : AccessTokenSubjectType) :
    Moves run call (run.rotate settings call token expected) := by
  rw [rotate]
  repeat' split
  all_goals exact .put ..

theorem selectFamilies_moves (filter : FamilyFilter) : Moves run call (run.selectFamilies call filter) := by
  rw [selectFamilies]
  split <;> exact .put ..

theorem revoke_moves (update : RevokeUpdate) (result : TokenResult) : Moves run call (run.revoke call update result) := by
  rw [revoke]
  split
  · exact .put ..
  · split
    · exact .inl rfl
    · exact .put ..
  · exact .inr ⟨_, rfl⟩

theorem next_moves (id : Uuid) (token : String) (state : TokenCall) : Moves run call (run.next settings call id token state) := by
  cases state with
  | rotating current =>
    rw [next]
    split
    · exact .inl rfl
    · split <;> exact .put ..
  | claimed current =>
    rw [next]
    split
    · exact .inl rfl
    · split <;> exact .put ..
  | stored current drawn successor => exact .inr ⟨_, rfl⟩
  | revoking update result => exact revoke_moves update result
  | finished result => exact .inl rfl

theorem carried_step (Holds : TokenCall → Prop)
    (next : ∀ state id token, Holds state → run.calls.lookup call = some state →
      ∃ later, (run.next settings call id token state).calls.lookup call = some later ∧ Holds later)
    (lost : ∀ state, Holds state → (∀ result, state ≠ .finished result) → Holds (.finished .failed))
    (statement : TokenStatement) (carried : ∃ state, run.calls.lookup call = some state ∧ Holds state) :
    ∃ state, (run.step settings statement).calls.lookup call = some state ∧ Holds state := by
  obtain ⟨state, found, holds⟩ := carried
  -- A call that is known is not begun again, and the statements of others leave it.
  have begun : ∀ {other : Nat} {after : TokenRun}, Moves run other after →
      ∃ state, (if run.isUnused other then after else run).calls.lookup call = some state ∧ Holds state := by
    intro other after moves
    split
    · next unused =>
      refine ⟨state, ?_, holds⟩
      rw [moves.others, found]
      rintro rfl
      rw [isUnused, found] at unused
      cases unused
    · exact ⟨state, found, holds⟩
  cases statement with
  | issue other token familyId id subjectId tenantId userAgent ip subjectType => exact begun (issue_moves ..)
  | rotate other token expected => exact begun (rotate_moves token expected)
  | revokeFamily other familyId => exact begun (.put ..)
  | revokeActiveFamilies other filter => exact begun (selectFamilies_moves filter)
  | next other id token =>
    rw [step]
    by_cases same : call = other
    · rw [← same, found]
      exact next state id token holds found
    · cases otherFound : run.calls.lookup other with
      | none => exact ⟨state, found, holds⟩
      | some otherState => exact ⟨state, ((next_moves id token otherState).others same).trans found, holds⟩
  | lose other =>
    rw [step]
    split
    · exact ⟨state, found, holds⟩
    · exact ⟨state, found, holds⟩
    · next loses looked =>
      by_cases same : call = other
      · rw [← same]
        refine ⟨_, lookup_insert_self .., lost state holds fun result ended => ?_⟩
        exact loses result (some.inj (looked.symm.trans ((same ▸ found).trans (congrArg some ended))))
      · exact ⟨state, ((Moves.put ..).others same).trans found, holds⟩
  | tick milliseconds => exact ⟨state, found, holds⟩

theorem barred_step (statement : TokenStatement) (barred : ∃ state, run.calls.lookup call = some state ∧ state.barred = true) :
    ∃ state, (run.step settings statement).calls.lookup call = some state ∧ state.barred = true := by
  refine carried_step (·.barred = true) (fun state id token never found => ?_) (fun _ _ _ => rfl) statement barred
  cases state with
  | rotating current | claimed current | stored current drawn successor => cases never
  | revoking update result =>
    rw [next, revoke]
    split
    · exact ⟨_, lookup_insert_self .., never⟩
    · split
      · exact ⟨_, found, never⟩
      · exact ⟨_, lookup_insert_self .., never⟩
    · exact ⟨_, lookup_insert_self .., never⟩
  | finished result => exact ⟨_, found, never⟩

def TokenRun.exchanged (run : TokenRun) (call : Nat) (presented : Uuid) : Prop :=
  ∃ result, run.calls.lookup call = some (.finished result) ∧ result.presented = some presented

/-- A rotation with a token of the other subject type is refused and leaves the rows and the other calls. -/
structure RefusesType (settings : TokenSettings) (run : TokenRun) : Prop where
  result : ∀ call token expected current, run.isUnused call = true → run.findByHash (settings.hashToken token) = some current →
    current.2.subjectType ≠ expected → run.step settings (.rotate call token expected) = run.put call (.finished .unauthorized)

/-- A rotation that presents a revoked token returns none, whatever happens after. -/
structure RefusesRevoked (settings : TokenSettings) (run : TokenRun) : Prop where
  exchanged : ∀ call id, run.exchanged call id → ∃ row, run.rows.lookup id = some row ∧ row.revokedAt.isSome = true
  result : ∀ call token expected current, run.isUnused call = true → run.findByHash (settings.hashToken token) = some current →
    current.2.revokedAt.isSome = true → ∀ later presented,
      ¬(Run.after (step settings) (run.step settings (.rotate call token expected)) later).exchanged call presented

theorem refusesType (settings : TokenSettings) (run : TokenRun) : RefusesType settings run := by
  refine ⟨fun call token expected current unused found other => ?_⟩
  rw [step, if_pos unused, rotate, found]
  exact if_pos other

theorem TokenRun.Kept.refusesRevoked (kept : run.Kept) : RefusesRevoked settings run := by
  refine ⟨fun call id ⟨result, found, presented⟩ => kept.fits call _ found id presented, ?_⟩
  intro call token expected current unused found revoked later presented
  rintro ⟨result, finished, exchanged⟩
  have started : ∃ state, (run.step settings (.rotate call token expected)).calls.lookup call = some state ∧
      state.barred = true := by
    rw [TokenRun.step, if_pos unused, TokenRun.rotate, found]
    dsimp only
    rw [if_pos revoked]
    split
    · exact ⟨_, lookup_insert_self .., rfl⟩
    · exact ⟨_, lookup_insert_self .., rfl⟩
  obtain ⟨state, still, barred⟩ := Run.invariant
    (fun run : TokenRun => ∃ state, run.calls.lookup call = some state ∧ state.barred = true)
    (fun _ statement barred => barred_step statement barred) started later
  cases finished.symm.trans still
  rw [TokenCall.barred, exchanged] at barred
  cases barred

/-- Whatever calls overlap, a token is exchanged by one rotation at most, a family has one token at most that is not revoked,
its tokens are for one owner, and tokens of the other subject type and revoked tokens are refused. -/
theorem tokens_exchanged_once (settings : TokenSettings) (statements : List TokenStatement) :
    let after := Run.after (step settings) {} statements
    (∀ first second id, after.exchanged first id → after.exchanged second id → first = second) ∧
    (∀ id other row otherRow, after.rows.lookup id = some row → after.rows.lookup other = some otherRow →
      row.familyId = otherRow.familyId → row.owner = otherRow.owner ∧
        (row.revokedAt = none → otherRow.revokedAt = none → id = other)) ∧
    RefusesType settings after ∧ RefusesRevoked settings after := by
  have kept : (Run.after (step settings) {} statements).Kept :=
    Run.invariant Kept (fun _ statement kept => kept.step statement) .start statements
  refine ⟨?_, fun id other row otherRow found otherFound family => ?_, refusesType .., kept.refusesRevoked⟩
  · rintro first second id ⟨result, found, presented⟩ ⟨other, otherFound, otherPresented⟩
    exact kept.once first second result other id found otherFound presented otherPresented
  · exact ⟨kept.owners id other row otherRow found otherFound family,
      kept.live id other row otherRow found otherFound family⟩

private def twoRotations : List TokenStatement :=
  [.issue 0 "a" 7 1 5 none none none .account, .rotate 1 "a" .account, .rotate 2 "a" .account, .next 1 0 "", .next 2 0 "",
    .next 1 2 "b", .next 1 0 "", .next 2 0 "", .next 2 0 "", .next 2 0 "", .next 2 0 ""]

/-- Two rotations that both have read a token: the first to claim it gets the successor, and the other ends the family. -/
theorem tokens_exchanged_once_race :
    let after := Run.after (step ⟨id, 100⟩) {} twoRotations
    after.exchanged 1 1 ∧ (∀ other, after.exchanged other 1 → other = 1) ∧
      (after.rows.lookup 2).map (·.revokedAt) = some (some 0) := by
  have first : (Run.after (step ⟨id, 100⟩) {} twoRotations).exchanged 1 1 :=
    ⟨.rotated 1 "b" 7 5 none, rfl, rfl⟩
  exact ⟨first, fun other exchanged => (tokens_exchanged_once ⟨id, 100⟩ twoRotations).1 other 1 1 exchanged first, by decide +kernel⟩

end Platform
