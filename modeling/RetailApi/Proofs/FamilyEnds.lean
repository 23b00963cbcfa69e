import Mathlib.Data.List.Dedup
import RetailApi.Proofs.TokenRotation

/-! The end of a family of refresh tokens. A revocation that no rotation of the family overlaps leaves no live token, and no
token of the family is exchanged after it. -/

namespace Platform

open TokenRun TokenCall List Table

def TokenCall.rotates (familyId : Uuid) : TokenCall → Bool
  | .claimed current | .stored current _ _ => current.2.familyId = familyId
  | _ => false

def TokenResult.ends (familyId : Uuid) : TokenResult → Bool
  | .revoked familyIds => familyIds.contains familyId
  | .reuse other => other = familyId
  | _ => false

def TokenResult.exchanges (familyId : Uuid) : TokenResult → Bool
  | .rotated _ _ other _ _ => other = familyId
  | _ => false

def TokenResult.grants (familyId : Uuid) : TokenResult → Bool
  | .issued _ other | .rotated _ _ other _ _ => other = familyId
  | _ => false

/-- The call is past the snapshot of an `UPDATE` of the family. -/
def TokenCall.closes (familyId : Uuid) : TokenCall → Bool
  | .revoking update _ => update.familyIds.contains familyId && update.pending.isSome
  | _ => false

def TokenCall.names (familyId : Uuid) : TokenCall → Bool
  | .revoking update result => update.familyIds.contains familyId || result.grants familyId
  | .finished result => result.ends familyId || result.grants familyId
  | _ => false

def TokenCall.exchanged (familyId : Uuid) : TokenCall → Bool
  | .finished result => result.exchanges familyId
  | _ => false

def TokenCall.Promises (result : TokenResult) : TokenCall → Prop
  | .revoking _ other => other = result
  | .finished other => other = result ∨ other = .failed
  | _ => False

def TokenRun.Has (run : TokenRun) (familyId : Uuid) : Prop := ∃ id row, run.rows.lookup id = some row ∧ row.familyId = familyId

structure TokenRun.Ended (run : TokenRun) (familyId : Uuid) : Prop where
  revoked : ∀ id row, run.rows.lookup id = some row → row.familyId = familyId → row.revokedAt.isSome = true
  calm : ∀ call state, run.calls.lookup call = some state → state.rotates familyId = false

/-- The live tokens of a family are among those that an `UPDATE` is to lock, or has locked. -/
def TokenRun.Covers (run : TokenRun) (familyId : Uuid) (update : RevokeUpdate) (pending : List Uuid) : Prop :=
  ∀ id row, run.rows.lookup id = some row → row.familyId = familyId → row.revokedAt = none → id ∈ pending ∨ id ∈ update.locked

structure TokenRun.FamilyKept (run : TokenRun) (familyId : Uuid) : Prop where
  known : ∀ call state, run.calls.lookup call = some state → state.names familyId = true → run.Has familyId
  apart : ∀ one two state other, run.calls.lookup one = some state → run.calls.lookup two = some other →
    state.closes familyId = true → other.rotates familyId = false
  covered : ∀ call update result pending, run.calls.lookup call = some (.revoking update result) → familyId ∈ update.familyIds →
    update.pending = some pending → run.Covers familyId update pending
  named : ∀ call update result, run.calls.lookup call = some (.revoking update result) → result.ends familyId = true →
    familyId ∈ update.familyIds
  ended : ∀ call result, run.calls.lookup call = some (.finished result) → result.ends familyId = true → run.Ended familyId

inductive TokenRun.Binds (run : TokenRun) (familyId : Uuid) : Prop where
  | closing (call : Nat) (state : TokenCall) (found : run.calls.lookup call = some state) (closes : state.closes familyId = true)
  | ended (call : Nat) (result : TokenResult) (found : run.calls.lookup call = some (.finished result))
      (ends : result.ends familyId = true)

/-- No revocation of the family takes its snapshot while a rotation is between its claim and its end, and no rotation claims
while a revocation is between its snapshot and its end. -/
def TokenRun.undivided (run : TokenRun) (familyId : Uuid) : TokenStatement → Bool
  | .next call _ _ =>
    match run.calls.lookup call with
    | some (.revoking update _) =>
      !update.familyIds.contains familyId || update.pending.isSome ||
        run.calls.entries.all fun entry => !entry.2.rotates familyId
    | some (.rotating current) =>
      decide (current.2.familyId ≠ familyId) || run.lockedBeside call current.1 || !run.isLive current.1 ||
        run.calls.entries.all fun entry => !entry.2.closes familyId
    | _ => true
  | _ => true

variable {settings : TokenSettings} {run : TokenRun} {familyId : Uuid} {call : Nat} {state : TokenCall} {result : TokenResult}

theorem TokenRun.Has.written (has : run.Has familyId) (now : Int) (revoked : List Uuid) {added}
    (fresh : ∀ new, added = some new → run.rows.lookup new.1 = none) :
    ({ run with rows := Platform.written now run.rows revoked added } : TokenRun).Has familyId := by
  obtain ⟨id, row, stored, mine⟩ := has
  have old : ∀ new, added = some new → new.1 ≠ id := by
    rintro new made rfl
    rw [fresh new made] at stored
    cases stored
  refine ⟨id, if id ∈ revoked then { row with revokedAt := some now } else row, ?_, ?_⟩
  · rw [lookup_written old, stored]
    split <;> rfl
  · split <;> exact mine

namespace TokenRun.FamilyKept

section

variable (kept : run.FamilyKept familyId)

include kept

theorem has_of_binds (binds : run.Binds familyId) : run.Has familyId := by
  cases binds with
  | closing call state found closes =>
    refine kept.known call state found ?_
    unfold TokenCall.closes at closes
    split at closes
    · rw [Bool.and_eq_true] at closes
      exact Bool.or_eq_true_iff.mpr (.inl closes.1)
    · cases closes
  | ended call result found ends => exact kept.known call _ found (Bool.or_eq_true_iff.mpr (.inl ends))

theorem has_of_grants (found : run.calls.lookup call = some (.finished result))
    (grants : result.grants familyId = true) : run.Has familyId :=
  kept.known call _ found (Bool.or_eq_true_iff.mpr (.inr grants))

theorem has_of_ends (found : run.calls.lookup call = some (.finished result))
    (ends : result.ends familyId = true) : run.Has familyId :=
  kept.known call _ found (Bool.or_eq_true_iff.mpr (.inl ends))

theorem unbound_of_rotates (found : run.calls.lookup call = some state)
    (rotates : state.rotates familyId = true) : ¬run.Binds familyId := by
  intro binds
  have quiet : state.rotates familyId = false := by
    cases binds with
    | closing one closing listed closes => exact kept.apart one call closing state listed found closes
    | ended one result listed ends => exact (kept.ended one result listed ends).calm call state found
  cases quiet.symm.trans rotates

theorem put (known : state.names familyId = true → run.Has familyId) (calm : state.rotates familyId = true → ¬run.Binds familyId)
    (closes : state.closes familyId = true → ∀ other beside, other ≠ call → run.calls.lookup other = some beside →
      beside.rotates familyId = false)
    (covers : ∀ update result pending, state = .revoking update result → familyId ∈ update.familyIds →
      update.pending = some pending → run.Covers familyId update pending)
    (named : ∀ update result, state = .revoking update result → result.ends familyId = true → familyId ∈ update.familyIds)
    (finishes : ∀ result, state = .finished result → result.ends familyId = true →
      (∀ id row, run.rows.lookup id = some row → row.familyId = familyId → row.revokedAt.isSome = true) ∧
        ∀ other beside, other ≠ call → run.calls.lookup other = some beside → beside.rotates familyId = false) :
    (run.put call state).FamilyKept familyId := by
  refine ⟨?_, ?_, ?_, ?_, ?_⟩
  · exact forall_insert known kept.known
  · intro one two first second firstFound secondFound closing
    rcases of_lookup_insert firstFound with ⟨rfl, rfl⟩ | ⟨firstApart, firstEarlier⟩ <;>
      rcases of_lookup_insert secondFound with ⟨rfl, rfl⟩ | ⟨secondApart, secondEarlier⟩
    · unfold TokenCall.closes at closing
      split at closing
      · rfl
      · cases closing
    · exact closes closing two second secondApart secondEarlier
    · rw [← Bool.not_eq_true]
      exact fun rotates => calm rotates (.closing one first firstEarlier closing)
    · exact kept.apart one two first second firstEarlier secondEarlier closing
  · intro other update result pending found
    rcases of_lookup_insert found with ⟨-, same⟩ | ⟨-, earlier⟩
    · exact covers update result pending same.symm
    · exact kept.covered other update result pending earlier
  · intro other update result found
    rcases of_lookup_insert found with ⟨-, same⟩ | ⟨-, earlier⟩
    · exact named update result same.symm
    · exact kept.named other update result earlier
  · intro other result found ends
    rcases of_lookup_insert found with ⟨-, same⟩ | ⟨-, earlier⟩
    · obtain ⟨revoked, quiet⟩ := finishes result same.symm ends
      refine ⟨revoked, fun another beside listed => ?_⟩
      rcases of_lookup_insert listed with ⟨-, rfl⟩ | ⟨different, before⟩
      · rw [← same]
        rfl
      · exact quiet another beside different before
    · have ended := kept.ended other result earlier ends
      refine ⟨ended.revoked, fun another beside listed => ?_⟩
      rcases of_lookup_insert listed with ⟨-, rfl⟩ | ⟨-, before⟩
      · rw [← Bool.not_eq_true]
        exact fun rotates => calm rotates (.ended other result earlier ends)
      · exact ended.calm another beside before

theorem putQuiet (known : state.names familyId = true → run.Has familyId)
    (quiet : state.rotates familyId = false) (idle : state.closes familyId = false)
    (named : ∀ update result, state = .revoking update result → result.ends familyId = true → familyId ∈ update.familyIds)
    (unended : ∀ result, state = .finished result → result.ends familyId = false) : (run.put call state).FamilyKept familyId := by
  refine kept.put known (fun rotates => ?_) (fun closes => ?_) ?_ named ?_
  · cases quiet.symm.trans rotates
  · cases idle.symm.trans closes
  · rintro update result pending rfl inside has
    rw [closes, has, contains_iff_mem.mpr inside] at idle
    cases idle
  · intro result same ends
    rw [unended result same] at ends
    cases ends

theorem startRevoke {familyIds} {result}
    (known : familyId ∈ familyIds → run.Has familyId) (grants : result.grants familyId = false)
    (named : result.ends familyId = true → familyId ∈ familyIds) :
    (run.put call (.revoking { familyIds } result)).FamilyKept familyId := by
  refine kept.putQuiet (fun names => known ?_) rfl ?_ ?_ ?_
  · rw [TokenCall.names, grants, Bool.or_false] at names
    exact contains_iff_mem.mp names
  · rw [TokenCall.closes]
    exact Bool.and_false _
  · rintro _ _ ⟨⟩
    exact named
  · rintro _ ⟨⟩

theorem finish {result} (known : result.grants familyId = true → run.Has familyId)
    (unended : result.ends familyId = false) : (run.put call (.finished result)).FamilyKept familyId := by
  refine kept.putQuiet (fun names => known ?_) rfl rfl ?_ ?_
  · rw [TokenCall.names, unended, Bool.false_or] at names
    exact names
  · rintro _ _ ⟨⟩
  · rintro _ ⟨⟩
    exact unended

theorem refuse {result} (grants : result.grants familyId = false)
    (ends : result.ends familyId = false) : (run.put call (.finished result)).FamilyKept familyId := by
  refine kept.finish (fun granted => ?_) ends
  cases grants.symm.trans granted

theorem handleReuse {other} (has : run.Has other) : (run.handleReuse call other).FamilyKept familyId := by
  refine kept.startRevoke (fun listed => ?_) rfl fun ends => ?_
  · obtain rfl := mem_singleton.mp listed
    exact has
  · rw [mem_singleton]
    exact (of_decide_eq_true ends).symm

theorem rewrite {rows} (has : run.Has familyId → ({ run with rows } : TokenRun).Has familyId)
    (stems : run.Binds familyId → ∀ id row, rows.lookup id = some row → row.familyId = familyId →
      ∃ old, run.rows.lookup id = some old ∧ old.familyId = familyId ∧ (old.revokedAt.isSome = true → row.revokedAt.isSome = true)) :
    ({ run with rows } : TokenRun).FamilyKept familyId := by
  refine ⟨fun call state found names => has (kept.known call state found names), kept.apart, ?_, kept.named, ?_⟩
  · intro call update result pending found inside waits id row stored mine live
    have closes : (revoking update result).closes familyId = true := by
      rw [closes, waits, contains_iff_mem.mpr inside]
      rfl
    obtain ⟨old, before, alsoMine, stays⟩ := stems (.closing call _ found closes) id row stored mine
    refine kept.covered call update result pending found inside waits id old before alsoMine ?_
    rw [← Option.not_isSome_iff_eq_none] at live ⊢
    exact fun revoked => live (stays revoked)
  · intro call result found ends
    have ended := kept.ended call result found ends
    refine ⟨fun id row stored mine => ?_, ended.calm⟩
    obtain ⟨old, before, alsoMine, stays⟩ := stems (.ended call result found ends) id row stored mine
    exact stays (ended.revoked id old before alsoMine)

end

theorem written (kept : run.FamilyKept familyId) (now : Int) (revoked : List Uuid) {added}
    (fresh : ∀ new, added = some new → run.rows.lookup new.1 = none)
    (unbound : ∀ new, added = some new → new.2.familyId = familyId → ¬run.Binds familyId) :
    ({ run with rows := Platform.written now run.rows revoked added } : TokenRun).FamilyKept familyId := by
  refine kept.rewrite (fun has => has.written now revoked fresh) ?_
  · intro binds id row stored mine
    rcases of_lookup_written stored with made | ⟨old, before, ⟨-, rfl⟩ | ⟨-, rfl⟩⟩
    · exact absurd binds (unbound _ made mine)
    · exact ⟨old, before, mine, fun _ => rfl⟩
    · exact ⟨row, before, mine, fun revoked => revoked⟩

section

variable (kept : run.FamilyKept familyId)

include kept

theorem issue (token other id subjectId tenantId userAgent ip subjectType) :
    (run.issue settings call token other id subjectId tenantId userAgent ip subjectType).FamilyKept familyId := by
  unfold TokenRun.issue
  dsimp only
  split
  · exact kept
  · next free =>
    split
    · exact kept.refuse rfl rfl
    · simp only [Bool.or_eq_true, not_or, Bool.not_eq_true] at free
      obtain ⟨⟨fresh, unknown⟩, -⟩ := free
      have absent := isFresh_rows (by simpa using fresh)
      have without : ¬run.Has other := by
        rintro ⟨known, row, stored, mine⟩
        have listed : row ∈ run.rows.rows := mem_map.mpr ⟨⟨known, row⟩, AList.mem_lookup_iff.mp stored, rfl⟩
        exact any_eq_false.mp unknown row listed (decide_eq_true mine)
      have added := @FamilyKept.written run familyId kept run.now [] (some (id,
        settings.store run.now token other subjectId tenantId userAgent ip subjectType)) ?_ ?_
      · refine added.finish (fun grants => ?_) rfl
        exact ⟨id, _, lookup_insert_self .., of_decide_eq_true grants⟩
      · rintro _ ⟨⟩
        exact absent
      · rintro _ ⟨⟩ same binds
        obtain rfl : other = familyId := same
        exact without (kept.has_of_binds binds)

theorem rotate (token : String) (expected : AccessTokenSubjectType) :
    (run.rotate settings call token expected).FamilyKept familyId := by
  unfold TokenRun.rotate
  split
  · exact kept.refuse rfl rfl
  · next current found =>
    split
    · exact kept.refuse rfl rfl
    · split
      · exact kept.handleReuse ⟨current.1, current.2, (findByHash_some found).1, rfl⟩
      · split
        · exact kept.refuse rfl rfl
        · refine kept.putQuiet ?_ rfl rfl ?_ ?_
          · rintro ⟨⟩
          · rintro _ _ ⟨⟩
          · rintro _ ⟨⟩

theorem selectFamilies (filter : FamilyFilter) : (run.selectFamilies call filter).FamilyKept familyId := by
  unfold TokenRun.selectFamilies
  dsimp only
  split
  · exact kept.refuse rfl rfl
  · refine kept.startRevoke (fun listed => ?_) rfl fun ends => contains_iff_mem.mp ends
    obtain ⟨row, read, mine⟩ := mem_map.mp (mem_dedup.mp (mem_of_mem_filter listed))
    obtain ⟨entry, stored, rfl⟩ := mem_map.mp (mem_of_mem_filter read)
    exact ⟨entry.1, entry.2, AList.mem_lookup_iff.mpr stored, mine⟩

theorem revoke {update result} (found : run.calls.lookup call = some (.revoking update result))
    (whole : familyId ∈ update.familyIds → update.pending = none → ∀ other beside, run.calls.lookup other = some beside →
      beside.rotates familyId = false) : (run.revoke call update result).FamilyKept familyId := by
  have closing : familyId ∈ update.familyIds → update.pending.isSome = true →
      (revoking update result).closes familyId = true := by
    intro inside waits
    rw [closes, waits, contains_iff_mem.mpr inside]
    rfl
  -- The next part of the update, with the rows that it still has to lock.
  have advance : ∀ pending locked, (familyId ∈ update.familyIds → ∀ other beside, other ≠ call →
        run.calls.lookup other = some beside → beside.rotates familyId = false) →
      (familyId ∈ update.familyIds → run.Covers familyId { update with pending := some pending, locked } pending) →
      (run.put call (.revoking { update with pending := some pending, locked } result)).FamilyKept familyId := by
    intro pending locked apart covers
    refine kept.put (fun names => kept.known call _ found names) ?_ (fun closes => ?_) ?_ ?_ ?_
    · rintro ⟨⟩
    · exact apart (contains_iff_mem.mp (Bool.and_eq_true _ _ ▸ closes).1)
    · rintro _ _ _ ⟨⟩ inside ⟨⟩
      exact covers inside
    · rintro _ _ ⟨⟩
      exact kept.named call update result found
    · rintro _ ⟨⟩
  unfold TokenRun.revoke
  split
  · next unread =>
    refine advance _ update.locked (fun inside other beside _ => whole inside unread other beside) ?_
    intro inside id row stored mine live
    refine .inl (mem_map.mpr ⟨⟨id, row⟩, mem_filter.mpr ⟨AList.mem_lookup_iff.mp stored, ?_⟩, rfl⟩)
    rw [Bool.and_eq_true]
    refine ⟨contains_iff_mem.mpr (mine ▸ inside), ?_⟩
    rw [live]
    rfl
  · next id pending waits =>
    have some : update.pending.isSome = true := by rw [waits]; rfl
    split
    · exact kept
    · refine advance pending _ (fun inside other beside _ listed =>
        kept.apart call other _ beside found listed (closing inside some)) ?_
      intro inside wanted row stored mine live
      rcases kept.covered call update result _ found inside waits wanted row stored mine live with member | locked
      · rcases mem_cons.mp member with rfl | later
        · have alive : run.isLive wanted = true := by
            rw [TokenRun.isLive, stored, Option.any_some, live]
            rfl
          rw [if_pos alive]
          exact .inr (mem_cons_self ..)
        · exact .inl later
      · refine .inr ?_
        split
        · exact mem_cons_of_mem _ locked
        · exact locked
  · next waits =>
    have some : update.pending.isSome = true := by rw [waits]; rfl
    have rewritten : ({ run with rows := Platform.written run.now run.rows update.locked none } : TokenRun).FamilyKept familyId := by
      refine kept.written run.now update.locked ?_ ?_
      · rintro _ ⟨⟩
      · rintro _ ⟨⟩
    refine rewritten.put (fun names => rewritten.known call (.revoking update result) found ?_) ?_ ?_ ?_ ?_ ?_
    · have either := Bool.or_eq_true_iff.mp names
      exact Bool.or_eq_true_iff.mpr (either.imp_left fun ends => contains_iff_mem.mpr (kept.named call update result found ends))
    · rintro ⟨⟩
    · rintro ⟨⟩
    · rintro _ _ _ ⟨⟩
    · rintro _ _ ⟨⟩
    · rintro _ ⟨⟩ ends
      have inside := kept.named call update result found ends
      refine ⟨fun id row stored mine => ?_, fun other beside _ listed =>
        kept.apart call other _ beside found listed (closing inside some)⟩
      rcases of_lookup_written stored with made | ⟨old, before, ⟨-, rfl⟩ | ⟨outside, rfl⟩⟩
      · cases made
      · rfl
      · rw [← Bool.not_eq_false, Option.isSome_eq_false_iff, Option.isNone_iff_eq_none]
        intro live
        rcases kept.covered call update result _ found inside waits id row before mine live with waiting | locked
        · cases waiting
        · exact outside locked

theorem exchange {current token successor}
    (found : run.calls.lookup call = some (.stored current token successor)) (fits : (stored current token successor).Fits run.rows) :
    FamilyKept { run.put call (.finished (.rotated current.1 token current.2.familyId current.2.subjectId current.2.tenantId)) with
      rows := (revokeRow run.now run.rows current.1).insert successor.1 successor.2 } familyId := by
  obtain ⟨⟨looked, live⟩, fresh, family, owner, absent, hashes⟩ := fits
  have exchanged := @FamilyKept.written run familyId kept run.now [current.1] (some successor) ?_ ?_
  · refine exchanged.finish (fun grants => ?_) rfl
    exact ⟨successor.1, successor.2, lookup_insert_self .., family.trans (of_decide_eq_true grants)⟩
  · rintro _ ⟨⟩
    exact absent
  · rintro _ ⟨⟩ same
    exact kept.unbound_of_rotates found (decide_eq_true (family.symm.trans same))

theorem next (whole : run.Kept) {id token}
    (undivided : run.undivided familyId (.next call id token) = true) (found : run.calls.lookup call = some state) :
    (run.next settings call id token state).FamilyKept familyId := by
  have fits := whole.fits call state found
  unfold TokenRun.undivided at undivided
  dsimp only at undivided
  rw [found] at undivided
  cases state with
  | rotating current =>
    obtain ⟨row, stored, same⟩ := fits
    have mine : row.familyId = current.2.familyId := same ▸ rfl
    rw [TokenRun.next]
    split
    · exact kept
    · next free =>
      split
      · next live =>
        refine kept.put ?_ ?_ ?_ ?_ ?_ ?_
        · rintro ⟨⟩
        · intro rotates binds
          have family : current.2.familyId = familyId := of_decide_eq_true rotates
          cases binds with
          | closing other closer listed closes =>
            simp only [family, free, live, ne_eq, not_true_eq_false, decide_false, Bool.or_self, Bool.not_true,
              Bool.false_or, all_eq_true, Bool.not_eq_eq_eq_not] at undivided
            rw [undivided ⟨other, closer⟩ (AList.mem_lookup_iff.mp listed)] at closes
            cases closes
          | ended other result listed ends =>
            have revoked := (kept.ended other result listed ends).revoked current.1 row stored (mine.trans family)
            rw [TokenRun.isLive, stored, Option.any_some, Option.isNone_iff_eq_none] at live
            rw [live] at revoked
            cases revoked
        · rintro ⟨⟩
        · rintro _ _ _ ⟨⟩
        · rintro _ _ ⟨⟩
        · rintro _ ⟨⟩
      · exact kept.handleReuse ⟨current.1, row, stored, mine⟩
  | claimed current =>
    rw [TokenRun.next]
    split
    · exact kept
    · split
      · exact kept.refuse rfl rfl
      · refine kept.put ?_ (fun rotates => kept.unbound_of_rotates found rotates) ?_ ?_ ?_ ?_
        · rintro ⟨⟩
        · rintro ⟨⟩
        · rintro _ _ _ ⟨⟩
        · rintro _ _ ⟨⟩
        · rintro _ ⟨⟩
  | stored current drawn successor => exact kept.exchange found fits
  | revoking update result =>
    refine kept.revoke found fun inside unread other beside listed => ?_
    simp only [contains_iff_mem.mpr inside, unread, Bool.not_true, Option.isSome_none, Bool.or_self, Bool.false_or,
      all_eq_true, Bool.not_eq_eq_eq_not] at undivided
    exact undivided ⟨other, beside⟩ (AList.mem_lookup_iff.mp listed)
  | finished result => exact kept

end

theorem step (kept : run.FamilyKept familyId) (whole : run.Kept) {statement} (undivided : run.undivided familyId statement = true)
    (known : ∀ call, statement = .revokeFamily call familyId → run.Has familyId) :
    (run.step settings statement).FamilyKept familyId := by
  cases statement with
  | issue call token other id subjectId tenantId userAgent ip subjectType =>
    rw [TokenRun.step]
    split
    · exact kept.issue ..
    · exact kept
  | rotate call token expected =>
    rw [TokenRun.step]
    split
    · exact kept.rotate token expected
    · exact kept
  | revokeFamily call other =>
    rw [TokenRun.step]
    split
    · refine kept.startRevoke (fun listed => ?_) rfl fun ends => contains_iff_mem.mp ends
      obtain rfl := mem_singleton.mp listed
      exact known call rfl
    · exact kept
  | revokeActiveFamilies call filter =>
    rw [TokenRun.step]
    split
    · exact kept.selectFamilies filter
    · exact kept
  | next call id token =>
    rw [TokenRun.step]
    cases found : run.calls.lookup call with
    | none => exact kept
    | some state => exact kept.next whole undivided found
  | lose call =>
    rw [TokenRun.step]
    split
    · exact kept
    · exact kept
    · exact kept.refuse rfl rfl
  | tick milliseconds =>
    refine ⟨kept.known, kept.apart, kept.covered, kept.named, fun call result found ends => ?_⟩
    have ended := kept.ended call result found ends
    exact ⟨ended.revoked, ended.calm⟩

theorem start : FamilyKept {} familyId where
  known := fun _ _ found => by cases found
  apart := fun _ _ _ _ found => by cases found
  covered := fun _ _ _ _ found => by cases found
  named := fun _ _ _ found => by cases found
  ended := fun _ _ found => by cases found

end TokenRun.FamilyKept

/-- What a statement does: nothing, one call's next state, a transaction's commit, or the passing of time. -/
inductive Does (run : TokenRun) : TokenRun → Prop where
  | nothing : Does run run
  | moves (call : Nat) (state : TokenCall) (unexchanged : ∀ familyId, state.exchanged familyId = false) : Does run (run.put call state)
  | commits (call : Nat) (result : TokenResult) (revoked : List Uuid) (added : Option TokenRow)
      (fresh : ∀ new, added = some new → run.rows.lookup new.1 = none)
      (rotated : ∀ familyId, result.exchanges familyId = true →
        ∃ state, run.calls.lookup call = some state ∧ state.rotates familyId = true) :
      Does run { run.put call (.finished result) with rows := written run.now run.rows revoked added }
  | waits (milliseconds : Nat) : Does run { run with now := run.now + milliseconds }

namespace Does

theorem issue (call token family id subjectId tenantId userAgent ip subjectType) :
    Does run (run.issue settings call token family id subjectId tenantId userAgent ip subjectType) := by
  unfold TokenRun.issue
  dsimp only
  split
  · exact .nothing
  · next free =>
    split
    · exact .moves call _ fun _ => rfl
    · simp only [Bool.or_eq_true, not_or, Bool.not_eq_true] at free
      have absent := isFresh_rows (by simpa using free.1.1)
      refine .commits call (.issued token family) [] (some (id, _)) ?_ fun _ exchanges => by cases exchanges
      rintro _ ⟨⟩
      exact absent

theorem rotate (call : Nat) (token : String) (expected : AccessTokenSubjectType) : Does run (run.rotate settings call token expected) := by
  unfold TokenRun.rotate
  repeat' split
  all_goals exact .moves call _ fun _ => rfl

theorem selectFamilies (call : Nat) (filter : FamilyFilter) : Does run (run.selectFamilies call filter) := by
  unfold TokenRun.selectFamilies
  dsimp only
  split <;> exact .moves call _ fun _ => rfl

theorem next (whole : run.Kept) (found : run.calls.lookup call = some state) (id : Uuid) (token : String) :
    Does run (run.next settings call id token state) := by
  have fits := whole.fits call state found
  cases state with
  | rotating current | claimed current =>
    rw [TokenRun.next]
    repeat' split
    all_goals first | exact .nothing | exact .moves call _ fun _ => rfl
  | stored current drawn successor =>
    refine .commits call _ [current.1] (some successor) ?_ fun familyId exchanges => ⟨_, found, exchanges⟩
    rintro _ ⟨⟩
    exact fits.2.2.2.2.1
  | revoking update ends =>
    have quiet : ∀ familyId, ends.exchanges familyId = false := by
      intro familyId
      cases ends with
      | rotated => cases fits
      | _ => rfl
    rw [TokenRun.next, revoke]
    split
    · exact .moves call _ fun _ => rfl
    · split
      · exact .nothing
      · exact .moves call _ fun _ => rfl
    · refine .commits call ends update.locked none ?_ fun familyId exchanges => ?_
      · rintro _ ⟨⟩
      · rw [quiet familyId] at exchanges
        cases exchanges
  | finished ended => exact .nothing

theorem step (whole : run.Kept) (statement : TokenStatement) : Does run (run.step settings statement) := by
  cases statement with
  | issue call token family id subjectId tenantId userAgent ip subjectType =>
    rw [TokenRun.step]
    split
    · exact .issue ..
    · exact .nothing
  | rotate call token expected =>
    rw [TokenRun.step]
    split
    · exact .rotate ..
    · exact .nothing
  | revokeFamily call family =>
    rw [TokenRun.step]
    split
    · exact .moves call _ fun _ => rfl
    · exact .nothing
  | revokeActiveFamilies call filter =>
    rw [TokenRun.step]
    split
    · exact .selectFamilies ..
    · exact .nothing
  | next call id token =>
    rw [TokenRun.step]
    cases found : run.calls.lookup call with
    | none => exact .nothing
    | some state => exact .next whole found id token
  | lose call =>
    rw [TokenRun.step]
    split
    · exact .nothing
    · exact .nothing
    · exact .moves call _ fun _ => rfl
  | tick milliseconds => exact .waits milliseconds

end Does

theorem promised_step (statement : TokenStatement) (promised : ∃ state, run.calls.lookup call = some state ∧ state.Promises result) :
    ∃ state, (run.step settings statement).calls.lookup call = some state ∧ state.Promises result := by
  refine carried_step (·.Promises result) (fun state id token promises found => ?_) (fun _ _ _ => .inr rfl) statement promised
  cases state with
  | rotating current | claimed current | stored current drawn successor => cases promises
  | revoking update other =>
    rw [TokenRun.next, revoke]
    split
    · exact ⟨_, lookup_insert_self .., promises⟩
    · split
      · exact ⟨_, found, promises⟩
      · exact ⟨_, lookup_insert_self .., promises⟩
    · exact ⟨_, lookup_insert_self .., .inl promises⟩
  | finished other => exact ⟨_, found, promises⟩

theorem finished_step (statement : TokenStatement) (found : run.calls.lookup call = some (.finished result)) :
    (run.step settings statement).calls.lookup call = some (.finished result) := by
  have carried := @carried_step settings run call (· = .finished result) ?_ ?_ statement ⟨_, found, rfl⟩
  · obtain ⟨_, kept, rfl⟩ := carried
    exact kept
  · rintro _ id token rfl found
    exact ⟨_, found, rfl⟩
  · rintro _ rfl running
    exact absurd rfl (running result)

theorem exchanged_step (whole : run.Kept) {statement}
    (found : (run.step settings statement).calls.lookup call = some (.finished result)) (exchanges : result.exchanges familyId = true) :
    run.calls.lookup call = some (.finished result) ∨
      ∃ state, run.calls.lookup call = some state ∧ state.rotates familyId = true := by
  have does := @Does.step settings run whole statement
  generalize run.step settings statement = after at does found
  cases does with
  | nothing => exact .inl found
  | moves other state unexchanged =>
    rcases of_lookup_insert found with ⟨-, rfl⟩ | ⟨-, before⟩
    · have quiet := unexchanged familyId
      rw [TokenCall.exchanged, exchanges] at quiet
      cases quiet
    · exact .inl before
  | commits other ended revoked added fresh rotated =>
    rcases of_lookup_insert found with ⟨rfl, same⟩ | ⟨-, before⟩
    · cases same
      exact .inr (rotated familyId exchanges)
    · exact .inl before
  | waits milliseconds => exact .inl found

theorem TokenRun.Ended.unexchanged (ended : run.Ended familyId) (whole : run.Kept) {statement}
    (found : (run.step settings statement).calls.lookup call = some (.finished result)) (exchanges : result.exchanges familyId = true) :
    run.calls.lookup call = some (.finished result) := by
  rcases exchanged_step whole found exchanges with before | ⟨state, looked, rotates⟩
  · exact before
  · rw [ended.calm call state looked] at rotates
    cases rotates

theorem has_step (has : run.Has familyId) (whole : run.Kept) (statement : TokenStatement) :
    (run.step settings statement).Has familyId := by
  have does := @Does.step settings run whole statement
  generalize run.step settings statement = after at does
  cases does with
  | commits call result revoked added fresh => exact has.written run.now revoked fresh
  | _ => exact has

theorem now_step (whole : run.Kept) (statement : TokenStatement) : run.now ≤ (run.step settings statement).now := by
  have does := @Does.step settings run whole statement
  generalize run.step settings statement = after at does
  cases does with
  | waits milliseconds => exact Int.le_add_of_nonneg_right (Int.natCast_nonneg milliseconds)
  | _ => exact le_rfl

structure TokenRun.Grows (before after : TokenRun) (familyId : Uuid) : Prop where
  has : before.Has familyId → after.Has familyId
  finished : ∀ call result, before.calls.lookup call = some (.finished result) → after.calls.lookup call = some (.finished result)
  promised : ∀ call result, (∃ state, before.calls.lookup call = some state ∧ state.Promises result) →
    ∃ state, after.calls.lookup call = some state ∧ state.Promises result
  now : before.now ≤ after.now

theorem TokenRun.Kept.grows (whole : run.Kept) (statement : TokenStatement) : run.Grows (run.step settings statement) familyId where
  has := fun has => has_step has whole statement
  finished := fun _ _ found => finished_step statement found
  promised := fun _ _ promised => promised_step statement promised
  now := now_step whole statement

end Platform
