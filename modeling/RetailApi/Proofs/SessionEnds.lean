import RetailApi.Platform.Sessions
import RetailApi.Proofs.FamilyEnds

/-! The end of a session: which refresh tokens and access tokens are of use after a call that ended it is back. -/

namespace Platform

open SessionRun List Run Bool

def SessionRun.ended (run : SessionRun) (call : Nat) (sessionId : Uuid) : Prop :=
  ∃ ended, run.calls.lookup call = some (.returned ended) ∧ sessionId ∈ ended

/-- Since the session ended none of its refresh tokens was exchanged, and none of its access tokens is accepted. -/
structure EndIsFinal (sessionId : Uuid) (ended later : SessionRun) : Prop where
  unexchanged : ∀ tokenCall result, later.tokens.calls.lookup tokenCall = some (.finished result) → result.exchanges sessionId = true →
    ended.tokens.calls.lookup tokenCall = some (.finished result)
  refused : ∀ token ∈ ended.issued, token.sessionId = sessionId → later.accepts token = false

/-- The call has written its deny-list entry for the session and is not back. -/
def SessionCall.covers (sessionId : Uuid) : SessionCall → Bool
  | .denied other _ | .revoking _ other _ | .starting other => other = sessionId
  | .signing _ ended => ended.contains sessionId
  | .covering sessionIds pending => sessionIds.contains sessionId && !pending.contains sessionId
  | _ => false

/-- The statements on the family are undivided, an entry lasts as long as every access token of the session that was signed, and
none is signed while a call that has written its entry is not back. -/
def SessionRun.undivided (run : SessionRun) (sessionId : Uuid) : SessionStatement → Bool
  | .next tokenCall id token => run.tokens.undivided sessionId (.next tokenCall id token)
  | .deny call _ =>
    match run.calls.lookup call with
    | some (.denying other ttlMs _) => decide (other ≠ sessionId) ||
        run.issued.all fun token => decide (token.sessionId = sessionId → token.exp * 1000 ≤ run.now + ttlMs)
    | _ => true
  | .sign call =>
    match run.calls.lookup call with
    | some (.signing other _) => decide (other ≠ sessionId) || run.calls.entries.all fun entry => !entry.2.covers sessionId
    | _ => true
  | _ => true

def TokenRun.Over (run : TokenRun) (familyId : Uuid) : Prop :=
  ∃ call result, run.calls.lookup call = some (.finished result) ∧ result.ends familyId = true

def SessionRun.Silenced (run : SessionRun) (sessionId : Uuid) (tokens : List AccessToken) : Prop :=
  ∀ token ∈ tokens, token.sessionId = sessionId → token.exp * 1000 ≤ run.now ∨
    ∃ deniedUntil, run.denied.lookup sessionId = some deniedUntil ∧ token.exp * 1000 ≤ deniedUntil

def SessionCall.Stands (tokens : TokenRun) (sessionId : Uuid) : SessionCall → Prop
  | .loading other _ | .chosen other | .denying other _ _ | .denied other _ => other = sessionId → tokens.Has sessionId
  | .accepted presented _ => presented.sessionId = sessionId → tokens.Has sessionId
  | .signing other ended => (other = sessionId → tokens.Has sessionId) ∧ (sessionId ∈ ended → tokens.Over sessionId)
  | .revoking tokenCall other _ => other = sessionId →
      ∃ state, tokens.calls.lookup tokenCall = some state ∧ state.Promises (.revoked [sessionId])
  | .starting other => other = sessionId → tokens.Over sessionId
  | .covering ended _ | .returned ended => sessionId ∈ ended → tokens.Over sessionId
  | .rotating _ | .ending _ | .failed => True

structure SessionRun.Kept (settings : SessionSettings) (run : SessionRun) (sessionId : Uuid) (silenced : List AccessToken) : Prop where
  tokens : run.tokens.Kept
  family : run.tokens.FamilyKept sessionId
  known : ∀ token ∈ run.issued, token.sessionId = sessionId → run.tokens.Has sessionId
  lasts : ∀ token ∈ run.issued, token.exp * 1000 ≤ run.now + settings.expires
  stands : ∀ call state, run.calls.lookup call = some state → state.Stands run.tokens sessionId
  covered : ∀ call state, run.calls.lookup call = some state → state.covers sessionId = true → run.Silenced sessionId run.issued
  signed : ∀ token ∈ silenced, token ∈ run.issued
  silent : run.Silenced sessionId silenced

variable {settings : SessionSettings} {run : SessionRun} {sessionId : Uuid} {silenced : List AccessToken} {call : Nat}
  {state : SessionCall}

theorem TokenRun.Over.grows {before after : TokenRun} (ended : before.Over sessionId) (grows : before.Grows after sessionId) :
    after.Over sessionId := by
  obtain ⟨call, result, found, ends⟩ := ended
  exact ⟨call, result, grows.finished call result found, ends⟩

theorem SessionCall.Stands.grows {before after} (stands : state.Stands before sessionId)
    (grows : before.Grows after sessionId) : state.Stands after sessionId := by
  cases state with
  | loading other tenantId => exact fun same => grows.has (stands same)
  | chosen other => exact fun same => grows.has (stands same)
  | denying other ttlMs starts => exact fun same => grows.has (stands same)
  | denied other starts => exact fun same => grows.has (stands same)
  | accepted presented switches => exact fun same => grows.has (stands same)
  | signing other ended => exact ⟨fun same => grows.has (stands.1 same), fun listed => (stands.2 listed).grows grows⟩
  | revoking tokenCall other starts => exact fun same => grows.promised tokenCall _ (stands same)
  | starting other => exact fun same => (stands same).grows grows
  | covering ended pending => exact fun listed => (stands listed).grows grows
  | returned ended => exact fun listed => (stands listed).grows grows
  | rotating _ | ending _ | failed => trivial

namespace SessionRun

theorem Silenced.later {tokens} (silent : run.Silenced sessionId tokens) {after : SessionRun}
    (now : run.now ≤ after.now) (denied : after.denied = run.denied) : after.Silenced sessionId tokens := by
  intro token listed mine
  rcases silent token listed mine with expired | ⟨deniedUntil, entry, long⟩
  · exact .inl (expired.trans now)
  · exact .inr ⟨deniedUntil, denied ▸ entry, long⟩

theorem Silenced.refuses {tokens} (silent : run.Silenced sessionId tokens) {token}
    (listed : token ∈ tokens) (mine : token.sessionId = sessionId) : run.accepts token = false := by
  rw [← not_eq_true]
  intro accepted
  rw [accepts, and_eq_true, and_eq_true, decide_eq_true_eq, not_eq_true'] at accepted
  obtain ⟨⟨-, alive⟩, undenied⟩ := accepted
  have unexpired : run.now < token.exp * 1000 := by omega
  rcases silent token listed mine with expired | ⟨deniedUntil, entry, long⟩
  · omega
  · rw [isSessionRevoked, mine, entry, Option.any_some, decide_eq_false_iff_not] at undenied
    exact undenied (unexpired.trans_le long)

theorem resume_calls (settings : SessionSettings) (run : SessionRun) (call : Nat) (state : SessionCall) :
    ∃ calls, run.resume settings call state = { run with calls } := by
  unfold resume
  repeat' split
  all_goals exact ⟨_, rfl⟩

section Waiting

variable {ended : List Uuid} (stuck : run.calls.lookup call ≠ some (.returned ended))
include stuck

theorem put_returned {after : SessionRun} {other} (same : after.calls = run.calls)
    (back : (after.put other state).calls.lookup call = some (.returned ended)) : state = .returned ended := by
  rcases Table.of_lookup_insert back with ⟨-, rfl⟩ | ⟨-, earlier⟩
  · rfl
  · exact absurd (same ▸ earlier) stuck

theorem begin_waits {other} {unused : Bool} (never : ∀ sessionIds, state ≠ .returned sessionIds) :
    (if unused then run.put other state else run).calls.lookup call ≠ some (.returned ended) := by
  intro back
  split at back
  · exact never ended (put_returned stuck rfl back)
  · exact stuck back

theorem startSession_waits {other tokenCall new before} :
    (run.startSession settings other tokenCall new before).calls.lookup call ≠ some (.returned ended) := by
  intro back
  unfold SessionRun.startSession at back
  split at back
  · dsimp only at back
    split at back
    · cases put_returned stuck rfl back
    · cases put_returned stuck rfl back
    · exact stuck back
  · exact stuck back

theorem onCall_waits {other} {act : SessionCall → SessionRun}
    (each : ∀ state, (act state).calls.lookup call ≠ some (.returned ended)) :
    (run.onCall other act).calls.lookup call ≠ some (.returned ended) := by
  unfold onCall
  cases run.calls.lookup other with
  | none => exact stuck
  | some state => exact each state

theorem read_waits {other active isMember} :
    (run.read settings other active isMember state).calls.lookup call ≠ some (.returned ended) := by
  intro back
  unfold SessionRun.read at back
  split at back
  · split at back <;> cases put_returned stuck rfl back
  · dsimp only at back
    repeat' split at back
    all_goals cases put_returned stuck rfl back
  · exact stuck back

theorem deny_waits {other denies} : (run.deny settings other denies state).calls.lookup call ≠ some (.returned ended) := by
  intro back
  unfold SessionRun.deny at back
  split at back
  · refine absurd (put_returned stuck ?_ back) fun same => by cases same
    split <;> rfl
  · split at back
    · cases put_returned stuck rfl back
    · exact stuck back
  · exact stuck back

theorem revoke_waits {other tokenCall} :
    (run.revoke settings other tokenCall state).calls.lookup call ≠ some (.returned ended) := by
  intro back
  unfold SessionRun.revoke at back
  repeat' split at back
  all_goals first | exact stuck back | cases put_returned stuck rfl back

/-- A call that is back after its revocations had denied the session, if it ends it. -/
theorem resume_returned {other} (listed : sessionId ∈ ended)
    (back : (run.resume settings other state).calls.lookup call = some (.returned ended)) : state.covers sessionId = true := by
  unfold SessionRun.resume at back
  split at back
  · split at back
    · cases put_returned stuck rfl back
    · cases put_returned stuck rfl back
    · cases put_returned stuck rfl back
    · exact absurd back stuck
  · next tokenCall revokes starts =>
    split at back
    · cases starts with
      | true => cases put_returned stuck rfl back
      | false =>
        cases put_returned stuck rfl back
        exact decide_eq_true (mem_singleton.mp listed).symm
    · cases put_returned stuck rfl back
    · exact absurd back stuck
  · split at back
    · cases put_returned stuck rfl back
    · cases put_returned stuck rfl back
    · exact absurd back stuck
  · cases put_returned stuck rfl back
    exact and_eq_true_iff.mpr ⟨contains_iff_mem.mpr listed, rfl⟩
  · exact absurd back stuck

end Waiting

namespace Kept

section

variable (kept : run.Kept settings sessionId silenced)
include kept

theorem onTokens {statement}
    (undivided : run.tokens.undivided sessionId statement = true)
    (known : ∀ tokenCall, statement = .revokeFamily tokenCall sessionId → run.tokens.Has sessionId) :
    (run.onTokens settings statement).Kept settings sessionId silenced := by
  have grows : run.tokens.Grows _ sessionId := @TokenRun.Kept.grows settings.toTokenSettings _ sessionId kept.tokens statement
  refine ⟨kept.tokens.step statement, kept.family.step kept.tokens undivided known, ?_, ?_, ?_, ?_, kept.signed, ?_⟩
  · exact fun token listed mine => grows.has (kept.known token listed mine)
  · exact fun token listed => (kept.lasts token listed).trans (Int.add_le_add_right grows.now _)
  · exact fun call state found => (kept.stands call state found).grows grows
  · exact fun call state found covers => (kept.covered call state found covers).later grows.now rfl
  · exact kept.silent.later grows.now rfl

theorem put (stands : state.Stands run.tokens sessionId)
    (covers : state.covers sessionId = true → run.Silenced sessionId run.issued) :
    (run.put call state).Kept settings sessionId silenced := by
  refine ⟨kept.tokens, kept.family, kept.known, kept.lasts, ?_, ?_, kept.signed, kept.silent⟩
  · exact Table.forall_insert stands kept.stands
  · exact Table.forall_insert covers kept.covered

theorem putQuiet (stands : state.Stands run.tokens sessionId)
    (quiet : state.covers sessionId = false) : (run.put call state).Kept settings sessionId silenced := by
  refine kept.put stands fun covers => ?_
  cases quiet.symm.trans covers

theorem fail : (run.put call .failed).Kept settings sessionId silenced :=
  kept.putQuiet trivial rfl

theorem denySession {other ttlMs}
    (lasts : other = sessionId → ∀ token ∈ run.issued, token.sessionId = sessionId → token.exp * 1000 ≤ run.now + ttlMs) :
    (run.denySession other ttlMs).Kept settings sessionId silenced ∧
      (other = sessionId → (run.denySession other ttlMs).Silenced sessionId run.issued) := by
  have replaced : other = sessionId → (run.denySession other ttlMs).Silenced sessionId run.issued := by
    rintro rfl token listed mine
    exact .inr ⟨run.now + ttlMs, Table.lookup_insert_self .., lasts rfl token listed mine⟩
  have still : ∀ tokens : List AccessToken, (∀ token ∈ tokens, token ∈ run.issued) → run.Silenced sessionId tokens →
      (run.denySession other ttlMs).Silenced sessionId tokens := by
    intro tokens within silent token listed mine
    by_cases same : other = sessionId
    · exact replaced same token (within token listed) mine
    · rcases silent token listed mine with expired | ⟨deniedUntil, entry, long⟩
      · exact .inl expired
      · refine .inr ⟨deniedUntil, ?_, long⟩
        exact (AList.lookup_insert_ne (Ne.symm same)).trans entry
  refine ⟨⟨kept.tokens, kept.family, kept.known, kept.lasts, kept.stands, ?_, kept.signed, ?_⟩, replaced⟩
  · exact fun call state found covers => still run.issued (fun _ listed => listed) (kept.covered call state found covers)
  · exact still silenced kept.signed kept.silent

end

section

variable (kept : run.Kept settings sessionId silenced)

include kept

theorem createToken {other} (known : other = sessionId → run.tokens.Has sessionId)
    (alone : other = sessionId → ∀ call state, run.calls.lookup call = some state → state.covers sessionId = false) :
    (run.createToken settings other).Kept settings sessionId silenced := by
  refine ⟨kept.tokens, kept.family, ?_, ?_, kept.stands, ?_, ?_, kept.silent⟩
  · intro token listed mine
    rcases mem_cons.mp listed with rfl | earlier
    · exact known mine
    · exact kept.known token earlier mine
  · intro token listed
    rcases mem_cons.mp listed with rfl | earlier
    · show (run.now / 1000 + settings.expires / 1000) * 1000 ≤ run.now + settings.expires
      omega
    · exact kept.lasts token earlier
  · intro call state found covers token listed mine
    rcases mem_cons.mp listed with rfl | earlier
    · rw [alone mine call state found] at covers
      cases covers
    · exact kept.covered call state found covers token earlier mine
  · exact fun token listed => mem_cons_of_mem _ (kept.signed token listed)

theorem startSession {tokenCall new ended}
    (ends : sessionId ∈ ended → run.tokens.Over sessionId ∧ run.Silenced sessionId run.issued) :
    (run.startSession settings call tokenCall new ended).Kept settings sessionId silenced := by
  unfold SessionRun.startSession
  split
  · dsimp only
    have grows : run.tokens.Grows _ sessionId := @TokenRun.Kept.grows settings.toTokenSettings _ sessionId kept.tokens
      (.issue tokenCall new.token new.familyId new.id new.accountId new.tenantId new.userAgent new.ip .account)
    have after := @onTokens _ _ _ _ kept (.issue tokenCall new.token new.familyId new.id new.accountId new.tenantId
      new.userAgent new.ip .account) rfl (fun _ same => by cases same)
    split
    · next token familyId found =>
      refine after.put ⟨?_, fun listed => (ends listed).1.grows grows⟩ fun covers => ?_
      · rintro rfl
        exact after.family.has_of_grants found (decide_eq_true rfl)
      · exact (ends (contains_iff_mem.mp covers)).2.later grows.now rfl
    · exact after.fail
    · exact kept
  · exact kept

section

variable (found : run.calls.lookup call = some state)
include found

theorem read (active isMember : Bool) :
    (run.read settings call active isMember state).Kept settings sessionId silenced := by
  have stands := kept.stands call state found
  unfold SessionRun.read
  split
  · split
    · exact kept.putQuiet ⟨stands, fun listed => by cases listed⟩ rfl
    · exact kept.putQuiet stands rfl
  · dsimp only
    split
    · exact kept.putQuiet stands rfl
    · split
      · exact kept.putQuiet stands rfl
      · split
        · exact kept.fail
        · exact kept.putQuiet stands rfl
  · exact kept

theorem deny {other}
    (undivided : run.undivided sessionId (.deny call other) = true) :
    (run.deny settings call other state).Kept settings sessionId silenced := by
  have stands := kept.stands call state found
  unfold SessionRun.undivided at undivided
  dsimp only at undivided
  rw [found] at undivided
  unfold SessionRun.deny
  split
  · next denies ttlMs starts =>
    have lasts : denies = sessionId → ∀ token ∈ run.issued, token.sessionId = sessionId → token.exp * 1000 ≤ run.now + ttlMs := by
      rintro same token listed
      rw [or_eq_true, decide_eq_true_eq, all_eq_true] at undivided
      rcases undivided with different | long
      · exact absurd same different
      · exact of_decide_eq_true (long token listed)
    split
    · obtain ⟨after, silent⟩ := kept.denySession lasts
      exact after.put stands fun covers => silent (of_decide_eq_true covers)
    · next ended =>
      refine kept.put stands fun covers token listed mine => .inl ?_
      have long := lasts (of_decide_eq_true covers) token listed mine
      omega
  · next sessionIds pending =>
    split
    · obtain ⟨after, silent⟩ := @denySession _ _ _ _ kept other settings.expires fun _ token listed _ => kept.lasts token listed
      refine after.put stands fun covers => ?_
      by_cases same : other = sessionId
      · exact silent same
      · obtain ⟨listed, done⟩ := and_eq_true_iff.mp covers
        refine after.covered call (.covering sessionIds pending) found (and_eq_true_iff.mpr ⟨listed, ?_⟩)
        rw [not_eq_true', ← not_eq_true, contains_iff_mem] at done ⊢
        exact fun waits => done (mem_filter.mpr ⟨waits, decide_eq_true (Ne.symm same)⟩)
    · exact kept
  · exact kept

theorem revoke {tokenCall} :
    (run.revoke settings call tokenCall state).Kept settings sessionId silenced := by
  have stands := kept.stands call state found
  have begun : ∀ {other : Uuid}, (other = sessionId → run.tokens.Has sessionId) →
      (run.onTokens settings (.revokeFamily tokenCall other)).Kept settings sessionId silenced := by
    intro other known
    refine kept.onTokens rfl ?_
    rintro _ ⟨⟩
    exact known rfl
  unfold SessionRun.revoke
  split
  · next other starts =>
    split
    · next unused =>
      refine (begun stands).put ?_ fun covers => ?_
      · rintro rfl
        refine ⟨.revoking { familyIds := [other] } (.revoked [other]), ?_, rfl⟩
        rw [SessionRun.onTokens, TokenRun.step, if_pos unused]
        exact Table.lookup_insert_self ..
      · exact (begun stands).covered call (.denied other starts) found covers
    · exact kept
  · split
    · exact (begun stands).putQuiet trivial rfl
    · exact kept
  · exact kept

theorem resume :
    (run.resume settings call state).Kept settings sessionId silenced := by
  have stands := kept.stands call state found
  unfold SessionRun.resume
  split
  · next tokenCall =>
    split
    · next presented token familyId subjectId tenantId looked =>
      refine kept.putQuiet ?_ rfl
      rintro rfl
      exact kept.family.has_of_grants looked (decide_eq_true rfl)
    · next familyId looked =>
      refine kept.putQuiet ?_ rfl
      rintro rfl
      exact kept.family.has_of_ends looked (decide_eq_true rfl)
    · exact kept.fail
    · exact kept
  · next tokenCall other starts =>
    split
    · next familyIds looked =>
      have done : other = sessionId → run.tokens.Over sessionId := by
        intro same
        obtain ⟨state, listed, promises⟩ := stands same
        cases looked.symm.trans listed
        refine ⟨tokenCall, _, looked, ?_⟩
        rcases promises with same | failed
        · rw [same]
          exact contains_iff_mem.mpr (mem_singleton.mpr rfl)
        · cases failed
      cases starts with
      | true => exact kept.put done fun covers => kept.covered call _ found covers
      | false => exact kept.putQuiet (fun listed => done (mem_singleton.mp listed).symm) rfl
    · exact kept.fail
    · exact kept
  · next tokenCall =>
    split
    · next familyIds looked =>
      refine kept.putQuiet (fun listed => ⟨tokenCall, _, looked, contains_iff_mem.mpr listed⟩) ?_
      rw [SessionCall.covers, Bool.and_not_self]
    · exact kept.fail
    · exact kept
  · exact kept.putQuiet stands rfl
  · exact kept

end

end

section

variable (kept : run.Kept settings sessionId silenced)
include kept

theorem onCall {act : SessionCall → SessionRun}
    (each : ∀ state, run.calls.lookup call = some state → (act state).Kept settings sessionId silenced) :
    (run.onCall call act).Kept settings sessionId silenced := by
  unfold SessionRun.onCall
  cases found : run.calls.lookup call with
  | none => exact kept
  | some state => exact each state found

/-- The guard of a call that presents an access token. -/
theorem present (presented : AccessToken) (switches : Bool) :
    (run.put call (if run.accepts presented then .accepted presented switches else .failed)).Kept settings sessionId silenced := by
  split
  · next accepted =>
    rw [accepts, and_eq_true, and_eq_true, contains_iff_mem] at accepted
    exact kept.putQuiet (fun mine => kept.known presented accepted.1.1 mine) rfl
  · exact kept.fail

theorem revokeOne (accountId chosen : Uuid) :
    (run.step settings (.revokeOne call accountId chosen)).Kept settings sessionId silenced := by
  rw [SessionRun.step]
  split
  · split
    · next active =>
      refine kept.putQuiet ?_ rfl
      rintro rfl
      obtain ⟨row, listed, mine⟩ := mem_map.mp (contains_iff_mem.mp active)
      obtain ⟨entry, stored, rfl⟩ := mem_map.mp (mem_of_mem_filter listed)
      exact ⟨entry.1, entry.2, AList.mem_lookup_iff.mpr stored, mine⟩
    · exact kept.fail
  · exact kept

theorem sign (undivided : run.undivided sessionId (.sign call) = true) :
    (run.step settings (.sign call)).Kept settings sessionId silenced := by
  refine kept.onCall fun state found => ?_
  have stands := kept.stands call state found
  split
  · next other ended =>
    unfold SessionRun.undivided at undivided
    dsimp only at undivided
    rw [found] at undivided
    refine Kept.putQuiet (kept.createToken stands.1 fun same beside state listed => ?_) stands.2 rfl
    rw [or_eq_true, decide_eq_true_eq, all_eq_true] at undivided
    rcases undivided with different | alone
    · exact absurd same different
    · rw [← not_eq_true']
      exact alone ⟨beside, state⟩ (AList.mem_lookup_iff.mp listed)
  · exact kept

theorem startAnew (tokenCall : Nat) (new : NewSession) :
    (run.step settings (.start call tokenCall new)).Kept settings sessionId silenced := by
  refine kept.onCall fun state found => ?_
  have stands := kept.stands call state found
  split
  · next ended =>
    refine kept.startSession fun listed => ?_
    obtain rfl := mem_singleton.mp listed
    exact ⟨stands rfl, kept.covered call _ found (decide_eq_true rfl)⟩
  · exact kept

end

theorem step (kept : run.Kept settings sessionId silenced) {statement}
    (undivided : run.undivided sessionId statement = true) : (run.step settings statement).Kept settings sessionId silenced := by
  cases statement with
  | signIn call tokenCall new =>
    rw [SessionRun.step]
    split
    · exact kept.startSession fun listed => by cases listed
    · exact kept
  | refreshToken call tokenCall token =>
    rw [SessionRun.step]
    split
    · refine Kept.putQuiet (kept.onTokens rfl ?_) trivial rfl
      rintro _ ⟨⟩
    · exact kept
  | logout call presented =>
    rw [SessionRun.step]
    split
    · exact kept.present presented false
    · exact kept
  | switchTenant call presented =>
    rw [SessionRun.step]
    split
    · exact kept.present presented true
    · exact kept
  | revokeOne call accountId other => exact kept.revokeOne accountId other
  | revokeAll call tokenCall filter =>
    rw [SessionRun.step]
    split
    · refine Kept.putQuiet (kept.onTokens rfl ?_) trivial rfl
      rintro _ ⟨⟩
    · exact kept
  | read call active isMember => exact kept.onCall fun state found => kept.read found active isMember
  | sign call => exact kept.sign undivided
  | deny call other => exact kept.onCall fun state found => kept.deny found undivided
  | revoke call tokenCall => exact kept.onCall fun state found => kept.revoke found
  | start call tokenCall new => exact kept.startAnew tokenCall new
  | resume call => exact kept.onCall fun state found => kept.resume found
  | next tokenCall id token =>
    refine kept.onTokens undivided ?_
    rintro _ ⟨⟩
  | lose tokenCall =>
    refine kept.onTokens rfl ?_
    rintro _ ⟨⟩
  | tick milliseconds =>
    refine kept.onTokens rfl ?_
    rintro _ ⟨⟩

theorem start : Kept settings {} sessionId [] where
  tokens := TokenRun.Kept.start
  family := TokenRun.FamilyKept.start
  known := fun _ listed => by cases listed
  lasts := fun _ listed => by cases listed
  stands := fun _ _ found => by cases found
  covered := fun _ _ found => by cases found
  signed := fun _ listed => by cases listed
  silent := fun _ listed => by cases listed

section

variable (kept : run.Kept settings sessionId silenced)
include kept

theorem sign_returns {other ended} (undivided : run.undivided sessionId (.sign other) = true)
    (stuck : run.calls.lookup call ≠ some (.returned ended)) (listed : sessionId ∈ ended)
    (back : (run.step settings (.sign other)).calls.lookup call = some (.returned ended)) :
    (run.step settings (.sign other)).Silenced sessionId (run.step settings (.sign other)).issued := by
  cases before : run.calls.lookup other with
  | none =>
    rw [SessionRun.step, SessionRun.onCall, before] at back
    exact absurd back stuck
  | some state =>
    unfold SessionRun.undivided at undivided
    dsimp only at undivided
    rw [before] at undivided
    rw [SessionRun.step, SessionRun.onCall, before] at back ⊢
    cases state with
    | signing signs ends =>
      cases put_returned stuck rfl back
      have covers : (SessionCall.signing signs ended).covers sessionId = true := contains_iff_mem.mpr listed
      rw [or_eq_true, decide_eq_true_eq, all_eq_true] at undivided
      intro token issued mine
      rcases undivided with different | alone
      · rcases mem_cons.mp issued with rfl | earlier
        · exact absurd mine different
        · exact kept.covered other _ before covers token earlier mine
      · have quiet := alone ⟨other, .signing signs ended⟩ (AList.mem_lookup_iff.mp before)
        rw [covers] at quiet
        cases quiet
    | _ => exact absurd back stuck

theorem resume_returns {other ended} (stuck : run.calls.lookup call ≠ some (.returned ended)) (listed : sessionId ∈ ended)
    (back : (run.step settings (.resume other)).calls.lookup call = some (.returned ended)) :
    (run.step settings (.resume other)).Silenced sessionId (run.step settings (.resume other)).issued := by
  cases before : run.calls.lookup other with
  | none =>
    rw [SessionRun.step, SessionRun.onCall, before] at back
    exact absurd back stuck
  | some state =>
    rw [SessionRun.step, SessionRun.onCall, before] at back ⊢
    have covers := resume_returned stuck listed back
    show (run.resume settings other state).Silenced sessionId (run.resume settings other state).issued
    obtain ⟨calls, same⟩ := resume_calls settings run other state
    rw [same]
    exact kept.covered other state before covers

/-- A call that comes back with the end of a session leaves every access token of it expired or denied. -/
theorem returns {statement}
    (undivided : run.undivided sessionId statement = true) (running : ¬run.ended call sessionId)
    (back : (run.step settings statement).ended call sessionId) :
    (run.step settings statement).Silenced sessionId (run.step settings statement).issued := by
  obtain ⟨ended, found, listed⟩ := back
  have stuck : run.calls.lookup call ≠ some (.returned ended) := fun earlier => running ⟨ended, earlier, listed⟩
  cases statement with
  | signIn other tokenCall new =>
    rw [SessionRun.step] at found
    split at found
    · exact absurd found (startSession_waits stuck)
    · exact absurd found stuck
  | refreshToken other tokenCall token | revokeAll other tokenCall filter =>
    rw [SessionRun.step] at found
    split at found
    · cases put_returned stuck rfl found
    · exact absurd found stuck
  | logout other presented | switchTenant other presented | revokeOne other accountId chosen =>
    refine absurd found (begin_waits stuck fun _ => ?_)
    split <;> exact fun same => by cases same
  | sign other => exact kept.sign_returns undivided stuck listed found
  | resume other => exact kept.resume_returns stuck listed found
  | read other active isMember => exact absurd found (onCall_waits stuck fun _ => read_waits stuck)
  | deny other denies => exact absurd found (onCall_waits stuck fun _ => deny_waits stuck)
  | revoke other tokenCall => exact absurd found (onCall_waits stuck fun _ => revoke_waits stuck)
  | start other tokenCall new =>
    refine absurd found (onCall_waits stuck fun state => ?_)
    split
    · exact startSession_waits stuck
    · exact stuck
  | next tokenCall id token | lose tokenCall | tick milliseconds => exact absurd found stuck

theorem family_ended (ended : run.ended call sessionId) : run.tokens.Over sessionId := by
  obtain ⟨sessionIds, found, listed⟩ := ended
  exact kept.stands call _ found listed

theorem silence (silent : run.Silenced sessionId run.issued) :
    run.Kept settings sessionId run.issued :=
  { kept with signed := fun _ listed => listed, silent }

end

end Kept

theorem step_tokens (settings : SessionSettings) (run : SessionRun) (statement : SessionStatement) :
    (run.step settings statement).tokens = run.tokens ∨
      ∃ on, (run.step settings statement).tokens = run.tokens.step settings.toTokenSettings on := by
  have ran : ∀ on call state, ((run.onTokens settings on).put call state).tokens = run.tokens ∨
      ∃ on', ((run.onTokens settings on).put call state).tokens = run.tokens.step settings.toTokenSettings on' :=
    fun on _ _ => .inr ⟨on, rfl⟩
  have started : ∀ call tokenCall new ended, (run.startSession settings call tokenCall new ended).tokens = run.tokens ∨
      ∃ on, (run.startSession settings call tokenCall new ended).tokens = run.tokens.step settings.toTokenSettings on := by
    intro call tokenCall new ended
    unfold startSession
    split
    · dsimp only
      split
      · exact ran ..
      · exact ran ..
      · exact .inl rfl
    · exact .inl rfl
  have acted : ∀ {call : Nat} {act : SessionCall → SessionRun}, (∀ state, (act state).tokens = run.tokens ∨
        ∃ on, (act state).tokens = run.tokens.step settings.toTokenSettings on) →
      (run.onCall call act).tokens = run.tokens ∨
        ∃ on, (run.onCall call act).tokens = run.tokens.step settings.toTokenSettings on := by
    intro call act each
    unfold onCall
    cases run.calls.lookup call with
    | none => exact .inl rfl
    | some state => exact each state
  cases statement with
  | signIn call tokenCall new =>
    rw [step]
    split
    · exact started ..
    · exact .inl rfl
  | refreshToken call tokenCall token | revokeAll call tokenCall filter =>
    rw [step]
    split
    · exact ran ..
    · exact .inl rfl
  | logout call presented | switchTenant call presented | revokeOne call accountId other =>
    rw [step]
    split <;> exact .inl rfl
  | read call active isMember =>
    refine acted fun state => .inl ?_
    unfold read
    repeat' split
    all_goals rfl
  | sign call =>
    refine acted fun state => .inl ?_
    split <;> rfl
  | deny call other =>
    refine acted fun state => .inl ?_
    unfold deny
    split
    · split <;> rfl
    · split <;> rfl
    · rfl
  | revoke call tokenCall =>
    refine acted fun state => ?_
    unfold revoke
    repeat' split
    all_goals first | exact .inl rfl | exact ran ..
  | start call tokenCall new =>
    refine acted fun state => ?_
    split
    · exact started ..
    · exact .inl rfl
  | resume call =>
    refine acted fun state => .inl ?_
    obtain ⟨calls, same⟩ := resume_calls settings run call state
    rw [same]
  | next tokenCall id token => exact .inr ⟨.next tokenCall id token, rfl⟩
  | lose tokenCall => exact .inr ⟨.lose tokenCall, rfl⟩
  | tick milliseconds => exact .inr ⟨.tick milliseconds, rfl⟩

namespace Kept

theorem over_step (kept : run.Kept settings sessionId silenced) (ended : run.tokens.Over sessionId) (statement : SessionStatement) :
    (run.step settings statement).tokens.Over sessionId := by
  rcases step_tokens settings run statement with same | ⟨on, same⟩
  · rw [same]
    exact ended
  · rw [same]
    exact ended.grows (kept.tokens.grows on)

theorem unexchanged (kept : run.Kept settings sessionId silenced) (ended : run.tokens.Over sessionId) (statement : SessionStatement)
    {tokenCall} {result} (exchanges : result.exchanges sessionId = true)
    (found : (run.step settings statement).tokens.calls.lookup tokenCall = some (.finished result)) :
    run.tokens.calls.lookup tokenCall = some (.finished result) := by
  rcases step_tokens settings run statement with same | ⟨on, same⟩
  · rw [same] at found
    exact found
  · rw [same] at found
    obtain ⟨endCall, endResult, looked, ends⟩ := ended
    exact (kept.family.ended endCall endResult looked ends).unexchanged kept.tokens found exchanges

end Kept

end SessionRun

/-- In every run whose statements are undivided, a session that a call has ended stays ended when the call is back. -/
theorem ended_sessions_stay_ended (settings : SessionSettings) (sessionId : Uuid) (before : List SessionStatement)
    (last : SessionStatement) (later : List SessionStatement)
    (undivided : Meets (step settings) (fun run statement => run.undivided sessionId statement = true) {}
      (before ++ last :: later)) (call : Nat)
    (running : ¬(after (step settings) {} before).ended call sessionId)
    (back : (after (step settings) {} (before ++ [last])).ended call sessionId) :
    EndIsFinal sessionId (after (step settings) {} (before ++ [last]))
      (after (step settings) {} (before ++ last :: later)) := by
  obtain ⟨first, now, rest⟩ := meets_append.mp undivided
  have kept : (after (step settings) {} before).Kept settings sessionId [] :=
    invariant_of_meets (fun run : SessionRun => run.Kept settings sessionId []) (fun _ _ met kept => kept.step met) first
      Kept.start
  have returned := @after_append _ _ (step settings) {} before [last]
  have continued := @after_append _ _ (step settings) {} before (last :: later)
  rw [continued]
  rw [returned] at back ⊢
  generalize after (step settings) {} before = run at *
  replace back : (run.step settings last).ended call sessionId := back
  have stepped := kept.step now
  have ended := stepped.family_ended back
  have silenced := stepped.silence (kept.returns now running back)
  have still := invariant_of_meets (fun after : SessionRun => after.Kept settings sessionId (run.step settings last).issued ∧
      after.tokens.Over sessionId ∧ ∀ tokenCall result, result.exchanges sessionId = true →
        after.tokens.calls.lookup tokenCall = some (.finished result) →
        (run.step settings last).tokens.calls.lookup tokenCall = some (.finished result)) ?_ rest
    ⟨silenced, ended, fun _ _ _ found => found⟩
  · exact ⟨fun tokenCall result found exchanges => still.2.2 tokenCall result exchanges found,
      fun token listed mine => still.1.silent.refuses listed mine⟩
  · rintro after statement met ⟨kept, ended, earlier⟩
    refine ⟨kept.step met, kept.over_step ended statement, fun tokenCall result exchanges found => ?_⟩
    exact earlier tokenCall result exchanges (kept.unexchanged ended statement exchanges found)

private def quarterHour : SessionSettings := { hashToken := id, refreshExpires := 1000000000, expires := 900000 }

private def signedIn : List SessionStatement := [.signIn 0 0 { token := "a", familyId := 7, id := 1, accountId := 5 }, .sign 0]

private def loggedOut : List SessionStatement :=
  signedIn ++ [.logout 1 ⟨7, 900⟩, .read 1 true true, .deny 1 7, .revoke 1 1, .next 1 0 "", .next 1 0 "", .next 1 0 ""]

private def tried : List SessionStatement := [.refreshToken 2 2 "a", .tick 1000, .next 2 0 ""]

private theorem waits_of_revoking {run : SessionRun} {call tokenCall sessionId}
    (waits : run.calls.lookup call = some (.revoking tokenCall sessionId false)) : ¬run.ended call sessionId := by
  rintro ⟨ended, found, -⟩
  cases waits.symm.trans found

/-- After a logout that nothing overlaps, neither token of the session is of use. -/
theorem ended_sessions_stay_ended_logout :
    EndIsFinal 7 (after (step quarterHour) {} (loggedOut ++ [.resume 1]))
      (after (step quarterHour) {} (loggedOut ++ .resume 1 :: tried)) := by
  refine ended_sessions_stay_ended quarterHour 7 loggedOut (.resume 1) tried (by decide +kernel) 1 ?_ ⟨[7], by decide +kernel, by decide⟩
  have waits : (after (step quarterHour) {} loggedOut).calls.lookup 1 = some (.revoking 1 7 false) := by decide +kernel
  exact waits_of_revoking waits

/-- The `UPDATE` of a logout has its snapshot before the successor of a rotation is committed. -/
private def overlapped : List SessionStatement :=
  signedIn ++ [.refreshToken 1 1 "a", .next 1 0 "", .next 1 2 "b", .logout 2 ⟨7, 900⟩, .read 2 true true, .deny 2 7, .revoke 2 2,
    .next 2 0 "", .next 1 0 "", .next 2 0 "", .next 2 0 ""]

private def refreshedAfter : List SessionStatement := [.refreshToken 3 3 "b", .next 3 0 "", .next 3 3 "c", .next 3 0 ""]

/-- A logout presents an access token that is older than the newest of its session. -/
private def outlived : List SessionStatement :=
  signedIn ++ [.tick 5000, .refreshToken 1 1 "a", .next 1 0 "", .next 1 2 "b", .next 1 0 "", .resume 1, .read 1 true true, .sign 1,
    .logout 2 ⟨7, 900⟩, .read 2 true true, .deny 2 7, .revoke 2 2, .next 2 0 "", .next 2 0 "", .next 2 0 ""]

/-- A refresh token that a logout missed is exchanged after it, and an access token is accepted that outlives the deny-list entry. -/
theorem sessions_outlive_their_end :
    (¬(after (step quarterHour) {} overlapped).ended 2 7 ∧
      (after (step quarterHour) {} (overlapped ++ [.resume 2])).ended 2 7 ∧
      ¬EndIsFinal 7 (after (step quarterHour) {} (overlapped ++ [.resume 2]))
        (after (step quarterHour) {} (overlapped ++ .resume 2 :: refreshedAfter))) ∧
    ¬(after (step quarterHour) {} outlived).ended 2 7 ∧
      (after (step quarterHour) {} (outlived ++ [.resume 2])).ended 2 7 ∧
      ¬EndIsFinal 7 (after (step quarterHour) {} (outlived ++ [.resume 2]))
        (after (step quarterHour) {} (outlived ++ [.resume 2, .tick 895000])) := by
  have waits : (after (step quarterHour) {} overlapped).calls.lookup 2 = some (.revoking 2 7 false) := by decide +kernel
  have alsoWaits : (after (step quarterHour) {} outlived).calls.lookup 2 = some (.revoking 2 7 false) := by decide +kernel
  refine ⟨⟨waits_of_revoking waits, ⟨[7], by decide +kernel, by decide⟩, fun final => ?_⟩,
    waits_of_revoking alsoWaits, ⟨[7], by decide +kernel, by decide⟩, fun final => ?_⟩
  · have exchanged : (after (step quarterHour) {} (overlapped ++ .resume 2 :: refreshedAfter)).tokens.calls.lookup 3 =
        some (.finished (.rotated 2 "c" 7 5 none)) := rfl
    have before := final.unexchanged 3 _ exchanged rfl
    have unused : (after (step quarterHour) {} (overlapped ++ [.resume 2])).tokens.calls.lookup 3 = none := rfl
    cases unused.symm.trans before
  · have accepted : (after (step quarterHour) {} (outlived ++ [.resume 2, .tick 895000])).accepts ⟨7, 905⟩ = true := by
      decide +kernel
    rw [final.refused ⟨7, 905⟩ (by decide +kernel) rfl] at accepted
    cases accepted

end Platform
