import RetailApi.Platform.RefreshTokens

/-! Sessions, statement by statement: the refresh tokens of a family, the access tokens that carry its identifier, and the
deny-list that ends these before they expire. -/

namespace Platform

structure SessionSettings extends TokenSettings where
  /-- `auth.expires` in milliseconds. -/
  expires : Int

/-- The claims of an access token that end it: `sid`, and `exp` in seconds. -/
structure AccessToken where
  sessionId : Uuid
  exp : Int
deriving DecidableEq

/-- What `startSession` draws and is given. -/
structure NewSession where
  token : String
  familyId : Uuid
  id : Uuid
  accountId : Uuid
  tenantId : Option Uuid := none
  userAgent : Option String := none
  ip : Option String := none

inductive SessionCall where
  /-- `refreshToken` waits for the rotation. -/
  | rotating (tokenCall : Nat)
  | loading (sessionId : Uuid) (tenantId : Option Uuid)
  /-- `createToken` is to sign; the call has ended some sessions. -/
  | signing (sessionId : Uuid) (ended : List Uuid)
  /-- The guard of `logout`, or of `switchTenant`, has accepted a token. -/
  | accepted (presented : AccessToken) (switches : Bool)
  /-- `revokeSession` is to deny the access tokens; `switchTenant` then starts a session. -/
  | denying (sessionId : Uuid) (ttlMs : Int) (starts : Bool)
  | denied (sessionId : Uuid) (starts : Bool)
  | revoking (tokenCall : Nat) (sessionId : Uuid) (starts : Bool)
  | starting (ended : Uuid)
  /-- `revokeOne` has found the session. -/
  | chosen (sessionId : Uuid)
  /-- `revokeOne` or `revokeAll` waits for the families to be revoked. -/
  | ending (tokenCall : Nat)
  | covering (sessionIds pending : List Uuid)
  /-- The call is back, with the sessions that it has ended. -/
  | returned (ended : List Uuid)
  | failed
deriving DecidableEq

/-- What is stored, the access tokens that were signed, and the calls. -/
structure SessionRun where
  tokens : TokenRun := {}
  denied : Table Uuid Int := ∅
  issued : List AccessToken := []
  calls : Table Nat SessionCall := ∅

inductive SessionStatement where
  | signIn (call tokenCall : Nat) (new : NewSession)
  | refreshToken (call tokenCall : Nat) (token : String)
  | logout (call : Nat) (presented : AccessToken)
  | switchTenant (call : Nat) (presented : AccessToken)
  | revokeOne (call : Nat) (accountId sessionId : Uuid)
  | revokeAll (call tokenCall : Nat) (filter : FamilyFilter)
  /-- A call reads whether the account is active and a membership is. -/
  | read (call : Nat) (active member : Bool)
  | sign (call : Nat)
  | deny (call : Nat) (sessionId : Uuid)
  | revoke (call tokenCall : Nat)
  /-- `switchTenant` starts its session. -/
  | start (call tokenCall : Nat) (new : NewSession)
  | resume (call : Nat)
  | next (tokenCall : Nat) (id : Uuid) (token : String)
  | lose (tokenCall : Nat)
  | tick (milliseconds : Nat)

namespace SessionRun

def now (run : SessionRun) : Int := run.tokens.now

def put (run : SessionRun) (call : Nat) (state : SessionCall) : SessionRun := { run with calls := run.calls.insert call state }

def isUnused (run : SessionRun) (call : Nat) : Bool := (run.calls.lookup call).isNone

def isSessionRevoked (run : SessionRun) (sessionId : Uuid) : Bool := (run.denied.lookup sessionId).any (run.now < ·)

/-- The guard: a token that was signed, has not expired, and whose session is not denied. -/
def accepts (run : SessionRun) (token : AccessToken) : Bool :=
  run.issued.contains token && decide (run.now / 1000 < token.exp) && !run.isSessionRevoked token.sessionId

/-- The sessions that `listActive` finds for an account. -/
def listActive (run : SessionRun) (accountId : Uuid) : List Uuid :=
  (run.tokens.rows.rows.filter fun row => row.subjectType = .account && row.subjectId = accountId && row.revokedAt.isNone &&
    decide (run.now < row.expiresAt)).map (·.familyId)

def onTokens (settings : SessionSettings) (run : SessionRun) (statement : TokenStatement) : SessionRun :=
  { run with tokens := run.tokens.step settings.toTokenSettings statement }

def startSession (settings : SessionSettings) (run : SessionRun) (call tokenCall : Nat) (new : NewSession) (ended : List Uuid) : SessionRun :=
  if run.tokens.isUnused tokenCall then
    let after := run.onTokens settings (.issue tokenCall new.token new.familyId new.id new.accountId new.tenantId new.userAgent
      new.ip .account)
    match after.tokens.calls.lookup tokenCall with
    | some (.finished (.issued _ familyId)) => after.put call (.signing familyId ended)
    | some _ => after.put call .failed
    | none => run
  else run

/-- `exp` is in whole seconds from the second in which the token is signed. -/
def createToken (settings : SessionSettings) (run : SessionRun) (sessionId : Uuid) : SessionRun :=
  { run with issued := { sessionId, exp := run.now / 1000 + settings.expires / 1000 } :: run.issued }

def denySession (run : SessionRun) (sessionId : Uuid) (ttlMs : Int) : SessionRun :=
  { run with denied := run.denied.insert sessionId (run.now + ttlMs) }

def read (settings : SessionSettings) (run : SessionRun) (call : Nat) (active isMember : Bool) : SessionCall → SessionRun
  | .loading sessionId tenantId =>
    if active && (tenantId.isNone || isMember) then run.put call (.signing sessionId [])
    else run.put call (.denying sessionId settings.expires false)
  | .accepted presented switches =>
    let ttlMs := presented.exp * 1000 - run.now
    if !switches then run.put call (.denying presented.sessionId ttlMs false)
    else if !active then run.put call (.denying presented.sessionId ttlMs false)
    else if !isMember then run.put call .failed
    else run.put call (.denying presented.sessionId ttlMs true)
  | _ => run

def deny (settings : SessionSettings) (run : SessionRun) (call : Nat) (sessionId : Uuid) : SessionCall → SessionRun
  | .denying denies ttlMs starts =>
    (if 0 < ttlMs then run.denySession denies ttlMs else run).put call (.denied denies starts)
  | .covering sessionIds pending =>
    if pending.contains sessionId then
      (run.denySession sessionId settings.expires).put call (.covering sessionIds (pending.filter (· ≠ sessionId)))
    else run
  | _ => run

def revoke (settings : SessionSettings) (run : SessionRun) (call tokenCall : Nat) : SessionCall → SessionRun
  | .denied sessionId starts =>
    if run.tokens.isUnused tokenCall then
      (run.onTokens settings (.revokeFamily tokenCall sessionId)).put call (.revoking tokenCall sessionId starts)
    else run
  | .chosen sessionId =>
    if run.tokens.isUnused tokenCall then
      (run.onTokens settings (.revokeFamily tokenCall sessionId)).put call (.ending tokenCall)
    else run
  | _ => run

def resume (settings : SessionSettings) (run : SessionRun) (call : Nat) : SessionCall → SessionRun
  | .rotating tokenCall =>
    match run.tokens.calls.lookup tokenCall with
    | some (.finished (.rotated _ _ familyId _ tenantId)) => run.put call (.loading familyId tenantId)
    | some (.finished (.reuse familyId)) => run.put call (.denying familyId settings.expires false)
    | some (.finished _) => run.put call .failed
    | _ => run
  | .revoking tokenCall sessionId starts =>
    match run.tokens.calls.lookup tokenCall with
    | some (.finished (.revoked _)) => run.put call (if starts then .starting sessionId else .returned [sessionId])
    | some (.finished _) => run.put call .failed
    | _ => run
  | .ending tokenCall =>
    match run.tokens.calls.lookup tokenCall with
    | some (.finished (.revoked familyIds)) => run.put call (.covering familyIds familyIds)
    | some (.finished _) => run.put call .failed
    | _ => run
  | .covering sessionIds [] => run.put call (.returned sessionIds)
  | _ => run

def onCall (run : SessionRun) (call : Nat) (act : SessionCall → SessionRun) : SessionRun :=
  ((run.calls.lookup call).map act).getD run

def step (settings : SessionSettings) (run : SessionRun) : SessionStatement → SessionRun
  | .signIn call tokenCall new => if run.isUnused call then run.startSession settings call tokenCall new [] else run
  | .refreshToken call tokenCall token =>
    if run.isUnused call && run.tokens.isUnused tokenCall then
      (run.onTokens settings (.rotate tokenCall token .account)).put call (.rotating tokenCall)
    else run
  | .logout call presented =>
    if run.isUnused call then run.put call (if run.accepts presented then .accepted presented false else .failed) else run
  | .switchTenant call presented =>
    if run.isUnused call then run.put call (if run.accepts presented then .accepted presented true else .failed) else run
  | .revokeOne call accountId sessionId =>
    if run.isUnused call then run.put call (if (run.listActive accountId).contains sessionId then .chosen sessionId else .failed)
    else run
  | .revokeAll call tokenCall filter =>
    if run.isUnused call && run.tokens.isUnused tokenCall then
      (run.onTokens settings (.revokeActiveFamilies tokenCall filter)).put call (.ending tokenCall)
    else run
  | .read call active isMember => run.onCall call (run.read settings call active isMember)
  | .sign call =>
    run.onCall call fun state => match state with
      | .signing sessionId ended => (run.createToken settings sessionId).put call (.returned ended)
      | _ => run
  | .deny call sessionId => run.onCall call (run.deny settings call sessionId)
  | .revoke call tokenCall => run.onCall call (run.revoke settings call tokenCall)
  | .start call tokenCall new =>
    run.onCall call fun state => match state with
      | .starting ended => run.startSession settings call tokenCall new [ended]
      | _ => run
  | .resume call => run.onCall call (run.resume settings call)
  | .next tokenCall id token => run.onTokens settings (.next tokenCall id token)
  | .lose tokenCall => run.onTokens settings (.lose tokenCall)
  | .tick milliseconds => run.onTokens settings (.tick milliseconds)

end SessionRun

end Platform
