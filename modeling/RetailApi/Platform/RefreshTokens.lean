import RetailApi.Base.Table

/-! Rotating refresh tokens, statement by statement: a statement sees what is committed before it, and an `UPDATE` waits for the
lock of a row and tests its condition again. -/

namespace Platform

abbrev Uuid := Nat

inductive AccessTokenSubjectType where
  | account
  | platformAdmin
deriving DecidableEq

structure RefreshTokenEntity where
  familyId : Uuid
  subjectType : AccessTokenSubjectType
  subjectId : Uuid
  tenantId : Option Uuid
  tokenHash : String
  userAgent : Option String := none
  ip : Option String := none
  expiresAt : Int
  revokedAt : Option Int := none
deriving DecidableEq

structure TokenSettings where
  hashToken : String → String
  /-- `auth.refreshExpires` in milliseconds. -/
  refreshExpires : Int

def TokenSettings.store (settings : TokenSettings) (now : Int) (token : String) (familyId subjectId : Uuid) (tenantId : Option Uuid)
    (userAgent ip : Option String) (subjectType : AccessTokenSubjectType) : RefreshTokenEntity :=
  { familyId, subjectType, subjectId, tenantId, userAgent, ip
    tokenHash := settings.hashToken token
    expiresAt := now + settings.refreshExpires }

abbrev TokenRow := Uuid × RefreshTokenEntity

inductive TokenResult where
  | issued (token : String) (familyId : Uuid)
  /-- The row of the token that was presented, and what the caller gets. -/
  | rotated (presented : Uuid) (token : String) (familyId subjectId : Uuid) (tenantId : Option Uuid)
  | revoked (familyIds : List Uuid)
  | unauthorized
  | reuse (familyId : Uuid)
  | failed
deriving DecidableEq

/-- `UPDATE ... SET revoked_at WHERE family_id IN ... AND revoked_at IS NULL`: the rows that its snapshot has, once it runs,
and those it has locked. -/
structure RevokeUpdate where
  familyIds : List Uuid
  pending : Option (List Uuid) := none
  locked : List Uuid := []

inductive TokenCall where
  | rotating (current : TokenRow)
  | claimed (current : TokenRow)
  | stored (current : TokenRow) (token : String) (successor : TokenRow)
  | revoking (update : RevokeUpdate) (result : TokenResult)
  | finished (result : TokenResult)

def TokenCall.locks (id : Uuid) : TokenCall → Bool
  | .claimed current | .stored current _ _ => current.1 = id
  | .revoking update _ => update.locked.contains id
  | _ => false

/-- The call's transaction is inserting a row with a hash. -/
def TokenCall.inserts (tokenHash : String) : TokenCall → Bool
  | .stored _ _ successor => successor.2.tokenHash = tokenHash
  | _ => false

structure TokenRun where
  rows : Table Uuid RefreshTokenEntity := ∅
  calls : Table Nat TokenCall := ∅
  now : Int := 0

/-- The families that `revokeActiveFamilies` or `revokeActiveFamiliesOfTenant` looks for. -/
structure FamilyFilter where
  subjectType : AccessTokenSubjectType := .account
  subjectId : Option Uuid := none
  tenantId : Option Uuid := none
  exceptFamilyId : Option Uuid := none

def FamilyFilter.covers (filter : FamilyFilter) (row : RefreshTokenEntity) : Bool :=
  row.subjectType = filter.subjectType && filter.subjectId.all (· = row.subjectId) &&
    filter.tenantId.all (fun tenantId => row.tenantId = some tenantId) && row.revokedAt.isNone

inductive TokenStatement where
  | issue (call : Nat) (token : String) (familyId id subjectId : Uuid) (tenantId : Option Uuid)
      (userAgent ip : Option String) (subjectType : AccessTokenSubjectType)
  | rotate (call : Nat) (token : String) (expectedSubjectType : AccessTokenSubjectType)
  | revokeFamily (call : Nat) (familyId : Uuid)
  | revokeActiveFamilies (call : Nat) (filter : FamilyFilter)
  /-- The next statement of a call, with the identifier and the token that it may draw. -/
  | next (call : Nat) (id : Uuid) (token : String)
  | lose (call : Nat)
  | tick (milliseconds : Nat)

namespace TokenRun

def put (run : TokenRun) (call : Nat) (state : TokenCall) : TokenRun := { run with calls := run.calls.insert call state }

def findByHash (run : TokenRun) (tokenHash : String) : Option TokenRow :=
  (run.rows.entries.find? fun entry => entry.2.tokenHash = tokenHash).map fun entry => (entry.1, entry.2)

def lockedBeside (run : TokenRun) (call : Nat) (id : Uuid) : Bool :=
  run.calls.entries.any fun entry => entry.1 ≠ call && entry.2.locks id

/-- Another transaction is inserting the hash; the unique index makes an insert wait for it. -/
def insertsBeside (run : TokenRun) (call : Nat) (tokenHash : String) : Bool :=
  run.calls.entries.any fun entry => entry.1 ≠ call && entry.2.inserts tokenHash

/-- An identifier that is drawn has not been drawn before. -/
def isFresh (run : TokenRun) (id : Uuid) : Bool :=
  (run.rows.lookup id).isNone && run.calls.entries.all fun entry => match entry.2 with
    | .stored _ _ successor => successor.1 ≠ id
    | _ => true

def handleReuse (run : TokenRun) (call : Nat) (familyId : Uuid) : TokenRun :=
  run.put call (.revoking { familyIds := [familyId] } (.reuse familyId))

def issue (settings : TokenSettings) (run : TokenRun) (call : Nat) (token : String) (familyId id subjectId : Uuid)
    (tenantId : Option Uuid) (userAgent ip : Option String) (subjectType : AccessTokenSubjectType) : TokenRun :=
  let row := settings.store run.now token familyId subjectId tenantId userAgent ip subjectType
  if !run.isFresh id || run.rows.rows.any (·.familyId = familyId) || run.insertsBeside call row.tokenHash then run
  else if (run.findByHash row.tokenHash).isSome then run.put call (.finished .failed)
  else { run.put call (.finished (.issued token familyId)) with rows := run.rows.insert id row }

/-- The first statement of `rotate`, which reads the token. -/
def rotate (settings : TokenSettings) (run : TokenRun) (call : Nat) (token : String)
    (expectedSubjectType : AccessTokenSubjectType) : TokenRun :=
  match run.findByHash (settings.hashToken token) with
  | none => run.put call (.finished .unauthorized)
  | some current =>
    if current.2.subjectType ≠ expectedSubjectType then run.put call (.finished .unauthorized)
    else if current.2.revokedAt.isSome then run.handleReuse call current.2.familyId
    else if current.2.expiresAt ≤ run.now then run.put call (.finished .unauthorized)
    else run.put call (.rotating current)

/-- The `SELECT` of `revokeActiveFamilies`. -/
def selectFamilies (run : TokenRun) (call : Nat) (filter : FamilyFilter) : TokenRun :=
  let familyIds := ((run.rows.rows.filter filter.covers).map (·.familyId)).dedup.filter
    fun familyId => filter.exceptFamilyId ≠ some familyId
  if familyIds.isEmpty then run.put call (.finished (.revoked []))
  else run.put call (.revoking { familyIds } (.revoked familyIds))

def revokeRow (now : Int) (rows : Table Uuid RefreshTokenEntity) (id : Uuid) : Table Uuid RefreshTokenEntity :=
  match rows.lookup id with
  | some row => rows.insert id { row with revokedAt := some now }
  | none => rows

def isLive (run : TokenRun) (id : Uuid) : Bool := (run.rows.lookup id).any (·.revokedAt.isNone)

/-- The next part of an `UPDATE`: its snapshot, a row that it locks and tests again, or its commit. -/
def revoke (run : TokenRun) (call : Nat) (update : RevokeUpdate) (result : TokenResult) : TokenRun :=
  match update.pending with
  | none =>
    let matching := run.rows.entries.filter fun entry =>
      update.familyIds.contains entry.2.familyId && entry.2.revokedAt.isNone
    run.put call (.revoking { update with pending := some (matching.map (·.1)) } result)
  | some (id :: pending) =>
    if run.lockedBeside call id then run
    else run.put call (.revoking { update with
      pending := some pending
      locked := if run.isLive id then id :: update.locked else update.locked } result)
  | some [] =>
    { run.put call (.finished result) with rows := update.locked.foldl (revokeRow run.now) run.rows }

def next (settings : TokenSettings) (run : TokenRun) (call : Nat) (id : Uuid) (token : String) : TokenCall → TokenRun
  | .rotating current =>
    if run.lockedBeside call current.1 then run
    else if run.isLive current.1 then run.put call (.claimed current)
    else run.handleReuse call current.2.familyId
  | .claimed current =>
    let successor := settings.store run.now token current.2.familyId current.2.subjectId current.2.tenantId
      current.2.userAgent current.2.ip current.2.subjectType
    if !run.isFresh id || run.insertsBeside call successor.tokenHash then run
    else if (run.findByHash successor.tokenHash).isSome then run.put call (.finished .failed)
    else run.put call (.stored current token (id, successor))
  | .stored current token successor =>
    { run.put call (.finished (.rotated current.1 token current.2.familyId current.2.subjectId current.2.tenantId)) with
      rows := (revokeRow run.now run.rows current.1).insert successor.1 successor.2 }
  | .revoking update result => run.revoke call update result
  | .finished _ => run

def isUnused (run : TokenRun) (call : Nat) : Bool := (run.calls.lookup call).isNone

def step (settings : TokenSettings) (run : TokenRun) : TokenStatement → TokenRun
  | .issue call token familyId id subjectId tenantId userAgent ip subjectType =>
    if run.isUnused call then run.issue settings call token familyId id subjectId tenantId userAgent ip subjectType else run
  | .rotate call token expectedSubjectType =>
    if run.isUnused call then run.rotate settings call token expectedSubjectType else run
  | .revokeFamily call familyId =>
    if run.isUnused call then run.put call (.revoking { familyIds := [familyId] } (.revoked [familyId])) else run
  | .revokeActiveFamilies call filter => if run.isUnused call then run.selectFamilies call filter else run
  | .next call id token => ((run.calls.lookup call).map (run.next settings call id token)).getD run
  | .lose call =>
    match run.calls.lookup call with
    | none | some (.finished _) => run
    | some _ => run.put call (.finished .failed)
  | .tick milliseconds => { run with now := run.now + milliseconds }

end TokenRun

end Platform
