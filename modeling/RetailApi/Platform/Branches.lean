import RetailApi.Base.Transaction
import RetailApi.Platform.RefreshTokens

/-! The branches of one store, statement by statement, under read committed. A call reads its branch before its transaction
begins, and saves it later; the active branches are counted under the lock of the store's row, which only a deactivation and a
removal take. -/

namespace Platform

open Transaction

inductive BranchStatus where
  | active
  | inactive
deriving DecidableEq

structure BranchEntity where
  name : String
  code : String
  address : Option String := none
  phone : Option String := none
  isWarehouse : Bool := true
  status : BranchStatus := .active
  updatedBy : Uuid := 0
  updatedAt : Nat := 0
  deleted : Bool := false
deriving DecidableEq

def BranchEntity.isActive (branch : BranchEntity) : Bool := !branch.deleted && decide (branch.status = .active)

/-- The branch has a code in the unique index, which skips what is deleted. -/
def BranchEntity.holds (code : String) (branch : BranchEntity) : Bool := !branch.deleted && decide (branch.code = code)

structure CreateBranchReqDto where
  name : String
  code : String
  address : Option String := none
  phone : Option String := none
  isWarehouse : Option Bool := none

/-- An address or a phone is cleared by `some none`. -/
structure UpdateBranchReqDto where
  name : Option String := none
  code : Option String := none
  address : Option (Option String) := none
  phone : Option (Option String) := none
  isWarehouse : Option Bool := none
  status : Option BranchStatus := none

structure ServiceBlocker where
  service : String
  code : String
  count : Nat := 1
deriving DecidableEq

inductive BranchError where
  | notFound
  | b001
  | b002
  | b004
  | b005 (reasons : List ServiceBlocker)
  | b007
  | b009 (service : String)
  | q001 (used limit : Nat)
  | connectionLost

def isBranchDeactivating (currentStatus : BranchStatus) (nextStatus : Option BranchStatus) : Bool :=
  currentStatus = .active ∧ nextStatus = some .inactive

/-- What the services answer: every reason of every service, or the service that cannot be asked. -/
abbrev Blockers := Except String (List ServiceBlocker)

def fromServices (blockers : Blockers) : Except BranchError (List ServiceBlocker) := blockers.mapError .b009

def refuseIfAny (reasons : List ServiceBlocker) : Except BranchError Unit := ensure (reasons = []) (.b005 reasons)

def lastActiveReason : ServiceBlocker := { service := "platform", code := "B002" }

def assertCanDeactivate (blockers : Blockers) (lastActive : Bool) : Except BranchError Unit := do
  let reasons ← fromServices blockers
  ensure (lastActive = true → reasons ≠ []) .b002
  refuseIfAny (if lastActive then lastActiveReason :: reasons else reasons)

/-- `stranded`: how many members the branch is the only one of. -/
def assertCanDelete (blockers : Blockers) (stranded : Nat) : Except BranchError Unit := do
  let reasons ← fromServices blockers
  refuseIfAny (reasons ++ if 0 < stranded then [{ service := "platform", code := "PLATFORM_MEMBER_WITHOUT_BRANCH", count := stranded }] else [])

/-- `quotaBranches` of the store's plan; a store without a plan has no limit. -/
def assertCanAdd (quotaBranches : Option Nat) (used : Nat) : Except BranchError Unit :=
  match quotaBranches with
  | none => .ok ()
  | some limit => ensure (used + 1 ≤ limit) (.q001 used limit)

def CreateBranchReqDto.branch (accountId : Uuid) (now : Nat) (dto : CreateBranchReqDto) : BranchEntity where
  name := dto.name
  code := dto.code
  address := dto.address
  phone := dto.phone
  isWarehouse := dto.isWarehouse.getD true
  updatedBy := accountId
  updatedAt := now

/-- What `findOne` finds: it skips the rows that are deleted. -/
abbrev LiveBranch := { branch : BranchEntity // branch.deleted = false }

/-- A branch as `update` read it, with the request. -/
structure BranchSave where
  id : Uuid
  accountId : Uuid
  copy : LiveBranch
  dto : UpdateBranchReqDto

def BranchSave.deactivating (save : BranchSave) : Bool := isBranchDeactivating save.copy.1.status save.dto.status

/-- The entity once the fields that are given are assigned. -/
def BranchSave.branch (save : BranchSave) : BranchEntity :=
  { save.copy.1 with
    name := save.dto.name.getD save.copy.1.name
    address := save.dto.address.getD save.copy.1.address
    phone := save.dto.phone.getD save.copy.1.phone
    isWarehouse := save.dto.isWarehouse.getD save.copy.1.isWarehouse
    status := save.dto.status.getD save.copy.1.status
    updatedBy := save.accountId }

/-- A column is updated if the entity differs in it from the row that the save has read. -/
def savedColumn {α : Type} [DecidableEq α] (before saved current : α) : α := if saved = before then current else saved

/-- `updated_at` is set by the database, unless it is among the columns that differ. -/
def BranchEntity.patched (now : Nat) (before saved current : BranchEntity) : BranchEntity where
  name := savedColumn before.name saved.name current.name
  code := savedColumn before.code saved.code current.code
  address := savedColumn before.address saved.address current.address
  phone := savedColumn before.phone saved.phone current.phone
  isWarehouse := savedColumn before.isWarehouse saved.isWarehouse current.isWarehouse
  status := savedColumn before.status saved.status current.status
  updatedBy := savedColumn before.updatedBy saved.updatedBy current.updatedBy
  updatedAt := savedColumn before.updatedAt saved.updatedAt now
  deleted := savedColumn before.deleted saved.deleted current.deleted

inductive BranchRequest where
  | create (accountId : Uuid) (dto : CreateBranchReqDto)
  | update (accountId id : Uuid) (dto : UpdateBranchReqDto)
  | remove (id : Uuid)

inductive BranchWrite where
  | created (id : Uuid) (branch : BranchEntity)
  | updated (save : BranchSave) (branch : BranchEntity)
  /-- No column of the row that is read again differs from the entity. -/
  | unchanged (save : BranchSave)
  | removed (id : Uuid) (branch : BranchEntity)

def BranchWrite.row : BranchWrite → Option (Uuid × BranchEntity)
  | .created id branch | .removed id branch => some (id, branch)
  | .updated save branch => some (save.id, branch)
  | .unchanged _ => none

def BranchWrite.apply (branches : Table Uuid BranchEntity) (write : BranchWrite) : Table Uuid BranchEntity :=
  match write.row with
  | some (id, branch) => branches.insert id branch
  | none => branches

inductive BranchStage where
  | assertCodeFree (accountId : Uuid) (dto : CreateBranchReqDto)
  | assertCanAdd (accountId : Uuid) (dto : CreateBranchReqDto)
  | insert (accountId : Uuid) (dto : CreateBranchReqDto)
  | find (accountId id : Uuid) (dto : UpdateBranchReqDto)
  | lockTenant (save : BranchSave)
  | assertCanDeactivate (save : BranchSave)
  | reread (save : BranchSave)
  | update (save : BranchSave) (before : BranchEntity)
  | findRemoved (id : Uuid)
  | lockForDelete (id : Uuid)
  | assertCanDelete (id : Uuid)
  | softDelete (id : Uuid)
  | commit (write : BranchWrite)

def BranchRequest.stage : BranchRequest → BranchStage
  | .create accountId dto => .assertCodeFree accountId dto
  | .update accountId id dto => .find accountId id dto
  | .remove id => .findRemoved id

def BranchWrite.locksTenant : BranchWrite → Bool
  | .created _ _ => false
  | .updated save _ | .unchanged save => save.deactivating
  | .removed _ _ => true

namespace BranchStage

def locksTenant : BranchStage → Bool
  | .assertCanDeactivate _ | .assertCanDelete _ | .softDelete _ => true
  | .reread save | .update save _ => save.deactivating
  | .commit write => write.locksTenant
  | _ => false

def locksQuota : BranchStage → Bool
  | .insert _ _ | .commit (.created _ _) => true
  | _ => false

def write : BranchStage → Option (Uuid × BranchEntity)
  | .commit write => write.row
  | _ => none

def locksRow (id : Uuid) (stage : BranchStage) : Bool := stage.write.any fun row => row.1 = id

end BranchStage

inductive BranchCall where
  | running (stage : BranchStage)
  | finished (result : Except BranchError BranchWrite)

def BranchCall.stage : BranchCall → Option BranchStage
  | .running stage => some stage
  | .finished _ => none

/-- What a statement draws, or reads outside the table of branches. -/
structure BranchReads where
  id : Uuid := 0
  now : Nat := 0
  quotaBranches : Option Nat := none
  blockers : Blockers := .ok []
  stranded : Nat := 0

structure BranchRun where
  branches : Table Uuid BranchEntity := ∅
  calls : Table Nat BranchCall := ∅

inductive BranchOutcome where
  | waits
  | fails (error : BranchError)
  | goes (stage : BranchStage)

def BranchOutcome.of (verdict : Except BranchError Unit) (stage : BranchStage) : BranchOutcome :=
  match verdict with
  | .ok _ => .goes stage
  | .error error => .fails error

def activeBranches (branches : Table Uuid BranchEntity) : List Uuid :=
  (branches.entries.filter fun entry => entry.2.isActive).map (·.1)

namespace BranchRun

def anyBeside (run : BranchRun) (call : Nat) (holds : BranchStage → Bool) : Bool :=
  run.calls.entries.any fun entry => decide (entry.1 ≠ call) && entry.2.stage.any holds

def find (run : BranchRun) (id : Uuid) : Option LiveBranch :=
  match run.branches.lookup id with
  | none => none
  | some branch => if live : branch.deleted = false then some ⟨branch, live⟩ else none

/-- A write, not committed yet, of another row that has the code or would have it. -/
def contests (run : BranchRun) (id : Uuid) (code : String) (stage : BranchStage) : Bool :=
  stage.write.any fun row =>
    decide (row.1 ≠ id) && (row.2.holds code || (run.branches.lookup row.1).any (BranchEntity.holds code))

/-- A row is written; for a row that is not deleted, the unique index on the code waits or refuses. -/
def store (run : BranchRun) (call : Nat) (id : Uuid) (branch : BranchEntity) (write : BranchWrite) : BranchOutcome :=
  if branch.deleted then .goes (.commit write)
  else if run.anyBeside call (run.contests id branch.code) then .waits
  else if run.branches.entries.any fun entry => decide (entry.1 ≠ id) && entry.2.holds branch.code then .fails .b001
  else .goes (.commit write)

/-- The next statement of a call that is not at its end. Rows are never removed, so a save finds its row. -/
def statement (run : BranchRun) (call : Nat) (reads : BranchReads) : BranchStage → BranchOutcome
  | .assertCodeFree accountId dto =>
    -- `withDeleted`: a deleted branch still has its code
    if run.branches.entries.any fun entry => entry.2.code = dto.code then .fails .b001 else .goes (.assertCanAdd accountId dto)
  | .assertCanAdd accountId dto =>
    if run.anyBeside call (·.locksQuota) then .waits
    else .of (assertCanAdd reads.quotaBranches (run.branches.entries.filter fun entry => !entry.2.deleted).length)
      (.insert accountId dto)
  | .insert accountId dto =>
    if (run.branches.lookup reads.id).isSome || run.anyBeside call (·.locksRow reads.id) then .waits
    else
      let branch := dto.branch accountId reads.now
      run.store call reads.id branch (.created reads.id branch)
  | .find accountId id dto =>
    match run.find id with
    | none => .fails .notFound
    | some copy =>
      if dto.code.any (· ≠ copy.1.code) then .fails .b007
      else
        let save : BranchSave := { id, accountId, copy, dto }
        .goes (if save.deactivating then .lockTenant save else .reread save)
  | .lockTenant save => if run.anyBeside call (·.locksTenant) then .waits else .goes (.assertCanDeactivate save)
  | .assertCanDeactivate save =>
    .of (assertCanDeactivate reads.blockers ((activeBranches run.branches).length ≤ 1)) (.reread save)
  | .reread save =>
    match run.branches.lookup save.id with
    | none => .waits
    | some before => .goes (if save.branch = before then .commit (.unchanged save) else .update save before)
  | .update save before =>
    if run.anyBeside call (·.locksRow save.id) then .waits
    else match run.branches.lookup save.id with
    | none => .waits
    | some current =>
      let branch := before.patched reads.now save.branch current
      run.store call save.id branch (.updated save branch)
  | .findRemoved id =>
    match run.find id with
    | none => .fails .notFound
    | some branch => if branch.1.status = .inactive then .goes (.lockForDelete id) else .fails .b004
  | .lockForDelete id => if run.anyBeside call (·.locksTenant) then .waits else .goes (.assertCanDelete id)
  | .assertCanDelete id => .of (assertCanDelete reads.blockers reads.stranded) (.softDelete id)
  | .softDelete id =>
    if run.anyBeside call (·.locksRow id) then .waits
    else match run.branches.lookup id with
    | none => .waits
    -- the status is not looked at again
    | some branch => .goes (.commit (.removed id { branch with deleted := true }))
  | .commit _ => .waits

def put (run : BranchRun) (call : Nat) (state : BranchCall) : BranchRun := { run with calls := run.calls.insert call state }

def commit (run : BranchRun) (call : Nat) (write : BranchWrite) : BranchRun :=
  { run.put call (.finished (.ok write)) with branches := write.apply run.branches }

def next (run : BranchRun) (call : Nat) (reads : BranchReads) (stage : BranchStage) : BranchRun :=
  match stage with
  | .commit write => run.commit call write
  | _ =>
    match run.statement call reads stage with
    | .waits => run
    | .fails error => run.put call (.finished (.error error))
    | .goes stage => run.put call (.running stage)

end BranchRun

inductive BranchInput where
  | request (call : Nat) (request : BranchRequest)
  | next (call : Nat) (reads : BranchReads)
  | lose (call : Nat)

def BranchRun.step (run : BranchRun) (input : BranchInput) : BranchRun :=
  match input with
  | .request call request => if (run.calls.lookup call).isSome then run else run.put call (.running request.stage)
  | .next call reads =>
    match run.calls.lookup call with
    | some (.running stage) => run.next call reads stage
    | _ => run
  | .lose call =>
    match run.calls.lookup call with
    | some (.running _) => run.put call (.finished (.error .connectionLost))
    | _ => run

end Platform
