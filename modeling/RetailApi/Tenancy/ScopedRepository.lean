import RetailApi.Base.Table
import RetailApi.Base.Transaction

/-! `TenantScopedRepository`: the data access of an entity with a tenant column, limited to the tenant of the context. The
repository under it evaluates a where object as a conjunction and an array of them as a disjunction. -/

namespace Tenancy

open Transaction

inductive Value where
  | null
  | text (value : String)
  | number (value : Int)
  | date (instant : Int)
deriving DecidableEq

structure Row where
  tenantId : String
  column : String → Value
  deleted : Bool := false

def Row.value (row : Row) (property : String) : Value := if property = "tenantId" then .text row.tenantId else row.column property

/-- What the wrapper asks of an entity's metadata, and what the database fills a new row with. -/
structure Metadata where
  primary : String
  tenantRelations : List String := []
  hasDeleteDate : Bool := true
  /-- Whether an update date or a version is written along with every update. -/
  hasUpdateDate : Bool := true
  defaults : String → Value := fun _ => .null

inductive Failure where
  | tenantMismatch (what : String)
  | notAnObject
  | emptyCriteria
  | duplicateKey
  | notNull
  | missingDeleteDate
  | updateValuesMissing
deriving DecidableEq

/-- The condition on one property of a where object: absent in fact, a value, or an operator. -/
inductive Condition where
  | undefined
  | equals (value : Value)
  | operator (accepts : Value → Bool)

def Condition.accepts : Condition → Value → Bool
  | .undefined, _ => true
  | .equals wanted, value => value = wanted
  | .operator accepts, value => accepts value

/-- `In(values)` -/
def isIn (values : List Value) : Condition := .operator fun value => value ∈ values

/-- `Not(value)`; a null is neither. -/
def isNot (wanted : Value) : Condition := .operator fun value => value ≠ wanted ∧ value ≠ .null

abbrev Where := Table String Condition

def Where.accepts (condition : Where) (row : Row) : Bool := condition.entries.all fun entry => entry.2.accepts (row.value entry.1)

inductive Element where
  | id (value : Value)
  | object (condition : Where)
  | other

inductive Criteria where
  | absent
  | id (value : Value)
  | object (condition : Where)
  | array (elements : List Element)

/-- The properties of an entity to save, or of an update: columns, and relations stored in the tenant column. -/
inductive Related where
  | null
  | object (referenced : Option Value)
  | scalar (value : Value)

structure Properties where
  columns : Table String Value := ∅
  related : Table String Related := ∅

structure FindOptions where
  where' : Criteria := .absent
  withDeleted : Bool := false
  order : Option (Row → Row → Bool) := none
  skip : Nat := 0
  take : Option Nat := none

/-- An entity to save, with the id that it gets where it has none. -/
structure NewEntity where
  properties : Properties
  generated : Value

/-- A caller may repeat the tenant of the context, never name another, nor an operator. -/
def assertSameTenant (value : Option Condition) (tenantId what : String) : Except Failure Unit :=
  match value with
  | none | some .undefined => .ok ()
  | some (.equals given) => ensure (given = .text tenantId) (.tenantMismatch what)
  | some (.operator _) => .error (.tenantMismatch what)

def tenantOnly (tenantId : String) : Where := (∅ : Where).insert "tenantId" (.equals (.text tenantId))

def scopeOne (tenantId : String) (condition : Where) : Except Failure Where := do
  assertSameTenant (condition.lookup "tenantId") tenantId "Query"
  return condition.insert "tenantId" (.equals (.text tenantId))

def scopeElement (tenantId : String) : Element → Except Failure Where
  | .object condition => scopeOne tenantId condition
  | _ => .error .notAnObject

/-- The disjunction that a read is limited to; an empty array is no condition. -/
def scopeWhere (tenantId : String) : Criteria → Except Failure (List Where)
  | .absent | .array [] => .ok [tenantOnly tenantId]
  | .array elements => elements.mapM (scopeElement tenantId)
  | .object condition => return [← scopeOne tenantId condition]
  | .id _ => .error .notAnObject

def select (withDeleted : Bool) (wheres : List Where) (rows : List Row) : List Row :=
  rows.filter fun row => (withDeleted || !row.deleted) && wheres.any (·.accepts row)

/-- `order`, `skip` and `take` -/
def FindOptions.arrange (options : FindOptions) (found : List Row) : List Row :=
  let ordered := match options.order with
    | none => found
    | some before => found.mergeSort before
  let rest := ordered.drop options.skip
  match options.take with
  | none => rest
  | some count => rest.take count

namespace Metadata

variable (metadata : Metadata) (tenantId : String)

/-- `{ ...primaryWhere(condition), tenantId }` -/
def idWhere (condition : Condition) : Where :=
  ((∅ : Where).insert metadata.primary condition).insert "tenantId" (.equals (.text tenantId))

def idsMatching (elements : List Element) (rows : List Row) : Except Failure (Option Where) := do
  let wheres ← elements.mapM (scopeElement tenantId)
  let found := select true wheres rows
  return if found.isEmpty then none else some (metadata.idWhere tenantId (isIn (found.map (·.value metadata.primary))))

def elementId? : Element → Option Value
  | .id value => some value
  | _ => none

/-- The where of a write, or none where an array of conditions matches nothing. -/
def writeWhere (criteria : Criteria) (rows : List Row) : Except Failure (Option Where) :=
  match criteria with
  | .absent | .array [] => .error .emptyCriteria
  | .id value => if value = .text "" then .error .emptyCriteria else .ok (some (metadata.idWhere tenantId (.equals value)))
  | .array elements =>
    if elements.all fun element => (elementId? element).isSome then
      .ok (some (metadata.idWhere tenantId (isIn (elements.filterMap elementId?))))
    else metadata.idsMatching tenantId elements rows
  | .object condition =>
    if condition.entries.isEmpty then .error .emptyCriteria
    else (scopeOne tenantId condition).map some

end Metadata

def Related.isTenant (tenantId : String) : Related → Bool
  | .null => true
  | .object referenced => referenced = some (.text tenantId)
  | .scalar value => value = .text tenantId

def Related.value : Related → Option Value
  | .null => none
  | .object referenced => referenced
  | .scalar value => some value

namespace Metadata

variable (metadata : Metadata)

def assertTenantRelations (values : Properties) (tenantId what : String) : Except Failure Unit :=
  ensure (metadata.tenantRelations.all fun relation => (values.related.lookup relation).all (·.isTenant tenantId))
    (.tenantMismatch what)

/-- What is written to the tenant column: a relation that is stored there comes first. -/
def tenantColumn (values : Properties) : Option Value :=
  (metadata.tenantRelations.filterMap fun relation => (values.related.lookup relation).bind Related.value).head?.or
    (values.columns.lookup "tenantId")

def written (values : Properties) (property : String) : Option Value :=
  if property = "tenantId" then metadata.tenantColumn values else values.columns.lookup property

/-- `getEntityIdMap` -/
def idOf (values : Properties) : Option Value := (metadata.written values metadata.primary).filter (· ≠ .null)

def clears (values : Properties) : Bool :=
  ((metadata.tenantColumn values).isNone && metadata.tenantRelations.any fun relation => (values.related.lookup relation).isSome) ||
    metadata.written values metadata.primary = some .null

def patch (values : Properties) (row : Row) : Row where
  tenantId := match metadata.tenantColumn values with
    | some (.text tenantId) => tenantId
    | _ => row.tenantId
  column := fun property => (values.columns.lookup property).getD (row.column property)
  deleted := row.deleted

def create (values : Properties) (tenantId : String) (id : Value) : Row where
  tenantId := match metadata.tenantColumn values with
    | some (.text tenantId) => tenantId
    | _ => tenantId
  column := fun property =>
    if property = metadata.primary then id else (values.columns.lookup property).getD (metadata.defaults property)

end Metadata

structure Saving where
  saved : List Row := []
  rows : List Row

namespace Metadata

variable (metadata : Metadata) (tenantId : String)

def insert (state : Saving) (values : Properties) (id : Value) : Except Failure Saving := do
  ensure (∀ row ∈ state.rows, row.value metadata.primary ≠ id) .duplicateKey
  let row := metadata.create values tenantId id
  return ⟨state.saved ++ [row], state.rows ++ [row]⟩

/-- One entity: an update of the row with its id, if there was one before, or an insert. -/
def saveOne (before : List Row) (state : Saving) (entity : NewEntity) : Except Failure Saving :=
  match metadata.idOf entity.properties with
  | none => metadata.insert tenantId state entity.properties entity.generated
  | some id =>
    if before.any fun row => row.value metadata.primary = id then
      let rows := state.rows.map fun row => if row.value metadata.primary = id then metadata.patch entity.properties row else row
      .ok ⟨state.saved ++ rows.filter fun row => row.value metadata.primary = id, rows⟩
    else metadata.insert tenantId state entity.properties id

def clashes (condition : Where) (values : Properties) (rows : List Row) : Bool :=
  (metadata.written values metadata.primary).any fun id =>
    decide (1 < (rows.filter condition.accepts).length) ||
      rows.any fun row => !condition.accepts row && decide (row.value metadata.primary = id)

def writesNothing (values : Properties) : Bool :=
  !metadata.hasUpdateDate && values.columns.entries.isEmpty &&
    metadata.tenantRelations.all fun relation => (values.related.lookup relation).isNone

def updateWhere (condition : Where) (values : Properties) (rows : List Row) : Except Failure (Nat × List Row) :=
  if metadata.writesNothing values then .error .updateValuesMissing
  else if (rows.filter condition.accepts).isEmpty then .ok (0, rows)
  else if metadata.clears values then .error .notNull
  else if metadata.clashes condition values rows then .error .duplicateKey
  else .ok ((rows.filter condition.accepts).length,
    rows.map fun row => if condition.accepts row then metadata.patch values row else row)

def softDeleteWhere (condition : Where) (rows : List Row) : Except Failure (Nat × List Row) :=
  if metadata.hasDeleteDate then
    .ok ((rows.filter condition.accepts).length,
      rows.map fun row => if condition.accepts row then { row with deleted := true } else row)
  else .error .missingDeleteDate

def deleteWhere (condition : Where) (rows : List Row) : Except Failure (Nat × List Row) :=
  .ok ((rows.filter condition.accepts).length, rows.filter fun row => !condition.accepts row)

/-- A row with the same id in another tenant must not be overwritten. -/
def assertNoForeignRows (entities : List NewEntity) (rows : List Row) : Except Failure Unit :=
  let ids := entities.filterMap fun entity => metadata.idOf entity.properties
  if ids.isEmpty then .ok ()
  else
    let foreign := select true (ids.map fun id =>
      ((∅ : Where).insert metadata.primary (.equals id)).insert "tenantId" (isNot (.text tenantId))) rows
    ensure ((foreign.take 1).isEmpty = true) (.tenantMismatch "Entity id")

def assertTenant (values : Properties) (what : String) : Except Failure Unit := do
  assertSameTenant ((values.columns.lookup "tenantId").map .equals) tenantId what
  metadata.assertTenantRelations values tenantId what

end Metadata

/-- `entity.tenantId = tenantId` -/
def NewEntity.owned (tenantId : String) (entity : NewEntity) : NewEntity :=
  { entity with properties := { entity.properties with columns := entity.properties.columns.insert "tenantId" (.text tenantId) } }

inductive Call where
  | find (options : FindOptions)
  | findOne (options : FindOptions)
  | findOneBy (condition : Criteria)
  | count (options : FindOptions)
  | exist (options : FindOptions)
  | findAndCount (options : FindOptions)
  | save (entities : List NewEntity)
  | update (criteria : Criteria) (values : Properties)
  | softDelete (criteria : Criteria)
  | delete (criteria : Criteria)

inductive Answer where
  | rows (found : List Row)
  | row (found : Option Row)
  | number (count : Nat)
  | truth (value : Bool)
  | page (found : List Row) (total : Nat)
  | affected (count : Nat)

def Answer.handed : Answer → List Row
  | .rows found | .page found _ => found
  | .row found => found.toList
  | .number _ | .truth _ | .affected _ => []

namespace Metadata

variable (metadata : Metadata) (tenantId : String)

def read (criteria : Criteria) (withDeleted : Bool) (answer : List Row → Answer) (rows : List Row) :
    Except Failure (Answer × List Row) := do
  let wheres ← scopeWhere tenantId criteria
  return (answer (select withDeleted wheres rows), rows)

def save (entities : List NewEntity) (rows : List Row) : Except Failure (Answer × List Row) := do
  entities.forM fun entity => metadata.assertTenant tenantId entity.properties "Entity"
  metadata.assertNoForeignRows tenantId entities rows
  let state ← (entities.map (NewEntity.owned tenantId)).foldlM (metadata.saveOne tenantId rows) { rows }
  return (.rows state.saved, state.rows)

def write (criteria : Criteria) (go : Where → List Row → Except Failure (Nat × List Row)) (rows : List Row) :
    Except Failure (Answer × List Row) := do
  let condition ← metadata.writeWhere tenantId criteria rows
  let (count, after) ← condition.elim (.ok (0, rows)) fun condition => go condition rows
  return (.affected count, after)

def update (criteria : Criteria) (values : Properties) (rows : List Row) : Except Failure (Answer × List Row) := do
  metadata.assertTenant tenantId values "Update"
  metadata.write tenantId criteria (fun condition => metadata.updateWhere condition values) rows

/-- A call in the context of a tenant: its answer, and the rows after it. -/
def perform (call : Call) (rows : List Row) : Except Failure (Answer × List Row) :=
  match call with
  | .find options => read tenantId options.where' options.withDeleted (fun found => .rows (options.arrange found)) rows
  | .findOne options => read tenantId options.where' options.withDeleted (fun found => .row (options.arrange found).head?) rows
  | .findOneBy condition => read tenantId condition false (fun found => .row found.head?) rows
  | .count options => read tenantId options.where' options.withDeleted (fun found => .number found.length) rows
  -- Like a count, it leaves out the order and the page.
  | .exist options => read tenantId options.where' options.withDeleted (fun found => .truth !found.isEmpty) rows
  | .findAndCount options =>
    read tenantId options.where' options.withDeleted (fun found => .page (options.arrange found) found.length) rows
  | .save entities => metadata.save tenantId entities rows
  | .update criteria values => metadata.update tenantId criteria values rows
  | .softDelete criteria => metadata.write tenantId criteria metadata.softDeleteWhere rows
  | .delete criteria => metadata.write tenantId criteria deleteWhere rows

end Metadata

end Tenancy
