import RetailApi.Catalog.Products

/-! The category tree of the catalog: every request is one transaction. -/

namespace Catalog

open Transaction

inductive CategoryStatus where
  | active | inactive
deriving DecidableEq

/-- A row of `categories`. -/
structure CategoryEntity where
  tenantId : Uuid
  parentId : Option Uuid
  depth : Int
  status : CategoryStatus
deriving DecidableEq

abbrev Categories := Table Uuid CategoryEntity

def maxCategoryDepth : Int := 3

def categoryNotFound (message : String) : Failure := .domain .categoryNotFound message .notFound

def categoryInUse (message : String) : Failure := .domain .categoryInUse message .conflict

def Categories.find (rows : Categories) (tenantId id : Uuid) : Option CategoryEntity :=
  (rows.lookup id).filter fun row => row.tenantId = tenantId

/-- A category with its depth below the root of the query. -/
structure SubtreeRow where
  id : Uuid
  relativeDepth : Int
deriving DecidableEq

def Categories.below (rows : Categories) (tenantId : Uuid) (level : List SubtreeRow) : List SubtreeRow :=
  level.flatMap fun node => (rows.entries.filter fun entry =>
    entry.2.parentId = some node.id ∧ entry.2.tenantId = tenantId).map fun entry => ⟨entry.1, node.relativeDepth + 1⟩

def Categories.descend (rows : Categories) (tenantId : Uuid) : Nat → List SubtreeRow → Option (List SubtreeRow)
  | _, [] => some []
  | 0, _ :: _ => none
  | rounds + 1, level => (rows.descend tenantId rounds (rows.below tenantId level)).map (level ++ ·)

/-- `WITH RECURSIVE subtree`; a query that is not done in more rounds than there are rows goes round in a cycle for ever. -/
def Categories.subtree (rows : Categories) (tenantId id : Uuid) : Option (List SubtreeRow) :=
  rows.descend tenantId (rows.entries.length + maxCategoryDepth.toNat + 1)
    (if (rows.find tenantId id).isSome then [⟨id, 0⟩] else [])

/-- The two updates of `reparent`. -/
def Categories.move (rows : Categories) (id : Uuid) (parentId : Option Uuid) (depth depthDelta : Int) (subtree : List SubtreeRow) :
    Categories :=
  rows.mapRows fun other row =>
    if other = id then { row with parentId, depth }
    else if other ∈ subtree.map (·.id) then { row with depth := row.depth + depthDelta } else row

def Categories.setStatus (rows : Categories) (ids : List Uuid) (status : CategoryStatus) : Categories :=
  rows.mapRows fun id row => if id ∈ ids then { row with status } else row

end Catalog
