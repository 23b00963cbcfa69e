import RetailApi.Base.Run
import RetailApi.Catalog.Categories

/-! The categories of every run are a forest of at most three levels, with its depths and states in order. -/

namespace Catalog

open Transaction Categories List Option Table

def CategoryEntity.Placed (row : CategoryEntity) (rows : Categories) : Prop :=
  match row.parentId with
  | none => row.depth = 1
  | some parentId => ∃ parent, rows.lookup parentId = some parent ∧ parent.tenantId = row.tenantId ∧
      row.depth = parent.depth + 1 ∧ (row.status = .active → parent.status = .active)

/-- Each row fits its own parent; what follows for all its ancestors is `InForest`. -/
structure Categories.Sound (rows : Categories) : Prop where
  placed : ∀ id row, rows.lookup id = some row → row.Placed rows
  bounded : ∀ id row, rows.lookup id = some row → 1 ≤ row.depth ∧ row.depth ≤ maxCategoryDepth

variable {rows after : Categories} {tenantId id other parentId : Uuid} {row parent : CategoryEntity}

namespace CategoryEntity

theorem Placed.top (placed : row.Placed rows) (above : row.parentId = none) : row.depth = 1 := by
  rw [Placed, above] at placed
  exact placed

theorem Placed.below (placed : row.Placed rows) (above : row.parentId = some parentId) :
    ∃ parent, rows.lookup parentId = some parent ∧ parent.tenantId = row.tenantId ∧ row.depth = parent.depth + 1 ∧
      (row.status = .active → parent.status = .active) := by
  rw [Placed, above] at placed
  exact placed

theorem placed_top (above : row.parentId = none) (depth : row.depth = 1) : row.Placed rows := by
  rw [Placed, above]
  exact depth

theorem placed_below (above : row.parentId = some parentId) (found : rows.lookup parentId = some parent)
    (tenant : parent.tenantId = row.tenantId) (depth : row.depth = parent.depth + 1)
    (active : row.status = .active → parent.status = .active) : row.Placed rows := by
  rw [Placed, above]
  exact ⟨parent, found, tenant, depth, active⟩

end CategoryEntity

open CategoryEntity

variable {level result subtree : List SubtreeRow} {rounds : Nat} {above : Option Uuid}

/-- The result of a subtree query: the category and whatever is below it, each with its depth. -/
structure Categories.IsSubtree (rows : Categories) (tenantId id : Uuid) (target : CategoryEntity) (subtree : List SubtreeRow) :
    Prop where
  root : id ∈ subtree.map (·.id)
  stored : ∀ node ∈ subtree, 0 ≤ node.relativeDepth ∧ ∃ row, rows.lookup node.id = some row ∧ row.tenantId = tenantId ∧
    row.depth = target.depth + node.relativeDepth
  rises : ∀ node ∈ subtree, ∀ row, rows.lookup node.id = some row → node.id = id ∨ ∃ parentId ∈ subtree.map (·.id),
    row.parentId = some parentId
  closed : ∀ other row parentId, rows.lookup other = some row → row.parentId = some parentId → row.tenantId = tenantId →
    parentId ∈ subtree.map (·.id) → other ∈ subtree.map (·.id)

theorem Categories.Sound.empty : Sound ∅ :=
  ⟨fun id row found => by simp at found, fun id row found => by simp at found⟩

theorem Categories.Sound.insert (sound : rows.Sound) (fresh : rows.lookup id = none) (placed : row.Placed rows)
    (bounds : 1 ≤ row.depth ∧ row.depth ≤ maxCategoryDepth) : Sound (rows.insert id row) := by
  have kept : ∀ {found : CategoryEntity}, found.Placed rows → found.Placed (rows.insert id row) := by
    intro found placed
    cases above : found.parentId with
    | none => exact placed_top above (placed.top above)
    | some parentId =>
      obtain ⟨parent, parentFound, tenant, depth, active⟩ := placed.below above
      refine placed_below above ?_ tenant depth active
      rw [lookup_insert_if, if_neg]
      · exact parentFound
      · rintro rfl
        cases fresh.symm.trans parentFound
  exact ⟨forall_insert (kept placed) fun other found earlier => kept (sound.placed other found earlier),
    forall_insert bounds sound.bounded⟩

section Move

variable {above : Option Uuid} {depth delta : Int} {subtree : List SubtreeRow} {target : CategoryEntity}

theorem Categories.lookup_move (rows : Categories) (other : Uuid) :
    (rows.move id above depth delta subtree).lookup other = (rows.lookup other).map fun row =>
      if other = id then { row with parentId := above, depth }
      else if other ∈ subtree.map (·.id) then { row with depth := row.depth + delta } else row :=
  lookup_mapRows _ rows other

theorem Categories.lookup_move_root (found : rows.lookup id = some row) :
    (rows.move id above depth delta subtree).lookup id = some { row with parentId := above, depth } := by
  rw [lookup_move, found, map_some, if_pos rfl]

theorem Categories.lookup_move_inside (found : rows.lookup other = some row) (apart : other ≠ id)
    (inside : other ∈ subtree.map (·.id)) :
    (rows.move id above depth delta subtree).lookup other = some { row with depth := row.depth + delta } := by
  rw [lookup_move, found, map_some, if_neg apart, if_pos inside]

theorem Categories.lookup_move_outside (found : rows.lookup other = some row) (apart : other ≠ id)
    (outside : other ∉ subtree.map (·.id)) : (rows.move id above depth delta subtree).lookup other = some row := by
  rw [lookup_move, found, map_some, if_neg apart, if_neg outside]

theorem Categories.Sound.move (sound : rows.Sound) (found : rows.lookup id = some target)
    (subtreeOf : rows.IsSubtree tenantId id target subtree)
    (placed : CategoryEntity.Placed { target with parentId := above, depth } (rows.move id above depth (depth - target.depth) subtree))
    (positive : 1 ≤ depth) (room : ∀ node ∈ subtree, depth + node.relativeDepth ≤ maxCategoryDepth)
    (shallow : depth ≤ maxCategoryDepth) : Sound (rows.move id above depth (depth - target.depth) subtree) := by
  have outside : ∀ {other row}, rows.lookup other = some row → other ≠ id → other ∉ subtree.map (·.id) →
      row.Placed (rows.move id above depth (depth - target.depth) subtree) := by
    intro other row stored apart outside
    cases parentId : row.parentId with
    | none => exact placed_top parentId ((sound.placed other row stored).top parentId)
    | some parentId' =>
      obtain ⟨parent, parentFound, same, step, active⟩ := (sound.placed other row stored).below parentId
      -- a parent inside is of the tenant, and would have the row inside with it
      have parentOutside : parentId' ∉ subtree.map (·.id) := by
        intro inside
        obtain ⟨node, listed, rfl⟩ := mem_map.mp inside
        obtain ⟨-, again, againFound, ours, -⟩ := subtreeOf.stored node listed
        cases parentFound.symm.trans againFound
        exact outside (subtreeOf.closed other row node.id stored parentId (same.symm.trans ours) inside)
      have parentApart : parentId' ≠ id := fun root => parentOutside (root ▸ subtreeOf.root)
      exact placed_below parentId (lookup_move_outside parentFound parentApart parentOutside) same step active
  have inside : ∀ {other row}, rows.lookup other = some row → other ≠ id → other ∈ subtree.map (·.id) →
      CategoryEntity.Placed { row with depth := row.depth + (depth - target.depth) }
        (rows.move id above depth (depth - target.depth) subtree) := by
    intro other row stored apart inside
    obtain ⟨node, listed, rfl⟩ := mem_map.mp inside
    rcases subtreeOf.rises node listed row stored with root | ⟨parentId, parentInside, parentIs⟩
    · exact absurd root apart
    · obtain ⟨parent, parentFound, same, step, active⟩ := (sound.placed node.id row stored).below parentIs
      by_cases root : parentId = id
      · subst root
        cases found.symm.trans parentFound
        exact placed_below parentIs (lookup_move_root found) same (by show _ + _ = depth + 1; omega) active
      · exact placed_below parentIs (lookup_move_inside parentFound root parentInside) same
          (by show _ + _ = parent.depth + _ + 1; omega) active
  constructor
  · intro other row moved
    rw [lookup_move] at moved
    obtain ⟨earlier, stored, rfl⟩ := map_eq_some_iff.mp moved
    by_cases root : other = id
    · subst root
      cases found.symm.trans stored
      rw [if_pos rfl]
      exact placed
    · rw [if_neg root]
      by_cases member : other ∈ subtree.map (·.id)
      · rw [if_pos member]
        exact inside stored root member
      · rw [if_neg member]
        exact outside stored root member
  · intro other row moved
    rw [lookup_move] at moved
    obtain ⟨earlier, stored, rfl⟩ := map_eq_some_iff.mp moved
    by_cases root : other = id
    · rw [if_pos root]
      exact ⟨positive, shallow⟩
    · rw [if_neg root]
      by_cases member : other ∈ subtree.map (·.id)
      · rw [if_pos member]
        obtain ⟨node, listed, rfl⟩ := mem_map.mp member
        obtain ⟨forward, same, sameFound, -, relative⟩ := subtreeOf.stored node listed
        cases stored.symm.trans sameFound
        have := room node listed
        exact ⟨by show 1 ≤ _ + _; omega, by show _ + _ ≤ _; omega⟩
      · rw [if_neg member]
        exact sound.bounded other earlier stored

end Move

section Status

variable {ids : List Uuid} {status : CategoryStatus}

theorem Categories.lookup_setStatus (rows : Categories) (other : Uuid) :
    (rows.setStatus ids status).lookup other =
      (rows.lookup other).map fun row => if other ∈ ids then { row with status } else row :=
  lookup_mapRows _ rows other

theorem Categories.Sound.setStatus (sound : rows.Sound)
    (active : ∀ other row parentId parent, rows.lookup other = some row → row.parentId = some parentId →
      rows.lookup parentId = some parent → (if other ∈ ids then status else row.status) = .active →
      (if parentId ∈ ids then status else parent.status) = .active) : Sound (rows.setStatus ids status) := by
  have fields : ∀ (key : Uuid) (row : CategoryEntity), let changed := if key ∈ ids then { row with status } else row
      changed.parentId = row.parentId ∧ changed.depth = row.depth ∧ changed.tenantId = row.tenantId ∧
        changed.status = if key ∈ ids then status else row.status := by
    intro key row
    by_cases inside : key ∈ ids <;> simp [inside]
  constructor
  · intro other row changed
    rw [lookup_setStatus] at changed
    obtain ⟨earlier, stored, rfl⟩ := map_eq_some_iff.mp changed
    obtain ⟨sameParent, sameDepth, sameTenant, now⟩ := fields other earlier
    rcases eq_none_or_eq_some earlier.parentId with above | ⟨parentId, above⟩
    · exact placed_top (sameParent.trans above) (sameDepth.trans ((sound.placed other earlier stored).top above))
    · obtain ⟨parent, parentFound, tenant, step, -⟩ := (sound.placed other earlier stored).below above
      obtain ⟨-, parentDepth, parentTenant, parentNow⟩ := fields parentId parent
      have found : (rows.setStatus ids status).lookup parentId =
          some (if parentId ∈ ids then { parent with status } else parent) := by
        rw [lookup_setStatus, parentFound, map_some]
      refine placed_below (sameParent.trans above) found (parentTenant.trans (tenant.trans sameTenant.symm)) ?_ ?_
      · rw [sameDepth, parentDepth, step]
      · rw [now, parentNow]
        exact active other earlier parentId parent stored above parentFound
  · intro other row changed
    rw [lookup_setStatus] at changed
    obtain ⟨earlier, stored, rfl⟩ := map_eq_some_iff.mp changed
    rw [(fields other earlier).2.1]
    exact sound.bounded other earlier stored

variable {products : List CategorizedProduct} {target : CategoryEntity}

end Status

end Catalog
