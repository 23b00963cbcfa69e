import RetailApi.Base.Run
import RetailApi.Inventory.Branches

/-! The default warehouse of a branch. No branch ever has two; an active branch always has one, and it
is active. Every change of a warehouse is one write of its row, with room made for it where it becomes
the default. -/

namespace Inventory

open Transaction Warehouse Option List Table BranchDb

def defaultRow (warehouses : Table Uuid Warehouse) (branchId id : Uuid) : Option Warehouse :=
  (warehouses.lookup id).filter fun row => row.isDefault && row.isOf branchId

structure Sound (warehouses : Table Uuid Warehouse) (branchId : Uuid) (active : Bool) : Prop where
  single : ∀ first second row other, defaultRow warehouses branchId first = some row →
    defaultRow warehouses branchId second = some other → first = second
  usable : active = true → ∃ id row, defaultRow warehouses branchId id = some row ∧ row.status = .active

structure DefaultsKept (db : BranchDb) : Prop where
  sound : ∀ branchId, Sound db.store.warehouses branchId (db.isActive branchId)
  /-- Only `BRANCH` warehouses are defaults. -/
  ofBranch : ∀ id row, db.store.warehouses.lookup id = some row → row.isDefault = true →
    ∃ branchId, row.isOf branchId = true

section Rows

variable {warehouses changed : Table Uuid Warehouse} {branchId id : Uuid} {row : Warehouse} {active : Bool}

theorem defaultRow_eq_some {other} : defaultRow warehouses branchId id = some other ↔
    warehouses.lookup id = some other ∧ other.isDefault = true ∧ other.isOf branchId = true := by
  rw [defaultRow, filter_eq_some_iff, Bool.and_eq_true]

theorem defaultRow_insert (other : Uuid) : defaultRow (warehouses.insert id row) branchId other =
    if other = id then (if row.isDefault && row.isOf branchId then some row else none)
    else defaultRow warehouses branchId other := by
  unfold defaultRow
  rw [lookup_insert_if]
  split
  · rfl
  · rfl

theorem isOf_inj {first second} (left : row.isOf first = true) (right : row.isOf second = true) : first = second := by
  simp only [isOf, decide_eq_true_eq] at left right
  rw [left.2] at right
  exact some.inj right.2

theorem defaultRow_clear_same {except} (different : id ≠ except) :
    defaultRow (clearDefaults warehouses branchId except) branchId id = none := by
  rw [defaultRow, clearDefaults, lookup_mapRows]
  cases warehouses.lookup id with
  | none => rfl
  | some row =>
    rw [map_some, filter_eq_none_iff]
    intro kept same passed
    cases same
    rw [Bool.and_eq_true] at passed
    by_cases cleared : row.isOf branchId = true ∧ id ≠ except ∧ row.isDefault = true
    · rw [if_pos cleared] at passed
      cases passed.1
    · rw [if_neg cleared] at passed
      exact cleared ⟨passed.2, different, passed.1⟩

theorem defaultRow_clear_other {cleared except} (apart : branchId ≠ cleared) :
    defaultRow (clearDefaults warehouses cleared except) branchId id = defaultRow warehouses branchId id := by
  rw [defaultRow, defaultRow, clearDefaults, lookup_mapRows]
  cases warehouses.lookup id with
  | none => rfl
  | some row =>
    rw [map_some]
    split
    · next hit =>
      have elsewhere : row.isOf branchId = false := by
        by_contra mine
        exact apart (isOf_inj (Bool.not_eq_false _ ▸ mine) hit.1)
      have still : ({ row with isDefault := false } : Warehouse).isOf branchId = false := elsewhere
      rw [filter_some, filter_some, still, elsewhere, Bool.and_false, Bool.and_false]
      rfl
    · rfl

theorem Sound.congr (sound : Sound warehouses branchId active)
    (same : ∀ id, defaultRow changed branchId id = defaultRow warehouses branchId id) : Sound changed branchId active := by
  refine ⟨fun first second row other left right => ?_, fun live => ?_⟩
  · rw [same] at left right
    exact sound.single first second row other left right
  · obtain ⟨id, row, found, usable⟩ := sound.usable live
    exact ⟨id, row, (same id).trans found, usable⟩

theorem Sound.only (found : defaultRow warehouses branchId id = some row) (usable : row.status = .active)
    (others : ∀ other, other ≠ id → defaultRow warehouses branchId other = none) : Sound warehouses branchId active := by
  have mine : ∀ other known, defaultRow warehouses branchId other = some known → other = id := by
    intro other known stored
    by_contra different
    rw [others other different] at stored
    cases stored
  refine ⟨fun first second _ _ left right => ?_, fun _ => ⟨id, row, found, usable⟩⟩
  rw [mine first _ left, mine second _ right]

theorem Sound.fewer (sound : Sound warehouses branchId active)
    (kept : ∀ id row, defaultRow changed branchId id = some row → ∃ old, defaultRow warehouses branchId id = some old) :
    Sound changed branchId false := by
  refine ⟨fun first second row other left right => ?_, fun live => nomatch live⟩
  obtain ⟨_, former⟩ := kept first row left
  obtain ⟨_, latter⟩ := kept second other right
  exact sound.single first second _ _ former latter

end Rows

section Writes

variable {db after : BranchDb} {branchId id : Uuid} {row : Warehouse}

variable {warehouses : Table Uuid Warehouse} {target : Option Uuid} {except warehouseId : Uuid} {existing : Warehouse} {aim : Aim}
  {checked : Unit}

theorem defaultRow_makeRoom {isDefault} (elsewhere : isDefault = true → target ≠ some branchId) :
    defaultRow (makeRoom warehouses target isDefault except) branchId id = defaultRow warehouses branchId id := by
  unfold makeRoom
  cases target with
  | none => rfl
  | some cleared =>
    dsimp only
    split
    · next chosen =>
      apply defaultRow_clear_other
      intro same
      exact elsewhere chosen (congrArg some same.symm)
    · rfl

theorem lookup_makeRoom {isDefault}
    (found : (makeRoom warehouses target isDefault except).lookup id = some row) (chosen : row.isDefault = true) :
    warehouses.lookup id = some row := by
  unfold makeRoom at found
  split at found
  · exact found
  split at found
  · rw [clearDefaults, lookup_mapRows] at found
    obtain ⟨old, stored, same⟩ := map_eq_some_iff.mp found
    split at same
    · rw [← same] at chosen
      cases chosen
    · rwa [← same]
  · exact found

/-- The row of a warehouse that is written with room made for it. A default is active and of a branch, and a warehouse that
is the default of an active branch stays it. -/
theorem DefaultsKept.put (kept : DefaultsKept db) (id : Uuid) (row : Warehouse)
    (proper : row.isDefault = true → row.status = .active ∧ ∃ branchId, row.isOf branchId = true)
    (stays : ∀ branchId old, defaultRow db.store.warehouses branchId id = some old → db.isActive branchId = true →
      row.isDefault = true ∧ row.isOf branchId = true) :
    DefaultsKept (db.setWarehouses ((makeRoom db.store.warehouses row.branchId row.isDefault id).insert id row)) := by
  refine ⟨fun branchId => ?_, fun other known stored chosen => ?_⟩
  · by_cases mine : row.isDefault = true ∧ row.isOf branchId = true
    · -- the branch whose default it becomes
      have target : row.branchId = some branchId := by
        have own := mine.2
        simp only [isOf, decide_eq_true_eq] at own
        exact own.2
      have placed := defaultRow_eq_some.mpr ⟨lookup_insert_self (makeRoom db.store.warehouses row.branchId
        row.isDefault id) id row, mine⟩
      refine Sound.only placed (proper mine.1).1 fun other different => ?_
      dsimp only [setWarehouses]
      rw [defaultRow_insert, if_neg different, target]
      simp only [makeRoom, mine.1, if_true]
      exact defaultRow_clear_same different
    · have elsewhere : row.isDefault = true → row.branchId ≠ some branchId := by
        intro chosen same
        obtain ⟨_, home, own⟩ := proper chosen
        simp only [isOf, decide_eq_true_eq] at own
        rw [same] at own
        cases own.2
        exact mine ⟨chosen, by simp [isOf, own.1, same]⟩
      have gone : (row.isDefault && row.isOf branchId) = false := by
        simpa using mine
      by_cases former : ∃ old, defaultRow db.store.warehouses branchId id = some old
      · -- it was the default of a branch that is not active
        obtain ⟨old, was⟩ := former
        have inactive : db.isActive branchId = false := by
          by_contra live
          exact mine (stays branchId old was (Bool.not_eq_false _ ▸ live))
        change Sound _ branchId (db.isActive branchId)
        rw [inactive]
        refine (kept.sound branchId).fewer fun other known stored => ?_
        simp only [setWarehouses, defaultRow_insert, gone] at stored
        split at stored
        · cases stored
        · rw [defaultRow_makeRoom elsewhere] at stored
          exact ⟨known, stored⟩
      · refine (kept.sound branchId).congr fun other => ?_
        simp only [setWarehouses, defaultRow_insert, gone]
        split
        · next same =>
          subst same
          exact (eq_none_iff_forall_ne_some.mpr fun old was => former ⟨old, was⟩).symm
        · exact defaultRow_makeRoom elsewhere
  · rcases of_lookup_insert stored with ⟨-, rfl⟩ | ⟨-, before⟩
    · exact (proper chosen).2
    · exact kept.ofBranch other known (lookup_makeRoom before chosen) chosen

theorem branchOfNew_ok {dto} (found : branchOfNew db dto = .ok target) :
    dto.kind = .branch ∧ (∃ branchId, target = some branchId) ∨ target = none := by
  unfold branchOfNew at found
  split at found
  · cases found
  · next kind _ =>
    simp only [eq_ok] at found
    obtain ⟨branchId, _, _, _, rfl⟩ := found
    exact .inl ⟨kind, branchId, rfl⟩
  · cases found
  · cases found
    exact .inr rfl

theorem createWarehouse_kept {now dto}
    (ran : createWarehouse db now warehouseId dto = .ok after) (kept : DefaultsKept db) : DefaultsKept after := by
  simp only [createWarehouse, eq_ok] at ran
  obtain ⟨code, _, target, found, _, _, _, _, _, absent, rfl⟩ := ran
  have placed := kept.put warehouseId
    { code, kind := dto.kind, branchId := target, isDefault := newIsDefault db.store target dto.isDefault, status := .active }
    (fun chosen => by
      refine ⟨rfl, ?_⟩
      rcases branchOfNew_ok found with ⟨kind, branchId, rfl⟩ | rfl
      · exact ⟨branchId, by simp [isOf, kind]⟩
      · cases chosen)
    (fun branchId old was => by
      have stored := (defaultRow_eq_some.mp was).1
      rw [absent] at stored
      cases stored)
  exact ⟨placed.sound, placed.ofBranch⟩

theorem default_stays (moved : checkMove db id existing aim target = .ok checked)
    (isDefault : existing.isDefault = true) (kind : existing.kind = .branch) :
    aim.kindChanged = false ∧ aim.branchChanged = false := by
  have fixed : ¬(aim.kindChanged = true ∨ aim.branchChanged = true) := by
    intro changes
    unfold checkMove at moved
    rw [if_pos changes] at moved
    simp only [isDefault, kind, and_self, if_true] at moved
    rw [if_pos (by simp)] at moved
    cases moved
  constructor
  · exact Bool.eq_false_iff.mpr fun changed => fixed (.inl changed)
  · exact Bool.eq_false_iff.mpr fun changed => fixed (.inr changed)

theorem defaultAfter_ok {requested} (settled : defaultAfter db id existing aim target requested = .ok true) :
    aim.status = .active ∧ aim.kind = .branch ∧ ∃ branchId, target = some branchId := by
  cases kind : aim.kind with
  | central | quarantine =>
    simp only [defaultAfter, kind] at settled
    cases settled
  | branch =>
    cases target with
    | none =>
      simp only [defaultAfter, kind] at settled
      cases settled
    | some branchId =>
      simp only [defaultAfter, kind, settleDefault, eq_ok] at settled
      obtain ⟨_, _, _, usable, chosen⟩ := settled
      refine ⟨?_, rfl, branchId, rfl⟩
      by_contra inactive
      exact usable ⟨chosen, inactive⟩

theorem default_columns {dto} (parsed : (aimOf existing dto).branch = .ok target)
    (moved : checkMove db id existing (aimOf existing dto) target = .ok checked) (isDefault : existing.isDefault = true)
    (own : existing.isOf branchId = true) :
    (aimOf existing dto).branchChanged = false ∧ (aimOf existing dto).kind = .branch ∧ target = some branchId := by
  simp only [isOf, decide_eq_true_eq] at own
  obtain ⟨sameKind, sameBranch⟩ := default_stays moved isDefault own.1
  refine ⟨sameBranch, ?_, ?_⟩
  · simp only [aimOf, decide_eq_false_iff_not, not_not] at sameKind ⊢
    rw [sameKind, own.1]
  · have spelled : (aimOf existing dto).branchId = some (Text.ofUuid branchId) := by
      simp only [aimOf, decide_eq_false_iff_not, not_not] at sameBranch ⊢
      rw [sameBranch, own.2]
      rfl
    rw [Aim.branch, spelled] at parsed
    simp only [Text.toUuid_ofUuid, eq_ok] at parsed
    obtain ⟨_, same, rfl⟩ := parsed
    cases same
    rfl

theorem DefaultsKept.status (kept : DefaultsKept db) (live : db.isActive branchId = true)
    (isDefault : defaultRow db.store.warehouses branchId id = some row) : row.status = .active := by
  obtain ⟨other, usableRow, found, usable⟩ := (kept.sound branchId).usable live
  have same := (kept.sound branchId).single id other row usableRow isDefault found
  rw [same, found] at isDefault
  cases isDefault
  exact usable

theorem default_status (deactivates : checkDeactivation db id existing aim = .ok checked) (live : db.isActive branchId = true)
    (isDefault : existing.isDefault = true) (own : existing.isOf branchId = true) (usable : existing.status = .active) :
    aim.status = .active := by
  simp only [isOf, decide_eq_true_eq] at own
  cases aimed : aim.status with
  | active => rfl
  | inactive =>
    unfold checkDeactivation at deactivates
    rw [if_pos ⟨aimed, by rw [usable]; nofun⟩] at deactivates
    simp only [eq_ok] at deactivates
    obtain ⟨_, _, refused⟩ := deactivates
    exact absurd ⟨isDefault, own.1, by rw [own.2]; exact live⟩ refused

theorem updateWarehouse_kept {dto}
    (ran : updateWarehouse db warehouseId dto = .ok after) (kept : DefaultsKept db) : DefaultsKept after := by
  simp only [updateWarehouse, eq_ok] at ran
  obtain ⟨existing, found, _, _, target, parsed, _, moved, _, deactivates, isDefault, settled, rfl⟩ := ran
  refine kept.put warehouseId
    { existing with kind := (aimOf existing dto).kind, branchId := target, isDefault, status := (aimOf existing dto).status }
    (fun chosen => ?_) (fun branchId old was live => ?_)
  · have chosen : isDefault = true := chosen
    subst chosen
    obtain ⟨usable, kind, branchId, rfl⟩ := defaultAfter_ok settled
    exact ⟨usable, branchId, by simp [isOf, kind]⟩
  · -- the default of an active branch: neither moved nor switched off, so it is the default still
    obtain ⟨stored, wasDefault, own⟩ := defaultRow_eq_some.mp was
    cases found.symm.trans stored
    obtain ⟨sameBranch, kind, rfl⟩ := default_columns parsed moved wasDefault own
    have status := default_status deactivates live wasDefault own (kept.status live was)
    simp only [defaultAfter, kind, settleDefault, eq_ok] at settled
    obtain ⟨_, _, _, _, rfl⟩ := settled
    refine ⟨?_, by simp [isOf, kind]⟩
    rw [nextIsDefault, if_pos (.inr ⟨wasDefault, sameBranch, status⟩)]

end Writes

theorem head_insertionSort_marked {α : Type*} {before} [DecidableRel before] (marked : α → Bool)
    (front : ∀ left right, marked left = true → marked right = false → before left right)
    (back : ∀ left right, marked left = false → marked right = true → ¬before left right) (items : List α)
    {first} (head : (items.insertionSort before).head? = some first) {item} (listed : item ∈ items)
    (hit : marked item = true) : marked first = true := by
  induction items generalizing first item with
  | nil => cases listed
  | cons next items inner =>
    rw [insertionSort_cons] at head
    cases sorted : items.insertionSort before with
    | nil =>
      have none : items = [] := by simpa using congrArg length sorted
      rw [sorted] at head
      cases head
      rw [none, mem_singleton] at listed
      rw [← listed, hit]
    | cons leader rest =>
      rw [sorted, orderedInsert_cons] at head
      have leads : (items.insertionSort before).head? = some leader := by rw [sorted]; rfl
      by_cases ahead : before next leader
      · rw [if_pos ahead] at head
        cases head
        by_contra plain
        have plain : marked next = false := by simpa using plain
        have later : item ∈ items := (mem_cons.mp listed).resolve_left fun same => by
          rw [← same, hit] at plain
          cases plain
        exact back next leader plain (inner leads later hit) ahead
      · rw [if_neg ahead, head?_cons, some.injEq] at head
        rw [← head]
        by_contra plain
        have plain : marked leader = false := by simpa using plain
        rcases mem_cons.mp listed with rfl | later
        · exact ahead (front _ _ hit plain)
        · rw [inner leads later hit] at plain
          cases plain

section Events

variable {db after : BranchDb} {branchId id : Uuid} {branch : BranchEventPayload}

theorem isActive_saveProjection (branchId : Uuid) : (db.saveProjection branch).isActive branchId =
    if branchId = branch.id then decide (branch.status = .active) else db.isActive branchId := by
  unfold isActive saveProjection
  rw [lookup_insert_if]
  split
  · rfl
  · rfl

variable {row : Warehouse} {now : Nat} {freshId : Uuid}

theorem mem_branchWarehouses : (id, row) ∈ branchWarehouses db branchId ↔
    db.store.warehouses.lookup id = some row ∧ row.isOf branchId = true := by
  rw [branchWarehouses, List.mem_insertionSort, List.mem_map]
  constructor
  · intro ⟨entry, listed, same⟩
    cases same
    rw [List.mem_filter] at listed
    exact ⟨AList.mem_lookup_iff.mpr listed.1, listed.2⟩
  · intro ⟨found, own⟩
    exact ⟨⟨id, row⟩, List.mem_filter.mpr ⟨AList.mem_lookup_iff.mp found, own⟩, rfl⟩

theorem front_of_comesFirst {createdAt} {left right} (marked : left.2.isDefault = true)
    (plain : right.2.isDefault = false) : comesFirst createdAt left right = true ∧ comesFirst createdAt right left = false := by
  constructor
  · rw [comesFirst, if_pos (by rw [marked, plain]; nofun)]
    exact marked
  · rw [comesFirst, if_pos (by rw [marked, plain]; nofun)]
    exact plain

theorem head_branchWarehouses {chosen other} (head : (branchWarehouses db branchId).head? = some (chosen, row))
    (stored : defaultRow db.store.warehouses branchId id = some other) : row.isDefault = true := by
  obtain ⟨found, marked, own⟩ := defaultRow_eq_some.mp stored
  have listed : (id, other) ∈ branchWarehouses db branchId := mem_branchWarehouses.mpr ⟨found, own⟩
  rw [branchWarehouses, mem_insertionSort] at listed
  refine head_insertionSort_marked (fun entry : Uuid × Warehouse => entry.2.isDefault) ?_ ?_ _ head listed marked
  · intro left right ahead behind
    exact (front_of_comesFirst ahead behind).1
  · intro left right behind ahead
    rw [(front_of_comesFirst ahead behind).2]
    nofun

theorem DefaultsKept.place (branchId id : Uuid) (row : Warehouse)
    (sound : ∀ other, other ≠ branchId → Sound db.store.warehouses other (db.isActive other))
    (ofBranch : ∀ id row, db.store.warehouses.lookup id = some row → row.isDefault = true → ∃ home, row.isOf home = true)
    (marked : row.isDefault = true) (own : row.isOf branchId = true) (usable : row.status = .active)
    (others : ∀ other, other ≠ id → defaultRow db.store.warehouses branchId other = none)
    (former : ∀ other, other ≠ branchId → defaultRow db.store.warehouses other id = none) :
    DefaultsKept (db.setWarehouses (db.store.warehouses.insert id row)) := by
  refine ⟨fun other => ?_, fun known found stored chosen => ?_⟩
  · by_cases same : other = branchId
    · subst same
      apply Sound.only (defaultRow_eq_some.mpr ⟨lookup_insert_self _ id row, marked, own⟩) usable
      intro another different
      rw [defaultRow_insert, if_neg different]
      exact others another different
    · refine (sound other same).congr fun another => ?_
      dsimp only [setWarehouses]
      rw [defaultRow_insert]
      split
      · next hit =>
        have elsewhere : row.isOf other = false := by
          by_contra mine
          exact same (isOf_inj (Bool.not_eq_false _ ▸ mine) own)
        rw [elsewhere, hit, former other same, Bool.and_false]
        rfl
      · rfl
  · rcases of_lookup_insert stored with ⟨-, rfl⟩ | ⟨-, before⟩
    · exact ⟨branchId, own⟩
    · exact ofBranch known found before chosen

theorem insertDefaultWarehouse_kept (kept : DefaultsKept db) (none : (branchWarehouses db branch.id).head? = none)
    (ran : insertDefaultWarehouse (db.saveProjection branch) now freshId branch = .ok after) : DefaultsKept after := by
  simp only [insertDefaultWarehouse, eq_ok] at ran
  obtain ⟨code, _, _, absent, rfl⟩ := ran
  rw [head?_eq_none_iff] at none
  have bare : ∀ other, defaultRow db.store.warehouses branch.id other = .none := by
    intro other
    refine eq_none_iff_forall_ne_some.mpr fun row stored => ?_
    obtain ⟨found, _, own⟩ := defaultRow_eq_some.mp stored
    have listed := mem_branchWarehouses.mpr ⟨found, own⟩
    rw [none] at listed
    cases listed
  have placed : DefaultsKept ((db.saveProjection branch).setWarehouses (db.store.warehouses.insert freshId
      { code, kind := .branch, branchId := some branch.id, isDefault := true, status := .active })) := by
    apply DefaultsKept.place branch.id
    · intro other apart
      rw [isActive_saveProjection, if_neg apart]
      exact kept.sound other
    · exact kept.ofBranch
    · rfl
    · simp [isOf]
    · rfl
    · exact fun other _ => bare other
    · intro other _
      rw [defaultRow, absent]
      rfl
  exact ⟨placed.sound, placed.ofBranch⟩

theorem ensureDefaultBranchWarehouse_kept (kept : DefaultsKept db)
    (ran : ensureDefaultBranchWarehouse (db.saveProjection branch) now freshId branch (!db.isActive branch.id) = .ok after) :
    DefaultsKept after := by
  unfold ensureDefaultBranchWarehouse at ran
  have elsewhere : ∀ other, other ≠ branch.id →
      Sound (db.saveProjection branch).store.warehouses other ((db.saveProjection branch).isActive other) := by
    intro other apart
    rw [isActive_saveProjection, if_neg apart]
    exact kept.sound other
  split at ran
  · next chosen row head =>
    have listed := mem_of_mem_head? head
    obtain ⟨found, own⟩ := mem_branchWarehouses.mp listed
    split at ran
    · cases ran
      apply DefaultsKept.place branch.id chosen { row with isDefault := true, status := .active } elsewhere kept.ofBranch rfl own rfl
      · -- the first one is the default wherever the branch has one
        intro other different
        refine eq_none_iff_forall_ne_some.mpr fun known stored => ?_
        have marked := head_branchWarehouses head stored
        have mine := defaultRow_eq_some.mpr ⟨found, marked, own⟩
        exact different ((kept.sound branch.id).single other chosen known row stored mine)
      · intro other apart
        refine eq_none_iff_forall_ne_some.mpr fun known stored => ?_
        obtain ⟨same, _, its⟩ := defaultRow_eq_some.mp stored
        cases found.symm.trans same
        exact apart (isOf_inj its own)
    · next settled =>
      cases ran
      rw [not_or, Bool.not_eq_false, not_and, not_not] at settled
      refine ⟨fun other => ?_, kept.ofBranch⟩
      by_cases apart : other = branch.id
      · subst apart
        refine ⟨(kept.sound branch.id).single, fun _ => ?_⟩
        by_cases live : db.isActive branch.id = true
        · exact (kept.sound branch.id).usable live
        · exact ⟨chosen, row, defaultRow_eq_some.mpr ⟨found, settled.1, own⟩, settled.2 (by simpa using live)⟩
      · exact elsewhere other apart
  · next head => exact insertDefaultWarehouse_kept kept head ran

theorem defaultRow_mapRows {warehouses} {change}
    (columns : ∀ id row, (change id row).isDefault = row.isDefault ∧ (change id row).isOf branchId = row.isOf branchId) :
    defaultRow (warehouses.mapRows change) branchId id = (defaultRow warehouses branchId id).map (change id) := by
  rw [defaultRow, defaultRow, lookup_mapRows]
  cases warehouses.lookup id with
  | none => rfl
  | some row =>
    rw [map_some, filter_some, filter_some, (columns id row).1, (columns id row).2]
    split
    · rfl
    · rfl

theorem idleOff_columns {store} (home : Uuid) (row : Warehouse) :
    (idleOff store branchId id row).isDefault = row.isDefault ∧ (idleOff store branchId id row).isOf home = row.isOf home := by
  unfold idleOff
  split
  · exact ⟨rfl, rfl⟩
  · exact ⟨rfl, rfl⟩

theorem idleOff_other {store home} (own : row.isOf home = true) (apart : home ≠ branchId) :
    idleOff store branchId id row = row := by
  rw [idleOff, if_neg]
  intro hit
  exact apart (isOf_inj own hit.1)

theorem deactivateEmptyBranchWarehouses_kept (kept : DefaultsKept db) (off : branch.status = .inactive) :
    DefaultsKept (deactivateEmptyBranchWarehouses (db.saveProjection branch) branch.id) := by
  refine ⟨fun home => ?_, fun id row found marked => ?_⟩
  · change Sound (db.store.warehouses.mapRows (idleOff db.store branch.id)) home ((db.saveProjection branch).isActive home)
    have rows : ∀ id, defaultRow (db.store.warehouses.mapRows (idleOff db.store branch.id)) home id =
        (defaultRow db.store.warehouses home id).map (idleOff db.store branch.id id) :=
      fun id => defaultRow_mapRows fun _ row => idleOff_columns home row
    rw [isActive_saveProjection]
    by_cases own : home = branch.id
    · rw [if_pos own, off]
      refine (kept.sound home).fewer fun id row stored => ?_
      rw [rows] at stored
      obtain ⟨old, was, _⟩ := map_eq_some_iff.mp stored
      exact ⟨old, was⟩
    · rw [if_neg own]
      refine (kept.sound home).congr fun id => ?_
      rw [rows]
      cases stored : defaultRow db.store.warehouses home id with
      | none => rfl
      | some row => rw [map_some, idleOff_other (defaultRow_eq_some.mp stored).2.2 own]
  · dsimp only [deactivateEmptyBranchWarehouses, setWarehouses] at found
    rw [lookup_mapRows] at found
    obtain ⟨old, was, rfl⟩ := map_eq_some_iff.mp found
    rw [(idleOff_columns branch.id old).1] at marked
    obtain ⟨home, own⟩ := kept.ofBranch id old was marked
    exact ⟨home, (idleOff_columns home old).2.trans own⟩

theorem applyBranchEvent_kept (kept : DefaultsKept db)
    (ran : applyBranchEvent db now freshId branch = .ok after) : DefaultsKept after := by
  unfold applyBranchEvent at ran
  split at ran
  · cases ran
    exact kept
  split at ran
  · exact ensureDefaultBranchWarehouse_kept kept ran
  · next off =>
    cases ran
    exact deactivateEmptyBranchWarehouses_kept kept off

theorem performBranch_kept (input : BranchInput) (kept : DefaultsKept db) : DefaultsKept (performBranch db input) := by
  cases input with
  | event eventId branch now freshId =>
    by_cases seen : eventId ∈ db.inbox
    · rwa [performBranch, handleBranchEvent, if_pos seen]
    rw [performBranch, handleBranchEvent, if_neg seen]
    have noted : DefaultsKept { db with inbox := db.inbox ++ [eventId] } := ⟨kept.sound, kept.ofBranch⟩
    exact commit_preserves DefaultsKept kept fun after ran => applyBranchEvent_kept noted ran
  | create now freshId dto => exact commit_preserves DefaultsKept kept fun after ran => createWarehouse_kept ran kept
  | update warehouseId dto => exact commit_preserves DefaultsKept kept fun after ran => updateWarehouse_kept ran kept
  | stock balances reservations transfers => exact ⟨kept.sound, kept.ofBranch⟩

end Events

/-- Whatever happens, no branch has two default warehouses, and an active branch has one that is active. -/
theorem active_branch_has_one_default (inputs : List BranchInput) (branchId : Uuid) :
    let db := Run.after performBranch {} inputs
    (∀ first second row other,
      db.store.warehouses.lookup first = some row → row.isDefault = true → row.isOf branchId = true →
      db.store.warehouses.lookup second = some other → other.isDefault = true → other.isOf branchId = true →
      first = second) ∧
    (db.isActive branchId = true → ∃ id row, db.store.warehouses.lookup id = some row ∧
      row.isDefault = true ∧ row.isOf branchId = true ∧ row.status = .active) := by
  intro db
  have start : DefaultsKept {} := by
    refine ⟨fun branchId => ⟨fun first second row other found => ?_, fun live => ?_⟩, fun id row found => ?_⟩
    · cases (defaultRow_eq_some.mp found).1
    · cases live
    · cases found
  have kept : DefaultsKept db :=
    Run.invariant DefaultsKept (fun _ input before => performBranch_kept input before) start inputs
  constructor
  · intro first second row other found marked own stored otherMarked otherOwn
    exact (kept.sound branchId).single first second row other (defaultRow_eq_some.mpr ⟨found, marked, own⟩)
      (defaultRow_eq_some.mpr ⟨stored, otherMarked, otherOwn⟩)
  · intro live
    obtain ⟨id, row, stored, usable⟩ := (kept.sound branchId).usable live
    obtain ⟨found, marked, own⟩ := defaultRow_eq_some.mp stored
    exact ⟨id, row, found, marked, own, usable⟩

def announced (status : BranchStatus) (updatedAt : Nat) : BranchEventPayload :=
  { id := 7, code := "HN 01", name := "Hanoi", status, updatedAt }

theorem active_branch_has_one_default_created :
    (Run.after performBranch {} [.event 1 (announced .active 10) 100 50]).isActive 7 = true ∧
    ∃ id row, (Run.after performBranch {} [.event 1 (announced .active 10) 100 50]).store.warehouses.lookup id = some row ∧
      row.isDefault = true ∧ row.isOf 7 = true ∧ row.status = .active := by
  have live : (Run.after performBranch {} [.event 1 (announced .active 10) 100 50]).isActive 7 = true := by decide +kernel
  exact ⟨live, (active_branch_has_one_default _ 7).2 live⟩

/-- A branch that is made and then switched off, with nothing in its warehouse: the default is switched off with it. -/
theorem inactive_branch_without_usable_default :
    let db := Run.after performBranch {} [.event 1 (announced .active 10) 100 50, .event 2 (announced .inactive 20) 200 51]
    1 ∈ db.inbox ∧ db.branches.lookup 7 ≠ none ∧
    ¬∃ id row, db.store.warehouses.lookup id = some row ∧ row.isDefault = true ∧ row.isOf 7 = true ∧ row.status = .active := by
  intro db
  have none : (db.store.warehouses.entries.any fun entry =>
      entry.2.isDefault && entry.2.isOf 7 && entry.2.status = .active) = false := by decide +kernel
  refine ⟨by decide +kernel, by decide +kernel, ?_⟩
  rintro ⟨id, row, found, marked, own, usable⟩
  have refuted := any_eq_false.mp none ⟨id, row⟩ (AList.mem_lookup_iff.mp found)
  simp only [marked, own, usable] at refuted
  exact refuted rfl

end Inventory
