import Mathlib.Data.Set.Finite.Lemmas
import RetailApi.Insight.Dimensions

/-! The dimension cache under late, repeated and reordered events. The versions settle a row where no null meets a value and no
group changes by itself: a null of the highest version clears nothing, and a change of a group counts where it comes. -/

namespace Insight

open Inbox DimensionEnvelope Option List DimensionEvent

/-- What an event about products, variants or customers asks the cache to hold. -/
def DimensionEvent.input? : DimensionEvent → Option DimensionInput
  | .productCreated payload | .productUpdated payload | .productDeactivated payload => some payload.dimension
  | .variantCreated payload | .variantUpdated payload | .variantDeactivated payload => some payload.dimension
  | .customerCreated payload | .customerUpdated payload | .customerDeactivated payload => some payload.dimension
  | .customerGroupChanged _ => none

def DimensionEnvelope.row? (key : DimensionKey) (envelope : DimensionEnvelope) : Option DimensionRow :=
  (envelope.event.input?.filter fun input => input.key = key).map DimensionInput.inserted

def DimensionEnvelope.groupChange? (key : DimensionKey) (envelope : DimensionEnvelope) : Option CustomerGroupChangedPayload :=
  match envelope.event with
  | .customerGroupChanged payload => if (⟨.customer, payload.customerId⟩ : DimensionKey) = key then some payload else none
  | _ => none

def versionsOf (events : List DimensionEnvelope) (key : DimensionKey) : List DimensionRow := events.filterMap (·.row? key)

def groupChangesOf (events : List DimensionEnvelope) (key : DimensionKey) : List CustomerGroupChangedPayload :=
  events.filterMap (·.groupChange? key)

def DistinctVersions (events : List DimensionEnvelope) : Prop :=
  ∀ key, ∀ first ∈ versionsOf events key, ∀ second ∈ versionsOf events key,
    first.aggregateVersion = second.aggregateVersion → first = second

structure HighestVersion (events : List DimensionEnvelope) (key : DimensionKey) (top : DimensionRow) : Prop where
  listed : top ∈ versionsOf events key
  highest : ∀ row ∈ versionsOf events key, row.aggregateVersion ≤ top.aggregateVersion

structure UpToDate (events : List DimensionEnvelope) (key : DimensionKey) (row : DimensionRow) : Prop where
  highest : ∀ top, HighestVersion events key top →
    row = { top with customerGroupId := row.customerGroupId } ∧
      (groupChangesOf events key = [] → row.customerGroupId = top.customerGroupId)
  latest : ∀ change ∈ groupChangesOf events key,
    (∀ other ∈ groupChangesOf events key, other.occurredAt ≤ change.occurredAt) → row.customerGroupId = some change.groupId

/-- Every delivery of the events leaves one cache, up to date in all that the events are about. -/
def Converges (events : List DimensionEnvelope) : Prop :=
  ∃ settled : DimensionKey → Option DimensionRow,
    (∀ key, versionsOf events key ≠ [] ∨ groupChangesOf events key ≠ [] →
      ∃ row, settled key = some row ∧ UpToDate events key row) ∧
    ∀ deliveries, Delivers deliveries events → ∀ key, (dimensionCache deliveries).lookup key = settled key

/-- Where the highest version has no category or no brand, no version has one; and every change of a group says what the
highest version of the customer says. -/
def Undisputed (events : List DimensionEnvelope) : Prop :=
  ∀ key,
    (∀ top, HighestVersion events key top → ∀ row ∈ versionsOf events key,
      (top.categoryId = none → row.categoryId = none) ∧ (top.brandId = none → row.brandId = none)) ∧
    ∀ change ∈ groupChangesOf events key, ∃ top, HighestVersion events key top ∧ top.customerGroupId = some change.groupId

def rowAfterEvent (key : DimensionKey) (row : Option DimensionRow) (envelope : DimensionEnvelope) : Option DimensionRow :=
  match envelope.row? key with
  | some carried => some ((row.map (·.merged carried)).getD carried)
  | none =>
    match envelope.groupChange? key with
    | some change => row.map fun found => { found with customerGroupId := some change.groupId }
    | none => row

theorem lookup_upsertDimensionCache (cache : DimensionCache) (input : DimensionInput) (key : DimensionKey) :
    (upsertDimensionCache cache input).lookup key =
      if input.key = key then some (((cache.lookup key).map (·.merged input.inserted)).getD input.inserted)
      else cache.lookup key := by
  rw [upsertDimensionCache, Table.lookup_insert_if]
  by_cases same : input.key = key
  · rw [if_pos same, if_pos same.symm, same]
  · rw [if_neg same, if_neg (Ne.symm same)]

theorem lookup_setCustomerGroup (cache : DimensionCache) (customerId groupId : String) (key : DimensionKey) :
    (setCustomerGroup cache customerId groupId).lookup key =
      if (⟨.customer, customerId⟩ : DimensionKey) = key then
        (cache.lookup key).map fun found => { found with customerGroupId := some groupId }
      else cache.lookup key := by
  have answered : ∀ returned : List DimensionRow, (answerOfUpdate returned).length ≠ 0 := by
    intro returned
    rw [answerOfUpdate, length_cons]
    exact Nat.succ_ne_zero _
  unfold setCustomerGroup
  rw [if_neg (answered _)]
  cases found : cache.lookup ⟨.customer, customerId⟩ with
  | none =>
    rw [map_none, map_none, getD_none]
    split
    · next same => rw [← same, found, map_none]
    · rfl
  | some row =>
    rw [map_some, map_some, getD_some, Table.lookup_insert_if]
    by_cases same : (⟨.customer, customerId⟩ : DimensionKey) = key
    · rw [if_pos same.symm, if_pos same, ← same, found, map_some]
    · rw [if_neg (Ne.symm same), if_neg same]

theorem lookup_handleDimensionEvent (cache : DimensionCache) (envelope : DimensionEnvelope) (key : DimensionKey) :
    (handleDimensionEvent cache envelope).lookup key = rowAfterEvent key (cache.lookup key) envelope := by
  have upserted : ∀ input : DimensionInput, envelope.event.input? = some input →
      envelope.groupChange? key = none → (upsertDimensionCache cache input).lookup key = rowAfterEvent key (cache.lookup key) envelope := by
    intro input asks unchanged
    rw [lookup_upsertDimensionCache, rowAfterEvent, row?, asks, unchanged, filter_some]
    by_cases same : input.key = key
    · simp only [same, decide_true, if_true, map_some]
    · simp only [same, decide_false, if_false, map_none, Bool.false_eq_true]
  unfold handleDimensionEvent
  cases about : envelope.event with
  | customerGroupChanged payload =>
    rw [rowAfterEvent, row?, groupChange?, about]
    refine (lookup_setCustomerGroup ..).trans ?_
    by_cases same : (⟨.customer, payload.customerId⟩ : DimensionKey) = key
    · simp only [input?, filter_none, map_none, if_pos same]
    · simp only [input?, filter_none, map_none, if_neg same]
  | productCreated payload | productUpdated payload | productDeactivated payload | variantCreated payload
  | variantUpdated payload | variantDeactivated payload | customerCreated payload | customerUpdated payload
  | customerDeactivated payload =>
    exact upserted payload.dimension (by rw [about]; rfl) (by rw [groupChange?, about])

structure DimensionRow.Behind (row top : DimensionRow) : Prop where
  version : row.aggregateVersion ≤ top.aggregateVersion
  parent : top.parentId = none → row.parentId = none
  category : top.categoryId = none → row.categoryId = none
  brand : top.brandId = none → row.brandId = none
  group : top.customerGroupId = none → row.customerGroupId = none

theorem DimensionRow.Behind.refl (row : DimensionRow) : row.Behind row := ⟨le_refl _, id, id, id, id⟩

variable {row carried top : DimensionRow}

theorem DimensionRow.Behind.merged (behind : row.Behind top) (carriedBehind : carried.Behind top) :
    (row.merged carried).Behind top := by
  have column : ∀ {first second : Option String} {wins : Prop} [Decidable wins], first = none → second = none →
      (if wins then first.or second else second) = none := by
    intro first second wins _ empty alsoEmpty
    rw [empty, alsoEmpty, or_none, ite_self]
  exact ⟨max_le behind.version carriedBehind.version, fun null => column (carriedBehind.parent null) (behind.parent null),
    fun null => column (carriedBehind.category null) (behind.category null),
    fun null => column (carriedBehind.brand null) (behind.brand null),
    fun null => column (carriedBehind.group null) (behind.group null)⟩

theorem DimensionRow.Behind.replaced (behind : row.Behind top) : row.merged top = top := by
  have column : ∀ {first second : Option String}, (first = none → second = none) → first.or second = first := by
    intro first second nulls
    cases first with
    | none => rw [none_or, nulls rfl]
    | some => rfl
  unfold DimensionRow.merged
  simp only [if_pos behind.version, max_eq_right behind.version, column behind.parent, column behind.category,
    column behind.brand, column behind.group]

theorem DimensionRow.merged_lower (lower : carried.aggregateVersion < row.aggregateVersion) : row.merged carried = row := by
  unfold DimensionRow.merged
  simp only [if_neg (Int.not_le.mpr lower), max_eq_left (Int.le_of_lt lower)]

section Deliveries

variable {events deliveries : List DimensionEnvelope} {key : DimensionKey} {top : DimensionRow}

variable {envelope : DimensionEnvelope} {row : DimensionRow} {change : CustomerGroupChangedPayload}
  {Holds : Option DimensionRow → Prop} {column : DimensionRow → Option String}

theorem mem_versionsOf (member : envelope ∈ events) (carries : envelope.row? key = some row) : row ∈ versionsOf events key :=
  mem_filterMap.mpr ⟨envelope, member, carries⟩

theorem mem_groupChangesOf (member : envelope ∈ events)
    (carries : envelope.groupChange? key = some change) : change ∈ groupChangesOf events key :=
  mem_filterMap.mpr ⟨envelope, member, carries⟩

theorem exists_highestVersion (listed : versionsOf events key ≠ []) : ∃ top, HighestVersion events key top := by
  obtain ⟨row, member⟩ := exists_mem_of_ne_nil _ listed
  obtain ⟨top, listed, highest⟩ := Set.exists_max_image {row | row ∈ versionsOf events key} (·.aggregateVersion)
    (finite_toSet _) ⟨row, member⟩
  exact ⟨top, listed, highest⟩

theorem columns_of_row? (carries : envelope.row? key = some row) :
    (row.parentId = none ↔ key.dimensionType ≠ .variant) ∧ (row.customerGroupId = none ↔ key.dimensionType ≠ .customer) ∧
      (key.dimensionType ≠ .product → row.categoryId = none ∧ row.brandId = none) := by
  obtain ⟨input, found, rfl⟩ := map_eq_some_iff.mp carries
  obtain ⟨asks, same⟩ := filter_eq_some_iff.mp found
  obtain rfl : input.key = key := of_decide_eq_true same
  cases about : envelope.event <;> rw [about] at asks <;> cases asks <;>
    simp [DimensionInput.inserted, CatalogProductEventPayload.dimension, CatalogVariantEventPayload.dimension,
      CustomerLifecycleEventPayload.dimension]

theorem columns_of_version (listed : row ∈ versionsOf events key) :
    (row.parentId = none ↔ key.dimensionType ≠ .variant) ∧ (row.customerGroupId = none ↔ key.dimensionType ≠ .customer) ∧
      (key.dimensionType ≠ .product → row.categoryId = none ∧ row.brandId = none) := by
  obtain ⟨envelope, -, carries⟩ := mem_filterMap.mp listed
  exact columns_of_row? carries

theorem customer_of_groupChange (listed : change ∈ groupChangesOf events key) : key.dimensionType = .customer := by
  obtain ⟨envelope, -, carries⟩ := mem_filterMap.mp listed
  unfold groupChange? at carries
  split at carries
  · split at carries
    · next same => rw [← same]
    · cases carries
  · cases carries

theorem rowAfterEvent_cases (key : DimensionKey) (row : Option DimensionRow) (member : envelope ∈ events) :
    (∃ carried ∈ versionsOf events key, rowAfterEvent key row envelope = some ((row.map (·.merged carried)).getD carried)) ∨
      (∃ change ∈ groupChangesOf events key,
        rowAfterEvent key row envelope = row.map fun found => { found with customerGroupId := some change.groupId }) ∨
      rowAfterEvent key row envelope = row := by
  cases carries : envelope.row? key with
  | some carried => exact .inl ⟨carried, mem_versionsOf member carries, by rw [rowAfterEvent, carries]⟩
  | none =>
    cases changes : envelope.groupChange? key with
    | some change => exact .inr (.inl ⟨change, mem_groupChangesOf member changes, by rw [rowAfterEvent, carries, changes]⟩)
    | none => exact .inr (.inr (by rw [rowAfterEvent, carries, changes]))

def RowKept (events : List DimensionEnvelope) (key : DimensionKey) (Holds : Option DimensionRow → Prop) : Prop :=
  ∀ envelope ∈ events, ∀ row, Holds row → Holds (rowAfterEvent key row envelope)

theorem RowKept.handled (kept : RowKept events key Holds) :
    ∀ envelope ∈ events, ∀ cache : DimensionCache, Holds (cache.lookup key) →
      Holds ((handleDimensionEvent cache envelope).lookup key) := by
  intro envelope member cache holds
  rw [lookup_handleDimensionEvent]
  exact kept envelope member _ holds

theorem RowKept.delivered (kept : RowKept events key Holds) (start : Holds none)
    (drawn : ∀ envelope ∈ deliveries, envelope ∈ events) : Holds ((dimensionCache deliveries).lookup key) :=
  deliver_preserves (fun cache : DimensionCache => Holds (cache.lookup key))
    (fun envelope member => kept.handled envelope (drawn envelope member)) start

theorem RowKept.reached {Before} (kept : RowKept events key Holds)
    (keptBefore : RowKept events key Before) (distinct : (events.map (·.id)).Nodup)
    (drawn : ∀ envelope ∈ deliveries, envelope ∈ events) (listed : row ∈ versionsOf deliveries key)
    (start : Before none) (first : ∀ found, Before found → Holds (some ((found.map (·.merged row)).getD row))) :
    Holds ((dimensionCache deliveries).lookup key) := by
  obtain ⟨envelope, member, carries⟩ := mem_filterMap.mp listed
  refine delivered_reaches (fun cache : DimensionCache => Holds (cache.lookup key))
    (fun cache : DimensionCache => Before (cache.lookup key)) distinct drawn member start keptBefore.handled ?_ kept.handled
  intro cache before
  have here := first _ before
  rw [lookup_handleDimensionEvent, rowAfterEvent, carries]
  exact here

theorem rowKept_none (absent : versionsOf events key = []) : RowKept events key (· = none) := by
  rintro envelope member row rfl
  rcases rowAfterEvent_cases key none member with ⟨carried, listed, -⟩ | ⟨change, -, after⟩ | after
  · rw [absent] at listed
    cases listed
  · exact after
  · exact after

theorem rowKept_isSome : RowKept events key (·.isSome = true) := by
  intro envelope member row there
  rcases rowAfterEvent_cases key row member with ⟨carried, -, after⟩ | ⟨change, -, after⟩ | after
  · rw [after]
    rfl
  · rw [after, isSome_map]
    exact there
  · rw [after]
    exact there

section

variable (highest : HighestVersion events key top)

include highest

theorem HighestVersion.rowKept_version :
    RowKept events key fun row => ∀ found, row = some found → found.aggregateVersion ≤ top.aggregateVersion := by
  intro envelope member row below found
  rcases rowAfterEvent_cases key row member with ⟨carried, listed, after⟩ | ⟨change, -, after⟩ | after
  · rw [after]
    rintro ⟨⟩
    cases row with
    | none => exact highest.highest carried listed
    | some old => exact max_le (below old rfl) (highest.highest carried listed)
  · rw [after]
    intro same
    obtain ⟨old, stored, rfl⟩ := map_eq_some_iff.mp same
    exact below old stored
  · rw [after]
    exact below found

section

variable (undisputed : Undisputed events)
include undisputed

theorem HighestVersion.behind (listed : row ∈ versionsOf events key) : row.Behind top := by
  obtain ⟨topParent, topGroup, -⟩ := columns_of_version highest.listed
  obtain ⟨parent, group, -⟩ := columns_of_version listed
  have columns := (undisputed key).1 top highest row listed
  exact ⟨highest.highest row listed, fun null => parent.mpr (topParent.mp null), columns.1, columns.2,
    fun null => group.mpr (topGroup.mp null)⟩

section

variable (versions : DistinctVersions events)
include versions

theorem HighestVersion.group
    (listed : change ∈ groupChangesOf events key) :
    top.customerGroupId = some change.groupId := by
  obtain ⟨other, otherHighest, group⟩ := (undisputed key).2 change listed
  have same := versions key top highest.listed other otherHighest.listed
    (le_antisymm (otherHighest.highest top highest.listed) (highest.highest other otherHighest.listed))
  rw [same]
  exact group

theorem HighestVersion.rowKept_behind
    : RowKept events key fun row => ∀ found, row = some found → found.Behind top := by
  intro envelope member row behind found
  rcases rowAfterEvent_cases key row member with ⟨carried, listed, after⟩ | ⟨change, listed, after⟩ | after
  · have carriedBehind := highest.behind undisputed listed
    rw [after]
    rintro ⟨⟩
    cases row with
    | none => exact carriedBehind
    | some old => exact (behind old rfl).merged carriedBehind
  · rw [after]
    intro same
    obtain ⟨old, stored, rfl⟩ := map_eq_some_iff.mp same
    have grouped := highest.group undisputed versions listed
    exact { behind old stored with group := fun null => absurd (grouped.symm.trans null) (some_ne_none _) }
  · rw [after]
    exact behind found

theorem HighestVersion.rowKept_top
    : RowKept events key (· = some top) := by
  rintro envelope member row rfl
  rcases rowAfterEvent_cases key (some top) member with ⟨carried, listed, after⟩ | ⟨change, listed, after⟩ | after
  · rw [after, map_some, getD_some]
    rcases (highest.highest carried listed).lt_or_eq with lower | level
    · rw [DimensionRow.merged_lower lower]
    · rw [versions key carried listed top highest.listed level, (DimensionRow.Behind.refl top).replaced]
  · rw [after, map_some, ← highest.group undisputed versions listed]
  · exact after

theorem HighestVersion.settled
    (distinct : (events.map (·.id)).Nodup) (delivers : Delivers deliveries events) :
    (dimensionCache deliveries).lookup key = some top := by
  have listed : top ∈ versionsOf deliveries key := by
    obtain ⟨envelope, member, carries⟩ := mem_filterMap.mp highest.listed
    exact mem_versionsOf ((delivers envelope).mpr member) carries
  refine (highest.rowKept_top undisputed versions).reached (highest.rowKept_behind undisputed versions) distinct
    (fun envelope => (delivers envelope).mp) listed ?_ ?_
  · rintro found ⟨⟩
  · intro found behind
    cases found with
    | none => rfl
    | some old => rw [map_some, getD_some, (behind old rfl).replaced]

end

end

end

theorem Undisputed.converges (undisputed : Undisputed events) (versions : DistinctVersions events)
    (distinct : (events.map (·.id)).Nodup) : Converges events := by
  refine ⟨fun key => (dimensionCache events).lookup key, ?_, ?_⟩
  · intro key mentioned
    have written : versionsOf events key ≠ [] := by
      rcases mentioned with written | changed
      · exact written
      · obtain ⟨change, listed⟩ := exists_mem_of_ne_nil _ changed
        obtain ⟨top, highest, -⟩ := (undisputed key).2 change listed
        exact ne_nil_of_mem highest.listed
    obtain ⟨top, highest⟩ := exists_highestVersion written
    refine ⟨top, highest.settled undisputed versions distinct fun _ => Iff.rfl, ?_, ?_⟩
    · intro other otherHighest
      have same := versions key top highest.listed other otherHighest.listed
        (le_antisymm (otherHighest.highest top highest.listed) (highest.highest other otherHighest.listed))
      rw [same]
      exact ⟨rfl, fun _ => rfl⟩
    · intro change listed _
      exact highest.group undisputed versions listed
  · intro deliveries delivers key
    change _ = (dimensionCache events).lookup key
    by_cases written : versionsOf events key = []
    · rw [(rowKept_none written).delivered rfl fun envelope => (delivers envelope).mp,
        (rowKept_none written).delivered rfl fun _ member => member]
    · obtain ⟨top, highest⟩ := exists_highestVersion written
      rw [highest.settled undisputed versions distinct delivers, highest.settled undisputed versions distinct fun _ => Iff.rfl]

theorem rowKept_column (merges : ∀ row carried, (column row).isSome = true → (column (row.merged carried)).isSome = true)
    (spared : ∀ row group, column { row with customerGroupId := group } = column row) :
    RowKept events key fun row => ∃ found, row = some found ∧ (column found).isSome = true := by
  rintro envelope member row ⟨found, rfl, filled⟩
  rcases rowAfterEvent_cases key (some found) member with ⟨carried, listed, after⟩ | ⟨change, listed, after⟩ | after
  · exact ⟨_, after, merges found carried filled⟩
  · exact ⟨_, after, by rw [spared]; exact filled⟩
  · exact ⟨_, after, filled⟩

theorem Converges.filled (converges : Converges events)
    (highest : HighestVersion events key top) (listed : row ∈ versionsOf events key)
    (merges : ∀ row carried, (column row).isSome = true → (column (row.merged carried)).isSome = true)
    (spared : ∀ row group, column { row with customerGroupId := group } = column row) (null : column top = none) :
    column row = none := by
  obtain ⟨settled, current, delivered⟩ := converges
  obtain ⟨found, stored, upToDate⟩ := current key (.inl (ne_nil_of_mem listed))
  obtain ⟨envelope, member, carries⟩ := mem_filterMap.mp listed
  rw [← not_isSome_iff_eq_none]
  intro filled
  have delivers : Delivers (envelope :: events) events := by
    intro other
    rw [mem_cons]
    exact or_iff_right_of_imp fun same => same ▸ member
  have first : ∃ found, (handleDimensionEvent (dimensionCache []) envelope).lookup key = some found ∧ (column found).isSome = true :=
    ⟨row, by rw [lookup_handleDimensionEvent, rowAfterEvent, carries]; rfl, filled⟩
  obtain ⟨after, reached, kept⟩ := delivered_from
    (fun cache : DimensionCache => ∃ found, cache.lookup key = some found ∧ (column found).isSome = true)
    not_mem_nil first (rowKept_column merges spared).handled
  have same : after = found := some.inj (reached.symm.trans ((delivered _ delivers key).trans stored))
  rw [same, (upToDate.highest top highest).1, spared, null] at kept
  cases kept

theorem lookup_lastly (distinct : (events.map (·.id)).Nodup) (member : envelope ∈ events) :
    (dimensionCache (lastly events envelope)).lookup key =
      rowAfterEvent key ((dimensionCache (events.filter (· ≠ envelope))).lookup key) envelope := by
  rw [dimensionCache, delivered_lastly distinct member, lookup_handleDimensionEvent]
  rfl

theorem group_of_change (distinct : (events.map (·.id)).Nodup) (member : envelope ∈ events)
    (carries : envelope.groupChange? key = some change) (listed : top ∈ versionsOf events key) :
    ∃ row, (dimensionCache (lastly events envelope)).lookup key = some row ∧ row.customerGroupId = some change.groupId := by
  have rowless : envelope.row? key = none := by
    unfold groupChange? at carries
    unfold row?
    cases about : envelope.event <;> rw [about] at carries <;> first | rfl | cases carries
  obtain ⟨other, inside, carried⟩ := mem_filterMap.mp listed
  have earlier : top ∈ versionsOf (events.filter (· ≠ envelope)) key := by
    refine mem_versionsOf (mem_filter.mpr ⟨inside, decide_eq_true ?_⟩) carried
    rintro rfl
    cases rowless.symm.trans carried
  have always : RowKept events key fun _ => True := fun _ _ _ _ => trivial
  have there : ((dimensionCache (events.filter (· ≠ envelope))).lookup key).isSome = true :=
    rowKept_isSome.reached always distinct (fun _ listed => (mem_filter.mp listed).1) earlier trivial fun _ _ => rfl
  obtain ⟨row, stored⟩ := isSome_iff_exists.mp there
  refine ⟨{ row with customerGroupId := some change.groupId }, ?_, rfl⟩
  rw [lookup_lastly distinct member, rowAfterEvent, rowless, carries, stored]
  rfl

theorem HighestVersion.group_of_version (highest : HighestVersion events key top) (distinct : (events.map (·.id)).Nodup)
    (grouped : top.customerGroupId ≠ none) (member : envelope ∈ events) (carries : envelope.row? key = some top) :
    ∃ row, (dimensionCache (lastly events envelope)).lookup key = some row ∧ row.customerGroupId = top.customerGroupId := by
  rw [lookup_lastly distinct member, rowAfterEvent, carries]
  have below : ∀ found, (dimensionCache (events.filter (· ≠ envelope))).lookup key = some found →
      found.aggregateVersion ≤ top.aggregateVersion :=
    highest.rowKept_version.delivered (by rintro found ⟨⟩) fun _ listed => (mem_filter.mp listed).1
  cases before : (dimensionCache (events.filter (· ≠ envelope))).lookup key with
  | none => exact ⟨top, rfl, rfl⟩
  | some old =>
    refine ⟨old.merged top, rfl, ?_⟩
    refine (if_pos (below old before)).trans ?_
    exact or_of_isSome (isSome_iff_ne_none.mpr grouped)

theorem Converges.grouped (converges : Converges events) (distinct : (events.map (·.id)).Nodup)
    (listed : change ∈ groupChangesOf events key) :
    ∃ top, HighestVersion events key top ∧ top.customerGroupId = some change.groupId := by
  obtain ⟨settled, current, delivered⟩ := converges
  obtain ⟨row, stored, -⟩ := current key (.inr (ne_nil_of_mem listed))
  have written : versionsOf events key ≠ [] := by
    intro absent
    have nothing := (rowKept_none absent).delivered rfl fun _ member => member
    rw [delivered events (fun _ => Iff.rfl) key, stored] at nothing
    cases nothing
  obtain ⟨top, highest⟩ := exists_highestVersion written
  have grouped : top.customerGroupId ≠ none :=
    fun null => (columns_of_version highest.listed).2.1.mp null (customer_of_groupChange listed)
  obtain ⟨envelope, member, carries⟩ := mem_filterMap.mp highest.listed
  obtain ⟨changing, inside, changes⟩ := mem_filterMap.mp listed
  obtain ⟨changed, reached, changedGroup⟩ := group_of_change distinct inside changes highest.listed
  obtain ⟨versioned, alsoReached, versionedGroup⟩ := highest.group_of_version distinct grouped member carries
  rw [delivered _ (delivers_lastly inside) key, stored] at reached
  rw [delivered _ (delivers_lastly member) key, stored] at alsoReached
  cases reached
  cases alsoReached
  exact ⟨top, highest, versionedGroup.symm.trans changedGroup⟩

end Deliveries

/-- The cache converges on exactly the sets of events in which nothing is disputed. -/
theorem dimensions_converge_iff {events : List DimensionEnvelope} (distinct : (events.map (·.id)).Nodup)
    (versions : DistinctVersions events) : Converges events ↔ Undisputed events := by
  constructor
  · intro converges key
    have merges : ∀ {wins : Prop} [Decidable wins] {first second : Option String}, second.isSome = true →
        (if wins then first.or second else second).isSome = true := by
      intro wins _ first second filled
      split
      · rw [isSome_or, filled, Bool.or_true]
      · exact filled
    refine ⟨fun top highest row listed => ⟨?_, ?_⟩, fun change listed => converges.grouped distinct listed⟩
    · exact converges.filled highest listed (fun _ _ filled => merges filled) fun _ _ => rfl
    · exact converges.filled highest listed (fun _ _ filled => merges filled) fun _ _ => rfl
  · intro undisputed
    exact undisputed.converges versions distinct

def teaMoved : List DimensionEnvelope :=
  [⟨0, .productCreated ⟨"tea", "Tea", "box", some "drinks", none, .active, some 1⟩⟩,
    ⟨1, .productUpdated ⟨"tea", "Green tea", "box", some "leaves", none, .active, some 2⟩⟩]

theorem versions_teaMoved {key} (listed : row ∈ versionsOf teaMoved key) :
    row = ⟨"tea", "Tea", none, some "drinks", none, none, .product "box" .active, 1⟩ ∨
      row = ⟨"tea", "Green tea", none, some "leaves", none, none, .product "box" .active, 2⟩ := by
  obtain ⟨envelope, member, carries⟩ := mem_filterMap.mp listed
  obtain ⟨input, found, rfl⟩ := map_eq_some_iff.mp carries
  obtain ⟨asks, -⟩ := filter_eq_some_iff.mp found
  rcases mem_cons.mp member with rfl | later
  · cases asks
    exact .inl rfl
  · cases mem_singleton.mp later
    cases asks
    exact .inr rfl

theorem dimensions_converge_moved : Converges teaMoved := by
  refine (dimensions_converge_iff (by decide) ?_).mpr ?_
  · intro key first firstListed second secondListed level
    rcases versions_teaMoved firstListed with rfl | rfl <;> rcases versions_teaMoved secondListed with rfl | rfl <;>
      first | rfl | cases level
  · intro key
    refine ⟨fun top highest row listed => ⟨?_, fun _ => ?_⟩, ?_⟩
    · rcases versions_teaMoved highest.listed with rfl | rfl <;> intro null <;> cases null
    · rcases versions_teaMoved listed with rfl | rfl <;> rfl
    · intro change listed
      cases listed

def customerRegrouped : List DimensionEnvelope :=
  [⟨0, .customerCreated ⟨"an", "KH01", .active, some "RETAIL", none, some 1⟩⟩, ⟨1, .customerGroupChanged ⟨"an", some "VIP", 5⟩⟩]

/-- The change is lost where it comes before the customer's row, and stays where it comes after it. -/
theorem dimensions_diverge_regrouped :
    (customerRegrouped.map (·.id)).Nodup ∧ DistinctVersions customerRegrouped ∧ ¬ Converges customerRegrouped := by
  have only : ∀ key, ∀ row ∈ versionsOf customerRegrouped key,
      row = ⟨"KH01", "KH01", none, none, none, some "RETAIL", .customer none .active, 1⟩ := by
    intro key row listed
    obtain ⟨envelope, member, carries⟩ := mem_filterMap.mp listed
    obtain ⟨input, found, rfl⟩ := map_eq_some_iff.mp carries
    obtain ⟨asks, -⟩ := filter_eq_some_iff.mp found
    rcases mem_cons.mp member with rfl | later
    · cases asks
      rfl
    · cases mem_singleton.mp later
      cases asks
  refine ⟨by decide, ?_, ?_⟩
  · intro key first firstListed second secondListed _
    rw [only key first firstListed, only key second secondListed]
  · rintro ⟨settled, -, delivered⟩
    have inOrder := delivered customerRegrouped (fun _ => Iff.rfl) ⟨.customer, "an"⟩
    have reversed := delivered customerRegrouped.reverse (fun _ => mem_reverse) ⟨.customer, "an"⟩
    have differ := inOrder.trans reversed.symm
    revert differ
    decide

end Insight
