import RetailApi.Tenancy.ScopedRepository

/-! Tenants apart: what a call of the wrapper hands out and changes is of its tenant, and it tells nothing of the others. The
exception is an entity whose id is its tenant: the test for foreign ids then takes every other row for one. -/

namespace Tenancy

open Transaction Metadata NewEntity List Except Answer FindOptions

def mine (tenantId : String) (rows : List Row) : List Row := rows.filter fun row => row.tenantId = tenantId

def foreign (tenantId : String) (rows : List Row) : List Row := rows.filter fun row => row.tenantId ≠ tenantId

def Metadata.Clear (metadata : Metadata) (tenantId : String) (rows : List Row) (id : Value) : Prop :=
  ∀ row ∈ rows, row.tenantId ≠ tenantId → row.value metadata.primary ≠ id

def Metadata.idsOf (metadata : Metadata) (tenantId : String) : Call → List Value
  | .save entities => entities.map fun entity => (metadata.idOf (entity.owned tenantId).properties).getD entity.generated
  | .update _ values => (metadata.written values metadata.primary).toList
  | _ => []

def Metadata.visible (metadata : Metadata) (tenantId : String) (call : Call) (rows : List Row) : Except Failure (Answer × List Row) :=
  (metadata.perform tenantId call rows).map fun result => (result.1, mine tenantId result.2)

structure Metadata.Isolated (metadata : Metadata) (tenantId : String) (call : Call) : Prop where
  hands : ∀ rows answer after, metadata.perform tenantId call rows = .ok (answer, after) →
    ∀ row ∈ answer.handed, row.tenantId = tenantId
  /-- The rows of the others are those they were: none is changed, deleted, taken or given. -/
  spares : ∀ rows answer after, metadata.perform tenantId call rows = .ok (answer, after) →
    foreign tenantId after = foreign tenantId rows
  blind : ∀ one two, mine tenantId one = mine tenantId two →
    (∀ id ∈ metadata.idsOf tenantId call, metadata.Clear tenantId one id ∧ metadata.Clear tenantId two id) →
    metadata.visible tenantId call one = metadata.visible tenantId call two

section Rows

variable {tenantId : String} {rows : List Row}

theorem filter_mine {accepts} (own : ∀ row ∈ rows, accepts row = true → row.tenantId = tenantId) :
    (mine tenantId rows).filter accepts = rows.filter accepts := by
  rw [mine, filter_filter]
  apply filter_congr
  intro row member
  cases accepted : accepts row with
  | false => rfl
  | true => rw [Bool.true_and, decide_eq_true (own row member accepted)]

variable {change : Row → Row}

theorem mine_map (kept : ∀ row ∈ rows, (change row).tenantId = row.tenantId) :
    mine tenantId (rows.map change) = (mine tenantId rows).map change := by
  rw [mine, mine, filter_map]
  congr 1
  apply filter_congr
  intro row member
  rw [Function.comp_apply, kept row member]

theorem foreign_map (kept : ∀ row ∈ rows, (change row).tenantId = row.tenantId)
    (spared : ∀ row ∈ rows, row.tenantId ≠ tenantId → change row = row) :
    foreign tenantId (rows.map change) = foreign tenantId rows := by
  have same : (rows.map change).filter (fun row => row.tenantId ≠ tenantId) = (foreign tenantId rows).map change := by
    rw [foreign, filter_map]
    congr 1
    apply filter_congr
    intro row member
    rw [Function.comp_apply, kept row member]
  rw [foreign, same]
  refine map_congr_left (fun row member => ?_) |>.trans (map_id _)
  obtain ⟨inside, other⟩ := mem_filter.mp member
  exact spared row inside (of_decide_eq_true other)

theorem mem_foreign {row} : row ∈ foreign tenantId rows ↔ row ∈ rows ∧ row.tenantId ≠ tenantId := by
  rw [foreign, mem_filter, decide_eq_true_iff]

theorem Metadata.Clear.of_foreign {metadata : Metadata} {id after} (clear : metadata.Clear tenantId rows id)
    (same : foreign tenantId after = foreign tenantId rows) : metadata.Clear tenantId after id := by
  intro row member other
  have listed : row ∈ foreign tenantId rows := same ▸ mem_foreign.mpr ⟨member, other⟩
  exact clear row (mem_foreign.mp listed).1 other

end Rows

def Scoped (tenantId : String) (condition : Where) : Prop := condition.lookup "tenantId" = some (.equals (.text tenantId))

section Conditions

variable {tenantId : String} {metadata : Metadata} {condition : Where} {one two : List Row}

theorem Scoped.own (limited : Scoped tenantId condition) {row} (accepted : condition.accepts row = true) :
    row.tenantId = tenantId := by
  have listed : (⟨"tenantId", .equals (.text tenantId)⟩ : Sigma fun _ : String => Condition) ∈ condition.entries :=
    AList.mem_lookup_iff.mp limited
  have meets := all_eq_true.mp accepted _ listed
  simpa [Condition.accepts, Row.value] using meets

theorem scoped_insert (condition : Where) : Scoped tenantId (condition.insert "tenantId" (.equals (.text tenantId))) :=
  Table.lookup_insert_self ..

theorem scopeOne_scoped {given} (scopes : scopeOne tenantId given = .ok condition) : Scoped tenantId condition := by
  simp only [scopeOne, eq_ok] at scopes
  obtain ⟨_, -, rfl⟩ := scopes
  exact scoped_insert given

theorem scopeElement_scoped {element} (scopes : scopeElement tenantId element = .ok condition) : Scoped tenantId condition := by
  cases element with
  | object given => exact scopeOne_scoped scopes
  | id | other => cases scopes

variable {wheres : List Where} {criteria : Criteria}

theorem elements_scoped {elements : List Element} (scopes : elements.mapM (scopeElement tenantId) = .ok wheres) :
    ∀ condition ∈ wheres, Scoped tenantId condition := by
  intro condition member
  obtain ⟨element, -, made⟩ := mapM_mem scopes member
  exact scopeElement_scoped made

theorem scopeWhere_scoped (scopes : scopeWhere tenantId criteria = .ok wheres) :
    ∀ condition ∈ wheres, Scoped tenantId condition := by
  unfold scopeWhere at scopes
  split at scopes
  · cases scopes
    intro condition member
    rw [mem_singleton.mp member]
    exact scoped_insert ∅
  · cases scopes
    intro condition member
    rw [mem_singleton.mp member]
    exact scoped_insert ∅
  · exact elements_scoped scopes
  · simp only [eq_ok] at scopes
    obtain ⟨limited, made, rfl⟩ := scopes
    intro condition member
    rw [mem_singleton.mp member]
    exact scopeOne_scoped made
  · cases scopes

theorem select_own (limited : ∀ condition ∈ wheres, Scoped tenantId condition) {withDeleted}
    {rows} : ∀ row ∈ select withDeleted wheres rows, row ∈ rows ∧ row.tenantId = tenantId := by
  intro row member
  obtain ⟨inside, accepted⟩ := mem_filter.mp member
  obtain ⟨condition, listed, meets⟩ := any_eq_true.mp (Bool.and_eq_true_iff.mp accepted).2
  exact ⟨inside, (limited condition listed).own meets⟩

theorem select_mine (withDeleted : Bool) (limited : ∀ condition ∈ wheres, Scoped tenantId condition)
    (agree : mine tenantId one = mine tenantId two) : select withDeleted wheres one = select withDeleted wheres two := by
  have own : ∀ rows : List Row, ∀ row ∈ rows, ((withDeleted || !row.deleted) && wheres.any (·.accepts row)) = true →
      row.tenantId = tenantId := by
    intro rows row _ accepted
    obtain ⟨condition, listed, meets⟩ := any_eq_true.mp (Bool.and_eq_true_iff.mp accepted).2
    exact (limited condition listed).own meets
  rw [select, select, ← filter_mine (own one), agree, filter_mine (own two)]

theorem writeWhere_scoped {rows} (made : metadata.writeWhere tenantId criteria rows = .ok (some condition)) :
    Scoped tenantId condition := by
  unfold writeWhere at made
  split at made
  · cases made
  · cases made
  · split at made
    · cases made
    · cases made
      exact scoped_insert _
  · split at made
    · cases made
      exact scoped_insert _
    · simp only [idsMatching, eq_ok] at made
      obtain ⟨wheres, -, made⟩ := made
      split at made
      · cases made
      · cases made
        exact scoped_insert _
  · split at made
    · cases made
    · obtain ⟨limited, scopes, same⟩ := map_eq_ok.mp made
      cases same
      exact scopeOne_scoped scopes

theorem writeWhere_blind (agree : mine tenantId one = mine tenantId two) (criteria : Criteria) :
    metadata.writeWhere tenantId criteria one = metadata.writeWhere tenantId criteria two := by
  unfold writeWhere
  split
  · rfl
  · rfl
  · rfl
  · split
    · rfl
    · unfold idsMatching
      cases scopes : mapM (scopeElement tenantId) _ with
      | error => rfl
      | ok wheres =>
        have same := select_mine true (elements_scoped scopes) agree
        change (pure _ : Except Failure (Option Where)) = pure _
        rw [same]
  · rfl

end Conditions

theorem FindOptions.mem_arrange {options : FindOptions} {found row} (member : row ∈ options.arrange found) : row ∈ found := by
  unfold arrange at member
  dsimp only at member
  split at member
  · have rest := mem_of_mem_drop member
    split at rest
    · exact rest
    · exact mem_mergeSort.mp rest
  · have rest := mem_of_mem_drop (mem_of_mem_take member)
    split at rest
    · exact rest
    · exact mem_mergeSort.mp rest

section Calls

variable {metadata : Metadata} {tenantId : String}

theorem read_isolated {call} (criteria : Criteria) (withDeleted : Bool) (answer : List Row → Answer)
    (performs : ∀ rows, metadata.perform tenantId call rows = Metadata.read tenantId criteria withDeleted answer rows)
    (handed : ∀ found, ∀ row ∈ (answer found).handed, row ∈ found) : metadata.Isolated tenantId call := by
  constructor
  · intro rows result after done
    rw [performs] at done
    simp only [Metadata.read, eq_ok] at done
    obtain ⟨wheres, scopes, same⟩ := done
    cases same
    exact fun row member => (select_own (scopeWhere_scoped scopes) row (handed _ row member)).2
  · intro rows result after done
    rw [performs] at done
    simp only [Metadata.read, eq_ok] at done
    obtain ⟨wheres, -, same⟩ := done
    cases same
    rfl
  · intro one two agree _
    rw [Metadata.visible, Metadata.visible, performs, performs, Metadata.read, Metadata.read]
    cases scopes : scopeWhere tenantId criteria with
    | error => rfl
    | ok wheres =>
      have same := select_mine withDeleted (scopeWhere_scoped scopes) agree
      change ok (answer (select withDeleted wheres one), mine tenantId one) =
        ok (answer (select withDeleted wheres two), mine tenantId two)
      rw [same, agree]

theorem outcomes_cases {α β ε : Type*} {view : α → β} {first second : Except ε α} (alike : first.map view = second.map view) :
    (∃ failure, first = .error failure ∧ second = .error failure) ∨
      ∃ one two, first = .ok one ∧ second = .ok two ∧ view one = view two := by
  cases first with
  | error failure =>
    cases second with
    | error other =>
      cases alike
      exact .inl ⟨failure, rfl, rfl⟩
    | ok two => cases alike
  | ok one =>
    cases second with
    | error other => cases alike
    | ok two => exact .inr ⟨one, two, rfl, rfl, ok.inj alike⟩

structure GoesApart (metadata : Metadata) (tenantId : String) (ids : List Value)
    (go : Where → List Row → Except Failure (Nat × List Row)) : Prop where
  spares : ∀ condition rows count after, Scoped tenantId condition → go condition rows = .ok (count, after) →
    foreign tenantId after = foreign tenantId rows
  blind : ∀ condition one two, Scoped tenantId condition → mine tenantId one = mine tenantId two →
    (∀ id ∈ ids, metadata.Clear tenantId one id ∧ metadata.Clear tenantId two id) →
    (go condition one).map (fun result => (result.1, mine tenantId result.2)) =
      (go condition two).map fun result => (result.1, mine tenantId result.2)

variable {go : Where → List Row → Except Failure (Nat × List Row)} {rows after one two : List Row} {values : Properties}
  {row : Row} {entities : List NewEntity}

theorem GoesApart.spared {ids} (apart : GoesApart metadata tenantId ids go) {criteria answer}
    (done : metadata.write tenantId criteria go rows = .ok (answer, after)) :
    answer.handed = [] ∧ foreign tenantId after = foreign tenantId rows := by
  simp only [write, eq_ok] at done
  obtain ⟨condition, made, ⟨count, reached⟩, went, same⟩ := done
  cases same
  refine ⟨rfl, ?_⟩
  cases condition with
  | none =>
    cases went
    rfl
  | some condition => exact apart.spares condition rows count reached (writeWhere_scoped made) went

theorem GoesApart.written {ids}
    (apart : GoesApart metadata tenantId ids go) (criteria : Criteria) (agree : mine tenantId one = mine tenantId two)
    (clear : ∀ id ∈ ids, metadata.Clear tenantId one id ∧ metadata.Clear tenantId two id) :
    (metadata.write tenantId criteria go one).map (fun result => (result.1, mine tenantId result.2)) =
      (metadata.write tenantId criteria go two).map fun result => (result.1, mine tenantId result.2) := by
  have same : metadata.writeWhere tenantId criteria one = metadata.writeWhere tenantId criteria two := writeWhere_blind agree criteria
  unfold write
  rw [same]
  cases made : metadata.writeWhere tenantId criteria two with
  | error => rfl
  | ok condition =>
    cases condition with
    | none =>
      change ok (affected 0, mine tenantId one) = ok (affected 0, mine tenantId two)
      rw [agree]
    | some condition =>
      have blind := apart.blind condition one two (writeWhere_scoped made) agree clear
      change ((go condition one).bind fun result => .ok (affected result.1, result.2)).map _ =
        ((go condition two).bind fun result => .ok (affected result.1, result.2)).map _
      rcases outcomes_cases blind with ⟨failure, first, second⟩ | ⟨result, other, first, second, same⟩
      · rw [first, second]
      · obtain ⟨count, left⟩ := Prod.mk.inj same
        rw [first, second]
        change ok (affected result.1, mine tenantId result.2) =
          ok (affected other.1, mine tenantId other.2)
        rw [count, left]

theorem patch_tenantId (own : ∀ value, metadata.tenantColumn values = some value → value = .text tenantId)
    (owned : row.tenantId = tenantId) : (metadata.patch values row).tenantId = tenantId := by
  unfold patch
  split
  · next named => exact Value.text.inj (own _ named)
  · exact owned

theorem assertTenant_own {what} (passed : metadata.assertTenant tenantId values what = .ok ()) :
    ∀ value, metadata.tenantColumn values = some value → value = .text tenantId := by
  simp only [assertTenant, eq_ok, assertTenantRelations] at passed
  obtain ⟨_, same, relations⟩ := passed
  intro value named
  rcases Option.or_eq_some_iff.mp named with related | ⟨-, column⟩
  · obtain ⟨relation, listed, found⟩ := mem_filterMap.mp (mem_of_mem_head? related)
    have allowed := all_eq_true.mp relations relation listed
    obtain ⟨given, stored, gives⟩ := Option.bind_eq_some_iff.mp found
    rw [stored] at allowed
    cases given with
    | null => cases gives
    | object referenced =>
      rw [show referenced = some value from gives] at allowed
      exact Option.some.inj (of_decide_eq_true allowed)
    | scalar other =>
      cases gives
      exact of_decide_eq_true allowed
  · rw [column] at same
    exact ensure_eq_ok.mp same

section Changes

variable {condition : Where} {one two : List Row}

theorem Scoped.spares (limited : Scoped tenantId condition) (change : Row → Row) (rows : List Row)
    (kept : ∀ row, row.tenantId = tenantId → (change row).tenantId = tenantId) :
    foreign tenantId (rows.map fun row => if condition.accepts row then change row else row) = foreign tenantId rows ∧
      mine tenantId (rows.map fun row => if condition.accepts row then change row else row) =
        (mine tenantId rows).map fun row => if condition.accepts row then change row else row := by
  have owned : ∀ row ∈ rows, (if condition.accepts row then change row else row).tenantId = row.tenantId := by
    intro row _
    split
    · next accepted => rw [limited.own accepted, kept row (limited.own accepted)]
    · rfl
  refine ⟨foreign_map owned fun row _ other => if_neg fun accepted => other (limited.own accepted), mine_map owned⟩

theorem Scoped.matched (limited : Scoped tenantId condition) (agree : mine tenantId one = mine tenantId two) :
    one.filter condition.accepts = two.filter condition.accepts := by
  have own : ∀ rows : List Row, ∀ row ∈ rows, condition.accepts row = true → row.tenantId = tenantId := fun _ _ _ => limited.own
  rw [← filter_mine (own one), agree, filter_mine (own two)]

theorem softDeleteWhere_apart : GoesApart metadata tenantId [] metadata.softDeleteWhere := by
  constructor
  · intro condition rows count after limited done
    unfold softDeleteWhere at done
    split at done
    · cases done
      exact (limited.spares (fun row => { row with deleted := true }) rows fun _ owned => owned).1
    · cases done
  · intro condition one two limited agree _
    unfold softDeleteWhere
    split
    · have same := limited.matched agree
      have left := fun rows => (limited.spares (fun row => { row with deleted := true }) rows fun _ owned => owned).2
      simp only [Except.map, left, same, agree]
    · rfl

theorem deleteWhere_apart : GoesApart metadata tenantId [] deleteWhere := by
  have swapped : ∀ (condition : Where) (rows : List Row), mine tenantId (rows.filter fun row => !condition.accepts row) =
      (mine tenantId rows).filter fun row => !condition.accepts row := by
    intro condition rows
    rw [mine, mine, filter_filter, filter_filter]
    exact filter_congr fun row _ => Bool.and_comm ..
  constructor
  · intro condition rows count after limited done
    cases done
    rw [foreign, foreign, filter_filter]
    apply filter_congr
    intro row _
    by_cases owned : row.tenantId = tenantId
    · rw [decide_eq_false (not_not.mpr owned), Bool.false_and]
    · have refused : condition.accepts row = false := by
        rw [← Bool.not_eq_true]
        exact fun accepted => owned (limited.own accepted)
      rw [refused, Bool.not_false, Bool.and_true]
  · intro condition one two limited agree _
    simp only [deleteWhere, Except.map, swapped, limited.matched agree, agree]

variable {values : Properties}

theorem clashes_blind (limited : Scoped tenantId condition) (agree : mine tenantId one = mine tenantId two)
    (clear : ∀ id ∈ (metadata.written values metadata.primary).toList, metadata.Clear tenantId one id ∧ metadata.Clear tenantId two id) :
    metadata.clashes condition values one = metadata.clashes condition values two := by
  unfold clashes
  cases gives : metadata.written values metadata.primary with
  | none => rfl
  | some id =>
    obtain ⟨first, second⟩ := clear id (by rw [gives]; exact mem_singleton.mpr rfl)
    have own : ∀ rows, metadata.Clear tenantId rows id →
        (rows.any fun row => !condition.accepts row && decide (row.value metadata.primary = id)) =
          (mine tenantId rows).any fun row => !condition.accepts row && decide (row.value metadata.primary = id) := by
      intro rows free
      rw [mine, any_filter, Bool.eq_iff_iff, any_eq_true, any_eq_true]
      constructor
      · rintro ⟨row, member, meets⟩
        refine ⟨row, member, ?_⟩
        have owned : row.tenantId = tenantId := by
          by_contra other
          exact free row member other (of_decide_eq_true (Bool.and_eq_true_iff.mp meets).2)
        rw [decide_eq_true owned, Bool.true_and]
        exact meets
      · rintro ⟨row, member, meets⟩
        exact ⟨row, member, (Bool.and_eq_true_iff.mp meets).2⟩
    change (_ || _) = (_ || _)
    rw [own one first, own two second, limited.matched agree, agree]

theorem updateWhere_apart (own : ∀ value, metadata.tenantColumn values = some value → value = .text tenantId) :
    GoesApart metadata tenantId (metadata.written values metadata.primary).toList fun condition => metadata.updateWhere condition values := by
  constructor
  · intro condition rows count after limited done
    unfold updateWhere at done
    split at done
    · cases done
    split at done
    · cases done
      rfl
    · split at done
      · cases done
      · split at done
        · cases done
        · cases done
          exact (limited.spares (metadata.patch values) rows fun _ owned => patch_tenantId own owned).1
  · intro condition one two limited agree clear
    have left := fun rows => (limited.spares (metadata.patch values) rows fun _ owned => patch_tenantId own owned).2
    unfold updateWhere
    rw [limited.matched agree, clashes_blind limited agree clear]
    split
    · rfl
    split
    · change Except.ok (0, mine tenantId one) = Except.ok (0, mine tenantId two)
      rw [agree]
    · split
      · rfl
      · split
        · rfl
        · simp only [Except.map, left, agree]

end Changes

section Saving

variable {state after : Saving} {before : List Row} {entity : NewEntity}

def Owned (metadata : Metadata) (tenantId : String) (entity : NewEntity) : Prop :=
  metadata.tenantColumn entity.properties = some (.text tenantId)

theorem owned_of_assert {what} (passed : metadata.assertTenant tenantId entity.properties what = .ok ()) :
    Owned metadata tenantId (entity.owned tenantId) := by
  have own := assertTenant_own passed
  unfold Owned tenantColumn owned
  cases first : (metadata.tenantRelations.filterMap fun relation => (entity.properties.related.lookup relation).bind Related.value).head? with
  | none => exact Table.lookup_insert_self ..
  | some value =>
    have named : metadata.tenantColumn entity.properties = some value := by rw [tenantColumn, first, Option.some_or]
    rw [own value named]
    rfl

theorem Owned.patch (owned : Owned metadata tenantId entity) (row : Row) :
    (metadata.patch entity.properties row).tenantId = tenantId := by
  unfold Metadata.patch
  rw [owned]

theorem Owned.create (owned : Owned metadata tenantId entity) (id : Value) :
    (metadata.create entity.properties tenantId id).tenantId = tenantId := by
  unfold Metadata.create
  rw [owned]

/-- The rows saved so far are the tenant's, and the rows of the others are those before. -/
structure Saving.Apart (state : Saving) (tenantId : String) (before : List Row) : Prop where
  saved : ∀ row ∈ state.saved, row.tenantId = tenantId
  spared : foreign tenantId state.rows = foreign tenantId before

variable {id : Value} {rows beforeOne beforeTwo : List Row}

section

variable (owned : Owned metadata tenantId entity)
include owned

theorem insert_apart (apart : state.Apart tenantId before)
    (inserted : metadata.insert tenantId state entity.properties id = .ok after) : after.Apart tenantId before := by
  simp only [Metadata.insert, eq_ok] at inserted
  obtain ⟨_, -, rfl⟩ := inserted
  refine ⟨forall_concat apart.saved (owned.create id), ?_⟩
  · have none : foreign tenantId [metadata.create entity.properties tenantId id] = [] := by
      rw [foreign, filter_singleton, decide_eq_false (not_not.mpr (owned.create id))]
      rfl
    rw [foreign, filter_append]
    change foreign tenantId state.rows ++ foreign tenantId _ = _
    rw [none, append_nil, apart.spared]

theorem overwritten (clear : metadata.Clear tenantId rows id) :
    (∀ row ∈ rows, (if row.value metadata.primary = id then metadata.patch entity.properties row else row).tenantId = row.tenantId) ∧
      ∀ row ∈ rows, row.tenantId ≠ tenantId →
        (if row.value metadata.primary = id then metadata.patch entity.properties row else row) = row := by
  refine ⟨fun row member => ?_, fun row member other => if_neg (clear row member other)⟩
  split
  · next same =>
    have mine : row.tenantId = tenantId := by
      by_contra other
      exact clear row member other same
    rw [owned.patch, mine]
  · rfl

theorem saveOne_apart (apart : state.Apart tenantId before)
    (clear : ∀ id, metadata.idOf entity.properties = some id → metadata.Clear tenantId before id)
    (saved : metadata.saveOne tenantId before state entity = .ok after) : after.Apart tenantId before := by
  unfold saveOne at saved
  split at saved
  · exact insert_apart owned apart saved
  · next id gives =>
    split at saved
    · cases saved
      have free := (clear id gives).of_foreign apart.spared
      obtain ⟨kept, spared⟩ := overwritten owned free
      refine ⟨fun row member => ?_, (foreign_map kept spared).trans apart.spared⟩
      rcases mem_append.mp member with earlier | found
      · exact apart.saved row earlier
      · obtain ⟨listed, same⟩ := mem_filter.mp found
        obtain ⟨old, stored, rfl⟩ := mem_map.mp listed
        rw [kept old stored]
        by_contra other
        rw [spared old stored other] at same
        exact free old stored other (of_decide_eq_true same)
    · exact insert_apart owned apart saved

end

structure Saving.Alike (one two : Saving) (tenantId : String) : Prop where
  saved : one.saved = two.saved
  rows : mine tenantId one.rows = mine tenantId two.rows

/-- The outcomes of a step from alike states: the same error, or alike states. -/
def AlikeOutcome (tenantId : String) (first second : Except Failure Saving) : Prop :=
  first.map (fun state => (state.saved, mine tenantId state.rows)) = second.map fun state => (state.saved, mine tenantId state.rows)

variable {one two : Saving}

theorem any_mine (clear : metadata.Clear tenantId rows id) :
    (∀ row ∈ rows, row.value metadata.primary ≠ id) ↔ ∀ row ∈ mine tenantId rows, row.value metadata.primary ≠ id := by
  constructor
  · exact fun free row member => free row (mem_filter.mp member).1
  · intro free row member
    by_cases owned : row.tenantId = tenantId
    · exact free row (mem_filter.mpr ⟨member, decide_eq_true owned⟩)
    · exact clear row member owned

theorem insert_alike (alike : one.Alike two tenantId) (first : metadata.Clear tenantId one.rows id)
    (second : metadata.Clear tenantId two.rows id) :
    AlikeOutcome tenantId (metadata.insert tenantId one entity.properties id) (metadata.insert tenantId two entity.properties id) := by
  have same : (∀ row ∈ one.rows, row.value metadata.primary ≠ id) ↔ ∀ row ∈ two.rows, row.value metadata.primary ≠ id := by
    rw [any_mine first, any_mine second, alike.rows]
  unfold AlikeOutcome Metadata.insert ensure
  by_cases free : ∀ row ∈ one.rows, row.value metadata.primary ≠ id
  · rw [if_pos free, if_pos (same.mp free)]
    change ok (one.saved ++ [_], mine tenantId (one.rows ++ [_])) = ok (two.saved ++ [_], mine tenantId (two.rows ++ [_]))
    have rows := alike.rows
    rw [mine, mine] at rows
    rw [alike.saved, mine, mine, filter_append, filter_append, rows]
  · rw [if_neg free, if_neg fun other => free (same.mpr other)]
    rfl

theorem saveOne_alike (owned : Owned metadata tenantId entity) (alike : one.Alike two tenantId)
    (agree : mine tenantId beforeOne = mine tenantId beforeTwo) (sparedOne : foreign tenantId one.rows = foreign tenantId beforeOne)
    (sparedTwo : foreign tenantId two.rows = foreign tenantId beforeTwo)
    (clear : metadata.Clear tenantId beforeOne ((metadata.idOf entity.properties).getD entity.generated) ∧
      metadata.Clear tenantId beforeTwo ((metadata.idOf entity.properties).getD entity.generated)) :
    AlikeOutcome tenantId (metadata.saveOne tenantId beforeOne one entity) (metadata.saveOne tenantId beforeTwo two entity) := by
  unfold saveOne
  cases gives : metadata.idOf entity.properties with
  | none =>
    rw [gives] at clear
    exact insert_alike alike (clear.1.of_foreign sparedOne) (clear.2.of_foreign sparedTwo)
  | some id =>
    rw [gives] at clear
    have freeOne := clear.1.of_foreign sparedOne
    have freeTwo := clear.2.of_foreign sparedTwo
    have sides : (∀ row ∈ beforeOne, row.value metadata.primary ≠ id) ↔ ∀ row ∈ beforeTwo, row.value metadata.primary ≠ id := by
      have first : metadata.Clear tenantId beforeOne id := clear.1
      have second : metadata.Clear tenantId beforeTwo id := clear.2
      rw [any_mine first, any_mine second, agree]
    have known : (beforeOne.any fun row => decide (row.value metadata.primary = id)) =
        beforeTwo.any fun row => decide (row.value metadata.primary = id) := by
      rw [Bool.eq_iff_iff, ← not_iff_not, Bool.not_eq_true, Bool.not_eq_true, any_eq_false, any_eq_false]
      simp only [decide_eq_true_iff]
      exact sides
    dsimp only
    rw [known]
    split
    · have left : ∀ rows, metadata.Clear tenantId rows id →
          mine tenantId (rows.map fun row => if row.value metadata.primary = id then metadata.patch entity.properties row else row) =
            (mine tenantId rows).map fun row => if row.value metadata.primary = id then metadata.patch entity.properties row else row :=
        fun rows free => mine_map (overwritten owned free).1
      have found : ∀ rows, metadata.Clear tenantId rows id →
          ((rows.map fun row => if row.value metadata.primary = id then metadata.patch entity.properties row else row).filter
            fun row => decide (row.value metadata.primary = id)) =
          ((mine tenantId rows).map fun row => if row.value metadata.primary = id then metadata.patch entity.properties row else row).filter
            fun row => decide (row.value metadata.primary = id) := by
        intro rows free
        rw [← left rows free]
        refine (filter_mine fun row listed same => ?_).symm
        obtain ⟨kept, spared⟩ := overwritten owned free
        obtain ⟨old, stored, rfl⟩ := mem_map.mp listed
        rw [kept old stored]
        by_contra other
        rw [spared old stored other] at same
        exact free old stored other (of_decide_eq_true same)
      simp only [AlikeOutcome, Except.map, found _ freeOne, found _ freeTwo, left _ freeOne, left _ freeTwo, alike.saved, alike.rows]
    · exact insert_alike alike freeOne freeTwo

theorem saves_alike (agree : mine tenantId beforeOne = mine tenantId beforeTwo)
    {entities : List NewEntity} (owned : ∀ entity ∈ entities, Owned metadata tenantId entity)
    (clear : ∀ entity ∈ entities, metadata.Clear tenantId beforeOne ((metadata.idOf entity.properties).getD entity.generated) ∧
      metadata.Clear tenantId beforeTwo ((metadata.idOf entity.properties).getD entity.generated))
    (alike : one.Alike two tenantId) (apartOne : one.Apart tenantId beforeOne) (apartTwo : two.Apart tenantId beforeTwo) :
    AlikeOutcome tenantId (entities.foldlM (metadata.saveOne tenantId beforeOne) one)
      (entities.foldlM (metadata.saveOne tenantId beforeTwo) two) := by
  induction entities generalizing one two with
  | nil =>
    change ok (one.saved, mine tenantId one.rows) = ok (two.saved, mine tenantId two.rows)
    rw [alike.saved, alike.rows]
  | cons entity entities inner =>
    obtain ⟨freeOne, freeTwo⟩ := clear entity (.head _)
    have here := owned entity (.head _)
    have step := saveOne_alike here alike agree apartOne.spared apartTwo.spared (clear entity (.head _))
    rw [List.foldlM_cons, List.foldlM_cons]
    rcases outcomes_cases step with ⟨failure, first, second⟩ | ⟨nextOne, nextTwo, first, second, same⟩
    · rw [first, second]
      rfl
    · obtain ⟨saved, rows⟩ := Prod.mk.inj same
      rw [first, second]
      refine inner (fun other listed => owned other (.tail _ listed)) (fun other listed => clear other (.tail _ listed)) ⟨saved, rows⟩
        ?_ ?_
      · exact saveOne_apart here apartOne (fun id gives => by rw [gives] at freeOne; exact freeOne) first
      · exact saveOne_apart here apartTwo (fun id gives => by rw [gives] at freeTwo; exact freeTwo) second

end Saving

theorem Where.accepts_iff {condition : Where} :
    condition.accepts row = true ↔ ∀ property wanted, condition.lookup property = some wanted → wanted.accepts (row.value property) = true := by
  rw [Where.accepts, all_eq_true]
  constructor
  · exact fun meets property wanted found => meets ⟨property, wanted⟩ (AList.mem_lookup_iff.mp found)
  · exact fun meets entry member => meets entry.1 entry.2 (AList.mem_lookup_iff.mpr member)

theorem isNot_accepts : (isNot (.text tenantId)).accepts (row.value "tenantId") = true ↔ row.tenantId ≠ tenantId := by
  simp [isNot, Condition.accepts, Row.value]

theorem foreign_accepts {id} :
    Where.accepts (((∅ : Where).insert metadata.primary (.equals id)).insert "tenantId" (isNot (.text tenantId))) row = true ↔
      row.tenantId ≠ tenantId ∧ (metadata.primary = "tenantId" ∨ row.value metadata.primary = id) := by
  rw [Where.accepts_iff]
  constructor
  · intro meets
    refine ⟨isNot_accepts.mp (meets "tenantId" _ (Table.lookup_insert_self ..)), ?_⟩
    by_cases same : metadata.primary = "tenantId"
    · exact .inl same
    · right
      have found := meets metadata.primary (.equals id) (by rw [Table.lookup_insert_if, if_neg same, Table.lookup_insert_self])
      exact of_decide_eq_true found
  · rintro ⟨other, primary⟩ property wanted found
    rcases Table.of_lookup_insert found with ⟨rfl, rfl⟩ | ⟨apart, found⟩
    · exact isNot_accepts.mpr other
    · rcases Table.of_lookup_insert found with ⟨rfl, rfl⟩ | ⟨-, found⟩
      · exact decide_eq_true (primary.resolve_left apart)
      · cases found

theorem assertNoForeignRows_ok :
    metadata.assertNoForeignRows tenantId entities rows = .ok () ↔ ∀ entity ∈ entities, ∀ id, metadata.idOf entity.properties = some id →
      ∀ row ∈ rows, row.tenantId ≠ tenantId → metadata.primary ≠ "tenantId" ∧ row.value metadata.primary ≠ id := by
  have found : ∀ row ∈ rows, (((entities.filterMap fun entity => metadata.idOf entity.properties).map fun id =>
      ((∅ : Where).insert metadata.primary (.equals id)).insert "tenantId" (isNot (.text tenantId))).any fun condition => Where.accepts condition row) = true ↔
      ∃ entity ∈ entities, ∃ id, metadata.idOf entity.properties = some id ∧ row.tenantId ≠ tenantId ∧
        (metadata.primary = "tenantId" ∨ row.value metadata.primary = id) := by
    intro row _
    simp only [List.any_eq_true, List.mem_map, List.mem_filterMap]
    constructor
    · rintro ⟨_, ⟨id, ⟨entity, listed, gives⟩, rfl⟩, accepted⟩
      exact ⟨entity, listed, id, gives, foreign_accepts.mp accepted⟩
    · rintro ⟨entity, listed, id, gives, accepted⟩
      exact ⟨_, ⟨id, ⟨entity, listed, gives⟩, rfl⟩, foreign_accepts.mpr accepted⟩
  have passed : metadata.assertNoForeignRows tenantId entities rows = .ok () ↔ ∀ row ∈ rows, ¬∃ entity ∈ entities, ∃ id,
      metadata.idOf entity.properties = some id ∧ row.tenantId ≠ tenantId ∧
        (metadata.primary = "tenantId" ∨ row.value metadata.primary = id) := by
    unfold assertNoForeignRows
    dsimp only
    split
    · next none =>
      refine ⟨fun _ row member => ?_, fun _ => rfl⟩
      rintro ⟨entity, listed, id, gives, -⟩
      have inside : id ∈ entities.filterMap fun entity => metadata.idOf entity.properties := List.mem_filterMap.mpr ⟨entity, listed, gives⟩
      rw [List.isEmpty_iff.mp none] at inside
      cases inside
    · rw [ensure_eq_ok, List.isEmpty_iff, List.take_eq_nil_iff, or_iff_right one_ne_zero, select, List.filter_eq_nil_iff]
      refine forall_congr' fun row => forall_congr' fun member => not_congr ?_
      rw [Bool.true_or, Bool.true_and]
      exact found row member
  rw [passed]
  constructor
  · intro none entity listed id gives row member other
    have absent := fun accepted => none row member ⟨entity, listed, id, gives, other, accepted⟩
    exact ⟨fun same => absent (.inl same), fun same => absent (.inr same)⟩
  · rintro none row member ⟨entity, listed, id, gives, other, accepted⟩
    obtain ⟨apart, differs⟩ := none entity listed id gives row member other
    exact accepted.elim apart differs

def Metadata.Passes (metadata : Metadata) (tenantId : String) (entities : List NewEntity) : Prop :=
  ∀ entity ∈ entities, metadata.assertTenant tenantId entity.properties "Entity" = .ok ()

theorem forM_ok : (entities.forM fun entity => metadata.assertTenant tenantId entity.properties "Entity") = .ok () ↔
    metadata.Passes tenantId entities := by
  induction entities with
  | nil =>
    refine ⟨fun _ entity member => ?_, fun _ => rfl⟩
    cases member
  | cons entity entities inner =>
    rw [List.forM, bind_eq_ok]
    constructor
    · rintro ⟨_, first, rest⟩ other member
      rcases List.mem_cons.mp member with rfl | later
      · exact first
      · exact inner.mp rest other later
    · intro passes
      exact ⟨(), passes entity (.head _), inner.mpr fun other member => passes other (.tail _ member)⟩

theorem Metadata.Passes.owned (passes : metadata.Passes tenantId entities) :
    ∀ entity ∈ entities.map (owned tenantId), Owned metadata tenantId entity := by
  rw [forall_mem_map]
  intro given listed
  exact owned_of_assert (passes given listed)

theorem idOf_owned (different : metadata.primary ≠ "tenantId") (entity : NewEntity) :
    metadata.idOf (entity.owned tenantId).properties = metadata.idOf entity.properties := by
  unfold idOf written
  rw [if_neg different, if_neg different]
  congr 1
  exact (Table.lookup_insert_if ..).trans (if_neg different)

theorem idOf_tenant (same : metadata.primary = "tenantId") {entity} (owned : Owned metadata tenantId entity) :
    metadata.idOf entity.properties = some (.text tenantId) := by
  unfold idOf written
  rw [if_pos same, owned]
  rfl

theorem clear_tenant (same : metadata.primary = "tenantId") (rows : List Row) : metadata.Clear tenantId rows (.text tenantId) := by
  intro row _ other taken
  rw [same] at taken
  exact other (Value.text.inj taken)

theorem clear_of_assert (passes : metadata.Passes tenantId entities)
    (checked : metadata.assertNoForeignRows tenantId entities rows = .ok ()) :
    ∀ entity ∈ entities.map (owned tenantId), ∀ id, metadata.idOf entity.properties = some id →
      metadata.Clear tenantId rows id := by
  intro entity member id gives
  by_cases same : metadata.primary = "tenantId"
  · rw [idOf_tenant same (passes.owned entity member)] at gives
    cases gives
    exact clear_tenant same rows
  · obtain ⟨given, listed, rfl⟩ := mem_map.mp member
    rw [idOf_owned same] at gives
    exact fun row inside other => (assertNoForeignRows_ok.mp checked given listed id gives row inside other).2

theorem save_apart {answer} (done : metadata.save tenantId entities rows = .ok (answer, after)) :
    (∀ row ∈ answer.handed, row.tenantId = tenantId) ∧ foreign tenantId after = foreign tenantId rows := by
  simp only [save, eq_ok] at done
  obtain ⟨_, tested, _, checked, state, saved, same⟩ := done
  cases same
  have passes := forM_ok.mp tested
  have clear := clear_of_assert passes checked
  have apart : state.Apart tenantId rows := by
    refine foldlM_preserves (fun state : Saving => state.Apart tenantId rows) ?_ ⟨fun row member => ?_, rfl⟩ saved
    · intro entity member before after apart written
      exact saveOne_apart (passes.owned entity member) apart (clear entity member) written
    · cases member
  exact ⟨apart.saved, apart.spared⟩

def Metadata.MistakesTenants (metadata : Metadata) (tenantId : String) : Call → Prop
  | .save entities => metadata.primary = "tenantId" ∧ metadata.Passes tenantId entities ∧
      ∃ entity ∈ entities, (metadata.idOf entity.properties).isSome = true
  | _ => False

theorem save_blind (apart : ¬metadata.MistakesTenants tenantId (.save entities)) (agree : mine tenantId one = mine tenantId two)
    (clear : ∀ id ∈ metadata.idsOf tenantId (.save entities), metadata.Clear tenantId one id ∧ metadata.Clear tenantId two id) :
    metadata.visible tenantId (.save entities) one = metadata.visible tenantId (.save entities) two := by
  change (metadata.save tenantId entities one).map (fun result => (result.1, mine tenantId result.2)) =
    (metadata.save tenantId entities two).map fun result => (result.1, mine tenantId result.2)
  unfold save
  cases tested : entities.forM fun entity => metadata.assertTenant tenantId entity.properties "Entity" with
  | error => rfl
  | ok =>
    have passes := forM_ok.mp tested
    have named : ∀ entity ∈ entities.map (owned tenantId),
        metadata.Clear tenantId one ((metadata.idOf entity.properties).getD entity.generated) ∧
          metadata.Clear tenantId two ((metadata.idOf entity.properties).getD entity.generated) := by
      rw [forall_mem_map]
      intro given listed
      exact clear _ (mem_map.mpr ⟨given, listed, rfl⟩)
    have checked : ∀ rows, (∀ entity ∈ entities.map (owned tenantId),
        metadata.Clear tenantId rows ((metadata.idOf entity.properties).getD entity.generated)) →
        metadata.assertNoForeignRows tenantId entities rows = .ok () := by
      intro rows free
      refine assertNoForeignRows_ok.mpr fun entity listed id gives row inside other => ?_
      have different : metadata.primary ≠ "tenantId" :=
        fun same => apart ⟨same, passes, entity, listed, by rw [gives]; rfl⟩
      have own := free _ (mem_map.mpr ⟨entity, listed, rfl⟩)
      rw [idOf_owned different, gives] at own
      exact ⟨different, own row inside other⟩
    have started : ∀ rows, ({ rows } : Saving).Apart tenantId rows := by
      refine fun rows => ⟨fun row member => ?_, rfl⟩
      cases member
    have alike : ({ rows := one } : Saving).Alike { rows := two } tenantId := ⟨rfl, agree⟩
    have saves := saves_alike agree passes.owned named alike (started one) (started two)
    rw [checked one fun entity member => (named entity member).1, checked two fun entity member => (named entity member).2]
    rcases outcomes_cases saves with ⟨failure, first, second⟩ | ⟨stateOne, stateTwo, first, second, same⟩
    · rw [first, second]
    · obtain ⟨saved, rows⟩ := Prod.mk.inj same
      rw [first, second]
      change ok (Answer.rows stateOne.saved, mine tenantId stateOne.rows) =
        ok (Answer.rows stateTwo.saved, mine tenantId stateTwo.rows)
      rw [saved, rows]

theorem saves_error {before state failure}
    (failed : entities.foldlM (metadata.saveOne tenantId before) state = .error failure) : failure = .duplicateKey := by
  have inserting : ∀ (state : Saving) (values : Properties) (id : Value),
      metadata.insert tenantId state values id = .error failure → failure = .duplicateKey := by
    intro state values id refused
    unfold Metadata.insert ensure at refused
    split at refused
    · cases refused
    · cases refused
      rfl
  induction entities generalizing state with
  | nil => cases failed
  | cons entity entities inner =>
    rw [List.foldlM_cons] at failed
    cases first : metadata.saveOne tenantId before state entity with
    | ok next =>
      rw [first] at failed
      exact inner failed
    | error other =>
      rw [first] at failed
      cases failed
      unfold Metadata.saveOne at first
      split at first
      · exact inserting _ _ _ first
      · split at first
        · cases first
        · exact inserting _ _ _ first

theorem Metadata.MistakesTenants.tells {call} (mistakes : metadata.MistakesTenants tenantId call) :
    ¬metadata.Isolated tenantId call := by
  cases call with
  | save entities =>
    obtain ⟨same, passes, entity, listed, known⟩ := mistakes
    intro isolated
    obtain ⟨other, different⟩ : ∃ other : String, other ≠ tenantId := by
      by_cases empty : tenantId = ""
      · refine ⟨"other", ?_⟩
        rw [empty]
        decide
      · exact ⟨"", Ne.symm empty⟩
    have mineless : mine tenantId [⟨other, fun _ => .null, false⟩] = [] := by
      rw [mine, filter_singleton, decide_eq_false different]
      rfl
    have told := isolated.blind [] [⟨other, fun _ => .null, false⟩] mineless.symm (by
      intro id member
      obtain ⟨given, inside, rfl⟩ := mem_map.mp member
      rw [idOf_tenant same (passes.owned _ (mem_map.mpr ⟨given, inside, rfl⟩)), Option.getD_some]
      exact ⟨clear_tenant same _, clear_tenant same _⟩)
    obtain ⟨id, gives⟩ := Option.isSome_iff_exists.mp known
    have refused : metadata.assertNoForeignRows tenantId entities [⟨other, fun _ => .null, false⟩] = .error (.tenantMismatch "Entity id") := by
      have denied : metadata.assertNoForeignRows tenantId entities [⟨other, fun _ => .null, false⟩] ≠ .ok () :=
        fun passed => (assertNoForeignRows_ok.mp passed entity listed id gives _ (.head _) different).1 same
      unfold assertNoForeignRows ensure at *
      dsimp only at *
      split
      · next none =>
        rw [if_pos none] at denied
        exact absurd rfl denied
      · next some =>
        rw [if_neg some] at denied
        split
        · next empty =>
          rw [if_pos empty] at denied
          exact absurd rfl denied
        · rfl
    have accepted : metadata.assertNoForeignRows tenantId entities [] = .ok () :=
      assertNoForeignRows_ok.mpr fun _ _ _ _ row inside => by cases inside
    have tested := forM_ok.mpr passes
    unfold visible perform save at told
    dsimp only at told
    rw [tested, refused, accepted] at told
    cases saved : (entities.map (owned tenantId)).foldlM (metadata.saveOne tenantId []) { rows := [] } with
    | ok =>
      rw [saved] at told
      cases told
    | error failure =>
      rw [saved, saves_error saved] at told
      cases told
  | find | findOne | findOneBy | count | exist | findAndCount | update | softDelete | delete => cases mistakes

end Calls

/-- A call keeps tenants apart, unless it saves an entity whose id is its tenant and that names the tenant. -/
theorem tenants_isolated_iff (metadata : Metadata) (tenantId : String) (call : Call) :
    metadata.Isolated tenantId call ↔ ¬metadata.MistakesTenants tenantId call := by
  constructor
  · intro isolated mistakes
    exact mistakes.tells isolated
  · intro apart
    cases call with
    | find options =>
      exact read_isolated options.where' options.withDeleted (fun found => .rows (options.arrange found)) (fun _ => rfl)
        fun _ _ => mem_arrange
    | findOne options =>
      refine read_isolated options.where' options.withDeleted (fun found => .row (options.arrange found).head?) (fun _ => rfl) ?_
      exact fun found row member => mem_arrange (mem_of_mem_head? (Option.mem_toList.mp member))
    | findOneBy condition =>
      refine read_isolated condition false (fun found => .row found.head?) (fun _ => rfl) ?_
      exact fun found row member => mem_of_mem_head? (Option.mem_toList.mp member)
    | count options =>
      refine read_isolated options.where' options.withDeleted (fun found => .number found.length) (fun _ => rfl) ?_
      intro found row member
      cases member
    | exist options =>
      refine read_isolated options.where' options.withDeleted (fun found => .truth !found.isEmpty) (fun _ => rfl) ?_
      intro found row member
      cases member
    | findAndCount options =>
      exact read_isolated options.where' options.withDeleted (fun found => .page (options.arrange found) found.length) (fun _ => rfl)
        fun _ _ => mem_arrange
    | save entities =>
      exact ⟨fun rows answer after done => (save_apart done).1, fun rows answer after done => (save_apart done).2,
        fun one two agree clear => save_blind apart agree clear⟩
    | update criteria values =>
      have own : ∀ {rows : List Row} {result : Answer × List Row}, metadata.update tenantId criteria values rows = .ok result →
          (∀ value, metadata.tenantColumn values = some value → value = .text tenantId) ∧
            metadata.write tenantId criteria (fun condition => metadata.updateWhere condition values) rows = .ok result := by
        intro rows result done
        simp only [update, eq_ok] at done
        obtain ⟨_, tested, done⟩ := done
        exact ⟨assertTenant_own tested, done⟩
      refine ⟨fun rows answer after done => ?_, fun rows answer after done => ?_, fun one two agree clear => ?_⟩
      · obtain ⟨tested, done⟩ := own done
        rw [((updateWhere_apart tested).spared done).1]
        intro row member
        cases member
      · obtain ⟨tested, done⟩ := own done
        exact ((updateWhere_apart tested).spared done).2
      · change (metadata.update tenantId criteria values one).map (fun result => (result.1, mine tenantId result.2)) =
          (metadata.update tenantId criteria values two).map fun result => (result.1, mine tenantId result.2)
        unfold update
        cases tested : metadata.assertTenant tenantId values "Update" with
        | error => rfl
        | ok => exact (updateWhere_apart (assertTenant_own tested)).written criteria agree clear
    | softDelete criteria =>
      refine ⟨fun rows answer after done => ?_, fun rows answer after done => (softDeleteWhere_apart.spared done).2,
        fun one two agree _ => softDeleteWhere_apart.written criteria agree fun id member => by cases member⟩
      rw [(softDeleteWhere_apart.spared done).1]
      intro row member
      cases member
    | delete criteria =>
      refine ⟨fun rows answer after done => ?_, fun rows answer after done => (deleteWhere_apart.spared done).2,
        fun one two agree _ => deleteWhere_apart.written criteria agree fun id member => by cases member⟩
      rw [(deleteWhere_apart.spared done).1]
      intro row member
      cases member

def planQuotaMetadata : Metadata := { primary := "tenantId", hasDeleteDate := false }

def planQuotaRow : NewEntity where
  properties := { columns := (((∅ : Table String Value).insert "planCode" (.text "pro")).insert "tenantId" (.text "hanoi")) }
  generated := .null

/-- A store saves its own row while it is alone, and no longer once another store has a row. -/
theorem plan_quota_refused_beside :
    (planQuotaMetadata.perform "hanoi" (.save [planQuotaRow]) []).isOk = true ∧
      planQuotaMetadata.perform "hanoi" (.save [planQuotaRow]) [⟨"hue", fun _ => .null, false⟩] =
        .error (.tenantMismatch "Entity id") ∧
      ¬planQuotaMetadata.Isolated "hanoi" (.save [planQuotaRow]) := by
  refine ⟨rfl, rfl, ?_⟩
  apply MistakesTenants.tells
  refine ⟨rfl, fun entity member => ?_, planQuotaRow, .head _, rfl⟩
  rw [mem_singleton.mp member]
  rfl

end Tenancy
