import RetailApi.Catalog.Edits

/-! What a call has done so far, as long as nobody else commits an entity between its reading and its saving: each row it has
locked is the committed row with its changes, under a higher version, and the events it is about to send say the versions
between. -/

namespace Catalog

open RowLocks Transaction EditTransaction EditRun List ProductVariant

def CatalogEvent.about : CatalogEvent → Entity × Nat
  | .productCreated payload | .productUpdated payload | .productDeactivated payload =>
    (.product payload.productId, payload.aggregateVersion)
  | .variantCreated payload | .variantUpdated payload | .variantDeactivated payload =>
    (.variant payload.variantId, payload.aggregateVersion)

def versionsOn (events : List CatalogEvent) (entity : Entity) : List Nat :=
  (events.filter fun event => event.about.1 = entity).map fun event => event.about.2

def editsOn (edits : List RowEdit) (entity : Entity) : List RowEdit := edits.filter fun edit => edit.entity = entity

theorem versionsOn_append (first second : List CatalogEvent) (entity : Entity) :
    versionsOn (first ++ second) entity = versionsOn first entity ++ versionsOn second entity := by
  rw [versionsOn, filter_append, map_append]
  rfl

theorem versionsOn_single (event : CatalogEvent) (entity : Entity) :
    versionsOn [event] entity = if event.about.1 = entity then [event.about.2] else [] := by
  rw [versionsOn, filter_singleton]
  by_cases same : event.about.1 = entity
  · rw [if_pos same, decide_eq_true same]
    rfl
  · rw [if_neg same, decide_eq_false same]
    rfl

theorem editsOn_append (first second : List RowEdit) (entity : Entity) :
    editsOn (first ++ second) entity = editsOn first entity ++ editsOn second entity :=
  filter_append ..

theorem editsOn_single (edit : RowEdit) (entity : Entity) : editsOn [edit] entity = if edit.entity = entity then [edit] else [] := by
  rw [editsOn, filter_singleton]
  by_cases same : edit.entity = entity
  · rw [if_pos same, decide_eq_true same]
    rfl
  · rw [if_neg same, decide_eq_false same]
    rfl

theorem productEvent_about (request : EditRequest) (payload : CatalogProductEventPayload) :
    (request.productEvent payload).about = (.product payload.productId, payload.aggregateVersion) := by
  unfold EditRequest.productEvent productStatusEvent
  split
  · split <;> rfl
  · rfl
  · rfl

theorem variantEvent_about (request : EditRequest) (copy : ProductVariant) (payload : CatalogVariantEventPayload) :
    (request.variantEvent copy payload).about = (.variant payload.variantId, payload.aggregateVersion) := by
  unfold EditRequest.variantEvent variantStatusEvent
  split
  · rfl
  · split <;> rfl
  · rfl

section Save

variable (save : Save) (now : Nat)

theorem Save.edit_entity : (save.edit now).entity = save.entity := by
  cases save <;> rfl

theorem Save.changed_version : save.changed.version = save.copy.version + 1 := by
  cases save with
  | product productId copy change => cases change <;> rfl
  | variant variantId copy change => cases change <;> rfl

theorem Save.edited_version : ((save.edit now).apply save.copy).version = save.copy.version + 1 := by
  cases save with
  | product productId copy change => cases change <;> rfl
  | variant variantId copy change => cases change <;> rfl

theorem Save.changed_ne : save.changed ≠ save.copy := by
  intro same
  have next := save.changed_version
  rw [same] at next
  omega

theorem patchColumn_self {α : Type} [DecidableEq α] (before saved : α) : patchColumn before saved before = saved := by
  unfold patchColumn
  split
  · next same => exact same.symm
  · rfl

theorem patchColumn_saved {α : Type} [DecidableEq α] (before saved : α) : patchColumn before saved saved = saved := ite_self _

theorem Save.patched_own : save.copy.patched now save.changed save.copy = (save.edit now).apply save.copy ∧
    save.copy.patched now save.changed save.changed = (save.edit now).apply save.copy := by
  cases save with
  | product productId copy change =>
    have kept : (change.apply copy).updatedAt = copy.updatedAt := by cases change <;> rfl
    simp only [Save.copy, Save.changed, CatalogRow.patched, Product.patched, Save.edit, RowEdit.apply, patchColumn_self,
      patchColumn_saved]
    rw [patchColumn, if_pos kept]
    exact ⟨rfl, rfl⟩
  | variant variantId copy change =>
    have kept : (change.apply copy).updatedAt = copy.updatedAt := by cases change <;> rfl
    simp only [Save.copy, Save.changed, CatalogRow.patched, patched, Save.edit, RowEdit.apply, patchColumn_self,
      patchColumn_saved]
    rw [patchColumn, if_pos kept]
    exact ⟨rfl, rfl⟩

end Save

def Passed (locks : Locks Entity CatalogRow) (entity : Entity) (number : Nat) : Prop :=
  ∃ version before after, locks.lookup entity = some version ∧ version.before = some before ∧ version.after = some after ∧
    before.version < number ∧ number ≤ after.version

structure EditTransaction.Coherent (tx : EditTransaction) : Prop where
  edited : ∀ entity version, tx.locks.lookup entity = some version →
    version.after = version.before.map (editsOn tx.edits entity |>.foldl RowEdit.apply)
  untouched : ∀ entity, tx.locks.lookup entity = none → editsOn tx.edits entity = []
  raised : ∀ entity version, tx.locks.lookup entity = some version →
    ∃ before after, version.before = some before ∧ version.after = some after ∧ before.version < after.version
  ordered : ∀ entity, (versionsOn tx.events entity).Pairwise (· < ·)
  announced : ∀ entity, ∀ number ∈ versionsOn tx.events entity, Passed tx.locks entity number

def EditTransaction.Idle (tx : EditTransaction) : Prop :=
  tx.locks = ∅ ∧ tx.events = [] ∧ tx.edits = []

def EditTransaction.Replaces (tx : EditTransaction) : Prop :=
  ∀ expected, tx.request.expected = some expected → ∃ version before,
    tx.locks.lookup tx.request.entity = some version ∧ version.before = some before ∧ before.version = expected

/-- The product that the call holds is the one it has left, and is not announced yet. -/
structure EditTransaction.Holds (tx : EditTransaction) (productId : Uuid) (product : Product) : Prop where
  left : ∃ version after, tx.locks.lookup (.product productId) = some version ∧ version.after = some after ∧
    after.version = product.version
  silent : versionsOn tx.events (.product productId) = []

/-- The first save is of the entity that the call is for, in the version that it expects. -/
structure EditTransaction.First (tx : EditTransaction) (save : Save) : Prop where
  idle : tx.Idle
  entity : save.entity = tx.request.entity
  expected : ∀ expected, tx.request.expected = some expected → save.copy.version = expected

structure EditTransaction.Later (tx : EditTransaction) (save : Save) (loop : VariantLoop) : Prop where
  replaces : tx.Replaces
  holds : tx.Holds loop.productId loop.product
  variant : ∃ variantId, save.entity = .variant variantId

def EditTransaction.Fits (tx : EditTransaction) : Prop :=
  match tx.stage with
  | .find => tx.Idle
  | .findOwner variantId variant _ => tx.Idle ∧ tx.request.entity = .variant variantId ∧
      ∀ expected, tx.request.expected = some expected → variant.version = expected
  | .reread save none => tx.First save
  | .reread save (some loop) => tx.Later save loop
  | .update save before none => tx.First save ∧ before = save.copy
  | .update save before (some loop) => tx.Later save loop ∧ before = save.copy
  | .findVariants productId product => tx.Replaces ∧ tx.Holds productId product
  | .commit => tx.Replaces

structure EditTransaction.Sound (tx : EditTransaction) (rows : Table Entity CatalogRow) : Prop where
  held : Held tx.locks rows
  coherent : tx.Coherent
  fits : tx.Fits

section Transactions

variable {tx : EditTransaction} {rows : Table Entity CatalogRow} {entity : Entity}

theorem EditTransaction.Coherent.seen (coherent : tx.Coherent) (held : Held tx.locks rows) (entity : Entity) :
    seen tx.locks rows entity = (rows.lookup entity).map (editsOn tx.edits entity |>.foldl RowEdit.apply) := by
  rw [RowLocks.seen]
  cases locked : tx.locks.lookup entity with
  | some version => rw [held entity version locked, ← coherent.edited entity version locked]
  | none =>
    rw [coherent.untouched entity locked]
    exact Option.map_id'.symm

theorem EditTransaction.Idle.coherent (idle : tx.Idle) : tx.Coherent := by
  obtain ⟨unlocked, silent, unedited⟩ := idle
  refine ⟨fun entity version locked => ?_, fun entity _ => ?_, fun entity version locked => ?_, fun entity => ?_,
    fun entity number listed => ?_⟩
  · rw [unlocked] at locked
    cases locked
  · rw [unedited]
    rfl
  · rw [unlocked] at locked
    cases locked
  · rw [silent]
    exact .nil
  · rw [silent] at listed
    cases listed

theorem EditTransaction.Coherent.add (coherent : tx.Coherent) {event}
    (passed : Passed tx.locks event.about.1 event.about.2)
    (above : ∀ number ∈ versionsOn tx.events event.about.1, number < event.about.2) :
    (tx.add event).Coherent := by
  refine ⟨coherent.edited, coherent.untouched, coherent.raised, fun entity => ?_, fun entity number listed => ?_⟩
  · change (versionsOn (tx.events ++ [event]) entity).Pairwise (· < ·)
    rw [versionsOn_append, versionsOn_single]
    refine pairwise_append.mpr ⟨coherent.ordered entity, ?_, ?_⟩
    · split
      · exact pairwise_singleton ..
      · exact .nil
    · intro old listed number new
      split at new
      · next same =>
        rw [mem_singleton.mp new]
        exact above old (same ▸ listed)
      · cases new
  · change number ∈ versionsOn (tx.events ++ [event]) entity at listed
    rw [versionsOn_append, versionsOn_single, mem_append] at listed
    rcases listed with old | new
    · exact coherent.announced entity number old
    · split at new
      · next same =>
        rw [mem_singleton.mp new, ← same]
        exact passed
      · cases new

theorem EditTransaction.Coherent.addProduct (coherent : tx.Coherent) {productId product}
    (holds : tx.Holds productId product) :
    (tx.add (tx.request.productEvent (product.payload productId))).Coherent := by
  obtain ⟨version, after, locked, left, level⟩ := holds.left
  obtain ⟨before, same, had, alsoLeft, lower⟩ := coherent.raised _ version locked
  cases left.symm.trans alsoLeft
  apply coherent.add
  · rw [productEvent_about]
    exact ⟨version, before, after, locked, had, left, lt_of_lt_of_eq lower level, le_of_eq level.symm⟩
  · rw [productEvent_about]
    intro number listed
    rw [show versionsOn tx.events (Entity.product (product.payload productId).productId) = [] from holds.silent] at listed
    cases listed

def EditTransaction.updated (tx : EditTransaction) (rows : Table Entity CatalogRow) (save : Save) : EditTransaction :=
  { tx with
    locks := write tx.locks rows save.entity (some ((save.edit tx.now).apply save.copy))
    edits := tx.edits ++ [save.edit tx.now] }

section Updated

variable {save : Save}

theorem EditTransaction.updated_lookup (save : Save) (held : Held tx.locks rows) :
    (tx.updated rows save).locks.lookup save.entity =
      some ⟨rows.lookup save.entity, some ((save.edit tx.now).apply save.copy)⟩ := by
  rw [updated, lookup_write, if_pos rfl, held.before]

theorem EditTransaction.updated_lookup_ne (different : entity ≠ save.entity) :
    (tx.updated rows save).locks.lookup entity = tx.locks.lookup entity := by
  rw [updated, lookup_write, if_neg different]

theorem EditTransaction.updated_edits (entity : Entity) : editsOn (tx.updated rows save).edits entity =
    if save.entity = entity then editsOn tx.edits entity ++ [save.edit tx.now] else editsOn tx.edits entity := by
  rw [updated, editsOn_append, editsOn_single, save.edit_entity]
  split
  · rfl
  · exact append_nil _

variable (coherent : tx.Coherent) (held : Held tx.locks rows)
  (current : RowLocks.seen tx.locks rows save.entity = some save.copy)

include coherent held current

theorem EditTransaction.Coherent.committed : ∃ before, rows.lookup save.entity = some before ∧ before.version ≤ save.copy.version ∧
    (tx.locks.lookup save.entity = none → before = save.copy) := by
  cases locked : tx.locks.lookup save.entity with
  | none =>
    rw [RowLocks.seen, locked] at current
    exact ⟨save.copy, current, le_refl _, fun _ => rfl⟩
  | some version =>
    obtain ⟨before, after, had, left, lower⟩ := coherent.raised _ version locked
    rw [RowLocks.seen, locked] at current
    cases left.symm.trans current
    exact ⟨before, (held _ version locked).trans had, lower.le, fun impossible => by cases impossible⟩

theorem EditTransaction.Coherent.updated : (tx.updated rows save).Coherent := by
  obtain ⟨before, stored, lower, -⟩ := coherent.committed held current
  have next := save.edited_version tx.now
  refine ⟨fun entity version locked => ?_, fun entity unlocked => ?_, fun entity version locked => ?_, coherent.ordered,
    fun entity number listed => ?_⟩
  · rw [updated_edits]
    by_cases same : save.entity = entity
    · subst same
      rw [updated_lookup _ held] at locked
      cases locked
      have sees := coherent.seen held save.entity
      rw [current, stored, Option.map_some] at sees
      rw [if_pos rfl, stored, Option.map_some, foldl_append, ← Option.some.inj sees]
      rfl
    · rw [if_neg same]
      rw [updated_lookup_ne (Ne.symm same)] at locked
      exact coherent.edited entity version locked
  · rw [updated_edits]
    by_cases same : save.entity = entity
    · subst same
      rw [updated_lookup _ held] at unlocked
      cases unlocked
    · rw [if_neg same]
      rw [updated_lookup_ne (Ne.symm same)] at unlocked
      exact coherent.untouched entity unlocked
  · by_cases same : save.entity = entity
    · subst same
      rw [updated_lookup _ held] at locked
      cases locked
      exact ⟨before, _, stored, rfl, by omega⟩
    · rw [updated_lookup_ne (Ne.symm same)] at locked
      exact coherent.raised entity version locked
  · obtain ⟨version, first, last, locked, had, left, above, below⟩ := coherent.announced entity number listed
    by_cases same : save.entity = entity
    · subst same
      refine ⟨_, first, _, updated_lookup _ held, (held _ version locked).trans had, rfl, above, ?_⟩
      rw [RowLocks.seen, locked] at current
      cases left.symm.trans current
      omega
    · exact ⟨version, first, last, (updated_lookup_ne (Ne.symm same)).trans locked, had, left, above, below⟩

omit held in
theorem EditTransaction.Coherent.above : ∀ number ∈ versionsOn tx.events save.entity, number ≤ save.copy.version := by
  intro number listed
  obtain ⟨version, first, last, locked, -, left, -, below⟩ := coherent.announced _ number listed
  rw [RowLocks.seen, locked] at current
  cases left.symm.trans current
  exact below

omit coherent current in
theorem EditTransaction.Replaces.updated (replaces : tx.Replaces) : (tx.updated rows save).Replaces := by
  intro expected wanted
  obtain ⟨version, before, locked, had, level⟩ := replaces expected wanted
  by_cases same : tx.request.entity = save.entity
  · have relocked : (tx.updated rows save).locks.lookup tx.request.entity =
        some ⟨rows.lookup save.entity, some ((save.edit tx.now).apply save.copy)⟩ := by
      rw [same]
      exact updated_lookup _ held
    have stored := (held _ version locked).trans had
    rw [same] at stored
    exact ⟨_, before, relocked, stored, level⟩
  · exact ⟨version, before, (updated_lookup_ne same).trans locked, had, level⟩

end Updated

theorem EditTransaction.nextVariant_sound {loop} (held : Held tx.locks rows)
    (coherent : tx.Coherent) (replaces : tx.Replaces) (holds : tx.Holds loop.productId loop.product) :
    (tx.nextVariant loop).Sound rows := by
  obtain ⟨productId, product, remaining⟩ := loop
  cases remaining with
  | nil =>
    have announced := coherent.addProduct holds
    exact ⟨held, ⟨announced.edited, announced.untouched, announced.raised, announced.ordered, announced.announced⟩, replaces⟩
  | cons entry rest =>
    refine ⟨held, ⟨coherent.edited, coherent.untouched, coherent.raised, coherent.ordered, coherent.announced⟩, replaces, ?_, ?_⟩
    · exact ⟨holds.left, holds.silent⟩
    · exact ⟨entry.1, rfl⟩

section Saved

variable {save : Save} (held : Held tx.locks rows)

include held

theorem EditTransaction.First.replaces (first : tx.First save)
    (current : RowLocks.seen tx.locks rows save.entity = some save.copy) :
    (tx.updated rows save).Replaces := by
  intro expected wanted
  have unlocked : tx.locks.lookup save.entity = none := by
    rw [first.idle.1]
    rfl
  rw [RowLocks.seen, unlocked] at current
  have locked := updated_lookup save held
  refine ⟨⟨rows.lookup save.entity, some ((save.edit tx.now).apply save.copy)⟩, save.copy, ?_, current,
    first.expected expected wanted⟩
  change (tx.updated rows save).locks.lookup tx.request.entity = _
  rw [← first.entity]
  exact locked

theorem EditTransaction.Coherent.addVariant {variantId copy} (change : VariantChange) (coherent : tx.Coherent)
    (current : RowLocks.seen tx.locks rows (.variant variantId) = some (.variant copy)) :
    ((tx.updated rows (.variant variantId copy change)).add (tx.request.variantEvent copy
      (payload variantId { change.apply copy with updatedAt := tx.now }))).Coherent := by
  have sees : RowLocks.seen tx.locks rows (Save.entity (.variant variantId copy change)) =
    some (Save.copy (.variant variantId copy change)) := current
  have saved := coherent.updated held sees
  obtain ⟨before, stored, lower, -⟩ := coherent.committed held sees
  have next : (change.apply copy).version = copy.version + 1 := by cases change <;> rfl
  apply saved.add
  · rw [variantEvent_about]
    refine ⟨_, before, _, updated_lookup (.variant variantId copy change) held, stored, rfl, ?_, ?_⟩
    · exact Nat.lt_of_le_of_lt lower (by change copy.version < (change.apply copy).version; omega)
    · exact le_refl (change.apply copy).version
  · rw [variantEvent_about]
    intro number listed
    have earlier := coherent.above sees number listed
    change number < (change.apply copy).version
    change number ≤ copy.version at earlier
    omega

theorem EditTransaction.saved_first (coherent : tx.Coherent) (first : tx.First save)
    (current : RowLocks.seen tx.locks rows save.entity = some save.copy) :
    ((tx.updated rows save).saved save ((save.edit tx.now).apply save.copy) none).Sound rows := by
  have replaces := first.replaces held current
  have updated := coherent.updated held current
  have heldAfter : Held (tx.updated rows save).locks rows := held.write save.entity _
  cases save with
  | product productId copy change =>
    have holds : (tx.updated rows (.product productId copy change)).Holds productId
        { change.apply copy with updatedAt := tx.now } := by
      refine ⟨⟨_, _, updated_lookup (.product productId copy change) held, rfl, rfl⟩, ?_⟩
      change versionsOn tx.events _ = []
      rw [first.idle.2.1]
      rfl
    have announced := updated.addProduct holds
    unfold saved Save.edit RowEdit.apply
    dsimp only [Save.copy]
    split
    · exact ⟨heldAfter, ⟨updated.edited, updated.untouched, updated.raised, updated.ordered, updated.announced⟩, replaces, holds.left,
        holds.silent⟩
    · exact ⟨heldAfter, ⟨announced.edited, announced.untouched, announced.raised, announced.ordered, announced.announced⟩,
        replaces⟩
  | variant variantId copy change =>
    have announced := Coherent.addVariant held change coherent current
    exact ⟨heldAfter, ⟨announced.edited, announced.untouched, announced.raised, announced.ordered, announced.announced⟩, replaces⟩

theorem EditTransaction.saved_later {loop} (coherent : tx.Coherent) (later : tx.Later save loop)
    (current : RowLocks.seen tx.locks rows save.entity = some save.copy) :
    ((tx.updated rows save).saved save ((save.edit tx.now).apply save.copy) (some loop)).Sound rows := by
  have replaces : (tx.updated rows save).Replaces := later.replaces.updated held
  have heldAfter : Held (tx.updated rows save).locks rows := held.write save.entity _
  obtain ⟨⟨version, after, locked, left, level⟩, silent⟩ := later.holds
  cases save with
  | product productId copy change =>
    obtain ⟨variantId, impossible⟩ := later.variant
    cases impossible
  | variant variantId copy change =>
    have different : Entity.product loop.productId ≠ Save.entity (.variant variantId copy change) := by
      intro same
      cases same
    refine nextVariant_sound heldAfter (Coherent.addVariant held change coherent current) replaces ⟨?_, ?_⟩
    · exact ⟨version, after, (updated_lookup_ne different).trans locked, left, level⟩
    · change versionsOn (tx.events ++ [_]) _ = []
      rw [versionsOn_append, silent, versionsOn_single, variantEvent_about]
      exact (nil_append _).trans (if_neg (Ne.symm different))

end Saved

theorem checkVersion_ok {subject expected current} (ok : checkVersion subject expected current = .ok ()) :
    ∀ version, expected = some version → current = version := by
  rintro version rfl
  exact ((ensure_eq_ok ..).mp ok).symm

theorem EditTransaction.Idle.find (idle : tx.Idle) {view} {stage}
    (found : tx.request.find view = .ok stage) : ({ tx with stage } : EditTransaction).Fits := by
  cases asks : tx.request with
  | updateProduct productId dto classes =>
    rw [asks] at found
    simp only [EditRequest.find, eq_ok] at found
    obtain ⟨product, -, _, checked, _, _, rfl⟩ := found
    exact ⟨idle, rfl, checkVersion_ok checked⟩
  | updateProductStatus productId status version =>
    rw [asks] at found
    simp only [EditRequest.find, eq_ok] at found
    obtain ⟨product, -, _, checked, _, _, rfl⟩ := found
    exact ⟨idle, rfl, checkVersion_ok checked⟩
  | softDeleteProduct productId =>
    rw [asks] at found
    simp only [EditRequest.find, eq_ok] at found
    obtain ⟨product, -, rfl⟩ := found
    refine ⟨idle, rfl, ?_⟩
    intro expected wanted
    cases wanted
  | updateVariant variantId dto =>
    rw [asks] at found
    simp only [EditRequest.find, eq_ok] at found
    obtain ⟨variant, -, _, checked, rfl⟩ := found
    exact ⟨idle, rfl, checkVersion_ok checked⟩
  | updateVariantStatus variantId status version =>
    rw [asks] at found
    simp only [EditRequest.find, eq_ok] at found
    obtain ⟨variant, -, _, checked, rfl⟩ := found
    exact ⟨idle, rfl, checkVersion_ok checked⟩

structure EditRun.Unmoved (run : EditRun) (call : Nat) (tx : EditTransaction) : Prop where
  reread : ∀ save loop, tx.stage = .reread save loop →
    RowLocks.seen tx.locks run.rows save.entity = some save.copy
  update : ∀ save before loop, tx.stage = .update save before loop → run.isFree call save.entity = true →
    RowLocks.seen tx.locks run.rows save.entity = some save.copy

variable {run : EditRun} {call : Nat} {after : EditTransaction}

/-- Where a statement leaves the locks: as they were, or with one more row that was free. -/
def EditRun.LocksOnce (run : EditRun) (call : Nat) (before after : EditTransaction) : Prop :=
  after.locks = before.locks ∨ ∃ entity version, run.isFree call entity = true ∧
    after.locks = write before.locks run.rows entity version

theorem EditTransaction.saved_locks (tx : EditTransaction) (save : Save) (row : CatalogRow) (loop : Option VariantLoop) :
    (tx.saved save row loop).locks = tx.locks := by
  unfold saved
  split
  · split <;> rfl
  · dsimp only
    split
    · rfl
    · unfold nextVariant
      split <;> rfl
  · rfl

theorem EditTransaction.saved_request (tx : EditTransaction) (save : Save) (row : CatalogRow) (loop : Option VariantLoop) :
    (tx.saved save row loop).request = tx.request := by
  unfold saved
  split
  · split <;> rfl
  · dsimp only
    split
    · rfl
    · unfold nextVariant
      split <;> rfl
  · rfl

theorem EditTransaction.Sound.staged (sound : tx.Sound rows) {stage}
    (fits : ({ tx with stage } : EditTransaction).Fits) : ({ tx with stage } : EditTransaction).Sound rows :=
  ⟨sound.held, ⟨sound.coherent.edited, sound.coherent.untouched, sound.coherent.raised, sound.coherent.ordered,
    sound.coherent.announced⟩, fits⟩

section

variable (sound : tx.Sound run.rows) (unmoved : run.Unmoved call tx)
include sound unmoved

theorem EditRun.reread_goes {save loop} (here : tx.stage = .reread save loop) (went : run.reread tx save loop = .goes after) :
    after.Sound run.rows ∧ run.LocksOnce call tx after ∧ after.request = tx.request := by
  rw [reread, unmoved.reread save loop here] at went
  dsimp only at went
  rw [if_neg save.changed_ne] at went
  cases went
  have fits := sound.fits
  rw [Fits, here] at fits
  refine ⟨sound.staged ?_, .inl rfl, rfl⟩
  cases loop with
  | none => exact ⟨⟨fits.idle, fits.entity, fits.expected⟩, rfl⟩
  | some loop => exact ⟨⟨fits.replaces, ⟨fits.holds.left, fits.holds.silent⟩, fits.variant⟩, rfl⟩

theorem EditRun.update_goes {save before loop} (here : tx.stage = .update save before loop)
    (went : run.update call tx save before loop = .goes after) :
    after.Sound run.rows ∧ run.LocksOnce call tx after ∧ after.request = tx.request := by
  rw [update] at went
  split at went
  · cases went
  · next held =>
    have free : run.isFree call save.entity = true := by simpa using held
    have current := unmoved.update save before loop here free
    have fits := sound.fits
    rw [Fits, here] at fits
    have copied : before = save.copy := by
      cases loop with
      | none => exact fits.2
      | some loop => exact fits.2
    subst copied
    rw [current] at went
    dsimp only at went
    rw [(save.patched_own _).1, (save.patched_own _).2] at went
    cases went
    refine ⟨?_, .inr ⟨save.entity, _, free, saved_locks ..⟩, saved_request ..⟩
    cases loop with
    | none => exact saved_first sound.held sound.coherent fits.1 current
    | some loop => exact saved_later sound.held sound.coherent fits.1 current

theorem EditRun.statement_goes
    (went : run.statement call tx = .goes after) :
    after.Sound run.rows ∧ run.LocksOnce call tx after ∧ after.request = tx.request := by
  have fits := sound.fits
  cases here : tx.stage with
  | find =>
    rw [Fits, here] at fits
    rw [statement, here] at went
    dsimp only at went
    split at went
    · cases went
    · next found =>
      cases went
      exact ⟨sound.staged (Idle.find fits found), .inl rfl, rfl⟩
  | findOwner variantId variant status =>
    rw [Fits, here] at fits
    rw [statement, here] at went
    dsimp only at went
    split at went
    · cases went
    · cases went
      exact ⟨sound.staged ⟨fits.1, fits.2.1.symm, fits.2.2⟩, .inl rfl, rfl⟩
  | reread save loop =>
    rw [statement, here] at went
    exact reread_goes sound unmoved here went
  | update save before loop =>
    rw [statement, here] at went
    exact update_goes sound unmoved here went
  | findVariants productId product =>
    rw [Fits, here] at fits
    rw [statement, here] at went
    cases went
    refine ⟨nextVariant_sound sound.held sound.coherent fits.1 fits.2, .inl ?_, ?_⟩
    · unfold nextVariant
      split <;> rfl
    · unfold nextVariant
      split <;> rfl
  | commit =>
    rw [statement, here] at went
    cases went

end

end Transactions

end Catalog
