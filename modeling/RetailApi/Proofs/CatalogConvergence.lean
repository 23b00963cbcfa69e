import Mathlib.Data.Finset.Max
import RetailApi.Inventory.CatalogProjection
import RetailApi.Proofs.CatalogEvents

/-! Inventory's copy of the catalog under late, repeated and reordered events. The versions settle the events of one variant. A
product's deactivation has no version of a variant: it counts where it comes after the last event of the variant, so the order
matters unless that event says the same or is newer. -/

namespace Inventory

open Catalog Inbox SkuProjection List

def rowAfter (skuId : Uuid) (row : Option SkuProjection) (envelope : Envelope) : Option SkuProjection :=
  match envelope.event with
  | .variantCreated payload | .variantUpdated payload | .variantDeactivated payload =>
    if payload.variantId = skuId then
      if row.any (·.isAhead payload) then row else some (.ofPayload payload)
    else row
  | .productDeactivated payload => row.map (deactivated payload)
  | .productCreated _ | .productUpdated _ => row

theorem lookup_upsert (rows : SkuProjections) (payload : CatalogVariantEventPayload) (skuId : Uuid) :
    (upsertVariantProjection rows payload).lookup skuId =
      if payload.variantId = skuId then
        if (rows.lookup skuId).any (·.isAhead payload) then rows.lookup skuId else some (.ofPayload payload)
      else rows.lookup skuId := by
  unfold upsertVariantProjection
  by_cases same : payload.variantId = skuId
  · subst same
    rw [if_pos rfl]
    split
    · rfl
    · exact Table.lookup_insert_self ..
  · rw [if_neg same]
    split
    · rfl
    · rw [Table.lookup_insert_if, if_neg (Ne.symm same)]

theorem lookup_handle (rows : SkuProjections) (envelope : Envelope) (skuId : Uuid) :
    (handleCatalogEvent rows envelope).lookup skuId = rowAfter skuId (rows.lookup skuId) envelope := by
  unfold handleCatalogEvent rowAfter
  cases envelope.event with
  | variantCreated payload => exact lookup_upsert rows payload skuId
  | variantUpdated payload => exact lookup_upsert rows payload skuId
  | variantDeactivated payload => exact lookup_upsert rows payload skuId
  | productDeactivated payload => exact Table.lookup_mapRows ..
  | productCreated => rfl
  | productUpdated => rfl

theorem lookup_handled (order : List Envelope) (rows : SkuProjections) (skuId : Uuid) :
    (order.foldl handleCatalogEvent rows).lookup skuId = order.foldl (rowAfter skuId) (rows.lookup skuId) := by
  induction order generalizing rows with
  | nil => rfl
  | cons envelope order inner => rw [foldl_cons, foldl_cons, inner, lookup_handle]

section Rows

variable {skuId : Uuid} {envelope : Envelope}

variable {payload : CatalogVariantEventPayload} {order : List Envelope}

theorem rowAfter_variant (about : envelope.event.variant? = some payload) (row : Option SkuProjection) :
    rowAfter skuId row envelope = if payload.variantId = skuId then
        if row.any (·.isAhead payload) then row else some (.ofPayload payload) else row := by
  unfold rowAfter
  cases event : envelope.event <;> rw [event] at about <;> simp_all [CatalogEvent.variant?]

theorem rowAfter_written (about : envelope.event.variant? = some payload) (mine : payload.variantId = skuId) {row}
    (behind : ∀ existing, row = some existing → existing.aggregateVersion < payload.aggregateVersion) :
    rowAfter skuId row envelope = some (.ofPayload payload) := by
  rw [rowAfter_variant about, if_pos mine, if_neg]
  intro ahead
  obtain ⟨existing, found, newer⟩ := (Option.any_eq_true _ _).mp ahead
  have older := behind existing found
  simp only [isAhead, decide_eq_true_eq] at newer
  omega

theorem rowAfter_cases (skuId : Uuid) (row : Option SkuProjection) (envelope : Envelope) :
    rowAfter skuId row envelope = row ∨
      (∃ payload, envelope.event.variant? = some payload ∧ payload.variantId = skuId ∧
        rowAfter skuId row envelope = some (.ofPayload payload) ∧ row.any (·.isAhead payload) = false) ∨
      ∃ product, envelope.event = .productDeactivated product ∧
        rowAfter skuId row envelope = row.map (deactivated product) := by
  cases known : envelope.event.variant? with
  | some payload =>
    rw [rowAfter_variant known]
    by_cases mine : payload.variantId = skuId
    · rw [if_pos mine]
      by_cases ahead : row.any (·.isAhead payload) = true
      · exact .inl (if_pos ahead)
      · exact .inr (.inl ⟨payload, rfl, mine, if_neg ahead, by simpa using ahead⟩)
    · exact .inl (if_neg mine)
  | none =>
    unfold rowAfter
    cases event : envelope.event with
    | productDeactivated product => exact .inr (.inr ⟨product, rfl, rfl⟩)
    | productCreated | productUpdated => exact .inl rfl
    | variantCreated | variantUpdated | variantDeactivated => rw [event] at known; cases known

def Below (skuId : Uuid) (version : Nat) (order : List Envelope) : Prop :=
  ∀ envelope ∈ order, ∀ payload, envelope.event.variant? = some payload → payload.variantId = skuId →
    payload.aggregateVersion < version

theorem below_foldl {version} (below : Below skuId version order) {row}
    (start : ∀ existing, row = some existing → existing.aggregateVersion < version) :
    ∀ existing, order.foldl (rowAfter skuId) row = some existing → existing.aggregateVersion < version := by
  induction order generalizing row with
  | nil => exact start
  | cons envelope order inner =>
    refine inner (fun other member => below other (.tail _ member)) fun existing found => ?_
    rcases rowAfter_cases skuId row envelope with kept | ⟨payload, about, mine, written, -⟩ | ⟨product, -, mapped⟩
    · exact start existing (kept ▸ found)
    · cases written.symm.trans found
      exact below envelope (.head _) payload about mine
    · rw [mapped] at found
      obtain ⟨old, stored, rfl⟩ := Option.map_eq_some_iff.mp found
      have same : (old.deactivated product).aggregateVersion = old.aggregateVersion := by
        unfold deactivated
        split <;> rfl
      rw [same]
      exact start old stored

/-- A row that stems from an event of a variant, whether or not its product was switched off since. -/
structure Follows (payload : CatalogVariantEventPayload) (row : SkuProjection) : Prop where
  version : row.aggregateVersion = payload.aggregateVersion
  product : row.productId = payload.productId
  later : payload.updatedAt ≤ row.sourceUpdatedAt
  status : row = .ofPayload payload ∨ row.status = .inactive

theorem Follows.ofPayload (payload : CatalogVariantEventPayload) : Follows payload (.ofPayload payload) :=
  ⟨rfl, rfl, le_refl _, .inl rfl⟩

theorem Follows.deactivated {row} (follows : Follows payload row)
    (product : CatalogProductEventPayload) : Follows payload (row.deactivated product) := by
  unfold SkuProjection.deactivated
  split
  · next hit => exact ⟨follows.version, follows.product, Nat.le_trans follows.later hit.2, .inr rfl⟩
  · exact follows

/-- Events of older versions do not touch such a row; deactivations keep it one. What every deactivation in the list keeps
of the row, all of the events keep. -/
theorem follows_foldl (below : Below skuId payload.aggregateVersion order) (Holds : SkuProjection → Prop)
    (kept : ∀ envelope ∈ order, ∀ product, envelope.event = .productDeactivated product → ∀ row, Follows payload row →
      Holds row → Holds (row.deactivated product)) {row} (follows : Follows payload row) (holds : Holds row) :
    ∃ last, order.foldl (rowAfter skuId) (some row) = some last ∧ Follows payload last ∧ Holds last := by
  induction order generalizing row with
  | nil => exact ⟨row, rfl, follows, holds⟩
  | cons envelope order inner =>
    have rest : Below skuId payload.aggregateVersion order := fun other member => below other (.tail _ member)
    have keeping := fun other (member : other ∈ order) => kept other (.tail _ member)
    rw [foldl_cons]
    rcases rowAfter_cases skuId (some row) envelope with
      same | ⟨rival, about, mine, -, ahead⟩ | ⟨product, event, mapped⟩
    · rw [same]
      exact inner rest keeping follows holds
    · have older := below envelope (.head _) rival about mine
      have version := follows.version
      simp only [Option.any_some, isAhead, decide_eq_false_iff_not] at ahead
      omega
    · rw [mapped]
      exact inner rest keeping (follows.deactivated product) (kept envelope (.head _) product event row follows holds)

end Rows

structure IsLast (events : List Envelope) (envelope : Envelope) (payload : CatalogVariantEventPayload) : Prop where
  listed : envelope ∈ events
  about : envelope.event.variant? = some payload
  latest : ∀ other ∈ events, ∀ rival, other.event.variant? = some rival → rival.variantId = payload.variantId →
    rival.aggregateVersion ≤ payload.aggregateVersion

/-- A last event of a variant that no deactivation of the product can change: it is one itself, or is newer than all. -/
def Settles (events : List Envelope) (payload : CatalogVariantEventPayload) : Prop :=
  payload.status = .inactive ∨ ∀ envelope ∈ events, ∀ product, envelope.event = .productDeactivated product →
    product.productId = payload.productId → product.updatedAt < payload.updatedAt

section Events

variable {events order : List Envelope} {envelope : Envelope} {payload : CatalogVariantEventPayload} {skuId : Uuid}

theorem versions_apart (emitted : Increasing events) {other rival}
    (listed : envelope ∈ events) (otherListed : other ∈ events) (different : envelope ≠ other)
    (about : envelope.event.variant? = some payload) (otherAbout : other.event.variant? = some rival)
    (same : payload.variantId = rival.variantId) : payload.aggregateVersion ≠ rival.aggregateVersion := by
  let Apart (first second : Envelope) : Prop := ∀ mine yours, first.event.variant? = some mine →
    second.event.variant? = some yours → mine.variantId = yours.variantId → mine.aggregateVersion ≠ yours.aggregateVersion
  have symmetric : Std.Symm Apart :=
    ⟨fun first second apart mine yours left right both => (apart yours mine right left both.symm).symm⟩
  have apart : events.Pairwise Apart := emitted.growing.imp fun growing mine yours left right both =>
    Nat.ne_of_lt (growing mine yours left right both)
  exact apart.forall listed otherListed different payload rival about otherAbout same

section

variable (last : IsLast events envelope payload) (emitted : Increasing events)
include last emitted

theorem IsLast.below
    (drawn : ∀ other ∈ order, other ∈ events ∧ other ≠ envelope) : Below payload.variantId payload.aggregateVersion order := by
  intro other member rival about same
  obtain ⟨listed, different⟩ := drawn other member
  have atMost := last.latest other listed rival about same
  have apart := versions_apart emitted listed last.listed different about last.about same
  omega

theorem IsLast.written
    (drawn : ∀ other ∈ order, other ∈ events ∧ other ≠ envelope) :
    rowAfter payload.variantId (order.foldl (rowAfter payload.variantId) none) envelope = some (.ofPayload payload) := by
  have fresh : ∀ existing, (none : Option SkuProjection) = some existing →
      existing.aggregateVersion < payload.aggregateVersion := fun _ absent => nomatch absent
  exact rowAfter_written last.about rfl (below_foldl (last.below emitted drawn) fresh)

/-- Events that have come once each, the last one among them, leave a row of the last event, and what the deactivations
keep of that row. -/
theorem IsLast.handled (distinct : order.Nodup)
    (drawn : ∀ other ∈ order, other ∈ events) (present : envelope ∈ order)
    (Holds : SkuProjection → Prop) (holds : Holds (.ofPayload payload))
    (kept : ∀ other ∈ events, ∀ product, other.event = .productDeactivated product → ∀ row, Follows payload row →
      Holds row → Holds (row.deactivated product)) :
    ∃ row, (order.foldl handleCatalogEvent ∅).lookup payload.variantId = some row ∧ Follows payload row ∧ Holds row := by
  obtain ⟨before, after, rfl⟩ := append_of_mem present
  rw [nodup_append, nodup_cons] at distinct
  have earlier : ∀ other ∈ before, other ∈ events ∧ other ≠ envelope := fun other member =>
    ⟨drawn other (by simp [member]), distinct.2.2 other member envelope (.head _)⟩
  have later : ∀ other ∈ after, other ∈ events ∧ other ≠ envelope := fun other member =>
    ⟨drawn other (by simp [member]), fun same => distinct.2.1.1 (same ▸ member)⟩
  rw [lookup_handled, foldl_append, foldl_cons, AList.lookup_empty, last.written emitted earlier]
  exact follows_foldl (last.below emitted later) Holds (fun other member => kept other (later other member).1)
    (Follows.ofPayload payload) holds

theorem IsLast.shown (settles : Settles events payload)
    (reordered : order.Perm events) :
    shownSku (order.foldl handleCatalogEvent ∅) payload.variantId = some (SkuProjection.ofPayload payload).shown := by
  have distinct : order.Nodup := reordered.nodup_iff.mpr (Nodup.of_map _ emitted.distinct)
  obtain ⟨row, found, -, shows⟩ := last.handled emitted distinct (fun other => reordered.mem_iff.mp)
    (reordered.mem_iff.mpr last.listed) (fun row => row.shown = (SkuProjection.ofPayload payload).shown) rfl (by
      intro other member product event row follows shows
      unfold SkuProjection.deactivated
      split
      · next hit =>
        rcases settles with inactive | newer
        · have status : row.status = .inactive := (congrArg ShownSku.status shows).trans inactive
          rw [← shows]
          simp only [SkuProjection.shown, status]
        · have older := newer other member product event (hit.1.symm.trans follows.product)
          have since := follows.later
          omega
      · exact shows)
  rw [shownSku, found, Option.map_some, shows]

end

theorem unknown_handled (unknown : ∀ other ∈ order, ∀ rival, other.event.variant? = some rival → rival.variantId ≠ skuId) :
    shownSku (order.foldl handleCatalogEvent ∅) skuId = none := by
  have absent : ∀ existing, order.foldl (rowAfter skuId) none = some existing → existing.aggregateVersion < 0 :=
    below_foldl (fun other member rival about mine => absurd mine (unknown other member rival about)) fun _ absent => nomatch absent
  rw [shownSku, lookup_handled, AList.lookup_empty]
  cases found : order.foldl (rowAfter skuId) none with
  | none => rfl
  | some existing => exact absurd (absent existing found) (Nat.not_lt_zero _)

theorem unknown_or_last (events : List Envelope) (skuId : Uuid) :
    (∀ other ∈ events, ∀ rival, other.event.variant? = some rival → rival.variantId ≠ skuId) ∨
      ∃ envelope payload, payload.variantId = skuId ∧ IsLast events envelope payload := by
  let mine := (events.filter fun other => other.event.variant?.any (·.variantId = skuId)).toFinset
  let version (other : Envelope) : Nat := (other.event.variant?.map (·.aggregateVersion)).getD 0
  by_cases any : mine.Nonempty
  · obtain ⟨envelope, member, greatest⟩ := mine.exists_max_image version any
    obtain ⟨listed, known⟩ := mem_filter.mp (mem_toFinset.mp member)
    obtain ⟨payload, about, same⟩ := (Option.any_eq_true _ _).mp known
    have named : payload.variantId = skuId := of_decide_eq_true same
    refine .inr ⟨envelope, payload, named, listed, about, fun other otherListed rival otherAbout both => ?_⟩
    have inside : other ∈ mine := mem_toFinset.mpr (mem_filter.mpr ⟨otherListed, by simp [otherAbout, both, named]⟩)
    have atMost := greatest other inside
    simpa [version, about, otherAbout] using atMost
  · refine .inl fun other listed rival about same => any ⟨other, ?_⟩
    exact mem_toFinset.mpr (mem_filter.mpr ⟨listed, by simp [about, same]⟩)

theorem IsLast.diverges (last : IsLast events envelope payload) (emitted : Increasing events)
    (unsettled : ¬Settles events payload) :
    ∃ first second : List Envelope, first.Perm events ∧ second.Perm events ∧
      (shownSku (first.foldl handleCatalogEvent ∅) payload.variantId).map (·.status) = some .inactive ∧
      shownSku (second.foldl handleCatalogEvent ∅) payload.variantId = some (SkuProjection.ofPayload payload).shown := by
  obtain ⟨off, switched, product, event, sameProduct, notOlder⟩ : ∃ off ∈ events, ∃ product,
      off.event = .productDeactivated product ∧ product.productId = payload.productId ∧
      payload.updatedAt ≤ product.updatedAt := by
    by_contra none
    refine unsettled (.inr fun off listed product event same => ?_)
    by_contra late
    exact none ⟨off, listed, product, event, same, by omega⟩
  have different : off ≠ envelope := by
    rintro rfl
    have about := last.about
    rw [event] at about
    cases about
  have distinct : events.Nodup := Nodup.of_map _ emitted.distinct
  have moved : ∀ other ∈ events, (events.erase other ++ [other]).Perm events := fun other member =>
    (perm_append_singleton other _).trans (perm_cons_erase member).symm
  refine ⟨events.erase off ++ [off], events.erase envelope ++ [envelope], moved off switched, moved envelope last.listed,
    ?_, ?_⟩
  · -- the row of the last event, and then the deactivation that is not older than it
    obtain ⟨row, found, follows, -⟩ := last.handled emitted (distinct.erase off) (fun _ => mem_of_mem_erase)
      (distinct.mem_erase_iff.mpr ⟨different.symm, last.listed⟩) (fun _ => True) trivial fun _ _ _ _ _ _ _ => trivial
    have inactive : (row.deactivated product).status = .inactive := by
      unfold SkuProjection.deactivated
      split
      · rfl
      · next missed =>
        rcases follows.status with rfl | already
        · exact absurd ⟨sameProduct.symm, notOlder⟩ missed
        · exact already
    rw [shownSku, foldl_append, foldl_cons, foldl_nil, lookup_handle, found]
    simp only [rowAfter, event, Option.map_some, SkuProjection.shown, inactive]
  · have others : ∀ other ∈ events.erase envelope, other ∈ events ∧ other ≠ envelope := fun other member =>
      (distinct.mem_erase_iff.mp member).symm
    rw [shownSku, foldl_append, foldl_cons, foldl_nil, lookup_handle, lookup_handled, AList.lookup_empty,
      last.written emitted others, Option.map_some]

end Events

/-- Every two deliveries of a set of events end with the same rows, exactly where the last event of each variant settles
its row. -/
theorem catalog_projection_converges_iff {events : List Envelope} (emitted : Increasing events) :
    (∀ first second, Delivers first events → Delivers second events →
      ∀ skuId, shownSku (projected first) skuId = shownSku (projected second) skuId) ↔
      ∀ envelope payload, IsLast events envelope payload → Settles events payload := by
  constructor
  · intro converges envelope payload last
    by_contra unsettled
    obtain ⟨first, second, one, other, switched, said⟩ := last.diverges emitted unsettled
    have same := converges first second (fun _ => one.mem_iff) (fun _ => other.mem_iff) payload.variantId
    have once : ∀ order : List Envelope, order.Perm events → projected order = order.foldl handleCatalogEvent ∅ :=
      fun order reordered => delivered_of_nodup _ _ ((reordered.map _).nodup_iff.mpr emitted.distinct) _
    rw [once first one, once second other, said] at same
    rw [same] at switched
    exact unsettled (.inl (Option.some.inj switched))
  · intro settles first second one other skuId
    obtain ⟨left, leftOrder, leftState⟩ := delivered_perm (·.id) handleCatalogEvent emitted.distinct one ∅
    obtain ⟨right, rightOrder, rightState⟩ := delivered_perm (·.id) handleCatalogEvent emitted.distinct other ∅
    rw [projected, projected, leftState, rightState]
    rcases unknown_or_last events skuId with unknown | ⟨envelope, payload, rfl, last⟩
    · rw [unknown_handled fun event member => unknown event (leftOrder.mem_iff.mp member),
        unknown_handled fun event member => unknown event (rightOrder.mem_iff.mp member)]
    · have settled := settles envelope payload last
      rw [last.shown emitted settled leftOrder, last.shown emitted settled rightOrder]

/-- The events of a product with one variant that is made at time 1 and switched off at time 2. -/
def switchedOff (status : ProductStatus) : List Envelope :=
  (Run.after Catalog.perform {}
    [(1, .createProduct 10 { name := "Milk", defaultVariant := some { variantId := 5, skuCode := "MILK", name := "Milk" } } {}),
      (2, .updateProductStatus 10 status none)]).outbox

theorem switchedOff_inactive :
    switchedOff .inactive =
      [⟨0, .productCreated ⟨10, "Milk", "piece", none, none, .active, 1, 1⟩⟩,
        ⟨1, .variantCreated ⟨5, 10, "MILK", none, none, "Milk", 0, .active, true, 1, 1⟩⟩,
        ⟨2, .variantDeactivated ⟨5, 10, "MILK", none, none, "Milk", 0, .inactive, true, 2, 2⟩⟩,
        ⟨3, .productDeactivated ⟨10, "Milk", "piece", none, none, .inactive, 2, 2⟩⟩] := by
  decide +kernel

theorem catalog_projection_converges_inactive :
    shownSku (projected (switchedOff .inactive).reverse) 5 =
      shownSku (projected (switchedOff .inactive ++ switchedOff .inactive)) 5 := by
  refine (catalog_projection_converges_iff (outbox_increasing _)).mpr ?_ _ _ (fun _ => mem_reverse)
    (fun _ => by rw [mem_append, or_self]; rfl) 5
  intro envelope payload last
  have listed : envelope ∈ switchedOff .inactive := last.listed
  have latest : ∀ other ∈ switchedOff .inactive, _ := last.latest
  have about := last.about
  rw [switchedOff_inactive] at listed latest
  simp only [mem_cons, not_mem_nil, or_false] at listed
  rcases listed with rfl | rfl | rfl | rfl
  · cases about
  · cases about
    have newer := latest ⟨2, .variantDeactivated ⟨5, 10, "MILK", none, none, "Milk", 0, .inactive, true, 2, 2⟩⟩ (by simp) _ rfl rfl
    cases newer with
    | step impossible => cases impossible
  · cases about
    exact .inl rfl
  · cases about

/-- An archived product: the deactivation of the product says `INACTIVE` where that of the variant says `ARCHIVED`, and
both are of one time. -/
theorem catalog_projection_diverges_archived :
    Increasing (switchedOff .archived) ∧ Delivers (switchedOff .archived).reverse (switchedOff .archived) ∧
      (shownSku (projected (switchedOff .archived)) 5).map (·.status) = some .inactive ∧
      (shownSku (projected (switchedOff .archived).reverse) 5).map (·.status) = some .archived :=
  ⟨outbox_increasing _, fun _ => mem_reverse, by decide +kernel, by decide +kernel⟩

end Inventory
