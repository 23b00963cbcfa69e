import RetailApi.Base.Run
import RetailApi.Catalog.Products

/-! The events of the catalog: over every run, ids are not given twice and the version of a variant
grows from each of its events to the next. -/

namespace Catalog

open Transaction List CatalogDb

/-- Events as the catalog emits them: no id is given twice, and from one event of a variant to the next its version grows. -/
structure Increasing (events : List Envelope) : Prop where
  distinct : (events.map (·.id)).Nodup
  growing : events.Pairwise fun first second => ∀ earlier later, first.event.variant? = some earlier →
    second.event.variant? = some later → earlier.variantId = later.variantId →
    earlier.aggregateVersion < later.aggregateVersion

/-- An outbox in step with the rows: a variant's row is at least at the version of every event about it. -/
structure Emits (db : CatalogDb) : Prop where
  numbered : db.outbox.map (·.id) = range db.outbox.length
  growing : db.outbox.Pairwise fun first second => ∀ earlier later, first.event.variant? = some earlier →
    second.event.variant? = some later → earlier.variantId = later.variantId →
    earlier.aggregateVersion < later.aggregateVersion
  known : ∀ envelope ∈ db.outbox, ∀ payload, envelope.event.variant? = some payload →
    ∃ row, db.variants.lookup payload.variantId = some row ∧ payload.aggregateVersion ≤ row.version

theorem Emits.increasing {db} (emits : Emits db) : Increasing db.outbox :=
  ⟨emits.numbered ▸ nodup_range, emits.growing⟩

section Saves

variable {db after : CatalogDb} {now : Nat}

theorem numbered_add (numbered : db.outbox.map (·.id) = range db.outbox.length) (event : CatalogEvent) :
    (db.add event).outbox.map (·.id) = range (db.add event).outbox.length := by
  simp only [add, map_append, numbered, length_append, length_singleton, range_succ,
    map_singleton]

theorem Emits.add (emits : Emits db) {event} (other : event.variant? = none) : Emits (db.add event) := by
  refine ⟨numbered_add emits.numbered event, ?_, ?_⟩
  · refine pairwise_append.mpr ⟨emits.growing, pairwise_singleton _ _, fun first _ second last => ?_⟩
    intro earlier later _ about
    rw [mem_singleton.mp last, other] at about
    cases about
  · intro envelope member payload about
    rcases mem_append.mp member with earlier | last
    · exact emits.known envelope earlier payload about
    · rw [mem_singleton.mp last, other] at about
      cases about

theorem Emits.saveProduct (emits : Emits db) (productId : Uuid) (product : Product) :
    Emits (db.saveProduct now productId product) :=
  ⟨emits.numbered, emits.growing, emits.known⟩

def AboutVariant (event : CatalogVariantEventPayload → CatalogEvent) : Prop :=
  ∀ payload, ∃ about, (event payload).variant? = some about ∧ about.variantId = payload.variantId ∧
    about.aggregateVersion = payload.aggregateVersion

variable {variantId productId : Uuid} {variant : ProductVariant}

theorem saveVariant_emits {event}
    (saved : db.saveVariant now variantId variant event = .ok after) (about : AboutVariant event) (emits : Emits db)
    (newer : ∀ row, db.variants.lookup variantId = some row → row.version < variant.version) :
    Emits after ∧ ∀ other, other ≠ variantId → after.variants.lookup other = db.variants.lookup other := by
  simp only [saveVariant, eq_ok] at saved
  obtain ⟨_, _, rfl⟩ := saved
  obtain ⟨mine, told, named, version⟩ := about (ProductVariant.payload variantId { variant with updatedAt := now })
  have named : mine.variantId = variantId := named
  -- what an earlier event knows of this variant is below the version that is saved
  have older : ∀ envelope ∈ db.outbox, ∀ payload, envelope.event.variant? = some payload → payload.variantId = variantId →
      payload.aggregateVersion < variant.version := by
    intro envelope member payload said same
    obtain ⟨row, found, atMost⟩ := emits.known envelope member payload said
    have higher := newer row (same ▸ found)
    omega
  refine ⟨⟨numbered_add emits.numbered _, ?_, ?_⟩, fun other different => ?_⟩
  · refine pairwise_append.mpr ⟨emits.growing, pairwise_singleton _ _, fun first listed second last => ?_⟩
    intro earlier later said aboutLater same
    rw [mem_singleton.mp last, told] at aboutLater
    cases aboutLater
    have below := older first listed earlier said (same.trans named)
    rw [version]
    exact below
  · intro envelope member payload said
    simp only [add, Table.lookup_insert_if]
    rcases mem_append.mp member with earlier | last
    · split
      · next same =>
        exact ⟨_, rfl, Nat.le_of_lt (older envelope earlier payload said same)⟩
      · exact emits.known envelope earlier payload said
    · rw [mem_singleton.mp last, told] at said
      cases said
      rw [if_pos named]
      exact ⟨_, rfl, Nat.le_of_eq version⟩
  · simp only [add, Table.lookup_insert_if, if_neg different]

theorem aboutVariant_created : AboutVariant .variantCreated := fun payload => ⟨payload, rfl, rfl, rfl⟩

theorem aboutVariant_deactivated : AboutVariant .variantDeactivated := fun payload => ⟨payload, rfl, rfl, rfl⟩

theorem aboutVariant_updated (previousSkuCode : Option String) :
    AboutVariant fun payload => .variantUpdated { payload with previousSkuCode } :=
  fun payload => ⟨{ payload with previousSkuCode }, rfl, rfl, rfl⟩

theorem aboutVariant_status (status : VariantStatus) : AboutVariant (variantStatusEvent status) := by
  unfold variantStatusEvent
  split
  · exact fun payload => ⟨payload, rfl, rfl, rfl⟩
  · exact aboutVariant_deactivated

theorem findVariant_ok (found : findVariant db variantId = .ok variant) :
    db.variants.lookup variantId = some variant ∧ variant.deleted = false := by
  rw [findVariant, required_eq_ok, CatalogDb.variant, Option.filter_eq_some_iff] at found
  simpa using found

theorem saveNext_emits {next} {event}
    (found : db.variants.lookup variantId = some variant) (raised : next.version = variant.version + 1)
    (saved : db.saveVariant now variantId next event = .ok after) (about : AboutVariant event) (emits : Emits db) :
    Emits after ∧ ∀ other, other ≠ variantId → after.variants.lookup other = db.variants.lookup other := by
  apply saveVariant_emits saved about emits
  intro row stored
  cases found.symm.trans stored
  omega

theorem insertVariant_emits {status fresh}
    (inserted : insertVariant now productId status db fresh = .ok after) (emits : Emits db) : Emits after := by
  simp only [insertVariant, eq_ok] at inserted
  obtain ⟨_, absent, saved⟩ := inserted
  refine (saveVariant_emits saved aboutVariant_created emits fun row stored => ?_).1
  cases absent.symm.trans stored

theorem deactivateVariants_emits {status} {entries : List (Uuid × ProductVariant)}
    (distinct : (entries.map (·.1)).Nodup) (read : ∀ entry ∈ entries, db.variants.lookup entry.1 = some entry.2)
    (ran : entries.foldlM (deactivateVariant now status) db = .ok after) (emits : Emits db) : Emits after := by
  induction entries generalizing db with
  | nil =>
    rw [foldlM_nil] at ran
    exact ran ▸ emits
  | cons entry entries inner =>
    obtain ⟨middle, saved, rest⟩ := foldlM_cons.mp ran
    rw [map_cons, nodup_cons] at distinct
    obtain ⟨kept, others⟩ := saveNext_emits (read entry (.head _)) rfl saved aboutVariant_deactivated emits
    refine inner distinct.2 (fun other member => ?_) rest kept
    have apart : other.1 ≠ entry.1 := fun same => distinct.1 (same ▸ mem_map_of_mem member)
    rw [others other.1 apart]
    exact read other (.tail _ member)

theorem variantsOf_read (db : CatalogDb) (productId : Uuid) :
    ((db.variantsOf productId).map (·.1)).Nodup ∧
      ∀ entry ∈ db.variantsOf productId, db.variants.lookup entry.1 = some entry.2 := by
  unfold variantsOf
  refine ⟨?_, fun entry member => ?_⟩
  · rw [map_map]
    exact db.variants.nodupKeys.sublist filter_sublist
  · obtain ⟨row, listed, rfl⟩ := mem_map.mp member
    exact AList.mem_lookup_iff.mpr (mem_of_mem_filter listed)

theorem deactivateActiveVariants_emits {status}
    (ran : deactivateActiveVariants now productId status db = .ok after) (emits : Emits db) : Emits after := by
  unfold deactivateActiveVariants at ran
  obtain ⟨distinct, read⟩ := variantsOf_read db productId
  split at ran
  · refine deactivateVariants_emits (distinct.sublist (filter_sublist.map _)) (fun entry member => ?_) ran emits
    exact read entry (mem_of_mem_filter member)
  · cases ran
    exact emits

theorem productStatusEvent_other (status : ProductStatus) (payload : CatalogProductEventPayload) :
    (productStatusEvent status payload).variant? = none := by
  unfold productStatusEvent
  split <;> rfl

theorem createDefaultVariant_emits {product fresh}
    (ran : createDefaultVariant now productId product fresh db = .ok after) (emits : Emits db) : Emits after := by
  cases fresh with
  | none =>
    cases ran
    exact emits
  | some variant => exact insertVariant_emits ran emits

theorem execute_emits {request} (ran : execute db now request = .ok after) (emits : Emits db) : Emits after := by
  cases request with
  | createProduct productId dto classes =>
    simp only [execute, createProduct, eq_ok] at ran
    obtain ⟨_, _, _, _, made⟩ := ran
    apply createDefaultVariant_emits made
    apply Emits.add _ rfl
    exact emits.saveProduct productId _
  | updateProduct productId dto classes =>
    simp only [execute, updateProduct, eq_ok] at ran
    obtain ⟨_, _, _, _, _, _, rfl⟩ := ran
    apply Emits.add _ rfl
    exact emits.saveProduct productId _
  | createVariant productId fresh =>
    simp only [execute, createVariant, eq_ok] at ran
    obtain ⟨_, _, _, _, inserted⟩ := ran
    exact insertVariant_emits inserted emits
  | generateVariants productId specs =>
    simp only [execute, generateVariants, eq_ok] at ran
    obtain ⟨_, _, _, _, inserted⟩ := ran
    exact foldlM_preserves Emits (fun _ _ _ _ held each => insertVariant_emits each held) emits inserted
  | updateVariant variantId dto =>
    simp only [execute, updateVariant, eq_ok] at ran
    obtain ⟨variant, found, _, _, saved⟩ := ran
    exact (saveNext_emits (findVariant_ok found).1 rfl saved (aboutVariant_updated _) emits).1
  | updateVariantStatus variantId status version =>
    simp only [execute, updateVariantStatus, eq_ok] at ran
    obtain ⟨variant, found, _, _, _, _, saved⟩ := ran
    exact (saveNext_emits (findVariant_ok found).1 rfl saved (aboutVariant_status status) emits).1
  | softDeleteVariant variantId =>
    simp only [execute, softDeleteVariant, eq_ok] at ran
    obtain ⟨variant, found, saved⟩ := ran
    exact (saveNext_emits (findVariant_ok found).1 rfl saved aboutVariant_deactivated emits).1
  | updateProductStatus productId status version =>
    simp only [execute, updateProductStatus, eq_ok] at ran
    obtain ⟨_, _, _, _, _, _, middle, deactivated, rfl⟩ := ran
    apply Emits.add _ (productStatusEvent_other status _)
    exact deactivateActiveVariants_emits deactivated (emits.saveProduct productId _)
  | softDeleteProduct productId =>
    simp only [execute, softDeleteProduct, eq_ok] at ran
    obtain ⟨_, _, middle, deactivated, rfl⟩ := ran
    apply Emits.add _ rfl
    obtain ⟨distinct, read⟩ := variantsOf_read db productId
    refine deactivateVariants_emits distinct ?_ deactivated (emits.saveProduct productId _)
    exact read

end Saves

theorem outbox_increasing (inputs : List (Nat × Request)) : Increasing (Run.after perform {} inputs).outbox := by
  refine Emits.increasing (Run.invariant Emits ?_ ⟨rfl, .nil, fun _ member => absurd member not_mem_nil⟩ inputs)
  intro db input emits
  exact commit_preserves Emits emits fun after ran => execute_emits ran emits

end Catalog
