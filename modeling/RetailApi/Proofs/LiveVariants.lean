import RetailApi.Proofs.CatalogEvents

/-! Variants against the life of their products: an active variant has a live product, and a product one default variant, in
every run without the two requests that do not look. -/

namespace Catalog

open Transaction CatalogDb List Table Run AList

def Product.Dead (product : Product) : Prop := product.status = .archived ∨ product.deleted = true

instance (product : Product) : Decidable product.Dead := inferInstanceAs (Decidable (_ ∨ _))

def NoLiveVariantOfDead (db : CatalogDb) : Prop :=
  ∀ id variant product, db.variants.lookup id = some variant → variant.status = .active → variant.deleted = false →
    db.products.lookup variant.productId = some product → ¬product.Dead

def OneDefaultVariant (db : CatalogDb) : Prop :=
  ∀ id other variant otherVariant, db.variants.lookup id = some variant → db.variants.lookup other = some otherVariant →
    variant.productId = otherVariant.productId → variant.deleted = false → otherVariant.deleted = false →
    variant.isDefault = true → otherVariant.isDefault = true → id = other

structure CatalogDb.Lawful (db : CatalogDb) : Prop where
  housed : ∀ id variant, db.variants.lookup id = some variant → (db.products.lookup variant.productId).isSome = true
  live : NoLiveVariantOfDead db
  single : OneDefaultVariant db

def CatalogDb.Undefaulted (db : CatalogDb) (productId : Uuid) : Prop :=
  ∀ entry ∈ db.variantsOf productId, entry.2.isDefault = false

instance (db : CatalogDb) (productId : Uuid) : Decidable (db.Undefaulted productId) :=
  inferInstanceAs (Decidable (∀ entry ∈ db.variantsOf productId, _))

/-- A request that leaves the variants of deleted products off, and adds a default variant only where there is none. -/
def Careful (db : CatalogDb) (input : Nat × Request) : Prop :=
  match input.2 with
  | .updateVariantStatus variantId .active _ => ((db.variant variantId).bind fun variant =>
      (db.products.lookup variant.productId).filter fun product => product.deleted) = none
  | .createVariant productId fresh => fresh.isDefault = true → db.Undefaulted productId
  | .generateVariants productId specs => specs ≠ [] → db.Undefaulted productId
  | _ => True

section Requests

variable {db after : CatalogDb} {now : Nat} {productId variantId id other : Uuid} {variant : ProductVariant} {product : Product}

theorem CatalogDb.mem_variantsOf {entry} : entry ∈ db.variantsOf productId ↔
      db.variants.lookup entry.1 = some entry.2 ∧ entry.2.productId = productId ∧ entry.2.deleted = false := by
  rw [variantsOf, mem_map]
  constructor
  · rintro ⟨row, listed, rfl⟩
    obtain ⟨stored, ours⟩ := mem_filter.mp listed
    exact ⟨mem_lookup_iff.mpr stored, by simpa using ours⟩
  · rintro ⟨stored, ours⟩
    refine ⟨⟨entry.1, entry.2⟩, mem_filter.mpr ⟨mem_lookup_iff.mp stored, ?_⟩, rfl⟩
    simpa using ours

variable {event : CatalogVariantEventPayload → CatalogEvent} {entries : List (Uuid × ProductVariant)} {version : Option Nat}
  {request : Request}

theorem saveVariant_rows (saved : db.saveVariant now variantId variant event = .ok after) :
    after.products = db.products ∧ after.variants = db.variants.insert variantId { variant with updatedAt := now } := by
  simp only [saveVariant, eq_ok] at saved
  obtain ⟨_, _, rfl⟩ := saved
  exact ⟨rfl, rfl⟩

theorem CatalogDb.Lawful.congr (lawful : db.Lawful) (variants : after.variants = db.variants)
    (products : ∀ id, after.products.lookup id = db.products.lookup id ∨ ∃ product saved,
      db.products.lookup id = some product ∧ after.products.lookup id = some saved ∧ (saved.Dead → product.Dead)) : after.Lawful := by
  refine ⟨?_, ?_, ?_⟩
  · intro id variant found
    rw [variants] at found
    rcases products variant.productId with same | ⟨product, saved, -, stored, -⟩
    · rw [same]
      exact lawful.housed id variant found
    · rw [stored]
      rfl
  · intro id variant product found active live stored dead
    rw [variants] at found
    rcases products variant.productId with same | ⟨earlier, saved, before, now, worse⟩
    · exact lawful.live id variant product found active live (same ▸ stored) dead
    · cases now.symm.trans stored
      exact lawful.live id variant earlier found active live before (worse dead)
  · intro id other variant otherVariant found otherFound
    rw [variants] at found otherFound
    exact lawful.single id other variant otherVariant found otherFound

theorem CatalogDb.Lawful.saveVariant (lawful : db.Lawful)
    (saved : db.saveVariant now variantId variant event = .ok after) (found : db.products.lookup variant.productId = some product)
    (live : variant.status = .active → variant.deleted = false → ¬product.Dead)
    (single : variant.deleted = false → variant.isDefault = true →
      ∀ other otherVariant, db.variants.lookup other = some otherVariant → otherVariant.productId = variant.productId →
        otherVariant.deleted = false → otherVariant.isDefault = true → other = variantId) : after.Lawful := by
  obtain ⟨products, variants⟩ := saveVariant_rows saved
  refine ⟨?_, ?_, ?_⟩
  · rw [variants, products]
    refine forall_insert ?_ lawful.housed
    rw [found]
    rfl
  · intro id row owner stored active alive owned
    rw [variants] at stored
    rw [products] at owned
    rcases of_lookup_insert stored with ⟨-, rfl⟩ | ⟨-, earlier⟩
    · have owned : db.products.lookup variant.productId = some owner := owned
      cases found.symm.trans owned
      exact live active alive
    · exact lawful.live id row owner earlier active alive owned
  · intro id other row otherRow stored otherStored same alive otherAlive default otherDefault
    rw [variants] at stored otherStored
    rcases of_lookup_insert stored with ⟨rfl, rfl⟩ | ⟨-, earlier⟩
    · rcases of_lookup_insert otherStored with ⟨rfl, -⟩ | ⟨-, otherEarlier⟩
      · rfl
      · exact (single alive default other otherRow otherEarlier same.symm otherAlive otherDefault).symm
    · rcases of_lookup_insert otherStored with ⟨rfl, rfl⟩ | ⟨-, otherEarlier⟩
      · exact single otherAlive otherDefault id row earlier same alive default
      · exact lawful.single id other row otherRow earlier otherEarlier same alive otherAlive default otherDefault

theorem CatalogDb.Lawful.changeVariant (lawful : db.Lawful) {next}
    (found : findVariant db variantId = .ok variant) (saved : db.saveVariant now variantId next event = .ok after)
    (sameProduct : next.productId = variant.productId) (sameDefault : next.isDefault = variant.isDefault)
    (live : next.status = .active → variant.status = .active ∨
      ∀ product, db.products.lookup variant.productId = some product → ¬product.Dead) : after.Lawful := by
  obtain ⟨stored, alive⟩ := findVariant_ok found
  obtain ⟨product, owned⟩ := Option.isSome_iff_exists.mp (lawful.housed variantId variant stored)
  refine lawful.saveVariant saved (sameProduct ▸ owned) ?_ ?_
  · intro active _
    rcases live active with was | good
    · exact lawful.live variantId variant product stored was alive owned
    · exact good product owned
  · intro _ default other otherVariant otherStored same otherAlive otherDefault
    rw [sameProduct] at same
    rw [sameDefault] at default
    exact lawful.single other variantId otherVariant variant otherStored stored same otherAlive alive otherDefault default

theorem findProduct_ok (found : findProduct db productId = .ok product) :
    db.products.lookup productId = some product ∧ product.deleted = false := by
  rw [findProduct, required_eq_ok, CatalogDb.product, Option.filter_eq_some_iff] at found
  simpa using found

theorem insertVariant_lawful {status} {fresh} (lawful : db.Lawful)
    (found : db.products.lookup productId = some product) (live : status = .active → ¬product.Dead)
    (single : fresh.isDefault = true → db.Undefaulted productId)
    (inserted : insertVariant now productId status db fresh = .ok after) : after.Lawful ∧ after.products = db.products := by
  simp only [insertVariant, eq_ok] at inserted
  obtain ⟨-, -, saved⟩ := inserted
  refine ⟨lawful.saveVariant saved found (fun active _ => live active) ?_, (saveVariant_rows saved).1⟩
  intro _ default other otherVariant stored same alive otherDefault
  have undefaulted := single default ⟨other, otherVariant⟩ (mem_variantsOf.mpr ⟨stored, same, alive⟩)
  exact absurd otherDefault (by rw [undefaulted]; exact Bool.false_ne_true)

theorem insertVariants_lawful {items : List NewVariant} (lawful : db.Lawful)
    (found : db.products.lookup productId = some product) (live : ¬product.Dead)
    (plain : ∀ item ∈ items, item.isDefault = false)
    (inserted : items.foldlM (insertVariant now productId .active) db = .ok after) : after.Lawful := by
  have kept := foldlM_preserves (fun db : CatalogDb => db.Lawful ∧ db.products.lookup productId = some product) ?_
    ⟨lawful, found⟩ inserted
  · exact kept.1
  · rintro item member before next ⟨lawful, found⟩ stepped
    have single : item.isDefault = true → before.Undefaulted productId := by
      intro default
      rw [plain item member] at default
      cases default
    obtain ⟨lawful, products⟩ := insertVariant_lawful lawful found (fun _ => live) single stepped
    exact ⟨lawful, by rw [products]; exact found⟩

theorem deactivateVariants_rows {status}
    (distinct : (entries.map (·.1)).Nodup) (ran : entries.foldlM (deactivateVariant now status) db = .ok after) :
    after.products = db.products ∧
      (∀ entry ∈ entries, after.variants.lookup entry.1 = some { entry.2.withStatus status with updatedAt := now }) ∧
      ∀ other, other ∉ entries.map (·.1) → after.variants.lookup other = db.variants.lookup other := by
  induction entries generalizing db with
  | nil =>
    rw [foldlM_nil] at ran
    subst ran
    exact ⟨rfl, fun _ member => absurd member not_mem_nil, fun _ _ => rfl⟩
  | cons entry entries inner =>
    obtain ⟨middle, saved, rest⟩ := foldlM_cons.mp ran
    rw [map_cons, nodup_cons] at distinct
    obtain ⟨products, variants⟩ := saveVariant_rows saved
    obtain ⟨laterProducts, changed, others⟩ := inner distinct.2 rest
    refine ⟨laterProducts.trans products, ?_, ?_⟩
    · intro item member
      rcases mem_cons.mp member with rfl | later
      · rw [others _ distinct.1, variants, lookup_insert_self]
      · exact changed item later
    · intro other outside
      rw [map_cons, mem_cons, not_or] at outside
      rw [others other outside.2, variants, lookup_insert_if, if_neg outside.1]

theorem CatalogDb.Lawful.withVariants (lawful : db.Lawful) (saved : Product) {status}
    (listed : entries.Sublist (db.variantsOf productId))
    (off : status ≠ .active) (products : ∀ id, after.products.lookup id = if id = productId then some saved else db.products.lookup id)
    (enough : saved.Dead → ∀ entry ∈ db.variantsOf productId, entry.2.status = .active → entry ∈ entries)
    (changed : ∀ entry ∈ entries, after.variants.lookup entry.1 = some { entry.2.withStatus status with updatedAt := now })
    (others : ∀ other, other ∉ entries.map (·.1) → after.variants.lookup other = db.variants.lookup other) : after.Lawful := by
  -- a row is as it was, or one of those that are off now
  have rows : ∀ id row, after.variants.lookup id = some row → ∃ earlier, db.variants.lookup id = some earlier ∧
      row.productId = earlier.productId ∧ row.deleted = earlier.deleted ∧ row.isDefault = earlier.isDefault ∧
      (row.status = .active → earlier.status = .active ∧ (id, earlier) ∉ entries) := by
    intro id row stored
    by_cases member : id ∈ entries.map (·.1)
    · obtain ⟨entry, inside, rfl⟩ := mem_map.mp member
      rw [changed entry inside] at stored
      cases stored
      refine ⟨entry.2, (mem_variantsOf.mp (listed.subset inside)).1, rfl, rfl, rfl, ?_⟩
      exact fun active => absurd active off
    · rw [others id member] at stored
      exact ⟨row, stored, rfl, rfl, rfl, fun active => ⟨active, fun inside => member (mem_map_of_mem (f := Prod.fst) inside)⟩⟩
  refine ⟨?_, ?_, ?_⟩
  · intro id row stored
    obtain ⟨earlier, found, same, -⟩ := rows id row stored
    rw [products, same]
    split
    · rfl
    · exact lawful.housed id earlier found
  · intro id row product stored active alive owned dead
    obtain ⟨earlier, found, same, sameDeleted, -, left⟩ := rows id row stored
    obtain ⟨was, outside⟩ := left active
    rw [products, same] at owned
    rw [sameDeleted] at alive
    by_cases ours : earlier.productId = productId
    · rw [if_pos ours] at owned
      cases owned
      exact outside (enough dead (id, earlier) (mem_variantsOf.mpr ⟨found, ours, alive⟩) was)
    · rw [if_neg ours] at owned
      exact lawful.live id earlier product found was alive owned dead
  · intro id other row otherRow stored otherStored sameProduct alive otherAlive default otherDefault
    obtain ⟨earlier, found, same, sameDeleted, sameDefault, -⟩ := rows id row stored
    obtain ⟨otherEarlier, otherFound, otherSame, otherSameDeleted, otherSameDefault, -⟩ := rows other otherRow otherStored
    exact lawful.single id other earlier otherEarlier found otherFound (same.symm.trans (sameProduct.trans otherSame))
      (sameDeleted.symm.trans alive) (otherSameDeleted.symm.trans otherAlive) (sameDefault.symm.trans default)
      (otherSameDefault.symm.trans otherDefault)

theorem CatalogDb.Lawful.saveProduct (lawful : db.Lawful) {saved}
    (fine : db.products.lookup productId = none ∨
      ∃ product, db.products.lookup productId = some product ∧ (saved.Dead → product.Dead)) :
    (db.saveProduct now productId saved).Lawful := by
  rcases fine with fresh | ⟨product, found, worse⟩
  · -- no variant has a product that was not there
    have apart : ∀ id variant, db.variants.lookup id = some variant → variant.productId ≠ productId := by
      intro id variant stored same
      have housed := lawful.housed id variant stored
      rw [same, fresh] at housed
      cases housed
    refine ⟨?_, ?_, lawful.single⟩
    · intro id variant stored
      show (lookup _ (insert _ _ _)).isSome = true
      rw [lookup_insert_if, if_neg (apart id variant stored)]
      exact lawful.housed id variant stored
    · intro id variant owner stored active alive owned
      replace owned : lookup variant.productId (insert productId _ db.products) = some owner := owned
      rw [lookup_insert_if, if_neg (apart id variant stored)] at owned
      exact lawful.live id variant owner stored active alive owned
  · refine lawful.congr rfl ?_
    intro id
    by_cases same : id = productId
    · exact .inr ⟨product, { saved with updatedAt := now }, same ▸ found,
        by rw [same]; exact lookup_insert_self _ _ _, worse⟩
    · exact .inl (by rw [CatalogDb.saveProduct, lookup_insert_if, if_neg same])

theorem CatalogDb.Lawful.add (lawful : db.Lawful) (event : CatalogEvent) : (db.add event).Lawful :=
  lawful.congr rfl fun _ => .inl rfl

theorem createProduct_lawful {dto classes} (lawful : db.Lawful)
    (created : createProduct db now productId dto classes = .ok after) : after.Lawful := by
  simp only [createProduct, eq_ok] at created
  obtain ⟨-, -, -, absent, created⟩ := created
  have stored : (db.saveProduct now productId (dto.row now)).Lawful := lawful.saveProduct (.inl absent)
  cases asked : dto.defaultVariant with
  | none =>
    rw [asked] at created
    cases created
    exact stored.add _
  | some variant =>
    rw [asked] at created
    refine (insertVariant_lawful (stored.add _) (lookup_insert_self _ _ _) ?_ ?_ created).1
    · rintro active (archived | deleted)
      · have archived : (dto.row now).status = .archived := archived
        simp [archived] at active
      · cases deleted
    · intro _ entry member
      -- the product is new, so nothing is its variant yet
      obtain ⟨found, ours, -⟩ := mem_variantsOf.mp member
      have housed := lawful.housed entry.1 entry.2 found
      rw [ours, absent] at housed
      cases housed

theorem validateVariantWithProductLifecycle_active {status}
    (valid : ∃ passed, validateVariantWithProductLifecycle status .active = .ok passed) : status ≠ .archived := by
  obtain ⟨_, valid⟩ := valid
  rw [validateVariantWithProductLifecycle, ensure_eq_ok] at valid
  exact fun archived => valid ⟨archived, rfl⟩

theorem findProduct_alive (found : findProduct db productId = .ok product) (status : product.status ≠ .archived) :
    db.products.lookup productId = some product ∧ ¬product.Dead := by
  obtain ⟨stored, undeleted⟩ := findProduct_ok found
  refine ⟨stored, ?_⟩
  rintro (archived | deleted)
  · exact status archived
  · cases undeleted.symm.trans deleted

section

variable (lawful : db.Lawful)

include lawful

theorem createVariant_lawful {fresh} (single : fresh.isDefault = true → db.Undefaulted productId)
    (created : createVariant db now productId fresh = .ok after) : after.Lawful := by
  simp only [createVariant, eq_ok] at created
  obtain ⟨product, found, _, valid, inserted⟩ := created
  obtain ⟨stored, alive⟩ := findProduct_alive found (validateVariantWithProductLifecycle_active ⟨_, valid⟩)
  exact (insertVariant_lawful lawful stored (fun _ => alive) single inserted).1

theorem generateVariants_lawful {specs : List NewVariant} (single : specs ≠ [] → db.Undefaulted productId)
    (generated : generateVariants db now productId specs = .ok after) : after.Lawful := by
  simp only [generateVariants, eq_ok] at generated
  obtain ⟨product, found, _, valid, inserted⟩ := generated
  obtain ⟨stored, alive⟩ := findProduct_alive found (validateVariantWithProductLifecycle_active ⟨_, valid⟩)
  cases specs with
  | nil =>
    cases inserted
    exact lawful
  | cons spec specs =>
    rw [zipIdx_cons, map_cons, foldlM_cons] at inserted
    obtain ⟨middle, first, rest⟩ := inserted
    obtain ⟨begun, products⟩ := insertVariant_lawful lawful stored (fun _ => alive)
      (fun _ => single (cons_ne_nil _ _)) first
    refine insertVariants_lawful begun (by rw [products]; exact stored) alive ?_ rest
    intro item member
    obtain ⟨⟨fresh, index⟩, listed, rfl⟩ := mem_map.mp member
    have later := (mem_zipIdx listed).1
    exact decide_eq_false (by show index ≠ 0; omega)

theorem updateVariantStatus_lawful {status} (careful : status = .active → ((db.variant variantId).bind fun variant =>
      (db.products.lookup variant.productId).filter fun product => product.deleted) = none)
    (updated : updateVariantStatus db now variantId status version = .ok after) : after.Lawful := by
  simp only [updateVariantStatus, eq_ok] at updated
  obtain ⟨variant, found, -, -, _, checked, saved⟩ := updated
  refine lawful.changeVariant found saved rfl rfl fun active => .inr ?_
  intro product owned
  have active : status = .active := active
  have undeleted : product.deleted = false := by
    have kept := careful active
    rw [findVariant, required_eq_ok] at found
    rw [found, Option.bind_some, owned] at kept
    simpa using kept
  have visible : db.product variant.productId = some product := by
    rw [CatalogDb.product, owned, Option.filter_some, undeleted]
    rfl
  rw [checkProductOf, visible, active] at checked
  rintro (archived | deleted)
  · exact validateVariantWithProductLifecycle_active ⟨_, checked⟩ archived
  · cases undeleted.symm.trans deleted

theorem updateProductStatus_lawful {status}
    (updated : updateProductStatus db now productId status version = .ok after) : after.Lawful := by
  simp only [updateProductStatus, eq_ok] at updated
  obtain ⟨product, found, -, -, -, -, middle, deactivated, rfl⟩ := updated
  obtain ⟨stored, undeleted⟩ := findProduct_ok found
  apply Lawful.add
  unfold deactivateActiveVariants at deactivated
  split at deactivated
  · next off =>
    have distinct := ((variantsOf_read db productId).1).sublist
      ((filter_sublist (p := fun entry => decide (entry.2.status = VariantStatus.active))).map Prod.fst)
    obtain ⟨products, changed, others⟩ := deactivateVariants_rows distinct deactivated
    refine lawful.withVariants { product with status, version := product.version + 1, updatedAt := now }
      filter_sublist ?_ ?_ ?_ changed others
    · split <;> simp
    · intro id
      rw [products, saveProduct, lookup_insert_if]
    · intro _ entry member active
      exact mem_filter.mpr ⟨member, decide_eq_true active⟩
  · next on =>
    cases deactivated
    refine lawful.saveProduct (.inr ⟨product, stored, ?_⟩)
    rintro (archived | deleted)
    · exact absurd (.inr archived) on
    · exact .inr deleted

theorem softDeleteProduct_lawful (deleted : softDeleteProduct db now productId = .ok after) : after.Lawful := by
  simp only [softDeleteProduct, eq_ok] at deleted
  obtain ⟨product, found, middle, deactivated, rfl⟩ := deleted
  apply Lawful.add
  obtain ⟨products, changed, others⟩ := deactivateVariants_rows (variantsOf_read db productId).1 deactivated
  refine lawful.withVariants
    { product with status := .archived, version := product.version + 1, updatedAt := now, deleted := true }
    (Sublist.refl _) ?_ ?_ ?_ changed others
  · simp
  · intro id
    rw [products, saveProduct, lookup_insert_if]
  · exact fun _ entry member _ => member

theorem execute_lawful (careful : Careful db (now, request)) (ran : execute db now request = .ok after) : after.Lawful := by
  cases request with
  | createProduct productId dto classes => exact createProduct_lawful lawful ran
  | updateProduct productId dto classes =>
    simp only [execute, updateProduct, eq_ok] at ran
    obtain ⟨product, found, -, -, -, -, rfl⟩ := ran
    apply Lawful.add
    exact lawful.saveProduct (.inr ⟨product, (findProduct_ok found).1, id⟩)
  | createVariant productId fresh => exact createVariant_lawful lawful careful ran
  | generateVariants productId specs => exact generateVariants_lawful lawful careful ran
  | updateVariant variantId dto =>
    simp only [execute, updateVariant, eq_ok] at ran
    obtain ⟨variant, found, -, -, saved⟩ := ran
    exact lawful.changeVariant found saved rfl rfl .inl
  | updateVariantStatus variantId status version =>
    refine updateVariantStatus_lawful lawful ?_ ran
    rintro rfl
    exact careful
  | softDeleteVariant variantId =>
    simp only [execute, softDeleteVariant, eq_ok] at ran
    obtain ⟨variant, found, saved⟩ := ran
    refine lawful.changeVariant found saved rfl rfl fun active => ?_
    cases active
  | updateProductStatus productId status version => exact updateProductStatus_lawful lawful ran
  | softDeleteProduct productId => exact softDeleteProduct_lawful lawful ran

end

def CatalogDb.Archived (db : CatalogDb) (productId : Uuid) : Prop :=
  ∃ product, db.products.lookup productId = some product ∧ product.status = .archived

theorem CatalogDb.Archived.congr (archived : db.Archived productId) (products : after.products = db.products) :
    after.Archived productId := by
  obtain ⟨product, found, status⟩ := archived
  exact ⟨product, by rw [products]; exact found, status⟩

theorem CatalogDb.Archived.saveProduct (archived : db.Archived id) {saved}
    (kept : productId = id → saved.status = .archived) : (db.saveProduct now productId saved).Archived id := by
  obtain ⟨product, found, status⟩ := archived
  by_cases same : id = productId
  · subst same
    exact ⟨_, lookup_insert_self _ _ _, kept rfl⟩
  · exact ⟨product, by rw [CatalogDb.saveProduct, lookup_insert_if, if_neg same]; exact found, status⟩

theorem insertVariant_products {status fresh}
    (inserted : insertVariant now productId status db fresh = .ok after) : after.products = db.products := by
  simp only [insertVariant, eq_ok] at inserted
  obtain ⟨-, -, saved⟩ := inserted
  exact (saveVariant_rows saved).1

theorem deactivateActiveVariants_products {status}
    (deactivated : deactivateActiveVariants now productId status db = .ok after) : after.products = db.products := by
  unfold deactivateActiveVariants at deactivated
  split at deactivated
  · exact (deactivateVariants_rows (((variantsOf_read db productId).1).sublist (filter_sublist.map _)) deactivated).1
  · cases deactivated
    rfl

theorem transition_archived {next passed}
    (valid : validateProductLifecycleTransition .archived next = .ok passed) : next = .archived := by
  cases next with
  | archived => rfl
  | _ => cases valid

theorem execute_archived (archived : db.Archived id) (ran : execute db now request = .ok after) : after.Archived id := by
  cases request with
  | createProduct productId dto classes =>
    simp only [execute, createProduct, eq_ok] at ran
    obtain ⟨-, -, -, absent, made⟩ := ran
    have stored : (db.saveProduct now productId (dto.row now)).Archived id := by
      apply archived.saveProduct
      rintro rfl
      obtain ⟨product, found, -⟩ := archived
      cases absent.symm.trans found
    cases asked : dto.defaultVariant with
    | none =>
      rw [asked] at made
      cases made
      exact stored
    | some variant =>
      rw [asked] at made
      have products := insertVariant_products made
      exact stored.congr products
  | updateProduct productId dto classes =>
    simp only [execute, updateProduct, eq_ok] at ran
    obtain ⟨product, found, -, -, -, -, rfl⟩ := ran
    refine archived.saveProduct ?_
    rintro rfl
    obtain ⟨same, sameFound, status⟩ := archived
    rw [(findProduct_ok found).1] at sameFound
    cases sameFound
    exact status
  | createVariant productId fresh =>
    simp only [execute, createVariant, eq_ok] at ran
    obtain ⟨_, _, _, _, inserted⟩ := ran
    exact archived.congr (insertVariant_products inserted)
  | generateVariants productId specs =>
    simp only [execute, generateVariants, eq_ok] at ran
    obtain ⟨_, _, _, _, inserted⟩ := ran
    exact foldlM_preserves (fun db : CatalogDb => db.Archived id)
      (fun _ _ _ _ held each => held.congr (insertVariant_products each)) archived inserted
  | updateVariant variantId dto =>
    simp only [execute, updateVariant, eq_ok] at ran
    obtain ⟨_, _, _, _, saved⟩ := ran
    exact archived.congr (saveVariant_rows saved).1
  | updateVariantStatus variantId status version =>
    simp only [execute, updateVariantStatus, eq_ok] at ran
    obtain ⟨_, _, _, _, _, _, saved⟩ := ran
    exact archived.congr (saveVariant_rows saved).1
  | softDeleteVariant variantId =>
    simp only [execute, softDeleteVariant, eq_ok] at ran
    obtain ⟨_, _, saved⟩ := ran
    exact archived.congr (saveVariant_rows saved).1
  | updateProductStatus productId status version =>
    simp only [execute, updateProductStatus, eq_ok] at ran
    obtain ⟨product, found, _, _, _, valid, middle, deactivated, rfl⟩ := ran
    have products := deactivateActiveVariants_products deactivated
    refine Archived.congr (archived.saveProduct ?_) products
    rintro rfl
    obtain ⟨same, sameFound, archivedNow⟩ := archived
    rw [(findProduct_ok found).1] at sameFound
    cases sameFound
    rw [archivedNow] at valid
    exact transition_archived valid
  | softDeleteProduct productId =>
    simp only [execute, softDeleteProduct, eq_ok] at ran
    obtain ⟨product, found, middle, deactivated, rfl⟩ := ran
    have products := (deactivateVariants_rows (variantsOf_read db productId).1 deactivated).1
    exact Archived.congr (archived.saveProduct fun _ => rfl) products

theorem archived_stays (archived : db.Archived id) (inputs : List (Nat × Request)) :
    (Run.after perform db inputs).Archived id := by
  refine Run.invariant (fun db : CatalogDb => db.Archived id) ?_ archived inputs
  intro db input archived
  exact commit_preserves (fun db : CatalogDb => db.Archived id) archived fun after ran => execute_archived archived ran

end Requests

theorem CatalogDb.Lawful.empty : Lawful {} :=
  ⟨fun id variant found => by simp at found, fun id variant product found => by simp at found,
    fun id other variant otherVariant found => by simp at found⟩

/-- In every run whose activations leave the variants of deleted products alone, and whose new default variants are the first
of their products: no active variant has a dead product, no product two default variants, and no archived product comes back. -/
theorem no_live_variant_of_dead_product {inputs : List (Nat × Request)} (careful : Meets perform Careful {} inputs) :
    NoLiveVariantOfDead (after perform {} inputs) ∧ OneDefaultVariant (after perform {} inputs) ∧
      ∀ earlier later, inputs = earlier ++ later → ∀ productId, (after perform {} earlier).Archived productId →
        (after perform {} inputs).Archived productId := by
  have lawful : (after perform {} inputs).Lawful := by
    refine invariant_of_meets Lawful ?_ careful Lawful.empty
    intro db input careful lawful
    exact commit_preserves Lawful lawful fun after executed => execute_lawful lawful careful executed
  refine ⟨lawful.live, lawful.single, ?_⟩
  rintro earlier later rfl productId archived
  rw [after_append]
  exact archived_stays archived later

def retiredProduct : List (Nat × Request) :=
  [(1, .createProduct 1 { name := "Tea", defaultVariant := some { variantId := 10, skuCode := "TEA", name := "" } } {}),
    (2, .softDeleteProduct 1)]

private def pausedProduct : List (Nat × Request) :=
  retiredProduct.take 1 ++ [(2, .updateVariantStatus 10 .inactive none), (3, .updateVariantStatus 10 .active none),
    (4, .createVariant 1 { variantId := 11, skuCode := "TEA-RED", name := "Tea (red)" }), (5, .softDeleteProduct 1)]

/-- A variant is switched off and on again and a second one is made before their product is deleted. -/
theorem no_live_variant_of_dead_product_retired :
    Meets perform Careful {} pausedProduct ∧
      NoLiveVariantOfDead (after perform {} pausedProduct) ∧ OneDefaultVariant (after perform {} pausedProduct) ∧
      ∀ earlier later, pausedProduct = earlier ++ later → ∀ productId, (after perform {} earlier).Archived productId →
        (after perform {} pausedProduct).Archived productId := by
  have careful : Meets perform Careful {} pausedProduct := ⟨trivial, trivial, rfl, nofun, trivial, trivial⟩
  exact ⟨careful, no_live_variant_of_dead_product careful⟩

/-- The variant of a deleted product is activated, and a second default variant is made for a live one. -/
theorem dead_product_sold :
    (let db := after perform {} (retiredProduct ++ [(3, .updateVariantStatus 10 .active none)])
      ∃ variant product, db.variants.lookup 10 = some variant ∧ variant.status = .active ∧ variant.deleted = false ∧
        db.products.lookup variant.productId = some product ∧ product.Dead) ∧
    let db := after perform {} (retiredProduct.take 1 ++ [(2, .generateVariants 1
      [{ variantId := 11, skuCode := "TEA-RED", name := "Tea (red)", combinationSignature := "color:red" }])])
    ∃ variant otherVariant, db.variants.lookup 10 = some variant ∧ db.variants.lookup 11 = some otherVariant ∧
      variant.productId = otherVariant.productId ∧ variant.deleted = false ∧ otherVariant.deleted = false ∧
      variant.isDefault = true ∧ otherVariant.isDefault = true :=
  ⟨⟨_, _, rfl, rfl, rfl, rfl, by decide⟩, _, _, rfl, rfl, rfl, rfl, rfl, rfl, rfl⟩

end Catalog
