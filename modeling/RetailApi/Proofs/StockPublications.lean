import RetailApi.Base.Run
import RetailApi.Integration.InventorySync

/-! The channel shows the latest stock while older snapshots do not cut in: none is prepared over a row still in publication,
none reaches the provider late, and no older failure is recorded over a newer success. -/

namespace Integration

open PublicationSystem Option List Table

variable {snapshots : Nat → PublishVariantStockInput} {system : PublicationSystem} {thread version : Nat}
  {row : ChannelInventoryPublicationEntity}

def PublicationSystem.inOrder (system : PublicationSystem) : PublicationInput → Bool
  | .prepare _ version => system.publication.all fun row => row.status = .succeeded ∨ row.stockVersion ≤ version
  | .call thread answer => (system.running.lookup thread).all fun publication =>
      system.remote.all fun remote => answer.applied = false ∨ remote.stockVersion ≤ publication.stockVersion
  | .record thread => (system.running.lookup thread).all fun publication =>
      match publication.outcome with
      | some (.error _) => system.publication.all fun row =>
          ¬(row.status = .succeeded ∧ publication.stockVersion < row.lastPublishedStockVersion)
      | _ => true
  | _ => true

def PublicationSystem.wanted (system : PublicationSystem) (snapshots : Nat → PublishVariantStockInput) (version : Nat) : Int :=
  system.connection.publishableQty (snapshots version)

structure PublicationSystem.Tracks (system : PublicationSystem) (snapshots : Nat → PublishVariantStockInput)
    (row : ChannelInventoryPublicationEntity) : Prop where
  target : row.targetPublishedQty = system.wanted snapshots row.stockVersion
  listed : row.stockVersion ∈ system.seen
  newest : ∀ version ∈ system.seen, version ≤ row.stockVersion
  published : row.lastPublishedStockVersion ≤ row.stockVersion
  confirmed : ∀ quantity, row.lastConfirmedQty = some quantity →
    quantity = system.wanted snapshots row.lastPublishedStockVersion ∧
      ∃ remote, system.remote = some remote ∧ row.lastPublishedStockVersion ≤ remote.stockVersion
  remote : ∀ remote, system.remote = some remote →
    remote.quantity = system.wanted snapshots remote.stockVersion ∧ remote.stockVersion ≤ row.stockVersion
  running : ∀ thread publication, system.running.lookup thread = some publication →
    publication.stockVersion ≤ row.stockVersion ∧
      publication.quantity = system.wanted snapshots publication.stockVersion ∧
      ∀ quantity, publication.outcome = some (.ok quantity) → quantity = publication.quantity ∧
        ∃ remote, system.remote = some remote ∧ publication.stockVersion ≤ remote.stockVersion
  underway : system.failed = false → (row.lastConfirmedQty ≠ none ∧ row.lastPublishedStockVersion = row.stockVersion) ∨
    ∃ thread publication, system.running.lookup thread = some publication ∧ publication.stockVersion = row.stockVersion

/-- Before the first snapshot nothing has been published, and from then on the row tracks the snapshots. -/
def PublicationSystem.Kept (system : PublicationSystem) (snapshots : Nat → PublishVariantStockInput) : Prop :=
  match system.publication with
  | none => system.seen = [] ∧ system.remote = none ∧ ∀ thread, system.running.lookup thread = none
  | some row => system.Tracks snapshots row

structure PublicationOrdered (snapshots : Nat → PublishVariantStockInput) (system : PublicationSystem)
    (input : PublicationInput) (row after : ChannelInventoryPublicationEntity) : Prop where
  versions : row.stockVersion ≤ after.stockVersion ∧ row.lastPublishedStockVersion ≤ after.lastPublishedStockVersion
  target : ∀ thread version, input = .prepare thread version → version < row.stockVersion →
    after.targetPublishedQty = row.targetPublishedQty
  failure : ∀ thread publication failure, input = .record thread → system.running.lookup thread = some publication →
    publication.outcome = some (.error failure) → publication.stockVersion < row.lastPublishedStockVersion →
    row.status = .succeeded → after.status = .succeeded

def PublicationStep (snapshots : Nat → PublishVariantStockInput) (system : PublicationSystem) (input : PublicationInput) : Prop :=
  ∀ row, system.publication = some row → ∃ after, (publicationStep snapshots system input).publication = some after ∧
    PublicationOrdered snapshots system input row after

/-- Once every publication has finished and none has failed, the newest snapshot is on the channel. -/
def PublicationSystem.Latest (system : PublicationSystem) (snapshots : Nat → PublishVariantStockInput) : Prop :=
  (∀ thread, system.running.lookup thread = none) → system.failed = false →
    ∀ version ∈ system.seen, (∀ other ∈ system.seen, other ≤ version) →
      system.remote = some ⟨system.wanted snapshots version, version⟩ ∧
        ∃ row, system.publication = some row ∧ row.targetPublishedQty = system.wanted snapshots version ∧
          row.lastConfirmedQty = some (system.wanted snapshots version)

variable {conn : PublishingConnection} {after : ChannelInventoryPublicationEntity}

theorem preparePublication_some {input} (prepared : preparePublication conn input version (some row) = some after) :
    after.targetPublishedQty = conn.publishableQty input ∧ after.stockVersion = version ∧
      after.lastPublishedStockVersion = row.lastPublishedStockVersion ∧ after.lastConfirmedQty = row.lastConfirmedQty ∧
      (row.status = .succeeded → max row.lastPublishedStockVersion row.stockVersion < version) := by
  rw [preparePublication] at prepared
  split at prepared
  · cases prepared
  · next fresh =>
    cases prepared
    refine ⟨rfl, rfl, rfl, rfl, fun succeeded => ?_⟩
    by_contra stale
    refine fresh ⟨?_, succeeded⟩
    rw [shouldApplyInventoryStockVersion, decide_eq_false_iff_not]
    omega

theorem preparePublication_skipped {input} (skipped : preparePublication conn input version (some row) = none) :
    version ≤ max row.lastPublishedStockVersion row.stockVersion := by
  rw [preparePublication] at skipped
  split at skipped
  · next stale =>
    have older := stale.1
    rw [shouldApplyInventoryStockVersion, decide_eq_false_iff_not] at older
    omega
  · cases skipped

theorem prepare_not_older {input} (inOrder : row.status = .succeeded ∨ row.stockVersion ≤ version)
    (prepared : preparePublication system.connection input version (some row) = some after) : row.stockVersion ≤ version := by
  rcases inOrder with succeeded | newer
  · have above := (preparePublication_some prepared).2.2.2.2 succeeded
    omega
  · exact newer

namespace PublicationSystem.Tracks

theorem skip (tracks : system.Tracks snapshots row) (stale : version ≤ max row.lastPublishedStockVersion row.stockVersion)
    (projections : Table Uuid IntegrationStockProjectionEntity) :
    Tracks { system with projections, seen := system.seen ++ [version] } snapshots row := by
  have published := tracks.published
  exact ⟨tracks.target, mem_append_left _ tracks.listed,
    forall_mem_append.mpr ⟨tracks.newest, forall_mem_singleton.mpr (by omega)⟩, tracks.published,
    tracks.confirmed, tracks.remote, tracks.running, tracks.underway⟩

theorem prepare (tracks : system.Tracks snapshots row) {after} (newer : row.stockVersion ≤ version)
    (prepared : preparePublication system.connection (snapshots version) version (some row) = some after)
    (projections : Table Uuid IntegrationStockProjectionEntity) : Tracks { system with
      projections, seen := system.seen ++ [version], publication := some after
      running := system.running.insert thread { stockVersion := version, quantity := after.targetPublishedQty } }
      snapshots after := by
  obtain ⟨target, stockVersion, lastPublished, lastConfirmed, _⟩ := preparePublication_some prepared
  have published := tracks.published
  refine ⟨?_, ?_, fun other member => ?_, by omega, ?_, fun remote shown => ?_, fun other publication found => ?_, fun _ => .inr
    ⟨thread, _, lookup_insert_self .., stockVersion.symm⟩⟩
  · rw [target, stockVersion]
    rfl
  · rw [stockVersion]
    exact mem_append_right _ mem_cons_self
  · rw [stockVersion]
    rcases mem_append.mp member with before | new
    · exact (tracks.newest other before).trans newer
    · exact (mem_singleton.mp new).le
  · rw [lastConfirmed, lastPublished]
    exact tracks.confirmed
  · obtain ⟨shows, within⟩ := tracks.remote remote shown
    exact ⟨shows, by omega⟩
  · rcases of_lookup_insert found with ⟨_, rfl⟩ | ⟨_, before⟩
    · refine ⟨stockVersion.ge, target, ?_⟩
      rintro _ ⟨⟩
    · obtain ⟨within, rest⟩ := tracks.running other publication before
      exact ⟨by omega, rest⟩

variable {publication : StockPublication}

section

variable (tracks : system.Tracks snapshots row)

include tracks

section

variable (found : system.running.lookup thread = some publication)
include found

theorem apply
    (late : ∀ remote, system.remote = some remote → remote.stockVersion ≤ publication.stockVersion) :
    Tracks { system with remote := some ⟨publication.quantity, publication.stockVersion⟩ } snapshots row := by
  obtain ⟨within, quantity, _⟩ := tracks.running thread publication found
  have grown : ∀ {version}, (∃ remote, system.remote = some remote ∧ version ≤ remote.stockVersion) →
      version ≤ publication.stockVersion := by
    rintro version ⟨remote, shown, least⟩
    exact least.trans (late remote shown)
  refine ⟨tracks.target, tracks.listed, tracks.newest, tracks.published, fun quantity confirmed => ?_, ?_, fun other going found => ?_,
    tracks.underway⟩
  · obtain ⟨same, shown⟩ := tracks.confirmed quantity confirmed
    exact ⟨same, _, rfl, grown shown⟩
  · rintro _ ⟨⟩
    exact ⟨quantity, within⟩
  · obtain ⟨within, same, answered⟩ := tracks.running other going found
    exact ⟨within, same, fun quantity outcome => ⟨(answered quantity outcome).1, _, rfl, grown (answered quantity outcome).2⟩⟩

theorem answer {outcome} {failed}
    (still : failed = false → system.failed = false)
    (shown : ∀ quantity, outcome = .ok quantity → quantity = publication.quantity ∧
      ∃ remote, system.remote = some remote ∧ publication.stockVersion ≤ remote.stockVersion) : Tracks { system with
      running := system.running.insert thread { publication with outcome := some outcome }, failed } snapshots row := by
  obtain ⟨within, same, _⟩ := tracks.running thread publication found
  refine ⟨tracks.target, tracks.listed, tracks.newest, tracks.published, tracks.confirmed, tracks.remote, ?_,
    fun unfailed => (tracks.underway (still unfailed)).imp_right ?_⟩
  · exact forall_insert ⟨within, same, fun quantity answered => shown quantity (some.inj answered)⟩ tracks.running
  · rintro ⟨other, going, before, newest⟩
    by_cases here : other = thread
    · rw [here, found] at before
      cases before
      exact ⟨thread, _, lookup_insert_self .., newest⟩
    · exact ⟨other, going, (AList.lookup_insert_ne here).trans before, newest⟩

theorem call {answer}
    (late : ∀ remote, system.remote = some remote → answer.applied = false ∨ remote.stockVersion ≤ publication.stockVersion) :
    Tracks (system.call thread publication answer) snapshots row := by
  have applied : answer.applied = true →
      Tracks { system with remote := some ⟨publication.quantity, publication.stockVersion⟩ } snapshots row := by
    intro taken
    refine tracks.apply found fun remote shown => (late remote shown).resolve_left ?_
    rw [taken]
    exact Bool.noConfusion
  cases answer with
  | confirmed =>
    refine (applied rfl).answer found id ?_
    rintro _ ⟨⟩
    exact ⟨rfl, _, rfl, le_rfl⟩
  | refused failure taken =>
    cases taken with
    | true => exact (applied rfl).answer found (by rintro ⟨⟩) (by rintro _ ⟨⟩)
    | false => exact tracks.answer found (by rintro ⟨⟩) (by rintro _ ⟨⟩)

end

theorem fail (thread : Nat) (after : ChannelInventoryPublicationEntity)
    (same : after.targetPublishedQty = row.targetPublishedQty ∧ after.stockVersion = row.stockVersion ∧
      after.lastPublishedStockVersion = row.lastPublishedStockVersion ∧ after.lastConfirmedQty = row.lastConfirmedQty)
    (publication : Option ChannelInventoryPublicationEntity) :
    Tracks { system with publication, running := system.running.erase thread, failed := true } snapshots after := by
  obtain ⟨target, stockVersion, lastPublished, lastConfirmed⟩ := same
  refine ⟨?_, ?_, ?_, ?_, ?_, ?_, fun other going found => ?_, by rintro ⟨⟩⟩
  · rw [target, stockVersion]
    exact tracks.target
  · rw [stockVersion]
    exact tracks.listed
  · rw [stockVersion]
    exact tracks.newest
  · rw [stockVersion, lastPublished]
    exact tracks.published
  · rw [lastPublished, lastConfirmed]
    exact tracks.confirmed
  · rw [stockVersion]
    exact tracks.remote
  · rw [stockVersion]
    exact tracks.running other going (of_lookup_erase found).2

theorem succeed {quantity}
    (found : system.running.lookup thread = some publication) (confirmed : publication.outcome = some (.ok quantity)) :
    Tracks { system with
      publication := some (recordPublished publication.stockVersion quantity row), running := system.running.erase thread }
      snapshots (recordPublished publication.stockVersion quantity row) := by
  obtain ⟨within, same, answered⟩ := tracks.running thread publication found
  obtain ⟨rfl, shown⟩ := answered quantity confirmed
  have rest : ∀ other going, (system.running.erase thread).lookup other = some going → _ :=
    fun other going after => tracks.running other going (of_lookup_erase after).2
  have published := tracks.published
  -- only the newest publication ends the wait for it
  have others : publication.stockVersion ≠ row.stockVersion →
      (∃ other going, system.running.lookup other = some going ∧ going.stockVersion = row.stockVersion) →
      ∃ other going, (system.running.erase thread).lookup other = some going ∧ going.stockVersion = row.stockVersion := by
    rintro apart ⟨other, going, before, newest⟩
    refine ⟨other, going, (AList.lookup_erase_ne ?_).trans before, newest⟩
    rintro rfl
    exact apart (some.inj (found.symm.trans before) ▸ newest)
  rw [recordPublished]
  split
  · refine ⟨tracks.target, tracks.listed, tracks.newest, within, ?_, tracks.remote, rest, fun unfailed => ?_⟩
    · rintro _ ⟨⟩
      exact ⟨same, shown⟩
    · by_cases newest : publication.stockVersion = row.stockVersion
      · exact .inl ⟨some_ne_none _, newest⟩
      · rcases tracks.underway unfailed with ⟨_, last⟩ | going
        · omega
        · exact .inr (others newest going)
  · refine ⟨tracks.target, tracks.listed, tracks.newest, tracks.published, tracks.confirmed, tracks.remote, rest, fun unfailed => ?_⟩
    exact (tracks.underway unfailed).imp_right (others (by omega))

end

end PublicationSystem.Tracks

theorem PublicationSystem.Kept.tracks (kept : system.Kept snapshots) (stored : system.publication = some row) :
    system.Tracks snapshots row := by
  rw [Kept, stored] at kept
  exact kept

theorem PublicationSystem.Tracks.kept (tracks : system.Tracks snapshots row) (stored : system.publication = some row) :
    system.Kept snapshots := by
  rw [Kept, stored]
  exact tracks

theorem PublicationSystem.Kept.begin (kept : system.Kept snapshots) (absent : system.publication = none) (input : PublicationInput)
    (other : ∀ thread version, input ≠ .prepare thread version) : (publicationStep snapshots system input).Kept snapshots := by
  have stays := kept
  rw [Kept, absent] at kept
  obtain ⟨unseen, unshown, idle⟩ := kept
  cases input with
  | prepare thread version => exact absurd rfl (other thread version)
  | call thread | record thread | abort thread =>
    rw [publicationStep, idle]
    exact stays
  | crash thread =>
    rw [publicationStep, Kept, absent]
    refine ⟨unseen, unshown, fun other => ?_⟩
    by_contra going
    obtain ⟨publication, found⟩ := ne_none_iff_exists'.mp going
    cases (idle other).symm.trans (of_lookup_erase found).2

theorem PublicationSystem.Kept.prepare (kept : system.Kept snapshots) (inOrder : system.inOrder (.prepare thread version) = true) :
    (system.prepare thread (snapshots version) version).Kept snapshots := by
  rw [PublicationSystem.prepare]
  dsimp only
  cases stored : system.publication with
  | none =>
    have absent := kept
    rw [PublicationSystem.Kept, stored] at absent
    obtain ⟨unseen, unshown, idle⟩ := absent
    split
    · refine PublicationSystem.Tracks.kept ⟨rfl, mem_append_right _ mem_cons_self, fun other member => ?_,
        Nat.zero_le _, ?_, fun remote shown => ?_, fun other publication found => ?_,
        fun _ => .inr ⟨thread, _, lookup_insert_self .., rfl⟩⟩ rfl
      · rw [unseen] at member
        exact (mem_singleton.mp member).le
      · rintro _ ⟨⟩
      · cases unshown.symm.trans shown
      · rcases of_lookup_insert found with ⟨_, rfl⟩ | ⟨_, before⟩
        · refine ⟨le_rfl, rfl, ?_⟩
          rintro _ ⟨⟩
        · cases (idle other).symm.trans before
    · rw [PublicationSystem.Kept]
      exact ⟨unseen, unshown, idle⟩
  | some row =>
    have tracks := kept.tracks stored
    simp only [PublicationSystem.inOrder, stored, all_some, decide_eq_true_eq] at inOrder
    split
    · split
      · next skipped =>
        rw [← stored]
        exact (tracks.skip (preparePublication_skipped skipped) _).kept stored
      · next after prepared => exact (tracks.prepare (prepare_not_older inOrder prepared) prepared _).kept rfl
    · rw [← stored]
      refine PublicationSystem.Tracks.kept ?_ stored
      exact ⟨tracks.target, tracks.listed, tracks.newest, tracks.published, tracks.confirmed, tracks.remote, tracks.running,
        tracks.underway⟩

theorem PublicationSystem.Kept.step (kept : system.Kept snapshots) {input}
    (inOrder : system.inOrder input = true) : (publicationStep snapshots system input).Kept snapshots := by
  by_cases prepares : ∃ thread version, input = .prepare thread version
  · obtain ⟨thread, version, rfl⟩ := prepares
    rw [publicationStep]
    split
    · exact kept.prepare inOrder
    · exact kept
  · cases stored : system.publication with
    | none => exact kept.begin stored input fun thread version same => prepares ⟨thread, version, same⟩
    | some row =>
      have tracks := kept.tracks stored
      cases input with
      | prepare thread version => exact absurd ⟨thread, version, rfl⟩ prepares
      | call thread answer =>
        rw [publicationStep]
        split
        · next found =>
          refine (tracks.call found fun remote shown => ?_).kept stored
          simp only [PublicationSystem.inOrder, found, shown, all_some, decide_eq_true_eq] at inOrder
          exact inOrder
        · exact kept
      | record thread =>
        rw [publicationStep]
        split
        · next version _ outcome found =>
          cases outcome with
          | ok quantity =>
            rw [PublicationSystem.record]
            rw [stored]
            exact (tracks.succeed found rfl).kept rfl
          | error failure =>
            rw [PublicationSystem.record]
            dsimp only
            rw [stored]
            exact (tracks.fail thread (recordPublicationFailure failure row) ⟨rfl, rfl, rfl, rfl⟩ _).kept rfl
        · exact kept
      | abort thread failure =>
        rw [publicationStep]
        split
        · next found => exact (tracks.answer found (by rintro ⟨⟩) (by rintro _ ⟨⟩)).kept stored
        · exact kept
      | crash thread => exact (tracks.fail thread row ⟨rfl, rfl, rfl, rfl⟩ system.publication).kept stored

theorem PublicationOrdered.refl (input : PublicationInput) : PublicationOrdered snapshots system input row row :=
  ⟨⟨le_rfl, le_rfl⟩, fun _ _ _ _ => rfl, fun _ _ _ _ _ _ _ succeeded => succeeded⟩

theorem publicationStep_row (stored : system.publication = some row) (input : PublicationInput) :
    (publicationStep snapshots system input).publication = some row ∨
      (∃ thread version after, input = .prepare thread version ∧
        preparePublication system.connection (snapshots version) version (some row) = some after ∧
        (publicationStep snapshots system input).publication = some after) ∨
      ∃ thread publication outcome, input = .record thread ∧ system.running.lookup thread = some publication ∧
        publication.outcome = some outcome ∧ (publicationStep snapshots system input).publication =
          some (match outcome with
            | .ok quantity => recordPublished publication.stockVersion quantity row
            | .error failure => recordPublicationFailure failure row) := by
  cases input with
  | prepare thread version =>
    rw [publicationStep]
    split
    · rw [prepare]
      split
      · dsimp only
        rw [stored]
        split
        · exact .inl rfl
        · next after prepared => exact .inr (.inl ⟨thread, version, after, rfl, prepared, rfl⟩)
      · exact .inl stored
    · exact .inl stored
  | record thread =>
    rw [publicationStep]
    split
    · next version quantity outcome found =>
      refine .inr (.inr ⟨thread, _, outcome, rfl, found, rfl, ?_⟩)
      cases outcome <;> exact congrArg (Option.map _) stored
    · exact .inl stored
  | call | abort =>
    rw [publicationStep]
    split <;> exact .inl stored
  | crash => exact .inl stored

theorem publicationStep_ordered {input} (inOrder : system.inOrder input = true) : PublicationStep snapshots system input := by
  intro row stored
  rcases publicationStep_row stored input with same | ⟨thread, version, after, rfl, prepared, now⟩ |
      ⟨thread, publication, outcome, rfl, found, answered, now⟩
  · exact ⟨row, same, .refl input⟩
  · simp only [PublicationSystem.inOrder, stored, all_some, decide_eq_true_eq] at inOrder
    have newer := prepare_not_older inOrder prepared
    obtain ⟨_, stockVersion, lastPublished, _⟩ := preparePublication_some prepared
    refine ⟨after, now, ⟨by omega, lastPublished.ge⟩, ?_, by rintro _ _ _ ⟨⟩⟩
    rintro _ _ ⟨⟩ older
    omega
  · refine ⟨_, now, ?_⟩
    cases outcome with
    | ok quantity =>
      dsimp only
      rw [recordPublished]
      split
      · next newer => exact ⟨⟨le_rfl, newer⟩, by rintro _ _ ⟨⟩, fun _ _ _ _ _ _ _ _ => rfl⟩
      · exact .refl _
    | error failure =>
      refine ⟨⟨le_rfl, le_rfl⟩, by rintro _ _ ⟨⟩, ?_⟩
      rintro _ other _ ⟨⟩ also _ older succeeded
      cases found.symm.trans also
      simp only [PublicationSystem.inOrder, found, answered, stored, all_some, decide_eq_true_eq] at inOrder
      exact absurd ⟨succeeded, older⟩ inOrder

theorem PublicationSystem.Kept.latest (kept : system.Kept snapshots) : system.Latest snapshots := by
  intro idle unfailed version member newest
  rw [Kept] at kept
  split at kept
  · rw [kept.1] at member
    cases member
  · next row stored =>
    rcases kept.underway unfailed with ⟨confirmed, last⟩ | ⟨thread, publication, found, _⟩
    · obtain ⟨quantity, some⟩ := ne_none_iff_exists'.mp confirmed
      obtain ⟨shows, remote, shown, least⟩ := kept.confirmed quantity some
      obtain ⟨remoteQuantity, most⟩ := kept.remote remote shown
      obtain rfl : version = row.stockVersion := le_antisymm (kept.newest version member) (newest _ kept.listed)
      have current : remote.stockVersion = row.stockVersion := by omega
      refine ⟨?_, row, stored, kept.target, ?_⟩
      · rw [shown, ← current, ← remoteQuantity]
      · rw [some, shows, last]
    · cases (idle thread).symm.trans found

/-- While no older snapshot cuts in, versions and targets only go forward, and the newest snapshot ends on the channel. -/
theorem stock_publications_ordered (snapshots : Nat → PublishVariantStockInput) (connection : PublishingConnection)
    (mappingActive : Bool) {inputs : List PublicationInput}
    (inOrder : Run.Meets (publicationStep snapshots) (fun system input => system.inOrder input = true)
      { connection, mappingActive } inputs) :
    Run.Meets (publicationStep snapshots) (PublicationStep snapshots) { connection, mappingActive } inputs ∧
      (Run.after (publicationStep snapshots) { connection, mappingActive } inputs).Latest snapshots := by
  have keeps : ∀ system input, system.inOrder input = true → system.Kept snapshots →
      (publicationStep snapshots system input).Kept snapshots := fun _ _ inOrder kept => kept.step inOrder
  have empty : Kept { connection, mappingActive } snapshots := ⟨rfl, rfl, fun _ => rfl⟩
  refine ⟨Run.meets_iff_each.mpr fun earlier input later split => ?_, ?_⟩
  · rw [split] at inOrder
    obtain ⟨_, now, _⟩ := Run.meets_append.mp inOrder
    exact publicationStep_ordered now
  · exact (Run.invariant_of_meets (Kept · snapshots) keeps inOrder empty).latest

private def storefront : PublishingConnection := ⟨.connected, 0, 100⟩

private def counted (version : Nat) : PublishVariantStockInput := ⟨1, 1000 * version, 0⟩

theorem stock_publications_ordered_twice :
    (Run.after (publicationStep counted) { connection := storefront, mappingActive := true } [.prepare 0 2, .call 0 .confirmed,
      .record 0, .prepare 1 1, .prepare 1 3, .call 1 .confirmed, .record 1]).Latest counted :=
  (stock_publications_ordered counted storefront true (by decide +kernel)).2

private def overtaken : List PublicationInput := [.prepare 0 2, .prepare 1 1]

private def crossed : List PublicationInput := [.prepare 0 1, .prepare 1 2, .call 1 .confirmed, .record 1,
  .call 0 (.refused (.other "offline") false)]

/-- A snapshot that arrives late takes the target of a newer one, and an older failure is recorded over a newer success. -/
theorem older_snapshots_cut_in :
    ¬Run.Meets (publicationStep counted) (PublicationStep counted) { connection := storefront, mappingActive := true } overtaken ∧
      ¬PublicationStep counted
        (Run.after (publicationStep counted) { connection := storefront, mappingActive := true } crossed) (.record 0) ∧
      ¬(Run.after (publicationStep counted) { connection := storefront, mappingActive := true }
        (overtaken ++ [.call 0 .confirmed, .call 1 .confirmed, .record 0, .record 1])).Latest counted := by
  refine ⟨?_, ?_, ?_⟩
  · rintro ⟨_, second, _⟩
    have before : (Run.after (publicationStep counted) { connection := storefront, mappingActive := true }
        [.prepare 0 2]).publication.map (·.stockVersion) = some 2 := by decide +kernel
    have later : (publicationStep counted (publicationStep counted { connection := storefront, mappingActive := true }
        (.prepare 0 2)) (.prepare 1 1)).publication.map (·.stockVersion) = some 1 := by decide +kernel
    obtain ⟨row, stored, newer⟩ := map_eq_some_iff.mp before
    obtain ⟨after, now, ordered⟩ := second row stored
    have older : after.stockVersion = 1 := by
      rw [now] at later
      exact some.inj later
    have falls : 2 ≤ 1 := newer ▸ older ▸ ordered.versions.1
    omega
  · intro lawful
    have before : (Run.after (publicationStep counted) { connection := storefront, mappingActive := true }
        crossed).publication.map (fun row => (row.status, row.lastPublishedStockVersion)) = some (.succeeded, 2) := by
      decide +kernel
    have later : (publicationStep counted (Run.after (publicationStep counted)
        { connection := storefront, mappingActive := true } crossed) (.record 0)).publication.map (·.status) = some .failed := by
      decide +kernel
    obtain ⟨row, stored, counts⟩ := map_eq_some_iff.mp before
    obtain ⟨status, published⟩ := Prod.mk.inj counts
    obtain ⟨after, now, ordered⟩ := lawful row stored
    have fails : after.status = .failed := by
      rw [now] at later
      exact some.inj later
    have older : 1 < row.lastPublishedStockVersion := by
      rw [published]
      decide
    have kept := ordered.failure 0 ⟨1, storefront.publishableQty (counted 1), some (.error (.other "offline"))⟩ _ rfl rfl rfl older status
    cases kept.symm.trans fails
  · intro latest
    have ended : (Run.after (publicationStep counted) { connection := storefront, mappingActive := true }
        (overtaken ++ [.call 0 .confirmed, .call 1 .confirmed, .record 0, .record 1])).running.keys = [] := by decide +kernel
    have shown := (latest (fun thread => ?_) (by decide +kernel) 2 (by decide +kernel) (by decide +kernel)).1
    · revert shown
      decide +kernel
    · rw [AList.lookup_eq_none]
      change thread ∉ AList.keys _
      rw [ended]
      exact not_mem_nil

end Integration
