import RetailApi.Base.Run
import RetailApi.Platform.Branches

/-! A store keeps an active branch, and no update undoes a change of status that it does not ask for, as long as the save of an
update that asks for no change finds the status it has read, and a removal finds its branch inactive. -/

namespace Platform

open Transaction BranchWrite BranchRun List Table Run

/-- The statement to come is no stale save and no stale soft delete: a save that is to leave the status as the call read it
finds that status in the row, at its `SELECT` or at its `UPDATE`; a soft delete finds the row inactive. -/
def BranchRun.finds (run : BranchRun) (call : Nat) : BranchStage → Bool
  | .update save before => save.deactivating || save.dto.status = some .active || run.anyBeside call (·.locksRow save.id) ||
      before.status = save.copy.1.status || (run.branches.lookup save.id).all (·.status = save.copy.1.status)
  | .softDelete id => run.anyBeside call (·.locksRow id) || (run.branches.lookup id).all (·.status = .inactive)
  | _ => true

def BranchRun.steady (run : BranchRun) (input : BranchInput) : Bool :=
  match input with
  | .next call _ =>
    match run.calls.lookup call with
    | some (.running stage) => run.finds call stage
    | _ => true
  | _ => true

/-- If the step commits an update whose request does not mention the status, no branch changes its status. -/
def BranchRun.KeepsStatus (run : BranchRun) (input : BranchInput) : Prop :=
  ∀ call reads save branch, input = .next call reads → run.calls.lookup call = some (.running (.commit (.updated save branch))) →
    save.dto.status = none → ∀ id row, run.branches.lookup id = some row →
    ((run.step input).branches.lookup id).map (·.status) = some row.status

theorem mem_activeBranches {branches id} :
    id ∈ activeBranches branches ↔ ∃ branch, branches.lookup id = some branch ∧ branch.isActive = true := by
  constructor
  · intro listed
    obtain ⟨⟨_, branch⟩, member, rfl⟩ := mem_map.mp listed
    obtain ⟨stored, active⟩ := mem_filter.mp member
    exact ⟨branch, AList.mem_lookup_iff.mpr stored, active⟩
  · intro ⟨branch, stored, active⟩
    exact mem_map.mpr ⟨⟨id, branch⟩, mem_filter.mpr ⟨AList.mem_lookup_iff.mp stored, active⟩, rfl⟩

theorem activeBranches_nodup (branches : Table Uuid BranchEntity) : (activeBranches branches).Nodup := by
  apply Sublist.nodup (filter_sublist.map _)
  exact branches.nodupKeys

def Spare (branches : Table Uuid BranchEntity) : Prop := ∀ id, ∃ other ∈ activeBranches branches, other ≠ id

theorem spare_of_count {branches} (several : ¬ (activeBranches branches).length ≤ 1) : Spare branches := by
  intro id
  by_contra none
  have alone : activeBranches branches = replicate (activeBranches branches).length id :=
    eq_replicate_of_mem fun other listed => by_contra fun apart => none ⟨other, listed, apart⟩
  have distinct := activeBranches_nodup branches
  rw [alone, nodup_replicate] at distinct
  exact several distinct

theorem assertCanDeactivate_ok {blockers} {lastActive} {passed}
    (accepted : assertCanDeactivate blockers lastActive = .ok passed) : lastActive = false := by
  cases lastActive with
  | false => rfl
  | true =>
    simp only [assertCanDeactivate, eq_ok, refuseIfAny] at accepted
    obtain ⟨reasons, -, -, -, empty⟩ := accepted
    cases empty

structure BranchWrite.Fits (branches : Table Uuid BranchEntity) (write : BranchWrite) : Prop where
  /-- Only under the lock, and with another branch to spare, does a write end an active branch. -/
  spares : ∀ id branch, write.row = some (id, branch) → id ∈ activeBranches branches →
    branch.isActive = true ∨ write.locksTenant = true ∧ Spare branches
  status : ∀ save branch, write = .updated save branch → save.dto.status = none →
    (branches.lookup save.id).map (·.status) = some branch.status

def BranchStage.Fits (branches : Table Uuid BranchEntity) : BranchStage → Prop
  | .reread save | .update save _ => save.deactivating = true → Spare branches
  | .commit write => write.Fits branches
  | _ => True

structure BranchRun.Kept (run : BranchRun) : Prop where
  active : activeBranches run.branches ≠ []
  locked : ∀ one two first second, run.calls.lookup one = some (.running first) → run.calls.lookup two = some (.running second) →
    first.locksTenant = true → second.locksTenant = true → one = two
  apart : ∀ one two first second id, run.calls.lookup one = some (.running first) →
    run.calls.lookup two = some (.running second) → first.locksRow id = true → second.locksRow id = true → one = two
  fits : ∀ call stage, run.calls.lookup call = some (.running stage) → stage.Fits run.branches

section Commits

variable {branches after : Table Uuid BranchEntity} {write : BranchWrite} {stage : BranchStage}

theorem apply_lookup {id branch} (row : write.row = some (id, branch)) (wanted : Uuid) :
    (write.apply branches).lookup wanted = if wanted = id then some branch else branches.lookup wanted := by
  rw [apply, row]
  exact lookup_insert_if branches id wanted branch

theorem apply_untouched {wanted} (free : (BranchStage.commit write).locksRow wanted = false) :
    (write.apply branches).lookup wanted = branches.lookup wanted := by
  cases row : write.row with
  | none => rw [apply, row]
  | some written =>
    rw [BranchStage.locksRow, BranchStage.write, row, Option.any_some] at free
    rw [apply_lookup row, if_neg (of_decide_eq_false free ∘ Eq.symm)]

theorem BranchWrite.Fits.grows (fits : write.Fits branches) (unlocked : write.locksTenant = false) {id}
    (active : id ∈ activeBranches branches) : id ∈ activeBranches (write.apply branches) := by
  cases row : write.row with
  | none =>
    rw [apply, row]
    exact active
  | some written =>
    apply mem_activeBranches.mpr
    rw [apply_lookup row]
    split
    · next same =>
      rcases fits.spares written.1 written.2 row (same ▸ active) with kept | ⟨locked, -⟩
      · exact ⟨written.2, rfl, kept⟩
      · cases unlocked.symm.trans locked
    · exact mem_activeBranches.mp active

theorem BranchWrite.Fits.active (fits : write.Fits branches) (active : activeBranches branches ≠ []) :
    activeBranches (write.apply branches) ≠ [] := by
  obtain ⟨id, listed⟩ := exists_mem_of_ne_nil _ active
  by_cases locked : write.locksTenant = true
  · cases row : write.row with
    | none =>
      rw [apply, row]
      exact active
    | some written =>
      have stays : ∀ other ∈ activeBranches branches, other ≠ written.1 → other ∈ activeBranches (write.apply branches) := by
        intro other member apart
        apply mem_activeBranches.mpr
        rw [apply_lookup row, if_neg apart]
        exact mem_activeBranches.mp member
      by_cases same : id = written.1
      · rcases fits.spares written.1 written.2 row (same ▸ listed) with kept | ⟨-, spare⟩
        · refine ne_nil_of_mem (mem_activeBranches.mpr ⟨written.2, ?_, kept⟩) (a := written.1)
          rw [apply_lookup row, if_pos rfl]
        · obtain ⟨other, member, apart⟩ := spare written.1
          exact ne_nil_of_mem (stays other member apart)
      · exact ne_nil_of_mem (stays id listed same)
  · exact ne_nil_of_mem (fits.grows (Bool.eq_false_iff.mpr locked) listed)

/-- What a call relies on outlasts the commit of another one, which does not end a branch while the call has the lock. -/
theorem BranchStage.Fits.mono (fits : stage.Fits branches)
    (grows : stage.locksTenant = true → ∀ id ∈ activeBranches branches, id ∈ activeBranches after)
    (same : ∀ id, stage.locksRow id = true → after.lookup id = branches.lookup id) : stage.Fits after := by
  have spare : stage.locksTenant = true → Spare branches → Spare after := by
    intro locked spare id
    obtain ⟨other, member, apart⟩ := spare id
    exact ⟨other, grows locked other member, apart⟩
  cases stage with
  | reread save => exact fun deactivating => spare deactivating (fits deactivating)
  | update save before => exact fun deactivating => spare deactivating (fits deactivating)
  | commit write =>
    have own : ∀ id branch, write.row = some (id, branch) → after.lookup id = branches.lookup id := by
      intro id branch row
      apply same
      rw [BranchStage.locksRow, BranchStage.write, row]
      exact decide_eq_true rfl
    refine ⟨fun id branch row active => ?_, fun save branch updated silent => ?_⟩
    · have before : id ∈ activeBranches branches := by
        apply mem_activeBranches.mpr
        rw [← own id branch row]
        exact mem_activeBranches.mp active
      rcases Fits.spares fits id branch row before with kept | ⟨locked, spared⟩
      · exact .inl kept
      · exact .inr ⟨locked, spare locked spared⟩
    · subst updated
      rw [own save.id branch rfl]
      exact Fits.status fits save branch rfl silent
  | _ => trivial

end Commits

section Statements

variable {run : BranchRun} {call : Nat} {reads : BranchReads} {stage after : BranchStage}

theorem anyBeside_false {holds} (none : run.anyBeside call holds = false) {other} (apart : other ≠ call)
    (running : run.calls.lookup other = some (.running stage)) : holds stage = false := by
  have entry := any_eq_false.mp none ⟨other, .running stage⟩ (AList.mem_lookup_iff.mp running)
  rw [decide_eq_true apart, Bool.true_and] at entry
  exact Bool.eq_false_iff.mpr entry

theorem store_goes {id branch write} (went : run.store call id branch write = .goes after) : after = .commit write := by
  unfold store at went
  split at went
  · cases went
    rfl
  · split at went
    · cases went
    · split at went
      · cases went
      · cases went
        rfl

theorem of_goes {verdict} (went : BranchOutcome.of verdict stage = .goes after) : verdict = .ok () ∧ after = stage := by
  cases verdict with
  | ok _ =>
    cases went
    exact ⟨rfl, rfl⟩
  | error error => cases went

theorem patched_status {save : BranchSave} {before current : BranchEntity} {now} (staying : save.deactivating = false)
    (silent : save.dto.status ≠ some .active) (found : before.status = save.copy.1.status ∨ current.status = save.copy.1.status) :
    (before.patched now save.branch current).status = current.status := by
  have kept : save.branch.status = save.copy.1.status := by
    rw [BranchSave.branch]
    rw [BranchSave.deactivating, isBranchDeactivating] at staying
    cases asked : save.dto.status with
    | none => rfl
    | some status =>
      cases status with
      | active => exact absurd asked silent
      | inactive =>
        rw [asked] at staying
        cases read : save.copy.1.status with
        | active => simp [read] at staying
        | inactive => rfl
  change savedColumn before.status save.branch.status current.status = _
  rw [savedColumn, kept]
  split
  · rfl
  · next differs => exact (found.resolve_left (differs ∘ Eq.symm)).symm

theorem patched_live {save : BranchSave} {before current : BranchEntity} {now} (live : current.deleted = false) :
    (before.patched now save.branch current).deleted = false := by
  change savedColumn before.deleted save.branch.deleted current.deleted = _
  rw [savedColumn]
  split
  · exact live
  · exact save.copy.2

theorem update_fits {save : BranchSave} {before current : BranchEntity} {now}
    (spare : save.deactivating = true → Spare run.branches) (stored : run.branches.lookup save.id = some current)
    (found : save.deactivating = true ∨ save.dto.status = some .active ∨ before.status = save.copy.1.status ∨
      current.status = save.copy.1.status) :
    Fits run.branches (.updated save (before.patched now save.branch current)) := by
  have silentStatus : save.deactivating = false → save.dto.status ≠ some .active →
      (before.patched now save.branch current).status = current.status := by
    intro staying silent
    rcases found with deactivating | active | found
    · cases staying.symm.trans deactivating
    · exact absurd active silent
    · exact patched_status staying silent found
  constructor
  · rintro id branch ⟨⟩ active
    obtain ⟨row, again, isActive⟩ := mem_activeBranches.mp active
    cases stored.symm.trans again
    rw [BranchEntity.isActive, Bool.and_eq_true, Bool.not_eq_true', decide_eq_true_eq] at isActive
    by_cases deactivating : save.deactivating = true
    · exact .inr ⟨deactivating, spare deactivating⟩
    · refine .inl ?_
      rw [BranchEntity.isActive, patched_live isActive.1, Bool.not_false, Bool.true_and]
      apply decide_eq_true
      by_cases asked : save.dto.status = some .active
      · have wanted : save.branch.status = .active := by rw [BranchSave.branch, asked, Option.getD_some]
        change savedColumn before.status save.branch.status current.status = _
        rw [savedColumn, wanted]
        split
        · exact isActive.2
        · rfl
      · exact (silentStatus (Bool.eq_false_iff.mpr deactivating) asked).trans isActive.2
  · rintro _ _ ⟨⟩ silent
    have staying : save.deactivating = false := by
      rw [BranchSave.deactivating, isBranchDeactivating, silent]
      simp
    rw [stored, silentStatus staying (by rw [silent]; nofun)]
    rfl

/-- What a statement may leave: what the call relies on holds, and the locks that are new to it were free. -/
structure BranchRun.Advances (run : BranchRun) (call : Nat) (stage after : BranchStage) : Prop where
  fits : after.Fits run.branches
  tenant : after.locksTenant = true → stage.locksTenant = true ∨ run.anyBeside call (·.locksTenant) = false
  rows : ∀ id, after.locksRow id = true → run.anyBeside call (·.locksRow id) = false

theorem free_row {id} (free : ¬ run.anyBeside call (·.locksRow id) = true) :
    ∀ other, decide (id = other) = true → run.anyBeside call (·.locksRow other) = false := by
  intro other mine
  rw [← of_decide_eq_true mine]
  exact Bool.eq_false_iff.mpr free

theorem insert_goes {accountId dto} (went : run.statement call reads (.insert accountId dto) = .goes after) :
    run.Advances call (.insert accountId dto) after := by
  simp only [BranchRun.statement] at went
  split at went
  · cases went
  · next fresh =>
    obtain rfl := store_goes went
    rw [Bool.or_eq_true, not_or, Bool.not_eq_true] at fresh
    refine ⟨⟨?_, ?_⟩, nofun, free_row fresh.2⟩
    · rintro id branch ⟨⟩ active
      obtain ⟨row, stored, -⟩ := mem_activeBranches.mp active
      rw [stored] at fresh
      cases fresh.1
    · rintro _ _ ⟨⟩

theorem find_goes {accountId id dto} (went : run.statement call reads (.find accountId id dto) = .goes after) :
    run.Advances call (.find accountId id dto) after := by
  simp only [BranchRun.statement] at went
  split at went
  · cases went
  · split at went
    · cases went
    · cases went
      split
      · exact ⟨trivial, nofun, nofun⟩
      · next staying => exact ⟨fun deactivating => absurd deactivating staying, fun locked => absurd locked staying, nofun⟩

theorem reread_goes {save} (fits : BranchStage.Fits run.branches (.reread save))
    (went : run.statement call reads (.reread save) = .goes after) : run.Advances call (.reread save) after := by
  simp only [BranchRun.statement] at went
  split at went
  · cases went
  · cases went
    split
    · refine ⟨⟨?_, ?_⟩, .inl, nofun⟩
      · rintro _ _ ⟨⟩
      · rintro _ _ ⟨⟩
    · exact ⟨fits, .inl, nofun⟩

theorem update_goes {save before} (fits : BranchStage.Fits run.branches (.update save before))
    (finds : run.finds call (.update save before) = true)
    (went : run.statement call reads (.update save before) = .goes after) : run.Advances call (.update save before) after := by
  simp only [BranchRun.statement] at went
  split at went
  · cases went
  · next free =>
    split at went
    · cases went
    · next current stored =>
      obtain rfl := store_goes went
      simp only [BranchRun.finds, free, stored, Option.all_some, Bool.or_false, Bool.or_eq_true, decide_eq_true_eq, or_assoc] at finds
      exact ⟨update_fits fits stored finds, .inl, free_row free⟩

theorem findRemoved_goes {id} (went : run.statement call reads (.findRemoved id) = .goes after) :
    run.Advances call (.findRemoved id) after := by
  simp only [BranchRun.statement] at went
  split at went
  · cases went
  · split at went
    · cases went
      exact ⟨trivial, nofun, nofun⟩
    · cases went

theorem softDelete_goes {id} (finds : run.finds call (.softDelete id) = true)
    (went : run.statement call reads (.softDelete id) = .goes after) : run.Advances call (.softDelete id) after := by
  simp only [BranchRun.statement] at went
  split at went
  · cases went
  · next free =>
    split at went
    · cases went
    · next current stored =>
      cases went
      simp only [BranchRun.finds, free, stored, Option.all_some, Bool.false_or, decide_eq_true_eq] at finds
      refine ⟨⟨?_, ?_⟩, fun _ => .inl rfl, free_row free⟩
      · rintro _ _ ⟨⟩ active
        obtain ⟨row, again, isActive⟩ := mem_activeBranches.mp active
        cases stored.symm.trans again
        simp [BranchEntity.isActive, finds] at isActive
      · rintro _ _ ⟨⟩

theorem statement_goes (fits : stage.Fits run.branches) (finds : run.finds call stage = true)
    (went : run.statement call reads stage = .goes after) : run.Advances call stage after := by
  cases stage with
  | assertCodeFree accountId dto =>
    simp only [BranchRun.statement] at went
    split at went
    · cases went
    · cases went
      exact ⟨trivial, nofun, nofun⟩
  | assertCanAdd accountId dto =>
    simp only [BranchRun.statement] at went
    split at went
    · cases went
    · obtain ⟨-, rfl⟩ := of_goes went
      exact ⟨trivial, nofun, nofun⟩
  | insert accountId dto => exact insert_goes went
  | find accountId id dto => exact find_goes went
  | lockTenant save =>
    simp only [BranchRun.statement] at went
    split at went
    · cases went
    · next free =>
      cases went
      exact ⟨trivial, fun _ => .inr (Bool.eq_false_iff.mpr free), nofun⟩
  | assertCanDeactivate save =>
    obtain ⟨accepted, rfl⟩ := of_goes went
    have several := of_decide_eq_false (assertCanDeactivate_ok accepted)
    exact ⟨fun _ => spare_of_count several, fun _ => .inl rfl, nofun⟩
  | reread save => exact reread_goes fits went
  | update save before => exact update_goes fits finds went
  | findRemoved id => exact findRemoved_goes went
  | lockForDelete id =>
    simp only [BranchRun.statement] at went
    split at went
    · cases went
    · next free =>
      cases went
      exact ⟨trivial, fun _ => .inr (Bool.eq_false_iff.mpr free), nofun⟩
  | assertCanDelete id =>
    obtain ⟨-, rfl⟩ := of_goes went
    exact ⟨trivial, fun _ => .inl rfl, nofun⟩
  | softDelete id => exact softDelete_goes finds went
  | commit write => cases went

end Statements

section Runs

variable {run : BranchRun} {call : Nat}

section

variable (kept : run.Kept)
include kept

theorem BranchRun.Kept.put {state} (running : ∀ stage, state = .running stage → stage.Fits run.branches ∧
      (stage.locksTenant = true → ∀ other beside, other ≠ call → run.calls.lookup other = some (.running beside) → beside.locksTenant = false) ∧
      ∀ id, stage.locksRow id = true →
        ∀ other beside, other ≠ call → run.calls.lookup other = some (.running beside) → beside.locksRow id = false) :
    (run.put call state).Kept := by
  refine ⟨kept.active, ?_, ?_, ?_⟩
  · intro one two first second oneFound twoFound oneLocks twoLocks
    rcases of_lookup_insert oneFound with ⟨rfl, mine⟩ | ⟨oneApart, oneBefore⟩ <;>
      rcases of_lookup_insert twoFound with ⟨rfl, also⟩ | ⟨twoApart, twoBefore⟩
    · rfl
    · rw [(running first mine.symm).2.1 oneLocks two second twoApart twoBefore] at twoLocks
      cases twoLocks
    · rw [(running second also.symm).2.1 twoLocks one first oneApart oneBefore] at oneLocks
      cases oneLocks
    · exact kept.locked one two first second oneBefore twoBefore oneLocks twoLocks
  · intro one two first second id oneFound twoFound oneLocks twoLocks
    rcases of_lookup_insert oneFound with ⟨rfl, mine⟩ | ⟨oneApart, oneBefore⟩ <;>
      rcases of_lookup_insert twoFound with ⟨rfl, also⟩ | ⟨twoApart, twoBefore⟩
    · rfl
    · rw [(running first mine.symm).2.2 id oneLocks two second twoApart twoBefore] at twoLocks
      cases twoLocks
    · rw [(running second also.symm).2.2 id twoLocks one first oneApart oneBefore] at oneLocks
      cases oneLocks
    · exact kept.apart one two first second id oneBefore twoBefore oneLocks twoLocks
  · intro other stage found
    rcases of_lookup_insert found with ⟨-, mine⟩ | ⟨-, found⟩
    · exact (running stage mine.symm).1
    · exact kept.fits other stage found

theorem BranchRun.Kept.ends (result : Except BranchError BranchWrite) : (run.put call (.finished result)).Kept := by
  apply kept.put
  rintro _ ⟨⟩

theorem BranchRun.Kept.commit {write}
    (found : run.calls.lookup call = some (.running (.commit write))) : (run.commit call write).Kept := by
  have ended : (run.put call (.finished (.ok write))).Kept := kept.ends _
  have fits : write.Fits run.branches := kept.fits call _ found
  refine ⟨fits.active kept.active, ended.locked, ended.apart, ?_⟩
  intro other stage running
  rcases of_lookup_insert running with ⟨-, finished⟩ | ⟨apart, running⟩
  · cases finished
  · apply (kept.fits other stage running).mono
    · intro locked id active
      apply fits.grows (Bool.eq_false_iff.mpr fun both => ?_) active
      exact apart (kept.locked other call stage _ running found locked both)
    · intro id mine
      apply apply_untouched (Bool.eq_false_iff.mpr fun both => ?_)
      exact apart (kept.apart other call stage _ id running found mine both)

theorem BranchRun.Kept.next {stage} (found : run.calls.lookup call = some (.running stage))
    (finds : run.finds call stage = true) (reads : BranchReads) : (run.next call reads stage).Kept := by
  unfold BranchRun.next
  split
  · exact kept.commit found
  · split
    · exact kept
    · exact kept.ends _
    · next after went =>
      obtain ⟨fits, locks, rows⟩ := statement_goes (kept.fits call stage found) finds went
      apply kept.put
      rintro _ ⟨⟩
      refine ⟨fits, fun locked other beside apart running => ?_, fun id mine other beside apart running => ?_⟩
      · rcases locks locked with already | free
        · exact Bool.eq_false_iff.mpr fun both => apart (kept.locked other call beside stage running found both already)
        · exact anyBeside_false free apart running
      · exact anyBeside_false (rows id mine) apart running

theorem BranchRun.Kept.step {input} (steady : run.steady input = true) : (run.step input).Kept := by
  cases input with
  | request call request =>
    rw [BranchRun.step]
    split
    · exact kept
    · apply kept.put
      rintro _ ⟨⟩
      cases request <;> exact ⟨trivial, nofun, nofun⟩
  | next call reads =>
    rw [BranchRun.step]
    split
    · next stage found =>
      rw [BranchRun.steady, found] at steady
      exact kept.next found steady reads
    · exact kept
  | lose call =>
    rw [BranchRun.step]
    split
    · exact kept.ends _
    · exact kept

theorem BranchRun.Kept.keepsStatus (input : BranchInput) : run.KeepsStatus input := by
  rintro call reads save branch rfl found silent id row stored
  have status := Fits.status (kept.fits call _ found) save branch rfl silent
  simp only [BranchRun.step, found, BranchRun.next, BranchRun.commit]
  rw [apply_lookup rfl]
  split
  · next same =>
    rw [same] at stored
    rw [stored] at status
    exact status.symm
  · rw [stored]
    rfl

end

end Runs

/-- In a run whose statements are all steady, an active branch is left in each state, and no commit of an update that does not
mention the status changes one. -/
theorem active_branch_kept (branches : Table Uuid BranchEntity) (inputs : List BranchInput)
    (initially : activeBranches branches ≠ [])
    (steady : Meets step (fun run input => run.steady input = true) { branches } inputs) :
    ∀ earlier later, inputs = earlier ++ later →
      activeBranches (after step { branches } earlier).branches ≠ [] ∧
        ∀ input, later.head? = some input → (after step { branches } earlier).KeepsStatus input := by
  rintro earlier later rfl
  have kept : (after step { branches } earlier).Kept := by
    refine invariant_of_meets Kept (fun run input meets kept => kept.step meets) (meets_append.mp steady).1 ?_
    refine ⟨initially, fun one two first second found => ?_, fun one two first second id found => ?_, fun call stage found => ?_⟩
    · cases found
    · cases found
    · cases found
  exact ⟨kept.active, fun input _ => kept.keepsStatus input⟩

def mainAndDepot : Table Uuid BranchEntity :=
  (∅ : Table Uuid BranchEntity).insert 1 { name := "Main", code := "CN01" } |>.insert 2
    { name := "Depot", code := "CN02", status := .inactive }

def reopenDepot : List BranchInput :=
  [.request 1 (.update 9 2 { status := some .active }), .next 1 {}, .next 1 {}, .next 1 {}, .next 1 {}]

def stopMain : List BranchInput :=
  [.request 2 (.update 9 1 { status := some .inactive }), .next 2 {}, .next 2 {}, .next 2 {}, .next 2 {}, .next 2 {}, .next 2 {}]

def renameDepot : BranchInput := .request 0 (.update 9 2 { name := some "Outlet" })

theorem active_branch_kept_in_turn :
    activeBranches (after step { branches := mainAndDepot }
      (reopenDepot ++ stopMain ++ [renameDepot, .next 0 {}, .next 0 {}, .next 0 {}, .next 0 {}])).branches = [2] ∧
      activeBranches (after step { branches := mainAndDepot }
        (reopenDepot ++ stopMain ++ [renameDepot, .next 0 {}, .next 0 {}, .next 0 {}, .next 0 {}])).branches ≠ [] := by
  refine ⟨by decide +kernel, ?_⟩
  apply (active_branch_kept mainAndDepot _ (by decide +kernel) ?_ _ [] (append_nil _).symm).1
  decide +kernel

/-- The rename reads the depot as inactive, before it is opened again and the main branch is stopped. -/
theorem stale_rename_ends_last_branch :
    activeBranches mainAndDepot ≠ [] ∧
      let run := after step { branches := mainAndDepot }
        (renameDepot :: .next 0 {} :: (reopenDepot ++ stopMain ++ [.next 0 {}, .next 0 {}]))
      activeBranches run.branches = [2] ∧ activeBranches (run.step (.next 0 {})).branches = [] ∧ ¬ run.KeepsStatus (.next 0 {}) := by
  refine ⟨by decide +kernel, by decide +kernel, by decide +kernel, ?_⟩
  intro keeps
  have same := keeps 0 {} _ _ rfl rfl rfl 2 _ rfl
  revert same
  decide +kernel

end Platform
