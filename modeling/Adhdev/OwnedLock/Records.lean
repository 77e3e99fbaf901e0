import Adhdev.OwnedLock.Protocol

/-! # Records and their writers

Whatever a step does, records keep their writers and the dead stay dead. A record that is judged
abandoned was written by a process that is dead.
-/

namespace Adhdev.OwnedLock

open List Option Bool

namespace World

def phaseOf (world : World) (index : Nat) : Option Phase :=
  (world.live index).map LockProcess.phase

def WrittenBy (world : World) (index nonce : Nat) : Prop :=
  ∃ owner, world.owners[nonce]? = some owner ∧ owner.writer = index

def WriterDead (world : World) (nonce : Nat) : Prop :=
  ∃ owner process, world.owners[nonce]? = some owner ∧
    world.processes[owner.writer]? = some process ∧ process.alive = false

/-- Nothing that was ever recorded is lost. -/
structure Later (world later : World) : Prop where
  owners : world.owners <+: later.owners
  claims : world.claims <+: later.claims
  processes : ∀ (index : Nat) (process : LockProcess), world.processes[index]? = some process →
    ∃ other : LockProcess, later.processes[index]? = some other ∧ other.pid = process.pid ∧
      other.identity = process.identity ∧ (process.alive = false → other.alive = false)

/-- Records name the process that wrote them, and live processes have pids of their own. -/
structure Registered (world : World) : Prop where
  owners : ∀ (nonce : Nat) (owner : LockOwner), world.owners[nonce]? = some owner →
    ∃ process : LockProcess, world.processes[owner.writer]? = some process ∧
      process.pid = owner.pid ∧ ∀ identity, owner.startId = some identity → process.identity =
        identity
  pids : ∀ (index other : Nat) (process sibling : LockProcess), world.live index = some process →
    world.live other = some sibling → process.pid = sibling.pid → index = other

variable {world later : World} {index other nonce claim : Nat} {process : LockProcess}
    {phase : Phase}

theorem live_eq_some : world.live index = some process ↔
      world.processes[index]? = some process ∧ process.alive = true := by
  simp [live, filter_eq_some_iff]

theorem phaseOf_eq_some :
    world.phaseOf index = some phase ↔ ∃ process, world.live index = some process ∧
      process.phase = phase := by
  simp [phaseOf]

/-! ## Fields -/

@[simp] theorem goes_lock : (world.goes index phase).lock = world.lock := rfl
@[simp] theorem goes_owners : (world.goes index phase).owners = world.owners := rfl
@[simp] theorem goes_claims : (world.goes index phase).claims = world.claims := rfl

theorem goes_getElem : (world.goes index phase).processes[other]? =
    if index = other then world.processes[other]?.map fun process => { process with phase }
    else world.processes[other]? := by
  simp only [goes, getElem?_modify]
  split_ifs <;> simp

theorem live_goes_self (alive : world.live index = some process) :
    (world.goes index phase).live index = some { process with phase } := by
  obtain ⟨listed, lives⟩ := live_eq_some.mp alive
  rw [live_eq_some, goes_getElem, if_pos rfl, listed]
  exact ⟨rfl, lives⟩

theorem live_goes_other (differs : index ≠ other) :
    (world.goes index phase).live other = world.live other := by
  rw [live, goes_getElem, if_neg differs, live]

theorem phaseOf_goes_self (alive : world.live index = some process) :
    (world.goes index phase).phaseOf index = some phase := by
  rw [phaseOf, live_goes_self alive, map_some]

theorem phaseOf_goes_other (differs : index ≠ other) :
    (world.goes index phase).phaseOf other = world.phaseOf other := by
  rw [phaseOf, live_goes_other differs, phaseOf]

/-! ## What is kept -/

theorem Later.refl : world.Later world :=
  ⟨prefix_rfl, prefix_rfl, fun _ process listed => ⟨process, listed, rfl, rfl, id⟩⟩

theorem Later.trans {last : World} (first : world.Later later) (second : later.Later last) :
    world.Later last := by
  refine ⟨first.owners.trans second.owners, first.claims.trans second.claims, ?_⟩
  intro index process listed
  obtain ⟨next, nextListed, pid, identity, dead⟩ := first.processes index process listed
  obtain ⟨final, finalListed, samePid, sameIdentity, stays⟩ :=
    second.processes index next nextListed
  exact ⟨final, finalListed, samePid.trans pid, sameIdentity.trans identity,
    fun isDead => stays (dead isDead)⟩

theorem prefix_getElem {α : Type} {items others : List α} (isPrefix : items <+: others) {item : α}
    (listed : items[index]? = some item) : others[index]? = some item := by
  obtain ⟨rest, rfl⟩ := isPrefix
  exact List.getElem?_append_left (List.getElem?_eq_some_iff.mp listed).1 ▸ listed

theorem Later.getElem_owners (kept : world.Later later) {owner : LockOwner}
    (recorded : world.owners[nonce]? = some owner) : later.owners[nonce]? = some owner :=
  prefix_getElem kept.owners recorded

theorem Later.getElem_claims (kept : world.Later later)
    (drawn : world.claims[claim]? = some index) :
    later.claims[claim]? = some index :=
  prefix_getElem kept.claims drawn

theorem WrittenBy.kept (written : world.WrittenBy index nonce) (kept : world.Later later) :
    later.WrittenBy index nonce := by
  obtain ⟨owner, recorded, isWriter⟩ := written
  exact ⟨owner, kept.getElem_owners recorded, isWriter⟩

theorem WriterDead.kept (dead : world.WriterDead nonce) (kept : world.Later later) :
    later.WriterDead nonce := by
  obtain ⟨owner, process, recorded, listed, isDead⟩ := dead
  obtain ⟨other, otherListed, _, _, stays⟩ := kept.processes _ _ listed
  exact ⟨owner, other, kept.getElem_owners recorded, otherListed, stays isDead⟩

theorem WrittenBy.not_dead (written : world.WrittenBy index nonce)
    (alive : world.live index = some process) : ¬ world.WriterDead nonce := by
  rintro ⟨owner, writer, recorded, listed, isDead⟩
  obtain ⟨same, sameRecorded, rfl⟩ := written
  obtain rfl := mem_unique sameRecorded recorded
  obtain ⟨liveListed, lives⟩ := live_eq_some.mp alive
  obtain rfl := mem_unique liveListed listed
  rw [lives] at isDead
  cases isDead

theorem WrittenBy.unique (written : world.WrittenBy index nonce)
    (again : world.WrittenBy other nonce) : index = other := by
  obtain ⟨owner, recorded, rfl⟩ := written
  obtain ⟨same, sameRecorded, rfl⟩ := again
  rw [mem_unique recorded sameRecorded]

/-! ## Judging records -/

theorem isPidAlive_of_live (alive : world.live index = some process) :
    world.isPidAlive process.pid = true := by
  obtain ⟨listed, lives⟩ := live_eq_some.mp alive
  rw [isPidAlive, List.any_eq_true]
  exact ⟨process, mem_of_getElem? listed, by simp [lives]⟩

variable {answers : Bool}

theorem startOf_eq_some {pid : Nat} {identity : StartIdentity}
    (answered : world.startOf pid answers = some identity) :
    ∃ index process, world.live index = some process ∧ process.pid = pid ∧
      process.identity = identity := by
  cases answers with
  | false => cases answered
  | true =>
    simp only [startOf, if_true, map_eq_some_iff] at answered
    obtain ⟨process, found, rfl⟩ := answered
    have lives := find?_some found
    obtain ⟨index, listed⟩ := mem_iff_getElem?.mp (mem_of_find?_eq_some found)
    simp only [and_eq_true, decide_eq_true_eq] at lives
    exact ⟨index, process, live_eq_some.mpr ⟨listed, lives.1⟩, lives.2, rfl⟩

theorem Registered.pidReused (registered : world.Registered) {owner : LockOwner}
    (recorded : world.owners[nonce]? = some owner) (reused : world.pidReused owner answers = true) :
    world.WriterDead nonce := by
  obtain ⟨writer, listed, samePid, knows⟩ := registered.owners nonce owner recorded
  simp only [World.pidReused, Option.any_eq_true, Bool.and_eq_true, decide_eq_true_eq] at reused
  obtain ⟨identity, isIdentity, current, isCurrent, -, differs⟩ := reused
  obtain ⟨holder, holds, alive, pid, rfl⟩ := startOf_eq_some isCurrent
  refine ⟨owner, writer, recorded, listed, eq_false_iff.mpr fun lives => ?_⟩
  have writerLives : world.live owner.writer = some writer := live_eq_some.mpr ⟨listed, lives⟩
  have same := registered.pids _ _ _ _ alive writerLives (pid.trans samePid.symm)
  rw [same, writerLives] at alive
  obtain rfl := some.inj alive
  exact differs (knows identity isIdentity)

theorem Registered.guardDead (registered : world.Registered)
    (dead : world.guardDead answers nonce = true) : world.WriterDead nonce := by
  simp only [World.guardDead, Option.any_eq_true, Bool.or_eq_true, Bool.not_eq_true'] at dead
  obtain ⟨owner, recorded, gone | reused⟩ := dead
  · obtain ⟨writer, listed, samePid, -⟩ := registered.owners nonce owner recorded
    refine ⟨owner, writer, recorded, listed, eq_false_iff.mpr fun lives => ?_⟩
    have alive := isPidAlive_of_live (live_eq_some.mpr ⟨listed, lives⟩)
    rw [samePid, gone] at alive
    cases alive
  · exact registered.pidReused recorded reused

theorem Registered.abandoned (registered : world.Registered)
    (judged : world.abandoned process answers (.owner nonce) = true) : world.WriterDead nonce := by
  have dead : world.guardDead answers nonce = true := by
    simp only [World.abandoned, World.guardDead, Option.any_eq_true] at judged ⊢
    obtain ⟨owner, recorded, judged⟩ := judged
    refine ⟨owner, recorded, ?_⟩
    simp only [or_eq_true, and_eq_true] at judged ⊢
    exact judged.imp id And.right
  exact registered.guardDead dead

end World

end Adhdev.OwnedLock
