import Adhdev.OwnedLock.Records

/-! # What a process knows

In each phase a process knows which records are its own and which writers are dead. That stays
true, whatever the other processes do.
-/

namespace Adhdev.OwnedLock

open List Option Bool

namespace World

variable {world later : World} {index nonce : Nat} {process : LockProcess} {phase : Phase}
variable {fails answers : Bool}

def ReclaimKnown (world : World) (reclaim : Reclaim) : Prop :=
  ∀ nonce, reclaim.observed = .owner nonce → world.WriterDead nonce

def Knows (world : World) (index : Nat) : Phase → Prop
  | .writingOwner nonce | .holding nonce | .releasing nonce | .removingOwn nonce =>
    world.WrittenBy index nonce
  | .makingGuard reclaim _ | .creatingGuardOwner reclaim | .observingGuard reclaim
  | .judgingGuard reclaim _ | .unmakingDeadGuard reclaim | .rechecking reclaim _
  | .recheckingAge reclaim _ | .rejudging reclaim _ _ => world.ReclaimKnown reclaim
  | .writingGuardOwner reclaim nonce => world.ReclaimKnown reclaim ∧ world.WrittenBy index nonce
  | .claimingGuard reclaim found => world.ReclaimKnown reclaim ∧ world.WriterDead found
  | .readingClaim reclaim found claim =>
    world.ReclaimKnown reclaim ∧ world.WriterDead found ∧ world.claims[claim]? = some index
  | .returningClaim claim => world.claims[claim]? = some index
  | .droppingClaim reclaim claim => world.ReclaimKnown reclaim ∧ world.claims[claim]? = some index
  | .removingOwner _ _ recheck => ∀ nonce, recheck = .owner nonce → world.WriterDead nonce
  | _ => True

theorem ReclaimKnown.kept {reclaim : Reclaim} (known : world.ReclaimKnown reclaim)
    (kept : world.Later later) : later.ReclaimKnown reclaim :=
  fun nonce observed => (known nonce observed).kept kept

theorem Knows.kept (knows : world.Knows index phase) (kept : world.Later later) :
    later.Knows index phase := by
  cases phase with
  | writingOwner | holding | releasing | removingOwn => exact WrittenBy.kept knows kept
  | makingGuard | creatingGuardOwner | observingGuard | judgingGuard | unmakingDeadGuard | rechecking
  | recheckingAge | rejudging => exact ReclaimKnown.kept knows kept
  | writingGuardOwner => exact ⟨knows.1.kept kept, knows.2.kept kept⟩
  | claimingGuard => exact ⟨knows.1.kept kept, knows.2.kept kept⟩
  | readingClaim => exact ⟨knows.1.kept kept, knows.2.1.kept kept, kept.getElem_claims knows.2.2⟩
  | returningClaim => exact kept.getElem_claims knows
  | droppingClaim => exact ⟨knows.1.kept kept, kept.getElem_claims knows.2⟩
  | removingOwner => exact fun nonce recheck => (knows nonce recheck).kept kept
  | _ => trivial

/-! ## Steps -/

structure Records (world : World) (index : Nat) (process : LockProcess) (changed : World) :
    Prop where
  processes : changed.processes = world.processes
  owners : changed.owners = world.owners ∨ changed.owners = (world.draws index process).owners
  claims : changed.claims = world.claims ∨ changed.claims = world.claims ++ [index]

variable {changed : World}

theorem Records.isLater (recorded : world.Records index process changed) : world.Later changed := by
  refine ⟨?_, ?_, fun other sibling listed => ⟨sibling, ?_, rfl, rfl, id⟩⟩
  · rcases recorded.owners with same | drawn
    · exact same ▸ prefix_rfl
    · exact drawn ▸ prefix_append _ _
  · rcases recorded.claims with same | drawn
    · exact same ▸ prefix_rfl
    · exact drawn ▸ prefix_append _ _
  · rw [recorded.processes]
    exact listed

theorem records_acquireStep :
    world.Records index process (world.acquireStep index process fails phase).1 := by
  fun_cases acquireStep world index process fails phase with
  | case4 => exact ⟨rfl, .inr rfl, .inl rfl⟩
  | _ => exact ⟨rfl, .inl rfl, .inl rfl⟩

theorem records_releaseStep : world.Records index process (world.releaseStep fails phase).1 := by
  fun_cases releaseStep world fails phase <;> exact ⟨rfl, .inl rfl, .inl rfl⟩

theorem records_observeStep :
    world.Records index process (world.observeStep process fails answers phase).1 := by
  fun_cases observeStep world process fails answers phase <;> exact ⟨rfl, .inl rfl, .inl rfl⟩

theorem records_guardStep :
    world.Records index process (world.guardStep index process fails phase).1 := by
  fun_cases guardStep world index process fails phase with
  | case4 => exact ⟨rfl, .inr rfl, .inl rfl⟩
  | _ => exact ⟨rfl, .inl rfl, .inl rfl⟩

theorem records_recoverStep :
    world.Records index process (world.recoverStep index fails answers phase).1 := by
  fun_cases recoverStep world index fails answers phase with
  | case6 => exact ⟨rfl, .inl rfl, .inr rfl⟩
  | _ => exact ⟨rfl, .inl rfl, .inl rfl⟩

theorem records_reclaimStep :
    world.Records index process (world.reclaimStep process fails answers phase).1 := by
  fun_cases reclaimStep world process fails answers phase <;> exact ⟨rfl, .inl rfl, .inl rfl⟩

theorem records_releaseGuardStep :
    world.Records index process (world.releaseGuardStep fails phase).1 := by
  fun_cases releaseGuardStep world fails phase <;> exact ⟨rfl, .inl rfl, .inl rfl⟩

theorem records_operates :
    world.Records index process (world.operates index process fails answers).1 := by
  unfold operates
  split
  all_goals first
    | exact records_acquireStep
    | exact records_releaseStep
    | exact records_observeStep
    | exact records_guardStep
    | exact records_recoverStep
    | exact records_reclaimStep
    | exact records_releaseGuardStep
    | exact ⟨rfl, .inl rfl, .inl rfl⟩

theorem writtenBy_draws (drawn : changed.owners = (world.draws index process).owners) :
    changed.WrittenBy index world.owners.length := by
  have recorded := congrArg (·[world.owners.length]?) drawn
  exact ⟨_, recorded.trans getElem?_concat_length, rfl⟩

theorem knows_acquireStep (knows : world.Knows index phase) :
    (world.acquireStep index process fails phase).1.Knows index
      (world.acquireStep index process fails phase).2 := by
  fun_cases acquireStep world index process fails phase with
  | case4 => exact writtenBy_draws rfl
  | case7 | case9 => exact knows
  | _ => trivial

theorem knows_releaseStep (knows : world.Knows index phase) :
    (world.releaseStep fails phase).1.Knows index (world.releaseStep fails phase).2 := by
  fun_cases releaseStep world fails phase with
  | case1 | case6 => exact knows
  | _ => trivial

theorem knows_retry (attempt : Nat) : world.Knows index (retry attempt) := by
  unfold retry
  split_ifs <;> trivial

theorem knows_afterReclaim (attempt : Nat) (reclaimed : Bool) :
    world.Knows index (afterReclaim attempt reclaimed) := by
  unfold afterReclaim
  split_ifs
  · exact knows_retry attempt
  · trivial

theorem knows_observeStep (registered : world.Registered) (knows : world.Knows index phase) :
    (world.observeStep process fails answers phase).1.Knows index
      (world.observeStep process fails answers phase).2 := by
  fun_cases observeStep world process fails answers phase with
  | case4 => exact knows_retry _
  | case5 reclaim =>
    rename_i judged
    intro nonce observed
    rw [observed] at judged
    exact registered.abandoned judged
  | case7 => exact knows
  | _ => trivial

theorem knows_guardStep (knows : world.Knows index phase) :
    (world.guardStep index process fails phase).1.Knows index
      (world.guardStep index process fails phase).2 := by
  fun_cases guardStep world index process fails phase with
  | case2 reclaim =>
    split_ifs
    · trivial
    · exact knows
  | case3 | case9 => exact knows
  | case4 reclaim dir =>
    have recorded : world.Records index process
        ((world.withGuard (some dir)).draws index process) :=
      ⟨rfl, .inr rfl, .inl rfl⟩
    have kept := recorded.isLater
    exact ⟨ReclaimKnown.kept knows kept, writtenBy_draws rfl⟩
  | case7 => exact knows.1
  | _ => trivial

theorem knows_recoverStep (registered : world.Registered) (knows : world.Knows index phase) :
    (world.recoverStep index fails answers phase).1.Knows index
      (world.recoverStep index fails answers phase).2 := by
  fun_cases recoverStep world index fails answers phase with
  | case1 | case14 | case15 => exact knows
  | case3 =>
    rename_i dead
    exact ⟨knows, registered.guardDead dead⟩
  | case6 => exact ⟨knows.1, knows.2, getElem?_concat_length⟩
  | case7 => exact ⟨knows.1, knows.2.2⟩
  | case8 => exact knows.2.2
  | case12 => exact knows.1
  | _ => trivial

theorem knows_reclaimStep (registered : world.Registered) (knows : world.Knows index phase) :
    (world.reclaimStep process fails answers phase).1.Knows index
      (world.reclaimStep process fails answers phase).2 := by
  fun_cases reclaimStep world process fails answers phase with
  | case1 | case2 | case3 | case10 => exact knows
  | case5 reclaim nonce recheck =>
    rename_i judged
    intro found isFound
    subst isFound
    exact registered.abandoned (and_eq_true_iff.mp judged).2
  | _ => trivial

theorem knows_releaseGuardStep (knows : world.Knows index phase) :
    (world.releaseGuardStep fails phase).1.Knows index (world.releaseGuardStep fails phase).2 := by
  fun_cases releaseGuardStep world fails phase with
  | case1 | case4 => exact knows_afterReclaim _ _
  | case5 => exact knows
  | _ => trivial

theorem knows_operates (registered : world.Registered) (knows : world.Knows index process.phase) :
    (world.operates index process fails answers).1.Knows index
      (world.operates index process fails answers).2 := by
  unfold operates
  split
  all_goals first
    | exact knows_acquireStep knows
    | exact knows_releaseStep knows
    | exact knows_observeStep registered knows
    | exact knows_guardStep knows
    | exact knows_recoverStep registered knows
    | exact knows_reclaimStep registered knows
    | exact knows_releaseGuardStep knows
    | exact knows

/-! ## Other steps -/

/-- Nothing changes but the processes, and those only start or end what they do. -/
structure Quiet (world later : World) : Prop where
  lock : later.lock = world.lock
  guardDir : later.guardDir = world.guardDir
  kept : world.Later later
  registered : world.Registered → later.Registered
  phases : ∀ index phase, later.phaseOf index = some phase → world.phaseOf index = some phase ∨
    phase = .idle ∨ phase = .makingLock 0 ∨
      ∃ nonce, world.phaseOf index = some (.holding nonce) ∧ phase = .releasing nonce

theorem Quiet.refl : world.Quiet world :=
  ⟨rfl, rfl, .refl, id, fun _ _ => .inl⟩

section Modify

variable {change : LockProcess → LockProcess}

section

variable (processes : later.processes = world.processes.modify index change)
include processes

theorem getElem_modify (other : Nat) : later.processes[other]? = (world.processes[other]?).map fun
    process => if index = other then change process else process := by
  rw [processes, getElem?_modify]
  split_ifs <;> simp

theorem later_modify (pid : ∀ process, (change process).pid = process.pid)
    (identity : ∀ process, (change process).identity = process.identity)
    (alive : ∀ process, (change process).alive = true → process.alive = true)
    (owners : later.owners = world.owners) (claims : later.claims = world.claims) : world.Later
    later := by
  refine ⟨owners ▸ prefix_rfl, claims ▸ prefix_rfl, fun other process listed => ?_⟩
  refine ⟨_, by rw [getElem_modify processes, listed]; rfl, ?_⟩
  split_ifs
  · refine ⟨pid process, identity process, fun dead => eq_false_iff.mpr fun lives => ?_⟩
    rw [alive process lives] at dead
    cases dead
  · exact ⟨rfl, rfl, id⟩

theorem registered_modify (pid : ∀ process, (change process).pid = process.pid)
    (identity : ∀ process, (change process).identity = process.identity)
    (alive : ∀ process, (change process).alive = true → process.alive = true)
    (owners : later.owners = world.owners) (registered : world.Registered) : later.Registered := by
  have changed := getElem_modify processes
  have lived (other : Nat) (process : LockProcess) (lives : later.live other = some process) :
      ∃ before, world.live other = some before ∧ before.pid = process.pid := by
    obtain ⟨listed, isAlive⟩ := live_eq_some.mp lives
    rw [changed, map_eq_some_iff] at listed
    obtain ⟨before, isBefore, rfl⟩ := listed
    split_ifs at isAlive ⊢
    · exact ⟨before, live_eq_some.mpr ⟨isBefore, alive before isAlive⟩, (pid before).symm⟩
    · exact ⟨before, live_eq_some.mpr ⟨isBefore, isAlive⟩, rfl⟩
  constructor
  · intro nonce owner recorded
    rw [owners] at recorded
    obtain ⟨process, listed, samePid, sameIdentity⟩ := registered.owners nonce owner recorded
    refine ⟨_, by rw [changed, listed]; rfl, ?_⟩
    split_ifs
    · rw [pid, identity]
      exact ⟨samePid, sameIdentity⟩
    · exact ⟨samePid, sameIdentity⟩
  intro first second process sibling isFirst isSecond same
  obtain ⟨before, livedBefore, beforePid⟩ := lived first process isFirst
  obtain ⟨other, otherLived, otherPid⟩ := lived second sibling isSecond
  exact registered.pids _ _ _ _ livedBefore otherLived
    (beforePid.trans (same.trans otherPid.symm))

theorem phaseOf_modify {other : Nat} (next : later.phaseOf other = some phase) : world.phaseOf
    other = some phase ∨ index = other ∧ ∃ before, (change before).alive = true ∧
    (change before).phase = phase := by
  obtain ⟨process, lives, rfl⟩ := phaseOf_eq_some.mp next
  obtain ⟨listed, isAlive⟩ := live_eq_some.mp lives
  rw [getElem_modify processes, map_eq_some_iff] at listed
  obtain ⟨before, isBefore, rfl⟩ := listed
  split_ifs at isAlive ⊢ with same
  · exact .inr ⟨same, before, isAlive, rfl⟩
  · exact .inl (phaseOf_eq_some.mpr ⟨before, live_eq_some.mpr ⟨isBefore, isAlive⟩, rfl⟩)

end

end Modify

theorem registered_spawn {pid : Nat} (free : world.isPidAlive pid = false)
    (processes : later.processes = world.processes ++ [process]) (isPid : process.pid = pid)
    (owners : later.owners = world.owners) (registered : world.Registered) : later.Registered := by
  have lived (other : Nat) (sibling : LockProcess) (lives : later.live other = some sibling) :
      world.live other = some sibling ∨ other = world.processes.length ∧ sibling = process := by
    obtain ⟨listed, isAlive⟩ := live_eq_some.mp lives
    rw [processes, getElem?_append] at listed
    split_ifs at listed with inside
    · exact .inl (live_eq_some.mpr ⟨listed, isAlive⟩)
    obtain ⟨isNew, rfl⟩ := List.getElem?_eq_some_iff.mp listed
    simp only [length_singleton] at isNew
    exact .inr ⟨by omega, by simp⟩
  have fresh (other : Nat) (sibling : LockProcess) (lives : world.live other = some sibling) :
      sibling.pid ≠ process.pid := by
    intro same
    have alive := isPidAlive_of_live lives
    rw [same, isPid, free] at alive
    cases alive
  constructor
  · intro nonce owner recorded
    rw [owners] at recorded
    obtain ⟨writer, listed, same⟩ := registered.owners nonce owner recorded
    exact ⟨writer, by rw [processes]; exact prefix_getElem (prefix_append _ _) listed, same⟩
  intro first second one two isFirst isSecond same
  rcases lived first one isFirst with old | ⟨rfl, rfl⟩
  · rcases lived second two isSecond with older | ⟨rfl, rfl⟩
    · exact registered.pids _ _ _ _ old older same
    · exact absurd same (fresh first one old)
  rcases lived second two isSecond with older | ⟨rfl, rfl⟩
  · exact absurd same.symm (fresh second two older)
  · rfl

theorem quiet_spawn {pid : Nat} (free : world.isPidAlive pid = false) (isPid : process.pid = pid)
    (isIdle : process.phase = .idle) :
    world.Quiet { world with processes := world.processes ++ [process] } where
  lock := rfl
  guardDir := rfl
  kept := ⟨prefix_rfl, prefix_rfl, fun _ sibling listed =>
    ⟨sibling, prefix_getElem (prefix_append _ _) listed, rfl, rfl, id⟩⟩
  registered := registered_spawn free rfl isPid rfl
  phases := by
    intro index phase next
    obtain ⟨sibling, lives, rfl⟩ := phaseOf_eq_some.mp next
    obtain ⟨listed, isAlive⟩ := live_eq_some.mp lives
    simp only [getElem?_append] at listed
    split_ifs at listed with inside
    · exact .inl (phaseOf_eq_some.mpr ⟨sibling, live_eq_some.mpr ⟨listed, isAlive⟩, rfl⟩)
    · obtain ⟨isNew, rfl⟩ := List.getElem?_eq_some_iff.mp listed
      exact .inr (.inl (by simpa using isIdle))

theorem quiet_acquires (ownerlessMaxAgeMs : Option Int) :
    world.Quiet (world.acquires index ownerlessMaxAgeMs) where
  lock := rfl
  guardDir := rfl
  kept := later_modify rfl (fun _ => rfl) (fun _ => rfl) (fun _ => id) rfl rfl
  registered := registered_modify rfl (fun _ => rfl) (fun _ => rfl) (fun _ => id) rfl
  phases := by
    intro other phase next
    rcases phaseOf_modify rfl next with same | ⟨-, before, -, rfl⟩
    · exact .inl same
    · exact .inr (.inr (.inl rfl))

theorem later_goes : world.Later (world.goes index phase) :=
  later_modify rfl (fun _ => rfl) (fun _ => rfl) (fun _ => id) rfl rfl

theorem Registered.goes (registered : world.Registered) : (world.goes index phase).Registered :=
  registered_modify rfl (fun _ => rfl) (fun _ => rfl) (fun _ => id) rfl registered

theorem quiet_releases (holds : world.phaseOf index = some (.holding nonce)) :
    world.Quiet (world.goes index (.releasing nonce)) where
  lock := rfl
  guardDir := rfl
  kept := later_goes
  registered := Registered.goes
  phases := by
    intro other phase next
    rcases phaseOf_modify rfl next with same | ⟨rfl, before, -, rfl⟩
    · exact .inl same
    · exact .inr (.inr (.inr ⟨nonce, holds, rfl⟩))

theorem quiet_crashes : world.Quiet (world.crashes index) where
  lock := rfl
  guardDir := rfl
  kept := later_modify rfl (fun _ => rfl) (fun _ => rfl) (fun _ => Bool.noConfusion) rfl rfl
  registered := registered_modify rfl (fun _ => rfl) (fun _ => rfl) (fun _ => Bool.noConfusion) rfl
  phases := by
    intro other phase next
    rcases phaseOf_modify rfl next with same | ⟨-, before, alive, -⟩
    · exact .inl same
    · cases alive

theorem quiet_or_fileStep (world : World) (input : LockInput) : world.Quiet (world.respond input) ∨
      ∃ index process fails answers, input = .fileStep index fails answers ∧
        world.live index = some process ∧
        world.respond input = world.fileStep index process fails answers := by
  unfold respond
  split
  · rename_i pid identity startKnown
    split_ifs with taken
    · exact .inl .refl
    · exact .inl (quiet_spawn (not_eq_true _ ▸ taken) rfl rfl)
  · split
    · exact .inl (quiet_acquires _)
    · exact .inl .refl
  · split
    · rename_i holds
      exact .inl (quiet_releases holds)
    · exact .inl .refl
  · rename_i index fails answers
    split
    · exact .inl .refl
    · rename_i process alive
      exact .inr ⟨index, process, fails, answers, rfl, alive, rfl⟩
  · exact .inl quiet_crashes
  exact .inl ⟨rfl, rfl, ⟨prefix_rfl, prefix_rfl, fun _ process listed =>
    ⟨process, listed, rfl, rfl, id⟩⟩, fun registered => ⟨registered.owners, registered.pids⟩,
    fun _ _ => .inl⟩

/-! ## Every reachable state -/

/-- What every process knows is so. -/
structure Informed (world : World) : Prop where
  registered : world.Registered
  knows : ∀ index phase, world.phaseOf index = some phase → world.Knows index phase

theorem Records.live (recorded : world.Records index process changed) (other : Nat) :
    changed.live other = world.live other := by
  rw [World.live, recorded.processes, World.live]

theorem Records.registered (recorded : world.Records index process changed)
    (alive : world.live index = some process) (registered : world.Registered) :
    changed.Registered := by
  refine ⟨fun nonce owner isOwner => ?_, fun first second one two isFirst isSecond => ?_⟩
  · rw [recorded.processes]
    rcases recorded.owners with same | drawn
    · exact registered.owners nonce owner (same ▸ isOwner)
    rw [drawn, draws, getElem?_append] at isOwner
    rcases lt_or_ge nonce world.owners.length with old | new
    · rw [if_pos old] at isOwner
      exact registered.owners nonce owner isOwner
    rw [if_neg (Nat.not_lt.mpr new)] at isOwner
    obtain ⟨-, rfl⟩ := List.getElem?_eq_some_iff.mp isOwner
    simp only [getElem_singleton]
    refine ⟨process, (live_eq_some.mp alive).1, rfl, fun identity known => ?_⟩
    split_ifs at known
    exact some.inj known
  · rw [recorded.live] at isFirst isSecond
    exact registered.pids _ _ _ _ isFirst isSecond

theorem Informed.fileStep (informed : world.Informed) (alive : world.live index = some process) :
    (world.fileStep index process fails answers).Informed := by
  have recorded : world.Records index process (world.operates index process fails answers).1 :=
    records_operates
  have aliveAfter : (world.operates index process fails answers).1.live index = some process := by
    rw [recorded.live, alive]
  refine ⟨(recorded.registered alive informed.registered).goes, fun other phase next => ?_⟩
  rcases eq_or_ne index other with rfl | differs
  · rw [World.fileStep, phaseOf_goes_self aliveAfter] at next
    obtain rfl := some.inj next
    have knows := informed.knows index _ (phaseOf_eq_some.mpr ⟨process, alive, rfl⟩)
    exact (knows_operates informed.registered knows).kept later_goes
  · rw [World.fileStep, phaseOf_goes_other differs, phaseOf, recorded.live] at next
    exact (informed.knows other phase next).kept (recorded.isLater.trans later_goes)

theorem Informed.quiet (informed : world.Informed) (quiet : world.Quiet later) :
    later.Informed := by
  refine ⟨quiet.registered informed.registered, fun index phase next => ?_⟩
  rcases quiet.phases index phase next with same | rfl | rfl | ⟨nonce, holds, rfl⟩
  · exact (informed.knows index phase same).kept quiet.kept
  · trivial
  · trivial
  · exact WrittenBy.kept (informed.knows index _ holds) quiet.kept

theorem informed_reachable (reachable : lockMachine.Reachable world) : world.Informed := by
  apply reachable.induction
  · refine ⟨⟨fun nonce owner recorded => ?_, fun index other process sibling alive => ?_⟩,
      fun index phase next => ?_⟩
    · cases recorded
    · cases alive
    · cases next
  intro world input informed
  rcases world.quiet_or_fileStep input with
    quiet | ⟨index, process, fails, answers, rfl, alive, same⟩
  · exact informed.quiet quiet
  · have next : lockMachine.next world (.fileStep index fails answers) = _ := same
    rw [next]
    exact informed.fileStep alive

end World

end Adhdev.OwnedLock
