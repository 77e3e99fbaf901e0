import Adhdev.OwnedLock.Guard

/-! # Exclusion

The record of a live holder stays in the lock, so nobody else creates one there. Only a
reclaimer that found the lock without a record can take it away.
-/

namespace Adhdev.OwnedLock

open List Option Bool

def Phase.ownRecord : Phase → Option Nat
  | .writingOwner nonce | .holding nonce | .releasing nonce | .removingOwn nonce => some nonce
  | _ => none

/-- The record that a process takes to be in the lock. -/
def Phase.expects : Phase → Option Nat
  | .rejudging reclaim _ (.owner found) =>
    if reclaim.observed = .owner found then some found else none
  | .removingOwner _ _ (.owner found) => some found
  | phase => phase.ownRecord

/-- Between a successful acquisition and its release. -/
def Phase.holds : Phase → Bool
  | .holding _ | .releasing _ | .removingOwn _ => true
  | _ => false

def Phase.removesOwnerless : Phase → Bool
  | .removingOwner _ _ (.ownerless _) => true
  | _ => false

theorem file_completes (dir : LockDir) (nonce : Nat) (name : FileName) :
    (dir.completes nonce).file name = (dir.file name).map (OwnerFile.completes nonce) := by
  rw [LockDir.completes, LockDir.file, LockDir.file]
  induction dir.files with
  | nil => rfl
  | cons entry files induction =>
    rw [map_cons, lookup_cons, lookup_cons]
    cases name == entry.1 with
    | true => rfl
    | false => exact induction

namespace World

variable {world later : World} {index nonce : Nat} {process : LockProcess} {phase : Phase}
variable {fails answers : Bool}

def holds (world : World) (index : Nat) : Bool :=
  (world.live index).any fun process => process.phase.holds

def Exclusive (world : World) : Prop :=
  ∀ index other, world.holds index = true → world.holds other = true → index = other

theorem lt_length_of_holds (isHolding : world.holds index = true) :
    index < world.processes.length := by
  simp only [holds, Option.any_eq_true] at isHolding
  obtain ⟨process, alive, -⟩ := isHolding
  exact (List.getElem?_eq_some_iff.mp (live_eq_some.mp alive).1).1

instance decidableExclusive (world : World) : Decidable world.Exclusive :=
  decidable_of_iff (∀ index < world.processes.length, ∀ other < world.processes.length,
      world.holds index = true → world.holds other = true → index = other)
    ⟨fun bounded index other first second =>
      bounded index (lt_length_of_holds first) other (lt_length_of_holds second) first second,
      fun exclusive index _ other _ => exclusive index other⟩

def carriesLiveRecord (world : World) : Bool :=
  (world.lock.bind (LockDir.file .owner)).any fun file =>
    world.owners[file.nonce]?.any fun owner =>
      (world.live owner.writer).any fun process => process.phase.ownRecord = some file.nonce

def LockNames (world : World) (nonce : Nat) : Prop :=
  ∃ dir file, world.lock = some dir ∧ dir.file .owner = some file ∧ file.nonce = nonce

def Locked (world : World) : Prop :=
  ∀ index phase nonce, world.phaseOf index = some phase → phase.expects = some nonce →
    world.LockNames nonce

section

variable (names : world.LockNames nonce)
include names

theorem LockNames.unique {other : Nat} (again : world.LockNames other) : nonce = other := by
  obtain ⟨dir, file, isDir, isFile, rfl⟩ := names
  obtain ⟨same, sameFile, isSame, isSameFile, rfl⟩ := again
  obtain rfl := mem_unique isDir isSame
  rw [mem_unique isFile isSameFile]

theorem LockNames.same (same : later.lock = world.lock) : later.LockNames nonce := by
  obtain ⟨dir, file, isDir, rest⟩ := names
  exact ⟨dir, file, same.trans isDir, rest⟩

theorem LockNames.not_removable : removable world.lock = false := by
  obtain ⟨dir, file, isDir, isFile, -⟩ := names
  rw [eq_false_iff]
  intro empty
  obtain ⟨same, isSame, none⟩ := removable_eq_true empty
  obtain rfl := mem_unique isDir isSame
  have member := mem_of_file isFile
  rw [none] at member
  cases member

theorem LockNames.removeDir : (if fails then world.lock else removeDir world.lock) = world.lock :=
    by
  rw [OwnedLock.removeDir, names.not_removable, if_neg Bool.false_ne_true, ite_self]

theorem LockNames.completes {other : Nat} (completed : later.lock = world.lock.map
      (LockDir.completes other)) : later.LockNames nonce := by
  obtain ⟨dir, file, isDir, isFile, rfl⟩ := names
  refine ⟨dir.completes other, file.completes other, ?_, ?_, ?_⟩
  · rw [completed, isDir, map_some]
  · rw [file_completes, isFile, map_some]
  · rw [OwnerFile.completes]
    split_ifs <;> rfl

end

theorem lockNames_of_readRecord (read : readRecord .owner world.lock = some nonce) :
    world.LockNames nonce :=
  readRecord_eq_some read

/-! ## Steps -/

/-- What a step does to the lock. -/
inductive Handles (world : World) (fails : Bool) (phase : Phase) : World × Phase → Prop
  | keeps {next} (kept : ∀ nonce, world.LockNames nonce → next.1.LockNames nonce)
      (expected : ∀ nonce, next.2.expects = some nonce →
        phase.expects = some nonce ∨ next.1.LockNames nonce) : Handles world fails phase next
  | releases {next} (nonce : Nat) (releases : phase = .removingOwn nonce)
      (nothing : next.2.expects = none) : Handles world fails phase next
  | reclaims {next} (attempt nonce : Nat) (recheck : Observed)
      (removes : phase = .removingOwner attempt nonce recheck) (succeeds : fails = false)
      (nothing : next.2.expects = none) : Handles world fails phase next

theorem Handles.stays {next : World × Phase} (same : next.1.lock = world.lock)
    (nothing : next.2.expects = none) : Handles world fails phase next :=
  .keeps (fun _ names => names.same same) fun _ expected => by
    rw [nothing] at expected
    cases expected

theorem handles_acquireStep :
    Handles world fails phase (world.acquireStep index process fails phase) := by
  fun_cases acquireStep world index process fails phase with
  | case1 | case2 | case5 | case6 => exact .stays rfl rfl
  | case3 =>
    rename_i absent _
    refine .keeps (fun nonce names => ?_) (by rintro _ ⟨⟩)
    obtain ⟨dir, file, isDir, -⟩ := names
    rw [isDir] at absent
    cases absent rfl
  | case4 made isMade =>
    obtain ⟨before, isBefore, none, files⟩ := created_eq_some isMade
    refine .keeps (fun nonce names => ?_) fun nonce expected => .inr ?_
    · obtain ⟨dir, file, isDir, isFile, -⟩ := names
      obtain rfl := mem_unique isBefore isDir
      rw [none] at isFile
      cases isFile
    obtain rfl := some.inj expected
    refine ⟨made, ⟨world.owners.length, false⟩, rfl, ?_, rfl⟩
    rw [LockDir.file, files, lookup_cons_self]
  | case7 => exact .keeps (fun _ names => names.completes rfl) fun _ => .inl
  | case8 =>  exact .keeps (fun _ names => names.same names.removeDir) (by rintro _ ⟨⟩)
  | case9 => exact .keeps (fun _ => id) fun _ => .inl

theorem handles_releaseStep : Handles world fails phase (world.releaseStep fails phase) := by
  fun_cases releaseStep world fails phase with
  | case1 | case6 => exact .keeps (fun _ => id) fun _ => .inl
  | case2 | case3 => exact .stays rfl rfl
  | case4 => exact .releases _ rfl rfl
  | case5 => exact .keeps (fun _ names => names.same names.removeDir) (by rintro _ ⟨⟩)

theorem expects_afterReclaim (attempt : Nat) (reclaimed : Bool) :
    (afterReclaim attempt reclaimed).expects = none := by
  unfold afterReclaim retry
  split_ifs <;> rfl

theorem handles_observeStep :
    Handles world fails phase (world.observeStep process fails answers phase) := by
  fun_cases observeStep world process fails answers phase with
  | case4 => exact .stays rfl (expects_afterReclaim _ true)
  | case7 => exact .keeps (fun _ => id) fun _ => .inl
  | _ => exact .stays rfl rfl

theorem handles_guardStep : Handles world fails phase
    (world.guardStep index process fails phase) := by
  fun_cases guardStep world index process fails phase with
  | case2 =>
    refine .stays rfl ?_
    split_ifs <;> rfl
  | case9 => exact .keeps (fun _ => id) fun _ => .inl
  | _ => exact .stays rfl rfl

theorem handles_recoverStep : Handles world fails phase
    (world.recoverStep index fails answers phase) := by
  fun_cases recoverStep world index fails answers phase with
  | case15 => exact .keeps (fun _ => id) fun _ => .inl
  | _ => exact .stays rfl rfl

theorem handles_reclaimStep : Handles world fails phase
    (world.reclaimStep process fails answers phase) := by
  fun_cases reclaimStep world process fails answers phase with
  | case1 reclaim nonce found isFound =>
    refine .keeps (fun _ => id) fun expected isExpected => .inr ?_
    rw [Phase.expects] at isExpected
    split_ifs at isExpected
    cases isExpected
    exact lockNames_of_readRecord isFound
  | case2 | case3 | case4 | case6 | case8 => exact .stays rfl rfl
  | case5 =>
    rename_i reclaim nonce recheck judged
    refine .keeps (fun _ => id) fun expected isExpected => .inl ?_
    cases recheck with
    | ownerless => cases isExpected
    | owner found =>
      obtain rfl : found = expected := some.inj isExpected
      have same := (and_eq_true_iff.mp judged).1
      cases isObserved : reclaim.observed with
      | ownerless => rw [isObserved] at same; cases same
      | owner observed =>
        rw [isObserved, sameInstance, decide_eq_true_eq] at same
        rw [Phase.expects, isObserved, same, if_pos rfl]
  | case7 =>
    cases fails with
    | true => exact .stays rfl rfl
    | false => exact .reclaims _ _ _ rfl rfl rfl
  | case9 =>
    rename_i gone
    refine .keeps (fun nonce names => ?_) (by rintro _ ⟨⟩)
    rw [names.not_removable, Bool.not_false, Bool.or_true] at gone
    exact absurd rfl gone
  | case10 => exact .keeps (fun _ => id) fun _ => .inl

theorem handles_releaseGuardStep : Handles world fails phase
    (world.releaseGuardStep fails phase) := by
  fun_cases releaseGuardStep world fails phase with
  | case1 | case4 => exact .stays rfl (expects_afterReclaim _ _)
  | case2 | case3 => exact .stays rfl rfl
  | case5 => exact .keeps (fun _ => id) fun _ => .inl

theorem handles_operates :
    Handles world fails process.phase (world.operates index process fails answers) := by
  unfold operates
  split
  all_goals first
    | exact handles_acquireStep
    | exact handles_releaseStep
    | exact handles_observeStep
    | exact handles_guardStep
    | exact handles_recoverStep
    | exact handles_reclaimStep
    | exact handles_releaseGuardStep
    | exact .keeps (fun _ => id) fun _ => .inl

theorem writtenBy_or_dead (knows : world.Knows index phase)
    (expected : phase.expects = some nonce) :
    phase.ownRecord = some nonce ∧ world.WrittenBy index nonce ∨
      phase.responsible = true ∧ world.WriterDead nonce := by
  cases phase with
  | writingOwner | holding | releasing | removingOwn =>
    cases expected
    exact .inl ⟨rfl, knows⟩
  | rejudging reclaim _ recheck =>
    cases recheck with
    | ownerless => cases expected
    | owner found =>
      rw [Phase.expects] at expected
      split_ifs at expected with isObserved
      cases expected
      exact .inr ⟨rfl, knows _ isObserved⟩
  | removingOwner _ _ recheck =>
    cases recheck with
    | ownerless => cases expected
    | owner found =>
      cases expected
      exact .inr ⟨rfl, knows _ rfl⟩
  | _ => cases expected

theorem carriesLiveRecord_of_own (alive : world.live index = some process)
    (own : process.phase.ownRecord = some nonce) (written : world.WrittenBy index nonce)
    (names : world.LockNames nonce) : world.carriesLiveRecord = true := by
  obtain ⟨dir, file, isDir, isFile, rfl⟩ := names
  obtain ⟨owner, recorded, rfl⟩ := written
  simp only [carriesLiveRecord, isDir, bind_some, isFile, any_some, recorded, alive, own,
    decide_true]

def SparesLiveRecord (world : World) (fails : Bool) (phase : Phase) : Prop :=
  fails = false → phase.removesOwnerless = true → world.carriesLiveRecord = false

theorem Locked.fileStep (locked : world.Locked) (informed : world.Informed)
    (guarded : world.Guarded)
    (alive : world.live index = some process)
    (spares : world.SparesLiveRecord fails process.phase) :
    (world.fileStep index process fails answers).Locked := by
  have recorded : world.Records index process (world.operates index process fails answers).1 :=
    records_operates
  have aliveAfter : (world.operates index process fails answers).1.live index = some process := by
    rw [recorded.live, alive]
  have isPhase : world.phaseOf index = some process.phase :=
    phaseOf_eq_some.mpr ⟨process, alive, rfl⟩
  have knows := informed.knows index _ isPhase
  have ownExpected := locked index process.phase
  intro other phase nonce next expected
  suffices names : (world.operates index process fails answers).1.LockNames nonce from names.same
      rfl
  have handles : Handles world fails process.phase (world.operates index process fails answers) :=
    handles_operates
  rcases eq_or_ne index other with rfl | differs
  · rw [World.fileStep, phaseOf_goes_self aliveAfter] at next
    obtain rfl := some.inj next
    cases handles with
    | keeps kept isExpected =>
      rcases isExpected nonce expected with before | names
      · exact kept nonce (ownExpected nonce isPhase before)
      · exact names
    | releases _ _ nothing | reclaims _ _ _ _ _ nothing => rw [nothing] at expected; cases expected
  rw [World.fileStep, phaseOf_goes_other differs, phaseOf, recorded.live, ← phaseOf] at next
  have names := locked other phase nonce next expected
  obtain ⟨sibling, lives, rfl⟩ := phaseOf_eq_some.mp next
  cases handles with
  | keeps kept => exact kept nonce names
  | releases own releases =>
    have ownNames := ownExpected own isPhase (by rw [releases]; rfl)
    obtain rfl := names.unique ownNames
    rw [releases] at knows
    rcases writtenBy_or_dead (informed.knows other _ next) expected with ⟨-, written⟩ | ⟨-, dead⟩
    · exact absurd (WrittenBy.unique knows written) differs
    · exact absurd dead (WrittenBy.not_dead knows alive)
  | reclaims attempt guardNonce recheck removes succeeds =>
    rcases writtenBy_or_dead (informed.knows other _ next) expected with
      ⟨own, written⟩ | ⟨responsible, -⟩
    · cases recheck with
      | owner found =>
        have ownNames := ownExpected found isPhase (by rw [removes]; rfl)
        obtain rfl := names.unique ownNames
        rw [removes] at knows
        exact absurd (knows _ rfl) (written.not_dead lives)
      | ownerless mtime =>
        have carries := carriesLiveRecord_of_own lives own written names
        rw [spares succeeds (by rw [removes]; rfl)] at carries
        cases carries
    · exact absurd (guarded.sole index other _ _ isPhase next (by rw [removes]; rfl) responsible)
        differs

theorem Locked.quiet (locked : world.Locked) (quiet : world.Quiet later) : later.Locked := by
  intro index phase nonce next expected
  suffices names : world.LockNames nonce from names.same quiet.lock
  rcases quiet.phases index phase next with same | rfl | rfl | ⟨own, isHolding, rfl⟩
  · exact locked index phase nonce same expected
  · cases expected
  · cases expected
  · exact locked index _ nonce isHolding expected

theorem writtenBy_of_holds (knows : world.Knows index phase) (isHolding : phase.holds = true) :
    ∃ nonce, phase.expects = some nonce ∧ world.WrittenBy index nonce := by
  cases phase with
  | holding nonce | releasing nonce | removingOwn nonce => exact ⟨nonce, rfl, knows⟩
  | _ => cases isHolding

theorem Locked.exclusive (locked : world.Locked) (informed : world.Informed) : world.Exclusive := by
  intro index other isHolding otherHolds
  simp only [holds, Option.any_eq_true] at isHolding otherHolds
  obtain ⟨process, alive, isHolding⟩ := isHolding
  obtain ⟨sibling, otherAlive, otherHolds⟩ := otherHolds
  have isPhase : world.phaseOf index = some process.phase :=
    phaseOf_eq_some.mpr ⟨process, alive, rfl⟩
  have isSibling : world.phaseOf other = some sibling.phase :=
    phaseOf_eq_some.mpr ⟨sibling, otherAlive, rfl⟩
  obtain ⟨nonce, expected, written⟩ := writtenBy_of_holds (informed.knows index _ isPhase) isHolding
  obtain ⟨otherNonce, otherExpected, otherWritten⟩ :=
    writtenBy_of_holds (informed.knows other _ isSibling) otherHolds
  have names := locked index _ nonce isPhase expected
  obtain rfl := names.unique (locked other _ otherNonce isSibling otherExpected)
  exact written.unique otherWritten

end World

/-! ## Runs -/

def sparesLiveRecord (step : Machine.Step lockMachine) : Bool :=
  match step.input with
  | .fileStep index fails _ =>
    fails || !((step.before.live index).any fun process => process.phase.removesOwnerless) ||
      !step.before.carriesLiveRecord
  | _ => true

variable {step : Machine.Step lockMachine}

theorem spares_of_step {index : Nat} {fails answers : Bool} {process : LockProcess}
    (spares : sparesLiveRecord step = true) (isStep : step.input = .fileStep index fails answers)
    (alive : step.before.live index = some process) :
    step.before.SparesLiveRecord fails process.phase := by
  intro succeeds removes
  simpa [sparesLiveRecord, isStep, succeeds, alive, removes] using spares

theorem locked_step (reachable : lockMachine.Reachable step.before)
    (spares : sparesLiveRecord step = true) (locked : step.before.Locked) : step.after.Locked := by
  have same : step.after = step.before.respond step.input := rfl
  rw [same]
  rcases step.before.quiet_or_fileStep step.input with
    quiet | ⟨index, process, fails, answers, isStep, alive, responds⟩
  · exact locked.quiet quiet
  · rw [responds]
    exact locked.fileStep (World.informed_reachable reachable) (World.guarded_reachable reachable)
      alive
      (spares_of_step spares isStep alive)

/-- In every state of such a run at most one live process holds the lock. -/
theorem owned_lock_exclusive (inputs : List LockInput)
    (spares : ∀ step ∈ lockMachine.steps inputs, sparesLiveRecord step = true) :
    ∀ step ∈ lockMachine.steps inputs, step.after.Exclusive := by
  intro step member
  have initially : lockMachine.initial.Locked := by
    intro index phase nonce next
    cases next
  have reachable : lockMachine.Reachable step.after :=
    (Machine.reachable_of_mem_steps member).next step.input
  have locked : step.after.Locked :=
    Machine.after_of_mem_stepsFrom (fun step => sparesLiveRecord step = true) World.Locked
      (fun _ => locked_step) .run_initial initially spares member
  exact locked.exclusive (World.informed_reachable reachable)

def fileSteps (index count : Nat) : List LockInput :=
  List.replicate count (.fileStep index false true)

def startedAt (ticks : String) : StartIdentity := ⟨.linuxStartTicks, ticks⟩

def recovered : List LockInput :=
  [.spawn 10 (startedAt "0") true, .spawn 11 (startedAt "1") true, .spawn 12 (startedAt "2") true,
    .acquire 0 none] ++ fileSteps 0 3 ++ [.crash 0, .acquire 1 none] ++ fileSteps 1 7 ++
    [.crash 1, .acquire 2 none] ++ fileSteps 2 26

theorem exclusive_recovered : (∀ step ∈ lockMachine.steps recovered, step.after.Exclusive) ∧
      (lockMachine.run recovered).holds 2 = true := by
  refine ⟨owned_lock_exclusive recovered ?_, ?_⟩
  · decide
  · decide

/-- No time passes while a live process makes its record. -/
def writesPromptly (step : Machine.Step lockMachine) : Bool :=
  match step.input with
  | .elapse _ => step.before.processes.all fun process =>
    !process.alive || match process.phase with
      | .creatingOwner | .writingOwner _ => false
      | _ => true
  | _ => true

def stalledRelease : List LockInput :=
  [.spawn 10 (startedAt "0") true, .spawn 11 (startedAt "1") true, .spawn 12 (startedAt "2") true,
    .spawn 13 (startedAt "3") true, .acquire 0 none] ++ fileSteps 0 3 ++ [.release 0] ++
      fileSteps 0 2 ++
    [.elapse 60000, .acquire 1 none] ++ fileSteps 1 10 ++ fileSteps 0 1 ++ [.acquire 2 none] ++
    fileSteps 2 3 ++ fileSteps 1 2 ++ [.acquire 3 none] ++ fileSteps 3 3

theorem stalled_release_breaks_exclusion :
    (∀ step ∈ lockMachine.steps stalledRelease, writesPromptly step = true) ∧
      ¬ ∀ step ∈ lockMachine.steps stalledRelease, step.after.Exclusive := by
  decide

end Adhdev.OwnedLock
