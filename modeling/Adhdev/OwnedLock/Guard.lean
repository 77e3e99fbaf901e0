import Adhdev.OwnedLock.Knowledge

/-! # The reclaim guard

At most one live process is responsible for the guard, and every record in the guard is its own.
-/

namespace Adhdev.OwnedLock

open List Option

/-! ## Directories -/

variable {dir : LockDir} {clock : Int} {name other : FileName}

theorem mem_of_file {file : OwnerFile} (found : dir.file name = some file) :
    (name, file) ∈ dir.files := by
  obtain ⟨earlier, later, files, -⟩ := lookup_eq_some_iff.mp found
  rw [files]
  exact mem_append_right _ mem_cons_self

theorem length_unlinks_le : (dir.unlinks clock name).files.length ≤ dir.files.length := by
  unfold LockDir.unlinks
  split
  · exact Nat.le_refl _
  · exact length_filter_le _ _

variable {entry : FileName × OwnerFile}

theorem mem_of_mem_unlinks (member : entry ∈ (dir.unlinks clock name).files) :
    entry ∈ dir.files := by
  unfold LockDir.unlinks at member
  split at member
  · exact member
  · exact mem_of_mem_filter member

theorem ne_of_mem_unlinks (isFile : (dir.file name).isSome = true)
    (member : entry ∈ (dir.unlinks clock name).files) : entry.1 ≠ name := by
  obtain ⟨file, isFile⟩ := isSome_iff_exists.mp isFile
  rw [LockDir.unlinks, isFile] at member
  simpa using (mem_filter.mp member).2

theorem mem_completes {nonce : Nat} (member : entry ∈ (dir.completes nonce).files) :
    ∃ before ∈ dir.files, entry.1 = before.1 ∧ entry.2.nonce = before.2.nonce := by
  obtain ⟨before, isBefore, rfl⟩ := mem_map.mp member
  refine ⟨before, isBefore, rfl, ?_⟩
  simp only [OwnerFile.completes]
  split_ifs <;> rfl

theorem length_renames_le : (dir.renames clock name other).files.length ≤ dir.files.length := by
  unfold LockDir.renames
  split
  · exact Nat.le_refl _
  rename_i file found
  rw [length_cons, Nat.succ_le_iff, length_filter_lt_length_iff_exists]
  exact ⟨_, mem_of_file found, by simp⟩

theorem mem_renames (member : entry ∈ (dir.renames clock name other).files) :
    ∃ before ∈ dir.files, entry.2 = before.2 ∧
      (entry.1 = before.1 ∨ before.1 = name ∧ entry.1 = other) := by
  unfold LockDir.renames at member
  split at member
  · exact ⟨entry, member, rfl, .inl rfl⟩
  rename_i file found
  rcases mem_cons.mp member with rfl | kept
  · exact ⟨_, mem_of_file found, rfl, .inr ⟨rfl, rfl⟩⟩
  · exact ⟨entry, mem_of_mem_filter kept, rfl, .inl rfl⟩

variable {lock : Option LockDir}

theorem readRecord_eq_some {found : Nat} (read : readRecord name lock = some found) :
    ∃ dir file, lock = some dir ∧ dir.file name = some file ∧ file.nonce = found := by
  simp only [readRecord, map_eq_some_iff, filter_eq_some_iff, bind_eq_some_iff] at read
  obtain ⟨file, ⟨⟨dir, isDir, isFile⟩, -⟩, rfl⟩ := read
  exact ⟨dir, file, isDir, isFile, rfl⟩

theorem created_eq_some {world : World} (created : world.created lock = some dir) :
    ∃ before, lock = some before ∧ before.file .owner = none ∧
      dir.files = (.owner, ⟨world.owners.length, false⟩) :: before.files := by
  unfold World.created at created
  split at created
  · cases created
  rename_i before
  split_ifs at created with taken
  cases created
  exact ⟨before, rfl, by simpa using taken, rfl⟩

theorem removable_eq_true (empty : removable lock = true) :
    ∃ dir, lock = some dir ∧ dir.files = [] := by
  simpa [removable, Option.any_eq_true] using empty

theorem removeDir_eq_some (left : removeDir lock = some dir) : lock = some dir := by
  unfold removeDir at left
  split_ifs at left
  exact left

/-! ## Responsibility -/

/-- The process made the guard, or is about to remove it. -/
def Phase.responsible : Phase → Bool
  | .creatingGuardOwner _ | .writingGuardOwner _ _ | .unmakingGuard | .droppingClaim _ _
  | .unmakingDeadGuard _ | .rechecking _ _ | .recheckingAge _ _ | .rejudging _ _ _
  | .removingOwner _ _ _ | .removingLock _ _ | .releasingGuard _ _ _ | .removingGuardOwner _ _
  | .removingGuard _ _ => true
  | _ => false

namespace World

variable {world later : World} {index nonce : Nat} {process : LockProcess} {phase : Phase}
variable {fails answers : Bool}

/-- The files that may be in the guard of a responsible process. -/
def Permits (world : World) (index : Nat) : Phase → FileName × OwnerFile → Prop
  | .creatingGuardOwner _, _ | .unmakingDeadGuard _, _ => False
  | .droppingClaim _ claim, entry => entry.1 = .reaped claim
  | _, entry => world.WrittenBy index entry.2.nonce

def Keeps (world : World) (index : Nat) (phase : Phase) : Prop :=
  ∃ dir, world.guardDir = some dir ∧ dir.files.length ≤ 1 ∧
    ∀ entry ∈ dir.files, world.Permits index phase entry

def FewRecords (world : World) : Prop := ∀ dir, world.guardDir = some dir → dir.files.length ≤ 1

structure Guarded (world : World) : Prop where
  few : world.FewRecords
  keeps : ∀ index phase, world.phaseOf index = some phase → phase.responsible = true →
    world.Keeps index phase
  sole : ∀ index other phase sibling, world.phaseOf index = some phase →
    world.phaseOf other = some sibling → phase.responsible = true → sibling.responsible = true →
    index = other

theorem Permits.kept (permits : world.Permits index phase entry) (kept : world.Later later) :
    later.Permits index phase entry := by
  cases phase with
  | creatingGuardOwner | unmakingDeadGuard | droppingClaim => exact permits
  | _ => exact WrittenBy.kept permits kept

theorem Keeps.few (keeps : world.Keeps index phase) : world.FewRecords := by
  obtain ⟨dir, isDir, few, -⟩ := keeps
  intro other isOther
  obtain rfl := mem_unique isDir isOther
  exact few

theorem Keeps.kept (keeps : world.Keeps index phase) (kept : world.Later later)
    (same : later.guardDir = world.guardDir) : later.Keeps index phase := by
  obtain ⟨dir, isDir, few, permits⟩ := keeps
  exact ⟨dir, same.trans isDir, few, fun entry member => (permits entry member).kept kept⟩

/-! ## Steps of the responsible process -/

structure Answers (index : Nat) (next : World × Phase) : Prop where
  few : next.1.FewRecords
  keeps : next.2.responsible = true → next.1.Keeps index next.2

theorem Answers.of_keeps {next : World × Phase} (keeps : next.1.Keeps index next.2) :
    Answers index next :=
  ⟨keeps.few, fun _ => keeps⟩

theorem Answers.of_few {next : World × Phase} (few : next.1.FewRecords)
    (free : next.2.responsible = false) : Answers index next :=
  ⟨few, fun responsible => by rw [free] at responsible; cases responsible⟩

theorem few_removeDir (few : world.FewRecords) (fails : Bool) :
    (world.withGuard (if fails then world.guardDir else removeDir world.guardDir)).FewRecords := by
  intro dir isDir
  cases fails with
  | true => exact few dir isDir
  | false => exact few dir (removeDir_eq_some isDir)

theorem responsible_afterReclaim (attempt : Nat) (reclaimed : Bool) :
    (afterReclaim attempt reclaimed).responsible = false := by
  unfold afterReclaim retry
  split_ifs <;> rfl

theorem withGuard_map {dir : LockDir} (isDir : world.guardDir = some dir)
    (change : LockDir → LockDir) :
    (world.withGuard (world.guardDir.map change)).guardDir = some (change dir) := by
  rw [withGuard, isDir, map_some]

section

variable (keeps : world.Keeps index phase)
include keeps

theorem answers_guardStep : Answers index (world.guardStep index process fails phase) := by
  have fewRecords := keeps.few
  obtain ⟨dir, isDir, few, permits⟩ := keeps
  fun_cases guardStep world index process fails phase with
  | case1 => exact .of_few fewRecords rfl
  | case2 =>
    refine .of_few fewRecords ?_
    split_ifs <;> rfl
  | case3 => exact .of_keeps ⟨_, rfl, Nat.zero_le 1, by simp⟩
  | case4 reclaim made isMade =>
    obtain ⟨before, isBefore, -, files⟩ := created_eq_some isMade
    obtain rfl := mem_unique isDir isBefore
    have empty : dir.files = [] := eq_nil_iff_forall_not_mem.mpr permits
    rw [empty] at files
    refine .of_keeps ⟨made, rfl, by rw [files]; rfl, fun entry member => ?_⟩
    rw [files, mem_singleton] at member
    subst member
    exact writtenBy_draws rfl
  | case5 => exact .of_keeps ⟨dir, isDir, few, fun entry member => (permits entry member).elim⟩
  | case6 | case9 => exact .of_keeps ⟨dir, isDir, few, permits⟩
  | case7 =>
    refine .of_keeps ⟨_, withGuard_map isDir _, ?_, fun entry member => ?_⟩
    · rw [LockDir.completes, length_map]
      exact few
    obtain ⟨before, isBefore, -, same⟩ := mem_completes member
    have written : world.WrittenBy index entry.2.nonce := same ▸ permits before isBefore
    exact written
  | case8 => exact .of_few (few_removeDir fewRecords fails) rfl

theorem answers_recoverStep (responsible : phase.responsible = true) : Answers index
    (world.recoverStep index fails answers phase) := by
  have fewRecords := keeps.few
  obtain ⟨dir, isDir, few, permits⟩ := keeps
  fun_cases recoverStep world index fails answers phase with
  | case11 | case13 => exact .of_few fewRecords rfl
  | case12 =>
    rename_i isThere
    refine .of_keeps ⟨_, withGuard_map isDir _, length_unlinks_le.trans few, fun entry member => ?_⟩
    rw [Bool.or_eq_true, not_or, missing, isDir, bind_some, isNone_iff_eq_none] at isThere
    exact ne_of_mem_unlinks (isSome_iff_ne_none.mpr isThere.2) member
      (permits entry (mem_of_mem_unlinks member))
  | case14 =>
    refine .of_few (fun other isOther => ?_) rfl
    cases isOther
  | case15 => exact .of_keeps ⟨dir, isDir, few, permits⟩
  | _ => cases responsible

theorem answers_reclaimStep (responsible : phase.responsible = true) : Answers index
    (world.reclaimStep process fails answers phase) := by
  fun_cases reclaimStep world process fails answers phase with
  | case10 | _ => exact .of_keeps keeps

theorem answers_releaseGuardStep : Answers index (world.releaseGuardStep fails phase) := by
  have fewRecords := keeps.few
  obtain ⟨dir, isDir, few, permits⟩ := keeps
  fun_cases releaseGuardStep world fails phase with
  | case1 => exact .of_few fewRecords (responsible_afterReclaim _ _)
  | case2 | case5 => exact .of_keeps ⟨dir, isDir, few, permits⟩
  | case3 attempt reclaimed =>
    cases fails with
    | true => exact .of_keeps ⟨dir, isDir, few, permits⟩
    | false =>
      exact .of_keeps ⟨_, withGuard_map isDir _, length_unlinks_le.trans few,
        fun entry member => permits entry (mem_of_mem_unlinks member)⟩
  | case4 => exact .of_few (few_removeDir fewRecords fails) (responsible_afterReclaim _ _)

end

theorem answers_operates (keeps : world.Keeps index process.phase)
    (responsible : process.phase.responsible = true) :
    Answers index (world.operates index process fails answers) := by
  unfold operates
  split
  all_goals first
    | exact answers_guardStep keeps
    | exact answers_recoverStep keeps responsible
    | exact answers_reclaimStep keeps responsible
    | exact answers_releaseGuardStep keeps
    | rename_i isPhase; rw [isPhase] at responsible; cases responsible

/-! ## Steps of the others -/

/-- What a process that is not responsible for the guard may do to it. -/
inductive Visits (world : World) (index : Nat) (phase : Phase) : World × Phase → Prop
  | leaves {next} (same : next.1.guardDir = world.guardDir) (free : next.2.responsible = false) :
      Visits world index phase next
  | makes {next} (absent : world.guardDir = none) (made : ∃ mtime, next.1.guardDir = some { mtime })
      (creates : ∃ reclaim, next.2 = .creatingGuardOwner reclaim) : Visits world index phase next
  | renames {next} (name other : FileName)
      (renamed : next.1.guardDir = world.guardDir.map (LockDir.renames world.clock name other))
      (own : ∀ claim, name = .reaped claim → world.claims[claim]? = some index)
      (free : next.2.responsible = false) : Visits world index phase next
  | wins {next} (reclaim : Reclaim) (found claim : Nat) (same : next.1 = world)
      (reads : phase = .readingClaim reclaim found claim)
      (drops : next.2 = .droppingClaim reclaim claim)
      (isFound : readRecord (.reaped claim) world.guardDir = some found) :
      Visits world index phase next

theorem visits_acquireStep (free : phase.responsible = false) :
    Visits world index phase (world.acquireStep index process fails phase) := by
  fun_cases acquireStep world index process fails phase with
  | case9 => exact .leaves rfl free
  | _ => exact .leaves rfl rfl

theorem visits_releaseStep (free : phase.responsible = false) :
    Visits world index phase (world.releaseStep fails phase) := by
  fun_cases releaseStep world fails phase with
  | case6 => exact .leaves rfl free
  | _ => exact .leaves rfl rfl

theorem responsible_retry (attempt : Nat) : (retry attempt).responsible = false :=
  responsible_afterReclaim attempt true

theorem visits_observeStep (free : phase.responsible = false) :
    Visits world index phase (world.observeStep process fails answers phase) := by
  fun_cases observeStep world process fails answers phase with
  | case4 => exact .leaves rfl (responsible_retry _)
  | case7 => exact .leaves rfl free
  | _ => exact .leaves rfl rfl

theorem visits_guardStep (free : phase.responsible = false) :
    Visits world index phase (world.guardStep index process fails phase) := by
  fun_cases guardStep world index process fails phase with
  | case1 => exact .leaves rfl rfl
  | case2 =>
    refine .leaves rfl ?_
    split_ifs <;> rfl
  | case3 =>
    rename_i absent _
    exact .makes (by simpa using absent) ⟨_, rfl⟩ ⟨_, rfl⟩
  | case9 => exact .leaves rfl free
  | _ => cases free

theorem visits_recoverStep (knows : world.Knows index phase) (free : phase.responsible = false) :
    Visits world index phase (world.recoverStep index fails answers phase) := by
  fun_cases recoverStep world index fails answers phase with
  | case6 => exact .renames .owner _ rfl (by simp) rfl
  | case7 =>
    rename_i read
    exact .wins _ _ _ rfl rfl rfl read.1
  | case10 =>
    refine .renames (.reaped _) .owner rfl (fun claim same => ?_) rfl
    cases same
    exact knows
  | case15 => exact .leaves rfl free
  | case11 | case12 | case13 | case14 => cases free
  | _ => exact .leaves rfl rfl

theorem visits_operates (knows : world.Knows index process.phase)
    (free : process.phase.responsible = false) :
    Visits world index process.phase (world.operates index process fails answers) := by
  unfold operates
  split
  all_goals first
    | exact visits_acquireStep free
    | exact visits_releaseStep free
    | exact visits_observeStep free
    | exact visits_guardStep free
    | exact visits_recoverStep knows free
    | exact .leaves rfl free
    | rename_i isPhase; rw [isPhase] at free; cases free

/-! ## Every reachable state -/

theorem Keeps.renamed {clock : Int} {name other : FileName} (keeps : world.Keeps index phase)
    (kept : world.Later later)
    (renamed : later.guardDir = world.guardDir.map (LockDir.renames clock name other))
    (differs : ∀ reclaim claim, phase = .droppingClaim reclaim claim → name ≠ .reaped claim) :
    later.Keeps index phase := by
  obtain ⟨dir, isDir, few, permits⟩ := keeps
  refine ⟨_, by rw [renamed, isDir, map_some], length_renames_le.trans few, ?_⟩
  intro entry member
  obtain ⟨before, isBefore, sameFile, names⟩ := mem_renames member
  have permitted := (permits before isBefore).kept kept
  cases phase with
  | creatingGuardOwner | unmakingDeadGuard => exact permitted
  | droppingClaim reclaim claim =>
    rcases names with same | ⟨isName, -⟩
    · exact same.trans permitted
    · exact absurd (isName.symm.trans permitted) (differs reclaim claim rfl)
  | _ =>
    have written : later.WrittenBy index entry.2.nonce := sameFile ▸ permitted
    exact written

theorem Keeps.wins {other found claim : Nat} (keeps : world.Keeps other phase)
    (alive : world.live other = some process) (responsible : phase.responsible = true)
    (knows : world.Knows other phase) (dead : world.WriterDead found)
    (drawn : world.claims[claim]? = some index)
    (isFound : readRecord (.reaped claim) world.guardDir = some found) : other = index := by
  obtain ⟨dir, file, isDir, isFile, rfl⟩ := readRecord_eq_some isFound
  obtain ⟨same, isSame, -, permits⟩ := keeps
  obtain rfl := mem_unique isDir isSame
  have permitted := permits _ (mem_of_file isFile)
  cases phase with
  | creatingGuardOwner | unmakingDeadGuard => exact permitted.elim
  | droppingClaim reclaim other =>
    cases permitted
    exact mem_unique knows.2 drawn
  | writingGuardOwner | unmakingGuard | rechecking | recheckingAge | rejudging | removingOwner
  | removingLock | releasingGuard | removingGuardOwner | removingGuard =>
    exact absurd dead (WrittenBy.not_dead permitted alive)
  | _ => cases responsible

theorem FewRecords.only {dir : LockDir} {file : OwnerFile} {name : FileName}
    (few : world.FewRecords) (isDir : world.guardDir = some dir)
    (isFile : dir.file name = some file) :
    ∀ entry ∈ dir.files, entry = (name, file) := by
  intro entry member
  have length := few dir isDir
  have found := mem_of_file isFile
  match files : dir.files, length with
  | [], _ => rw [files] at found; cases found
  | [only], _ =>
    rw [files, mem_singleton] at found member
    rw [member, found]

theorem Visits.answered {next : World × Phase} (visits : Visits world index phase next)
    (few : world.FewRecords) : Answers index next := by
  cases visits with
  | leaves same free =>
    refine .of_few (fun dir isDir => ?_) free
    rw [same] at isDir
    exact few dir isDir
  | makes absent made creates =>
    obtain ⟨mtime, isMade⟩ := made
    obtain ⟨reclaim, creates⟩ := creates
    refine .of_keeps ⟨_, isMade, Nat.zero_le 1, ?_⟩
    intro entry member
    cases member
  | renames name other renamed own free =>
    refine .of_few (fun dir isDir => ?_) free
    rw [renamed, map_eq_some_iff] at isDir
    obtain ⟨before, isBefore, rfl⟩ := isDir
    exact length_renames_le.trans (few before isBefore)
  | wins reclaim found claim same reads drops isFound =>
    obtain ⟨dir, file, isDir, isFile, rfl⟩ := readRecord_eq_some isFound
    refine .of_keeps ⟨dir, by rw [same, isDir], few dir isDir, fun entry member => ?_⟩
    rw [drops, few.only isDir isFile entry member]
    rfl

theorem Visits.others {next : World × Phase} (visits : Visits world index phase next)
    (kept : world.Later next.1) (knows : world.Knows index phase) {other : Nat} {sibling : Phase}
    {second : LockProcess} (differs : index ≠ other) (alive : world.live other = some second)
    (otherKnows : world.Knows other sibling) (keeps : world.Keeps other sibling)
    (responsible : sibling.responsible = true) :
    next.1.Keeps other sibling ∧ next.2.responsible = false := by
  cases visits with
  | leaves same free => exact ⟨keeps.kept kept same, free⟩
  | makes absent =>
    obtain ⟨dir, isDir, -⟩ := keeps
    rw [absent] at isDir
    cases isDir
  | renames name target renamed own free =>
    refine ⟨keeps.renamed kept renamed ?_, free⟩
    rintro reclaim claim rfl rfl
    exact differs (some.inj ((own claim rfl).symm.trans otherKnows.2))
  | wins reclaim found claim same reads drops isFound =>
    subst reads
    exact absurd (keeps.wins alive responsible otherKnows knows.2.1 knows.2.2 isFound).symm differs

theorem Guarded.fileStep (guarded : world.Guarded) (informed : world.Informed)
    (alive : world.live index = some process) :
    (world.fileStep index process fails answers).Guarded := by
  have recorded : world.Records index process (world.operates index process fails answers).1 :=
    records_operates
  have isPhase : world.phaseOf index = some process.phase :=
    phaseOf_eq_some.mpr ⟨process, alive, rfl⟩
  have aliveAfter : (world.operates index process fails answers).1.live index = some process := by
    rw [recorded.live, alive]
  have knows := informed.knows index _ isPhase
  have phaseAfter (other : Nat) (differs : index ≠ other) :
      (world.fileStep index process fails answers).phaseOf other = world.phaseOf other := by
    rw [World.fileStep, phaseOf_goes_other differs, phaseOf, recorded.live, phaseOf]
  have ownAfter : (world.fileStep index process fails answers).phaseOf index =
      some (world.operates index process fails answers).2 := phaseOf_goes_self aliveAfter
  have answered : Answers index (world.operates index process fails answers) := by
    cases responsible : process.phase.responsible with
    | true => exact answers_operates (guarded.keeps index _ isPhase responsible) responsible
    | false => exact (visits_operates knows responsible).answered guarded.few
  have others (other : Nat) (sibling : Phase) (differs : index ≠ other)
      (isSibling : world.phaseOf other = some sibling) (responsible : sibling.responsible = true) :
      (world.operates index process fails answers).1.Keeps other sibling ∧
        (world.operates index process fails answers).2.responsible = false := by
    cases own : process.phase.responsible with
    | true => exact absurd (guarded.sole index other _ _ isPhase isSibling own responsible) differs
    | false =>
      obtain ⟨second, lives, -⟩ := phaseOf_eq_some.mp isSibling
      exact (visits_operates knows own).others recorded.isLater knows differs lives
        (informed.knows other sibling isSibling) (guarded.keeps other sibling isSibling responsible)
        responsible
  refine ⟨answered.few, fun other phase next responsible => ?_,
    fun first second one two isFirst isSecond firstResponsible secondResponsible => ?_⟩
  · rcases eq_or_ne index other with rfl | differs
    · obtain rfl := mem_unique ownAfter next
      exact (answered.keeps responsible).kept later_goes rfl
    · rw [phaseAfter other differs] at next
      exact (others other phase differs next responsible).1.kept later_goes rfl
  · rcases eq_or_ne index first with rfl | differs
    · rcases eq_or_ne index second with rfl | differs
      · rfl
      rw [phaseAfter second differs] at isSecond
      obtain rfl := mem_unique ownAfter isFirst
      rw [(others second two differs isSecond secondResponsible).2] at firstResponsible
      cases firstResponsible
    rw [phaseAfter first differs] at isFirst
    rcases eq_or_ne index second with rfl | differsToo
    · obtain rfl := mem_unique ownAfter isSecond
      rw [(others first one differs isFirst firstResponsible).2] at secondResponsible
      cases secondResponsible
    · rw [phaseAfter second differsToo] at isSecond
      exact guarded.sole first second one two isFirst isSecond firstResponsible secondResponsible

theorem Quiet.responsible (quiet : world.Quiet later) (next : later.phaseOf index = some phase)
    (responsible : phase.responsible = true) : world.phaseOf index = some phase := by
  rcases quiet.phases index phase next with same | rfl | rfl | ⟨nonce, -, rfl⟩
  · exact same
  all_goals cases responsible

theorem Guarded.quiet (guarded : world.Guarded) (quiet : world.Quiet later) : later.Guarded where
  few dir isDir := guarded.few dir (quiet.guardDir.symm.trans isDir)
  keeps index phase next responsible :=
    (guarded.keeps index phase (quiet.responsible next responsible) responsible).kept quiet.kept
      quiet.guardDir
  sole first second one two isFirst isSecond firstResponsible secondResponsible :=
    guarded.sole first second one two (quiet.responsible isFirst firstResponsible)
      (quiet.responsible isSecond secondResponsible) firstResponsible secondResponsible

theorem guarded_reachable (reachable : lockMachine.Reachable world) : world.Guarded := by
  apply reachable.induction_reachable
  · refine ⟨fun dir isDir => ?_, fun index phase next => ?_, fun index other phase sibling next =>
      ?_⟩
    · cases isDir
    · cases next
    · cases next
  intro world input reachable guarded
  rcases world.quiet_or_fileStep input with
    quiet | ⟨index, process, fails, answers, rfl, alive, same⟩
  · exact guarded.quiet quiet
  · have next : lockMachine.next world (.fileStep index fails answers) = _ := same
    rw [next]
    exact guarded.fileStep (informed_reachable reachable) alive

end World

/-- In every run at most one process has the guard, whatever fails, crashes or stalls: while it
does, the guard lies there, and the one record that can be in it is its own. -/
theorem guard_exclusive (inputs : List LockInput) : (lockMachine.run inputs).Guarded :=
  World.guarded_reachable (lockMachine.reachable_run inputs)

end Adhdev.OwnedLock
