import Adhdev.Foundation.Frontier
import Adhdev.StagePipeline.Reducer
import Adhdev.TaskQueue.QueueInvariants

/-! # The cascade after a failed task

Under the `cancel` policy a failed task cancels the pending tasks that wait for it,
and those that wait for them. The pending rows are read again for each task of the
frontier. A terminal commit is refused while the attempt of its row is stopping; the
cascade goes on from such a row all the same.
-/

namespace Adhdev.TaskQueue

open Call StagePipeline List

section ReviewInTask

def stageBlockOverwritingStatuses : List TaskStatus := [.completed, .failed]

/-- `stageState` gives the stage state of the rows that have a stage plan. -/
def isStageBlockLocked (stageState : MeshWorkQueueEntry → Option MeshTaskStageState)
    (entry : MeshWorkQueueEntry) (status : TaskStatus) : Bool :=
  stageBlockOverwritingStatuses.contains status &&
    (stageState entry).any fun state =>
      entry.status = .blocked && state.released && state.blockedReason.isSome

def shouldHoldStageTerminal (stageState : MeshWorkQueueEntry → Option MeshTaskStageState)
    (entry : MeshWorkQueueEntry) (status : TaskStatus) : Bool :=
  status = .completed && (stageState entry).any fun state => !state.released && state.phase ≠ .done

def reviewInTask (stageState : MeshWorkQueueEntry → Option MeshTaskStageState) : StageServices where
  isStageBlockLocked := isStageBlockLocked stageState
  shouldHoldStageTerminal := shouldHoldStageTerminal stageState
  persistOutputVersion := .ok ()

end ReviewInTask

section Cascade

inductive DependencyFailurePolicy
  | block | cancel
  deriving DecidableEq

structure CancelledDependent where
  task : MeshWorkQueueEntry
  cancelReason : String

/-- `frontier` and `seen` hold what came last first, `cancelled` what came first. -/
structure CancelCascade where
  frontier : List String
  seen : List String
  cancelled : List CancelledDependent

variable (services : Services) (stageState : MeshWorkQueueEntry → Option MeshTaskStageState)

def cancelDependent (currentId : String) (cascade : CancelCascade)
    (dependent : MeshWorkQueueEntry) : Call QueueStore String CancelCascade :=
  if dependent.id ∈ cascade.seen then answer cascade
  else do
    updateQueueEntry services dependent
    commitTaskTerminal services (reviewInTask stageState) ⟨dependent.id, .cancelled, false⟩
    let committed ← inspect (·.findQueueEntryById dependent.id)
    pure {
      frontier := dependent.id :: cascade.frontier
      seen := dependent.id :: cascade.seen
      cancelled := cascade.cancelled ++
        [⟨committed.getD dependent, s!"dependency_failed:{currentId}"⟩] }

def cancelDependents (currentId : String) :
    List MeshWorkQueueEntry → CancelCascade → Call QueueStore String CancelCascade
  | [], cascade => answer cascade
  | dependent :: dependents, cascade => do
      let cascade ← cancelDependent services stageState currentId cascade dependent
      cancelDependents currentId dependents cascade

def pendingDependents (currentId : String) (store : QueueStore) : List MeshWorkQueueEntry :=
  (store.rows.filter fun row => row.status = .pending).filter fun entry =>
    entry.dependsOn.contains currentId

/-- The rounds of the loop; `none` when `fuel` rounds are not enough. -/
def cancelRounds : Nat → CancelCascade → Call QueueStore String (Option (List CancelledDependent))
  | _, ⟨[], _, cancelled⟩ => answer (some cancelled)
  | 0, ⟨_ :: _, _, _⟩ => answer none
  | fuel + 1, ⟨currentId :: frontier, seen, cancelled⟩ => do
      let dependents ← inspect (pendingDependents currentId)
      let cascade ← cancelDependents services stageState currentId dependents
        ⟨frontier, seen, cancelled⟩
      cancelRounds fuel cascade

def propagateDependencyFailure (policy : DependencyFailurePolicy) (fuel : Nat)
    (failedTaskId : String) : Call QueueStore String (Option (List CancelledDependent)) :=
  if policy ≠ .cancel then answer (some [])
  else cancelRounds services stageState fuel ⟨[failedTaskId], [failedTaskId], []⟩

end Cascade

section Effects

variable {services : Services} {stageState : MeshWorkQueueEntry → Option MeshTaskStageState}
variable {store : QueueStore} {row : MeshWorkQueueEntry}

def cancelRow (services : Services) (row : MeshWorkQueueEntry) : MeshWorkQueueEntry :=
  if services.latestAttemptStopping row.id then { row with revision := row.revision + 1 }
  else { row with status := .cancelled, revision := row.revision + 2 }

def cascaded (services : Services) (ids : List String) (row : MeshWorkQueueEntry) :
    MeshWorkQueueEntry :=
  if row.id ∈ ids then cancelRow services row else row

@[simp] theorem cancelRow_id : (cancelRow services row).id = row.id := by
  rw [cancelRow]
  split <;> rfl

@[simp] theorem cascaded_id {ids : List String} : (cascaded services ids row).id = row.id := by
  rw [cascaded]
  split
  · exact cancelRow_id
  · rfl

theorem find_map {rows : List MeshWorkQueueEntry} {change : MeshWorkQueueEntry → MeshWorkQueueEntry}
    (keeps : ∀ row, (change row).id = row.id) (id : String) :
    (QueueStore.mk (rows.map change)).findQueueEntryById id =
      ((QueueStore.mk rows).findQueueEntryById id).map change := by
  simp only [QueueStore.findQueueEntryById, find?_map]
  congr 2
  funext row
  simp only [Function.comp_apply, keeps]

theorem find_of_distinct (distinct : (store.rows.map (·.id)).Nodup) (member : row ∈ store.rows) :
    store.findQueueEntryById row.id = some row := by
  cases found : store.findQueueEntryById row.id with
  | none =>
    rw [QueueStore.findQueueEntryById, find?_eq_none] at found
    exact absurd (beq_self_eq_true row.id) (found row member)
  | some other =>
    obtain ⟨present, same⟩ := mem_of_find found
    exact congrArg some (inj_on_of_nodup_map distinct present member same)

theorem updateQueueEntry_of_kept {persisted entry : MeshWorkQueueEntry}
    (found : store.findQueueEntryById entry.id = some persisted)
    (free : services.latestAttemptStopping entry.id = true → rebinds persisted entry = false)
    (stays : movesInGraph (some persisted) entry = false) : updateQueueEntry services entry store =
      (.ok (), store.replace { entry with revision := persisted.revision + 1 }) := by
  rw [updated_iff, found]
  refine ⟨?_, ?_, by simp⟩
  · rintro ⟨stopping, rebound⟩
    rw [Option.any_some, free stopping] at rebound
    cases rebound
  intro moves
  rw [stays] at moves
  cases moves

theorem find_replace {entry persisted : MeshWorkQueueEntry}
    (found : store.findQueueEntryById entry.id = some persisted) :
    (store.replace entry).findQueueEntryById entry.id = some entry := by
  have keeps : ∀ row : MeshWorkQueueEntry,
      (if row.id = entry.id then entry else row).id = row.id := by
    intro row
    split
    · next same => exact same.symm
    · rfl
  have same := (mem_of_find found).2
  cases store with
  | mk rows =>
    rw [QueueStore.replace, find_map keeps, found]
    simp [same]

theorem commitTaskTerminal_cancelled (found : store.findQueueEntryById row.id = some row)
    (pending : row.status = .pending) :
    commitTaskTerminal services (reviewInTask stageState) ⟨row.id, .cancelled, false⟩ store =
      (.ok (), if services.latestAttemptStopping row.id then store
        else store.replace { row with status := .cancelled, revision := row.revision + 1 }) := by
  have alive : row.status ≠ .cancelled := by simp [pending]
  have unlocked : isStageBlockLocked stageState row .cancelled = false := by
    simp [isStageBlockLocked, stageBlockOverwritingStatuses]
  have unheld : shouldHoldStageTerminal stageState row .cancelled = false := by
    simp [shouldHoldStageTerminal]
  rw [commitTaskTerminal, transaction_ok_iff, bind_eq, andThen_ok_iff]
  refine ⟨some row, store, ?_, ?_⟩
  · rw [inspect_ok_iff]
    exact ⟨found.symm, rfl⟩
  cases stopping : services.latestAttemptStopping row.id with
  | true => simp [answer]
  | false =>
    dsimp only
    rw [if_neg (by simp [alive, reviewInTask, unlocked, unheld]), bind_eq, andThen_ok_iff]
    refine ⟨(), store, ofExcept_ok_iff.mpr ⟨rfl, rfl⟩, ?_⟩
    exact updateQueueEntry_of_kept found (fun held => by simp [stopping] at held)
      (by simp [movesInGraph])

end Effects

section Marking

variable {services : Services} {stageState : MeshWorkQueueEntry → Option MeshTaskStageState}
variable {initial : List MeshWorkQueueEntry} {failedTaskId currentId : String}
variable {cascade : CancelCascade} {store : QueueStore} {row : MeshWorkQueueEntry}

def taskIds (cancelled : List CancelledDependent) : List String := cancelled.map (·.task.id)

def CancelCascade.search (cascade : CancelCascade) : Search String :=
  ⟨cascade.frontier, cascade.seen⟩

structure Cascading (services : Services) (initial : List MeshWorkQueueEntry)
    (failedTaskId : String) (cascade : CancelCascade) (store : QueueStore) : Prop where
  rows : store.rows = initial.map (cascaded services (taskIds cascade.cancelled))
  seen : cascade.seen = (taskIds cascade.cancelled).reverse ++ [failedTaskId]

theorem Cascading.untouched (cascading : Cascading services initial failedTaskId cascade store)
    (fresh : row.id ∉ cascade.seen) : cascaded services (taskIds cascade.cancelled) row = row := by
  have unlisted : row.id ∉ taskIds cascade.cancelled := by
    rw [cascading.seen] at fresh
    exact fun listed => fresh (mem_append_left _ (mem_reverse.mpr listed))
  rw [cascaded, if_neg unlisted]

theorem Cascading.find (distinct : (initial.map (·.id)).Nodup) (member : row ∈ initial)
    (cascading : Cascading services initial failedTaskId cascade store)
    (fresh : row.id ∉ cascade.seen) : store.findQueueEntryById row.id = some row := by
  have store_eq : store = ⟨initial.map (cascaded services (taskIds cascade.cancelled))⟩ := by
    rw [← cascading.rows]
  rw [store_eq, find_map fun _ => cascaded_id,
    @find_of_distinct ⟨initial⟩ _ distinct member, Option.map_some,
    cascading.untouched fresh]

theorem cascaded_snoc (distinct : (initial.map (·.id)).Nodup) (member : row ∈ initial)
    {ids : List String} {written : MeshWorkQueueEntry}
    (written_eq : written = cancelRow services row) :
    (QueueStore.mk (initial.map (cascaded services ids))).replace written =
      ⟨initial.map (cascaded services (ids ++ [row.id]))⟩ := by
  have written_id : written.id = row.id := by rw [written_eq, cancelRow_id]
  rw [QueueStore.replace, map_map]
  congr 1
  refine map_congr_left fun other present => ?_
  simp only [Function.comp_apply, cascaded_id, written_id]
  by_cases same : other.id = row.id
  · have equal : other = row := inj_on_of_nodup_map distinct present member same
    rw [if_pos same, written_eq, cascaded, if_pos (by simp [same]), equal]
  · rw [if_neg same, cascaded, cascaded]
    simp [same]

theorem replace_replace {entry later : MeshWorkQueueEntry} (same : later.id = entry.id) :
    (store.replace entry).replace later = store.replace later := by
  rw [QueueStore.replace, QueueStore.replace, QueueStore.replace, map_map]
  congr 1
  refine map_congr_left fun row _ => ?_
  by_cases named : row.id = entry.id <;> simp [named, same]

theorem cancelDependent_marks (distinct : (initial.map (·.id)).Nodup)
    (cascading : Cascading services initial failedTaskId cascade store)
    (listed : row.id ∉ cascade.seen → row ∈ initial ∧ row.status = .pending) :
    ∃ after later, cancelDependent services stageState currentId cascade row store =
        (.ok after, later) ∧ Cascading services initial failedTaskId after later ∧
      after.search = cascade.search.mark row.id := by
  by_cases known : row.id ∈ cascade.seen
  · refine ⟨cascade, store, ?_, cascading, ?_⟩
    · rw [cancelDependent, if_pos known]
      rfl
    · exact (if_pos known).symm
  obtain ⟨member, pending⟩ := listed known
  have found := cascading.find distinct member known
  let bumped : MeshWorkQueueEntry := { row with revision := row.revision + 1 }
  have first : updateQueueEntry services row store = (.ok (), store.replace bumped) :=
    updateQueueEntry_of_kept found (fun _ => by simp [rebinds]) (by simp [movesInGraph])
  have reread : (store.replace bumped).findQueueEntryById bumped.id = some bumped :=
    @find_replace _ bumped _ found
  have second := @commitTaskTerminal_cancelled services stageState _ _ reread pending
  have written : (if services.latestAttemptStopping bumped.id then store.replace bumped
      else (store.replace bumped).replace
        { bumped with status := .cancelled, revision := bumped.revision + 1 }) =
      store.replace (cancelRow services row) := by
    rw [cancelRow]
    by_cases stopping : services.latestAttemptStopping row.id = true
    · rw [if_pos stopping, if_pos stopping]
    · rw [if_neg stopping, if_neg stopping]
      exact replace_replace rfl
  rw [written] at second
  have settled : store.replace (cancelRow services row) =
      ⟨initial.map (cascaded services (taskIds cascade.cancelled ++ [row.id]))⟩ := by
    rw [← cascaded_snoc distinct member rfl, ← cascading.rows]
  have committed : (store.replace (cancelRow services row)).findQueueEntryById row.id =
      some (cancelRow services row) := by
    have replaced := @find_replace store (cancelRow services row) row
      (by rw [cancelRow_id]; exact found)
    rwa [cancelRow_id] at replaced
  refine ⟨⟨row.id :: cascade.frontier, row.id :: cascade.seen, cascade.cancelled ++
    [⟨cancelRow services row, s!"dependency_failed:{currentId}"⟩]⟩,
    store.replace (cancelRow services row), ?_, ⟨?_, ?_⟩, ?_⟩
  · rw [cancelDependent, if_neg known]
    simp only [bind_eq, pure_eq, andThen_ok_iff, inspect_ok_iff, answer_ok_iff]
    exact ⟨(), _, first, (), _, second, _, _, ⟨rfl, rfl⟩, by rw [committed]; rfl, rfl⟩
  · rw [settled]
    simp [taskIds]
  · rw [cascading.seen]
    simp [taskIds]
  · exact (if_neg known).symm

theorem cancelDependents_marks (distinct : (initial.map (·.id)).Nodup)
    {dependents : List MeshWorkQueueEntry}
    (cascading : Cascading services initial failedTaskId cascade store)
    (listed : ∀ row ∈ dependents, row.id ∉ cascade.seen → row ∈ initial ∧ row.status = .pending) :
    ∃ after later, cancelDependents services stageState currentId dependents cascade store =
        (.ok after, later) ∧ Cascading services initial failedTaskId after later ∧
      after.search = (dependents.map (·.id)).foldl Search.mark cascade.search := by
  induction dependents generalizing cascade store with
  | nil => exact ⟨cascade, store, rfl, cascading, rfl⟩
  | cons row dependents induction =>
    obtain ⟨middle, between, called, marked, search⟩ :=
      @cancelDependent_marks _ stageState _ _ currentId _ _ _ distinct cascading
        (listed row mem_cons_self)
    have seen : middle.seen = (cascade.search.mark row.id).found := by rw [← search]; rfl
    have rest : ∀ other ∈ dependents, other.id ∉ middle.seen →
        other ∈ initial ∧ other.status = .pending := by
      intro other member fresh
      refine listed other (.tail _ member) fun known => fresh ?_
      rw [seen]
      exact (@Search.mem_found_foldl _ _ _ [row.id] _).mpr (.inl known)
    obtain ⟨after, later, calledRest, markedRest, searchRest⟩ := induction marked rest
    refine ⟨after, later, ?_, markedRest, ?_⟩
    · rw [cancelDependents, bind_eq, andThen_ok_iff]
      exact ⟨middle, between, called, calledRest⟩
    · rw [searchRest, search, map_cons, foldl_cons]

end Marking

section Exactness

variable {services : Services} {stageState : MeshWorkQueueEntry → Option MeshTaskStageState}
variable {initial : List MeshWorkQueueEntry} {failedTaskId currentId : String}
variable {cascade : CancelCascade} {store : QueueStore} {row : MeshWorkQueueEntry}

/-- A pending row names the task among those it waits for. -/
def Awaits (rows : List MeshWorkQueueEntry) (id other : String) : Prop :=
  ∃ row ∈ rows, row.status = .pending ∧ row.id = id ∧ other ∈ row.dependsOn

structure FailsWith (rows : List MeshWorkQueueEntry) (failedTaskId : String)
    (row : MeshWorkQueueEntry) : Prop where
  listed : row ∈ rows
  pending : row.status = .pending
  other : row.id ≠ failedTaskId
  path : Relation.TransGen (Awaits rows) row.id failedTaskId

def dependentIds (rows : List MeshWorkQueueEntry) (currentId : String) : List String :=
  (pendingDependents currentId ⟨rows⟩).map (·.id)

theorem mem_pendingDependents : row ∈ pendingDependents currentId store ↔
      row ∈ store.rows ∧ row.status = .pending ∧ currentId ∈ row.dependsOn := by
  simp only [pendingDependents, mem_filter, decide_eq_true_eq, contains_iff_mem, and_assoc]

theorem steps_iff_awaits {id : String} :
    Search.Steps (dependentIds initial) currentId id ↔ Awaits initial id currentId := by
  simp only [Search.Steps, dependentIds, mem_map, mem_pendingDependents, Awaits]
  tauto

section

variable (cascading : Cascading services initial failedTaskId cascade store)
include cascading

theorem Cascading.listed (member : row ∈ pendingDependents currentId store) : row.id ∈ cascade.seen
    ∨ row ∈ pendingDependents currentId ⟨initial⟩ := by
  obtain ⟨present, pending, waits⟩ := mem_pendingDependents.mp member
  rw [cascading.rows] at present
  obtain ⟨origin, original, rfl⟩ := mem_map.mp present
  rw [cascaded_id]
  by_cases known : origin.id ∈ cascade.seen
  · exact .inl known
  · rw [cascading.untouched known] at pending waits ⊢
    exact .inr (mem_pendingDependents.mpr ⟨original, pending, waits⟩)

theorem Cascading.reread (member : row ∈ pendingDependents currentId ⟨initial⟩) : row.id ∈
    cascade.seen ∨ row ∈ pendingDependents currentId store := by
  obtain ⟨present, pending, waits⟩ := mem_pendingDependents.mp member
  by_cases known : row.id ∈ cascade.seen
  · exact .inl known
  have kept : row ∈ store.rows := by
    rw [cascading.rows]
    exact mem_map.mpr ⟨row, present, cascading.untouched known⟩
  exact .inr (mem_pendingDependents.mpr ⟨kept, pending, waits⟩)

end

theorem cancelRounds_exact (distinct : (initial.map (·.id)).Nodup) {fuel : Nat}
    (cascading : Cascading services initial failedTaskId cascade store)
    (explored : Search.Explored (dependentIds initial) failedTaskId cascade.search)
    (enough : cascade.search.remaining (initial.map (·.id)) ≤ fuel) :
    ∃ cancelled, cancelRounds services stageState fuel cascade store =
        (.ok (some cancelled), ⟨initial.map (cascaded services (taskIds cancelled))⟩) ∧
      Search.Explored (dependentIds initial) failedTaskId
        ⟨[], (taskIds cancelled).reverse ++ [failedTaskId]⟩ := by
  induction fuel generalizing cascade store with
  | zero =>
    cases cascade with
    | mk frontier seen cancelled =>
      cases frontier with
      | nil => exact ⟨cancelled, by rw [← cascading.rows]; rfl, cascading.seen ▸ explored⟩
      | cons currentId frontier => simp [Search.remaining, CancelCascade.search] at enough
  | succ fuel induction =>
    cases cascade with
    | mk frontier seen cancelled =>
      cases frontier with
      | nil => exact ⟨cancelled, by rw [← cascading.rows]; rfl, cascading.seen ▸ explored⟩
      | cons currentId frontier =>
        let popped : CancelCascade := ⟨frontier, seen, cancelled⟩
        have started : Cascading services initial failedTaskId popped store :=
          ⟨cascading.rows, cascading.seen⟩
        obtain ⟨after, later, called, marked, search⟩ :=
          @cancelDependents_marks _ stageState _ _ currentId _ _ distinct
            (pendingDependents currentId store) started fun row member fresh => by
              have read := (started.listed member).resolve_left fresh
              exact ⟨(mem_pendingDependents.mp read).1, (mem_pendingDependents.mp read).2.1⟩
        have further : Search.Explored (dependentIds initial) failedTaskId after.search := by
          rw [search]
          refine explored.expand (fun id member => ?_) (fun id member => ?_)
          · obtain ⟨row, read, rfl⟩ := mem_map.mp member
            exact (started.listed read).imp_right fun read => mem_map_of_mem read
          · obtain ⟨row, read, rfl⟩ := mem_map.mp member
            exact (started.reread read).imp_right fun read => mem_map_of_mem read
        have fewer : after.search.remaining (initial.map (·.id)) ≤ fuel := by
          rw [search]
          refine Nat.le_trans (Search.remaining_foldl fun id member => ?_) ?_
          · obtain ⟨row, read, rfl⟩ := mem_map.mp member
            have present := (mem_pendingDependents.mp read).1
            rw [cascading.rows] at present
            obtain ⟨origin, original, rfl⟩ := mem_map.mp present
            rw [cascaded_id]
            exact mem_map_of_mem original
          · have popping := Search.remaining_pop (initial.map (·.id)) currentId frontier seen
            exact Nat.le_of_succ_le_succ (Nat.le_trans (Nat.le_of_eq popping.symm) enough)
        obtain ⟨all, rest, complete⟩ := induction marked further fewer
        refine ⟨all, ?_, complete⟩
        rw [cancelRounds, bind_eq, andThen_ok_iff]
        refine ⟨_, store, inspect_ok_iff.mpr ⟨rfl, rfl⟩, ?_⟩
        rw [bind_eq, andThen_ok_iff]
        exact ⟨after, later, called, rest⟩

theorem mem_cancelled_iff {ids : List String}
    (explored : Search.Explored (dependentIds initial) failedTaskId
      ⟨[], ids.reverse ++ [failedTaskId]⟩) (id : String) :
    id ∈ ids ↔ ∃ row, FailsWith initial failedTaskId row ∧ row.id = id := by
  have reachable := @Search.Explored.mem_found_iff _ _ _ _ explored id
  have apart : failedTaskId ∉ ids := by
    have nodup := (nodup_append.mp explored.distinct).2.2
    exact fun member => nodup _ (mem_reverse.mpr member) _ (.head _) rfl
  have swapped : Relation.ReflTransGen (Search.Steps (dependentIds initial)) failedTaskId id ↔
      Relation.ReflTransGen (Awaits initial) id failedTaskId := by
    rw [← Relation.reflTransGen_swap]
    have same : Function.swap (Search.Steps (dependentIds initial)) = Awaits initial := by
      funext one other
      exact propext steps_iff_awaits
    rw [same]
  rw [mem_append, mem_reverse, mem_singleton, swapped] at reachable
  constructor
  · intro member
    have other : id ≠ failedTaskId := fun equal => apart (equal ▸ member)
    have reached := Relation.reflTransGen_iff_eq_or_transGen.mp (reachable.mp (.inl member))
    have path := reached.resolve_left fun equal => other equal.symm
    obtain ⟨_, ⟨row, listed, pending, rfl, _⟩, _⟩ := Relation.TransGen.head'_iff.mp path
    exact ⟨row, ⟨listed, pending, other, path⟩, rfl⟩
  · rintro ⟨row, fails, rfl⟩
    exact (reachable.mpr fails.path.to_reflTransGen).resolve_right fails.other

theorem cascaded_cancelled_iff (distinct : (initial.map (·.id)).Nodup) {ids : List String}
    (listed : ∀ id, id ∈ ids ↔ ∃ row, FailsWith initial failedTaskId row ∧ row.id = id)
    (member : row ∈ initial) :
    ((cascaded services ids row).status = .cancelled ∧ row.status ≠ .cancelled) ↔
      FailsWith initial failedTaskId row ∧ services.latestAttemptStopping row.id = false := by
  have own : row.id ∈ ids ↔ FailsWith initial failedTaskId row := by
    rw [listed]
    constructor
    · rintro ⟨other, fails, same⟩
      exact inj_on_of_nodup_map distinct fails.listed member same ▸ fails
    · exact fun fails => ⟨row, fails, rfl⟩
  rw [cascaded, ← own]
  by_cases reached : row.id ∈ ids
  · have pending := (own.mp reached).pending
    rw [if_pos reached, cancelRow]
    cases services.latestAttemptStopping row.id <;> simp [pending, reached]
  rw [if_neg reached]
  simp only [reached, false_and, iff_false, not_and, not_not]
  exact id

/-- Under `cancel` the cascade ends, commits no task twice, and cancels the pending tasks that
fail with the task, except those whose attempt is stopping. -/
theorem propagateDependencyFailure_exact (distinct : (store.rows.map (·.id)).Nodup)
    (fuel : Nat) (enough : store.rows.length < fuel) (failedTaskId : String) : ∃ cancelled,
      propagateDependencyFailure services stageState .cancel fuel failedTaskId store =
        (.ok (some cancelled), ⟨store.rows.map (cascaded services (taskIds cancelled))⟩) ∧
      (taskIds cancelled).Nodup ∧
      (∀ id, id ∈ taskIds cancelled ↔ ∃ row, FailsWith store.rows failedTaskId row ∧ row.id = id) ∧
      ∀ row ∈ store.rows,
        ((cascaded services (taskIds cancelled) row).status = .cancelled ∧
            row.status ≠ .cancelled) ↔
          FailsWith store.rows failedTaskId row ∧
            services.latestAttemptStopping row.id = false := by
  let opening : CancelCascade := ⟨[failedTaskId], [failedTaskId], []⟩
  have cascading : Cascading services store.rows failedTaskId opening store :=
    ⟨(List.map_id store.rows).symm, rfl⟩
  have budget : opening.search.remaining (store.rows.map (·.id)) ≤ fuel := by
    have few := Search.remaining_start_le (store.rows.map (·.id)) failedTaskId
    rw [List.length_map] at few
    exact Nat.le_trans few enough
  obtain ⟨cancelled, called, explored⟩ := @cancelRounds_exact services stageState _ _ _ _ distinct
    fuel cascading (Search.explored_start failedTaskId) budget
  have listed := mem_cancelled_iff explored
  refine ⟨cancelled, ?_, ?_, listed, fun row member =>
    cascaded_cancelled_iff distinct listed member⟩
  · rw [propagateDependencyFailure, if_neg (by simp)]
    exact called
  · exact List.nodup_reverse.mp (List.nodup_append.mp explored.distinct).1

def legacyRow (id : String) (status : TaskStatus) (dependsOn : List String) :
    MeshWorkQueueEntry where
  id := id
  phase := none
  dependsOn := dependsOn
  message := "work"
  status := status
  difficulty := "easy"

/-- Two tasks that wait for each other, one of them for the failed task. -/
def cyclicQueue : QueueStore where
  rows := [legacyRow "failed" .failed [], legacyRow "first" .pending ["failed", "second"],
    legacyRow "second" .pending ["first"], legacyRow "stopping" .pending ["second"],
    legacyRow "behind" .pending ["stopping"], legacyRow "apart" .pending ["assigned"],
    legacyRow "assigned" .assigned ["failed"]]

def stoppingServices : Services :=
  { willing with latestAttemptStopping := fun id => id = "stopping" }

theorem propagateDependencyFailure_exact_cyclic : ∃ cancelled,
    propagateDependencyFailure stoppingServices (fun _ => none) .cancel 8 "failed" cyclicQueue =
      (.ok (some cancelled),
        ⟨cyclicQueue.rows.map (cascaded stoppingServices (taskIds cancelled))⟩) ∧
    (taskIds cancelled).Nodup ∧
    (∀ id, id ∈ taskIds cancelled ↔
      ∃ row, FailsWith cyclicQueue.rows "failed" row ∧ row.id = id) ∧
    ∀ row ∈ cyclicQueue.rows,
      ((cascaded stoppingServices (taskIds cancelled) row).status = .cancelled ∧
          row.status ≠ .cancelled) ↔
        FailsWith cyclicQueue.rows "failed" row ∧
          stoppingServices.latestAttemptStopping row.id = false :=
  propagateDependencyFailure_exact (by decide) 8 (by decide) "failed"

end Exactness

end Adhdev.TaskQueue
