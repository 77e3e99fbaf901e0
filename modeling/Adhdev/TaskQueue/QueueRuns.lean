import Adhdev.Foundation.Machine
import Adhdev.TaskQueue.Claim

/-! # Runs of the queue

Every call is traceless, and what each call leaves of the dependency graph is one of
three changes: a row more, a row replaced, a phase attested.
-/

namespace Adhdev.TaskQueue

open Call List QueueStore

inductive QueueCall
  | enqueueTask (owner : QueueOwner) (message : String) (options : EnqueueOptions)
  | enqueueTaskBatch (owner : QueueOwner) (specs : List MeshTaskBatchEntrySpec)
  | recordDirectDispatchTask (message : String) (options : DirectDispatchOptions)
      (attested : Option (PhysicalOwnershipScope × TaskPhase))
  | revisePendingTask (taskId : String) (expectedRevision : Nat)
      (patch : PendingTaskRevisionPatch) (host : TaskRevisionHostContext)
  | claimNextQueueTask (claiming : ClaimServices) (request : ClaimRequest)
  | updateQueueEntry (entry : MeshWorkQueueEntry)
  | commitTaskTerminal (stage : StageServices) (terminal : MeshTerminalCommitInput)

structure QueueInput where
  services : Services
  call : QueueCall

def ignoring {α : Type} (call : Call QueueStore String α) : Call QueueStore String Unit :=
  call.andThen fun _ => answer ()

def QueueInput.perform (input : QueueInput) : Call QueueStore String Unit :=
  match input.call with
  | .enqueueTask owner message options =>
    ignoring (TaskQueue.enqueueTask input.services owner message options)
  | .enqueueTaskBatch owner specs =>
    ignoring (TaskQueue.enqueueTaskBatch input.services owner specs)
  | .recordDirectDispatchTask message options attested =>
    ignoring (TaskQueue.recordDirectDispatchTask input.services message options attested)
  | .revisePendingTask taskId expectedRevision patch host =>
    ignoring (TaskQueue.revisePendingTask input.services taskId expectedRevision patch host)
  | .claimNextQueueTask claiming request =>
    ignoring (TaskQueue.claimNextQueueTask input.services claiming request)
  | .updateQueueEntry entry => TaskQueue.updateQueueEntry input.services entry
  | .commitTaskTerminal stage terminal => TaskQueue.commitTaskTerminal input.services stage terminal

def queueMachine : Machine QueueStore QueueInput (Except String Unit × QueueStore) where
  initial := ⟨[]⟩
  respond store input := input.perform store
  advance := Prod.snd

section Traceless

variable (services : Services)

theorem storeNewTask_traceless (entry : MeshWorkQueueEntry) :
    Traceless (storeNewTask services entry) := traceless_transaction _

theorem enqueueTask_traceless (owner : QueueOwner) (message : String) (options : EnqueueOptions) :
    Traceless (enqueueTask services owner message options) :=
  .after (readOnly_ofExcept _) fun _ =>
    .after (readOnly_ofExcept _) fun entry => storeNewTask_traceless services entry

theorem enqueueTaskBatch_traceless (owner : QueueOwner) (specs : List MeshTaskBatchEntrySpec) :
    Traceless (enqueueTaskBatch services owner specs) :=
  .after (readOnly_ofExcept _) fun _ =>
    .after (readOnly_failIf _ _) fun _ =>
      .after (readOnly_failIf _ _) fun _ =>
        .after (readOnly_ofExcept _) fun _ => traceless_transaction _

theorem recordDirectDispatchTask_traceless (message : String) (options : DirectDispatchOptions)
    (attested : Option (PhysicalOwnershipScope × TaskPhase)) :
    Traceless (recordDirectDispatchTask services message options attested) := by
  rw [recordDirectDispatchTask]
  split
  · exact (readOnly_answer _).traceless
  · exact .after (readOnly_ofExcept _) fun _ => traceless_transaction _

theorem revisePendingTask_traceless (taskId : String) (expectedRevision : Nat)
    (patch : PendingTaskRevisionPatch) (host : TaskRevisionHostContext) :
    Traceless (revisePendingTask services taskId expectedRevision patch host) :=
  .after (readOnly_failIf _ _) fun _ =>
    .after (readOnly_failIf _ _) fun _ => traceless_transaction _

theorem perform_traceless (input : QueueInput) : Traceless input.perform := by
  cases input with
  | mk services call =>
    cases call with
    | enqueueTask owner message options =>
      exact (enqueueTask_traceless services owner message options).answering _
    | enqueueTaskBatch owner specs =>
      exact (enqueueTaskBatch_traceless services owner specs).answering _
    | recordDirectDispatchTask message options attested =>
      exact (recordDirectDispatchTask_traceless services message options attested).answering _
    | revisePendingTask taskId expectedRevision patch host =>
      exact (revisePendingTask_traceless services taskId expectedRevision patch host).answering _
    | claimNextQueueTask claiming request => exact (traceless_transaction _).answering _
    | updateQueueEntry entry | commitTaskTerminal stage terminal => exact traceless_transaction _

end Traceless

section Graph

variable {services : Services} {store later : QueueStore}

theorem graph_append (entry : MeshWorkQueueEntry) :
    (store.append entry).graph = store.graph ++ [entry.toPhaseEntry] := by
  simp [graph, append]

theorem find_isNone {id : String} :
    store.findQueueEntryById id = none ↔ id ∉ store.graph.map PhaseEntry.id := by
  simp [findQueueEntryById, graph]

theorem mem_of_find {id : String} {entry : MeshWorkQueueEntry}
    (found : store.findQueueEntryById id = some entry) : entry ∈ store.rows ∧ entry.id = id :=
  ⟨mem_of_find?_eq_some found, by simpa using find?_some found⟩

theorem mem_graph {entry : MeshWorkQueueEntry} (member : entry ∈ store.rows) :
    entry.toPhaseEntry ∈ store.graph := mem_map_of_mem member

def replaced (rows : List PhaseEntry) (entry : PhaseEntry) : List PhaseEntry :=
  rows.map fun row => if row.id = entry.id then entry else row

theorem graph_replace (entry : MeshWorkQueueEntry) :
    (store.replace entry).graph = replaced store.graph entry.toPhaseEntry := by
  simp only [QueueStore.graph, QueueStore.replace, replaced, map_map]
  refine map_congr_left fun row _ => ?_
  by_cases same : row.id = entry.id <;> simp [same]

theorem map_id_replaced (rows : List PhaseEntry) (entry : PhaseEntry) :
    (replaced rows entry).map PhaseEntry.id = rows.map PhaseEntry.id := by
  simp only [replaced, map_map]
  refine map_congr_left fun row _ => ?_
  by_cases same : row.id = entry.id <;> simp [same]

theorem replaced_eq_self {rows : List PhaseEntry} {entry : PhaseEntry}
    (same : ∀ row ∈ rows, row.id = entry.id → row = entry) : replaced rows entry = rows := by
  rw [replaced]
  conv => rhs; rw [← map_id rows]
  refine map_congr_left fun row member => ?_
  by_cases named : row.id = entry.id
  · simp [same row member named]
  · simp [named]

/-- The graph with `phase` attested for the row `id`. -/
def attested (id : String) (phase : TaskPhase) (row : PhaseEntry) : PhaseEntry :=
  if row.id = id then { row with phase := some phase } else row

@[simp] theorem attested_id (id : String) (phase : TaskPhase) (row : PhaseEntry) :
    (attested id phase row).id = row.id := by
  rw [attested]
  split <;> rfl

@[simp] theorem attested_dependsOn (id : String) (phase : TaskPhase) (row : PhaseEntry) :
    (attested id phase row).dependsOn = row.dependsOn := by
  rw [attested]
  split <;> rfl

theorem map_id_attested (id : String) (phase : TaskPhase) (rows : List PhaseEntry) :
    (rows.map (attested id phase)).map PhaseEntry.id = rows.map PhaseEntry.id := by
  simp [map_map, Function.comp_def]

theorem Acyclic.attested {rows : List PhaseEntry} (acyclic : Acyclic rows)
    (distinct : Distinct rows) (id : String) (phase : TaskPhase) :
    Acyclic (rows.map (attested id phase)) := by
  have apart : ∀ {row other : PhaseEntry}, row ∈ rows → other ∈ rows →
      TaskQueue.attested id phase row = TaskQueue.attested id phase other → row = other := by
    intro row other member otherMember same
    have named := congrArg PhaseEntry.id same
    simp only [attested_id] at named
    exact distinct.eq member otherMember named
  have step : ∀ {row : PhaseEntry} {after : PhaseEntry}, row ∈ rows →
      DependsOn (rows.map (TaskQueue.attested id phase)) (TaskQueue.attested id phase row) after →
      ∃ source ∈ rows, TaskQueue.attested id phase source = after ∧ DependsOn rows row source := by
    rintro row after member ⟨-, present, listed⟩
    obtain ⟨source, sourceMember, rfl⟩ := mem_map.mp present
    simp only [attested_id, attested_dependsOn] at listed
    exact ⟨source, sourceMember, rfl, member, sourceMember, listed⟩
  have walked : ∀ {row : PhaseEntry} {after : PhaseEntry}, row ∈ rows →
      Relation.TransGen (DependsOn (rows.map (TaskQueue.attested id phase)))
        (TaskQueue.attested id phase row) after →
      ∃ source ∈ rows, TaskQueue.attested id phase source = after ∧
        Relation.TransGen (DependsOn rows) row source := by
    intro row after member path
    induction path with
    | single edge =>
      obtain ⟨source, present, same, depends⟩ := step member edge
      exact ⟨source, present, same, .single depends⟩
    | tail _ edge induction =>
      obtain ⟨middle, middleMember, rfl, reached⟩ := induction
      obtain ⟨source, present, same, depends⟩ := step middleMember edge
      exact ⟨source, present, same, reached.tail depends⟩
  intro after cycle
  obtain ⟨other, ⟨present, -, -⟩, -⟩ := Relation.TransGen.head'_iff.mp cycle
  obtain ⟨row, member, rfl⟩ := mem_map.mp present
  obtain ⟨source, sourceMember, same, reached⟩ := walked member cycle
  exact acyclic row (apart sourceMember member same ▸ reached)

end Graph

section Effects

variable {services : Services} {store later : QueueStore}

variable {entry : MeshWorkQueueEntry}

theorem inserted_iff : insertQueueEntry services entry store = (.ok (), later) ↔
      assertSourceDependencyGraph (store.graph ++ [entry.toPhaseEntry]) = .ok () ∧
        store.findQueueEntryById entry.id = none ∧ services.rowOfOtherMesh entry.id = false ∧
          later = store.append entry := by
  simp [insertQueueEntry, bind_eq]
  tauto

theorem updated_iff : updateQueueEntry services entry store = (.ok (), later) ↔
      ¬ (services.latestAttemptStopping entry.id ∧
          (store.findQueueEntryById entry.id).any (rebinds · entry)) ∧
        (movesInGraph (store.findQueueEntryById entry.id) entry = true →
          assertSourceDependencyGraph (store.replace entry).graph = .ok ()) ∧
        later = store.replace { entry with revision :=
          ((store.findQueueEntryById entry.id).map (·.revision)).getD 0 + 1 } := by
  simp only [updateQueueEntry, bind_eq, transaction_ok_iff, andThen_ok_iff, inspect_ok_iff,
    ofExcept_ok_iff, failIf_ok_iff, modify_ok_iff]
  constructor
  · rintro ⟨_, _, ⟨rfl, rfl⟩, _, _, ⟨free, rfl⟩, _, _, ⟨rfl, rfl⟩, _, _, ⟨checked, rfl⟩, rfl⟩
    exact ⟨free, fun moves => by rwa [if_pos moves] at checked, rfl⟩
  rintro ⟨free, checked, rfl⟩
  refine ⟨_, _, ⟨rfl, rfl⟩, (), _, ⟨free, rfl⟩, _, _, ⟨rfl, rfl⟩, (), _, ⟨?_, rfl⟩, rfl⟩
  by_cases moves : movesInGraph (store.findQueueEntryById entry.id) entry = true
  · rw [if_pos moves, checked moves]
  · rw [if_neg moves]

theorem graph_replace_of_not_moves (distinct : Distinct store.graph)
    (stays : movesInGraph (store.findQueueEntryById entry.id) entry = false) :
    (store.replace entry).graph = store.graph := by
  rw [graph_replace]
  refine replaced_eq_self fun row member named => ?_
  cases found : store.findQueueEntryById entry.id with
  | none =>
    have absent := find_isNone.mp found
    exact absurd (named ▸ mem_map_of_mem member) absent
  | some persisted =>
    obtain ⟨present, same⟩ := mem_of_find found
    have equal : row = persisted.toPhaseEntry :=
      distinct.eq member (mem_graph present) (named.trans same.symm)
    simp only [movesInGraph, found, Option.bind_some, Option.map_some, Option.getD_some,
      Bool.or_eq_false_iff, decide_eq_false_iff_not, ne_eq, not_not] at stays
    obtain ⟨phase, dependsOn⟩ := stays
    rw [equal]
    cases persistedEntry : persisted.toPhaseEntry
    cases entryEntry : entry.toPhaseEntry
    simp_all

end Effects

structure CheckedInvariant (Invariant : List PhaseEntry → Prop) : Prop where
  distinct : ∀ rows, Invariant rows → Distinct rows
  checked : ∀ rows, Distinct rows → assertSourceDependencyGraph rows = .ok () → Invariant rows

section Keeps

variable {Invariant : List PhaseEntry → Prop} (invariant : CheckedInvariant Invariant)
variable (services : Services)

def KeepsGraph (Invariant : List PhaseEntry → Prop) {α : Type} (call : Call QueueStore String α) :
    Prop :=
  Commits (fun store => Invariant store.graph) call fun _ store => Invariant store.graph

include invariant

theorem insertQueueEntry_keeps (entry : MeshWorkQueueEntry) :
    KeepsGraph Invariant (insertQueueEntry services entry) := by
  intro store holds _ later called
  obtain ⟨passed, absent, -, rfl⟩ := inserted_iff.mp called
  rw [graph_append]
  refine invariant.checked _ ?_ passed
  rw [Distinct, map_append, nodup_append]
  refine ⟨invariant.distinct _ holds, by simp, fun id member other single => ?_⟩
  rw [map_singleton, mem_singleton] at single
  exact fun equal => find_isNone.mp absent (single ▸ equal ▸ member)

theorem updateQueueEntry_keeps (entry : MeshWorkQueueEntry) :
    KeepsGraph Invariant (updateQueueEntry services entry) := by
  intro store holds _ later called
  obtain ⟨-, checked, rfl⟩ := updated_iff.mp called
  have distinct := invariant.distinct _ holds
  have graph : (store.replace { entry with revision :=
      ((store.findQueueEntryById entry.id).map (·.revision)).getD 0 + 1 }).graph =
      (store.replace entry).graph := by simp only [graph_replace]
  rw [graph]
  cases moves : movesInGraph (store.findQueueEntryById entry.id) entry with
  | false => rwa [graph_replace_of_not_moves distinct moves]
  | true =>
    refine invariant.checked _ ?_ (checked moves)
    rwa [Distinct, graph_replace, map_id_replaced]

theorem storeNewTask_keeps (entry : MeshWorkQueueEntry) :
    KeepsGraph Invariant (storeNewTask services entry) :=
  Commits.transaction <|
    (readOnly_inspect _).commits.andThen fun _ =>
      (readOnly_failIf _ _).commits.andThen fun _ =>
        (readOnly_inspect _).commits.andThen fun _ =>
          (readOnly_ofExcept _).commits.andThen fun _ =>
            (readOnly_ofExcept _).commits.andThen fun _ =>
              (insertQueueEntry_keeps invariant services _).andThen fun _ =>
                commits_answer fun _ holds => holds

theorem enqueueTask_keeps (owner : QueueOwner) (message : String) (options : EnqueueOptions) :
    KeepsGraph Invariant (enqueueTask services owner message options) :=
  (readOnly_ofExcept _).commits.andThen fun _ =>
    (readOnly_ofExcept _).commits.andThen fun entry => storeNewTask_keeps invariant services entry

theorem enqueueBatchTask_keeps (owner : QueueOwner) (refs : List (String × String))
    (task : MeshTaskBatchEntrySpec × Nat) :
    KeepsGraph Invariant (enqueueBatchTask services owner refs task) := by
  rw [enqueueBatchTask]
  refine Commits.andThen (readOnly_inspect _).commits fun resolved => ?_
  refine Commits.andThen (readOnly_ofExcept resolved).commits fun dependsOn => ?_
  exact enqueueTask_keeps invariant services _ _ _

theorem enqueueTaskBatch_keeps (owner : QueueOwner) (specs : List MeshTaskBatchEntrySpec) :
    KeepsGraph Invariant (enqueueTaskBatch services owner specs) :=
  (readOnly_ofExcept _).commits.andThen fun _ =>
    (readOnly_failIf _ _).commits.andThen fun _ =>
      (readOnly_failIf _ _).commits.andThen fun _ =>
        (readOnly_ofExcept _).commits.andThen fun _ =>
          Commits.transaction <| commits_each fun task _ =>
            enqueueBatchTask_keeps invariant services owner _ task

theorem recordDirectDispatchTask_keeps (message : String) (options : DirectDispatchOptions)
    (attested : Option (PhysicalOwnershipScope × TaskPhase)) :
    KeepsGraph Invariant (recordDirectDispatchTask services message options attested) := by
  rw [recordDirectDispatchTask]
  split
  · exact (readOnly_answer _).commits
  refine (readOnly_ofExcept _).commits.andThen fun entry => Commits.transaction <|
    (readOnly_inspect _).commits.andThen fun stored => ?_
  split
  · exact (readOnly_answer _).commits
  refine (readOnly_ofExcept _).commits.andThen fun _ =>
    (insertQueueEntry_keeps invariant services _).andThen fun _ => ?_
  dsimp only
  split
  · exact (updateQueueEntry_keeps invariant services _).andThen fun _ =>
      (readOnly_answer _).commits
  · exact (readOnly_answer _).commits

theorem revisePendingTask_keeps (taskId : String) (expectedRevision : Nat)
    (patch : PendingTaskRevisionPatch) (host : TaskRevisionHostContext) :
    KeepsGraph Invariant (revisePendingTask services taskId expectedRevision patch host) := by
  refine (readOnly_failIf _ _).commits.andThen fun _ =>
    (readOnly_failIf _ _).commits.andThen fun _ => Commits.transaction <|
      (readOnly_inspect _).commits.andThen fun _ => (readOnly_ofExcept _).commits.andThen fun _ =>
        (readOnly_inspect _).commits.andThen fun _ =>
          (readOnly_ofExcept _).commits.andThen fun _ => ?_
  split
  · exact (readOnly_answer _).commits
  · exact (updateQueueEntry_keeps invariant services _).andThen fun _ =>
      (readOnly_answer _).commits

theorem commitTaskTerminal_keeps (stage : StageServices) (terminal : MeshTerminalCommitInput) :
    KeepsGraph Invariant (commitTaskTerminal services stage terminal) := by
  refine Commits.transaction <| (readOnly_inspect _).commits.andThen fun found => ?_
  cases found with
  | none => exact (readOnly_answer _).commits
  | some entry =>
    simp only
    split
    · exact (readOnly_answer _).commits
    · exact (readOnly_ofExcept _).commits.andThen fun _ =>
        updateQueueEntry_keeps invariant services _

end Keeps

section Claims

variable {services : Services} {claiming : ClaimServices} {request : ClaimRequest}
variable {store later : QueueStore}

variable {entry : MeshWorkQueueEntry}

theorem selected_mem {refusal : MeshWorkQueueEntry → Option ClaimGate}
    {candidates : List MeshWorkQueueEntry}
    (selected : (selectClaimCandidate refusal candidates).2 = some entry) :
    entry ∈ candidates ∧ refusal entry = none := by
  induction candidates with
  | nil => cases selected
  | cons candidate candidates induction =>
    rw [selectClaimCandidate] at selected
    split at selected
    next cleared =>
      cases selected
      exact ⟨mem_cons_self, cleared⟩
    · have later := induction selected
      exact ⟨.tail _ later.1, later.2⟩

variable {rows : List MeshWorkQueueEntry}

theorem mem_tier {offered : MeshWorkQueueEntry → Bool} (member : entry ∈ tier rows offered) :
    entry ∈ rows ∧ entry.status = .pending := by
  rw [tier, mem_insertionSort] at member
  obtain ⟨present, kept⟩ := mem_filter.mp member
  exact ⟨present, by simpa using (Bool.and_eq_true_iff.mp kept).1⟩

theorem mem_claimCandidates (member : entry ∈ claimCandidates claiming request rows) :
    entry ∈ rows ∧ entry.status = .pending := by
  have tiers := (mem_filter.mp member).1
  simp only [mem_append] at tiers
  rcases tiers with (first | second) | third
  · exact mem_tier first
  · exact mem_tier second
  · exact mem_tier third

@[simp] theorem holdRow_toPhaseEntry (refusals : List (String × ClaimGate))
    (row : MeshWorkQueueEntry) : (holdRow refusals row).toPhaseEntry = row.toPhaseEntry := by
  rw [holdRow]
  split
  · split <;> rfl
  · rfl

def attests (services : Services) (claiming : ClaimServices) (request : ClaimRequest)
    (store : QueueStore) : Option MeshWorkQueueEntry :=
  if claiming.newWorkRefused || hasActiveSessionAssignment services store.rows
    request.sessionId then
    none
  else (claimSelection claiming request store.rows).2.filter fun entry =>
    (proofFor claiming request entry).isSome && (admitProven claiming request entry).isSome

theorem admitProven_toPhaseEntry {entry admitted : MeshWorkQueueEntry}
    (admits : admitProven claiming request entry = some admitted) :
    (proofFor claiming request entry = none ∧ admitted = entry) ∨
      ((proofFor claiming request entry).isSome ∧
        admitted.toPhaseEntry = { entry.toPhaseEntry with
          phase := some (attestedPhase entry) }) := by
  rw [admitProven] at admits
  split at admits
  next absent =>
    cases admits
    exact .inl ⟨absent, rfl⟩
  · cases admits
  next scope proved =>
    split at admits
    · cases admits
    · cases admits
      exact .inr ⟨by simp [proved], rfl⟩

theorem replaced_eq_attested {rows : List PhaseEntry} (distinct : Distinct rows)
    {entry : PhaseEntry} (member : entry ∈ rows) (phase : TaskPhase) :
    replaced rows { entry with phase := some phase } = rows.map (attested entry.id phase) := by
  refine map_congr_left fun row present => ?_
  by_cases named : row.id = entry.id
  · simp [attested, distinct.eq present member named]
  · simp [attested, named]

theorem claimed (distinct : Distinct store.graph) {answered : Option MeshWorkQueueEntry}
    (called : claimNextQueueTask services claiming request store = (.ok answered, later)) :
    later.graph = store.graph ∨ ∃ entry ∈ store.rows,
      attests services claiming request store = some entry ∧
        later.graph = store.graph.map (attested entry.id (attestedPhase entry)) := by
  rw [claimNextQueueTask, transaction_ok_iff, bind_eq, andThen_ok_iff] at called
  obtain ⟨rows, middle, read, called⟩ := called
  obtain ⟨rfl, rfl⟩ := inspect_ok_iff.mp read
  split at called
  · exact .inl (by rw [(answer_ok_iff.mp called).2])
  next free =>
    rw [bind_eq, andThen_ok_iff] at called
    obtain ⟨done, held, noted, called⟩ := called
    obtain rfl := modify_ok_iff.mp noted
    have heldGraph : ∀ refusals : List (String × ClaimGate),
        graph ⟨middle.rows.map (holdRow refusals)⟩ = middle.graph := fun refusals => by
      simp [graph, Function.comp_def]
    cases admits : (claimSelection claiming request middle.rows).2.bind
      (admitProven claiming request) with
    | none =>
      rw [admits] at called
      exact .inl (by rw [(answer_ok_iff.mp called).2, heldGraph])
    | some admitted =>
      rw [admits] at called
      simp only [bind_eq, andThen_ok_iff] at called
      obtain ⟨done, assigned, stored, called⟩ := called
      obtain rfl := modify_ok_iff.mp stored
      obtain ⟨-, rfl⟩ := answer_ok_iff.mp called
      obtain ⟨entry, selected, admits⟩ := Option.bind_eq_some_iff.mp admits
      have member : entry ∈ middle.rows := (mem_claimCandidates (selected_mem selected).1).1
      have present := mem_graph member
      rw [graph_replace, heldGraph]
      rcases admitProven_toPhaseEntry admits with ⟨-, rfl⟩ | ⟨proved, graph⟩
      · exact .inl (replaced_eq_self fun row listed named => distinct.eq listed present named)
      refine .inr ⟨entry, member, ?_, ?_⟩
      · simp [attests, free, selected, proved, admits]
      have assignedGraph : (assignTo request admitted).toPhaseEntry =
          { entry.toPhaseEntry with phase := some (attestedPhase entry) } := graph
      rw [assignedGraph, replaced_eq_attested distinct present]

end Claims

end Adhdev.TaskQueue
