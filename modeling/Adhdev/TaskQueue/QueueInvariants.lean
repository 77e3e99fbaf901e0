import Adhdev.TaskQueue.QueueRuns

/-! # What holds in every state of the queue

The dependency graph has no cycle after any calls, and a call that throws leaves the
queue as it was. The phase rule is kept by every call except a claim that attests the
source phase of a row that other work waits for.
-/

namespace Adhdev.TaskQueue

open Call List Option Bool

section Cycles

def Ordered (rows : List PhaseEntry) : Prop := Distinct rows ∧ Acyclic rows

theorem checked_ordered : CheckedInvariant Ordered where
  distinct _ holds := holds.1
  checked _ distinct passed := ⟨distinct, ((assertSourceDependencyGraph_isOk distinct).mp passed).2⟩

theorem distinct_attested {rows : List PhaseEntry} (distinct : Distinct rows) (id : String)
    (phase : TaskPhase) : Distinct (rows.map (attested id phase)) := by
  rwa [Distinct, map_id_attested]

theorem perform_ordered (input : QueueInput) : KeepsGraph Ordered input.perform := by
  have done : ∀ {α : Type} {call : Call QueueStore String α}, KeepsGraph Ordered call →
      KeepsGraph Ordered (ignoring call) := fun keeps =>
    keeps.andThen fun _ => (readOnly_answer ()).commits
  cases input with
  | mk services call =>
    cases call with
    | enqueueTask owner message options =>
      exact done (enqueueTask_keeps checked_ordered services owner message options)
    | enqueueTaskBatch owner specs =>
      exact done (enqueueTaskBatch_keeps checked_ordered services owner specs)
    | recordDirectDispatchTask message options scope =>
      exact done (recordDirectDispatchTask_keeps checked_ordered services message options scope)
    | revisePendingTask taskId expectedRevision patch host =>
      exact done (revisePendingTask_keeps checked_ordered services taskId
        expectedRevision patch host)
    | updateQueueEntry entry => exact updateQueueEntry_keeps checked_ordered services entry
    | commitTaskTerminal stage terminal =>
      exact commitTaskTerminal_keeps checked_ordered services stage terminal
    | claimNextQueueTask claiming request =>
      refine done fun store holds value later called => ?_
      rcases claimed holds.1 called with same | ⟨entry, -, -, changed⟩
      · rwa [same]
      · rw [changed]
        exact ⟨distinct_attested holds.1 _ _, holds.2.attested holds.1 _ _⟩

theorem ordered_runFrom (inputs : List QueueInput) {store : QueueStore}
    (holds : Ordered store.graph) : Ordered (queueMachine.runFrom store inputs).graph := by
  have keeps : ∀ store input, Ordered (QueueStore.graph store) →
      Ordered (QueueStore.graph (queueMachine.next store input)) := fun _ input ordered =>
    (perform_traceless input).keeps (perform_ordered input) ordered
  exact @Machine.runFrom_induction _ _ _ queueMachine (fun store => Ordered store.graph) keeps
    inputs store holds

theorem ordered_initial : Ordered queueMachine.initial.graph := by
  refine ⟨nodup_nil, fun row cycle => ?_⟩
  obtain ⟨other, ⟨member, -⟩, -⟩ := Relation.TransGen.head'_iff.mp cycle
  cases member

/-- After any calls, in any order, no task waits for itself, and every call that threw
left the queue exactly as it was. -/
theorem dependencies_acyclic (inputs : List QueueInput) : Acyclic (queueMachine.run inputs).graph ∧
      ∀ step ∈ queueMachine.steps inputs, ∀ fault, step.output.1 = .error fault →
        step.after = step.before := by
  refine ⟨(ordered_runFrom inputs ordered_initial).2, fun step _ fault threw => ?_⟩
  have called : step.input.perform step.before = (.error fault, step.after) := Prod.ext threw rfl
  exact perform_traceless step.input step.before fault step.after called

end Cycles

section Rule

variable {rows : List PhaseEntry} {entry : PhaseEntry}

theorem phaseRule_attested_iff (distinct : Distinct rows) (rule : PhaseRule rows)
    (member : entry ∈ rows) {phase : TaskPhase}
    (kept : phase = .integration ↔ entry.phase = some .integration) :
    PhaseRule (rows.map (attested entry.id phase)) ↔
      (entry.phase ≠ some .integration →
        ∀ row ∈ rows, entry.id ∈ row.dependsOn → row.phase = some .integration) := by
  have own : attested entry.id phase entry = { entry with phase := some phase } := if_pos rfl
  have other : ∀ row : PhaseEntry, row.id ≠ entry.id → attested entry.id phase row = row :=
    fun row differs => if_neg differs
  constructor
  · intro after outside row present listed
    have source : phase = .source := by
      cases phase with
      | source => rfl
      | integration => exact absurd (kept.mp rfl) outside
    by_contra waiting
    have unchanged : (attested entry.id phase row).phase ≠ some .integration := by
      by_cases same : row.id = entry.id
      · rw [distinct.eq present member same, own, source]
        simp
      · rwa [other row same]
    refine after (attested entry.id phase row) (attested entry.id phase entry)
      ⟨mem_map_of_mem present, mem_map_of_mem member, by simpa using listed⟩
      unchanged (by rw [own, source])
  rintro apart dependent source ⟨present, supplied, listed⟩ outside sourced
  obtain ⟨row, rowMember, rfl⟩ := mem_map.mp present
  obtain ⟨supply, supplyMember, rfl⟩ := mem_map.mp supplied
  simp only [attested_id, attested_dependsOn] at listed
  by_cases attests : supply.id = entry.id
  · cases distinct.eq supplyMember member attests
    rw [own] at sourced
    have stays : entry.phase ≠ some .integration := fun integration => by
      rw [kept.mpr integration] at sourced
      cases sourced
    have waits := apart stays row rowMember listed
    by_cases same : row.id = entry.id
    · rw [distinct.eq rowMember member same] at waits
      exact stays waits
    · rw [other row same] at outside
      exact outside waits
  rw [other supply attests] at sourced
  refine rule row supply ⟨rowMember, supplyMember, listed⟩ (fun waits => ?_) sourced
  by_cases same : row.id = entry.id
  · cases distinct.eq rowMember member same
    rw [own, kept.mpr waits] at outside
    exact outside rfl
  · rw [other row same] at outside
    exact outside waits

/-- A row that can join the rows without breaking the rule or closing a cycle. -/
structure Joins (rows : List PhaseEntry) (entry : PhaseEntry) : Prop where
  waits : ∀ source ∈ rows, source.id ∈ entry.dependsOn →
    entry.phase ≠ some .integration → source.phase ≠ some .source
  supplies : ∀ dependent ∈ rows, entry.id ∈ dependent.dependsOn →
    dependent.phase ≠ some .integration → entry.phase ≠ some .source
  alone : ¬ Relation.TransGen (DependsOn (rows ++ [entry])) entry entry

theorem Joins.acyclic (joins : Joins rows entry) (acyclic : Acyclic rows) :
    Acyclic (rows ++ [entry]) := by
  have old : ∀ {row source : PhaseEntry}, DependsOn (rows ++ [entry]) row source →
      DependsOn rows row source ∨ row = entry ∨ source = entry := by
    rintro row source ⟨present, supplied, listed⟩
    rcases mem_append.mp present with inside | single
    · rcases mem_append.mp supplied with supply | single
      · exact .inl ⟨inside, supply, listed⟩
      · exact .inr (.inr (mem_singleton.mp single))
    · exact .inr (.inl (mem_singleton.mp single))
  have through : ∀ {row source : PhaseEntry},
      Relation.TransGen (DependsOn (rows ++ [entry])) row source →
      Relation.TransGen (DependsOn rows) row source ∨
        (Relation.ReflTransGen (DependsOn (rows ++ [entry])) row entry ∧
          Relation.ReflTransGen (DependsOn (rows ++ [entry])) entry source) := by
    intro row source path
    induction path with
    | single edge =>
      rcases old edge with inside | rfl | rfl
      · exact .inl (.single inside)
      · exact .inr ⟨.refl, .single edge⟩
      · exact .inr ⟨.single edge, .refl⟩
    | tail path edge induction =>
      rcases induction with inside | ⟨enters, leaves⟩
      · rcases old edge with step | rfl | rfl
        · exact .inl (inside.tail step)
        · exact .inr ⟨path.to_reflTransGen, .single edge⟩
        · exact .inr ⟨path.to_reflTransGen.tail edge, .refl⟩
      · exact .inr ⟨enters, leaves.tail edge⟩
  intro row cycle
  rcases through cycle with inside | ⟨enters, leaves⟩
  · exact acyclic row inside
  · exact joins.alone ((Relation.TransGen.trans_right leaves cycle).trans_left enters)

theorem Joins.rule (joins : Joins rows entry) (rule : PhaseRule rows)
    (fresh : entry.id ∉ entry.dependsOn) : PhaseRule (rows ++ [entry]) := by
  rintro dependent source ⟨present, supplied, listed⟩
  rcases mem_append.mp present with inside | single
  · rcases mem_append.mp supplied with supply | added
    · exact rule dependent source ⟨inside, supply, listed⟩
    · cases mem_singleton.mp added
      exact joins.supplies dependent inside listed
  cases mem_singleton.mp single
  rcases mem_append.mp supplied with supply | added
  · exact joins.waits source supply listed
  · cases mem_singleton.mp added
    exact absurd listed fresh

end Rule

section PhaseRule

def Ruled (rows : List PhaseEntry) : Prop := Distinct rows ∧ PhaseRule rows ∧ Acyclic rows

theorem checked_ruled : CheckedInvariant Ruled where
  distinct _ holds := holds.1
  checked _ distinct passed := ⟨distinct, (assertSourceDependencyGraph_isOk distinct).mp passed⟩

structure PhaseRuleHolds (store : QueueStore) : Prop where
  rule : PhaseRule store.graph
  passes : assertSourceDependencyGraph store.graph = .ok ()
  admits : ∀ (services : Services) (entry : MeshWorkQueueEntry),
    store.findQueueEntryById entry.id = none → services.rowOfOtherMesh entry.id = false →
    Joins store.graph entry.toPhaseEntry →
    insertQueueEntry services entry store = (.ok (), store.append entry)
  releases : ∀ (claiming : ClaimServices), ∀ row ∈ store.rows, row.status = .pending →
    (∀ id ∈ row.dependsOn, completedIn store.rows id ∧ claiming.dependencyUsable id) →
    taskDependenciesSatisfied claiming store.rows row = true

theorem mem_schedulingRounds {rows : List MeshWorkQueueEntry} {fuel : Nat}
    {frontier seen : List String} {entry : MeshWorkQueueEntry}
    (member : entry ∈ schedulingRounds rows fuel frontier seen) : entry ∈ rows := by
  induction fuel generalizing frontier seen with
  | zero => cases member
  | succ fuel induction =>
    rw [schedulingRounds] at member
    dsimp only at member
    split at member
    · cases member
    rcases mem_append.mp member with found | later
    · exact (mem_filter.mp found).1
    · exact induction later

variable {store : QueueStore}

theorem mem_schedulingGraph {row : PhaseEntry} (member : row ∈ schedulingGraph store.rows) :
    row ∈ store.graph := by
  obtain ⟨entry, listed, rfl⟩ := mem_map.mp (KeyedMap.mem_of_mem_ofList member)
  exact mem_graph (mem_schedulingRounds listed)

theorem phaseRuleHolds_of_ruled (ruled : Ruled store.graph) : PhaseRuleHolds store := by
  obtain ⟨distinct, rule, acyclic⟩ := ruled
  refine ⟨rule, (assertSourceDependencyGraph_isOk distinct).mpr ⟨rule, acyclic⟩, ?_, ?_⟩
  · intro services entry absent unshared joins
    have apart : Distinct (store.graph ++ [entry.toPhaseEntry]) := by
      rw [Distinct, map_append, nodup_append]
      refine ⟨distinct, by simp, fun id member other single => ?_⟩
      rw [map_singleton, mem_singleton] at single
      exact fun equal => find_isNone.mp absent (single ▸ equal ▸ member)
    have fresh : entry.id ∉ entry.dependsOn := fun listed =>
      joins.alone (.single ⟨by simp, by simp, listed⟩)
    exact inserted_iff.mpr ⟨(assertSourceDependencyGraph_isOk apart).mpr
      ⟨joins.rule rule fresh, joins.acyclic acyclic⟩, absent, unshared, rfl⟩
  intro claiming row member _ completed
  have free := sourceDependencyViolation_eq_none distinct rule acyclic
    (fun _ => mem_schedulingGraph) (mem_graph member)
  simpa [taskDependenciesSatisfied, free] using completed

def AttestsApart (step : Machine.Step queueMachine) : Prop :=
  ∀ claiming request, step.input.call = .claimNextQueueTask claiming request →
    ∀ entry, attests step.input.services claiming request step.before = some entry →
      entry.phase ≠ some .integration →
        ∀ row ∈ step.before.graph, entry.id ∈ row.dependsOn → row.phase = some .integration

theorem attestedPhase_integration (entry : MeshWorkQueueEntry) :
    attestedPhase entry = .integration ↔ entry.phase = some .integration := by
  rw [attestedPhase]
  split <;> simp_all

theorem step_ruled (step : Machine.Step queueMachine) (apart : AttestsApart step)
    (holds : Ruled step.before.graph) : Ruled step.after.graph := by
  have done : ∀ {α : Type} {call : Call QueueStore String α}, KeepsGraph Ruled call →
      KeepsGraph Ruled (ignoring call) := fun keeps =>
    keeps.andThen fun _ => (readOnly_answer ()).commits
  obtain ⟨before, ⟨services, call⟩⟩ := step
  have keeps : ∀ performed : Call QueueStore String Unit,
      (QueueInput.mk services call).perform = performed →
      (∀ answered later, performed before = (.ok answered, later) → Ruled later.graph) →
      Ruled ((QueueInput.mk services call).perform before).2.graph := by
    rintro performed rfl answers
    cases called : (QueueInput.mk services call).perform before with
    | mk result later =>
      cases result with
      | error fault =>
        rw [show later = before from perform_traceless _ _ _ _ called]
        exact holds
      | ok answered => exact answers answered later called
  refine keeps _ rfl fun answered later called => ?_
  cases call with
  | enqueueTask owner message options =>
    exact done (enqueueTask_keeps checked_ruled services owner message options)
      before holds answered later called
  | enqueueTaskBatch owner specs =>
    exact done (enqueueTaskBatch_keeps checked_ruled services owner specs)
      before holds answered later called
  | recordDirectDispatchTask message options scope =>
    exact done (recordDirectDispatchTask_keeps checked_ruled services message options scope)
      before holds answered later called
  | revisePendingTask taskId expectedRevision patch host =>
    exact done (revisePendingTask_keeps checked_ruled services taskId expectedRevision patch host)
      before holds answered later called
  | updateQueueEntry entry =>
    exact updateQueueEntry_keeps checked_ruled services entry before holds answered later called
  | commitTaskTerminal stage terminal =>
    exact commitTaskTerminal_keeps checked_ruled services stage terminal
      before holds answered later called
  | claimNextQueueTask claiming request =>
    obtain ⟨distinct, rule, acyclic⟩ := holds
    obtain ⟨value, middle, called, returned⟩ := andThen_ok_iff.mp called
    obtain ⟨-, rfl⟩ := answer_ok_iff.mp returned
    rcases claimed distinct called with same | ⟨entry, member, attests, changed⟩
    · rw [same]
      exact ⟨distinct, rule, acyclic⟩
    rw [changed]
    exact ⟨distinct_attested distinct _ _,
      (phaseRule_attested_iff distinct rule (mem_graph member)
        (attestedPhase_integration entry)).mpr
          (apart claiming request rfl entry attests),
      acyclic.attested distinct _ _⟩

theorem ruled_runFrom (inputs : List QueueInput) (holds : Ruled store.graph)
    (apart : ∀ step ∈ queueMachine.stepsFrom store inputs, AttestsApart step) :
    Ruled (queueMachine.runFrom store inputs).graph := by
  induction inputs generalizing store with
  | nil => exact holds
  | cons input inputs induction =>
    exact induction (step_ruled ⟨store, input⟩ (apart _ mem_cons_self) holds)
      (forall_mem_cons.mp apart).2

theorem ruled_initial : Ruled queueMachine.initial.graph :=
  ⟨ordered_initial.1, fun _ _ depends => (not_mem_nil depends.1).elim,
    ordered_initial.2⟩

/-- In a run whose claims attest apart, the phase rule holds in the state reached and
stops no call by itself. -/
theorem phaseRule_of_attestsApart (inputs : List QueueInput)
    (apart : ∀ step ∈ queueMachine.steps inputs, AttestsApart step) :
    PhaseRuleHolds (queueMachine.run inputs) :=
  phaseRuleHolds_of_ruled (ruled_runFrom inputs ruled_initial apart)

end PhaseRule

section Runs

def willing : Services where
  validateMeshTaskModeRequest taskMode _ _ := .ok taskMode
  resolveStagePlan _ _ _ := .ok false
  normalizeOwnedPaths paths := (paths.map fun path => ⟨path, true⟩, [])
  contractRequiredTagsForNewTask _ _ := .ok []
  rowOfOtherMesh _ := false
  latestAttemptStopping _ := false
  dispatchOpen _ := false
  attestLocalOwnership repoIdentity machineId nodeId workspace phase paths :=
    .ok { repoIdentity, machineId, nodeId, worktree := workspace, phase, declaration := paths }
  ownedPathsConflict _ := none

def willingClaim : ClaimServices where
  newWorkRefused := false
  expandDaemonIdForms nodeId := [nodeId]
  dependencyUsable _ := true
  passes _ _ _ := true
  attestOwnership context nodeId entry phase :=
    .ok {
      repoIdentity := context.repoIdentity, machineId := context.machineId, nodeId
      worktree := context.workspace, phase, declaration := entry.ownedPaths }
  currentPhysicalScope scope _ := some scope

def claimedSource : List QueueInput :=
  [⟨willing, .enqueueTask {} "write the parser"
      { fresh := "parser", ownedPaths := ["src/parser"], difficulty := some "easy" }⟩,
    ⟨willing, .enqueueTask {} "use the parser"
      { fresh := "caller", dependsOn := ["parser"], difficulty := some "easy" }⟩,
    ⟨willing, .claimNextQueueTask willingClaim
      { nodeId := "node", sessionId := "session"
        physicalContext := some ⟨"/work", "machine", "repo"⟩ }⟩]

/-- The second task is made an integration task before the first is claimed for the source. -/
def revisedBeforeClaim : List QueueInput :=
  claimedSource.take 1 ++
    [⟨willing, .enqueueTask {} "use the parser"
      { fresh := "caller", dependsOn := ["parser"], ownedPaths := ["src/caller"],
        targetNodeId := some "node", difficulty := some "easy" }⟩,
    ⟨willing, .revisePendingTask "caller" 0 { phase := some .integration }
      { actor := "owner", repoIdentity := "repo", machineId := "machine", nodeId := some "node",
        workspace := some "/work" }⟩] ++
  claimedSource.drop 2

theorem phaseRule_of_attestsApart_integration : (queueMachine.run revisedBeforeClaim).graph =
      [⟨"parser", some .source, []⟩, ⟨"caller", some .integration, ["parser"]⟩] ∧
    PhaseRuleHolds (queueMachine.run revisedBeforeClaim) := by
  refine ⟨by decide, phaseRule_of_attestsApart revisedBeforeClaim fun step member => ?_⟩
  rcases List.mem_cons.mp member with rfl | member
  · exact fun _ _ called => by cases called
  rcases List.mem_cons.mp member with rfl | member
  · exact fun _ _ called => by cases called
  rcases List.mem_cons.mp member with rfl | member
  · exact fun _ _ called => by cases called
  obtain rfl := List.mem_singleton.mp member
  have graph : (queueMachine.run (revisedBeforeClaim.take 3)).graph =
      [⟨"parser", none, []⟩, ⟨"caller", some .integration, ["parser"]⟩] := by decide
  intro claiming request _ entry _ _ row listed depends
  change row ∈ (queueMachine.run (revisedBeforeClaim.take 3)).graph at listed
  rw [graph] at listed
  rcases List.mem_cons.mp listed with rfl | listed
  · cases depends
  · rw [List.mem_singleton.mp listed]

/-- A claim that attests the first task breaks the rule for the second. -/
theorem claimedSource_breaks_rule : ¬ ∀ inputs, PhaseRuleHolds (queueMachine.run inputs) := by
  intro holds
  have rule := (holds claimedSource).rule
  have graph : (queueMachine.run claimedSource).graph =
      [⟨"parser", some .source, []⟩, ⟨"caller", none, ["parser"]⟩] := by decide
  rw [graph] at rule
  exact rule ⟨"caller", none, ["parser"]⟩ ⟨"parser", some .source, []⟩
    ⟨by simp, by simp, by simp⟩ (by simp) rfl

end Runs

end Adhdev.TaskQueue
