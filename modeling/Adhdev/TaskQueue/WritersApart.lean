import Adhdev.TaskQueue.Admission
import Adhdev.TaskQueue.QueueInvariants

/-! # Claims keep writers apart -/

namespace Adhdev.TaskQueue

open Call MeshShared List Option Bool

section Rows

def Apart (related : MeshWorkQueueEntry → MeshWorkQueueEntry → Bool)
    (rows : List MeshWorkQueueEntry) : Prop :=
  ∀ row ∈ rows, ∀ other ∈ rows, related row other = true → row.id = other.id

def rewritten (refusals : List (String × ClaimGate)) (id : String) (assigned : MeshWorkQueueEntry)
    (rows : List MeshWorkQueueEntry) : List MeshWorkQueueEntry :=
  rows.map fun row => if row.id = id then assigned else holdRow refusals row

theorem holdRow_eq (refusals : List (String × ClaimGate)) (row : MeshWorkQueueEntry) :
    ∃ hold, holdRow refusals row = { row with hold := hold } := by
  rw [holdRow]
  split
  · split
    · exact ⟨_, rfl⟩
    · exact ⟨row.hold, rfl⟩
  · exact ⟨row.hold, rfl⟩

@[simp] theorem holdRow_id (refusals : List (String × ClaimGate)) (row : MeshWorkQueueEntry) :
    (holdRow refusals row).id = row.id := by
  obtain ⟨hold, same⟩ := holdRow_eq refusals row
  rw [same]

variable {related : MeshWorkQueueEntry → MeshWorkQueueEntry → Bool}
variable {rows : List MeshWorkQueueEntry} {refusals : List (String × ClaimGate)}

def IgnoresHolds (related : MeshWorkQueueEntry → MeshWorkQueueEntry → Bool) : Prop :=
  ∀ row other hold otherHold,
    related { row with hold := hold } { other with hold := otherHold } = related row other

theorem Apart.held (apart : Apart related rows) (ignores : IgnoresHolds related) :
    Apart related (rows.map (holdRow refusals)) := by
  intro heldRow heldMember heldOther heldListed relates
  obtain ⟨row, member, rfl⟩ := mem_map.mp heldMember
  obtain ⟨other, listed, rfl⟩ := mem_map.mp heldListed
  rw [holdRow_id, holdRow_id]
  obtain ⟨hold, same⟩ := holdRow_eq refusals row
  obtain ⟨otherHold, otherSame⟩ := holdRow_eq refusals other
  rw [same, otherSame] at relates
  rw [ignores] at relates
  exact apart row member other listed relates

theorem Apart.rewritten (apart : Apart related rows) (ignores : IgnoresHolds related)
    (symmetric : ∀ row other, related row other = related other row) {assigned : MeshWorkQueueEntry}
    (free : ∀ row ∈ rows, row.id ≠ assigned.id → related assigned row = false) :
    Apart related (rewritten refusals assigned.id assigned rows) := by
  have alone : ∀ row ∈ rows, row.id ≠ assigned.id →
      related assigned (holdRow refusals row) = false := by
    intro row member other
    obtain ⟨hold, same⟩ := holdRow_eq refusals row
    rw [same]
    exact (ignores assigned row assigned.hold hold).trans (free row member other)
  intro later laterMember laterOther laterListed relates
  obtain ⟨row, member, rfl⟩ := mem_map.mp laterMember
  obtain ⟨other, listed, rfl⟩ := mem_map.mp laterListed
  by_cases named : row.id = assigned.id
  · by_cases otherNamed : other.id = assigned.id
    · rw [if_pos named, if_pos otherNamed]
    · rw [if_pos named, if_neg otherNamed] at relates
      exact absurd relates (eq_false_iff.mp (alone other listed otherNamed))
  by_cases otherNamed : other.id = assigned.id
  · rw [if_neg named, if_pos otherNamed] at relates
    rw [symmetric] at relates
    exact absurd relates (eq_false_iff.mp (alone row member named))
  rw [if_neg named, if_neg otherNamed] at relates ⊢
  have held : Apart related (rows.map (holdRow refusals)) := apart.held ignores
  exact held _ (mem_map_of_mem member) _ (mem_map_of_mem listed) relates

end Rows

section Claim

variable {services : Services} {claiming : ClaimServices} {request : ClaimRequest}
variable {store : QueueStore}

inductive ClaimOutcome (services : Services) (claiming : ClaimServices) (request : ClaimRequest)
    (rows : List MeshWorkQueueEntry) :
    Except String (Option MeshWorkQueueEntry) → List MeshWorkQueueEntry → Prop
  | refused (refusals : List (String × ClaimGate)) :
      ClaimOutcome services claiming request rows (.ok none) (rows.map (holdRow refusals))
  | assigned (refusals : List (String × ClaimGate)) {entry admitted : MeshWorkQueueEntry}
      (member : entry ∈ rows)
      (sessionFree : hasActiveSessionAssignment services rows request.sessionId = false)
      (clears : ∀ gate ∈ claimGates, clearsGate claiming request rows entry gate = true)
      (admits : admitProven claiming request entry = some admitted) :
      ClaimOutcome services claiming request rows (.ok (some (assignTo request admitted)))
        (rewritten refusals entry.id (assignTo request admitted) rows)

theorem admitProven_eq {entry admitted : MeshWorkQueueEntry}
    (admits : admitProven claiming request entry = some admitted) :
    ∃ scope phase, admitted = { entry with ownershipScope := scope, phase := phase } := by
  rw [admitProven] at admits
  split at admits
  · cases admits
    exact ⟨entry.ownershipScope, entry.phase, rfl⟩
  · cases admits
  split at admits
  · cases admits
  · cases admits
    exact ⟨_, _, rfl⟩

theorem clearsGate_of_refusingGate {rows : List MeshWorkQueueEntry} {entry : MeshWorkQueueEntry}
    (cleared : refusingGate claiming request rows entry = none) :
    ∀ gate ∈ claimGates, clearsGate claiming request rows entry gate = true := by
  intro gate member
  have passes := find?_eq_none.mp cleared gate member
  simpa using passes

theorem map_holdRow_nil (rows : List MeshWorkQueueEntry) : rows.map (holdRow []) = rows := by
  rw [show holdRow [] = id from rfl, List.map_id]

theorem claimNextQueueTask_eq (store : QueueStore) :
    claimNextQueueTask services claiming request store =
      if claiming.newWorkRefused ||
          hasActiveSessionAssignment services store.rows request.sessionId then (.ok none, store)
      else
        let held : QueueStore :=
          ⟨store.rows.map (holdRow (claimSelection claiming request store.rows).1)⟩
        match (claimSelection claiming request store.rows).2.bind
          (admitProven claiming request) with
        | none => (.ok none, held)
        | some admitted =>
          (.ok (some (assignTo request admitted)), held.replace (assignTo request admitted)) := by
  cases refusing :
      claiming.newWorkRefused || hasActiveSessionAssignment services store.rows
        request.sessionId with
  | true =>
    simp only [claimNextQueueTask, bind_eq, transaction, Call.andThen, inspect, refusing, if_true,
      answer]
  | false =>
    cases admits : (claimSelection claiming request store.rows).2.bind
      (admitProven claiming request) <;>
      simp only [claimNextQueueTask, bind_eq, pure_eq, transaction, Call.andThen, inspect, refusing,
        false_eq_true, if_false, Call.modify, admits, answer]

theorem claim_outcome (store : QueueStore) : ClaimOutcome services claiming request store.rows
      (claimNextQueueTask services claiming request store).1
      (claimNextQueueTask services claiming request store).2.rows := by
  rw [claimNextQueueTask_eq]
  cases refusing :
      claiming.newWorkRefused || hasActiveSessionAssignment services store.rows
        request.sessionId with
  | true =>
    have refused : ClaimOutcome services claiming request store.rows (.ok none)
        (store.rows.map (holdRow [])) := .refused []
    rw [map_holdRow_nil] at refused
    exact refused
  | false =>
    cases admits : (claimSelection claiming request store.rows).2.bind
        (admitProven claiming request) with
    | none => exact .refused _
    | some admitted =>
      obtain ⟨entry, selected, admits⟩ := bind_eq_some_iff.mp admits
      have chosen := selected_mem selected
      have named : (assignTo request admitted).id = entry.id := by
        obtain ⟨scope, phase, rfl⟩ := admitProven_eq admits
        rfl
      have rows : (QueueStore.replace ⟨store.rows.map
          (holdRow (claimSelection claiming request store.rows).1)⟩
          (assignTo request admitted)).rows =
          rewritten (claimSelection claiming request store.rows).1 entry.id
            (assignTo request admitted) store.rows := by
        simp [QueueStore.replace, rewritten, named, Function.comp_def]
      simp only [false_eq_true, if_false]
      rw [rows]
      exact .assigned _ (mem_claimCandidates chosen.1).1 (or_eq_false_iff.mp refusing).2
        (clearsGate_of_refusingGate chosen.2) admits

end Claim

section Keeps

variable {services : Services} {admission : AdmissionServices} {options : ClaimOptions}
variable {request : ClaimRequest} {rows : List MeshWorkQueueEntry}

/-- A scope that its machine has proved proves again as it is. -/
def AdmissionServices.Reproduces (admission : AdmissionServices) : Prop :=
  ∀ scope paths current, admission.currentPhysicalScope scope paths = some current →
    admission.currentPhysicalScope current paths = some current

/-- Each id is one of the forms that the other expands to. -/
def sameForm (left right : String) : Bool :=
  (expandDaemonIdForms [right]).contains left && (expandDaemonIdForms [left]).contains right

example : sameForm "mach_a1" "daemon_mach_a1" = true := by decide

def holdSession (services : Services) (row other : MeshWorkQueueEntry) : Bool :=
  activeWriterClaim services row && activeWriterClaim services other &&
    row.assignedSessionId.isSome && row.assignedSessionId == other.assignedSessionId

def writeNode (services : Services) (sameNode : String → String → Bool)
    (row other : MeshWorkQueueEntry) : Bool :=
  activeWriterClaim services row && activeWriterClaim services other && writesOnNode row &&
    writesOnNode other && row.assignedNodeId.any fun node =>
      other.assignedNodeId.any (sameNode node)

def writeOneResource (services : Services) (admission : AdmissionServices)
    (row other : MeshWorkQueueEntry) : Bool :=
  activeWriterClaim services row && activeWriterClaim services other && !isTaskReadonly row &&
    !isTaskReadonly other &&
      physicalConflict (reproducedScope admission row) (reproducedScope admission other)

structure KeptApart (services : Services) (admission : AdmissionServices)
    (sameNode : String → String → Bool) (rows : List MeshWorkQueueEntry) : Prop where
  sessions : Apart (holdSession services) rows
  nodes : Apart (writeNode services sameNode) rows
  writers : Apart (writeOneResource services admission) rows

theorem holdSession_comm (row other : MeshWorkQueueEntry) :
    holdSession services row other = holdSession services other row := by
  refine comm_of_imp (fun {one two} => ?_) row other
  simp only [holdSession, and_eq_true, beq_iff_eq]
  rintro ⟨⟨⟨active, others⟩, held⟩, same⟩
  exact ⟨⟨⟨others, active⟩, same ▸ held⟩, same.symm⟩

theorem sameForm_comm (left right : String) : sameForm left right = sameForm right left :=
  and_comm _ _

theorem any_any_iff {left right : Option String} {relates : String → String → Bool} :
    (left.any fun node => right.any (relates node)) = true ↔
      ∃ node other, left = some node ∧ right = some other ∧ relates node other = true := by
  cases left <;> cases right <;> simp

theorem writeNode_comm (row other : MeshWorkQueueEntry) :
    writeNode services sameForm row other = writeNode services sameForm other row := by
  refine comm_of_imp (fun {one two} => ?_) row other
  simp only [writeNode, and_eq_true, any_any_iff]
  rintro ⟨⟨⟨⟨active, others⟩, writes⟩, otherWrites⟩, node, otherNode, on, otherOn, same⟩
  exact ⟨⟨⟨⟨others, active⟩, otherWrites⟩, writes⟩, otherNode, node, otherOn, on,
    sameForm_comm _ _ ▸ same⟩

theorem writeOneResource_comm (row other : MeshWorkQueueEntry) :
    writeOneResource services admission row other =
      writeOneResource services admission other row := by
  refine comm_of_imp (fun {one two} => ?_) row other
  simp only [writeOneResource, and_eq_true, physicalConflict_comm (reproducedScope admission one)]
  rintro ⟨⟨⟨⟨active, others⟩, writes⟩, otherWrites⟩, conflicts⟩
  exact ⟨⟨⟨⟨others, active⟩, otherWrites⟩, writes⟩, conflicts⟩

theorem holdSession_assigned {assigned : MeshWorkQueueEntry}
    (held : assigned.assignedSessionId = some request.sessionId)
    (free : hasActiveSessionAssignment services rows request.sessionId = false) :
    ∀ row ∈ rows, holdSession services assigned row = false := by
  intro row member
  have idle := any_eq_false.mp free row member
  rw [eq_false_iff]
  intro holds
  simp only [holdSession, held, and_eq_true, beq_iff_eq] at holds
  exact idle (by simpa [activeWriterClaim, ← holds.2] using holds.1.1.2)

theorem writeNode_assigned {assigned candidate : MeshWorkQueueEntry}
    (on : assigned.assignedNodeId = some request.nodeId)
    (writes : writesOnNode assigned = writesOnNode candidate)
    (allows : nodeConflictAllows admission services request rows candidate = true) :
    ∀ row ∈ rows, writeNode services sameForm assigned row = false := by
  intro row member
  rw [Bool.eq_false_iff]
  intro together
  simp only [writeNode, and_eq_true, any_any_iff, on, some.injEq] at together
  obtain ⟨⟨⟨⟨-, active⟩, candidateWrites⟩, rowWrites⟩, -, node, rfl, rowOn, same⟩ := together
  rw [writes, writesOnNode, and_eq_true, not_eq_true', not_eq_true'] at candidateWrites
  rw [nodeConflictAllows, candidateWrites.1, candidateWrites.2, Bool.false_or, Bool.false_or,
    and_eq_true, not_eq_true'] at allows
  have busy : hasActiveNodeWriteAssignment services rows request.nodeId = true := by
    refine any_eq_true.mpr ⟨row, mem_filter.mpr ⟨member, active⟩, ?_⟩
    rw [rowOn, rowWrites, Option.any_some, Bool.and_true]
    exact (and_eq_true_iff.mp (sameForm_comm _ _ ▸ same)).1
  rw [busy] at allows
  cases allows.1

variable {row : MeshWorkQueueEntry}

theorem declaredPaths_of_ne_nil (declares : row.ownedPaths ≠ []) :
    declaredPaths row = row.ownedPaths := if_neg declares

theorem proofFor_ok {claiming : ClaimServices} {candidate : MeshWorkQueueEntry}
    {scope : PhysicalOwnershipScope} (proved : proofFor claiming request candidate =
      some (.ok scope)) :
    candidate.ownedPaths ≠ [] ∧
      ∃ given, claiming.currentPhysicalScope given candidate.ownedPaths = some scope := by
  rw [proofFor] at proved
  split at proved
  · cases proved
  split at proved
  · cases proved
  split at proved
  · cases proved
  next declares =>
    refine ⟨declares, ?_⟩
    split at proved
    next given _ =>
      split at proved
      next current reproduced =>
        cases proved
        exact ⟨given, reproduced⟩
      · cases proved
    · split at proved
      · cases proved
      next attested _ =>
        split at proved
        next current reproduced =>
          cases proved
          exact ⟨attested, reproduced⟩
        · cases proved

variable {entry admitted : MeshWorkQueueEntry}

theorem reproducedScope_admitted (reproduces : admission.Reproduces)
    (admits : admitProven admission.toClaimServices request entry = some admitted) :
    reproducedScope admission admitted =
      (provenScope admission request entry).or (reproducedScope admission entry) := by
  rw [provenScope]
  rw [admitProven] at admits
  split at admits
  next absent =>
    cases admits
    rw [absent]
    rfl
  · cases admits
  next scope proved =>
    obtain ⟨declares, given, gave⟩ := proofFor_ok proved
    have again := reproduces given entry.ownedPaths scope gave
    rw [again] at admits
    cases admits
    rw [proved]
    change admission.currentPhysicalScope scope (declaredPaths entry) = some scope
    rw [declaredPaths_of_ne_nil declares, again]

theorem inFlightOwnership_writer (writes : isTaskReadonly row = false) :
    inFlightOwnership admission row = some {
      taskId := row.id, paths := declaredPaths row, ownershipScope := row.ownershipScope
      readLease := false } := by
  rw [inFlightOwnership, writes]
  rfl

theorem heldScope_writer (row : MeshWorkQueueEntry) : heldScope admission {
      taskId := row.id, paths := declaredPaths row, ownershipScope := row.ownershipScope
      readLease := false } = reproducedScope admission row := by
  simp [heldScope, reproducedScope]

theorem writeOneResource_assigned (reproduces : admission.Reproduces)
    {entry admitted assigned : MeshWorkQueueEntry}
    (admits : admitProven admission.toClaimServices request entry = some admitted)
    (proves : reproducedScope admission assigned = reproducedScope admission admitted)
    (writes : isTaskReadonly assigned = isTaskReadonly entry)
    (allows : ownedPathsAllows admission services request rows entry = true) :
    ∀ row ∈ rows, row.id ≠ entry.id → writeOneResource services admission assigned row = false := by
  intro row member other
  rw [Bool.eq_false_iff]
  intro together
  simp only [writeOneResource, and_eq_true, not_eq_true'] at together
  obtain ⟨⟨⟨⟨-, active⟩, entryWrites⟩, rowWrites⟩, conflicts⟩ := together
  rw [writes] at entryWrites
  rw [proves, reproducedScope_admitted reproduces admits] at conflicts
  rw [ownedPathsAllows, findTaskOwnedPathsConflicts, if_neg (by rw [entryWrites]; decide),
    List.isEmpty_iff, List.map_eq_nil_iff, List.filter_eq_nil_iff] at allows
  refine allows _ (mem_filterMap.mpr ⟨row, ?_, inFlightOwnership_writer rowWrites⟩) ?_
  · exact mem_append_left _ (mem_filter.mpr ⟨member, active⟩)
  · rw [heldScope_writer, conflicts, Bool.or_true, Bool.and_true]
    exact decide_eq_true other

theorem assignTo_admitted
    (admits : admitProven admission.toClaimServices request entry = some admitted) :
    (assignTo request admitted).id = entry.id ∧
      isTaskReadonly (assignTo request admitted) = isTaskReadonly entry ∧
      writesOnNode (assignTo request admitted) = writesOnNode entry := by
  obtain ⟨scope, phase, rfl⟩ := admitProven_eq admits
  exact ⟨rfl, rfl, rfl⟩

theorem clears_gates {entry : MeshWorkQueueEntry}
    (clears : ∀ gate ∈ claimGates,
      clearsGate (claimServices admission services options request) request rows entry gate =
        true) :
    providerCapAllows services options request rows entry = true ∧
      nodeConflictAllows admission services request rows entry = true ∧
      ownedPathsAllows admission services request rows entry = true := by
  have cap := clears .parallelCapReached (by decide)
  have node := clears .nodeBusyWithActiveAssignment (by decide)
  have paths := clears .ownedPathsConflict (by decide)
  exact ⟨(and_eq_true_iff.mp cap).1, node, paths⟩

theorem admitProven_claimServices (entry : MeshWorkQueueEntry) :
    admitProven (claimServices admission services options request) request entry =
      admitProven admission.toClaimServices request entry := rfl

theorem ignoresHolds_holdSession : IgnoresHolds (holdSession services) := fun _ _ _ _ => rfl

theorem ignoresHolds_writeNode : IgnoresHolds (writeNode services sameForm) := fun _ _ _ _ => rfl

theorem ignoresHolds_writeOneResource : IgnoresHolds (writeOneResource services admission) :=
  fun _ _ _ _ => rfl

theorem keptApart_claim {answered : Except String (Option MeshWorkQueueEntry)}
    {later : List MeshWorkQueueEntry} (reproduces : admission.Reproduces)
    (outcome : ClaimOutcome services (claimServices admission services options request) request rows
      answered later)
    (kept : KeptApart services admission sameForm rows) :
    KeptApart services admission sameForm later := by
  obtain ⟨sessions, nodes, writers⟩ := kept
  cases outcome with
  | refused refusals =>
    exact ⟨sessions.held ignoresHolds_holdSession, nodes.held ignoresHolds_writeNode,
      writers.held ignoresHolds_writeOneResource⟩
  | @assigned refusals entry admitted member sessionFree clears admits =>
    rw [admitProven_claimServices] at admits
    obtain ⟨named, readsOnly, writesNode⟩ := assignTo_admitted admits
    have proves : reproducedScope admission (assignTo request admitted) =
        reproducedScope admission admitted := rfl
    obtain ⟨-, node, paths⟩ := clears_gates clears
    rw [← named]
    refine ⟨sessions.rewritten ignoresHolds_holdSession holdSession_comm fun row listed _ => ?_,
      nodes.rewritten ignoresHolds_writeNode writeNode_comm fun row listed _ => ?_,
      writers.rewritten ignoresHolds_writeOneResource writeOneResource_comm
        fun row listed other => ?_⟩
    · exact holdSession_assigned rfl sessionFree row listed
    · exact writeNode_assigned rfl writesNode node row listed
    · exact writeOneResource_assigned reproduces admits proves readsOnly paths row listed
        (named ▸ other)

end Keeps

section Caps

variable {services : Services} {admission : AdmissionServices} {options : ClaimOptions}
variable {request : ClaimRequest} {rows : List MeshWorkQueueEntry}

/-- No provider has more active rows on the daemon than its cap allows. -/
def WithinCaps (services : Services) (caps : String → Option ℚ) (nodeId : String)
    (daemonNodeIds : List String) (rows : List MeshWorkQueueEntry) : Prop :=
  ∀ providerType cap, caps providerType = some cap →
    (activeProviderAssignmentCount services rows nodeId providerType daemonNodeIds : ℚ) ≤ cap

theorem countP_rewritten_le (counted : MeshWorkQueueEntry → Bool)
    (ignores : ∀ row hold, counted { row with hold := hold } = counted row)
    (refusals : List (String × ClaimGate)) (assigned : MeshWorkQueueEntry) (id : String)
    (distinct : (rows.map (·.id)).Nodup) :
    (rewritten refusals id assigned rows).countP counted ≤
      rows.countP counted + if counted assigned then 1 else 0 := by
  have held : ∀ rows : List MeshWorkQueueEntry, id ∉ rows.map (·.id) →
      (rewritten refusals id assigned rows).countP counted = rows.countP counted := by
    intro rows absent
    rw [rewritten, countP_map]
    refine countP_congr fun row member => ?_
    have other : row.id ≠ id := fun named => absent (named ▸ mem_map_of_mem member)
    obtain ⟨hold, same⟩ := holdRow_eq refusals row
    simp [other, same, ignores]
  induction rows with
  | nil => simp [rewritten]
  | cons row rows induction =>
    rw [map_cons, nodup_cons] at distinct
    rw [rewritten, map_cons, countP_cons, countP_cons]
    by_cases named : row.id = id
    · have rest := held rows (named ▸ distinct.1)
      rw [rewritten] at rest
      rw [rest, if_pos named]
      omega
    have rest := induction distinct.2
    rw [rewritten] at rest
    obtain ⟨hold, same⟩ := holdRow_eq refusals row
    rw [if_neg named, same, ignores]
    omega

def charged (services : Services) (nodeId providerType : String) (daemonNodeIds : List String)
    (row : MeshWorkQueueEntry) : Bool :=
  activeWriterClaim services row &&
    (row.assignedNodeId.any
        ((expandDaemonIdForms (if daemonNodeIds = [] then [nodeId] else daemonNodeIds)).contains
          ·) &&
      row.assignedProviderType == some providerType)

theorem activeProviderAssignmentCount_eq (nodeId providerType : String)
    (daemonNodeIds : List String) :
    activeProviderAssignmentCount services rows nodeId providerType daemonNodeIds =
      rows.countP (charged services nodeId providerType daemonNodeIds) := by
  rw [activeProviderAssignmentCount, assignedRowsForDaemon, assignedRowsMeshWide,
    countP_filter, countP_filter]
  refine countP_congr fun row _ => ?_
  simp only [charged, and_eq_true]
  tauto

theorem count_lt_of_capAllows {candidate : MeshWorkQueueEntry} {providerType : String} {cap : ℚ}
    (named : namedProvider request = some providerType)
    (declared : options.providerMaxParallel = some cap) (nonnegative : 0 ≤ cap)
    (allows : providerCapAllows services options request rows candidate = true) :
    ((activeProviderAssignmentCount services rows request.nodeId providerType
      options.daemonNodeIds + 1 : Nat) : ℚ) ≤ cap := by
  rw [providerCapAllows, named, declared, filter_some, if_pos (decide_eq_true nonnegative)]
    at allows
  have below := of_decide_eq_true allows
  have floored : effectiveSlotCap cap (isTaskReadonly candidate) ≤ ⌊cap⌋ := by
    rw [effectiveSlotCap, readonlySlotBudget]
    have whole : (0 : Int) ≤ cap.floor := Int.floor_nonneg.mpr nonnegative
    change _ ≤ cap.floor
    split
    · split
      · exact max_le whole le_rfl
      · omega
    · exact le_rfl
  have room := Int.add_one_le_iff.mpr (below.trans_le floored)
  have rounded := Int.floor_le cap
  calc ((activeProviderAssignmentCount services rows request.nodeId providerType
          options.daemonNodeIds + 1 : Nat) : ℚ)
      ≤ ((⌊cap⌋ : Int) : ℚ) := by exact_mod_cast room
    _ ≤ cap := rounded

theorem withinCaps_claim {caps : String → Option ℚ} {providerType : String}
    {answered : Except String (Option MeshWorkQueueEntry)} {later : List MeshWorkQueueEntry}
    (named : namedProvider request = some providerType)
    (declared : options.providerMaxParallel = caps providerType)
    (distinct : (rows.map (·.id)).Nodup)
    (outcome : ClaimOutcome services (claimServices admission services options request) request rows
      answered later)
    (within : WithinCaps services caps request.nodeId options.daemonNodeIds rows) :
    WithinCaps services caps request.nodeId options.daemonNodeIds later := by
  intro other cap capped
  have before := within other cap capped
  cases outcome with
  | refused refusals =>
    rw [activeProviderAssignmentCount_eq, countP_map] at *
    have same : (charged services request.nodeId other options.daemonNodeIds ∘ holdRow refusals) =
        charged services request.nodeId other options.daemonNodeIds := by
      funext row
      obtain ⟨hold, held⟩ := holdRow_eq refusals row
      rw [Function.comp_apply, held]
      rfl
    rw [same]
    exact before
  | @assigned refusals entry admitted member sessionFree clears admits =>
    have counted := countP_rewritten_le
      (charged services request.nodeId other options.daemonNodeIds) (fun _ _ => rfl) refusals
      (assignTo request admitted) entry.id distinct
    rw [← activeProviderAssignmentCount_eq, ← activeProviderAssignmentCount_eq] at counted
    have stamped : (assignTo request admitted).assignedProviderType = some providerType := by
      change (namedProvider request).or _ = _
      rw [named]
      rfl
    by_cases same : other = providerType
    · subst same
      have nonnegative : 0 ≤ cap := (Nat.cast_nonneg _).trans before
      have room := count_lt_of_capAllows named (declared.trans capped) nonnegative
        (clears_gates clears).1
      refine le_trans ?_ room
      have atMostOne : (if charged services request.nodeId other options.daemonNodeIds
          (assignTo request admitted) then 1 else 0) ≤ 1 := by split <;> omega
      exact_mod_cast counted.trans (Nat.add_le_add_left atMostOne _)
    have uncharged : charged services request.nodeId other options.daemonNodeIds
        (assignTo request admitted) = false := by
      have apart : (some providerType == some other) = false := by
        simpa using fun equal => same equal.symm
      rw [charged, stamped, apart, Bool.and_false, Bool.and_false]
    rw [uncharged] at counted
    exact le_trans (by exact_mod_cast counted) before

end Caps

section Claims

structure Assignment where
  id : String
  status : TaskStatus
  nodeId : Option String
  sessionId : Option String
  dispatchNonce : Nat

def assignmentOf (row : MeshWorkQueueEntry) : Assignment where
  id := row.id
  status := row.status
  nodeId := row.assignedNodeId
  sessionId := row.assignedSessionId
  dispatchNonce := row.dispatchNonce

theorem assignmentOf_refused {services : Services} {claiming : ClaimServices}
    {request : ClaimRequest} {rows later : List MeshWorkQueueEntry}
    {answered : Except String (Option MeshWorkQueueEntry)}
    (outcome : ClaimOutcome services claiming request rows answered later)
    (refused : answered = .ok none) : later.map assignmentOf = rows.map assignmentOf := by
  cases outcome with
  | refused refusals =>
    rw [List.map_map]
    refine map_congr_left fun row _ => ?_
    obtain ⟨hold, same⟩ := holdRow_eq refusals row
    rw [Function.comp_apply, same]
    rfl
  | assigned => cases refused

/-- A claim keeps the active writers apart and within the cap of the provider it names,
and one that is refused assigns nothing. -/
theorem claim_keeps_writers_apart (services : Services) (admission : AdmissionServices)
    (options : ClaimOptions) (request : ClaimRequest) (caps : String → Option ℚ)
    (store : QueueStore) (reproduces : admission.Reproduces)
    (distinct : (store.rows.map (·.id)).Nodup) :
    let claim := claimNextQueueTask services (claimServices admission services options request)
      request store
    (KeptApart services admission sameForm store.rows →
      KeptApart services admission sameForm claim.2.rows) ∧
    (∀ providerType, namedProvider request = some providerType →
      options.providerMaxParallel = caps providerType →
      WithinCaps services caps request.nodeId options.daemonNodeIds store.rows →
        WithinCaps services caps request.nodeId options.daemonNodeIds claim.2.rows) ∧
    (claim.1 = .ok none → claim.2.rows.map assignmentOf = store.rows.map assignmentOf) := by
  have outcome : ClaimOutcome services (claimServices admission services options request) request
      store.rows _ _ := claim_outcome store
  refine ⟨keptApart_claim reproduces outcome, ?_, assignmentOf_refused outcome⟩
  intro providerType named declared
  exact withinCaps_claim named declared distinct outcome

instance (related : MeshWorkQueueEntry → MeshWorkQueueEntry → Bool)
    (rows : List MeshWorkQueueEntry) : Decidable (Apart related rows) :=
  inferInstanceAs (Decidable (∀ row ∈ rows, ∀ other ∈ rows,
    related row other = true → row.id = other.id))

def checkoutAt (nodeId workspace : String) (paths : List OwnedPathEntry) :
    PhysicalOwnershipScope where
  repoIdentity := "repo"
  machineId := "machine"
  nodeId := nodeId
  worktree := workspace
  phase := .source
  declaration := paths
  worktreeIdentity := workspace
  gitDir := workspace ++ "/.git"
  commonGitDir := "/repo/.git"

def willingAdmission : AdmissionServices where
  toClaimServices := { willingClaim with
    attestOwnership := fun context nodeId entry _ =>
      .ok (checkoutAt nodeId context.workspace entry.ownedPaths) }
  reviewInputScope _ := none
  pendingLaunchReservation _ := false
  realpath := some

def claimedRow (id nodeId : String) (paths : List OwnedPathEntry) : MeshWorkQueueEntry where
  id := id
  phase := some .source
  dependsOn := []
  message := id
  status := .assigned
  difficulty := "easy"
  ownedPaths := paths
  ownershipScope := some (checkoutAt nodeId "/one" paths)
  assignedNodeId := some nodeId
  assignedSessionId := some "first"
  assignedProviderType := some "claude"

def waitingRow (id : String) (paths : List OwnedPathEntry) : MeshWorkQueueEntry where
  id := id
  phase := some .source
  dependsOn := []
  message := id
  status := .pending
  difficulty := "easy"
  ownedPaths := paths

def twoTasks (nodeId : String) : QueueStore :=
  ⟨[claimedRow "parser" nodeId [⟨"src/parser", true⟩],
    waitingRow "printer" [⟨"src/printer", true⟩]]⟩

def secondClaim : ClaimRequest where
  nodeId := "lab"
  sessionId := "second"
  physicalContext := some ⟨"/two", "machine", "repo"⟩
  providerType := some "claude"

theorem willingAdmission_reproduces : willingAdmission.Reproduces :=
  fun _ _ _ _ => rfl

theorem claim_keeps_writers_apart_elsewhere :
    KeptApart willing willingAdmission sameForm (claimNextQueueTask willing
      (claimServices willingAdmission willing { providerMaxParallel := some 2 } secondClaim)
      secondClaim (twoTasks "desk")).2.rows :=
  (claim_keeps_writers_apart willing willingAdmission { providerMaxParallel := some 2 } secondClaim
    (fun _ => some 2) (twoTasks "desk") willingAdmission_reproduces (by decide)).1
      ⟨by decide, by decide, by decide⟩

def stampedTasks : QueueStore :=
  ⟨[claimedRow "parser" "desk" [⟨"src/parser", true⟩],
    { waitingRow "printer" [⟨"src/printer", true⟩] with assignedProviderType := some "claude" }]⟩

def oneClaude (providerType : String) : Option ℚ := if providerType = "claude" then some 1 else none

/-- Two spellings that name one node each take a writer, and a claim that names no provider
exceeds the cap of the one stamped on the row. -/
theorem claims_pass_spellings_and_stamps :
    (¬ ∀ (services : Services) (admission : AdmissionServices) (options : ClaimOptions)
      (request : ClaimRequest) (store : QueueStore), admission.Reproduces →
        (store.rows.map (·.id)).Nodup →
          KeptApart services admission daemonIdsEquivalent store.rows →
            KeptApart services admission daemonIdsEquivalent (claimNextQueueTask services
              (claimServices admission services options request) request store).2.rows) ∧
    ¬ ∀ (services : Services) (admission : AdmissionServices) (options : ClaimOptions)
      (request : ClaimRequest) (caps : String → Option ℚ) (store : QueueStore),
        admission.Reproduces → (store.rows.map (·.id)).Nodup →
          (∀ providerType, namedProvider request = some providerType →
            options.providerMaxParallel = caps providerType) →
            WithinCaps services caps request.nodeId options.daemonNodeIds store.rows →
              WithinCaps services caps request.nodeId options.daemonNodeIds (claimNextQueueTask
                services (claimServices admission services options request) request
                  store).2.rows := by
  constructor
  · intro keeps
    have kept := keeps willing willingAdmission { providerMaxParallel := some 2 } secondClaim
      (twoTasks "daemon_lab") willingAdmission_reproduces (by decide)
      ⟨by decide, by decide, by decide⟩
    exact absurd kept.nodes (by decide)
  intro keeps
  have within := keeps willing willingAdmission { daemonNodeIds := ["desk", "lab"] }
    { secondClaim with providerType := none } oneClaude stampedTasks willingAdmission_reproduces
    (by decide) (fun _ named => by cases named) ?_ "claude" 1 rfl
  · have two : activeProviderAssignmentCount willing (claimNextQueueTask willing
        (claimServices willingAdmission willing { daemonNodeIds := ["desk", "lab"] }
          { secondClaim with providerType := none })
        { secondClaim with providerType := none } stampedTasks).2.rows "lab" "claude"
          ["desk", "lab"] = 2 := by decide
    change ((activeProviderAssignmentCount willing _ "lab" "claude" ["desk", "lab"] : Nat) : ℚ)
      ≤ 1 at within
    rw [two] at within
    norm_num at within
  · intro providerType cap capped
    rw [oneClaude] at capped
    split at capped
    next named =>
      cases capped
      have one : activeProviderAssignmentCount willing stampedTasks.rows "lab" "claude"
          ["desk", "lab"] = 1 := by decide
      subst named
      change ((activeProviderAssignmentCount willing stampedTasks.rows "lab" "claude"
        ["desk", "lab"] : Nat) : ℚ) ≤ 1
      rw [one]
      norm_num
    · cases capped

end Claims

end Adhdev.TaskQueue
