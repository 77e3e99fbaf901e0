import Adhdev.TaskQueue.WritersApart

/-! # Which task a claim takes

The candidates of a claim come in one stable order. The claim takes the first of them that meets
every admission predicate, or reports how far the best of them came. The gate of the difficulty
floor is loosened for a session whose model is unknown; that changes the report only.
-/

namespace Adhdev.TaskQueue

open Call MeshShared List Option Bool

section Selection

variable {α : Type}

inductive ClaimSelection (α : Type)
  | entry (entry : α)
  | refused (deepest : Option (Nat × α))

/-- `failedAt` is the index of the first gate that a candidate fails. -/
def selectDeepest (failedAt : α → Option Nat) : Option (Nat × α) → List α → ClaimSelection α
  | deepest, [] => .refused deepest
  | deepest, candidate :: candidates =>
    match failedAt candidate with
    | none => .entry candidate
    | some index =>
      selectDeepest failedAt
        (if deepest.all fun known => known.1 < index then some (index, candidate) else deepest)
        candidates

variable {failedAt : α → Option Nat} {candidates : List α}

theorem selectDeepest_of_find {entry : α} (deepest : Option (Nat × α))
    (found : candidates.find? (fun candidate => (failedAt candidate).isNone) = some entry) :
    selectDeepest failedAt deepest candidates = .entry entry := by
  induction candidates generalizing deepest with
  | nil => cases found
  | cons candidate candidates induction =>
    rw [selectDeepest]
    cases failed : failedAt candidate with
    | none =>
      rw [find?_cons_of_pos (by simp [failed])] at found
      cases found
      rfl
    | some index =>
      rw [find?_cons_of_neg (by simp [failed])] at found
      exact induction _ found

/-- What is remembered of the candidates so far. -/
def Deepest (failedAt : α → Option Nat) (seen : List α) : Option (Nat × α) → Prop
  | none => seen = []
  | some (index, candidate) => candidate ∈ seen ∧ failedAt candidate = some index ∧
      ∀ other ∈ seen, ∀ reached, failedAt other = some reached → reached ≤ index

theorem Deepest.snoc {seen : List α} {deepest : Option (Nat × α)}
    (holds : Deepest failedAt seen deepest) {candidate : α} {index : Nat}
    (failed : failedAt candidate = some index) : Deepest failedAt (seen ++ [candidate])
      (if deepest.all fun known => known.1 < index then some (index, candidate) else deepest) := by
  cases deepest with
  | none =>
    have empty : seen = [] := holds
    subst empty
    refine ⟨by simp, failed, fun other member reached reaches => ?_⟩
    have same : other = candidate := by simpa using member
    rw [same, failed] at reaches
    exact Nat.le_of_eq (some.inj reaches).symm
  | some known =>
    obtain ⟨least, best⟩ := known
    obtain ⟨member, reachesBest, most⟩ := holds
    have last : ∀ other ∈ seen ++ [candidate], other ∈ seen ∨ other = candidate := by simp
    by_cases further : least < index
    · have taken : (some (least, best)).all (fun known => known.1 < index) = true := by
        simpa using further
      rw [if_pos taken]
      refine ⟨by simp, failed, fun other present reached reaches => ?_⟩
      rcases last other present with old | same
      · exact Nat.le_trans (most other old reached reaches) (Nat.le_of_lt further)
      · rw [same, failed] at reaches
        exact Nat.le_of_eq (some.inj reaches).symm
    have kept : ¬ (some (least, best)).all (fun known => known.1 < index) = true := by
      simpa using further
    rw [if_neg kept]
    refine ⟨mem_append_left _ member, reachesBest, fun other present reached reaches => ?_⟩
    rcases last other present with old | same
    · exact most other old reached reaches
    rw [same, failed] at reaches
    have equal := some.inj reaches
    omega

theorem selectDeepest_refused {seen : List α} {deepest : Option (Nat × α)}
    (holds : Deepest failedAt seen deepest)
    (missing : candidates.find? (fun candidate => (failedAt candidate).isNone) = none) :
    ∃ last, selectDeepest failedAt deepest candidates = .refused last ∧
      Deepest failedAt (seen ++ candidates) last := by
  induction candidates generalizing seen deepest with
  | nil => exact ⟨deepest, rfl, by rwa [append_nil]⟩
  | cons candidate candidates induction =>
    have refuses := find?_eq_none.mp missing candidate mem_cons_self
    cases failed : failedAt candidate with
    | none => simp [failed] at refuses
    | some index =>
      have rest : candidates.find? (fun candidate => (failedAt candidate).isNone) = none :=
        find?_eq_none.mpr fun other member =>
          find?_eq_none.mp missing other (.tail _ member)
      obtain ⟨last, selected, deep⟩ := induction (holds.snoc failed) rest
      refine ⟨last, ?_, by rwa [append_assoc] at deep⟩
      simp only [selectDeepest, failed]
      exact selected

end Selection

section Order

def claimTier (services : ClaimServices) (request : ClaimRequest) (row : MeshWorkQueueEntry) :
    Option Nat :=
  if row.targetSessionId = some request.sessionId then some 0
  else if row.targetSessionId.isSome then none
  else
    match row.targetNodeId with
    | none => some 2
    | some nodeId =>
      if (services.expandDaemonIdForms request.nodeId).contains nodeId then some 1 else none

/-- Earlier tiers first, then higher priorities. -/
def offeredBefore (services : ClaimServices) (request : ClaimRequest)
    (left right : MeshWorkQueueEntry) : Prop :=
  (claimTier services request left).getD 0 < (claimTier services request right).getD 0 ∨
    (claimTier services request left).getD 0 = (claimTier services request right).getD 0 ∧
      priorityRank right.priority ≤ priorityRank left.priority

instance decidableOfferedBefore (services : ClaimServices) (request : ClaimRequest) :
    DecidableRel (offeredBefore services request) :=
  fun left right => inferInstanceAs (Decidable (
    (claimTier services request left).getD 0 < (claimTier services request right).getD 0 ∨ _))

variable {α : Type} {order : α → α → Prop} [DecidableRel order]

theorem orderedInsert_append_left {value : α} {left right : List α}
    (before : ∀ other ∈ right, order value other) :
    (left ++ right).orderedInsert order value = left.orderedInsert order value ++ right := by
  induction left with
  | nil =>
    cases right with
    | nil => rfl
    | cons head right =>
      rw [nil_append]
      exact if_pos (before head mem_cons_self)
  | cons head left induction =>
    rw [cons_append, orderedInsert, orderedInsert]
    by_cases first : order value head
    · rw [if_pos first, if_pos first]
      rfl
    · rw [if_neg first, if_neg first, induction]
      rfl

theorem orderedInsert_append_right {value : α} {left right : List α}
    (after : ∀ other ∈ left, ¬ order value other) :
    (left ++ right).orderedInsert order value = left ++ right.orderedInsert order value := by
  induction left with
  | nil => rfl
  | cons head left induction =>
    rw [cons_append, orderedInsert, if_neg (after head mem_cons_self),
      induction (forall_mem_cons.mp after).2, cons_append]

theorem orderedInsert_congr {other : α → α → Prop} [DecidableRel other] {value : α}
    {values : List α} (same : ∀ one ∈ values, order value one ↔ other value one) :
    values.orderedInsert order value = values.orderedInsert other value := by
  induction values with
  | nil => rfl
  | cons head values induction =>
    have rest := induction (forall_mem_cons.mp same).2
    rw [orderedInsert, orderedInsert, rest]
    by_cases first : order value head
    · rw [if_pos first, if_pos ((same head mem_cons_self).mp first)]
    · rw [if_neg first, if_neg fun second => first ((same head mem_cons_self).mpr second)]

variable {services : ClaimServices} {request : ClaimRequest} {rows : List MeshWorkQueueEntry}
variable {row : MeshWorkQueueEntry}

def isOffered (services : ClaimServices) (request : ClaimRequest) (row : MeshWorkQueueEntry) :
    Bool :=
  row.status = .pending && (claimTier services request row).isSome

/-- The pending rows of one tier, as `claimCandidates` lists them. -/
def tierAt (services : ClaimServices) (request : ClaimRequest) (rows : List MeshWorkQueueEntry)
    (place : Nat) : List MeshWorkQueueEntry :=
  tier rows fun row => claimTier services request row = some place

variable {place : Nat}

theorem claimTier_of_mem (member : row ∈ tierAt services request rows place) :
    claimTier services request row = some place := by
  rw [tierAt, tier, mem_insertionSort] at member
  have kept := (mem_filter.mp member).2
  rw [and_eq_true, decide_eq_true_eq, decide_eq_true_eq] at kept
  exact kept.2

theorem tierAt_cons (row : MeshWorkQueueEntry) (place : Nat) :
    tierAt services request (row :: rows) place =
      if row.status = .pending ∧ claimTier services request row = some place then
        (tierAt services request rows place).orderedInsert
          (fun left right => priorityRank right.priority ≤ priorityRank left.priority) row
      else tierAt services request rows place := by
  rw [tierAt, tier, filter_cons]
  by_cases kept : row.status = .pending ∧ claimTier services request row = some place
  · rw [if_pos kept, if_pos (by simpa using kept)]
    rfl
  · rw [if_neg kept, if_neg (by simpa using kept)]
    rfl

variable {other : MeshWorkQueueEntry}

theorem offeredBefore_iff (here : claimTier services request row = some place)
    (member : other ∈ tierAt services request rows place) :
    offeredBefore services request row other ↔
      priorityRank other.priority ≤ priorityRank row.priority := by
  rw [offeredBefore, here, claimTier_of_mem member]
  simp

theorem offeredBefore_of_lt {place later : Nat} (here : claimTier services request row = some place)
    (less : place < later) (member : other ∈ tierAt services request rows later) :
    offeredBefore services request row other := by
  rw [offeredBefore, here, claimTier_of_mem member]
  exact .inl less

theorem not_offeredBefore_of_lt {place earlier : Nat}
    (here : claimTier services request row = some place) (less : earlier < place)
    (member : other ∈ tierAt services request rows earlier) :
    ¬ offeredBefore services request row other := by
  rw [offeredBefore, here, claimTier_of_mem member]
  simp only [getD_some]
  omega

theorem claimTier_le_two (here : claimTier services request row = some place) :
    place = 0 ∨ place = 1 ∨ place = 2 := by
  rw [claimTier] at here
  split_ifs at here with pinned other
  · exact .inl (some.inj here).symm
  split at here
  · exact .inr (.inr (some.inj here).symm)
  · split_ifs at here
    exact .inr (.inl (some.inj here).symm)

theorem orderedInsert_tierAt (here : claimTier services request row = some place) :
    (tierAt services request rows place).orderedInsert (offeredBefore services request) row =
      (tierAt services request rows place).orderedInsert
        (fun left right => priorityRank right.priority ≤ priorityRank left.priority) row :=
  orderedInsert_congr fun _ member => offeredBefore_iff here member

theorem tiers_eq_sorted : tierAt services request rows 0 ++ (tierAt services request rows 1 ++
        tierAt services request rows 2) =
      (rows.filter (isOffered services request)).insertionSort
      (offeredBefore services request) := by
  induction rows with
  | nil => rfl
  | cons row rows induction =>
    simp only [tierAt_cons]
    by_cases pending : row.status = .pending
    · cases here : claimTier services request row with
      | none =>
        rw [filter_cons_of_neg (by simp [isOffered, here]), ← induction]
        simp
      | some place =>
        rw [filter_cons_of_pos (by simp [isOffered, pending, here]),
          insertionSort_cons, ← induction]
        rcases claimTier_le_two here with rfl | rfl | rfl
        · rw [orderedInsert_append_left, orderedInsert_tierAt here]
          · simp [pending]
          intro other member
          rcases mem_append.mp member with second | third
          · exact offeredBefore_of_lt here Nat.zero_lt_one second
          · exact offeredBefore_of_lt here Nat.zero_lt_two third
        · rw [orderedInsert_append_right fun _ member =>
              not_offeredBefore_of_lt here Nat.zero_lt_one member,
            orderedInsert_append_left fun _ member =>
              offeredBefore_of_lt here Nat.one_lt_two member, orderedInsert_tierAt here]
          simp [pending]
        rw [orderedInsert_append_right fun _ member =>
            not_offeredBefore_of_lt here Nat.zero_lt_two member,
          orderedInsert_append_right fun _ member =>
            not_offeredBefore_of_lt here Nat.one_lt_two member, orderedInsert_tierAt here]
        simp [pending]
    · rw [filter_cons_of_neg (by simp [isOffered, pending]), ← induction]
      simp [pending]

def claimAllows (request : ClaimRequest) (row : MeshWorkQueueEntry) : Bool :=
  lightClaimAllows request row && (!request.onlyQuotaOverridden || row.quotaOverriddenByOwner)

theorem tier_congr {offered other : MeshWorkQueueEntry → Bool}
    (same : ∀ row, offered row = other row) : tier rows offered = tier rows other := by
  rw [funext same]

theorem claimCandidates_eq : claimCandidates services request rows =
      ((rows.filter (isOffered services request)).insertionSort
        (offeredBefore services request)).filter (claimAllows request) := by
  rw [← tiers_eq_sorted, claimCandidates]
  have first : ∀ row : MeshWorkQueueEntry, decide (row.targetSessionId = some request.sessionId) =
      decide (claimTier services request row = some 0) := by
    intro row
    rw [claimTier]
    cases row.targetSessionId <;> cases row.targetNodeId <;> simp
  have second : ∀ row : MeshWorkQueueEntry, (row.targetSessionId.isNone && row.targetNodeId.any
      ((services.expandDaemonIdForms request.nodeId).contains ·)) =
      decide (claimTier services request row = some 1) := by
    intro row
    rw [claimTier]
    cases row.targetSessionId <;> cases row.targetNodeId <;> simp
  have third : ∀ row : MeshWorkQueueEntry, (row.targetSessionId.isNone && row.targetNodeId.isNone) =
      decide (claimTier services request row = some 2) := by
    intro row
    rw [claimTier]
    cases row.targetSessionId <;> cases row.targetNodeId <;> simp
  rw [tier_congr first, tier_congr second, tier_congr third, append_assoc]
  rfl

end Order

section Gates

/-- What the caller says of the session's model: the grades it may run, if they are known, and its
name, empty when it is not known. -/
structure DifficultyFloor where
  allowedTaskDifficulties : Option (List String)
  assignedModel : String

def difficultyAllows (floor : DifficultyFloor) (candidate : MeshWorkQueueEntry) : Bool :=
  floor.allowedTaskDifficulties.all fun allowed =>
    candidate.difficulty = "freeform" || candidate.difficulty = "" ||
      allowed.contains candidate.difficulty

def flooredServices (claiming : ClaimServices) (floor : DifficultyFloor) : ClaimServices :=
  { claiming with
    passes := fun gate rows candidate =>
      match gate with
      | .difficultyFloorUnmet =>
        difficultyAllows floor candidate ||
          (floor.assignedModel = "" && claiming.passes .parallelCapReached rows candidate &&
            claiming.passes .nodeBusyWithActiveAssignment rows candidate &&
            !claiming.passes .ownedPathsConflict rows candidate)
      | gate => claiming.passes gate rows candidate }

def admissionHolds (claiming : ClaimServices) (floor : DifficultyFloor) (request : ClaimRequest)
    (rows : List MeshWorkQueueEntry) (candidate : MeshWorkQueueEntry) : ClaimGate → Bool
  | .difficultyFloorUnmet => difficultyAllows floor candidate
  | gate => clearsGate claiming request rows candidate gate

def isAdmissible (claiming : ClaimServices) (floor : DifficultyFloor) (request : ClaimRequest)
    (rows : List MeshWorkQueueEntry) (candidate : MeshWorkQueueEntry) : Bool :=
  claimGates.all (admissionHolds claiming floor request rows candidate)

variable {claiming : ClaimServices} {floor : DifficultyFloor} {request : ClaimRequest}
variable {rows : List MeshWorkQueueEntry} {candidate : MeshWorkQueueEntry}

theorem clearsGate_floored {gate : ClaimGate} (other : gate ≠ .difficultyFloorUnmet) :
    clearsGate (flooredServices claiming floor) request rows candidate gate =
      admissionHolds claiming floor request rows candidate gate := by
  cases gate with
  | difficultyFloorUnmet => exact absurd rfl other
  | _ => rfl

theorem clearsGate_floor :
    clearsGate (flooredServices claiming floor) request rows candidate .difficultyFloorUnmet =
      (difficultyAllows floor candidate ||
        (floor.assignedModel = "" && claiming.passes .parallelCapReached rows candidate &&
          claiming.passes .nodeBusyWithActiveAssignment rows candidate &&
          !claiming.passes .ownedPathsConflict rows candidate)) := rfl

theorem refusingGate_isNone_iff :
    (refusingGate (flooredServices claiming floor) request rows candidate).isNone =
      isAdmissible claiming floor request rows candidate := by
  rw [Bool.eq_iff_iff, Option.isNone_iff_eq_none, refusingGate, List.find?_eq_none, isAdmissible,
    List.all_eq_true]
  have conflict : ClaimGate.ownedPathsConflict ∈ claimGates := by decide
  constructor
  · intro clears gate member
    by_cases floors : gate = .difficultyFloorUnmet
    · subst floors
      have loosened := clears _ member
      have owned := clears _ conflict
      rw [clearsGate_floored (by simp)] at owned
      rw [clearsGate_floor] at loosened
      have kept : claiming.passes .ownedPathsConflict rows candidate = true := by
        simpa [admissionHolds, clearsGate] using owned
      simpa [kept, admissionHolds] using loosened
    have cleared := clears gate member
    rw [clearsGate_floored floors] at cleared
    simpa using cleared
  intro holds gate member
  have own := holds gate member
  by_cases floors : gate = .difficultyFloorUnmet
  · subst floors
    rw [clearsGate_floor]
    have allows : difficultyAllows floor candidate = true := own
    simp [allows]
  · rw [clearsGate_floored floors]
    simpa using own

end Gates

section Refusal

inductive MeshClaimRefusalReason
  | noPendingCandidates | newWorkHeld | sessionAlreadyAssigned
  | gate (gate : ClaimGate)

/-- The index of the first gate that the candidate fails. -/
def failedAt (claiming : ClaimServices) (request : ClaimRequest) (rows : List MeshWorkQueueEntry)
    (candidate : MeshWorkQueueEntry) : Option Nat :=
  claimGates.findIdx? fun gate => !clearsGate claiming request rows candidate gate

def claimRefusal (services : Services) (claiming : ClaimServices) (request : ClaimRequest)
    (frozenOrStopping : Bool) (rows : List MeshWorkQueueEntry) : Option MeshClaimRefusalReason :=
  if frozenOrStopping then none
  else if claiming.newWorkRefused then some .newWorkHeld
  else if hasActiveSessionAssignment services rows request.sessionId then
    some .sessionAlreadyAssigned
  else
    match selectDeepest (failedAt claiming request rows) none
        (claimCandidates claiming request rows) with
    | .entry entry =>
      if (admitProven claiming request entry).isNone then some (.gate .ownershipUnproven) else none
    | .refused none => some .noPendingCandidates
    | .refused (some (index, _)) => claimGates[index]?.map .gate

variable {services : Services} {claiming : ClaimServices} {floor : DifficultyFloor}
variable {request : ClaimRequest} {rows : List MeshWorkQueueEntry}
variable {candidate : MeshWorkQueueEntry} {store : QueueStore}

theorem failedAt_isNone : (failedAt claiming request rows candidate).isNone =
      (refusingGate claiming request rows candidate).isNone := by
  rw [Bool.eq_iff_iff, Option.isNone_iff_eq_none, Option.isNone_iff_eq_none, failedAt, refusingGate,
    findIdx?_eq_none_iff, find?_eq_none]
  simp

theorem gate_of_failedAt {index : Nat} (failed : failedAt claiming request rows candidate =
    some index) :
    ∃ gate, claimGates[index]? = some gate ∧
      refusingGate claiming request rows candidate = some gate := by
  rw [failedAt, findIdx?_eq_some_iff_getElem] at failed
  obtain ⟨inside, refuses, clears⟩ := failed
  refine ⟨claimGates[index], getElem?_eq_getElem inside, ?_⟩
  rw [refusingGate, find?_eq_some_iff_getElem]
  refine ⟨refuses, index, inside, rfl, fun earlier less => ?_⟩
  simpa using clears earlier less

theorem selectClaimCandidate_entry {refusal : MeshWorkQueueEntry → Option ClaimGate}
    {candidates : List MeshWorkQueueEntry} : (selectClaimCandidate refusal candidates).2 =
      candidates.find? fun candidate => (refusal candidate).isNone := by
  induction candidates with
  | nil => rfl
  | cons candidate candidates induction =>
    rw [selectClaimCandidate]
    cases refused : refusal candidate with
    | none => rw [find?_cons_of_pos (by simp [refused])]
    | some gate =>
      rw [find?_cons_of_neg (by simp [refused])]
      exact induction

theorem claimNextQueueTask_answer : (claimNextQueueTask services claiming request store).1 =
      .ok (if claiming.newWorkRefused ||
          hasActiveSessionAssignment services store.rows request.sessionId then none
        else ((claimSelection claiming request store.rows).2.bind
          (admitProven claiming request)).map (assignTo request)) := by
  rw [claimNextQueueTask_eq]
  cases refusing :
      claiming.newWorkRefused || hasActiveSessionAssignment services store.rows
        request.sessionId with
  | true => rfl
  | false =>
    cases admits : (claimSelection claiming request store.rows).2.bind
        (admitProven claiming request) <;> rfl

theorem claimSelection_floored : (claimSelection (flooredServices claiming floor) request rows).2 =
      (claimCandidates claiming request rows).find? (isAdmissible claiming floor request rows) := by
  rw [claimSelection, selectClaimCandidate_entry]
  simp only [refusingGate_isNone_iff]
  rfl

def gatesPassed (claiming : ClaimServices) (request : ClaimRequest)
    (rows : List MeshWorkQueueEntry) (candidate : MeshWorkQueueEntry) : Nat :=
  (failedAt claiming request rows candidate).getD claimGates.length

theorem selectDeepest_floored : ((claimCandidates claiming request rows).find?
        fun candidate => (failedAt (flooredServices claiming floor) request rows
          candidate).isNone) =
      (claimCandidates claiming request rows).find? (isAdmissible claiming floor request rows) := by
  simp only [failedAt_isNone, refusingGate_isNone_iff]

theorem claimRefusal_furthest {frozenOrStopping : Bool} (thawed : frozenOrStopping = false)
    (free : (claiming.newWorkRefused ||
      hasActiveSessionAssignment services rows request.sessionId) = false)
    (missing : (claimCandidates claiming request rows).find?
      (isAdmissible claiming floor request rows) = none)
    (offered : claimCandidates claiming request rows ≠ []) :
    ∃ candidate ∈ claimCandidates claiming request rows, ∃ gate,
      claimRefusal services (flooredServices claiming floor) request frozenOrStopping rows =
        some (.gate gate) ∧
      refusingGate (flooredServices claiming floor) request rows candidate = some gate ∧
      ∀ other ∈ claimCandidates claiming request rows,
        gatesPassed (flooredServices claiming floor) request rows other ≤
          gatesPassed (flooredServices claiming floor) request rows candidate := by
  have unfound := missing
  rw [← selectDeepest_floored] at unfound
  have started : Deepest (failedAt (flooredServices claiming floor) request rows) [] none := rfl
  obtain ⟨last, selected, deep⟩ := selectDeepest_refused started unfound
  rw [nil_append] at deep
  cases last with
  | none => exact absurd deep offered
  | some known =>
    obtain ⟨index, candidate⟩ := known
    obtain ⟨member, failed, most⟩ := deep
    obtain ⟨gate, named, refused⟩ := gate_of_failedAt failed
    obtain ⟨unheld, unassigned⟩ := or_eq_false_iff.mp free
    refine ⟨candidate, member, gate, ?_, refused, fun other present => ?_⟩
    · have selected : selectDeepest (failedAt (flooredServices claiming floor) request rows) none
          (claimCandidates (flooredServices claiming floor) request rows) =
          .refused (some (index, candidate)) := selected
      rw [claimRefusal, thawed, show (flooredServices claiming floor).newWorkRefused = false from
        unheld, unassigned, selected]
      simp [named]
    rw [gatesPassed, gatesPassed, failed]
    cases reached : failedAt (flooredServices claiming floor) request rows other with
    | none =>
      have refuses := find?_eq_none.mp unfound other present
      simp [reached] at refuses
    | some passed => exact most other present passed reached

/-- A claim that is not refused takes the first admissible row of those offered, in their order,
and every earlier one is inadmissible. -/
theorem claimNextQueueTask_takes_first (services : Services) (claiming : ClaimServices)
    (floor : DifficultyFloor) (request : ClaimRequest) (store : QueueStore) :
    let candidates := claimCandidates claiming request store.rows
    let chosen := candidates.find? (isAdmissible claiming floor request store.rows)
    let refused := claiming.newWorkRefused ||
      hasActiveSessionAssignment services store.rows request.sessionId
    let refusal := claimRefusal services (flooredServices claiming floor) request false store.rows
    (claimNextQueueTask services (flooredServices claiming floor) request store).1 =
        .ok (if refused then none
          else (chosen.bind (admitProven claiming request)).map (assignTo request)) ∧
      candidates = ((store.rows.filter (isOffered claiming request)).insertionSort
        (offeredBefore claiming request)).filter (claimAllows request) ∧
      (refused = false → candidates = [] → refusal = some .noPendingCandidates) ∧
      (refused = false → candidates ≠ [] → chosen = none →
        ∃ candidate ∈ candidates, ∃ gate, refusal = some (.gate gate) ∧
          refusingGate (flooredServices claiming floor) request store.rows candidate = some gate ∧
          ∀ other ∈ candidates,
            gatesPassed (flooredServices claiming floor) request store.rows other ≤
              gatesPassed (flooredServices claiming floor) request store.rows candidate) ∧
      ∀ entry, refused = false → chosen = some entry →
        admitProven claiming request entry = none → refusal = some (.gate .ownershipUnproven) := by
  intro candidates chosen refused refusal
  refine ⟨?_, claimCandidates_eq, fun free empty => ?_, fun free offered missing => ?_,
    fun entry free found unproven => ?_⟩
  · rw [claimNextQueueTask_answer, claimSelection_floored]
    rfl
  · obtain ⟨unheld, unassigned⟩ := Bool.or_eq_false_iff.mp free
    have none_left : claimCandidates (flooredServices claiming floor) request store.rows = [] :=
        empty
    rw [show refusal = claimRefusal services (flooredServices claiming floor) request false
      store.rows from rfl, claimRefusal, show (flooredServices claiming floor).newWorkRefused =
        false
      from unheld, unassigned, none_left]
    rfl
  · exact claimRefusal_furthest rfl free missing offered
  · obtain ⟨unheld, unassigned⟩ := Bool.or_eq_false_iff.mp free
    have first : (claimCandidates claiming request store.rows).find?
        (isAdmissible claiming floor request store.rows) = some entry := found
    rw [← selectDeepest_floored] at first
    have selected : selectDeepest (failedAt (flooredServices claiming floor) request store.rows)
        none
        (claimCandidates (flooredServices claiming floor) request store.rows) = .entry entry :=
      selectDeepest_of_find none first
    rw [show refusal = claimRefusal services (flooredServices claiming floor) request false
      store.rows from rfl, claimRefusal, show (flooredServices claiming floor).newWorkRefused =
        false
      from unheld, unassigned, selected]
    have failed : admitProven (flooredServices claiming floor) request entry = none := unproven
    simp [failed]

def openFloor : DifficultyFloor := ⟨none, "opus"⟩

theorem busy_session_takes_nothing :
    (∃ candidate ∈ claimCandidates willingClaim { nodeId := "desk", sessionId := "first" }
        (twoTasks "desk").rows,
      isAdmissible willingClaim openFloor { nodeId := "desk", sessionId := "first" }
        (twoTasks "desk").rows candidate = true) ∧
      (claimNextQueueTask willing (flooredServices willingClaim openFloor)
        { nodeId := "desk", sessionId := "first" } (twoTasks "desk")).1 = .ok none := by
  refine ⟨⟨waitingRow "printer" [⟨"src/printer", true⟩], by decide, by decide⟩, ?_⟩
  rw [claimNextQueueTask_answer, if_pos (by decide)]

end Refusal

end Adhdev.TaskQueue
