import Adhdev.TurnLedger.Reducer

/-! # The turn tables

`turn-ledger/store.ts` and the constraints of `schema.ts`: the attempts, holds and
event rows of one database. A table is a map keyed by its primary key, in rowid
order. Columns that no reader here uses (timestamps of probes, the dispatch's
input) are left out. -/

namespace Adhdev.TurnLedger

open MeshShared

/-! ## Attempts -/

structure AttemptRow where
  attempt : TurnAttempt
  createdAt : Int
  updatedAt : Int

def AttemptRow.attemptId (row : AttemptRow) : String := row.attempt.attemptId

/-- `terminal_outcome IS NULL`. -/
def AttemptRow.isOpen (row : AttemptRow) : Bool := row.attempt.terminal.isNone

/-! ## Holds -/

structure HoldRow where
  hold : TurnHold
  active : Bool
  resolvedAt : Option Int

def HoldRow.holdId (row : HoldRow) : String := row.hold.holdId

/-! ## Events -/

inductive EventKind
  | evidence (kind : TurnEvidenceKind)
  | committed | notify | reclaim | cancelDispatch | redeliver
  deriving DecidableEq

inductive EventVerdict
  | applied | recorded | rejected | forwarded
  deriving DecidableEq

inductive PublishState
  | none | pending | published
  deriving DecidableEq

inductive RowNote
  | note (note : RecordNote)
  | openAttemptConflict
  | forwardWithoutAttemptRef
  deriving DecidableEq

structure LivenessSamples where
  count : Nat
  latest : TurnEvidence

/-- `otherKeys`: the payload has a key besides the mesh id and these three. -/
structure EventPayload where
  evidence : Option TurnEvidence
  notes : List RowNote := []
  livenessSamples : Option LivenessSamples := none
  otherKeys : Bool

structure EventRow where
  eventId : String
  meshId : Option String
  attemptId : Option String
  generation : Option Int
  sessionId : String
  kind : EventKind
  source : EvidenceSourceId
  verdict : EventVerdict
  rule : Option ResultRule := none
  rejection : Option ReduceRejection := none
  dedupeKey : String
  fromState : Option TurnState := none
  toState : Option TurnState := none
  payload : EventPayload
  observedBy : Option String
  srcWriter : Option String := none
  srcSeq : Option Int := none
  publishState : PublishState
  atMs : Int
  recordedAt : Int

structure TurnTables where
  attempts : KeyedMap AttemptRow.attemptId
  holds : KeyedMap HoldRow.holdId
  events : KeyedMap EventRow.eventId

/-- A constraint other than a primary key that a write ran into. -/
inductive IndexViolation
  | openSession
  | task

namespace TurnTables

def empty : TurnTables := ⟨KeyedMap.empty, KeyedMap.empty, KeyedMap.empty⟩

variable (tables : TurnTables)

/-! ## Reading attempts -/

def getAttempt (attemptId : String) : Option TurnAttempt :=
  (KeyedMap.lookup AttemptRow.attemptId tables.attempts.entries attemptId).map (·.attempt)

def findOpenAttemptForSession (sessionId : String) : Option TurnAttempt :=
  (tables.attempts.entries.find? fun row =>
    row.attempt.sessionId == sessionId && row.isOpen).map (·.attempt)

/-- Does `row` come before `best` in `ORDER BY attempt_no DESC, created_at DESC`? -/
def isLaterAttempt (row best : AttemptRow) : Bool :=
  best.attempt.attemptNo < row.attempt.attemptNo ||
    best.attempt.attemptNo == row.attempt.attemptNo && best.createdAt < row.createdAt

def findLatestAttemptForTask (taskId : String) : Option TurnAttempt :=
  ((tables.attempts.entries.filter (·.attempt.taskId == some taskId)).foldl
    (fun best row =>
      match best with
      | none => some row
      | some best => if isLaterAttempt row best then some row else some best)
    none).map (·.attempt)

/-! ## Writing attempts -/

/-- `ux_turn_attempts_open_session`. -/
def openSessionTaken (attempt : TurnAttempt) : Bool :=
  attempt.terminal.isNone && tables.attempts.entries.any fun row =>
    row.attemptId != attempt.attemptId && row.isOpen && row.attempt.sessionId == attempt.sessionId

/-- `ux_turn_attempts_task`: a null mesh id equals no other. -/
def taskTaken (attempt : TurnAttempt) : Bool :=
  attempt.taskId.isSome && attempt.meshId.isSome && tables.attempts.entries.any fun row =>
    row.attemptId != attempt.attemptId && row.attempt.meshId == attempt.meshId &&
      row.attempt.taskId == attempt.taskId && row.attempt.attemptNo == attempt.attemptNo

def attemptRow (attempt : TurnAttempt) (nowMs : Int) : AttemptRow where
  attempt := attempt
  createdAt :=
    ((KeyedMap.lookup AttemptRow.attemptId tables.attempts.entries attempt.attemptId).map
      (·.createdAt)).getD nowMs
  updatedAt := nowMs

def upsertAttempt (attempt : TurnAttempt) (nowMs : Int) : Except IndexViolation TurnTables :=
  if tables.openSessionTaken attempt then .error .openSession
  else if tables.taskTaken attempt then .error .task
  else .ok { tables with attempts := tables.attempts.set (tables.attemptRow attempt nowMs) }

/-! ## Holds of an attempt -/

/-- The order of two texts under the database's binary collation. -/
def textLE (left right : String) : Prop :=
  left.toList.map Char.toNat ≤ right.toList.map Char.toNat

instance (left right : String) : Decidable (textLE left right) :=
  inferInstanceAs (Decidable (_ ≤ _))

def activeHolds (attemptId : String) : List TurnHold :=
  ((tables.holds.entries.filter fun row =>
    row.active && row.hold.attemptId == attemptId).map (·.hold)).insertionSort
      fun left right => textLE left.holdId right.holdId

def resolveUnless (attemptId : String) (keep : List String) (nowMs : Int) (row : HoldRow) :
    HoldRow :=
  if row.active && row.hold.attemptId == attemptId && !keep.contains row.holdId then
    { row with active := false, resolvedAt := some nowMs }
  else row

theorem holdId_resolveUnless (attemptId : String) (keep : List String) (nowMs : Int)
    (row : HoldRow) : (resolveUnless attemptId keep nowMs row).holdId = row.holdId := by
  unfold resolveUnless
  split <;> rfl

def resolveHolds (attemptId : String) (keep : List String) (nowMs : Int) :
    KeyedMap HoldRow.holdId where
  entries := tables.holds.entries.map (resolveUnless attemptId keep nowMs)
  nodup := by
    rw [List.map_map]
    have same : HoldRow.holdId ∘ resolveUnless attemptId keep nowMs = HoldRow.holdId :=
      funext (holdId_resolveUnless attemptId keep nowMs)
    rw [same]
    exact tables.holds.nodup

/-- Make `holds` the attempt's exact active set. -/
def syncHolds (attemptId : String) (holds : List TurnHold) (nowMs : Int) : TurnTables :=
  { tables with
    holds := holds.foldl (fun rows hold => rows.set ⟨hold, true, none⟩)
      (tables.resolveHolds attemptId (holds.map (·.holdId)) nowMs) }

/-! ## Events -/

def hasEvent (eventId : String) : Bool := tables.events.entries.any (·.eventId == eventId)

/-- `UNIQUE (attempt_id, generation, kind, dedupe_key)`: nulls are distinct. -/
def sameDedupe (left right : EventRow) : Bool :=
  left.attemptId.isSome && left.generation.isSome && left.attemptId == right.attemptId &&
    left.generation == right.generation && left.kind == right.kind &&
    left.dedupeKey == right.dedupeKey

/-- `INSERT OR IGNORE`: `none` when the row was ignored. -/
def insertEvent (row : EventRow) : Option TurnTables :=
  if tables.hasEvent row.eventId || tables.events.entries.any (sameDedupe row) then none
  else some { tables with events := tables.events.set row }

structure LivenessSampleKey where
  attemptId : Option String
  generation : Option Int
  sessionId : String
  observedBy : Option String
  rule : Option ResultRule
  fromState : Option TurnState
  toState : Option TurnState
  semantic : TurnEvidence
  notes : List RowNote
  deriving DecidableEq

def semanticSample (evidence : TurnEvidence) (result : LivenessResult) : TurnEvidence :=
  { evidence with eventId := "", atMs := 0, body := .liveness result none }

def livenessSampleKey (row : EventRow) : Option LivenessSampleKey :=
  match row.kind, row.payload.evidence with
  | .evidence .liveness, some evidence =>
    match evidence.body with
    | .liveness result _ =>
      if row.source == .coordinatorProbe && row.verdict == .applied &&
          (row.rule == some (.table .R32) || row.rule == some (.table .R32u)) &&
          row.fromState == row.toState && row.publishState == .none &&
          row.srcWriter.isNone && row.srcSeq.isNone && !row.payload.otherKeys &&
          (result == .alive || result == .unknown) then
        some {
          attemptId := row.attemptId, generation := row.generation
          sessionId := row.sessionId, observedBy := row.observedBy, rule := row.rule
          fromState := row.fromState, toState := row.toState
          semantic := semanticSample evidence result, notes := row.payload.notes }
      else none
    | _ => none
  | _, _ => none

/-- The attempt's row that comes first in `ORDER BY recorded_at DESC, rowid DESC`. -/
def latestEventOf (attemptId : String) : Option EventRow :=
  (tables.events.entries.filter (·.attemptId == some attemptId)).foldl
    (fun best row =>
      match best with
      | none => some row
      | some best => if best.recordedAt ≤ row.recordedAt then some row else some best)
    none

def foldsInto (row : EventRow) : Option EventRow :=
  match livenessSampleKey row, row.attemptId with
  | some key, some attemptId =>
    if attemptId == "" then none
    else (tables.latestEventOf attemptId).filter fun previous =>
      livenessSampleKey previous == some key
  | _, _ => none

def newestSample (row : EventRow) : Option TurnEvidence :=
  (row.payload.livenessSamples.map (·.latest)).or row.payload.evidence

def foldSample (previous : EventRow) (evidence : TurnEvidence) : EventRow :=
  { previous with
    payload := { previous.payload with
      livenessSamples := some {
        count := (previous.payload.livenessSamples.map (·.count)).getD 1 + 1
        latest := evidence } } }

/-- Every fresh observation is reduced, but a consecutive semantic run is stored
once. `none` when the observation is a repeated one. -/
def recordEvidence (row : EventRow) : Option TurnTables :=
  match tables.foldsInto row with
  | some previous =>
    if (newestSample previous).any fun latest =>
        latest.eventId == row.eventId || row.atMs ≤ latest.atMs then none
    else
      match row.payload.evidence with
      | some evidence =>
        some { tables with events := tables.events.set (foldSample previous evidence) }
      | none => none
  | none => tables.insertEvent row

end TurnTables

end Adhdev.TurnLedger
