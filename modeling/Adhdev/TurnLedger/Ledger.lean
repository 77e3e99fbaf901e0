import Adhdev.Foundation.Machine
import Adhdev.TurnLedger.Reducer

/-! # The ledger machine

The store keeps one attempt with its active holds and feeds it evidence, one
`reduce` at a time. Nothing is assumed about the evidence, the clock or the
policy of a step, nor about the executor's capabilities. -/

namespace Adhdev.TurnLedger

open MeshShared

structure LedgerState where
  attempt : Option TurnAttempt
  holds : List TurnHold

structure LedgerInput where
  evidence : TurnEvidence
  policy : TurnPolicy
  nowMs : Int
  stopConfirmed : Bool := false
  writerUnreachable : Option WriterUnreachable := none

def LedgerInput.reduceInput (input : LedgerInput) (state : LedgerState) : ReduceInput where
  stopConfirmed := input.stopConfirmed
  writerUnreachable := input.writerUnreachable
  attempt := state.attempt
  holds := state.holds
  evidence := input.evidence
  policy := input.policy
  nowMs := input.nowMs

/-- Before its opening evidence an attempt does not exist. -/
def ledger : Machine LedgerState LedgerInput ReduceResult where
  initial := ⟨none, []⟩
  respond state input := reduce (input.reduceInput state)
  advance result := ⟨result.attempt, result.holds⟩

/-! ## Sample inputs

The closed instances of later results are runs over these. -/

def sampleInput (nowMs : Int) (source : EvidenceSourceId) (body : TurnEvidenceBody) :
    LedgerInput where
  evidence := {
    eventId := "event"
    atMs := nowMs
    source := source
    sessionId := "session"
    attemptRef := some ⟨"attempt", 0⟩
    taskId := some "task"
    observedBy := "daemon"
    body := body }
  policy := defaultTurnPolicy
  nowMs := nowMs

def sampleOpening : LedgerInput :=
  sampleInput 0 .dispatch (.dispatchAccepted {
    scope := .meshQueue, messageId := "message", meshId := some "mesh" })

def sampleStarted : List LedgerInput :=
  [sampleOpening, sampleInput 1 .fsmEdge (.turnStarted false)]

end Adhdev.TurnLedger
