import Adhdev.MeshShared.TurnEvidence

/-! # Turn policy

The timing constants of `turn-ledger/policy.ts` and the values derived from
them. Reading the policy from the environment is not part of the model: every
result about the reducer is for an arbitrary policy. -/

namespace Adhdev.TurnLedger

open MeshShared

structure TurnPolicy where
  tickMs : Int
  quietWindowMs : Int
  consumeGraceMs : Int
  deliveryCeilingMs : Int
  livenessDeadlineMs : Int
  noTurnDeadlineMs : Int
  stallWakeMs : Int
  hardCeilingMs : Int
  awaitReportMs : Int
  livenessProbeIntervalFinalizingMs : Int
  awaitEndMs : Int

/-- `DEFAULT_TURN_POLICY`, restricted to the fields the reducer reads. -/
def defaultTurnPolicy : TurnPolicy where
  tickMs := 4000
  quietWindowMs := 8000
  consumeGraceMs := 90000
  deliveryCeilingMs := 120000
  livenessDeadlineMs := 480000
  noTurnDeadlineMs := 900000
  stallWakeMs := 900000
  hardCeilingMs := 5400000
  awaitReportMs := 600000
  livenessProbeIntervalFinalizingMs := 60000
  awaitEndMs := 60000

/-! ## Budgets -/

def reclaimBudget : Int := 3

def maxRedrivesPerGeneration : Int := 1

def livenessFailStreakLimit : Int := 3

def suspensionReminderMs : Int := 300000

def maxSuspensionReminders : Int := 3

def defaultMaxTaskRetries : Int := 1

def maxUnconfirmedEndDeferrals : Int := 1

/-! ## Derived values -/

namespace TurnPolicy

/-- `Math.round(1.5 * quietWindowMs)`, rounding halves up. -/
def holdTtlMs (policy : TurnPolicy) : Int := (3 * policy.quietWindowMs + 1) / 2

def weakConfirmMs (policy : TurnPolicy) : Int := (3 * policy.quietWindowMs + 1) / 2

def unknownLivenessGraceMs (policy : TurnPolicy) : Int := 3 * policy.tickMs

/-- A full remote read budget, independent of a short scheduler tick. -/
def endProbeGraceMs (policy : TurnPolicy) : Int :=
  max policy.unknownLivenessGraceMs policy.awaitEndMs

def reportCorrectionMs (policy : TurnPolicy) : Int :=
  max policy.awaitReportMs policy.endProbeGraceMs

/-- The liveness re-arm interval: the probe backs off while `await_report` is
held, but never below the normal cadence. -/
def livenessReArmMs (policy : TurnPolicy) (awaitReportHeld : Bool) : Int :=
  let normal := policy.unknownLivenessGraceMs
  if awaitReportHeld then max normal policy.livenessProbeIntervalFinalizingMs else normal

def awaitDeliveryMs (policy : TurnPolicy) : Int := 2 * policy.deliveryCeilingMs

def consumeGraceFor (policy : TurnPolicy) : ConsumeProfile → Int
  | .nativeSource => 2 * policy.consumeGraceMs
  | .default => policy.consumeGraceMs

end TurnPolicy

example : defaultTurnPolicy.weakConfirmMs = 12000 := by decide

end Adhdev.TurnLedger
