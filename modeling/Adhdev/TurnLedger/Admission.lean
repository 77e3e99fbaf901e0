import Adhdev.TurnLedger.Types

/-! # Admission

`turn-ledger/admission.ts`: may this observation be admitted as a turn end? The
order of the rules is load-bearing, cheaper and harder vetoes first. -/

namespace Adhdev.TurnLedger

open MeshShared

structure TerminalAdmissionInput where
  activeModalPresent : Bool
  /-- `none` is "not observed"; the reducer's callers pass `idle` or `generating`. -/
  providerObservedStatus : Option NoProgressObservedStatus
  nativeReadHappened : Bool
  nativeMarkerScoped : Bool
  selfAttributing : Bool
  trailingActivityCount : Int
  finalAssistantPresent : Bool
  newestActivityAtMs : Option Int
  observedAtMs : Int
  quietWindowMs : Int

inductive EvidenceLevel
  | strong | weak

inductive TerminalAdmissionVerdict
  | admitted (evidenceLevel : EvidenceLevel)
  | declined (reason : AdmissionDeclineReason)

def isTranscriptGrowing (newestActivityAtMs : Option Int) (observedAtMs quietWindowMs : Int) :
    Bool :=
  newestActivityAtMs.any fun newest => observedAtMs - newest < quietWindowMs

def evaluateTerminalAdmission (input : TerminalAdmissionInput) : TerminalAdmissionVerdict :=
  if input.activeModalPresent then .declined .activeModal
  else if input.providerObservedStatus.any (· != .idle) then .declined .sessionNotIdle
  else if input.nativeMarkerScoped then .admitted .strong
  else if input.selfAttributing then .admitted .strong
  -- A native read that found no scoped marker: the turn has not ended, whatever
  -- the message shape says.
  else if input.nativeReadHappened then .declined .nativeMarkerAbsent
  else if 0 < input.trailingActivityCount then .declined .trailingToolActivity
  else if !input.finalAssistantPresent then .declined .noFinalAssistantSummary
  else if isTranscriptGrowing input.newestActivityAtMs input.observedAtMs input.quietWindowMs then
    .declined .transcriptGrowing
  else .admitted .weak

inductive AdmissionHold
  | livePending | transcriptQuiet

def AdmissionHold.reason : AdmissionHold → HoldReason
  | .livePending => .livePending
  | .transcriptQuiet => .transcriptQuiet

/-- `none` is record only: re-evaluating the same read cannot change it. -/
def holdReasonForDecline : AdmissionDeclineReason → Option AdmissionHold
  | .activeModal | .sessionNotIdle | .trailingToolActivity => some .livePending
  | .transcriptGrowing => some .transcriptQuiet
  | .nativeMarkerAbsent | .noFinalAssistantSummary => none

inductive EvidenceAdmission
  | strong
  | weak
  | hold (reason : AdmissionDeclineReason) (holdReason : AdmissionHold)
  | decline (reason : AdmissionDeclineReason)

namespace EvidenceAdmission

def isStrong : EvidenceAdmission → Bool
  | .strong => true
  | _ => false

def isWeak : EvidenceAdmission → Bool
  | .weak => true
  | _ => false

def isHold : EvidenceAdmission → Bool
  | .hold .. => true
  | _ => false

def isDecline : EvidenceAdmission → Bool
  | .decline _ => true
  | _ => false

end EvidenceAdmission

def fromVerdict : TerminalAdmissionVerdict → EvidenceAdmission
  | .admitted .strong => .strong
  | .admitted .weak => .weak
  | .declined reason =>
    match holdReasonForDecline reason with
    | some holdReason => .hold reason holdReason
    | none => .decline reason

def admitTranscriptFinal (evidence : TurnEvidence) (body : TranscriptFinal)
    (policy : TurnPolicy) : EvidenceAdmission :=
  if body.nativeMarker.any (·.outcome == .failed) then .decline .nativeMarkerAbsent
  else fromVerdict <| evaluateTerminalAdmission {
    activeModalPresent := body.live.modal
    providerObservedStatus := some (if body.live.adapterPending then .generating else .idle)
    nativeReadHappened := body.nativeRead
    nativeMarkerScoped := body.nativeMarker.isSome
    selfAttributing := body.selfAttributing
    trailingActivityCount := if body.live.trailingTool then 1 else 0
    finalAssistantPresent := body.summary.isSome || body.messageAt.isSome
    newestActivityAtMs := body.live.newestActivityAt
    observedAtMs := evidence.atMs
    quietWindowMs := policy.quietWindowMs }

def admitTurnEnd (evidence : TurnEvidence) (body : TurnEnd) (policy : TurnPolicy) :
    EvidenceAdmission :=
  let byStrength : EvidenceAdmission :=
    match body.strength with
    | .genuine => .strong
    | .weak => .weak
  match body.live with
  | none => byStrength
  | some live =>
    if live.modal then .hold .activeModal .livePending
    else if live.adapterPending then .hold .sessionNotIdle .livePending
    else if live.trailingTool then .hold .trailingToolActivity .livePending
    else if isTranscriptGrowing live.newestActivityAt evidence.atMs policy.quietWindowMs then
      .hold .transcriptGrowing .transcriptQuiet
    else byStrength

def admissionHoldUntil (holdReason : AdmissionHold) (live : Option LiveTurnPending)
    (observedAtMs : Int) (policy : TurnPolicy) (nowMs : Int) : Int :=
  let ttl := policy.holdTtlMs
  match holdReason, live.bind (·.newestActivityAt) with
  | .transcriptQuiet, some newestActivityAt =>
    let remaining := newestActivityAt + policy.quietWindowMs - observedAtMs
    nowMs + min (max 0 remaining) ttl
  | _, _ => nowMs + ttl

end Adhdev.TurnLedger
