import Adhdev.MeshShared.DaemonIds

/-! # Owner decisions

`mesh-mission-decisions.ts`: the decision items of one mesh, their answers, and the delivery that
every answer arms. Mission events, versions and notifiers are not read back by any of it.
-/

namespace Adhdev.OwnerDecisions

open MeshShared

structure Language where
  trim : String → String
  trimEnd : String → String
  toLowerCase : String → String
  sliceTo : String → Nat → String
  dateParse : String → Option Int
  toISOString : Int → String

inductive MissionItemKind
  | remaining | liveCheck | decision | evidence
  deriving DecidableEq

inductive MissionItemState
  | openItem | done | failed | dropped | moved | answered | expired | withdrawn | superseded
  deriving DecidableEq

def MissionItemState.text : MissionItemState → String
  | .openItem => "open"
  | .done => "done"
  | .failed => "failed"
  | .dropped => "dropped"
  | .moved => "moved"
  | .answered => "answered"
  | .expired => "expired"
  | .withdrawn => "withdrawn"
  | .superseded => "superseded"

structure MissionDecisionOption where
  id : String
  label : String
  deriving DecidableEq

inductive AnsweredBy
  | owner | autoRecommended
  deriving DecidableEq

inductive DecisionAnswerVia
  | dashboard | assistant | push | cli | auto
  deriving DecidableEq

structure MissionDecisionAnswer where
  optionId : Option String
  text : Option String
  answeredBy : AnsweredBy
  via : DecisionAnswerVia
  interpretedFrom : Option String
  time : String
  ingress : Option String
  deriving DecidableEq

/-- `decision:<itemId>:r<revision>`, with `:a<attempt>` from the second attempt on. -/
structure DecisionMessageId where
  itemId : String
  revision : Nat
  attempt : Nat
  deriving DecidableEq

def DecisionMessageId.text (messageId : DecisionMessageId) : String :=
  let base := s!"decision:{messageId.itemId}:r{messageId.revision}"
  if messageId.attempt ≤ 1 then base else s!"{base}:a{messageId.attempt}"

inductive DeliveryState
  | pending | queued | sent | acked
  deriving DecidableEq

inductive DeliveryKind
  | answered | changed | undone
  deriving DecidableEq

structure MissionDecisionDelivery where
  messageId : DecisionMessageId
  state : DeliveryState
  lastAttemptAt : Option String
  sessionId : Option String
  wireMessageId : Option String
  attempts : Option Nat
  kind : Option DeliveryKind
  deriving DecidableEq

inductive MissionDecisionOnDue
  | remind | applyRecommended
  deriving DecidableEq

structure MissionDecision where
  question : String
  options : List MissionDecisionOption
  recommended : Option String
  allowFreeText : Bool
  dueAt : Option String
  onDue : MissionDecisionOnDue
  answer : Option MissionDecisionAnswer
  delivery : Option MissionDecisionDelivery
  answerRevision : Option Nat
  remindedAt : Option String
  deriving DecidableEq

structure MissionItem where
  kind : MissionItemKind
  state : MissionItemState
  dedupeKey : Option String
  decision : Option MissionDecision
  deriving DecidableEq

abbrev MissionItems := String → Option MissionItem

def MissionItems.updateItem (items : MissionItems) (itemId : String) (item : MissionItem) :
    MissionItems :=
  Function.update items itemId (some item)

def decisionAnswerTextMax : Nat := 1000

def decisionInterpretedFromMax : Nat := 500

def truncateMissionText (language : Language) (value : String) (most : Nat) : String :=
  if utf16Length value ≤ most then value
  else language.trimEnd (language.sliceTo value (most - 1)) ++ "…"

def transferDecisionKeyPrefix : String := "project-transfer:"

def isTransferDecisionKey (dedupeKey : Option String) : Bool :=
  let keyPrefix := ("k:" ++ transferDecisionKeyPrefix).toList
  let key := (dedupeKey.getD "").toList
  let id := key.drop keyPrefix.length
  keyPrefix.isPrefixOf key && id.length = 32 &&
    id.all fun digit => digit ∈ "0123456789abcdef".toList

def quotaOverrideKeyPrefix : String := "quota-override:"

def quotaOverrideWaitOptionId : String := "a"

def isQuotaOverrideKey (dedupeKey : Option String) : Bool :=
  let keyPrefix := ("k:" ++ quotaOverrideKeyPrefix).toList
  let key := (dedupeKey.getD "").toList
  keyPrefix.isPrefixOf key && keyPrefix.length < key.length

structure DecisionActor where
  answeredBy : AnsweredBy
  via : DecisionAnswerVia
  ingress : Option String

structure DecisionAnswerRequest where
  itemId : String
  optionId : Option String
  text : Option String
  interpretedFrom : Option String
  undo : Bool
  expectedRevision : Option Nat

inductive AnswerAction
  | answered | changed | undone | unchanged

inductive DecisionAnswerResult
  | accepted (action : AnswerAction) (question : String) (revision : Nat)
      (answer : Option MissionDecisionAnswer) (delivery : Option MissionDecisionDelivery)
  | refused (code error : String) (validOptions : Option (List String))

def decisionMessageId (itemId : String) (revision : Nat) : DecisionMessageId :=
  { itemId, revision, attempt := 1 }

def armedDelivery (itemId : String) (revision : Nat) (kind : DeliveryKind) :
    MissionDecisionDelivery :=
  { messageId := decisionMessageId itemId revision
    state := .pending
    lastAttemptAt := none
    sessionId := none
    wireMessageId := none
    attempts := none
    kind := some kind }

def coordinatorWasTold : Option MissionDecisionDelivery → Bool
  | none => false
  | some prev => prev.state ≠ .pending || prev.kind ≠ some .answered

def describeAnswer (options : List MissionDecisionOption) (answer : MissionDecisionAnswer) :
    String :=
  let option :=
    match answer.optionId with
    | none => ""
    | some id =>
      match options.find? fun option => option.id = id with
      | some option => s!"{id}: {option.label}"
      | none => id
  let parts := [option, answer.text.getD ""].filter fun part => part ≠ ""
  if parts = [] then "(no text)" else " — ".intercalate parts

def describeDecisionAnswer (decision : MissionDecision) : String :=
  match decision.answer with
  | none => "(no answer)"
  | some answer => describeAnswer decision.options answer

def MissionDecision.revision (decision : MissionDecision) : Nat :=
  decision.answerRevision.getD (if decision.answer.isSome then 1 else 0)

def quotaOverrideAnswerGuard (dedupeKey : Option String) (via : DecisionAnswerVia)
    (optionId : String) : Option (String × String) :=
  if isQuotaOverrideKey dedupeKey ∧ (via = .assistant ∨ via = .push) ∧
      optionId ≠ quotaOverrideWaitOptionId then
    some ("quota_override_owner_only",
      "a quota override can only be granted by the owner from the dashboard — the assistant "
        ++ "and notifications may only choose \"Wait for reset\"")
  else none

def chosenAnswer (language : Language) (options : List MissionDecisionOption)
    (req : DecisionAnswerRequest) : String × String :=
  let optionId := (req.optionId.map language.trim).getD ""
  let rawText := (req.text.map language.trim).getD ""
  if optionId = "" ∧ rawText ≠ "" then
    let sought := language.toLowerCase rawText
    match options.find? fun option => language.toLowerCase option.id = sought ||
        language.toLowerCase (language.trim option.label) = sought with
    | some hit => (hit.id, "")
    | none => (optionId, rawText)
  else (optionId, rawText)

def nonempty (text : String) : Option String := if text = "" then none else some text

/-- The undo of `answerMissionDecision`. -/
def undoAnswer (itemId : String) (item : MissionItem) (decision : MissionDecision) :
    MissionItem × DecisionAnswerResult :=
  if item.state ≠ .answered ∨ decision.answer = none then
    (item, .refused "nothing_to_undo" "this decision has no answer to undo" none)
  else
    let revision := decision.revision + 1
    let told := coordinatorWasTold decision.delivery &&
      decision.delivery.bind (·.kind) ≠ some .undone
    let delivery := if told then some (armedDelivery itemId revision .undone) else none
    let undone := { decision with answer := none, answerRevision := some revision, delivery }
    ({ item with state := .openItem, decision := some undone },
      .accepted .undone decision.question revision none delivery)

/-- A delivery of kind `changed` replaces an answer that the coordinator holds. -/
def answerKind (item : MissionItem) (decision : MissionDecision) : DeliveryKind :=
  let pendingUndone :=
    decision.delivery.any fun prev => prev.kind = some .undone ∧ prev.state = .pending
  if coordinatorWasTold decision.delivery ∧ (item.state = .answered ∨ pendingUndone) then .changed
  else .answered

/-- The answer or change of `answerMissionDecision`, once the request has passed its checks. -/
def writeAnswer (language : Language) (itemId : String) (item : MissionItem)
    (decision : MissionDecision) (optionId text interpretedFrom : String) (actor : DecisionActor)
    (nowMs : Int) : MissionItem × DecisionAnswerResult :=
  if item.state = .answered ∧ decision.answer.any fun answer =>
      answer.optionId.getD "" = optionId ∧ answer.text.getD "" = text then
    (item, .accepted .unchanged decision.question decision.revision decision.answer none)
  else
    let revision := decision.revision + 1
    let answer : MissionDecisionAnswer :=
      { optionId := nonempty optionId
        text := nonempty text
        answeredBy := actor.answeredBy
        via := actor.via
        interpretedFrom := (nonempty interpretedFrom).map fun words =>
          truncateMissionText language words decisionInterpretedFromMax
        time := language.toISOString nowMs
        ingress := actor.ingress.bind nonempty }
    let delivery := armedDelivery itemId revision (answerKind item decision)
    let written :=
      { decision with
        answer := some answer, answerRevision := some revision, delivery := some delivery }
    ({ item with state := .answered, decision := some written },
      .accepted (if item.state = .answered then .changed else .answered) decision.question
        revision (some answer) (some delivery))

/-- The answer or change of `answerMissionDecision`. -/
def recordAnswer (language : Language) (item : MissionItem) (decision : MissionDecision)
    (req : DecisionAnswerRequest) (actor : DecisionActor) (nowMs : Int) :
    MissionItem × DecisionAnswerResult :=
  let (optionId, rawText) := chosenAnswer language decision.options req
  let validOptions := decision.options.map (·.id)
  if optionId = "" ∧ rawText = "" then
    (item, .refused "answer_required" "give an optionId or a text answer" none)
  else if optionId ≠ "" ∧ optionId ∉ validOptions then
    (item, .refused "unknown_option" s!"option '{optionId}' does not exist on this decision"
      (some validOptions))
  else if rawText ≠ "" ∧ optionId = "" ∧ ¬ decision.allowFreeText ∧ decision.options ≠ [] then
    (item, .refused "free_text_not_allowed" "this decision only accepts one of its options"
      (some validOptions))
  else
    match quotaOverrideAnswerGuard item.dedupeKey actor.via optionId with
    | some (code, error) => (item, .refused code error none)
    | none =>
      let interpretedFrom := (req.interpretedFrom.map language.trim).getD ""
      if actor.via = .assistant ∧ interpretedFrom = "" then
        (item, .refused "interpreted_from_required"
          "an assistant answer must carry the owner's words (interpretedFrom)" none)
      else
        let text :=
          if rawText = "" then "" else truncateMissionText language rawText decisionAnswerTextMax
        writeAnswer language req.itemId item decision optionId text interpretedFrom actor nowMs

/-- `answerMissionDecision` on the item it found. -/
def answerItem (language : Language) (item : MissionItem) (decision : MissionDecision)
    (req : DecisionAnswerRequest) (actor : DecisionActor) (nowMs : Int) :
    MissionItem × DecisionAnswerResult :=
  if isTransferDecisionKey item.dedupeKey ∧ (actor.via = .assistant ∨ actor.via = .push) then
    (item, .refused "transfer_decision_dashboard_only"
      "a file-transfer approval can only be answered from the dashboard" none)
  else if item.state ≠ .openItem ∧ item.state ≠ .answered then
    (item, .refused "decision_not_open"
      s!"decision is {item.state.text} — it can no longer be answered" none)
  else if req.expectedRevision.any fun expected => expected ≠ decision.revision then
    (item, .refused "stale_revision"
      (s!"this decision changed (revision {decision.revision}, you saw "
        ++ s!"{req.expectedRevision.getD 0}) - reload it and decide again") none)
  else if req.undo then undoAnswer req.itemId item decision
  else recordAnswer language item decision req actor nowMs

def answerMissionDecision (language : Language) (items : MissionItems)
    (req : DecisionAnswerRequest) (actor : DecisionActor) (nowMs : Int) :
    MissionItems × DecisionAnswerResult :=
  let missing :=
    (items, .refused "decision_not_found" s!"no decision item '{req.itemId}' on this mesh" none)
  match items req.itemId with
  | none => missing
  | some item =>
    match item.decision with
    | none => missing
    | some decision =>
      if item.kind ≠ .decision then missing
      else
        let (written, result) := answerItem language item decision req actor nowMs
        (items.updateItem req.itemId written, result)

/-- One item of `processDecisionDeadlines`. -/
def processDeadline (language : Language) (nowMs : Int) (items : MissionItems)
    (itemId : String) : MissionItems :=
  match items itemId with
  | none => items
  | some item =>
    match item.decision with
    | none => items
    | some decision =>
      let passed := (decision.dueAt.bind language.dateParse).any fun due => due ≤ nowMs
      let recommended := decision.recommended.getD ""
      if item.kind ≠ .decision ∨ item.state ≠ .openItem ∨ ¬ passed then items
      else if decision.onDue = .applyRecommended ∧ recommended ≠ "" ∧
          recommended ∈ decision.options.map (·.id) then
        let req : DecisionAnswerRequest :=
          { itemId
            optionId := some recommended
            text := none
            interpretedFrom := none
            undo := false
            expectedRevision := none }
        let actor : DecisionActor :=
          { answeredBy := .autoRecommended, via := .auto, ingress := none }
        (answerMissionDecision language items req actor nowMs).1
      else if decision.remindedAt.any fun reminded => ¬ reminded < decision.dueAt.getD "" then
        items
      else
        items.updateItem itemId
          { item with
            decision := some
              { decision with remindedAt := some (language.toISOString nowMs) } }

def processDecisionDeadlines (language : Language) (items : MissionItems) (nowMs : Int)
    (listed : List String) : MissionItems :=
  listed.foldl (processDeadline language nowMs) items

end Adhdev.OwnerDecisions
