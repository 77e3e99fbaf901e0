import Adhdev.Contract.Proposals

/-! # Task scopes, pins and bindings

`contract-pins.ts`: a dispatch is admitted against units of the accepted head that are frozen
into a pin set.
-/

namespace Adhdev.Contract

open Call MeshShared

section Scopes

variable (ctx : ContractCtx) (env : CallEnv)

def readUnits (units : List String) (most : Nat) : Except ContractRefusal (List String) := do
  demand (units.length ≤ most ∧ units.all isUnitId = true) .invalidInput
  pure (sortTexts units.eraseDups)

structure MissionScopeInput where
  meshId : String
  missionId : String
  namespaceId : String
  units : List String
  advisory : Bool

def checkMissionScope (db : ContractDb) (presented : Presented) (input : MissionScopeInput) :
    Except ContractRefusal AuthorityRow := do
  let authority ← recheckPrincipal ctx env db presented input.namespaceId .assign
  demand (isWorker presented.principal = false) .notAuthorized
  demand (authority.meshId = input.meshId) .scopeMismatch
  pure authority

/-- `INSERT OR REPLACE`. -/
def putMissionScope (row : MissionScopeRow) (db : ContractDb) : ContractDb :=
  { db with missionScopes := db.missionScopes.filter (fun other =>
      ¬ (other.meshId = row.meshId ∧ other.missionId = row.missionId)) ++ [row] }

def bindMissionScope (presented : Presented) (input : MissionScopeInput) :
    Call ContractStore ContractRefusal Unit := do
  let _ ← ofExcept (assertIssued presented)
  refuseIf (input.missionId = "") .invalidInput
  let units ← ofExcept (readUnits input.units ctx.budgets.maxDirectTaskPins)
  transaction do
    let _ ← andThen (inspect (·.db)) fun db =>
      ofExcept (checkMissionScope ctx env db presented input)
    changeDb (putMissionScope {
      meshId := input.meshId, missionId := input.missionId, namespaceId := input.namespaceId
      units, strict := !input.advisory })

def getMissionScope (db : ContractDb) (meshId missionId : String) : Option MissionScopeRow :=
  db.missionScopes.find? fun row => row.meshId = meshId && row.missionId = missionId

def getTaskScope (db : ContractDb) (meshId taskId : String) : Option TaskScopeRow :=
  db.taskScopes.find? fun row => row.meshId = meshId && row.taskId = taskId

def insertTaskScope (row : TaskScopeRow) (db : ContractDb) : ContractDb :=
  if (getTaskScope db row.meshId row.taskId).isSome then db
  else { db with taskScopes := db.taskScopes ++ [row] }

def stampTaskScopeFromMission (meshId taskId : String) (missionId : Option String) :
    Call ContractStore ContractRefusal (Option TaskScopeRow) := do
  let found ← inspect fun store =>
    (missionId.filter (· ≠ "")).bind (getMissionScope store.db meshId)
  match found with
  | none => pure none
  | some mission => do
      changeDb (insertTaskScope {
        meshId, taskId, namespaceId := mission.namespaceId, units := mission.units
        strict := mission.strict })
      inspect fun store => getTaskScope store.db meshId taskId

end Scopes

section PinBlock

def pinBlockOpen : String := "<<<ADHDEV-CONTRACT-PINS>>>"

def pinBlockClose : String := "<<<END-ADHDEV-CONTRACT-PINS>>>"

def renderPinBlock (namespaceId pinSetId : String) (vector : ContractHeadVector)
    (bindingId : String)
    (unitIds : List String) : String :=
  String.intercalate "\n" [
    pinBlockOpen,
    "protocol=adhdev.contract/" ++ toString contractProtocolVersion,
    "namespace=" ++ namespaceId,
    "pinset=" ++ pinSetId,
    "head=e" ++ toString vector.authorityEpoch ++ ".g" ++ toString vector.headGeneration,
    "binding=" ++ bindingId,
    "units=" ++ String.intercalate "," unitIds,
    "This task is pinned to exact contract units. Read each with contract_read (bindingId above), then record contract_observe for the units you read. These are opaque references, not file paths.",
    pinBlockClose]

end PinBlock

section Admission

variable (ctx : ContractCtx) (env : CallEnv)

def listBindingsForTask (db : ContractDb) (meshId taskId : String) : List BindingRow :=
  (db.bindings.filter fun row => row.meshId = meshId && row.taskId = taskId).insertionSort
    (·.admittedAt ≤ ·.admittedAt)

def activeBindingForTask (db : ContractDb) (meshId taskId : String) : Option BindingRow :=
  ((db.bindings.filter fun row =>
    row.meshId = meshId && row.taskId = taskId && row.state = .active).insertionSort
      (·.admittedAt ≥ ·.admittedAt)).head?

def getPinSet (db : ContractDb) (pinSetId : String) : Option PinSetRow :=
  db.pinSets.find? (·.pinSetId = pinSetId)

structure Pinned where
  vector : ContractHeadVector
  pins : List PinEntry

def pinOf (revisionId : String) (unit : ContractUnit) : PinEntry where
  revisionId := revisionId
  unitId := unit.unitId
  unitDigest := unit.digest
  byteLength := unit.byteLength

def choosePins (db : ContractDb) (scope : TaskScopeRow) : Except ContractRefusal Pinned :=
  match currentHeadVector db scope.namespaceId with
  | none => .error .unavailable
  | some vector =>
    match vector.revisionId with
    | none => .error .unavailable
    | some revisionId =>
      match getRevisionManifest db revisionId with
      | none => .error .unavailable
      | some manifest => do
          let chosen :=
            if scope.units = [] then manifest.units.map some
            else scope.units.map fun unitId => manifest.units.find? (·.unitId = unitId)
          demand (none ∉ chosen) .notFound
          demand (chosen ≠ []) .unavailable
          demand (chosen.length ≤ ctx.budgets.maxDirectTaskPins) .budgetExceeded
          pure { vector, pins := (chosen.filterMap id).map (pinOf revisionId) }

def insertPinSet (row : PinSetRow) (db : ContractDb) : ContractDb :=
  if (getPinSet db row.pinSetId).isSome then db else { db with pinSets := db.pinSets ++ [row] }

def freezePinSet (scope : TaskScopeRow) : Call ContractStore ContractRefusal PinSetRow := do
  let pinned ← andThen (inspect (·.db)) fun db => ofExcept (choosePins ctx db scope)
  let pinSetId := ctx.computePinSetDigest pinned.vector pinned.pins
  changeDb (insertPinSet {
    pinSetId, namespaceId := scope.namespaceId, vector := pinned.vector, pins := pinned.pins })
  let found ← inspect fun store => getPinSet store.db pinSetId
  ofExcept (found.elim (.error .unavailable) .ok)

def changeBindings (affected : BindingRow → Bool) (change : BindingRow → BindingRow)
    (db : ContractDb) : ContractDb :=
  { db with bindings := db.bindings.map fun row => if affected row then change row else row }

def isActiveFor (meshId taskId : String) (row : BindingRow) : Bool :=
  row.meshId = meshId && row.taskId = taskId && row.state = .active

structure DispatchTarget where
  meshId : String
  taskId : String
  attemptId : String
  generation : Int

structure AdmitDispatchInput where
  target : DispatchTarget
  sessionId : String
  daemonId : Option String
  recipientSupportsContractTools : Bool

structure DispatchAdmission where
  binding : BindingRow
  block : String
  blockBytes : Nat
  strict : Bool
  reused : Bool

def bindAnew (target : DispatchTarget) (scope : TaskScopeRow) (sessionId : String)
    (pinSet : PinSetRow) (bindingId block : String) :
      Call ContractStore ContractRefusal BindingRow := do
  refuseIf (ctx.budgets.maxPinBlockBytes < block.utf8ByteSize) .pinBlockOverBudget
  changeDb (changeBindings (isActiveFor target.meshId target.taskId)
    fun row => { row with state := .superseded })
  let binding : BindingRow := {
    bindingId, meshId := target.meshId, taskId := target.taskId, attemptId := target.attemptId
    generation := target.generation, namespaceId := scope.namespaceId
    recipientSessionId := sessionId, pinSetId := pinSet.pinSetId
    blockDigest := ctx.sha256Bytes block.toUTF8.toList
    state := .active, linkedFromBindingId := none, admittedAt := env.now }
  insertUnless (fun db => db.bindings.any (·.bindingId = bindingId)) fun db =>
    { db with bindings := db.bindings ++ [binding] }
  pure binding

def blockFor (scope : TaskScopeRow) (pinSet : PinSetRow) (bindingId : String) : String :=
  renderPinBlock scope.namespaceId pinSet.pinSetId pinSet.vector bindingId
    (pinSet.pins.map (·.unitId))

def checkRecipient (db : ContractDb) (scope : TaskScopeRow) (input : AdmitDispatchInput) :
    Except ContractRefusal AuthorityRow :=
  match authorityReadable ctx db scope.namespaceId with
  | none =>
    match (getAuthority db scope.namespaceId).map AuthorityRow.status with
    | some .requiresOwnerRecovery => .error .authorityRequiresRecovery
    | some .pausedTransfer => .error .authorityPaused
    | _ => .error .unavailable
  | some authority => do
      demand (scope.strict = true → ∀ daemonId ∈ input.daemonId.filter (· ≠ ""),
        daemonIdsEquivalent daemonId authority.authorityDaemonId = true)
          .strictParticipantUnsupported
      demand (scope.strict = true → input.recipientSupportsContractTools = true)
        .strictParticipantUnsupported
      pure authority

def maxSafeInteger : Int := 2 ^ 53 - 1

def admitScoped (input : AdmitDispatchInput) (scope : TaskScopeRow) :
    Call ContractStore ContractRefusal DispatchAdmission := do
  let _ ← andThen (inspect (·.db)) fun db => ofExcept (checkRecipient ctx db scope input)
  let pinSet ← freezePinSet ctx scope
  let existing ← inspect fun store =>
    (activeBindingForTask store.db input.target.meshId input.target.taskId).filter fun binding =>
      binding.attemptId = input.target.attemptId && binding.generation = input.target.generation &&
        binding.recipientSessionId = input.sessionId && binding.pinSetId = pinSet.pinSetId
  match existing with
  | some binding =>
    let block := blockFor scope pinSet binding.bindingId
    pure {
      binding, block, blockBytes := block.utf8ByteSize, strict := scope.strict, reused := true }
  | none => do
      let bindingId := env.newId "bnd"
      let block := blockFor scope pinSet bindingId
      let binding ← bindAnew ctx env input.target scope input.sessionId pinSet bindingId block
      pure {
        binding, block, blockBytes := block.utf8ByteSize, strict := scope.strict, reused := false }

def admitDispatch (input : AdmitDispatchInput) :
    Call ContractStore ContractRefusal (Option DispatchAdmission) := do
  let found ← inspect fun store => getTaskScope store.db input.target.meshId input.target.taskId
  match found with
  | none => pure none
  | some scope => do
      refuseIf (input.target.attemptId = "" ∨ maxSafeInteger < input.target.generation.natAbs ∨
        input.sessionId = "") .invalidInput
      let admission ← transaction (admitScoped ctx env input scope)
      pure (some admission)

structure RebindInput where
  target : DispatchTarget
  losingSessionId : String
  holderSessionId : String

inductive RebindResult
  | linked (bindingId : String)
  | freshBinding (bindingId block : String)
  | unscoped

def losingBindings (db : ContractDb) (input : RebindInput) : List BindingRow :=
  (listBindingsForTask db input.target.meshId input.target.taskId).filter fun row =>
    row.recipientSessionId = input.losingSessionId && row.state = .active

def holderBinding (db : ContractDb) (input : RebindInput) : Option BindingRow :=
  ((listBindingsForTask db input.target.meshId input.target.taskId).filter fun row =>
    row.recipientSessionId = input.holderSessionId && row.attemptId = input.target.attemptId &&
      row.generation = input.target.generation && row.state ≠ .revoked).getLast?

def linkableHolder (losing : List BindingRow) (holder : Option BindingRow) : Option BindingRow :=
  holder.filter fun holder => holder.pinSetId = (losing.head?.map (·.pinSetId)).getD holder.pinSetId

def rebindScoped (input : RebindInput) (scope : TaskScopeRow) :
    Call ContractStore ContractRefusal RebindResult := do
  let losing ← inspect fun store => losingBindings store.db input
  let holder ← inspect fun store => holderBinding store.db input
  changeDb (changeBindings (fun row => losing.any (·.bindingId = row.bindingId))
    fun row => { row with state := .revoked })
  match linkableHolder losing holder with
  | some holder => do
      changeDb (changeBindings (fun row => isActiveFor input.target.meshId input.target.taskId
        row &&
        row.bindingId ≠ holder.bindingId) fun row => { row with state := .superseded })
      changeDb (changeBindings (fun row => row.bindingId = holder.bindingId) fun row =>
        { row with state := .active, linkedFromBindingId := losing.head?.map (·.bindingId) })
      pure (.linked holder.bindingId)
  | none => do
      let pinSet ← freezePinSet ctx scope
      let bindingId := env.newId "bnd"
      let block := blockFor scope pinSet bindingId
      let _ ← bindAnew ctx env input.target scope input.holderSessionId pinSet bindingId block
      pure (.freshBinding bindingId block)

def rebindToHolder (input : RebindInput) : Call ContractStore ContractRefusal RebindResult := do
  let found ← inspect fun store => getTaskScope store.db input.target.meshId input.target.taskId
  match found with
  | none => pure .unscoped
  | some scope => transaction (rebindScoped ctx env input scope)

end Admission

end Adhdev.Contract
