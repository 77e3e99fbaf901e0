import Adhdev.Contract.UseGuards

/-! # Served bytes and claims

`contract-reads.ts`: what the daemon has served of the pinned units to the session of a binding,
and what the session claims to have read. A call that throws leaves the tables as they are.
-/

namespace Adhdev.Contract

open Call

/-! ## Ranges -/

structure ByteRange where
  start : Nat
  stop : Nat

def ByteRange.has (range : ByteRange) (index : Nat) : Prop :=
  range.start ≤ index ∧ index < range.stop

/-- The loop of `rangesCoverAll` over the sorted ranges. -/
def coversFrom (length : Nat) : Nat → List ByteRange → Bool
  | reach, [] => length ≤ reach
  | reach, range :: ranges =>
    if reach < range.start then false
    else if length ≤ max reach range.stop then true
    else coversFrom length (max reach range.stop) ranges

def rangesCoverAll (ranges : List ByteRange) (length : Nat) : Bool :=
  if length = 0 then ranges ≠ []
  else
    coversFrom length 0
      ((ranges.filter fun range => range.start < range.stop).insertionSort (·.start ≤ ·.start))

variable {ranges : List ByteRange}

theorem coversFrom_sound {length reach : Nat} (covers : coversFrom length reach ranges = true)
    {index : Nat} (reached : reach ≤ index) (inside : index < length) :
    ∃ range ∈ ranges, range.has index := by
  induction ranges generalizing reach with
  | nil =>
    rw [coversFrom, decide_eq_true_eq] at covers
    omega
  | cons range ranges induction =>
    rw [coversFrom] at covers
    by_cases gap : reach < range.start
    · rw [if_pos gap] at covers
      cases covers
    rw [if_neg gap] at covers
    by_cases here : index < range.stop
    · exact ⟨range, List.mem_cons_self, by omega, here⟩
    have beyond : ¬ length ≤ max reach range.stop := by omega
    rw [if_neg beyond] at covers
    obtain ⟨other, member, has⟩ := induction covers (by omega)
    exact ⟨other, .tail _ member, has⟩

theorem rangesCoverAll_sound {length : Nat} (covers : rangesCoverAll ranges length = true)
    {index : Nat} (inside : index < length) : ∃ range ∈ ranges, range.has index := by
  rw [rangesCoverAll, if_neg (by omega)] at covers
  obtain ⟨range, member, has⟩ := coversFrom_sound covers (Nat.zero_le _) inside
  rw [List.mem_insertionSort] at member
  exact ⟨range, List.mem_of_mem_filter member, has⟩

/-! ## Reads -/

inductive ReadRefusal
  | contract (refusal : ContractRefusal)
  | bindingMissing | bindingNotActive | unitNotPinned | noFullReceipt

inductive ReadOutcome
  | served | failed
  deriving DecidableEq

structure ReadRow where
  readId : String
  bindingId : String
  sessionId : String
  revisionId : String
  unitId : String
  unitDigest : String
  range : ByteRange
  unitLength : Nat
  outcome : ReadOutcome
  servedAt : Int

structure ClaimedUnit where
  unitId : String
  unitDigest : String
  readIds : List String

structure ClaimRow where
  claimId : String
  bindingId : String
  sessionId : String
  units : List ClaimedUnit
  claimedAt : Int

structure ReadCtx where
  guards : GuardCtx
  maxReadBytesPerRequest : Nat := 32 * 1024
  maxReadsPerBinding : Nat := 512

structure ReadWorld where
  guards : GuardWorld := {}
  reads : List ReadRow := []
  claims : List ClaimRow := []

def ReadWorld.db (world : ReadWorld) : ContractDb := world.guards.db

structure ContractWorker where
  meshId : String
  taskId : String
  attemptId : String
  generation : Int
  sessionId : String

def assertWorker (presented : Presented) : Except ReadRefusal ContractWorker :=
  match presented.issued, presented.principal with
  | true, .worker meshId taskId attemptId generation sessionId =>
    .ok { meshId, taskId, attemptId, generation, sessionId }
  | true, _ => .error (.contract .notAuthorized)
  | false, _ => .error (.contract .unauthenticated)

def getBinding (db : ContractDb) (bindingId : String) : Option BindingRow :=
  db.bindings.find? (·.bindingId = bindingId)

def requireActiveBinding (db : ContractDb) (worker : ContractWorker) (bindingId : String) :
    Except ReadRefusal BindingRow :=
  match getBinding db bindingId with
  | none => .error .bindingMissing
  | some binding =>
    if binding.meshId ≠ worker.meshId ∨ binding.taskId ≠ worker.taskId then
      .error .bindingMissing
    else if binding.state ≠ .active ∨ binding.attemptId ≠ worker.attemptId ∨
        binding.generation ≠ worker.generation ∨
        binding.recipientSessionId ≠ worker.sessionId then
      .error .bindingNotActive
    else .ok binding

section Reads

variable (ctx : ReadCtx) (world : ReadWorld) (env : CallEnv)

def servedRows (reads : List ReadRow) (bindingId unitId unitDigest : String) : List ReadRow :=
  reads.filter fun row => row.bindingId = bindingId && row.unitId = unitId &&
    row.unitDigest = unitDigest && row.outcome = .served

def fullyServed (reads : List ReadRow) (bindingId : String) (pin : PinEntry) : Bool :=
  rangesCoverAll ((servedRows reads bindingId pin.unitId pin.unitDigest).map (·.range))
    pin.byteLength

structure ReadInput where
  bindingId : String
  unitId : String
  rangeStart : Option Int
  rangeEnd : Option Int

structure ContractReadResult where
  readId : String
  unitId : String
  revisionId : String
  unitDigest : String
  unitLength : Nat
  range : ByteRange
  content : List UInt8
  fullCoverage : Bool

def requestedRange (pin : PinEntry) (input : ReadInput) : Option ByteRange :=
  let start := input.rangeStart.getD 0
  let stop := input.rangeEnd.getD (min pin.byteLength (start + ctx.maxReadBytesPerRequest))
  if maxSafeInteger < start.natAbs ∨ maxSafeInteger < stop.natAbs ∨ start < 0 ∨ stop < start ∨
      pin.byteLength < stop ∨ ctx.maxReadBytesPerRequest < stop - start then none
  else some { start := start.toNat, stop := stop.toNat }

structure PreparedRead where
  row : ReadRow
  pin : PinEntry
  body : Option (List UInt8)

def prepareRead (presented : Presented) (input : ReadInput) : Except ReadRefusal PreparedRead :=
  match assertWorker presented with
  | .error refusal => .error refusal
  | .ok worker =>
    match requireActiveBinding world.db worker input.bindingId with
    | .error refusal => .error refusal
    | .ok binding =>
      if (authorityReadable ctx.guards.contract world.db binding.namespaceId).isNone then
        .error (.contract .unavailable)
      else
        match (getPinSet world.db binding.pinSetId).bind
            (·.pins.find? (·.unitId = input.unitId)) with
        | none => .error .unitNotPinned
        | some pin =>
          if ctx.maxReadsPerBinding ≤ world.reads.countP (·.bindingId = binding.bindingId) then
            .error (.contract .quotaExceeded)
          else
            match requestedRange ctx pin input with
            | none => .error (.contract .invalidInput)
            | some range =>
              let body := readSpoolBody ctx.guards.contract world.db pin.unitDigest
              if world.reads.any (·.readId = env.newId "read") then
                .error (.contract .uniqueConstraint)
              else
                .ok
                  { row :=
                      { readId := env.newId "read"
                        bindingId := binding.bindingId
                        sessionId := worker.sessionId
                        revisionId := pin.revisionId
                        unitId := pin.unitId
                        unitDigest := pin.unitDigest
                        range
                        unitLength := pin.byteLength
                        outcome := if body.isSome then .served else .failed
                        servedAt := env.now }
                    pin
                    body }

def contractRead (presented : Presented) (input : ReadInput) :
    Except ReadRefusal ContractReadResult × ReadWorld :=
  match prepareRead ctx world env presented input with
  | .error refusal => (.error refusal, world)
  | .ok prepared =>
    let later := { world with reads := world.reads ++ [prepared.row] }
    match prepared.body with
    | none => (.error (.contract .unavailable), later)
    | some body =>
      let range := prepared.row.range
      let result : ContractReadResult :=
        { readId := prepared.row.readId
          unitId := prepared.pin.unitId
          revisionId := prepared.pin.revisionId
          unitDigest := prepared.pin.unitDigest
          unitLength := prepared.pin.byteLength
          range
          content := (body.drop range.start).take (range.stop - range.start)
          fullCoverage := fullyServed later.reads prepared.row.bindingId prepared.pin }
      (.ok result, later)

/-! ## Claims -/

structure ObservedUnit where
  unitId : String
  unitDigest : String

structure ObserveInput where
  bindingId : String
  units : List ObservedUnit

def claimUnit (binding : BindingRow) (unit : ObservedUnit) : Except ReadRefusal ClaimedUnit :=
  match (getPinSet world.db binding.pinSetId).bind (·.pins.find? (·.unitId = unit.unitId)) with
  | none => .error .unitNotPinned
  | some pin =>
    if pin.unitDigest ≠ unit.unitDigest then .error .unitNotPinned
    else if fullyServed world.reads binding.bindingId pin = false then .error .noFullReceipt
    else
      .ok
        { unitId := pin.unitId
          unitDigest := pin.unitDigest
          readIds := (servedRows world.reads binding.bindingId pin.unitId pin.unitDigest).map
            (·.readId) }

def claimUnits (binding : BindingRow) : List ObservedUnit → Except ReadRefusal (List ClaimedUnit)
  | [] => .ok []
  | unit :: units =>
    match claimUnit world binding unit with
    | .error refusal => .error refusal
    | .ok claimed =>
      match claimUnits binding units with
      | .error refusal => .error refusal
      | .ok rest => .ok (claimed :: rest)

def checkObserve (presented : Presented) (input : ObserveInput) : Except ReadRefusal ClaimRow :=
  match assertWorker presented with
  | .error refusal => .error refusal
  | .ok worker =>
    if input.units = [] ∨ ctx.guards.contract.budgets.maxDirectTaskPins < input.units.length then
      .error (.contract .invalidInput)
    else
      match requireActiveBinding world.db worker input.bindingId with
      | .error refusal => .error refusal
      | .ok binding =>
        match claimUnits world binding input.units with
        | .error refusal => .error refusal
        | .ok units =>
          if world.claims.any (·.claimId = env.newId "clm") then
            .error (.contract .uniqueConstraint)
          else
            .ok
              { claimId := env.newId "clm"
                bindingId := binding.bindingId
                sessionId := worker.sessionId
                units
                claimedAt := env.now }

def contractObserve (presented : Presented) (input : ObserveInput) :
    Except ReadRefusal ClaimRow × ReadWorld :=
  match checkObserve ctx world env presented input with
  | .error refusal => (.error refusal, world)
  | .ok row => (.ok row, { world with claims := world.claims ++ [row] })

end Reads

/-! ## Steps -/

def ReadWorld.observed (world : ReadWorld) (binding : BindingRow) (pin : PinEntry) :
    UnitEvidence where
  e2Full := fullyServed world.reads binding.bindingId pin
  e2ReadIds := (servedRows world.reads binding.bindingId pin.unitId pin.unitDigest).map (·.readId)
  c1ClaimIds := (world.claims.filter fun claim => claim.bindingId = binding.bindingId &&
    claim.units.any fun unit => unit.unitId = pin.unitId && unit.unitDigest = pin.unitDigest).map
      (·.claimId)

inductive ReadEvent
  | call (env : CallEnv) (call : RetentionCall)
  | legalPurgeBody (owner : Presented) (digest : String)
  | contractRead (env : CallEnv) (presented : Presented) (input : ReadInput)
  | contractObserve (env : CallEnv) (presented : Presented) (input : ObserveInput)
  | recordResultEvidence (now : Int) (ref : ContractResultRef) (sessionId : Option String)
      (quarantined : Bool)
  | revalidateResult (env : CallEnv) (presented : Presented) (input : RevalidateInput)
  | beginGuardedUse (env : CallEnv) (input : GuardedUse)
  | recordGuardIntent (guardId : String) (externalRef : List (String × String))
  | finishUseGuard (guardId : String) (outcome : GuardOutcome)
      (externalRef : Option (List (String × String)))
  | markUseGuardUnknown (guardId : String) (externalRef : Option (List (String × String)))
  | reconcileUnknownUseGuard (guardId : String)
      (probe : Option (List (String × String)) → ProbeVerdict)

def ReadEvent.toGuardEvent (world : ReadWorld) : ReadEvent → Option GuardEvent
  | .call env performed => some (.call env performed)
  | .legalPurgeBody .. => none
  | .contractRead .. => none
  | .contractObserve .. => none
  | .recordResultEvidence now ref sessionId quarantined =>
    some (.recordResultEvidence now ref sessionId quarantined world.observed)
  | .revalidateResult env presented input => some (.revalidateResult env presented input)
  | .beginGuardedUse env input => some (.beginGuardedUse env input)
  | .recordGuardIntent guardId externalRef => some (.recordGuardIntent guardId externalRef)
  | .finishUseGuard guardId outcome externalRef =>
    some (.finishUseGuard guardId outcome externalRef)
  | .markUseGuardUnknown guardId externalRef => some (.markUseGuardUnknown guardId externalRef)
  | .reconcileUnknownUseGuard guardId probe => some (.reconcileUnknownUseGuard guardId probe)

def ReadWorld.step (ctx : ReadCtx) (world : ReadWorld) (event : ReadEvent) : ReadWorld :=
  match event with
  | .legalPurgeBody owner digest =>
    { world with
      guards :=
        { world.guards with
          state :=
            { world.guards.state with
              store := (Contract.legalPurgeBody owner digest world.guards.state.store).2 } } }
  | .contractRead env presented input => (Contract.contractRead ctx world env presented input).2
  | .contractObserve env presented input =>
    (Contract.contractObserve ctx world env presented input).2
  | event =>
    match event.toGuardEvent world with
    | none => world
    | some guardEvent => { world with guards := world.guards.step ctx.guards guardEvent }

def ReadWorld.run (ctx : ReadCtx) (world : ReadWorld) (events : List ReadEvent) : ReadWorld :=
  events.foldl (ReadWorld.step ctx) world

end Adhdev.Contract
