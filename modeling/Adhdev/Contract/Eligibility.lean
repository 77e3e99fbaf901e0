import Adhdev.Contract.ActiveBindings
import Adhdev.Contract.Reads
import Adhdev.Contract.UseGuardRuns

/-! # Eligible means that the pinned contract was served

What the tables of the reads and the claims hold is what the session of the binding was served and
has claimed, and the evidence of a result is frozen from them.
-/

namespace Adhdev.Contract

open Call List

/-! ## What happened in a run -/

def HoldsActive (world : ReadWorld) (presented : Presented) (binding : BindingRow) : Prop :=
  presented.issued = true ∧ ∃ held ∈ world.db.bindings, SameBinding held binding ∧
    held.state = .active ∧ presented.principal =
      .worker held.meshId held.taskId held.attemptId held.generation held.recipientSessionId

def ServedByte (ctx : ReadCtx) (events : List ReadEvent) (binding : BindingRow) (pin : PinEntry)
    (index : Nat) : Prop :=
  ∃ before after env presented input result,
    events = before ++ .contractRead env presented input :: after ∧
      HoldsActive (({} : ReadWorld).run ctx before) presented binding ∧
      input.bindingId = binding.bindingId ∧
      (contractRead ctx (({} : ReadWorld).run ctx before) env presented input).1 = .ok result ∧
      result.unitId = pin.unitId ∧ result.unitDigest = pin.unitDigest ∧ result.range.has index ∧
      ∃ body, ctx.guards.contract.sha256Bytes body = pin.unitDigest ∧
        result.content = (body.drop result.range.start).take
          (result.range.stop - result.range.start)

def FullyServedTo (ctx : ReadCtx) (events : List ReadEvent) (binding : BindingRow)
    (pin : PinEntry) : Prop :=
  ∀ index < pin.byteLength, ServedByte ctx events binding pin index

def ClaimedBy (ctx : ReadCtx) (events : List ReadEvent) (binding : BindingRow) (pin : PinEntry) :
    Prop :=
  ∃ before after env presented input claim,
    events = before ++ .contractObserve env presented input :: after ∧
      HoldsActive (({} : ReadWorld).run ctx before) presented binding ∧
      input.bindingId = binding.bindingId ∧
      (contractObserve ctx (({} : ReadWorld).run ctx before) env presented input).1 = .ok claim ∧
      (∃ unit ∈ claim.units, unit.unitId = pin.unitId ∧ unit.unitDigest = pin.unitDigest) ∧
      FullyServedTo ctx before binding pin

structure ServedResult (ctx : ReadCtx) (events : List ReadEvent) (world : ReadWorld)
    (resultKey : String) (evidence : EvidenceRow) (binding : BindingRow) (pinSet : PinSetRow)
    (authority : AuthorityRow) (current : ContractHeadVector) : Prop where
  found : getResultEvidence world.guards resultKey = some evidence
  ofResult : ctx.guards.resultKeyOf evidence.ref = resultKey
  isBinding : binding ∈ world.db.bindings
  named : evidence.bindingId = some binding.bindingId
  meshId : binding.meshId = evidence.ref.meshId
  taskId : binding.taskId = evidence.ref.taskId
  attemptId : binding.attemptId = evidence.ref.attemptId
  generation : binding.generation = evidence.ref.generation
  pinned : getPinSet world.db binding.pinSetId = some pinSet
  served : ∀ pin ∈ pinSet.pins, FullyServedTo ctx events binding pin
  governed : getAuthority world.db evidence.namespaceId = some authority
  claimed : ctx.guards.evidenceMode authority = .e2c1 →
    ∀ pin ∈ pinSet.pins, ClaimedBy ctx events binding pin
  unrevoked : isRevisionRevoked world.db evidence.namespaceId pinSet.vector.revisionId = false
  unpurged : ∀ pin ∈ pinSet.pins, pin.unitDigest ∉ world.db.tombstones
  isCurrent : currentHeadVector world.db evidence.namespaceId = some current

def Revalidated (world : ReadWorld) (now : Int) (resultKey : String) (purpose : ContractUsePurpose)
    (current : ContractHeadVector) : Prop :=
  ∃ row ∈ world.guards.revalidations, row.resultKey = resultKey ∧ row.purpose = purpose ∧
    row.vector = current ∧ row.waiver = false ∧ row.expiresAt.all (now < ·) = true

/-- `agrees` says when the pinned vector is the current one. -/
def EligibleMeansServed (agrees : ContractHeadVector → ContractHeadVector → Prop) (ctx : ReadCtx)
    (events : List ReadEvent) : Prop :=
  ∀ resultKey purpose now decision,
    assessResultEligibility ctx.guards (({} : ReadWorld).run ctx events).guards now resultKey
        purpose = .ok decision →
      decision.state = .eligible →
        ∃ evidence binding pinSet authority current,
          ServedResult ctx events (({} : ReadWorld).run ctx events) resultKey evidence binding
              pinSet authority current ∧
            (agrees pinSet.vector current ∨
              Revalidated (({} : ReadWorld).run ctx events) now resultKey purpose current)

def SameHead (pinned current : ContractHeadVector) : Prop :=
  { pinned with revocationGeneration := current.revocationGeneration } = current

def AtMostOneActive (db : ContractDb) : Prop :=
  ∀ meshId taskId, (db.bindings.filter (isActiveFor meshId taskId)).length ≤ 1

variable {db : ContractDb}

theorem OneActive.atMostOne (one : OneActive db) (distinct : (bindingIds db).Nodup) :
    AtMostOneActive db := by
  intro meshId taskId
  have unique : ∀ binding ∈ db.bindings.filter (isActiveFor meshId taskId),
      ∀ other ∈ db.bindings.filter (isActiveFor meshId taskId), binding = other := by
    intro binding isBinding other isOther
    rw [mem_filter] at isBinding isOther
    exact inj_on_of_nodup_map distinct isBinding.1 isOther.1
      (one meshId taskId binding isBinding.1 other isOther.1 isBinding.2 isOther.2)
  have nodup : (db.bindings.filter (isActiveFor meshId taskId)).Nodup := distinct.of_map.filter _
  match listed : db.bindings.filter (isActiveFor meshId taskId) with
  | [] => exact Nat.zero_le _
  | [_] => exact Nat.le_refl _
  | first :: second :: rest =>
    rw [listed] at unique nodup
    have same := unique first (by simp) second (by simp)
    rw [same] at nodup
    exact absurd (mem_cons_self) (nodup_cons.mp nodup).1

section Runs

variable {ctx : ReadCtx} {events : List ReadEvent} {world : ReadWorld}

/-! ## A run that goes on -/

variable {presented : Presented}

theorem HoldsActive.same {binding later : BindingRow} (holds : HoldsActive world presented binding)
    (same : SameBinding binding later) : HoldsActive world presented later := by
  obtain ⟨issued, held, isHeld, before, active, isWorker⟩ := holds
  exact ⟨issued, held, isHeld, before.trans same, active, isWorker⟩

variable {pin : PinEntry}

theorem ServedByte.more {binding later : BindingRow} {index : Nat}
    (served : ServedByte ctx events binding pin index) (same : SameBinding binding later)
    (more : List ReadEvent) : ServedByte ctx (events ++ more) later pin index := by
  obtain ⟨before, after, env, presented, input, result, rfl, holds, named, rest⟩ := served
  refine ⟨before, after ++ more, env, presented, input, result, ?_, holds.same same,
    named.trans same.id.symm, rest⟩
  rw [append_assoc, cons_append]

theorem FullyServedTo.more {binding later : BindingRow}
    (served : FullyServedTo ctx events binding pin) (same : SameBinding binding later)
    (more : List ReadEvent) : FullyServedTo ctx (events ++ more) later pin :=
  fun index inside => (served index inside).more same more

theorem FullyServedTo.same {binding later : BindingRow}
    (served : FullyServedTo ctx events binding pin) (same : SameBinding binding later) :
    FullyServedTo ctx events later pin := by
  have more := served.more same []
  rwa [append_nil] at more

theorem ClaimedBy.more {binding later : BindingRow} (claimed : ClaimedBy ctx events binding pin)
    (same : SameBinding binding later) (more : List ReadEvent) :
    ClaimedBy ctx (events ++ more) later pin := by
  obtain ⟨before, after, env, presented, input, claim, rfl, holds, named, answered, unit, served⟩ :=
    claimed
  refine ⟨before, after ++ more, env, presented, input, claim, ?_, holds.same same,
    named.trans same.id.symm, answered, unit, served.same same⟩
  rw [append_assoc, cons_append]

/-! ## What the tables hold -/

/-- A row of the evidence with its binding. -/
structure Frozen (ctx : ReadCtx) (events : List ReadEvent) (db : ContractDb)
    (evidence : EvidenceRow) (binding : BindingRow) (pinSet : PinSetRow) : Prop where
  isBinding : binding ∈ db.bindings
  named : evidence.bindingId = some binding.bindingId
  meshId : binding.meshId = evidence.ref.meshId
  taskId : binding.taskId = evidence.ref.taskId
  attemptId : binding.attemptId = evidence.ref.attemptId
  generation : binding.generation = evidence.ref.generation
  pinned : getPinSet db binding.pinSetId = some pinSet
  samePins : evidence.pinSetId = some binding.pinSetId
  units : ∀ pin ∈ pinSet.pins, ∃ unit ∈ evidence.units,
    (unit.proof.e2Full = true → FullyServedTo ctx events binding pin) ∧
      (unit.proof.c1ClaimIds ≠ [] → ClaimedBy ctx events binding pin)

structure TablesSound (ctx : ReadCtx) (events : List ReadEvent) (world : ReadWorld) : Prop where
  distinct : (bindingIds world.db).Nodup
  one : OneActive world.db
  pins : PinsSound world.db
  pinned : ∀ binding ∈ world.db.bindings, (getPinSet world.db binding.pinSetId).isSome
  readsKnown : ∀ row ∈ world.reads, row.bindingId ∈ bindingIds world.db
  claimsKnown : ∀ claim ∈ world.claims, claim.bindingId ∈ bindingIds world.db
  reads : ∀ row ∈ world.reads, row.outcome = .served →
    ∀ binding ∈ world.db.bindings, binding.bindingId = row.bindingId →
      ∀ pin : PinEntry, pin.unitId = row.unitId → pin.unitDigest = row.unitDigest →
        ∀ index, row.range.has index → ServedByte ctx events binding pin index
  claims : ∀ claim ∈ world.claims, ∀ unit ∈ claim.units,
    ∀ binding ∈ world.db.bindings, binding.bindingId = claim.bindingId →
      ∀ pinSet, getPinSet world.db binding.pinSetId = some pinSet →
        ∀ pin ∈ pinSet.pins, pin.unitId = unit.unitId → pin.unitDigest = unit.unitDigest →
          ClaimedBy ctx events binding pin
  keys : ∀ evidence ∈ world.guards.evidence, evidence.resultKey =
    ctx.guards.resultKeyOf evidence.ref
  frozen : ∀ evidence ∈ world.guards.evidence, evidence.pinSetId.isSome →
    ∃ binding pinSet, Frozen ctx events world.db evidence binding pinSet
  revalidations : ∀ row ∈ world.guards.revalidations, ∃ evidence,
    getResultEvidence world.guards row.resultKey = some evidence ∧
      row.vector.namespaceId = evidence.namespaceId

variable {binding : BindingRow} {env : CallEnv}

variable {linked : String → Prop}

theorem Moves.forward {db later : ContractDb} (moves : Moves env linked db later)
    (distinct : (Contract.bindingIds db).Nodup) (member : binding ∈ db.bindings) :
    ∃ moved ∈ later.bindings, SameBinding binding moved := by
  obtain ⟨moved, isMoved, named⟩ :=
    mem_map.mp (moves.kept binding.bindingId (mem_map_of_mem member))
  rcases moves.bindings moved isMoved with ⟨earlier, isEarlier, same, -⟩ | ⟨isNew, -⟩
  · have isBinding : earlier = binding :=
      inj_on_of_nodup_map distinct isEarlier member (same.id.symm.trans named)
    exact ⟨moved, isMoved, isBinding ▸ same⟩
  · exact absurd (named ▸ mem_map_of_mem member) isNew

theorem Moves.backward {db later : ContractDb} (moves : Moves env linked db later)
    {moved : BindingRow} (member : moved ∈ later.bindings)
    (known : moved.bindingId ∈ Contract.bindingIds db) :
    ∃ earlier ∈ db.bindings, SameBinding earlier moved := by
  rcases moves.bindings moved member with ⟨earlier, isEarlier, same, -⟩ | ⟨isNew, -⟩
  · exact ⟨earlier, isEarlier, same⟩
  · exact absurd known isNew

theorem TablesSound.moved {env : CallEnv} {later : ReadWorld} (sound : TablesSound ctx events world)
    (moves : Moves env (fun _ => True) world.db later.db) (one : OneActive later.db)
    (pins : PinsSound later.db) (reads : later.reads = world.reads)
    (claims : later.claims = world.claims)
    (evidence : later.guards.evidence = world.guards.evidence)
    (revalidations : later.guards.revalidations = world.guards.revalidations)
    (more : List ReadEvent) : TablesSound ctx (events ++ more) later := by
  refine
    { distinct := moves.bindingIds sound.distinct
      one
      pins
      pinned := moves.pinned sound.pinned
      readsKnown := ?_
      claimsKnown := ?_
      reads := ?_
      claims := ?_
      keys := ?_
      frozen := ?_
      revalidations := ?_ }
  · rw [reads]
    exact fun row member => moves.kept _ (sound.readsKnown row member)
  · rw [claims]
    exact fun claim member => moves.kept _ (sound.claimsKnown claim member)
  · rw [reads]
    intro row member isServed binding isBinding named pin isUnit isDigest index has
    obtain ⟨earlier, isEarlier, same⟩ :=
      moves.backward isBinding (named ▸ sound.readsKnown row member)
    exact (sound.reads row member isServed earlier isEarlier (same.id.symm.trans named) pin isUnit
      isDigest index has).more same more
  · rw [claims]
    intro claim member unit isUnit binding isBinding named pinSet isPinSet pin isPin
    obtain ⟨earlier, isEarlier, same⟩ :=
      moves.backward isBinding (named ▸ sound.claimsKnown claim member)
    obtain ⟨found, isFound⟩ := Option.isSome_iff_exists.mp (sound.pinned earlier isEarlier)
    have samePin : binding.pinSetId = earlier.pinSetId := by rw [same]
    rw [samePin, moves.pins _ found isFound] at isPinSet
    cases isPinSet
    exact fun unitId digest => (sound.claims claim member unit isUnit earlier isEarlier
      (same.id.symm.trans named) _ isFound pin isPin unitId digest).more same more
  · rw [evidence]
    exact sound.keys
  · rw [evidence]
    intro row member hasPins
    obtain ⟨binding, pinSet, frozen⟩ := sound.frozen row member hasPins
    obtain ⟨moved, isMoved, same⟩ := moves.forward sound.distinct frozen.isBinding
    refine ⟨moved, pinSet, ?_⟩
    rw [SameBinding] at same
    exact
      { isBinding := isMoved
        named := by rw [same]; exact frozen.named
        meshId := by rw [same]; exact frozen.meshId
        taskId := by rw [same]; exact frozen.taskId
        attemptId := by rw [same]; exact frozen.attemptId
        generation := by rw [same]; exact frozen.generation
        pinned := by rw [same]; exact moves.pins _ pinSet frozen.pinned
        samePins := by rw [same]; exact frozen.samePins
        units := fun pin isPin => by
          obtain ⟨unit, isUnit, served, claimed⟩ := frozen.units pin isPin
          exact ⟨unit, isUnit, fun full => (served full).more same more,
            fun some => (claimed some).more same more⟩ }
  · rw [revalidations]
    intro row member
    obtain ⟨found, isFound, ofNamespace⟩ := sound.revalidations row member
    exact ⟨found, by rw [getResultEvidence, evidence]; exact isFound, ofNamespace⟩

theorem TablesSound.more (sound : TablesSound ctx events world) (more : List ReadEvent) :
    TablesSound ctx (events ++ more) world := by
  have moves : Moves { now := 0, newId := id } (fun _ => True) world.db world.db := .refl
  exact sound.moved moves sound.one sound.pins rfl rfl rfl rfl more

/-! ## Reads -/

variable {worker : ContractWorker}

theorem requireActiveBinding_ok {bindingId : String}
    (required : requireActiveBinding db worker bindingId = .ok binding) :
    binding ∈ db.bindings ∧ binding.bindingId = bindingId ∧ binding.state = .active ∧
      worker = ⟨binding.meshId, binding.taskId, binding.attemptId, binding.generation,
        binding.recipientSessionId⟩ := by
  rw [requireActiveBinding] at required
  split at required
  · cases required
  rename_i found isFound
  split at required
  · cases required
  rename_i ofTask
  split at required
  · cases required
  rename_i isActive
  cases required
  simp only [not_or, not_not] at ofTask isActive
  obtain ⟨state, attemptId, generation, sessionId⟩ := isActive
  refine ⟨mem_of_find?_eq_some isFound, by simpa using find?_some isFound, state, ?_⟩
  rw [ofTask.1, ofTask.2, attemptId, generation, sessionId]

theorem assertWorker_ok (asserted : assertWorker presented = .ok worker) : presented.issued = true ∧
      presented.principal = .worker worker.meshId worker.taskId worker.attemptId worker.generation
        worker.sessionId := by
  rw [assertWorker] at asserted
  split at asserted
  · rename_i issued isWorker
    cases asserted
    exact ⟨issued, isWorker⟩
  · cases asserted
  · cases asserted

theorem holdsActive_of_required {bindingId : String}
    (asserted : assertWorker presented = .ok worker)
    (required : requireActiveBinding world.db worker bindingId = .ok binding) :
    HoldsActive world presented binding := by
  obtain ⟨issued, isWorker⟩ := assertWorker_ok asserted
  obtain ⟨member, -, active, rfl⟩ := requireActiveBinding_ok required
  exact ⟨issued, binding, member, .refl binding, active, isWorker⟩

structure ReadPrepared (ctx : ReadCtx) (world : ReadWorld) (presented : Presented)
    (input : ReadInput) (prepared : PreparedRead) (binding : BindingRow) : Prop where
  isBinding : binding ∈ world.db.bindings
  named : binding.bindingId = input.bindingId
  holds : HoldsActive world presented binding
  bindingId : prepared.row.bindingId = binding.bindingId
  unitId : prepared.row.unitId = prepared.pin.unitId
  unitDigest : prepared.row.unitDigest = prepared.pin.unitDigest
  outcome : prepared.row.outcome = if prepared.body.isSome then .served else .failed
  body : ∀ body, prepared.body = some body →
    ctx.guards.contract.sha256Bytes body = prepared.pin.unitDigest

variable {prepared : PreparedRead}

theorem prepareRead_ok {input : ReadInput}
    (isPrepared : prepareRead ctx world env presented input = .ok prepared) :
    ∃ binding, ReadPrepared ctx world presented input prepared binding := by
  rw [prepareRead] at isPrepared
  split at isPrepared
  · cases isPrepared
  rename_i worker asserted
  split at isPrepared
  · cases isPrepared
  rename_i binding required
  split at isPrepared
  · cases isPrepared
  split at isPrepared
  · cases isPrepared
  rename_i pin isPin
  split at isPrepared
  · cases isPrepared
  split at isPrepared
  · cases isPrepared
  rename_i range isRange
  dsimp only at isPrepared
  split at isPrepared
  · cases isPrepared
  cases isPrepared
  obtain ⟨member, named, -⟩ := requireActiveBinding_ok required
  refine ⟨binding, member, named, holdsActive_of_required asserted required, rfl, rfl, rfl, rfl,
    fun body isBody => ?_⟩
  dsimp only at isBody
  rw [readSpoolBody, Option.filter_eq_some_iff] at isBody
  exact of_decide_eq_true isBody.2

theorem contractRead_answers {input : ReadInput} {body : List UInt8}
    (isPrepared : prepareRead ctx world env presented input = .ok prepared)
    (isBody : prepared.body = some body) :
    ∃ result, (contractRead ctx world env presented input).1 = .ok result ∧
      result.unitId = prepared.pin.unitId ∧ result.unitDigest = prepared.pin.unitDigest ∧
      result.range = prepared.row.range ∧ result.content = (body.drop result.range.start).take
        (result.range.stop - result.range.start) := by
  rw [contractRead, isPrepared]
  dsimp only
  rw [isBody]
  exact ⟨_, rfl, rfl, rfl, rfl, rfl⟩

theorem TablesSound.read (sound : TablesSound ctx events world)
    (isRun : ({} : ReadWorld).run ctx events = world) (env : CallEnv) (presented : Presented)
    (input : ReadInput) : TablesSound ctx (events ++ [.contractRead env presented input])
      (contractRead ctx world env presented input).2 := by
  have old := sound.more [.contractRead env presented input]
  cases isPrepared : prepareRead ctx world env presented input with
  | error refusal =>
    rw [contractRead, isPrepared]
    exact old
  | ok prepared =>
    obtain ⟨held, ready⟩ := prepareRead_ok isPrepared
    have appended : (contractRead ctx world env presented input).2 =
        { world with reads := world.reads ++ [prepared.row] } := by
      rw [contractRead, isPrepared]
      dsimp only
      split <;> rfl
    rw [appended]
    refine { old with readsKnown := fun row member => ?_, reads := fun row member isServed => ?_ }
    · rcases mem_append.mp member with before | new
      · exact old.readsKnown row before
      · rw [mem_singleton.mp new, ready.bindingId]
        exact mem_map_of_mem ready.isBinding
    rcases mem_append.mp member with before | new
    · exact old.reads row before isServed
    rw [mem_singleton.mp new] at isServed ⊢
    intro binding isBinding named pin isUnit isDigest index has
    have same : binding = held := inj_on_of_nodup_map sound.distinct isBinding
      ready.isBinding (named.trans ready.bindingId)
    cases isBody : prepared.body with
    | none =>
      rw [ready.outcome, isBody] at isServed
      cases isServed
    | some body =>
      obtain ⟨result, answered, unitId, digest, range, content⟩ :=
        contractRead_answers isPrepared isBody
      refine ⟨events, [], env, presented, input, result, rfl, ?_, ?_, ?_, ?_, ?_, ?_, body, ?_,
        content⟩
      · rw [isRun, same]
        exact ready.holds
      · rw [same, ready.named]
      · rw [isRun, answered]
      · rw [unitId, isUnit, ready.unitId]
      · rw [digest, isDigest, ready.unitDigest]
      · rw [range]
        exact has
      · rw [ready.body body isBody, isDigest, ready.unitDigest]

/-! ## Claims -/

theorem claimUnits_ok {units : List ObservedUnit} {claimed : List ClaimedUnit}
    (claims : claimUnits world binding units = .ok claimed) :
    ∀ unit ∈ claimed, ∃ pinSet pin, getPinSet world.db binding.pinSetId = some pinSet ∧
      pin ∈ pinSet.pins ∧ pin.unitId = unit.unitId ∧ pin.unitDigest = unit.unitDigest ∧
        fullyServed world.reads binding.bindingId pin = true := by
  induction units generalizing claimed with
  | nil =>
    cases claims
    exact fun unit member => absurd member not_mem_nil
  | cons observed units induction =>
    rw [claimUnits] at claims
    split at claims
    · cases claims
    rename_i first isFirst
    split at claims
    · cases claims
    rename_i rest areRest
    cases claims
    intro unit member
    rcases mem_cons.mp member with rfl | later
    · rw [claimUnit] at isFirst
      split at isFirst
      · cases isFirst
      rename_i pin isPin
      split_ifs at isFirst with digest full
      cases isFirst
      obtain ⟨pinSet, isPinSet, found⟩ := Option.bind_eq_some_iff.mp isPin
      exact ⟨pinSet, pin, isPinSet, mem_of_find?_eq_some found, rfl, rfl,
        Bool.not_eq_false _ |>.mp full⟩
    · exact induction areRest unit later

theorem checkObserve_ok {input : ObserveInput} {claim : ClaimRow}
    (checked : checkObserve ctx world env presented input = .ok claim) :
    ∃ binding ∈ world.db.bindings, binding.bindingId = input.bindingId ∧
      HoldsActive world presented binding ∧ claim.bindingId = binding.bindingId ∧
      claimUnits world binding input.units = .ok claim.units := by
  rw [checkObserve] at checked
  split at checked
  · cases checked
  rename_i worker asserted
  split at checked
  · cases checked
  split at checked
  · cases checked
  rename_i binding required
  split at checked
  · cases checked
  rename_i units claimed
  split at checked
  · cases checked
  cases checked
  obtain ⟨member, named, -⟩ := requireActiveBinding_ok required
  exact ⟨binding, member, named, holdsActive_of_required asserted required, rfl, claimed⟩

theorem TablesSound.fullyServed (sound : TablesSound ctx events world)
    (isBinding : binding ∈ world.db.bindings)
    (full : fullyServed world.reads binding.bindingId pin = true) :
    FullyServedTo ctx events binding pin := by
  intro index inside
  obtain ⟨range, member, has⟩ := rangesCoverAll_sound full inside
  obtain ⟨row, isRow, rfl⟩ := mem_map.mp member
  rw [servedRows, mem_filter] at isRow
  simp only [Bool.and_eq_true, decide_eq_true_eq] at isRow
  obtain ⟨isRead, ⟨⟨named, unitId⟩, digest⟩, isServed⟩ := isRow
  exact sound.reads row isRead isServed binding isBinding named.symm pin unitId.symm digest.symm
    index has

theorem TablesSound.observe (sound : TablesSound ctx events world)
    (isRun : ({} : ReadWorld).run ctx events = world) (env : CallEnv) (presented : Presented)
    (input : ObserveInput) : TablesSound ctx (events ++ [.contractObserve env presented input])
      (contractObserve ctx world env presented input).2 := by
  have old := sound.more [.contractObserve env presented input]
  cases checked : checkObserve ctx world env presented input with
  | error refusal =>
    rw [contractObserve, checked]
    exact old
  | ok claim =>
    obtain ⟨held, isHeld, ofInput, holds, named, claimed⟩ := checkObserve_ok checked
    have answered : contractObserve ctx world env presented input =
        (.ok claim, { world with claims := world.claims ++ [claim] }) := by
      rw [contractObserve, checked]
    rw [answered]
    refine { old with claimsKnown := fun other member => ?_, claims := fun other member => ?_ }
    · rcases mem_append.mp member with before | new
      · exact old.claimsKnown other before
      · rw [mem_singleton.mp new, named]
        exact mem_map_of_mem isHeld
    rcases mem_append.mp member with before | new
    · exact old.claims other before
    rw [mem_singleton.mp new]
    intro unit isUnit binding isBinding isOf pinSet isPinSet pin isPin unitId digest
    have same : binding = held :=
      inj_on_of_nodup_map sound.distinct isBinding isHeld (isOf.trans named)
    rw [same] at isPinSet ⊢
    obtain ⟨found, seen, isFound, isSeen, seenUnit, -, full⟩ := claimUnits_ok claimed unit isUnit
    have sameSet : pinSet = found := Option.mem_unique isPinSet isFound
    rw [sameSet] at isPin
    have samePin : pin = seen := sound.pins.pins _ (mem_of_find?_eq_some isFound) pin isPin
      seen isSeen (unitId.trans seenUnit.symm)
    refine ⟨events, [], env, presented, input, claim, rfl, ?_, ofInput.symm, ?_,
      ⟨unit, isUnit, unitId.symm, digest.symm⟩, ?_⟩
    · rw [isRun]
      exact holds
    · rw [isRun, answered]
    · rw [samePin]
      exact sound.fullyServed isHeld full

/-! ## Evidence and revalidations -/

theorem snapshotBinding_ok {ref : ContractResultRef} {sessionId : Option String}
    (found : snapshotBinding db ref sessionId = some binding) :
    binding ∈ db.bindings ∧ binding.meshId = ref.meshId ∧ binding.taskId = ref.taskId ∧
      binding.attemptId = ref.attemptId ∧ binding.generation = ref.generation := by
  have listed := mem_filter.mp (mem_of_getLast? found)
  rw [listBindingsForTask, mem_insertionSort, mem_filter] at listed
  simp only [Bool.and_eq_true, decide_eq_true_eq] at listed
  exact ⟨listed.1.1, listed.1.2.1, listed.1.2.2, listed.2.1.1.1, listed.2.1.1.2⟩

theorem TablesSound.frozenNow (sound : TablesSound ctx events world)
    (isBinding : binding ∈ world.db.bindings) {pinSet : PinSetRow}
    (isPinSet : getPinSet world.db binding.pinSetId = some pinSet) (isPin : pin ∈ pinSet.pins) :
    ∃ unit ∈ snapshotUnits world.db world.observed binding,
      (unit.proof.e2Full = true → FullyServedTo ctx events binding pin) ∧
        (unit.proof.c1ClaimIds ≠ [] → ClaimedBy ctx events binding pin) := by
  refine ⟨⟨pin.unitId, pin.unitDigest, world.observed binding pin⟩, ?_,
    fun full => sound.fullyServed isBinding full, fun some => ?_⟩
  · rw [snapshotUnits, isPinSet]
    exact mem_map_of_mem isPin
  · obtain ⟨claimId, member⟩ := exists_mem_of_ne_nil _ some
    obtain ⟨claim, isClaim, rfl⟩ := mem_map.mp member
    rw [mem_filter, Bool.and_eq_true, any_eq_true] at isClaim
    obtain ⟨member, named, unit, isUnit, same⟩ := isClaim
    simp only [Bool.and_eq_true, decide_eq_true_eq] at named same
    exact sound.claims claim member unit isUnit binding isBinding named.symm pinSet isPinSet pin
      isPin same.1.symm same.2.symm

variable {guards : GuardWorld} {resultKey : String}

theorem getResultEvidence_append {row found : EvidenceRow}
    (isFound : getResultEvidence guards resultKey = some found) :
    getResultEvidence { guards with evidence := guards.evidence ++ [row] } resultKey =
      some found := by
  rw [getResultEvidence] at isFound ⊢
  rw [find?_append, isFound]
  rfl

theorem TablesSound.addEvidence (sound : TablesSound ctx events world) {row : EvidenceRow}
    (key : row.resultKey = ctx.guards.resultKeyOf row.ref)
    (frozen : row.pinSetId.isSome → ∃ binding pinSet, Frozen ctx events world.db row binding
      pinSet) :
    TablesSound ctx events { world with
      guards := { world.guards with evidence := world.guards.evidence ++ [row] } } := by
  refine
    { sound with
      keys := fun other member => ?_
      frozen := fun other member hasPins => ?_
      revalidations := fun other member => ?_ }
  · rcases mem_append.mp member with old | new
    · exact sound.keys other old
    · rw [mem_singleton.mp new]
      exact key
  · rcases mem_append.mp member with old | new
    · exact sound.frozen other old hasPins
    · rw [mem_singleton.mp new] at hasPins ⊢
      exact frozen hasPins
  · obtain ⟨evidence, found, ofNamespace⟩ := sound.revalidations other member
    exact ⟨evidence, getResultEvidence_append found, ofNamespace⟩

theorem TablesSound.record (sound : TablesSound ctx events world) (now : Int)
    (ref : ContractResultRef) (sessionId : Option String) (quarantined : Bool) :
    TablesSound ctx events { world with
      guards := recordResultEvidence ctx.guards world.guards now ref sessionId quarantined
        world.observed } := by
  rw [recordResultEvidence]
  split
  · exact sound
  rename_i scope isScope
  dsimp only
  split_ifs with recorded quarantines
  · exact sound
  · exact sound.addEvidence rfl (by simp)
  refine sound.addEvidence rfl fun hasPins => ?_
  obtain ⟨pinSetId, isPinSetId⟩ := Option.isSome_iff_exists.mp hasPins
  obtain ⟨binding, isBinding, rfl⟩ := Option.map_eq_some_iff.mp isPinSetId
  obtain ⟨member, meshId, taskId, attemptId, generation⟩ := snapshotBinding_ok isBinding
  obtain ⟨pinSet, isPinSet⟩ := Option.isSome_iff_exists.mp (sound.pinned binding member)
  refine ⟨binding, pinSet,
    { isBinding := member
      named := by rw [isBinding]; rfl
      meshId
      taskId
      attemptId
      generation
      pinned := isPinSet
      samePins := isPinSetId
      units := fun pin isPin => ?_ }⟩
  rw [isBinding]
  exact sound.frozenNow member isPinSet isPin

theorem currentHeadVector_namespace {namespaceId : String} {current : ContractHeadVector}
    (found : currentHeadVector db namespaceId = some current) :
    current.namespaceId = namespaceId := by
  rw [currentHeadVector] at found
  split at found
  · cases found
    rfl
  · cases found

theorem checkRevalidation_ok {input : RevalidateInput} {row : RevalidationRow}
    (checked : checkRevalidation ctx.guards guards env presented input = .ok row) :
    ∃ evidence, getResultEvidence guards row.resultKey = some evidence ∧
      row.vector.namespaceId = evidence.namespaceId := by
  rw [checkRevalidation] at checked
  split at checked
  · cases checked
  split at checked
  · cases checked
  split at checked
  · cases checked
  rename_i evidence isEvidence
  split at checked
  · cases checked
  split at checked
  · cases checked
  split at checked
  · cases checked
  split at checked
  · cases checked
  rename_i vector isVector
  split_ifs at checked
  all_goals
    cases checked
    exact ⟨evidence, isEvidence, currentHeadVector_namespace isVector⟩

theorem TablesSound.revalidate (sound : TablesSound ctx events world) (env : CallEnv)
    (presented : Presented) (input : RevalidateInput) : TablesSound ctx events { world with
      guards := revalidateResult ctx.guards world.guards env presented input } := by
  rw [revalidateResult]
  split
  · exact sound
  rename_i row checked
  split_ifs with taken
  · exact sound
  refine { sound with revalidations := fun other member => ?_ }
  rcases mem_append.mp member with old | new
  · exact sound.revalidations other old
  · rw [mem_singleton.mp new]
    exact checkRevalidation_ok checked

/-! ## Runs -/

theorem TablesSound.empty : TablesSound ctx [] {} where
  distinct := nodup_nil
  one _ _ _ member := by cases member
  pins := .empty
  pinned _ member := by cases member
  readsKnown _ member := by cases member
  claimsKnown _ member := by cases member
  reads _ member := by cases member
  claims _ member := by cases member
  keys _ member := by cases member
  frozen _ member := by cases member
  revalidations _ member := by cases member

section

variable (sound : TablesSound ctx events world)
include sound

theorem TablesSound.onlyGuards {next : GuardWorld} (only : OnlyGuards world.guards next)
    (more : List ReadEvent) : TablesSound ctx (events ++ more) { world with guards := next } := by
  obtain ⟨useGuards, isDb⟩ := only.db
  have isNext : ({ world with guards := next } : ReadWorld).db = { world.db with useGuards } := isDb
  have moves : Moves { now := 0, newId := id } (fun _ => True) world.db
      ({ world with guards := next } : ReadWorld).db := by
    rw [isNext]
    exact .same rfl rfl rfl
  refine sound.moved moves (sound.one.of_eq ?_) (sound.pins.same ?_ ?_) rfl rfl only.evidence
    only.revalidations more <;> rw [isNext]

theorem TablesSound.purge {owner : Presented} {digest : String} {store : ContractStore}
    (left : (legalPurgeBody owner digest world.guards.state.store).2 = store)
    (more : List ReadEvent) : TablesSound ctx (events ++ more)
      { world with
        guards := { world.guards with state := { world.guards.state with store } } } := by
  rcases legalPurgeBody_leaves owner digest world.guards.state.store with same | purged
  · rw [← left, same]
    exact sound.more more
  have moves : Moves { now := 0, newId := id } (fun _ => True) world.db
      (purgeBody digest world.db) := .same rfl rfl rfl
  rw [← left, purged]
  refine sound.moved moves (sound.one.of_eq ?_) (sound.pins.same ?_ ?_) ?_ ?_ ?_ ?_ more <;> rfl

theorem TablesSound.call (env : CallEnv) (call : RetentionCall) (more : List ReadEvent) :
    TablesSound ctx (events ++ more)
      { world with guards := world.guards.perform ctx.guards.contract env call } := by
  set later : ReadWorld :=
    { world with guards := world.guards.perform ctx.guards.contract env call }
  have moves : Moves env (fun _ => True) world.db later.db := perform_moves call fun _ _ => trivial
  have one : KeepsOneActive world.db later.db := perform_oneActive call
  have pins : PinsSound world.db → PinsSound later.db := perform_pinsSound call
  exact sound.moved moves (one sound.distinct sound.one) (pins sound.pins) rfl rfl rfl rfl more

theorem TablesSound.step (isRun : ({} : ReadWorld).run ctx events = world) (event : ReadEvent) :
    TablesSound ctx (events ++ [event]) (world.step ctx event) := by
  cases event with
  | call env call => exact sound.call env call _
  | legalPurgeBody owner digest => exact sound.purge rfl _
  | contractRead env presented input => exact sound.read isRun env presented input
  | contractObserve env presented input => exact sound.observe isRun env presented input
  | recordResultEvidence now ref sessionId quarantined =>
    exact (sound.record now ref sessionId quarantined).more _
  | revalidateResult env presented input => exact (sound.revalidate env presented input).more _
  | beginGuardedUse env input => exact sound.onlyGuards (beginGuardedUse_only env input) _
  | recordGuardIntent guardId externalRef | finishUseGuard guardId outcome externalRef
  | markUseGuardUnknown guardId externalRef => exact sound.onlyGuards (setGuardState_only ..) _
  | reconcileUnknownUseGuard guardId probe =>
    exact sound.onlyGuards (reconcileUnknownUseGuard_only guardId probe) _

end

theorem tablesSound_run (ctx : ReadCtx) (events : List ReadEvent) :
    TablesSound ctx events (({} : ReadWorld).run ctx events) := by
  induction events using reverseRecOn with
  | nil => exact .empty
  | append_singleton events event induction =>
    have last : ({} : ReadWorld).run ctx (events ++ [event]) =
        (({} : ReadWorld).run ctx events).step ctx event := by
      rw [ReadWorld.run, ReadWorld.run, foldl_append]
      rfl
    rw [last]
    exact induction.step rfl event

/-! ## Assessment -/

structure Assessed (ctx : GuardCtx) (guards : GuardWorld) (now : Int) (resultKey : String)
    (purpose : ContractUsePurpose) (evidence : EvidenceRow) (authority : AuthorityRow)
    (vector : ContractHeadVector) (pinSet : PinSetRow) : Prop where
  found : getResultEvidence guards resultKey = some evidence
  readable : authorityReadable ctx.contract guards.db evidence.namespaceId = some authority
  isCurrent : currentHeadVector guards.db evidence.namespaceId = some vector
  pinned : evidence.pinSetId.bind (getPinSet guards.db) = some pinSet
  unrevoked : isRevisionRevoked guards.db evidence.namespaceId pinSet.vector.revisionId = false
  unpurged : ∀ pin ∈ pinSet.pins, pin.unitDigest ∉ guards.db.tombstones
  complete : missingEvidence (ctx.evidenceMode authority) evidence.units = []
  current : vectorsEqual pinSet.vector vector = true ∨
    ∃ row, matchingRevalidation guards now resultKey purpose vector = some row ∧ row.waiver = false

variable {purpose : ContractUsePurpose}

variable {vector : ContractHeadVector} {authority : AuthorityRow}

theorem assessEvidence_eligible {ctx : GuardCtx} {now : Int} {evidence : EvidenceRow}
    (eligible : (assessEvidence ctx guards now evidence authority vector purpose).state =
      .eligible) :
    ∃ pinSet, evidence.pinSetId.bind (getPinSet guards.db) = some pinSet ∧
      isRevisionRevoked guards.db evidence.namespaceId pinSet.vector.revisionId = false ∧
      (∀ pin ∈ pinSet.pins, pin.unitDigest ∉ guards.db.tombstones) ∧
      missingEvidence (ctx.evidenceMode authority) evidence.units = [] ∧
      (vectorsEqual pinSet.vector vector = true ∨
        ∃ row, matchingRevalidation guards now evidence.resultKey purpose vector = some row ∧
          row.waiver = false) := by
  rw [assessEvidence] at eligible
  dsimp only at eligible
  split at eligible
  · cases eligible
  rename_i pinSet isPinSet
  split at eligible
  · cases eligible
  rename_i unrevoked
  split at eligible
  · cases eligible
  rename_i unpurged
  split at eligible
  · cases eligible
  split at eligible
  · cases eligible
  rename_i complete
  refine ⟨pinSet, isPinSet, Bool.not_eq_true _ |>.mp unrevoked, fun pin isPin purged => ?_,
    not_not.mp complete, ?_⟩
  · exact unpurged (any_eq_true.mpr ⟨pin, isPin, decide_eq_true purged⟩)
  split at eligible
  · rename_i same
    exact .inl same
  split at eligible
  · rename_i compatible
    rw [Option.any_eq_true] at compatible
    obtain ⟨row, isRow, notWaiver⟩ := compatible
    exact .inr ⟨row, isRow, Bool.not_eq_true' _ |>.mp notWaiver⟩
  · cases eligible

theorem assessed_of_eligible {ctx : GuardCtx} {now : Int} {decision : ContractEligibility}
    (keys : ∀ evidence, getResultEvidence guards resultKey = some evidence → evidence.resultKey =
      resultKey)
    (assessed : assessResultEligibility ctx guards now resultKey purpose = .ok decision)
    (eligible : decision.state = .eligible) : ∃ evidence authority vector pinSet,
      Assessed ctx guards now resultKey purpose evidence authority vector pinSet := by
  rw [assessResultEligibility] at assessed
  dsimp only at assessed
  split at assessed
  · cases assessed
    cases eligible
  rename_i evidence found
  split at assessed
  · cases assessed
    cases eligible
  split at assessed
  · cases assessed
    cases eligible
  rename_i authority readable
  split at assessed
  · cases assessed
  rename_i vector isVector
  cases assessed
  obtain ⟨pinSet, isPinSet, unrevoked, unpurged, complete, current⟩ :=
    assessEvidence_eligible eligible
  rw [keys evidence found] at current
  exact ⟨evidence, authority, vector, pinSet, found, readable, isVector, isPinSet, unrevoked,
    unpurged, complete, current⟩

theorem missingEvidence_nil {mode : EvidenceMode} {units : List EvidenceUnit}
    (complete : missingEvidence mode units = []) :
    ∀ unit ∈ units, unit.proof.e2Full = true ∧ (mode = .e2c1 → unit.proof.c1ClaimIds ≠ []) := by
  intro unit member
  have nothing : units.flatMap (fun unit =>
      (if unit.proof.e2Full then [] else ["missing_e2:" ++ unit.unitId]) ++
        if mode = .e2c1 ∧ unit.proof.c1ClaimIds = [] then ["missing_c1:" ++ unit.unitId]
        else []) = [] := by
    rw [missingEvidence] at complete
    split at complete
    · exact (append_eq_nil_iff.mp complete).1
    · exact complete
  have ofUnit := flatMap_eq_nil_iff.mp nothing unit member
  rw [append_eq_nil_iff] at ofUnit
  obtain ⟨served, claimed⟩ := ofUnit
  refine ⟨?_, fun isMode unclaimed => ?_⟩
  · by_contra unserved
    rw [if_neg unserved] at served
    cases served
  · rw [if_pos ⟨isMode, unclaimed⟩] at claimed
    cases claimed

theorem matchingRevalidation_some {now : Int} {row : RevalidationRow}
    (found : matchingRevalidation guards now resultKey purpose vector = some row) :
    row ∈ guards.revalidations ∧ row.resultKey = resultKey ∧ row.purpose = purpose ∧
      { row.vector with namespaceId := vector.namespaceId } = vector ∧
      row.expiresAt.all (now < ·) = true := by
  rw [matchingRevalidation] at found
  have member := mem_of_find?_eq_some found
  rw [mem_insertionSort, mem_filter] at member
  have matching := find?_some found
  simp only [Bool.and_eq_true, decide_eq_true_eq] at member matching
  obtain ⟨⟨⟨⟨⟨epoch, generation⟩, revisionId⟩, policy⟩, revocation⟩, unexpired⟩ := matching
  refine ⟨member.1, member.2.1, member.2.2, ?_, unexpired⟩
  dsimp only
  rw [epoch, generation, revisionId, policy, revocation]

theorem authorityReadable_getAuthority {contract : ContractCtx} {namespaceId : String}
    (readable : authorityReadable contract db namespaceId = some authority) :
    getAuthority db namespaceId = some authority := by
  rw [authorityReadable] at readable
  split_ifs at readable
  exact (Option.filter_eq_some_iff.mp readable).1

theorem vectorsEqual_sameHead {pinned current : ContractHeadVector}
    (equal : vectorsEqual pinned current = true) : SameHead pinned current := by
  rw [vectorsEqual] at equal
  simp only [Bool.and_eq_true, decide_eq_true_eq] at equal
  obtain ⟨⟨⟨⟨namespaceId, epoch⟩, generation⟩, revisionId⟩, policy⟩ := equal
  rw [SameHead, namespaceId, epoch, generation, revisionId, policy]

end Runs

/-- In every run an eligible result was made under a binding of its task, attempt and generation
whose session was served every pinned byte, and claimed the units where claims are asked for; the
pinned head is the current one, or the result was revalidated at it. No task ever has two active
bindings. -/
theorem eligible_results_were_served (ctx : ReadCtx) (events : List ReadEvent) :
    EligibleMeansServed SameHead ctx events ∧
      AtMostOneActive (({} : ReadWorld).run ctx events).db := by
  have sound := tablesSound_run ctx events
  refine ⟨fun resultKey purpose now decision assessed eligible => ?_, sound.one.atMostOne
    sound.distinct⟩
  generalize ({} : ReadWorld).run ctx events = world at assessed sound ⊢
  have keys (evidence : EvidenceRow)
      (found : getResultEvidence world.guards resultKey = some evidence) :
      evidence.resultKey = resultKey := by
    simpa using List.find?_some found
  obtain ⟨evidence, authority, vector, pinSet, checked⟩ :=
    assessed_of_eligible keys assessed eligible
  have isRow := List.mem_of_find?_eq_some checked.found
  obtain ⟨pinSetId, isPinSetId, found⟩ := Option.bind_eq_some_iff.mp checked.pinned
  obtain ⟨binding, frozenSet, frozen⟩ := sound.frozen evidence isRow (by rw [isPinSetId]; rfl)
  have sameId : binding.pinSetId = pinSetId :=
    Option.some.inj (frozen.samePins.symm.trans isPinSetId)
  have sameSet : frozenSet = pinSet := by
    have pinned := frozen.pinned
    rw [sameId] at pinned
    exact Option.some.inj (pinned.symm.trans found)
  rw [sameSet] at frozen
  have proven := missingEvidence_nil checked.complete
  refine ⟨evidence, binding, pinSet, authority, vector,
    { found := checked.found
      ofResult := (sound.keys evidence isRow).symm.trans (keys evidence checked.found)
      isBinding := frozen.isBinding
      named := frozen.named
      meshId := frozen.meshId
      taskId := frozen.taskId
      attemptId := frozen.attemptId
      generation := frozen.generation
      pinned := frozen.pinned
      served := fun pin isPin => ?_
      governed := ?_
      claimed := fun isMode pin isPin => ?_
      unrevoked := checked.unrevoked
      unpurged := checked.unpurged
      isCurrent := checked.isCurrent }, ?_⟩
  · obtain ⟨unit, isUnit, served, -⟩ := frozen.units pin isPin
    exact served (proven unit isUnit).1
  · exact authorityReadable_getAuthority checked.readable
  · obtain ⟨unit, isUnit, -, claimed⟩ := frozen.units pin isPin
    exact claimed ((proven unit isUnit).2 isMode)
  · rcases checked.current with same | ⟨row, isMatching, notWaiver⟩
    · exact .inl (vectorsEqual_sameHead same)
    obtain ⟨member, ofResult, ofPurpose, same, unexpired⟩ := matchingRevalidation_some isMatching
    obtain ⟨other, isOther, ofNamespace⟩ := sound.revalidations row member
    rw [ofResult, checked.found] at isOther
    cases isOther
    have namespaces : row.vector.namespaceId = vector.namespaceId :=
      ofNamespace.trans (currentHeadVector_namespace checked.isCurrent).symm
    rw [← namespaces] at same
    exact .inr ⟨row, member, ofResult, ofPurpose, same, notWaiver, unexpired⟩

/-! ## Another revision is revoked after the pin -/

section Revoked

def servedReads : ReadCtx where
  guards := servedCtx

def reading (random : String) (call : RetentionCall) : ReadEvent := .call (drawing random) call

def firstWorker : Presented where
  principal := .worker "mesh" "task" "attempt" 1 "first"

/-- The session reads its unit, its result has its evidence, and then a revision that was proposed
only is revoked. -/
def revokedAfterPin : List ReadEvent :=
  [reading "1" (.contract (.authority .beginContractProcessIncarnation)),
    reading "1" (.contract (.authority (.enrollNamespace plainOwner { meshId := "mesh" }))),
    reading "1" (.contract (.authority
      (.updatePolicy plainOwner "ns_1" { reviewerQuorum := some 0 }))),
    reading "1" (proposing ⟨1, 0, none, 2⟩ 1),
    reading "1" (accepting "1" ⟨1, 0, none, 2⟩),
    reading "1" (.bindMissionScope plainOwner ⟨"mesh", "mission", "ns_1", [], false⟩),
    reading "1" (.stampTaskScopeFromMission "mesh" "task" (some "mission")),
    reading "1" (dispatching "first"),
    .contractRead (drawing "1") firstWorker
      { bindingId := "bnd_1", unitId := "unit", rangeStart := none, rangeEnd := none },
    .recordResultEvidence 1 servedResult (some "first") false,
    reading "2" (proposing ⟨1, 1, some "rev_sha_1", 2⟩ 2),
    reading "2" (.contract (.revokeRevision plainOwner
      { namespaceId := "ns_1", revisionId := "rev_sha_2" }))]

def revokedHead : ContractHeadVector where
  namespaceId := "ns_1"
  authorityEpoch := 1
  headGeneration := 1
  revisionId := some "rev_sha_1"
  policyRevision := 2
  revocationGeneration := 1

def servedDecision : ContractEligibility where
  state := .eligible
  reasons := ["served_bytes_only"]
  resultKey := "result_task"
  namespaceId := some "ns_1"
  vector := some revokedHead

def readEvidence : EvidenceRow :=
  { servedEvidence with units := [⟨"unit", "sha_1", ⟨true, ["read_1"], []⟩⟩] }

theorem pinned_vector_differs : ¬ EligibleMeansServed Eq servedReads revokedAfterPin := by
  intro means
  have assessed : assessResultEligibility servedReads.guards
      (({} : ReadWorld).run servedReads revokedAfterPin).guards 2 "result_task" .dependency =
        .ok servedDecision := by decide +kernel
  obtain ⟨evidence, binding, pinSet, authority, current, served, agrees⟩ :=
    means "result_task" .dependency 2 servedDecision assessed rfl
  have isEvidence : getResultEvidence (({} : ReadWorld).run servedReads revokedAfterPin).guards
      "result_task" = some readEvidence := by decide +kernel
  have found := served.found
  rw [isEvidence] at found
  cases found
  have isHead : currentHeadVector (({} : ReadWorld).run servedReads revokedAfterPin).db "ns_1" =
      some revokedHead := by decide +kernel
  have isCurrent : current = revokedHead := Option.some.inj (served.isCurrent.symm.trans isHead)
  rcases agrees with same | ⟨row, member, -⟩
  · have pinned : (({} : ReadWorld).run servedReads revokedAfterPin).db.pinSets.map
        (·.vector.revocationGeneration) = [0] := by decide +kernel
    have isPinned := served.pinned
    rw [getPinSet] at isPinned
    have unrevoked := List.mem_map_of_mem (f := (·.vector.revocationGeneration))
      (List.mem_of_find?_eq_some isPinned)
    rw [pinned, same, isCurrent] at unrevoked
    exact absurd unrevoked (by decide +kernel)
  have none : (({} : ReadWorld).run servedReads revokedAfterPin).guards.revalidations = [] := by
    decide +kernel
  rw [none] at member
  cases member

end Revoked

end Adhdev.Contract
