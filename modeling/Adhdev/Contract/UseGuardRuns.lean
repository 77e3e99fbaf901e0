import Adhdev.Contract.GuardedUnits
import Adhdev.Contract.NoticeRuns

/-! # A guarded use sees a stable contract

A guard is opened only for results that are usable, no unit that its results pin moves while it is
open, and it leaves an unknown outcome only on a definite answer.
-/

namespace Adhdev.Contract

open Call List Option Bool

/-- Every result can be used for the purpose at this moment. -/
def AllUsable (ctx : GuardCtx) (world : GuardWorld) (now : Int) (input : GuardedUse) : Prop :=
  ∀ resultKey ∈ input.resultKeys, ∃ decision,
    assessResultEligibility ctx world now resultKey input.purpose = .ok decision ∧
      usable decision.state = true

def Opens (ctx : GuardCtx) (world : GuardWorld) (event : GuardEvent) (guardId : String) : Prop :=
  ∃ env input, event = .beginGuardedUse env input ∧ env.newId "guard" = guardId ∧
    AllUsable ctx world env.now input

def IsOpen (world : GuardWorld) (guardId : String) : Prop :=
  ∃ row, getUseGuard world.db guardId = some row ∧ row.isOpen

def HasState (world : GuardWorld) (guardId : String) (state : GuardState) : Prop :=
  ∃ row, getUseGuard world.db guardId = some row ∧ row.state = state

def externalRefOf (world : GuardWorld) (guardId : String) : Option (List (String × String)) :=
  (world.details.find? (·.guardId = guardId)).bind (·.externalRef)

/-- The probe says for certain whether the use landed. -/
def Answered (world : GuardWorld) (event : GuardEvent) (guardId : String) (state : GuardState) :
    Prop :=
  ∃ probe, event = .reconcileUnknownUseGuard guardId probe ∧
    (probe (externalRefOf world guardId) = .landed ∧ state = .finished ∨
      probe (externalRefOf world guardId) = .notLanded ∧ state = .released)

def pinnedUnits (world : GuardWorld) (evidence : EvidenceRow) : List String :=
  ((evidence.pinSetId.bind (getPinSet world.db)).elim [] (·.pins)).map (·.unitId)

def OfNamespace (world : GuardWorld) (input : GuardedUse) : Prop :=
  ∀ resultKey ∈ input.resultKeys, ∀ evidence, getResultEvidence world resultKey = some evidence →
    evidence.namespaceId = input.namespaceId

def OpensOnlyUsable (ctx : GuardCtx) (world : GuardWorld) : Prop :=
  ∀ event guardId, IsOpen (world.step ctx event) guardId →
    IsOpen world guardId ∨ Opens ctx world event guardId

def KeepsPinnedUnits (ctx : GuardCtx) (world : GuardWorld) : Prop :=
  ∀ env input, OfNamespace world input → (openedGuard ctx world env input).isSome →
    ∀ events, let later := (world.step ctx (.beginGuardedUse env input)).run ctx events
      IsOpen later (env.newId "guard") →
        ∀ resultKey ∈ input.resultKeys, ∀ evidence, getResultEvidence world resultKey =
          some evidence →
          ∀ unitId ∈ pinnedUnits world evidence,
            headDigest later.db evidence.namespaceId unitId =
              headDigest world.db evidence.namespaceId unitId

def LeavesUnknownAnswered (ctx : GuardCtx) (world : GuardWorld) : Prop :=
  ∀ event guardId, HasState world guardId .unknown →
    HasState (world.step ctx event) guardId .unknown ∨
      ∃ state, HasState (world.step ctx event) guardId state ∧ Answered world event guardId state

/-! ## One step -/

section Steps

variable {ctx : GuardCtx} {world : GuardWorld}

/-- A guard after a step: its state can change, but a closed guard stays closed. -/
structure GuardKept (row later : UseGuardRow) : Prop where
  namespaceId : later.namespaceId = row.namespaceId
  units : later.units = row.units
  closed : later.isOpen → row.isOpen

structure GuardStep (ctx : GuardCtx) (world : GuardWorld) (event : GuardEvent)
    (next : GuardWorld) : Prop where
  kept : ∀ guardId row, getUseGuard world.db guardId = some row →
    ∃ later, getUseGuard next.db guardId = some later ∧ GuardKept row later ∧
      (row.state = .unknown → later.state = .unknown ∨ Answered world event guardId later.state)
  added : ∀ guardId, getUseGuard world.db guardId = none →
    (getUseGuard next.db guardId).isSome → Opens ctx world event guardId
  digests : KnownRevisions world.db → ∀ row ∈ world.db.useGuards, row.isOpen →
    ∀ unitId ∈ row.units,
      headDigest next.db row.namespaceId unitId = headDigest world.db row.namespaceId unitId
  known : KnownRevisions world.db → KnownRevisions next.db

theorem GuardKept.refl (row : UseGuardRow) : GuardKept row row := ⟨rfl, rfl, id⟩

variable {next : GuardWorld}

theorem GuardStep.same {event : GuardEvent} (sameDb : next.db = world.db) :
    GuardStep ctx world event next where
  kept guardId row found := ⟨row, sameDb ▸ found, .refl row, fun unknown => .inl unknown⟩
  added guardId missing found := by
    rw [sameDb, missing] at found
    cases found
  digests _ _ _ _ _ _ := by rw [sameDb]
  known known := sameDb ▸ known

variable {db : ContractDb}

theorem getUseGuard_map {change : UseGuardRow → UseGuardRow}
    (keeps : ∀ row, (change row).guardId = row.guardId) (guardId : String) :
    getUseGuard { db with useGuards := db.useGuards.map change } guardId =
      (getUseGuard db guardId).map change := by
  rw [getUseGuard, find?_map]
  congr 2
  funext row
  rw [Function.comp_apply, keeps]

variable {guardId : String}

theorem getUseGuard_id {row : UseGuardRow} (found : getUseGuard db guardId = some row) :
    row.guardId = guardId := by
  simpa using find?_some found

theorem performed_guards (env : CallEnv) (call : RetentionCall) :
    Guards world.db (world.perform ctx.contract env call).db :=
  perform_guards call

theorem perform_step (env : CallEnv) (call : RetentionCall) :
    GuardStep ctx world (.call env call) (world.perform ctx.contract env call) := by
  have guards : Guards world.db (world.perform ctx.contract env call).db :=
    performed_guards env call
  obtain ⟨change, isChange, changes⟩ := guards.rows
  have ids (row : UseGuardRow) : (change row).guardId = row.guardId := by
    rcases changes row with same | ⟨-, same⟩ <;> rw [same]
  have found (guardId : String) :
      getUseGuard (world.perform ctx.contract env call).db guardId =
        (getUseGuard world.db guardId).map change := by
    rw [← getUseGuard_map ids, getUseGuard, isChange]
    rfl
  refine ⟨fun guardId row isRow => ⟨change row, by rw [found, isRow]; rfl, ?_, ?_⟩, ?_,
    guards.digests, guards.known⟩
  · rcases changes row with same | ⟨isActive, same⟩
    · rw [same]
      exact .refl row
    · rw [same]
      exact ⟨rfl, rfl, fun _ => .inl isActive⟩
  · intro unknown
    rcases changes row with same | ⟨-, same⟩
    · rw [same]
      exact .inl unknown
    · rw [same]
      exact .inl rfl
  · intro guardId missing isFound
    rw [found, missing] at isFound
    cases isFound

theorem getUseGuard_setGuardState (guardId : String) (sources : List GuardState)
    (target : GuardState) (externalRef : Option (List (String × String))) (otherId : String) :
    getUseGuard (setGuardState world guardId sources target externalRef).db otherId =
      (getUseGuard world.db otherId).map fun row =>
        if row.guardId = guardId ∧ row.state ∈ sources then { row with state := target }
        else row := by
  have unchanged (stays : ∀ row, getUseGuard world.db guardId = some row → row.state ∉ sources) :
      getUseGuard world.db otherId = (getUseGuard world.db otherId).map fun row =>
        if row.guardId = guardId ∧ row.state ∈ sources then { row with state := target }
        else row := by
    cases found : getUseGuard world.db otherId with
    | none => rfl
    | some row =>
      rw [map_some, if_neg]
      rintro ⟨isGuard, isSource⟩
      have isOther := getUseGuard_id found
      exact stays row (isGuard ▸ isOther ▸ found) isSource
  rw [setGuardState]
  split
  · rename_i missing
    exact unchanged fun row found => by rw [missing] at found; cases found
  rename_i row isRow
  split_ifs with isSource
  · have moved : getUseGuard { world.db with useGuards := world.db.useGuards.map fun row =>
        if row.guardId = guardId then { row with state := target } else row } otherId =
        (getUseGuard world.db otherId).map fun row =>
          if row.guardId = guardId then { row with state := target } else row :=
      getUseGuard_map (fun row => by split_ifs <;> rfl) otherId
    refine moved.trans ?_
    cases found : getUseGuard world.db otherId with
    | none => rfl
    | some other =>
      rw [map_some, map_some]
      by_cases isGuard : other.guardId = guardId
      · have same : other = row := by
          have isOther := getUseGuard_id found
          rw [← isOther, isGuard, isRow] at found
          exact (some.inj found).symm
        rw [if_pos isGuard, if_pos ⟨isGuard, same ▸ isSource⟩]
      · rw [if_neg isGuard, if_neg fun both => isGuard both.1]
  refine unchanged fun other isOther => ?_
  rw [isRow] at isOther
  cases isOther
  exact isSource

theorem setGuardState_sameTables (guardId : String) (sources : List GuardState)
    (target : GuardState) (externalRef : Option (List (String × String))) :
    ∃ useGuards, (setGuardState world guardId sources target externalRef).db =
      { world.db with useGuards } := by
  rw [setGuardState]
  split
  · exact ⟨world.db.useGuards, rfl⟩
  split_ifs
  · exact ⟨_, rfl⟩
  · exact ⟨world.db.useGuards, rfl⟩

theorem setGuardState_step {event : GuardEvent} {sources : List GuardState} {target : GuardState}
    {externalRef : Option (List (String × String))}
    (closed : (target = .active ∨ target = .unknown) → ∀ state ∈ sources, state = .active ∨ state
      = .unknown)
    (answered : .unknown ∈ sources → HasState world guardId .unknown → target = .unknown ∨
      Answered world event guardId target) :
    GuardStep ctx world event (setGuardState world guardId sources target externalRef) := by
  obtain ⟨useGuards, isDb⟩ := @setGuardState_sameTables world guardId sources target externalRef
  have found := @getUseGuard_setGuardState world guardId sources target externalRef
  refine ⟨fun otherId row isRow => ?_, fun otherId missing isFound => ?_, ?_, ?_⟩
  · rw [found, isRow, map_some]
    split_ifs with moves
    · refine ⟨_, rfl, ⟨rfl, rfl, fun isOpen => closed isOpen row.state moves.2⟩, fun unknown => ?_⟩
      have isOther := getUseGuard_id isRow
      rw [← isOther, moves.1]
      exact answered (unknown ▸ moves.2) ⟨row, moves.1 ▸ isOther ▸ isRow, unknown⟩
    · exact ⟨row, rfl, .refl row, fun unknown => .inl unknown⟩
  · rw [found, missing] at isFound
    cases isFound
  · rw [isDb]
    exact fun _ row _ _ unitId _ => headDigest_same (manifests_same rfl) rfl unitId
  · rw [isDb]
    exact fun known => ⟨known.heads, known.candidates⟩

theorem reconcileUnknownUseGuard_step (guardId : String)
    (probe : Option (List (String × String)) → ProbeVerdict) :
    GuardStep ctx world (.reconcileUnknownUseGuard guardId probe)
      (reconcileUnknownUseGuard world guardId probe) := by
  rw [reconcileUnknownUseGuard]
  split
  · exact .same rfl
  split_ifs
  · exact .same rfl
  have closing {target : GuardState} (closes : target ≠ .active ∧ target ≠ .unknown)
      (verdict : Answered world (.reconcileUnknownUseGuard guardId probe) guardId target) :
      GuardStep ctx world (.reconcileUnknownUseGuard guardId probe)
        (setGuardState world guardId [.unknown] target none) :=
    setGuardState_step (fun isOpen => absurd isOpen (not_or.mpr closes)) fun _ _ => .inr verdict
  split
  · rename_i landed
    exact closing ⟨nofun, nofun⟩ ⟨probe, rfl, .inl ⟨landed, rfl⟩⟩
  · rename_i notLanded
    exact closing ⟨nofun, nofun⟩ ⟨probe, rfl, .inr ⟨notLanded, rfl⟩⟩
  · exact .same rfl

variable {input : GuardedUse}

theorem decisionsOf_ok {now : Int} {decisions : List ContractEligibility}
    (decided : decisionsOf ctx world now input = .ok decisions) (all : allUsable decisions = true) :
    AllUsable ctx world now input := by
  intro resultKey member
  rw [decisionsOf] at decided
  generalize input.resultKeys = keys at decided member
  induction keys generalizing decisions with
  | nil => cases member
  | cons key keys induction =>
    rw [mapM_cons] at decided
    obtain ⟨decision, isDecision, rest⟩ := except_bind_ok_iff.mp decided
    obtain ⟨others, areOthers, last⟩ := except_bind_ok_iff.mp rest
    cases last
    rw [allUsable, all_cons, and_eq_true] at all
    rcases mem_cons.mp member with rfl | later
    · exact ⟨decision, isDecision, all.1⟩
    · exact induction all.2 areOthers later

theorem openedGuard_some {env : CallEnv} {row : UseGuardRow} {detail : GuardDetail}
    (opened : openedGuard ctx world env input = some (row, detail)) :
    AllUsable ctx world env.now input ∧
      getUseGuard world.db (env.newId "guard") = none ∧
      ∃ authority, row = guardRowOf world env input authority := by
  rw [openedGuard] at opened
  split at opened
  · cases opened
  rename_i decisions decided
  split at opened
  · cases opened
  rename_i all
  split at opened
  · rename_i authority vector isAuthority isVector
    split_ifs at opened with taken
    cases opened
    refine ⟨decisionsOf_ok decided (not_not.mp all), ?_, authority, rfl⟩
    rw [getUseGuard, find?_eq_none]
    intro other isOther same
    exact taken (any_eq_true.mpr ⟨other, isOther, same⟩)
  · cases opened

theorem beginGuardedUse_step (env : CallEnv) (input : GuardedUse) :
    GuardStep ctx world (.beginGuardedUse env input) (beginGuardedUse ctx world env input) := by
  rw [beginGuardedUse]
  split
  · exact .same rfl
  rename_i row detail opened
  obtain ⟨usable, fresh, authority, rfl⟩ := openedGuard_some opened
  refine ⟨fun guardId row found => ⟨row, ?_, .refl row, fun unknown => .inl unknown⟩,
    fun guardId missing found => ⟨env, input, rfl, ?_, usable⟩,
    fun _ row _ _ unitId _ => headDigest_same (manifests_same rfl) rfl unitId,
    fun known => ⟨known.heads, known.candidates⟩⟩
  · rw [getUseGuard] at found ⊢
    refine (find?_append).trans ?_
    rw [found]
    rfl
  · obtain ⟨row, isRow⟩ := isSome_iff_exists.mp found
    have appended : (world.db.useGuards ++ [guardRowOf world env input authority]).find?
        (·.guardId = guardId) = some row := isRow
    rw [getUseGuard] at missing
    rw [find?_append, missing, none_or, find?_singleton] at appended
    split_ifs at appended with named
    exact of_decide_eq_true named

theorem recordResultEvidence_db (now : Int) (ref : ContractResultRef) (sessionId : Option String)
    (quarantined : Bool) (observed : BindingRow → PinEntry → UnitEvidence) :
    (recordResultEvidence ctx world now ref sessionId quarantined observed).db = world.db := by
  rw [recordResultEvidence]
  split
  · rfl
  · dsimp only
    split_ifs <;> rfl

theorem revalidateResult_sameTables (env : CallEnv) (presented : Presented)
    (input : RevalidateInput) : (revalidateResult ctx world env presented input).db = world.db ∧
      (revalidateResult ctx world env presented input).evidence = world.evidence := by
  rw [revalidateResult]
  split
  · exact ⟨rfl, rfl⟩
  · split_ifs <;> exact ⟨rfl, rfl⟩

theorem step_guards (event : GuardEvent) : GuardStep ctx world event (world.step ctx event) := by
  cases event with
  | call env call => exact perform_step env call
  | recordResultEvidence now ref sessionId quarantined observed =>
    exact .same (recordResultEvidence_db now ref sessionId quarantined observed)
  | revalidateResult env presented input =>
    exact .same (revalidateResult_sameTables env presented input).1
  | beginGuardedUse env input => exact beginGuardedUse_step env input
  | recordGuardIntent guardId externalRef => exact setGuardState_step (by simp) (by simp)
  | finishUseGuard guardId outcome externalRef =>
    refine setGuardState_step (fun isOpen => ?_) (by simp)
    split_ifs at isOpen <;> simp at isOpen
  | markUseGuardUnknown guardId externalRef =>
    exact setGuardState_step (by simp) fun _ _ => .inl rfl
  | reconcileUnknownUseGuard guardId probe => exact reconcileUnknownUseGuard_step guardId probe

/-! ## Frozen evidence -/

structure EvidenceSound (world : GuardWorld) : Prop where
  pinned : ∀ binding ∈ world.db.bindings, (getPinSet world.db binding.pinSetId).isSome
  units : ∀ evidence ∈ world.evidence, ∀ pinSetId, evidence.pinSetId = some pinSetId →
    ∃ pinSet, getPinSet world.db pinSetId = some pinSet ∧
      evidence.units.map (·.unitId) = pinSet.pins.map (·.unitId)
  known : KnownRevisions world.db

theorem EvidenceSound.empty : EvidenceSound {} where
  pinned _ member := by cases member
  units _ member := by cases member
  known :=
    { heads := nofun
      candidates := fun _ member => by cases member }

structure OnlyGuards (world next : GuardWorld) : Prop where
  evidence : next.evidence = world.evidence
  revalidations : next.revalidations = world.revalidations
  db : ∃ useGuards, next.db = { world.db with useGuards }

theorem EvidenceSound.same (sound : EvidenceSound world) (evidence : next.evidence = world.evidence)
    (db : ∃ useGuards, next.db = { world.db with useGuards }) : EvidenceSound next := by
  obtain ⟨useGuards, isDb⟩ := db
  refine ⟨?_, ?_, ?_⟩
  · rw [isDb]
    exact sound.pinned
  · rw [isDb, evidence]
    exact sound.units
  · rw [isDb]
    exact ⟨sound.known.heads, sound.known.candidates⟩

theorem EvidenceSound.onlyGuards (sound : EvidenceSound world) (only : OnlyGuards world next) :
    EvidenceSound next := sound.same only.evidence only.db

theorem OnlyGuards.refl (world : GuardWorld) : OnlyGuards world world :=
  ⟨rfl, rfl, world.db.useGuards, rfl⟩

theorem setGuardState_only (guardId : String) (sources : List GuardState) (target : GuardState)
    (externalRef : Option (List (String × String))) :
    OnlyGuards world (setGuardState world guardId sources target externalRef) := by
  refine ⟨?_, ?_, setGuardState_sameTables guardId sources target externalRef⟩
  · rw [setGuardState]
    split
    · rfl
    · split_ifs <;> rfl
  rw [setGuardState]
  split
  · rfl
  · split_ifs <;> rfl

theorem reconcileUnknownUseGuard_only (guardId : String)
    (probe : Option (List (String × String)) → ProbeVerdict) :
    OnlyGuards world (reconcileUnknownUseGuard world guardId probe) := by
  rw [reconcileUnknownUseGuard]
  split
  · exact .refl world
  split_ifs
  · exact .refl world
  split
  · exact setGuardState_only ..
  · exact setGuardState_only ..
  · exact .refl world

theorem beginGuardedUse_only (env : CallEnv) (input : GuardedUse) :
    OnlyGuards world (beginGuardedUse ctx world env input) := by
  rw [beginGuardedUse]
  split
  · exact .refl world
  · exact ⟨rfl, rfl, _, rfl⟩

theorem EvidenceSound.perform (sound : EvidenceSound world) (env : CallEnv)
    (call : RetentionCall) : EvidenceSound (world.perform ctx.contract env call) := by
  have moves : Moves env (fun _ => True) world.db (world.perform ctx.contract env call).db :=
    perform_moves call fun _ _ => trivial
  refine ⟨moves.pinned sound.pinned, fun evidence member pinSetId isPinSet => ?_,
    (performed_guards env call).known sound.known⟩
  obtain ⟨pinSet, found, units⟩ := sound.units evidence member pinSetId isPinSet
  exact ⟨pinSet, moves.pins pinSetId pinSet found, units⟩

theorem snapshotBinding_mem {ref : ContractResultRef} {sessionId : Option String}
    {binding : BindingRow} (found : snapshotBinding db ref sessionId = some binding) :
    binding ∈ db.bindings := by
  have listed := mem_of_mem_filter (mem_of_getLast? found)
  rw [listBindingsForTask, mem_insertionSort] at listed
  exact mem_of_mem_filter listed

theorem EvidenceSound.recorded (sound : EvidenceSound world) (now : Int) (ref : ContractResultRef)
    (sessionId : Option String) (quarantined : Bool)
    (observed : BindingRow → PinEntry → UnitEvidence) :
    EvidenceSound (recordResultEvidence ctx world now ref sessionId quarantined observed) := by
  rw [recordResultEvidence]
  split
  · exact sound
  rename_i scope isScope
  dsimp only
  split_ifs with recorded quarantines
  · exact sound
  all_goals
    refine ⟨sound.pinned, fun evidence member pinSetId isPinSet => ?_, sound.known⟩
    rcases mem_append.mp member with old | new
    · exact sound.units evidence old pinSetId isPinSet
    rw [mem_singleton.mp new] at isPinSet ⊢
  · cases isPinSet
  · dsimp only at isPinSet ⊢
    obtain ⟨binding, isBinding, rfl⟩ := map_eq_some_iff.mp isPinSet
    obtain ⟨pinSet, found⟩ := isSome_iff_exists.mp
      (sound.pinned binding (snapshotBinding_mem isBinding))
    refine ⟨pinSet, found, ?_⟩
    rw [isBinding, Option.map_some, Option.getD_some, snapshotUnits, found, List.map_map]
    rfl

theorem EvidenceSound.step (sound : EvidenceSound world) (event : GuardEvent) :
    EvidenceSound (world.step ctx event) := by
  cases event with
  | call env call => exact sound.perform env call
  | recordResultEvidence now ref sessionId quarantined observed =>
    exact sound.recorded now ref sessionId quarantined observed
  | revalidateResult env presented input =>
    obtain ⟨sameDb, evidence⟩ := @revalidateResult_sameTables ctx world env presented input
    exact sound.same evidence ⟨world.db.useGuards, sameDb⟩
  | beginGuardedUse env input => exact sound.onlyGuards (beginGuardedUse_only env input)
  | recordGuardIntent guardId externalRef | finishUseGuard guardId outcome externalRef
  | markUseGuardUnknown guardId externalRef => exact sound.onlyGuards (setGuardState_only ..)
  | reconcileUnknownUseGuard guardId probe =>
    exact sound.onlyGuards (reconcileUnknownUseGuard_only guardId probe)

theorem EvidenceSound.run (sound : EvidenceSound world) (events : List GuardEvent) :
    EvidenceSound (world.run ctx events) := by
  rw [GuardWorld.run]
  induction events generalizing world with
  | nil => exact sound
  | cons event events induction => exact induction (sound.step event)

/-! ## Runs -/

structure Holds (guardId : String) (opened : UseGuardRow) (digests : String → Option String)
    (world : GuardWorld) : Prop where
  kept : ∃ row, getUseGuard world.db guardId = some row ∧ GuardKept opened row ∧
    (row.isOpen → ∀ unitId ∈ opened.units,
      headDigest world.db opened.namespaceId unitId = digests unitId)
  known : KnownRevisions world.db

theorem Holds.step {opened : UseGuardRow} {digests : String → Option String}
    (holds : Holds guardId opened digests world) (event : GuardEvent) :
    Holds guardId opened digests (world.step ctx event) := by
  obtain ⟨row, found, kept, same⟩ := holds.kept
  have stepped : GuardStep ctx world event (world.step ctx event) := step_guards event
  obtain ⟨later, isLater, stays, -⟩ := stepped.kept guardId row found
  refine ⟨⟨later, isLater, ⟨stays.namespaceId.trans kept.namespaceId, stays.units.trans kept.units,
    fun isOpen => kept.closed (stays.closed isOpen)⟩, fun isOpen unitId isUnit => ?_⟩,
    stepped.known holds.known⟩
  have wasOpen := stays.closed isOpen
  have unmoved := stepped.digests holds.known row (mem_of_find?_eq_some found) wasOpen unitId
    (kept.units ▸ isUnit)
  rw [kept.namespaceId] at unmoved
  exact unmoved.trans (same wasOpen unitId isUnit)

theorem Holds.run {guardId : String} {opened : UseGuardRow} {digests : String → Option String}
    (holds : Holds guardId opened digests world) (events : List GuardEvent) :
    Holds guardId opened digests (world.run ctx events) := by
  rw [GuardWorld.run]
  induction events generalizing world with
  | nil => exact holds
  | cons event events induction => exact induction (holds.step event)

variable {resultKey unitId : String}

theorem mem_guardedUnits {resultKeys : List String} (isKey : resultKey ∈ resultKeys)
    {evidence : EvidenceRow} (found : getResultEvidence world resultKey = some evidence)
    (isUnit : unitId ∈ evidence.units.map (·.unitId)) : unitId ∈ guardedUnits world resultKeys := by
  rw [guardedUnits, sortTexts, mem_insertionSort, mem_eraseDups, mem_flatMap]
  refine ⟨resultKey, isKey, ?_⟩
  rw [found]
  exact isUnit

theorem EvidenceSound.mem_pinnedUnits (sound : EvidenceSound world) {evidence : EvidenceRow}
    (found : getResultEvidence world resultKey = some evidence)
    (isPinned : unitId ∈ pinnedUnits world evidence) : unitId ∈ evidence.units.map (·.unitId) := by
  rw [pinnedUnits] at isPinned
  cases isPinSet : evidence.pinSetId with
  | none =>
    rw [isPinSet] at isPinned
    cases isPinned
  | some pinSetId =>
    obtain ⟨pinSet, isFound, units⟩ :=
      sound.units evidence (mem_of_find?_eq_some found) pinSetId isPinSet
    rw [isPinSet, bind_some, isFound] at isPinned
    rw [units]
    exact isPinned

theorem beginGuardedUse_holds (sound : EvidenceSound world) {env : CallEnv}
    (opens : (openedGuard ctx world env input).isSome) :
    ∃ row, row.namespaceId = input.namespaceId ∧ row.units = guardedUnits world input.resultKeys ∧
      Holds (env.newId "guard") row (headDigest world.db input.namespaceId)
        (world.step ctx (.beginGuardedUse env input)) := by
  obtain ⟨opened, isOpened⟩ := isSome_iff_exists.mp opens
  obtain ⟨row, detail⟩ := opened
  obtain ⟨-, fresh, authority, rfl⟩ := openedGuard_some isOpened
  refine ⟨_, rfl, rfl, ⟨guardRowOf world env input authority, ?_, .refl _, fun _ unitId _ => ?_⟩,
    (sound.step _).known⟩
  · rw [GuardWorld.step, beginGuardedUse, isOpened]
    rw [getUseGuard] at fresh ⊢
    refine find?_append.trans ?_
    rw [fresh, none_or, find?_singleton]
    exact if_pos (decide_eq_true rfl)
  · rw [GuardWorld.step, beginGuardedUse, isOpened]
    exact headDigest_same (manifests_same rfl) rfl unitId

end Steps

/-- In every run a guard is opened only for usable results, while it is active or unknown no unit
that the results pin gets another digest at the head, and an unknown outcome is settled only by a
definite answer. -/
theorem guarded_use_is_stable (ctx : GuardCtx) (events : List GuardEvent) :
    OpensOnlyUsable ctx (({} : GuardWorld).run ctx events) ∧
      KeepsPinnedUnits ctx (({} : GuardWorld).run ctx events) ∧
      LeavesUnknownAnswered ctx (({} : GuardWorld).run ctx events) := by
  have sound : EvidenceSound (({} : GuardWorld).run ctx events) := EvidenceSound.empty.run events
  generalize ({} : GuardWorld).run ctx events = world at sound
  refine ⟨fun event guardId isOpen => ?_, fun env input ofNamespace opens more => ?_,
    fun event guardId unknown => ?_⟩
  · obtain ⟨later, isLater, opened⟩ := isOpen
    have stepped : GuardStep ctx world event (world.step ctx event) := step_guards event
    cases found : getUseGuard world.db guardId with
    | none =>
      refine .inr (stepped.added guardId found ?_)
      rw [isLater]
      rfl
    | some row =>
      obtain ⟨same, isSame, kept, -⟩ := stepped.kept guardId row found
      rw [isLater] at isSame
      cases isSame
      exact .inl ⟨row, found, kept.closed opened⟩
  · intro later isOpen resultKey isKey evidence found unitId isPinned
    obtain ⟨row, named, units, holds⟩ := beginGuardedUse_holds sound opens
    obtain ⟨held, isHeld, -, same⟩ := (@Holds.run ctx _ _ _ _ holds more).kept
    obtain ⟨last, isLast, opened⟩ := isOpen
    rw [isHeld] at isLast
    cases isLast
    rw [ofNamespace resultKey isKey evidence found]
    have unmoved := same opened unitId
      (units ▸ mem_guardedUnits isKey found (sound.mem_pinnedUnits found isPinned))
    rw [named] at unmoved
    exact unmoved
  · obtain ⟨row, found, isUnknown⟩ := unknown
    obtain ⟨later, isLater, -, leaves⟩ := (step_guards event).kept guardId row found
    rcases leaves isUnknown with stays | answered
    · exact .inl ⟨later, isLater, stays⟩
    · exact .inr ⟨later.state, ⟨later, isLater, rfl⟩, answered⟩

/-! ## A guard that a crash leaves -/

section Crashed

def servedCtx : GuardCtx where
  contract := readableCtx.contract
  resultKeyOf ref := "result_" ++ ref.taskId
  evidenceMode _ := .e2
  allowWaivers _ := false
  maxWaiverTtlMs _ := 0

def drawing (random : String) : CallEnv :=
  CallDraws.env { now := 1, random := fun _ => random }

def guarding (random : String) (call : RetentionCall) : GuardEvent := .call (drawing random) call

def servedResult : ContractResultRef where
  meshId := "mesh"
  taskId := "task"
  attemptId := "attempt"
  generation := 1
  outputVersion := 1
  payloadDigest := "payload"

/-- A task was dispatched under the first revision and its result has its evidence. -/
def servedRun : List GuardEvent :=
  [guarding "1" (.contract (.authority .beginContractProcessIncarnation)),
    guarding "1" (.contract (.authority (.enrollNamespace plainOwner { meshId := "mesh" }))),
    guarding "1" (.contract (.authority
      (.updatePolicy plainOwner "ns_1" { reviewerQuorum := some 0 }))),
    guarding "1" (proposing ⟨1, 0, none, 2⟩ 1),
    guarding "1" (accepting "1" ⟨1, 0, none, 2⟩),
    guarding "1" (.bindMissionScope plainOwner ⟨"mesh", "mission", "ns_1", [], false⟩),
    guarding "1" (.stampTaskScopeFromMission "mesh" "task" (some "mission")),
    guarding "1" (dispatching "first"),
    .recordResultEvidence 1 servedResult (some "first") false fun _ _ =>
      { e2Full := true, e2ReadIds := ["read"], c1ClaimIds := [] }]

def landing : GuardedUse where
  namespaceId := "ns_1"
  resultKeys := ["result_task"]
  purpose := .integrationLanding

/-- The daemon restarts before the landing is finished, and another revision is to be accepted. -/
def crashedRun : List GuardEvent :=
  [guarding "2" (.contract (.authority .beginContractProcessIncarnation)),
    guarding "2" (proposing ⟨1, 1, some "rev_sha_1", 2⟩ 2),
    guarding "2" (accepting "2" ⟨1, 1, some "rev_sha_1", 2⟩)]

def servedWorld : GuardWorld := ({} : GuardWorld).run servedCtx servedRun

def crashedWorld : GuardWorld :=
  (servedWorld.step servedCtx (.beginGuardedUse (drawing "1") landing)).run servedCtx crashedRun

def crashedGuard : UseGuardRow where
  guardId := "guard_1"
  namespaceId := "ns_1"
  units := ["unit"]
  state := .unknown
  processIncarnation := 1

def servedEvidence : EvidenceRow where
  resultKey := "result_task"
  ref := servedResult
  namespaceId := "ns_1"
  bindingId := some "bnd_1"
  pinSetId := some "pin_1"
  units := [⟨"unit", "sha_1", ⟨true, ["read"], []⟩⟩]
  quarantined := false
  createdAt := 1

theorem crashed_guard_keeps_unit :
    getUseGuard crashedWorld.db "guard_1" = some crashedGuard ∧
      headDigest crashedWorld.db "ns_1" "unit" = headDigest servedWorld.db "ns_1" "unit" ∧
      headDigest servedWorld.db "ns_1" "unit" = some "sha_1" := by
  have isGuard : getUseGuard crashedWorld.db "guard_1" = some crashedGuard := by decide +kernel
  have served : getResultEvidence servedWorld "result_task" = some servedEvidence := by
    decide +kernel
  have ofNamespace : OfNamespace servedWorld landing := by
    intro resultKey member evidence found
    rw [List.mem_singleton.mp member, served] at found
    cases found
    rfl
  refine ⟨isGuard, ?_, by decide +kernel⟩
  exact (guarded_use_is_stable servedCtx servedRun).2.1 (drawing "1") landing ofNamespace
    (by decide +kernel) crashedRun ⟨crashedGuard, isGuard, .inr rfl⟩ "result_task"
    (List.mem_singleton.mpr rfl) servedEvidence served "unit" (by decide +kernel)

end Crashed

end Adhdev.Contract
