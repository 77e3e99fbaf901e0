import Adhdev.Foundation.Machine
import Adhdev.HostHandoff.SourceActivate
import Adhdev.HostHandoff.TargetSafety

/-! # The source and its targets together

The source of one project and every daemon it may hand the project to. What
either side has sent stays on the network and may arrive at any time, again, or
never; either side may stop before any of its operations. -/

namespace Adhdev

open List Option Bool

namespace Pool

variable {L : Language}

def writing (pool : Pool L) : Option L.Label :=
  match pool.running with
  | some task =>
    match task.code with
    | .write label _ _ => some label
    | _ => none
  | none => none

def permits (pool : Pool L) (answered : (query : L.Query) → L.Answer query → Bool)
    (oracle : (query : L.Query) → L.Answer query) : Bool :=
  match pool.running with
  | some task =>
    match task.code with
    | .ask query _ => answered query (oracle query)
    | _ => true
  | none => true

def answers (pool : Pool L) (answered : (query : L.Query) → L.Answer query → Bool)
    (position : Nat) (oracle : (query : L.Query) → L.Answer query) : Bool :=
  match pool.waiting[position]? with
  | some task =>
    match task.code with
    | .wait query _ => answered query (oracle query)
    | _ => true
  | none => true

variable {answered : (query : L.Query) → L.Answer query → Bool}
  {oracle : (query : L.Query) → L.Answer query}

theorem permitted_of_permits {D : Discipline L} {world : D.World} {pool : Pool L}
    (permits : pool.permits answered oracle = true)
    (honest : ∀ query answer, answered query answer = true → D.Answers world pool.shared query
      answer)
    (allowed : ∀ label, pool.writing = some label → D.Allowed label pool.shared pool.locks) :
    pool.Permitted D world oracle := by
  unfold Permitted
  split
  · trivial
  rename_i task runs
  simp only [Pool.permits, runs] at permits
  simp only [writing, runs] at allowed
  split
  · rename_i query next code
    rw [code] at permits
    exact honest query _ permits
  · rename_i label effect next code
    rw [code] at allowed
    exact allowed label rfl
  · trivial

theorem answered_of_answers {D : Discipline L} {world : D.World} {pool : Pool L} {position : Nat}
    (answers : pool.answers answered position oracle = true)
    (honest : ∀ query answer, answered query answer = true → D.Answers world pool.shared query
      answer) : pool.Answered D world position oracle := by
  unfold Answered
  split
  · trivial
  rename_i task waits
  simp only [Pool.answers, waits] at answers
  split
  · rename_i query next code
    rw [code] at answers
    exact honest query _ answers
  · trivial

end Pool

namespace HostHandoff

structure HandoffState where
  source : Pool sourceLanguage
  target : DaemonId → Pool targetLanguage

/-- The project before its first handoff: one host, and daemons that follow it. -/
structure Opening where
  setting : Setting
  hostEpoch : Int
  memberDaemonIds : List DaemonId
  contents : Nat
  clock : Int
  mesh : DaemonId → Option TargetMesh
  pairing : DaemonId → Option HostPairing

namespace Opening

def source (opening : Opening) : SourceData where
  role := .host
  hostDaemonId := some opening.setting.source
  hostEpoch := opening.hostEpoch
  memberDaemonIds := opening.memberDaemonIds
  contents := opening.contents
  clock := opening.clock

def target (opening : Opening) (daemon : DaemonId) : TargetData where
  mesh := (opening.mesh daemon).map fun mesh =>
    { mesh with role := .member, handoffFence := none }
  pairing := opening.pairing daemon
  clock := opening.clock

def state (opening : Opening) : HandoffState where
  source := { shared := opening.source }
  target daemon := { shared := opening.target daemon }

end Opening

inductive SourceCall
  | start (input : Source.StartInput)
  | advance (handoffId : HandoffId)
  | activate (handoffId : HandoffId)
  | probe (handoffId : HandoffId) (force : Bool)
  | abort (handoffId : HandoffId)
  | retry (handoffId : HandoffId)
  | tick
  | resume

def SourceCall.code (setting : Setting) : SourceCall → Process sourceLanguage
  | .start input => (Source.start setting input).task
  | .advance handoffId => (Source.advance setting handoffId).task
  | .activate handoffId => (Source.activate setting handoffId).task
  | .probe handoffId force => (Source.probe setting handoffId force).task
  | .abort handoffId => (Source.abort handoffId).task
  | .retry handoffId => (Source.retry setting handoffId).task
  | .tick => (Source.tick setting).task
  | .resume => (Source.resume setting).task

abbrev SourceOracle := (query : SourceQuery) → query.Answer
abbrev TargetOracle := (query : TargetQuery) → query.Answer

inductive HandoffEvent
  | sourceCalled (call : SourceCall)
  | ackArrives (ack : HandoffAck) (sender : DaemonId)
  | sourceRuns (oracle : SourceOracle)
  | sourceWakes (position : Nat) (oracle : SourceOracle)
  | sourceStops
  | sourceClock (time : Int)
  | hostWrites
  | requestArrives (daemon : DaemonId) (request : Request)
  | targetTicks (daemon : DaemonId)
  | targetResumes (daemon : DaemonId)
  | targetRuns (daemon : DaemonId) (oracle : TargetOracle)
  | targetWakes (daemon : DaemonId) (position : Nat) (oracle : TargetOracle)
  | targetStops (daemon : DaemonId)
  | targetClock (daemon : DaemonId) (time : Int)
  | stageCorrupted (daemon : DaemonId) (handoffId : HandoffId) (seq : Nat)

namespace HandoffState

def setTarget (state : HandoffState) (daemon : DaemonId) (pool : Pool targetLanguage) :
    HandoffState :=
  { state with target := Function.update state.target daemon pool }

def changeTarget (state : HandoffState) (daemon : DaemonId)
    (change : TargetData → TargetData) : HandoffState :=
  state.setTarget daemon { state.target daemon with shared := change (state.target daemon).shared }

def delivered (state : HandoffState) : (query : SourceQuery) → query.Answer → Bool
  | .newId, handoffId => (state.source.shared.get handoffId).isNone
  | .rpc peer request, .ok result => (state.target peer).shared.replies.contains (request, result)
  | _, _ => true

/-- Whether the event can happen. Calls, messages, timers and owner writes come
while no task runs. -/
def enabled (state : HandoffState) : HandoffEvent → Bool
  | .sourceCalled _ | .sourceClock _ | .hostWrites => state.source.running.isNone
  | .ackArrives ack sender =>
    state.source.running.isNone && (state.target sender).shared.acks.contains ack
  | .sourceRuns oracle => state.source.permits state.delivered oracle
  | .sourceWakes position oracle =>
    state.source.running.isNone && state.source.answers state.delivered position oracle
  | .requestArrives daemon request =>
    (state.target daemon).running.isNone && state.source.shared.outbox.contains (daemon, request)
  | .targetTicks daemon | .targetResumes daemon | .targetWakes daemon _ _
  | .targetClock daemon _ | .stageCorrupted daemon _ _ => (state.target daemon).running.isNone
  | .sourceStops | .targetRuns _ _ | .targetStops _ => true

def happens (setting : Setting) (state : HandoffState) : HandoffEvent → HandoffState
  | .sourceCalled call => { state with source := state.source.call (call.code setting) }
  | .ackArrives ack sender =>
    { state with source := state.source.call (Source.serveAck setting ack sender).task }
  | .sourceRuns oracle => { state with source := state.source.exec oracle }
  | .sourceWakes position oracle => { state with source := state.source.wake position oracle }
  | .sourceStops => { state with source := state.source.restart SourceData.crash }
  | .sourceClock time =>
    { state with source := { state.source with
      shared := { state.source.shared with clock := time } } }
  | .hostWrites =>
    { state with source := { state.source with shared := state.source.shared.hostWrite } }
  | .requestArrives daemon request =>
    state.setTarget daemon ((state.target daemon).call (Target.serve setting daemon request).task)
  | .targetTicks daemon => state.setTarget daemon ((state.target daemon).call Target.tick.task)
  | .targetResumes daemon =>
    state.setTarget daemon ((state.target daemon).call (Target.resume setting daemon).task)
  | .targetRuns daemon oracle => state.setTarget daemon ((state.target daemon).exec oracle)
  | .targetWakes daemon position oracle =>
    state.setTarget daemon ((state.target daemon).wake position oracle)
  | .targetStops daemon => state.setTarget daemon ((state.target daemon).restart id)
  | .targetClock daemon time => state.changeTarget daemon ({ · with clock := time })
  | .stageCorrupted daemon handoffId seq => state.changeTarget daemon (·.corrupt handoffId seq)

def next (setting : Setting) (state : HandoffState) (event : HandoffEvent) : HandoffState :=
  if state.enabled event then state.happens setting event else state

end HandoffState

def handoffSystem (opening : Opening) : Machine HandoffState HandoffEvent HandoffState where
  initial := opening.state
  respond := HandoffState.next opening.setting
  advance := id

/-! ## The invariant of the whole -/

namespace HandoffState

def targets (state : HandoffState) : Targets := fun daemon => (state.target daemon).shared

def intents (state : HandoffState) : Intents := fun handoffId peer epoch =>
  ∃ record, state.source.shared.get handoffId = some record ∧
    record.commitIntentAt.isSome = true ∧ record.peerDaemonId = peer ∧ record.epoch = epoch

structure Healthy (orderly careful strict : Prop) (state : HandoffState) : Prop where
  source : state.source.Healthy (sourceDiscipline orderly careful) state.targets
  target : ∀ daemon, (state.target daemon).Healthy (targetDiscipline strict daemon) state.intents

def Orderly (state : HandoffState) (event : HandoffEvent) : Prop :=
  ∀ oracle, event = .sourceRuns oracle → ∀ label, state.source.writing = some label →
    ¬ label.Interrupts state.source.shared state.source.locks

/-- The source does not stop between the two writes of an abort. -/
def Careful (state : HandoffState) (event : HandoffEvent) : Prop :=
  event = .sourceStops → ∀ label, state.source.upcoming = some label →
    ¬ label.Completes state.source.shared

/-- No discard takes a record that is being activated. -/
def Strict (state : HandoffState) (event : HandoffEvent) : Prop :=
  ∀ daemon oracle, event = .targetRuns daemon oracle → ∀ label,
    (state.target daemon).writing = some label →
    ¬ label.TakesActivating (state.target daemon).shared

variable {orderly careful strict : Prop} {state : HandoffState} {setting : Setting}

theorem intents_of_grown {data later : SourceData} {handoffId : HandoffId} {peer : DaemonId}
    {epoch : Int} (grown : data.view.Grown orderly later.view)
    (intended : ∃ record, data.get handoffId = some record ∧
      record.commitIntentAt.isSome = true ∧ record.peerDaemonId = peer ∧ record.epoch = epoch) :
    ∃ record, later.get handoffId = some record ∧
      record.commitIntentAt.isSome = true ∧ record.peerDaemonId = peer ∧ record.epoch = epoch := by
  obtain ⟨record, found, isIntended, isPeer, isEpoch⟩ := intended
  obtain ⟨next, foundNext, samePeer, sameEpoch, kept, _⟩ := Source.record_of_grown grown found
  exact ⟨next, foundNext, kept isIntended, samePeer.trans isPeer, sameEpoch.trans isEpoch⟩

theorem Healthy.source_step (healthy : state.Healthy orderly careful strict)
    {source : Pool sourceLanguage}
    (kept : source.Healthy (sourceDiscipline orderly careful) state.targets)
    (grown : state.source.shared.view.Grown orderly source.shared.view) :
    { state with source }.Healthy orderly careful strict where
  source := kept
  target daemon := (healthy.target daemon).grows fun _ _ _ => intents_of_grown grown

variable {pool : Pool targetLanguage}

theorem Healthy.target_step (healthy : state.Healthy orderly careful strict) (daemon : DaemonId)
    (kept : pool.Healthy (targetDiscipline strict daemon) state.intents)
    (grown : (state.target daemon).shared.Grown pool.shared) :
    (state.setTarget daemon pool).Healthy orderly careful strict where
  source := by
    refine healthy.source.grows ?_
    intro other
    by_cases same : other = daemon
    · subst other
      simpa [targets, setTarget] using grown
    · simpa [targets, setTarget, same] using TargetData.Grown.refl _
  target other := by
    by_cases same : other = daemon
    · subst other
      have here : (state.setTarget daemon pool).target daemon = pool := Function.update_self ..
      rw [here]
      exact kept
    have elsewhere : (state.setTarget daemon pool).target other = state.target other :=
      Function.update_of_ne same ..
    rw [elsewhere]
    exact healthy.target other

theorem honest_of_delivered (healthy : state.Healthy orderly careful strict)
    (query : SourceQuery) (answer : query.Answer)
    (delivered : state.delivered query answer = true) :
    (sourceDiscipline orderly careful).Answers state.targets state.source.shared query answer := by
  cases query with
  | newId => exact isNone_iff_eq_none.mp delivered
  | rpc peer request =>
    cases answer with
    | error fault => trivial
    | ok result => exact (healthy.target peer).sound.replies (contains_iff_mem.mp delivered)
  | _ => trivial

open Discipline in
theorem call_safe {targets : Targets} {data : SourceData} {locks : List SourceLock}
    (sound : data.view.Sound orderly careful targets) (kept : data.view.Kept orderly careful)
    (call : SourceCall) :
    (sourceDiscipline orderly careful).Safe targets (call.code setting) [] data locks := by
  have steady : Steady (⟨targets, [], data, locks⟩ : Moment (sourceDiscipline orderly careful)) :=
    ⟨sound, kept⟩
  cases call with
  | start input => exact Runs.task (Source.start_tame steady rfl)
  | advance handoffId => exact Runs.task (Source.advance_tame steady (by simp))
  | activate handoffId => exact Runs.task (Source.activate_tame steady rfl)
  | probe handoffId force => exact Runs.task (Source.probe_tame steady rfl)
  | abort handoffId => exact Runs.task (Source.abort_tame steady)
  | retry handoffId => exact Runs.task (Source.retry_tame steady rfl)
  | tick => exact Runs.task (Source.tick_tame steady rfl)
  | resume => exact Runs.task (Source.resume_tame steady rfl)

theorem Healthy.source_exec (healthy : state.Healthy orderly careful strict)
    {oracle : SourceOracle} (permits : state.source.permits state.delivered oracle = true)
    (isOrderly : orderly → state.Orderly (.sourceRuns oracle)) :
    (state.source.exec oracle).Healthy (sourceDiscipline orderly careful) state.targets ∧
      state.source.shared.view.Grown orderly (state.source.exec oracle).shared.view := by
  have permitted : state.source.Permitted (sourceDiscipline orderly careful) state.targets
      oracle := by
    refine Pool.permitted_of_permits permits (honest_of_delivered healthy) ?_
    intro label writes inOrder
    exact isOrderly inOrder oracle rfl label writes
  exact ⟨healthy.source.exec permitted, healthy.source.base_exec permitted⟩

theorem Healthy.target_exec (healthy : state.Healthy orderly careful strict) (daemon : DaemonId)
    {oracle : TargetOracle} (isStrict : strict → state.Strict (.targetRuns daemon oracle)) :
    ((state.target daemon).exec oracle).Healthy (targetDiscipline strict daemon) state.intents ∧
      (state.target daemon).shared.Grown ((state.target daemon).exec oracle).shared := by
  have permitted : (state.target daemon).Permitted (targetDiscipline strict daemon) state.intents
      oracle := by
    unfold Pool.Permitted
    split
    · trivial
    rename_i task runs
    split
    · trivial
    · rename_i label effect next code
      intro inStrict
      refine isStrict inStrict daemon oracle rfl label ?_
      simp [Pool.writing, runs, code]
    · trivial
  exact ⟨(healthy.target daemon).exec permitted, (healthy.target daemon).base_exec permitted⟩

structure Grown (orderly : Prop) (state later : HandoffState) : Prop where
  source : state.source.shared.view.Grown orderly later.source.shared.view
  target : ∀ daemon, (state.target daemon).shared.Grown (later.target daemon).shared

theorem Grown.refl (state : HandoffState) : state.Grown orderly state :=
  ⟨.refl _, fun _ => .refl _⟩

theorem Grown.trans {first second third : HandoffState} (one : first.Grown orderly second)
    (two : second.Grown orderly third) : first.Grown orderly third :=
  ⟨one.source.trans two.source, fun daemon => (one.target daemon).trans (two.target daemon)⟩

theorem Grown.of_source {source : Pool sourceLanguage}
    (grown : state.source.shared.view.Grown orderly source.shared.view) :
    state.Grown orderly { state with source } :=
  ⟨grown, fun _ => .refl _⟩

theorem Grown.of_target (daemon : DaemonId)
    (grown : (state.target daemon).shared.Grown pool.shared) :
    state.Grown orderly (state.setTarget daemon pool) := by
  refine ⟨.refl _, ?_⟩
  intro other
  by_cases same : other = daemon
  · subst other
    simpa [setTarget] using grown
  · simpa [setTarget, same] using TargetData.Grown.refl _

theorem Healthy.source_environment (healthy : state.Healthy orderly careful strict)
    (idle : state.source.running.isNone = true) {later : SourceData}
    (change : SourceView.Change orderly careful state.targets [] state.source.locks
      state.source.shared.view later.view)
    (keeps : ∀ lock, state.source.shared.view.Guards orderly lock later.view) :
    { state with source := { state.source with shared := later } }.Healthy orderly careful
        strict ∧
      state.Grown orderly { state with source := { state.source with shared := later } } := by
  have idle := isNone_iff_eq_none.mp idle
  exact ⟨healthy.source_step (healthy.source.environment idle change.sound change.kept
    change.grown keeps) change.grown, .of_source change.grown⟩

theorem Healthy.target_environment (healthy : state.Healthy orderly careful strict)
    (daemon : DaemonId) (idle : (state.target daemon).running.isNone = true)
    (change : TargetData → TargetData)
    (changes : ∀ {locks}, TargetData.Change strict daemon state.intents [] locks
      (state.target daemon).shared (change (state.target daemon).shared)) :
    (state.changeTarget daemon change).Healthy orderly careful strict ∧
      state.Grown orderly (state.changeTarget daemon change) := by
  have idle := isNone_iff_eq_none.mp idle
  have kept : { state.target daemon with
      shared := change (state.target daemon).shared }.Healthy (targetDiscipline strict daemon)
        state.intents := by
    refine (healthy.target daemon).environment idle (@changes []).sound trivial
      (@changes []).grown ?_
    intro lock
    exact (@changes [lock]).guards lock mem_cons_self not_mem_nil
  exact ⟨healthy.target_step daemon kept (@changes []).grown, .of_target daemon (@changes []).grown⟩

theorem written_change {targets : Targets} {locks : List SourceLock} {data : SourceData}
    (sound : data.view.Sound orderly careful targets) (kept : data.view.Kept orderly careful) :
    SourceView.Change orderly careful targets [] locks data.view data.hostWrite.view := by
  unfold SourceData.hostWrite
  split
  · exact .same sound kept
  rename_i free
  refine .written sound kept ?_ (data.contents + 1)
  simpa [SourceData.view] using free

theorem written_guards (data : SourceData) (lock : SourceLock) :
    data.view.Guards orderly lock data.hostWrite.view := by
  refine SourceView.guards_of_same ?_ ?_ ?_ <;> unfold SourceData.hostWrite <;> split
  · rfl
  · rfl
  · exact fun _ quiet => quiet.1
  · exact fun _ quiet => quiet.1
  · exact fun _ _ _ _ _ _ => ⟨rfl, id⟩
  · exact fun _ _ _ _ _ _ => ⟨rfl, id⟩

open Discipline in
theorem Healthy.happens (healthy : state.Healthy orderly careful strict) {event : HandoffEvent}
    (enabled : state.enabled event = true) (isOrderly : orderly → state.Orderly event)
    (isCareful : careful → state.Careful event) (isStrict : strict → state.Strict event) :
    (state.happens setting event).Healthy orderly careful strict ∧
      state.Grown orderly (state.happens setting event) := by
  have calls : ∀ {code : Process sourceLanguage}, state.source.running.isNone = true →
      (∀ kept : state.source.shared.view.Kept orderly careful,
        (sourceDiscipline orderly careful).Safe state.targets code [] state.source.shared
          state.source.locks) →
      { state with source := state.source.call code }.Healthy orderly careful strict ∧
        state.Grown orderly { state with source := state.source.call code } := by
    intro code idle safe
    have idle := isNone_iff_eq_none.mp idle
    exact ⟨healthy.source_step (healthy.source.call idle
      (safe (healthy.source.durable_of_idle idle))) (.refl _), .of_source (.refl _)⟩
  have targetCalls : ∀ daemon {code : Process targetLanguage},
      (state.target daemon).running.isNone = true →
      (targetDiscipline strict daemon).Safe state.intents code [] (state.target daemon).shared
        (state.target daemon).locks →
      (state.setTarget daemon ((state.target daemon).call code)).Healthy orderly careful strict ∧
        state.Grown orderly (state.setTarget daemon ((state.target daemon).call code)) := by
    intro daemon code idle safe
    exact ⟨healthy.target_step daemon ((healthy.target daemon).call
      (isNone_iff_eq_none.mp idle) safe) (.refl _), .of_target daemon (.refl _)⟩
  have steady : ∀ daemon, Steady (⟨state.intents, [], (state.target daemon).shared,
      (state.target daemon).locks⟩ : Moment (targetDiscipline strict daemon)) :=
    fun daemon => ⟨(healthy.target daemon).sound, trivial⟩
  cases event with
  | sourceCalled call => exact calls enabled fun kept => call_safe healthy.source.sound kept call
  | ackArrives ack sender =>
    simp only [HandoffState.enabled, and_eq_true] at enabled
    refine calls enabled.1 fun kept => ?_
    have staged := (healthy.target sender).sound.acks (contains_iff_mem.mp enabled.2)
    have steady : Steady (⟨state.targets, [], state.source.shared, state.source.locks⟩ :
        Moment (sourceDiscipline orderly careful)) := ⟨healthy.source.sound, kept⟩
    exact Runs.task (Source.serveAck_tame steady staged)
  | sourceRuns oracle =>
    obtain ⟨kept, grown⟩ := healthy.source_exec enabled isOrderly
    exact ⟨healthy.source_step kept grown, .of_source grown⟩
  | sourceWakes position oracle =>
    simp only [HandoffState.enabled, and_eq_true] at enabled
    have idle := isNone_iff_eq_none.mp enabled.1
    have answered : state.source.Answered (sourceDiscipline orderly careful) state.targets
        position oracle :=
      Pool.answered_of_answers enabled.2 (honest_of_delivered healthy)
    have same : (state.source.wake position oracle).shared = state.source.shared := by
      unfold Pool.wake
      split <;> rfl
    refine ⟨healthy.source_step (healthy.source.wake idle answered) ?_, .of_source ?_⟩ <;>
    · rw [same]
      exact .refl _
  | sourceStops =>
    have durable : state.source.shared.view.Kept orderly careful := by
      intro inOrder inCare
      refine healthy.source.durable ?_ inOrder inCare
      rintro label upcoming ⟨_, completes⟩
      exact isCareful inCare rfl label upcoming completes
    have sound : (sourceDiscipline orderly careful).Sound state.targets
        state.source.shared.crash := healthy.source.sound
    have kept : (state.source.restart SourceData.crash).Healthy
        (sourceDiscipline orderly careful) state.targets :=
      @Pool.Healthy.restart sourceLanguage _ _ _ _ SourceData.crash sound durable
    exact ⟨healthy.source_step kept (.refl _), .of_source (.refl _)⟩
  | sourceClock time =>
    have durable := healthy.source.durable_of_idle (isNone_iff_eq_none.mp enabled)
    exact healthy.source_environment enabled (.same healthy.source.sound durable)
      fun lock => .refl lock _
  | hostWrites =>
    have durable := healthy.source.durable_of_idle (isNone_iff_eq_none.mp enabled)
    exact healthy.source_environment enabled (written_change healthy.source.sound durable)
      (written_guards state.source.shared)
  | requestArrives daemon request =>
    simp only [HandoffState.enabled, and_eq_true] at enabled
    refine targetCalls daemon enabled.1 (Runs.task (Target.serve_tame (steady daemon) rfl ?_))
    rintro handoffId epoch certificate rfl
    obtain ⟨handoff, found, intended, isPeer, isEpoch⟩ :=
      healthy.source.sound.activates (contains_iff_mem.mp enabled.2)
    obtain ⟨record, foundRecord, rfl⟩ := SourceData.exists_of_view found
    exact ⟨record, foundRecord, intended, isPeer, isEpoch⟩
  | targetTicks daemon =>
    exact targetCalls daemon enabled (Runs.task (Target.tick_tame (steady daemon)))
  | targetResumes daemon =>
    exact targetCalls daemon enabled (Runs.task (Target.resume_tame (steady daemon) rfl))
  | targetRuns daemon oracle =>
    obtain ⟨kept, grown⟩ := healthy.target_exec daemon isStrict
    exact ⟨healthy.target_step daemon kept grown, .of_target daemon grown⟩
  | targetWakes daemon position oracle =>
    have idle := isNone_iff_eq_none.mp enabled
    have answered : (state.target daemon).Answered (targetDiscipline strict daemon)
        state.intents position oracle := by
      unfold Pool.Answered
      split
      · trivial
      · split <;> trivial
    have same : ((state.target daemon).wake position oracle).shared =
        (state.target daemon).shared := by
      unfold Pool.wake
      split <;> rfl
    refine ⟨healthy.target_step daemon ((healthy.target daemon).wake idle answered) ?_,
      .of_target daemon ?_⟩ <;>
    · rw [same]
      exact .refl _
  | targetStops daemon =>
    have sound := (healthy.target daemon).sound
    have kept : ((state.target daemon).restart id).Healthy (targetDiscipline strict daemon)
        state.intents :=
      .restart id sound trivial
    exact ⟨healthy.target_step daemon kept (.refl _), .of_target daemon (.refl _)⟩
  | targetClock daemon time =>
    have sound := (healthy.target daemon).sound
    exact healthy.target_environment daemon enabled ({ · with clock := time })
      (.beside sound rfl rfl rfl rfl sound.manifests sound.replies sound.acks)
  | stageCorrupted daemon handoffId seq =>
    exact healthy.target_environment daemon enabled (·.corrupt handoffId seq)
      (.corrupt (healthy.target daemon).sound seq)

/-! ## Runs -/

/-- The conditions under which a run is considered. -/
structure Admits (orderly careful strict : Prop) (state : HandoffState) (event : HandoffEvent) :
    Prop where
  isOrderly : orderly → state.Orderly event
  isCareful : careful → state.Careful event
  isStrict : strict → state.Strict event

theorem Healthy.next (healthy : state.Healthy orderly careful strict) {event : HandoffEvent}
    (admits : state.Admits orderly careful strict event) :
    (state.next setting event).Healthy orderly careful strict ∧
      state.Grown orderly (state.next setting event) := by
  unfold HandoffState.next
  split
  · rename_i enabled
    exact healthy.happens enabled admits.isOrderly admits.isCareful admits.isStrict
  · exact ⟨healthy, .refl state⟩

theorem sound_source (opening : Opening) (targets : Targets) :
    opening.source.view.Sound orderly careful targets where
  fenced found := by cases found
  committed found := by cases found
  intended found := by cases found
  aborted found := by cases found
  stopped found := by cases found
  activates sent := by cases sent
  known marked := by
    rcases marked with ⟨_, logged⟩ | stopped
    · cases logged
    · cases stopped
  history history := by cases history
  proved _ _ found := by cases found
  ordered _ := {
    oneLive := nofun
    oneIntended := nofun
    followerIntended := nofun
    intendedPhase := nofun
    digestPhase := nofun
    ackStaged := nofun
    ended := fun found => by cases found }
  current _ _ _ _ found := by cases found

theorem sound_target (opening : Opening) (daemon : DaemonId) (intents : Intents) :
    (opening.target daemon).Sound strict daemon intents where
  hosted member := by cases member
  role isMesh isHost := by
    obtain ⟨mesh, _, rfl⟩ := map_eq_some_iff.mp isMesh
    cases isHost
  applied member := by cases member
  begun found := by cases found
  active found := by cases found
  manifests found := by cases found
  replies member := by cases member
  acks member := by cases member

theorem healthy_initial (opening : Opening) : opening.state.Healthy orderly careful strict where
  source := {
    sound := sound_source opening _
    durable := nofun
    running := nofun
    waiting := nofun
    held := nofun
    exclusive := List.Pairwise.nil }
  target daemon := {
    sound := sound_target opening daemon _
    durable := fun _ => trivial
    running := nofun
    waiting := nofun
    held := nofun
    exclusive := List.Pairwise.nil }

variable {opening : Opening}

theorem healthy_runFrom {events : List HandoffEvent}
    (healthy : state.Healthy orderly careful strict)
    (admits : ∀ step ∈ (handoffSystem opening).stepsFrom state events,
      step.before.Admits orderly careful strict step.input) :
    ((handoffSystem opening).runFrom state events).Healthy orderly careful strict ∧
      state.Grown orderly ((handoffSystem opening).runFrom state events) := by
  induction events generalizing state with
  | nil => exact ⟨healthy, .refl state⟩
  | cons event events induction =>
    have first := admits ⟨state, event⟩ mem_cons_self
    obtain ⟨kept, grown⟩ := @Healthy.next _ _ _ _ opening.setting healthy _ first
    obtain ⟨final, rest⟩ := induction kept (forall_mem_cons.mp admits).2
    exact ⟨final, grown.trans rest⟩

theorem healthy_run {earlier events : List HandoffEvent} (isPrefix : earlier <+: events)
    (admits : ∀ step ∈ (handoffSystem opening).steps events,
      step.before.Admits orderly careful strict step.input) :
    ((handoffSystem opening).run earlier).Healthy orderly careful strict ∧
      ((handoffSystem opening).run events).Healthy orderly careful strict ∧
      ((handoffSystem opening).run earlier).Grown orderly ((handoffSystem opening).run events) := by
  obtain ⟨later, rfl⟩ := isPrefix
  have splits : (handoffSystem opening).steps (earlier ++ later) =
      (handoffSystem opening).steps earlier ++
        (handoffSystem opening).stepsFrom ((handoffSystem opening).run earlier) later :=
    Machine.stepsFrom_append _ _ _
  rw [splits] at admits
  obtain ⟨healthy, _⟩ := healthy_runFrom (healthy_initial opening)
    fun step member => admits step (mem_append_left _ member)
  obtain ⟨final, grown⟩ := healthy_runFrom healthy
    fun step member => admits step (mem_append_right _ member)
  rw [Machine.run_append]
  exact ⟨healthy, final, grown⟩

end HandoffState

end HostHandoff

end Adhdev
