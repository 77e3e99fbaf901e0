import Adhdev.HostHandoff.HandoffSystem

/-! # Authority and data across a handoff

What holds in every state of every run of the source with its targets, and three
runs in which it fails. -/

namespace Adhdev.HostHandoff

open HandoffState List Option Bool SourceData

/-- The host role without a fence. -/
def SourceData.holdsAuthority (data : SourceData) : Bool :=
  data.role == .host && data.handoffFence.isNone

def TargetData.holdsAuthority (data : TargetData) : Bool :=
  data.mesh.any fun mesh => mesh.role == .host && mesh.handoffFence.isNone

/-- The journal of this daemon says `active` for a handoff of this epoch. -/
def HandoffState.ActiveIn (state : HandoffState) (daemon : DaemonId) (epoch : Int) : Prop :=
  ∃ handoffId record, (state.target daemon).shared.get handoffId = some record ∧
    record.phase = .active ∧ record.epoch = epoch

def SourceData.Journalled (data : SourceData) (handoffId : HandoffId) (phase : SourcePhase) :
    Prop :=
  ∃ record, data.get handoffId = some record ∧ record.phase = phase

section Facts

variable {orderly careful strict : Prop} {state : HandoffState} {daemon : DaemonId}
variable {handoffId : HandoffId} {record : TargetRecord}

theorem intended_of_begun (healthy : state.Healthy orderly careful strict)
    (found : (state.target daemon).shared.get handoffId = some record)
    (phase : record.phase = .activating ∨ record.phase = .active) :
    ∃ source, state.source.shared.get handoffId = some source ∧
      source.commitIntentAt.isSome = true ∧ source.peerDaemonId = daemon ∧
      source.epoch = record.epoch :=
  (healthy.target daemon).sound.begun found phase

theorem unfenced_active (healthy : state.Healthy orderly careful strict)
    (holds : (state.target daemon).shared.holdsAuthority = true) :
    ∃ handoffId, (state.target daemon).shared.Active handoffId := by
  have sound := (healthy.target daemon).sound
  obtain ⟨mesh, isMesh, holds⟩ := (any_eq_true _ _).mp holds
  simp only [and_eq_true, beq_iff_eq, isNone_iff_eq_none] at holds
  obtain ⟨handoffId, rest, hosted⟩ := exists_cons_of_ne_nil (sound.role isMesh holds.1)
  obtain ⟨record, found, _, fenced, _⟩ := sound.hosted
    (by rw [hosted]; exact mem_cons_self : handoffId ∈ _)
  refine ⟨handoffId, record, found, ?_⟩
  by_contra inactive
  have fence := fenced inactive
  simp [TargetData.fence, isMesh, holds.2] at fence

theorem not_gone_of_active (active : (state.target daemon).shared.Active handoffId) :
    ¬ (state.targets daemon).Discarded handoffId :=
  TargetData.not_discarded_of_active active

theorem eq_of_active (healthy : state.Healthy True careful strict) {one other : DaemonId}
    {first second : HandoffId} (active : (state.target one).shared.Active first)
    (active' : (state.target other).shared.Active second) : one = other := by
  obtain ⟨record, found, phase⟩ := active
  obtain ⟨record', found', phase'⟩ := active'
  obtain ⟨source, foundSource, intended, isPeer, _⟩ := intended_of_begun healthy found (.inr phase)
  obtain ⟨source', foundSource', intended', isPeer', _⟩ :=
    intended_of_begun healthy found' (.inr phase')
  have open_ : ¬ (state.targets source.peerDaemonId).Discarded first := by
    rw [isPeer]
    exact not_gone_of_active ⟨record, found, phase⟩
  have open' : ¬ (state.targets source'.peerDaemonId).Discarded second := by
    rw [isPeer']
    exact not_gone_of_active ⟨record', found', phase'⟩
  rcases (healthy.source.sound.ordered trivial).oneIntended (view_handoff foundSource)
    (view_handoff foundSource') intended intended' with same | gone | gone
  · subst second
    obtain rfl := mem_unique foundSource foundSource'
    exact isPeer.symm.trans isPeer'
  · exact absurd gone open_
  · exact absurd gone open'

end Facts

/-! ## Runs of two targets -/

namespace Scenario

def setting : Setting where
  meshId := "m"
  source := "S"
  keys := { parse := some, verify := fun key _ signature => key == "kS" && signature == "signed" }
  sign _ := "signed"
  publicKey daemon := "k" ++ daemon

def opening : Opening where
  setting := setting
  hostEpoch := 1
  memberDaemonIds := ["T1", "T2"]
  contents := 0
  clock := 0
  mesh _ := some { hostDaemonId := some "S", hostEpoch := 1, hostPublicKey := some "kS" }
  pairing _ := none

def around (daemon : DaemonId) (check : FreezeCheck) : SourceOracle
  | .newId => "h"
  | .surroundings _ => .ok none
  | .inspection _ => .ok (some ("k" ++ daemon))
  | .readMesh => true
  | .hold => true
  | .freezeCheck => .ok check
  | .stopSource => .ok none
  | .exportSnapshot => .ok {}
  | .rpc _ (.manifest _ _) => .ok { success := true }
  | .rpc _ (.seal _) => .ok { success := true }
  | .rpc _ (.activate _ _ _) =>
    .ok { success := true, applied := some true, coordinatorReady := true }
  | .rpc _ _ => .error .lost
  | .others => .ok ()

def within (ready : Bool) : TargetOracle
  | .localColumns => true
  | .dryRunApply => true
  | .canLaunch => true
  | .applySnapshot => .committed
  | .applyConfig => .ok ()
  | .assignHost => .ok ()
  | .readiness => .ok ready
  | .observe => .error .unavailable
  | .launch => .ok true
  | .ack _ => .error .lost
  | .others => .ok ()

def sourceWorks (oracle : SourceOracle) (steps : Nat) : List HandoffEvent :=
  List.replicate steps (.sourceRuns oracle)

def sourceGoesOn (oracle : SourceOracle) (position : Nat) : List HandoffEvent :=
  .sourceWakes position oracle :: sourceWorks oracle 24

def targetWorks (daemon : DaemonId) (ready : Bool) : List HandoffEvent :=
  List.replicate 24 (.targetRuns daemon (within ready))

def targetGoesOn (daemon : DaemonId) (ready : Bool) (position : Nat) : List HandoffEvent :=
  .targetWakes daemon position (within ready) :: targetWorks daemon ready

def arrives (daemon : DaemonId) (request : Request) : List HandoffEvent :=
  .requestArrives daemon request :: targetWorks daemon true

def manifest (handoffId : HandoffId) (daemon : DaemonId) : HandoffManifest := {
  handoffId, fromDaemonId := "S", toDaemonId := daemon, hostEpoch := 1, nextEpoch := 2
  contents := 0 }

def ack (handoffId : HandoffId) (daemon : DaemonId) : HandoffAck := {
  handoffId, epoch := 2, manifestDigest := manifest handoffId daemon, rowCounts := []
  targetDaemonId := daemon, coordinatorLaunchable := true }

def certificate (handoffId : HandoffId) (daemon : DaemonId) : HostTransferCertificate := {
  sourceStopped := true, meshId := "m", newHostDaemonId := daemon, hostEpoch := 2
  newHostPublicKey := "k" ++ daemon, handoffId, previousHostDaemonId := "S", issuedAt := 0
  signature := some "signed" }

def starts (handoffId : HandoffId) (daemon : DaemonId) : List HandoffEvent :=
  .sourceCalled (.start { targetDaemonId := daemon, handoffId := some handoffId }) ::
    sourceWorks (around daemon .ready) 24

def verified : List HandoffEvent :=
  starts "h1" "T1" ++ sourceGoesOn (around "T1" .ready) 0 ++
    sourceGoesOn (around "T1" .ready) 0 ++ sourceGoesOn (around "T1" .ready) 0 ++
    arrives "T1" (.manifest "h1" (manifest "h1" "T1")) ++ sourceGoesOn (around "T1" .ready) 0 ++
    arrives "T1" (.seal "h1")

def handedOver : List HandoffEvent :=
  verified ++ [.ackArrives (ack "h1" "T1") "T1"] ++ sourceWorks (around "T1" .ready) 24 ++
    arrives "T1" (.activate "h1" 2 (certificate "h1" "T1")) ++ targetGoesOn "T1" true 2 ++
    targetGoesOn "T1" true 2 ++ targetGoesOn "T1" true 2 ++ targetGoesOn "T1" true 2 ++
    targetGoesOn "T1" true 2 ++ sourceGoesOn (around "T1" .ready) 2

def keepsSource : Option SourceLabel → Bool
  | some (.releases _ .sourceRestarted) => false
  | _ => true

def keepsTarget : Option TargetLabel → Bool
  | some (.discards _) => false
  | _ => true

/-- No stop of the source, no abort by `resume` and no discard. -/
def undisturbed (state : HandoffState) : HandoffEvent → Bool
  | .sourceStops => false
  | .sourceRuns _ => keepsSource state.source.writing
  | .targetRuns daemon _ => keepsTarget (state.target daemon).writing
  | _ => true

section Undisturbed

variable {state : HandoffState} {event : HandoffEvent}

section

variable (quiet : undisturbed state event = true)
include quiet

theorem orderly_of_undisturbed : state.Orderly event := by
  rintro oracle rfl label writes
  simp only [undisturbed, writes] at quiet
  cases label with
  | releases handoffId reason => cases reason <;> first | exact id | cases quiet
  | _ => exact id

theorem careful_of_undisturbed : state.Careful event := by
  rintro rfl
  cases quiet

theorem strict_of_undisturbed : state.Strict event := by
  rintro daemon oracle rfl label writes
  simp only [undisturbed, writes] at quiet
  cases label with
  | discards handoffId => cases quiet
  | plain => exact id

end

end Undisturbed

theorem handedOver_undisturbed : ∀ step ∈ (handoffSystem opening).steps handedOver,
    undisturbed step.before step.input = true := by
  have checked : ((handoffSystem opening).steps handedOver).all
      (fun step => undisturbed step.before step.input) = true := by
    decide +kernel
  exact all_eq_true.mp checked

end Scenario

/-! ## Exclusive authority -/

/-- Host authority is exclusive at the end of the run, and no two daemons became
active for one epoch on the way. -/
structure Exclusive (opening : Opening) (events : List HandoffEvent) : Prop where
  authority : ∀ daemon,
    ¬ (((handoffSystem opening).run events).source.shared.holdsAuthority = true ∧
      (((handoffSystem opening).run events).target daemon).shared.holdsAuthority = true)
  committed : ∀ handoffId record,
    ((handoffSystem opening).run events).source.shared.get handoffId = some record →
    record.phase = .committed →
    (((handoffSystem opening).run events).target record.peerDaemonId).shared.Active handoffId
  oneActive : ∀ earlier, earlier <+: events → ∀ one other epoch,
    ((handoffSystem opening).run earlier).ActiveIn one epoch →
    ((handoffSystem opening).run events).ActiveIn other epoch → one = other

/-- Authority is exclusive in every run in which no resume aborts a handoff that
an advance in flight has left waiting in `freezing` or `frozen`. -/
theorem exclusive_of_orderly (opening : Opening) (events : List HandoffEvent)
    (isOrderly : ∀ step ∈ (handoffSystem opening).steps events,
      step.before.Orderly step.input) : Exclusive opening events := by
  have admits : ∀ step ∈ (handoffSystem opening).steps events,
      step.before.Admits True False False step.input :=
    fun step member => ⟨fun _ => isOrderly step member, False.elim, False.elim⟩
  obtain ⟨_, healthy, _⟩ := healthy_run (List.prefix_refl events) admits
  refine ⟨?_, ?_, ?_⟩
  · rintro daemon ⟨sourceHolds, targetHolds⟩
    obtain ⟨handoffId, record, found, phase⟩ := unfenced_active healthy targetHolds
    obtain ⟨source, foundSource, intended, isPeer, _⟩ :=
      intended_of_begun healthy found (.inr phase)
    simp only [SourceData.holdsAuthority, Bool.and_eq_true, beq_iff_eq,
      Option.isNone_iff_eq_none] at sourceHolds
    rcases healthy.source.sound.fenced (SourceData.view_handoff foundSource) intended with
      follows | fenced | gone
    · simp [SourceData.view, sourceHolds.1] at follows
    · simp [SourceData.view, sourceHolds.2] at fenced
    · rw [show source.handoff.peer = daemon from isPeer] at gone
      exact not_gone_of_active ⟨record, found, phase⟩ gone
  · intro handoffId record found phase
    exact (healthy.source.sound.committed (SourceData.view_handoff found) phase).1
  rintro earlier isPrefix one other epoch ⟨first, record, found, phase, _⟩
    ⟨second, record', found', phase', _⟩
  obtain ⟨_, _, grown⟩ := healthy_run isPrefix admits
  exact eq_of_active healthy ((grown.target one).inPhase rfl ⟨record, found, phase⟩)
    ⟨record', found', phase'⟩

open Scenario in
theorem handedOver_exclusive : Exclusive opening handedOver :=
  exclusive_of_orderly opening handedOver fun step member =>
    orderly_of_undisturbed (handedOver_undisturbed step member)

/-! A run in which authority is not exclusive. -/

namespace Scenario

/-- The first handoff waits in `freezing` for its freeze check, in a tick, while
`resume` after a restart waits on another project. -/
def waitsInFreezing : List HandoffEvent :=
  starts "h1" "T1" ++ sourceGoesOn (around "T1" .ready) 0 ++
    sourceGoesOn (around "T1" .coordinatorNotQuiescent) 0 ++
    [.sourceStops, .sourceCalled .resume] ++ sourceWorks (around "T1" .ready) 24 ++
    [.sourceCalled .tick] ++ sourceWorks (around "T1" .ready) 24 ++
    sourceGoesOn (around "T1" .ready) 1

/-- `resume` aborts it, a second handoff gets as far as its snapshot, and the
first one goes on to `frozen`. -/
def goesOnAborted : List HandoffEvent :=
  sourceGoesOn (around "T1" .ready) 0 ++ starts "h2" "T2" ++
    sourceGoesOn (around "T2" .ready) 2 ++ sourceGoesOn (around "T2" .ready) 2 ++
    sourceGoesOn (around "T2" .ready) 2 ++ sourceGoesOn (around "T1" .ready) 0 ++
    arrives "T2" (.manifest "h2" (manifest "h2" "T2")) ++ sourceGoesOn (around "T2" .ready) 1 ++
    arrives "T2" (.seal "h2")

def stopsTwice : List HandoffEvent :=
  [.ackArrives (ack "h2" "T2") "T2"] ++ sourceWorks (around "T2" .ready) 4 ++ [.sourceStops] ++
    [.sourceCalled (.abort "h2")] ++ sourceWorks (around "T2" .ready) 7 ++ [.sourceStops]

/-- `resume` takes the first handoff to its end, and then the second one. -/
def activatesBoth : List HandoffEvent :=
  [.sourceCalled .resume] ++ sourceWorks (around "T1" .ready) 24 ++
    sourceGoesOn (around "T1" .ready) 0 ++ sourceGoesOn (around "T1" .ready) 0 ++
    arrives "T1" (.manifest "h1" (manifest "h1" "T1")) ++ sourceGoesOn (around "T1" .ready) 0 ++
    arrives "T1" (.seal "h1") ++ targetGoesOn "T1" true 0 ++
    sourceGoesOn (around "T1" .ready) 0 ++ sourceGoesOn (around "T1" .ready) 0 ++
    sourceGoesOn (around "T1" .ready) 0 ++ [.ackArrives (ack "h1" "T1") "T1"] ++
    sourceWorks (around "T1" .ready) 24 ++
    arrives "T1" (.activate "h1" 2 (certificate "h1" "T1")) ++ targetGoesOn "T1" true 1 ++
    targetGoesOn "T1" true 1 ++ targetGoesOn "T1" true 1 ++ targetGoesOn "T1" true 1 ++
    targetGoesOn "T1" true 1 ++ sourceGoesOn (around "T1" .ready) 2 ++
      sourceGoesOn (around "T1" .ready) 2 ++
    sourceGoesOn (around "T2" .ready) 0 ++
    arrives "T2" (.activate "h2" 2 (certificate "h2" "T2")) ++ targetGoesOn "T2" true 2 ++
    targetGoesOn "T2" true 2

def splitBrain : List HandoffEvent :=
  waitsInFreezing ++ goesOnAborted ++ stopsTwice ++ activatesBoth

def phaseAt (state : HandoffState) (daemon : DaemonId) (handoffId : HandoffId) :
    Option (TargetPhase × Int) :=
  ((state.target daemon).shared.get handoffId).map fun record => (record.phase, record.epoch)

theorem activeIn_of_phaseAt {state : HandoffState} {daemon : DaemonId} {handoffId : HandoffId}
    {epoch : Int} (isActive : phaseAt state daemon handoffId = some (.active, epoch)) :
    state.ActiveIn daemon epoch := by
  obtain ⟨record, found, same⟩ := map_eq_some_iff.mp isActive
  rw [Prod.mk.injEq] at same
  exact ⟨handoffId, record, found, same⟩

end Scenario

open Scenario in
/-- Two targets are active for one epoch. -/
theorem splitBrain_not_exclusive : ¬ Exclusive opening splitBrain := by
  intro exclusive
  have both : phaseAt ((handoffSystem opening).run splitBrain) "T1" "h1" = some (.active, 2) ∧
      phaseAt ((handoffSystem opening).run splitBrain) "T2" "h2" = some (.active, 2) := by
    decide +kernel
  have same := exclusive.oneActive splitBrain (List.prefix_refl _) "T1" "T2" 2
    (activeIn_of_phaseAt both.1) (activeIn_of_phaseAt both.2)
  revert same
  decide

/-! ## No effect of a discarded handoff -/

def TargetData.Affected (data : TargetData) (handoffId : HandoffId) : Prop :=
  handoffId ∈ data.hosted ∨ ∃ manifest, (handoffId, manifest) ∈ data.applied

/-- A discarded handoff had no effect on its target, nor an aborted one anywhere,
and what is discarded or active stays so. -/
structure Harmless (opening : Opening) (events : List HandoffEvent) : Prop where
  discarded : ∀ daemon handoffId,
    (((handoffSystem opening).run events).target daemon).shared.Discarded handoffId →
    ¬ (((handoffSystem opening).run events).target daemon).shared.Affected handoffId
  aborted : ∀ handoffId,
    ((handoffSystem opening).run events).source.shared.Journalled handoffId .aborted →
    ∀ daemon, ¬ (((handoffSystem opening).run events).target daemon).shared.Affected handoffId
  absorbing : ∀ earlier, earlier <+: events → ∀ daemon handoffId phase,
    phase = .discarded ∨ phase = .active →
    (((handoffSystem opening).run earlier).target daemon).shared.InPhase handoffId phase →
    (((handoffSystem opening).run events).target daemon).shared.InPhase handoffId phase

variable {handoffId : HandoffId}

theorem phase_of_affected {orderly careful : Prop} {state : HandoffState}
    (healthy : state.Healthy orderly careful True) {daemon : DaemonId}
    (affected : (state.target daemon).shared.Affected handoffId) :
    ∃ record, (state.target daemon).shared.get handoffId = some record ∧
      (record.phase = .activating ∨ record.phase = .active) := by
  have late : ∃ record, (state.target daemon).shared.get handoffId = some record ∧
      record.phase.late = true ∧ record.phase ≠ .discarded := by
    rcases affected with hosted | ⟨manifest, applied⟩
    · obtain ⟨record, found, late, _, kept⟩ := (healthy.target daemon).sound.hosted hosted
      exact ⟨record, found, late, kept trivial⟩
    · obtain ⟨record, found, late, _, kept⟩ := (healthy.target daemon).sound.applied applied
      exact ⟨record, found, late, kept trivial⟩
  obtain ⟨record, found, isLate, kept⟩ := late
  refine ⟨record, found, ?_⟩
  revert isLate kept
  cases record.phase <;> simp [TargetPhase.late]

/-- A discarded handoff had no effect in every run in which no discard takes a
record that is being activated. -/
theorem harmless_of_strict (opening : Opening) (events : List HandoffEvent)
    (isStrict : ∀ step ∈ (handoffSystem opening).steps events, step.before.Strict step.input) :
    Harmless opening events := by
  have admits : ∀ step ∈ (handoffSystem opening).steps events,
      step.before.Admits False False True step.input :=
    fun step member => ⟨False.elim, False.elim, fun _ => isStrict step member⟩
  obtain ⟨_, healthy, _⟩ := healthy_run (List.prefix_refl events) admits
  refine ⟨?_, ?_, ?_⟩
  · rintro daemon handoffId ⟨record, found, phase⟩ affected
    obtain ⟨same, found', isBegun⟩ := phase_of_affected healthy affected
    obtain rfl : record = same := Option.some.inj (found.symm.trans found')
    rw [phase] at isBegun
    rcases isBegun with begun | begun <;> cases begun
  · rintro handoffId ⟨source, foundSource, aborted⟩ daemon affected
    obtain ⟨record, found, isBegun⟩ := phase_of_affected healthy affected
    obtain ⟨same, foundSame, intended, isPeer, _⟩ := intended_of_begun healthy found isBegun
    obtain rfl : source = same := Option.some.inj (foundSource.symm.trans foundSame)
    obtain ⟨gone, foundGone, phase⟩ := (healthy.source.sound.aborted
      (SourceData.view_handoff foundSource) aborted).2 intended
    rw [show source.handoff.peer = daemon from isPeer] at foundGone
    obtain rfl : record = gone := Option.some.inj (found.symm.trans foundGone)
    rw [phase] at isBegun
    rcases isBegun with begun | begun <;> cases begun
  intro earlier isPrefix daemon handoffId phase terminal reached
  obtain ⟨_, _, grown⟩ := healthy_run isPrefix admits
  refine (grown.target daemon).inPhase ?_ reached
  rcases terminal with rfl | rfl <;> rfl

open Scenario in
theorem handedOver_harmless : Harmless opening handedOver :=
  harmless_of_strict opening handedOver fun step member =>
    strict_of_undisturbed (handedOver_undisturbed step member)

namespace Scenario

/-- A tick lists the verified record, waits on another project, and goes on after
an activation that stays fenced for want of readiness. -/
def staleTick : List HandoffEvent :=
  verified ++ [.targetClock "T1" Target.stageTtlMs, .targetTicks "T1"] ++ targetWorks "T1" true ++
    [.ackArrives (ack "h1" "T1") "T1"] ++ sourceWorks (around "T1" .ready) 24 ++
    arrives "T1" (.activate "h1" 2 (certificate "h1" "T1")) ++ targetGoesOn "T1" true 3 ++
    targetGoesOn "T1" false 3 ++ targetGoesOn "T1" true 3 ++ targetGoesOn "T1" true 2

end Scenario

open Scenario in
/-- The record of a handoff that wrote the host role is discarded. -/
theorem staleTick_not_harmless : ¬ Harmless opening staleTick := by
  intro harmless
  have facts : phaseAt ((handoffSystem opening).run staleTick) "T1" "h1" = some (.discarded, 2) ∧
      "h1" ∈ (((handoffSystem opening).run staleTick).target "T1").shared.hosted := by
    decide +kernel
  obtain ⟨record, found, same⟩ := Option.map_eq_some_iff.mp facts.1
  rw [Prod.mk.injEq] at same
  exact harmless.discarded "T1" "h1" ⟨record, found, same.1⟩ (.inl facts.2)

/-! ## No lost host write -/

def SourceData.Certified (data : SourceData) (handoffId : HandoffId) : Prop :=
  (data.certificates handoffId).isSome = true

def SourceData.Frozen (data : SourceData) (handoffId : HandoffId) : Prop :=
  ∃ fence, data.writeFence = some fence ∧ fence.handoffId = handoffId

/-- The contents an active target applied are the present ones; the source is
fenced until it commits or aborts; and a handoff whose fence was cleared is not
activated afterwards. -/
structure Lossless (opening : Opening) (events : List HandoffEvent) : Prop where
  applied : ∀ daemon handoffId manifest,
    (((handoffSystem opening).run events).target daemon).shared.Active handoffId →
    (handoffId, manifest) ∈ (((handoffSystem opening).run events).target daemon).shared.applied →
    manifest.contents = ((handoffSystem opening).run events).source.shared.contents
  fenced : ∀ handoffId,
    ((handoffSystem opening).run events).source.shared.Certified handoffId →
    (∀ phase, (handoffId, phase, SourcePhase.aborted) ∉
      ((handoffSystem opening).run events).source.shared.transitions) →
    (∀ label, ((handoffSystem opening).run events).source.upcoming = some label →
      ¬ label.Completes ((handoffSystem opening).run events).source.shared) →
    ((handoffSystem opening).run events).source.shared.Frozen handoffId ∧
      (((handoffSystem opening).run events).source.shared.role = .member ∨
        ∃ fence, ((handoffSystem opening).run events).source.shared.handoffFence = some fence ∧
          fence.handoffId = handoffId)
  cleared : ∀ earlier, earlier <+: events → ∀ handoffId,
    ((handoffSystem opening).run earlier).source.shared.Certified handoffId →
    ¬ ((handoffSystem opening).run earlier).source.shared.Frozen handoffId →
    ∀ daemon, ¬ (((handoffSystem opening).run events).target daemon).shared.Active handoffId

theorem frozen_iff {data : SourceData} :
    data.Frozen handoffId ↔ data.view.cut = some handoffId := by
  simp [SourceData.Frozen, view, map_eq_some_iff]

theorem current_of_active {strict : Prop} {state : HandoffState}
    (healthy : state.Healthy True True strict) {daemon : DaemonId}
    (active : (state.target daemon).shared.Active handoffId) :
    state.source.shared.view.cut = some handoffId ∧
      ∃ manifest, manifest.contents = state.source.shared.contents ∧
        (state.target daemon).shared.Staged handoffId manifest := by
  obtain ⟨record, found, phase⟩ := active
  obtain ⟨source, foundSource, intended, rfl, _⟩ := intended_of_begun healthy found (.inr phase)
  obtain ⟨cut, manifest, _, contents, staged⟩ := healthy.source.sound.current trivial trivial
    (view_handoff foundSource) intended (not_gone_of_active ⟨record, found, phase⟩)
  exact ⟨cut, manifest, contents, staged⟩

/-- No host write is lost in a run in which no resume aborts a handoff that an
advance in flight has left waiting, and the source does not stop between the two
writes of an abort of a handoff whose stop is certified. -/
theorem lossless_of_careful (opening : Opening) (events : List HandoffEvent)
    (isCareful : ∀ step ∈ (handoffSystem opening).steps events,
      step.before.Orderly step.input ∧ step.before.Careful step.input) :
    Lossless opening events := by
  have admits : ∀ step ∈ (handoffSystem opening).steps events,
      step.before.Admits True True False step.input :=
    fun step member => ⟨fun _ => (isCareful step member).1, fun _ => (isCareful step member).2,
      False.elim⟩
  obtain ⟨_, healthy, _⟩ := healthy_run (List.prefix_refl events) admits
  refine ⟨?_, ?_, ?_⟩
  · intro daemon handoffId manifest active applied
    obtain ⟨_, journalled, contents, record, found, digest⟩ := current_of_active healthy active
    obtain ⟨same, found', _, digest', _⟩ := (healthy.target daemon).sound.applied applied
    obtain rfl : record = same := Option.some.inj (found.symm.trans found')
    rw [← digest', digest]
    exact contents
  · intro handoffId certified running quiet
    have kept : ((handoffSystem opening).run events).source.shared.view.Kept True True := by
      refine healthy.source.durable ?_
      rintro label upcoming ⟨_, completes⟩
      exact quiet label upcoming completes
    obtain ⟨handoff, found⟩ := healthy.source.sound.known (.inr certified)
    have open_ : ¬ ((handoffSystem opening).run events).source.shared.view.ended handoffId := by
      rintro ⟨phase, logged⟩
      exact running phase logged
    obtain ⟨⟨cut, fence⟩, _⟩ := kept trivial trivial found certified open_
    refine ⟨frozen_iff.mpr cut, fence.symm.imp id ?_⟩
    intro held
    simpa [SourceData.view, Option.map_eq_some_iff] using held
  intro earlier isPrefix handoffId certified notFrozen daemon active
  obtain ⟨_, _, grown⟩ := healthy_run isPrefix admits
  refine grown.source.released trivial certified ?_ (current_of_active healthy active).1
  exact fun cut => notFrozen (frozen_iff.mpr cut)

open Scenario in
theorem handedOver_lossless : Lossless opening handedOver :=
  lossless_of_careful opening handedOver fun step member =>
    ⟨orderly_of_undisturbed (handedOver_undisturbed step member),
      careful_of_undisturbed (handedOver_undisturbed step member)⟩

namespace Scenario

/-- The source stops between the two writes of an abort, a host write is admitted,
and `resume` activates the handoff. -/
def halfAborted : List HandoffEvent :=
  verified ++ [.ackArrives (ack "h1" "T1") "T1"] ++ sourceWorks (around "T1" .ready) 4 ++
    [.sourceStops] ++
    [.sourceCalled (.abort "h1")] ++ sourceWorks (around "T1" .ready) 7 ++
    [.sourceStops, .hostWrites, .sourceCalled .resume] ++ sourceWorks (around "T1" .ready) 24 ++
    sourceGoesOn (around "T1" .ready) 0 ++
    arrives "T1" (.activate "h1" 2 (certificate "h1" "T1")) ++ targetGoesOn "T1" true 2 ++
    targetGoesOn "T1" true 2

end Scenario

open Scenario in
/-- The target is active with contents that lack a write the source admitted. -/
theorem halfAborted_not_lossless : ¬ Lossless opening halfAborted := by
  intro lossless
  have facts : phaseAt ((handoffSystem opening).run halfAborted) "T1" "h1" = some (.active, 2) ∧
      ("h1", manifest "h1" "T1") ∈
        (((handoffSystem opening).run halfAborted).target "T1").shared.applied ∧
      ((handoffSystem opening).run halfAborted).source.shared.contents = 1 := by
    decide +kernel
  obtain ⟨record, found, same⟩ := Option.map_eq_some_iff.mp facts.1
  rw [Prod.mk.injEq] at same
  have lost := lossless.applied "T1" "h1" (manifest "h1" "T1") ⟨record, found, same.1⟩ facts.2.1
  rw [facts.2.2] at lost
  cases lost

end Adhdev.HostHandoff
