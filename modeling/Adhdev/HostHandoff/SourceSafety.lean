import Adhdev.HostHandoff.SourceSteps

/-! # The source keeps its invariant

Each function of the source meets the obligations of its writes wherever the
other tasks of the source and the targets run in between. -/

namespace Adhdev.HostHandoff

/-- The write is the first one of an abort by `resume` that interrupts an advance
in flight. -/
def SourceLabel.Interrupts (data : SourceData) (locks : List SourceLock) : SourceLabel → Prop
  | .releases handoffId .sourceRestarted =>
    .busy handoffId ∈ locks ∧
      ∃ record, data.get handoffId = some record ∧ record.phase.stopping = true
  | _ => False

/-- The write is the second one of an abort, and the stop certificate of the
handoff is journalled. -/
def SourceLabel.Completes (data : SourceData) : SourceLabel → Prop
  | .aborts handoffId _ => (data.certificates handoffId).isSome = true
  | _ => False

/-- What the outside answers: ids are new, and a peer tells the truth. -/
def SourceQuery.Honest (targets : Targets) (data : SourceData) :
    (query : SourceQuery) → query.Answer → Prop
  | .newId, handoffId => data.get handoffId = none
  | .rpc peer request, .ok result => (targets peer).Truthful request result
  | _, _ => True

def sourceDiscipline (orderly careful : Prop) : Discipline sourceLanguage where
  World := Targets
  Grows targets later := ∀ daemon, (targets daemon).Grown (later daemon)
  Sound targets data := data.view.Sound orderly careful targets
  Durable _ data := data.view.Kept orderly careful
  Base data later := data.view.Grown orderly later.view
  Matters lock data := data.view.Matters orderly lock
  Keeps lock data later := data.view.Guards orderly lock later.view
  Allowed label data locks := orderly → ¬ label.Interrupts data locks
  Delicate label data := careful ∧ label.Completes data
  Answers targets data query answer := query.Honest targets data answer
  grows_refl targets daemon := .refl (targets daemon)
  grows_trans one two daemon := (one daemon).trans (two daemon)
  sound_grows grows sound := sound.grows grows
  durable_grows _ kept := kept
  base_refl data := .refl data.view
  base_trans one two := one.trans two
  matters_base base matters := SourceView.matters_of_grown base matters
  keeps_refl lock data := .refl lock data.view
  keeps_trans base one two := one.trans base two
  keeps_of_not_matters idle _ := SourceView.guards_of_not_matters idle

namespace Source

open Discipline

variable {orderly careful : Prop} {here there : Moment (sourceDiscipline orderly careful)}
variable {setting : Setting} {handoffId : HandoffId} {record : SourceRecord}

/-! ## What a later moment knows -/

theorem step_of_change {changed : SourceData}
    (change : SourceView.Change orderly careful here.world here.owned here.locks here.shared.view
      changed.view) : Step here changed :=
  ⟨change.sound, change.kept, ⟨change.grown, change.guards⟩⟩

theorem step_of_same (steady : Steady here) {changed : SourceData}
    (same : changed.view = here.shared.view) : Step here changed := by
  refine step_of_change ?_
  rw [same]
  exact .same steady.sound steady.durable

theorem record_of_grown {data later : SourceData} (grown : data.view.Grown orderly later.view)
    (found : data.get handoffId = some record) :
    ∃ next, later.get handoffId = some next ∧ next.peerDaemonId = record.peerDaemonId ∧
      next.epoch = record.epoch ∧
      (record.commitIntentAt.isSome = true → next.commitIntentAt.isSome = true) ∧
      (orderly → ∀ manifest, record.manifestDigest = some manifest →
        next.manifestDigest = some manifest) := by
  obtain ⟨handoff, found', peer, epoch, intended, digest⟩ :=
    grown.handoff (SourceData.view_handoff found)
  obtain ⟨next, foundNext, rfl⟩ := SourceData.exists_of_view found'
  exact ⟨next, foundNext, peer, epoch, intended, digest⟩

def Intended (data : SourceData) (handoffId : HandoffId) (peer : DaemonId) : Prop :=
  ∃ record, data.get handoffId = some record ∧ record.peerDaemonId = peer ∧
    record.commitIntentAt.isSome = true

variable {peer : DaemonId}

theorem Intended.later {data later : SourceData} (grown : data.view.Grown orderly later.view)
    (intended : Intended data handoffId peer) : Intended later handoffId peer := by
  obtain ⟨record, found, isPeer, isIntended⟩ := intended
  obtain ⟨next, foundNext, samePeer, _, kept, _⟩ := record_of_grown grown found
  exact ⟨next, foundNext, samePeer.trans isPeer, kept isIntended⟩

def Digested (orderly : Prop) (data : SourceData) (handoffId : HandoffId) : Prop :=
  orderly → ∃ record, data.get handoffId = some record ∧ record.manifestDigest.isSome = true

theorem Digested.later {data later : SourceData} (grown : data.view.Grown orderly later.view)
    (digested : Digested orderly data handoffId) : Digested orderly later handoffId := by
  intro isOrderly
  obtain ⟨record, found, isSome⟩ := digested isOrderly
  obtain ⟨manifest, digest⟩ := Option.isSome_iff_exists.mp isSome
  obtain ⟨next, foundNext, _, _, _, kept⟩ := record_of_grown grown found
  exact ⟨next, foundNext, by simp [kept isOrderly manifest digest]⟩

/-- The record is not one that an advance in flight is about to move. -/
def Settled (orderly : Prop) (data : SourceData) (handoffId : HandoffId) : Prop :=
  orderly → ∀ record, data.get handoffId = some record → record.phase.stopping = false

theorem settled_of_intended (steady : Steady here)
    (intended : Intended here.shared handoffId peer) : Settled orderly here.shared handoffId := by
  intro isOrderly record found
  obtain ⟨same, found', _, isIntended⟩ := intended
  obtain rfl := Option.mem_unique found' found
  have late := (steady.sound.ordered isOrderly).intendedPhase (SourceData.view_handoff found)
    isIntended
  revert late
  simp only [SourceRecord.handoff]
  cases same.phase <;> simp [SourcePhase.beforeIntent, SourcePhase.stopping]

theorem settled_of_digested (steady : Steady here)
    (digested : Digested orderly here.shared handoffId) :
    Settled orderly here.shared handoffId := by
  intro isOrderly record found
  obtain ⟨same, found', isSome⟩ := digested isOrderly
  obtain rfl := Option.mem_unique found' found
  have agrees := (steady.sound.ordered isOrderly).digestPhase (SourceData.view_handoff found)
  simp only [SourceRecord.handoff, isSome] at agrees
  revert agrees
  cases same.phase <;> simp [SourcePhase.beforeIntent, SourcePhase.digested, SourcePhase.stopping]

theorem settled_of_phase (found : here.shared.get handoffId = some record)
    (phase : record.phase.stopping = false) : Settled orderly here.shared handoffId := by
  intro _ same found'
  obtain rfl := Option.mem_unique found found'
  exact phase

/-! ## The journal and the ports -/

section Primitives

variable {α : Type}

theorem bind_journalGet {rest : Option SourceRecord → SourceM α}
    (absent : here.shared.get handoffId = none → Tame here (rest none))
    (present : ∀ record, here.shared.get handoffId = some record →
      Tame here (rest (some record))) : Tame here (journalGet handoffId >>= rest) := by
  refine Tame.bind_inspect ?_
  cases found : here.shared.get handoffId with
  | none => exact absent found
  | some record => exact present record found

variable {Post : Except Fault SourceRecord → Moment _ → Prop}

theorem runs_journalGet!
    (absent : here.shared.get handoffId = none → Post (.error .notJournalled) here)
    (present : ∀ record, here.shared.get handoffId = some record → Post (.ok record) here) :
    Runs here (journalGet! handoffId) Post := by
  refine Runs.bind_inspect ?_
  cases found : here.shared.get handoffId with
  | none => exact Runs.throw (absent found)
  | some record => exact Runs.pure (present record found)

theorem bind_journalGet! (steady : Steady here) {rest : SourceRecord → SourceM α}
    (present : ∀ record, here.shared.get handoffId = some record → Tame here (rest record)) :
    Tame here (journalGet! handoffId >>= rest) :=
  Runs.bind (runs_journalGet! (fun _ => .refl steady) present)

theorem bind_holds {lock : SourceLock} {rest : Bool → SourceM α}
    (held : lock ∈ here.locks → Tame here (rest true))
    (free : lock ∉ here.locks → Tame here (rest false)) : Tame here (holds lock >>= rest) := by
  refine Tame.bind_inspect ?_
  by_cases member : lock ∈ here.locks
  · rw [List.contains_iff_mem.mpr member]
    exact held member
  · rw [List.contains_eq_mem, decide_eq_false member]
    exact free member

theorem bind_readMesh {rest : Bool → SourceM α} (steady : Steady here)
    (next : ∀ world, (sourceDiscipline orderly careful).Grows here.world world →
      ∀ readable, Steady { here with world } → Tame { here with world } (rest readable)) :
    Tame here (readMesh >>= rest) := by
  show Tame here (Async.ask SourceQuery.readMesh >>= rest)
  refine Tame.bind_ask steady ?_
  intro world grows readable _
  exact next world grows readable (After.of_grows steady grows).steady

theorem ofPort_tame (steady : Steady here) (answer : Except Fault α) :
    Tame here (ofPort answer) := by
  cases answer with
  | ok value => exact Tame.pure steady
  | error fault => exact Tame.throw steady

theorem store_tame (steady : Steady here) {change : SourceData → SourceData}
    (same : ∀ data, (change data).view = data.view) : Tame here (store change) := by
  refine Tame.update steady ?_
  rintro changed ⟨⟩ _
  exact step_of_same steady (same here.shared)

variable {patch : SourceRecord → SourceRecord}

theorem journalUpdate_tame (steady : Steady here)
    (same : ∀ record, (patch record).handoff = record.handoff) :
    Tame here (journalUpdate handoffId patch) := by
  refine Tame.update steady ?_
  intro changed result _
  exact step_of_same steady (SourceData.view_modify same result)

/-- The record that a move leaves. -/
def moved (data : SourceData) (handoffId : HandoffId) (phase : SourcePhase)
    (patch : SourceRecord → SourceRecord) (record : SourceRecord) : SourceRecord :=
  { patch { record with updatedAt := data.clock } with handoffId, phase }

theorem runs_moveAs {label : SourceLabel} {phase : SourcePhase}
    (step : ∀ record changed, here.shared.get handoffId = some record → changed.view =
      here.shared.view.record handoffId (moved here.shared handoffId phase patch record).handoff
      → Step here changed)
    (next : ∀ record changed, here.shared.get handoffId = some record → Step here changed →
      changed.get handoffId = some (moved here.shared handoffId phase patch record) →
      changed.view = here.shared.view.record handoffId (moved here.shared handoffId phase patch
      record).handoff → Post (.ok (moved here.shared handoffId phase patch record)) { here with
      shared := changed })
    (absent : here.shared.get handoffId = none → Post (.error .notJournalled) here) :
    Runs here (moveAs label handoffId phase patch) Post := by
  refine Runs.bind (Runs.update ?_ ?_)
  · intro changed result _
    obtain ⟨record, found, isView, isRecord⟩ := SourceData.view_move result
    have step := step record changed found isView
    refine ⟨step, runs_journalGet! ?_ ?_⟩
    · intro none
      rw [isRecord] at none
      cases none
    intro same found'
    obtain rfl := Option.mem_unique isRecord found'
    exact next record changed found step isRecord isView
  intro fault result
  simp only [SourceData.move] at result
  split at result
  · cases result
  rename_i notFound
  cases result
  exact absent notFound

theorem bind_moveAs {label : SourceLabel} {phase : SourcePhase} {rest : SourceRecord → SourceM α}
    (steady : Steady here)
    (change : ∀ record, here.shared.get handoffId = some record → SourceView.Change orderly
      careful here.world here.owned here.locks here.shared.view (here.shared.view.record
      handoffId (moved here.shared handoffId phase patch record).handoff))
    (next : ∀ record changed, here.shared.get handoffId = some record → Step here changed →
      changed.get handoffId = some (moved here.shared handoffId phase patch record) →
      changed.view = here.shared.view.record handoffId (moved here.shared handoffId phase patch
      record).handoff → Tame { here with shared := changed } (rest (moved here.shared handoffId
      phase patch record))) :
    Tame here (moveAs label handoffId phase patch >>= rest) := by
  refine Runs.bind (runs_moveAs ?_ ?_ fun _ => .refl steady)
  · intro record changed found isView
    refine step_of_change ?_
    rw [isView]
    exact change record found
  · intro record changed found step isRecord isView
    exact Tame.from_after (.of_step step) (next record changed found step isRecord isView)

def Backed (data : SourceData) (peer : DaemonId) (request : Request) : Prop :=
  ∀ handoffId epoch certificate, request = .activate handoffId epoch certificate →
    ∃ record, data.get handoffId = some record ∧ record.commitIntentAt.isSome = true ∧
      record.peerDaemonId = peer ∧ record.epoch = epoch

variable {request : Request}

theorem rpc_known (steady : Steady here) (backed : Backed here.shared peer request) :
    Runs here (rpc peer request) fun result there =>
      After here there ∧ ∀ answer, result = .ok answer →
        (there.world peer).Truthful request answer := by
  refine Runs.bind (Runs.update ?_ ?_)
  · rintro changed ⟨⟩ _
    have step : Step here (here.shared.send peer request) := by
      refine step_of_change (.sends steady.sound steady.durable ?_)
      intro handoffId epoch certificate isActivate
      obtain ⟨record, found, facts⟩ := backed handoffId epoch certificate isActivate
      exact ⟨record.handoff, SourceData.view_handoff found, facts⟩
    refine ⟨step, Runs.bind (Runs.wait ?_)⟩
    intro there owned found answer answers
    have reached : After here there := (After.of_step step).trans (.of_later owned found)
    cases answer with
    | ok result =>
      refine Runs.pure ⟨reached, ?_⟩
      rintro _ ⟨⟩
      exact answers
    | error fault => exact Runs.throw ⟨reached, fun _ same => by cases same⟩
  · rintro fault ⟨⟩

theorem rpc_tame (steady : Steady here) (backed : Backed here.shared peer request) :
    Tame here (rpc peer request) :=
  (rpc_known steady backed).weaken fun _ _ found => found.1

theorem attempt_known (steady : Steady here) (backed : Backed here.shared peer request) :
    Runs here (Async.tryCatch (do return some (← rpc peer request)) fun _ => pure none)
      fun result there => After here there ∧ ∀ answer, result = .ok (some answer) →
        (there.world peer).Truthful request answer := by
  refine Runs.tryCatch (Runs.bind ((rpc_known steady backed).weaken ?_))
  intro result there ⟨reached, truthful⟩
  cases result with
  | ok answer =>
    refine Runs.pure ⟨reached, ?_⟩
    rintro _ ⟨⟩
    exact truthful answer rfl
  | error fault => exact Runs.pure ⟨reached, fun _ same => by cases same⟩

end Primitives

/-! ## Abort -/

def MayAbort (here : Moment (sourceDiscipline orderly careful)) (handoffId : HandoffId)
    (reason : AbortReason) : Prop :=
  Settled orderly here.shared handoffId ∨ .busy handoffId ∈ here.owned ∨
    .busy handoffId ∉ here.locks ∨ reason = .sourceRestarted

variable {reason : AbortReason}

theorem undisturbed_of_mayAbort (mayAbort : MayAbort here handoffId reason)
    (found : here.shared.get handoffId = some record)
    (allowed : orderly → ¬ (SourceLabel.releases handoffId reason).Interrupts here.shared
      here.locks) (isOrderly : orderly) (stopping : record.phase.stopping = true)
    (busy : .busy handoffId ∈ here.locks) : .busy handoffId ∈ here.owned := by
  rcases mayAbort with settled | owned | free | restarted
  · rw [settled isOrderly record found] at stopping
    cases stopping
  · exact owned
  · exact absurd busy free
  · subst reason
    exact absurd ⟨busy, record, found, stopping⟩ (allowed isOrderly)

theorem abort_change {reason : AbortReason} {targets : Targets} {owned locks : List SourceLock}
    {data : SourceData} (sound : data.view.Sound orderly careful targets)
    (kept : SourceView.KeptExcept orderly careful data.view handoffId)
    (found : data.get handoffId = some record)
    (harmless : record.commitIntentAt.isSome = true →
      (targets record.peerDaemonId).Discarded handoffId)
    (undisturbed : orderly → record.phase.stopping = true → .busy handoffId ∈ locks →
      .busy handoffId ∈ owned) :
    SourceView.Change orderly careful targets owned locks data.view
      (data.view.record handoffId (moved data handoffId .aborted
        (fun record => { record with abortReason := some reason }) record).handoff) := by
  have found := SourceData.view_handoff found
  cases intent : record.commitIntentAt.isSome with
  | true =>
    refine .settle sound kept found .aborted rfl intent nofun
      (fun _ => harmless intent) (fun _ _ running => absurd rfl running) _ ?_
    rfl
  | false => exact .abandon sound kept found intent undisturbed _ rfl

theorem discard_tame (steady : Steady here) (targetAlreadyDiscarded : Bool) :
    Tame here (if targetAlreadyDiscarded then pure ()
      else Async.tryCatch (do let _ ← rpc record.peerDaemonId (.discard record.handoffId))
        fun _ => pure ()) := by
  split
  · exact Tame.pure steady
  refine Tame.tryCatch ?_ fun _ _ reached => Tame.pure reached.steady
  refine Tame.bind (rpc_tame steady fun _ _ _ same => by cases same) ?_
  exact fun _ _ reached => Tame.pure reached.steady

theorem abort_writes_tame {rest : SourceRecord → SourceM Unit} (steady : Steady here)
    {current : SourceRecord} (found : here.shared.get handoffId = some current)
    (harmless : current.commitIntentAt.isSome = true → (here.world
      current.peerDaemonId).Discarded handoffId) (mayAbort : MayAbort here handoffId reason)
    (next : ∀ next there, After here there → Tame there (rest next)) :
    Tame here (do
      Async.update (.releases handoffId reason) (·.setFence none handoffId)
      let next ← moveAs (.aborts handoffId reason) handoffId .aborted
        fun record => { record with abortReason := some reason }
      rest next) := by
  refine Runs.bind_update_delicate (SourceLabel.aborts handoffId reason) ?_ fun _ _ => .refl steady
  intro changed result allowed
  obtain ⟨free, cut, isView⟩ := SourceData.view_setFence_none result
  have undisturbed := undisturbed_of_mayAbort mayAbort found allowed
  obtain ⟨sound, grown, guards⟩ := SourceView.drop_for_abort steady.sound
    (SourceData.view_handoff found) free cut harmless undisturbed
  have kept : SourceView.KeptExcept orderly careful changed.view handoffId := by
    rw [isView]
    exact .drop steady.durable cut
  rw [← isView] at sound grown guards
  have sameHandoff : changed.view.handoff handoffId = some current.handoff := by
    rw [isView]
    exact SourceData.view_handoff found
  refine ⟨sound, ⟨grown, guards⟩, ?_, ?_⟩
  · by_cases delicate : careful ∧ changed.view.stopped handoffId = true
    · refine .inr ⟨delicate, ?_⟩
      intro next
      obtain ⟨record, found', _⟩ := SourceData.exists_of_view sameHandoff
      simp only [moveAs, bind, Async.update, Process.upcoming, SourceData.move, found']
    refine .inl ?_
    intro isOrderly isCareful
    refine kept.kept ?_ isOrderly isCareful
    by_contra stopped
    exact delicate ⟨isCareful, by simpa using stopped⟩
  have change : ∀ record, changed.get handoffId = some record →
      SourceView.Change orderly careful here.world here.owned here.locks changed.view
        (changed.view.record handoffId (moved changed handoffId .aborted
          (fun record => { record with abortReason := some reason }) record).handoff) := by
    intro record found'
    have same : record.handoff = current.handoff :=
      Option.some.inj ((SourceData.view_handoff found').symm.trans sameHandoff)
    have samePhase : record.phase = current.phase := congrArg Handoff.phase same
    have sameIntent : record.commitIntentAt.isSome = current.commitIntentAt.isSome :=
      congrArg Handoff.intended same
    have samePeer : record.peerDaemonId = current.peerDaemonId := congrArg Handoff.peer same
    refine abort_change sound kept found' ?_ ?_
    · rw [sameIntent, samePeer]
      exact harmless
    · rw [samePhase]
      exact undisturbed
  refine Runs.bind (runs_moveAs ?_ ?_ ?_)
  · intro record changed' found' isView'
    refine step_of_change ?_
    rw [isView']
    exact change record found'
  · intro record changed' _ step _ _
    have reached : After here { here with shared := changed' } :=
      ⟨rfl, (sourceDiscipline orderly careful).grows_refl _, grown.trans step.guarantee.base,
        step.steady⟩
    exact Tame.from_after reached (next _ _ reached)
  intro none
  obtain ⟨record, found', _⟩ := SourceData.exists_of_view sameHandoff
  rw [none] at found'
  cases found'

theorem abortInternal_tame {targetAlreadyDiscarded : Bool} (steady : Steady here)
    (harmless : targetAlreadyDiscarded = true → ∀ current, here.shared.get record.handoffId =
      some current → (here.world current.peerDaemonId).Discarded record.handoffId)
    (mayAbort : MayAbort here record.handoffId reason) :
    Tame here (abortInternal record reason targetAlreadyDiscarded) := by
  refine Tame.settled (bind_journalGet (fun _ => Tame.pure steady) ?_)
  intro current found
  dsimp only
  split
  · exact Tame.pure steady
  refine Tame.bind_inspect ?_
  split
  · exact Tame.pure steady
  rename_i _ proceeds
  have harmless : current.commitIntentAt.isSome = true →
      (here.world current.peerDaemonId).Discarded record.handoffId := by
    intro intended
    refine harmless ?_ current found
    by_contra notDiscarded
    simp [notDiscarded, intended] at proceeds
  refine abort_writes_tame steady found harmless mayAbort ?_
  intro next there reached
  refine Tame.bind (store_tame reached.steady fun _ => rfl) ?_
  exact fun _ _ reached => discard_tame reached.steady _

end Source

end Adhdev.HostHandoff
