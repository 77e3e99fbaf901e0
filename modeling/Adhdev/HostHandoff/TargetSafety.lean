import Adhdev.Foundation.AsyncRules
import Adhdev.HostHandoff.TargetInvariant

/-! # The target keeps its invariant -/

namespace Adhdev.HostHandoff

open TargetData TargetPhase Option

def TargetLabel.TakesActivating (data : TargetData) : TargetLabel → Prop
  | .discards handoffId => data.InPhase handoffId .activating
  | .plain => False

def targetDiscipline (strict : Prop) (selfId : DaemonId) : Discipline targetLanguage where
  World := Intents
  Grows intents later := ∀ handoffId peer epoch, intents handoffId peer epoch →
    later handoffId peer epoch
  Sound intents data := data.Sound strict selfId intents
  Durable _ _ := True
  Base data later := data.Grown later
  Matters _ _ := True
  Keeps lock data later := data.Guards lock later
  Allowed label data _ := strict → ¬ label.TakesActivating data
  Delicate _ _ := False
  Answers _ _ _ _ := True
  grows_refl _ _ _ _ intended := intended
  grows_trans one two _ _ _ intended := two _ _ _ (one _ _ _ intended)
  sound_grows grows sound := sound.grows grows
  durable_grows _ _ := trivial
  base_refl data := .refl data
  base_trans one two := one.trans two
  matters_base _ _ := trivial
  keeps_refl lock _ := by cases lock; exact id
  keeps_trans := by
    intro lock first second third _ one two
    cases lock with
    | activation handoffId => exact fun activating => two (one activating)
  keeps_of_not_matters unreachable _ := absurd trivial unreachable

namespace Target

open Discipline

variable {strict : Prop} {selfId : DaemonId}
variable {here there : Moment (targetDiscipline strict selfId)}
variable {setting : Setting} {sender : DaemonId} {handoffId : HandoffId} {record : TargetRecord}

theorem step_of_change {changed : TargetData}
    (change : TargetData.Change strict selfId here.world here.owned here.locks here.shared
      changed) : Step here changed :=
  ⟨change.sound, trivial, ⟨change.grown, change.guards⟩⟩

/-! ## The journal and the ports -/

section Primitives

variable {α : Type}

theorem bind_journalGet {rest : Option TargetRecord → TargetM α}
    (absent : here.shared.get handoffId = none → Tame here (rest none))
    (present : ∀ record, here.shared.get handoffId = some record →
      Tame here (rest (some record))) : Tame here (journalGet handoffId >>= rest) := by
  refine Tame.bind_inspect ?_
  cases found : here.shared.get handoffId with
  | none => exact absent found
  | some record => exact present record found

theorem bind_journalGet! (steady : Steady here) {rest : TargetRecord → TargetM α}
    (present : ∀ record, here.shared.get handoffId = some record → Tame here (rest record)) :
    Tame here (journalGet! handoffId >>= rest) := by
  refine Runs.bind (Runs.bind_inspect ?_)
  cases found : here.shared.get handoffId with
  | none => exact Runs.throw (.refl steady)
  | some record => exact Runs.pure (present record found)

theorem ofPort_tame (steady : Steady here) (answer : Except Fault α) :
    Tame here (ofPort answer) := by
  cases answer with
  | ok value => exact Tame.pure steady
  | error fault => exact Tame.throw steady

theorem store_tame (steady : Steady here) {change : TargetData → TargetData}
    (kept : TargetData.Change strict selfId here.world here.owned here.locks here.shared
      (change here.shared)) : Tame here (store change) := by
  refine Tame.update steady ?_
  rintro changed ⟨⟩ _
  exact step_of_change kept

variable {patch : TargetRecord → TargetRecord}

theorem journalUpdate_tame (steady : Steady here)
    (same : ∀ record, (patch record).peerDaemonId = record.peerDaemonId ∧ (patch record).epoch =
      record.epoch ∧ (patch record).manifestDigest = record.manifestDigest ∧ (patch record).phase
      = record.phase) : Tame here (journalUpdate handoffId patch) := by
  refine Tame.update steady ?_
  intro changed result _
  exact step_of_change (.patch steady.sound same result)

theorem early_change {intents : Intents} {owned locks : List TargetLock} {data next : TargetData}
    (phase : TargetPhase) (sound : data.Sound strict selfId intents)
    (found : data.get handoffId = some record) (early : record.phase.late = false)
    (plain : phase ≠ .activating ∧ phase ≠ .active)
    (result : data.move handoffId phase patch = .ok next)
    (same : ∀ record, (patch record).peerDaemonId = record.peerDaemonId ∧ (patch record).epoch =
      record.epoch ∧ (patch record).manifestDigest = record.manifestDigest) :
    TargetData.Change strict selfId intents owned locks data next := by
  obtain ⟨current, found', rfl⟩ := put_of_modify result
  obtain rfl := mem_unique found found'
  obtain ⟨peer, epoch, digest⟩ := same { record with updatedAt := data.clock }
  refine .update sound found rfl peer epoch digest ?_ ?_ ?_ ?_ ?_ ?_
  · intro terminal
    revert terminal early
    cases record.phase <;> simp [terminal, late]
  · intro late
    rw [early] at late
    cases late
  · intro _ late
    rw [early] at late
    cases late
  · exact fun begun => absurd begun (not_or.mpr plain)
  · exact fun active => absurd active plain.2
  intro _ _ activating
  rw [activating] at early
  cases early

end Primitives

/-! ## Discards -/

variable {data : TargetData} {manifest : HandoffManifest} {firstApply : Bool}

theorem inPhase_of_move {next : TargetData} {phase : TargetPhase}
    {patch : TargetRecord → TargetRecord} (result : data.move handoffId phase patch = .ok next) :
    next.InPhase handoffId phase := by
  obtain ⟨current, _, rfl⟩ := put_of_modify result
  exact ⟨_, get_put_self rfl, rfl⟩

variable {reason : AbortReason}

theorem discardInternal_known (steady : Steady here)
    (unguarded : here.shared.InPhase record.handoffId .activating → .activation record.handoffId
      ∈ here.locks → .activation record.handoffId ∈ here.owned) :
    Runs here (discardInternal record reason) fun result there => After here there ∧
      (result = .ok () → ∀ current, here.shared.get record.handoffId = some current →
        current.phase ≠ .active → there.shared.Discarded record.handoffId) := by
  refine Runs.bind_inspect ?_
  cases found : here.shared.get record.handoffId with
  | none => exact Runs.pure ⟨.refl steady, fun _ _ same => by cases same⟩
  | some current =>
    dsimp only
    split
    · rename_i terminal
      refine Runs.pure ⟨.refl steady, ?_⟩
      rintro _ same ⟨⟩ inactive
      have phase : current.phase = .discarded := by simpa [inactive] using terminal
      exact ⟨current, found, phase⟩
    rename_i running
    have running : current.phase ≠ .discarded ∧ current.phase ≠ .active := by
      simpa using running
    refine Runs.bind (Runs.update ?_ ?_)
    · intro changed result allowed
      have gone := inPhase_of_move result
      have step : Step here changed := by
        refine step_of_change ?_
        obtain ⟨same, found', rfl⟩ := put_of_modify result
        obtain rfl := mem_unique found found'
        refine .update steady.sound found rfl rfl rfl rfl ?_ (fun _ => rfl) ?_ ?_ ?_ ?_
        · intro terminal
          simp [TargetPhase.terminal, running] at terminal
        · intro isStrict late notDiscarded _
          have activating : current.phase = .activating := by
            revert late running
            cases current.phase <;> simp [late]
          exact absurd ⟨current, found, activating⟩ (allowed isStrict)
        · rintro (begun | begun) <;> cases begun
        · intro active
          cases active
        · intro present foreign activating
          exact absurd (unguarded ⟨current, found, activating⟩ present) foreign
      refine ⟨step, Runs.weaken (store_tame step.steady (.clearStage step.sound)) ?_⟩
      intro result later reached
      exact ⟨(After.of_step step).trans reached, fun _ _ _ _ =>
        reached.base.inPhase rfl gone⟩
    · exact fun _ _ => ⟨.refl steady, by simp⟩

theorem discardInternal_tame (steady : Steady here)
    (unguarded : here.shared.InPhase record.handoffId .activating → .activation record.handoffId
      ∈ here.locks → .activation record.handoffId ∈ here.owned) :
    Tame here (discardInternal record reason) :=
  (discardInternal_known steady unguarded).weaken fun _ _ found => found.1

theorem not_activating (found : here.shared.get handoffId = some record)
    (phase : record.phase ≠ .activating) : ¬ here.shared.InPhase handoffId .activating := by
  rintro ⟨same, found', activating⟩
  obtain rfl := mem_unique found found'
  exact phase activating

/-! ## Staging -/

theorem manifestReceived_tame (steady : Steady here) :
    Tame here (manifestReceived selfId sender handoffId manifest) := by
  refine Tame.bind_inspect ?_
  split
  · exact Tame.pure steady
  rename_i isId
  have isId : manifest.handoffId = handoffId := by simpa using isId
  split_ifs
  · exact Tame.pure steady
  · exact Tame.pure steady
  · exact Tame.pure steady
  refine bind_journalGet ?_ ?_
  · intro absent
    refine Tame.bind_inspect ?_
    split
    · exact Tame.pure steady
    have isNew : (importingRecord sender manifest here.shared).handoffId = handoffId := isId
    have step : Step here
        (here.shared.put (importingRecord sender manifest here.shared)) :=
      step_of_change (.begin steady.sound absent isNew rfl)
    refine Tame.bind_update steady ?_ ?_
    · rintro changed ⟨⟩ _
      exact step
    rintro changed ⟨⟩ _
    refine Tame.bind (store_tame step.steady (.putManifest step.sound ?_)) ?_
    · exact ⟨_, get_put_self isNew, rfl⟩
    · exact fun _ _ reached => Tame.pure reached.steady
  intro existing _
  dsimp only
  split_ifs
  · exact Tame.pure steady
  · exact Tame.pure steady
  · exact Tame.pure steady
  · exact Tame.bind_inspect (Tame.pure steady)

theorem chunkReceived_tame {seq contents : Nat} (steady : Steady here) :
    Tame here (chunkReceived sender handoffId seq contents) := by
  refine bind_journalGet (fun _ => Tame.pure steady) ?_
  intro record _
  dsimp only
  split_ifs
  · exact Tame.pure steady
  · exact Tame.pure steady
  · exact Tame.pure steady
  refine Tame.bind_inspect ?_
  split
  · exact Tame.pure steady
  refine Tame.bind (store_tame steady (.putChunk steady.sound seq)) ?_
  intro _ there reached
  refine Tame.bind_inspect (Tame.bind (journalUpdate_tame reached.steady
    fun _ => ⟨rfl, rfl, rfl, rfl⟩) ?_)
  exact fun _ _ reached => Tame.pure reached.steady

theorem sendAck_tame {ack : HandoffAck} (steady : Steady here)
    (staged : here.shared.Staged ack.handoffId ack.manifestDigest) : Tame here (sendAck ack) := by
  refine Tame.bind (store_tame steady (.acknowledge steady.sound staged)) ?_
  intro _ there reached
  refine Tame.bind Tame.wait ?_
  intro answer there reached
  refine Tame.bind (ofPort_tame reached.steady answer) ?_
  intro result there reached
  refine bind_journalGet (fun _ => Tame.pure reached.steady) ?_
  intro record found
  dsimp only
  split
  · exact Tame.pure reached.steady
  rename_i phase
  have phase : record.phase = .verified := by simpa using phase
  have isId := handoffId_of_get found
  split
  · refine Tame.update reached.steady ?_
    intro changed result _
    exact step_of_change (early_change .acked reached.steady.sound found
      (by rw [phase]; rfl)
      ⟨by simp, by simp⟩ result fun _ => ⟨rfl, rfl, rfl⟩)
  refine discardInternal_tame reached.steady ?_
  intro activating
  rw [isId] at activating
  exact absurd activating (not_activating found (by simp [phase]))

theorem acknowledge_tame {rowCounts : List (String × Nat)}
    (steady : Steady here) (staged : here.shared.Staged record.handoffId manifest) :
    Tame here (acknowledge selfId record manifest rowCounts) := by
  have launchable : Runs here (ackLaunchable record.peerDaemonId)
      fun _ there => After here there ∧ there.shared = here.shared := by
    show Runs here (Async.ask TargetQuery.canLaunch >>= _) _
    refine Runs.bind (Runs.ask ?_)
    intro intents grows launchable _
    exact Runs.bind_inspect (Runs.pure ⟨.of_grows steady grows, rfl⟩)
  refine Tame.bind_known launchable ?_
  intro launchable there reached same
  refine Tame.bind (Tame.spawn (sendAck_tame ⟨reached.steady.sound, trivial⟩ ?_)) ?_
  · show there.shared.Staged record.handoffId manifest
    rw [same]
    exact staged
  · exact fun _ _ reached => Tame.pure reached.steady

theorem verifyStagedSnapshot_known (steady : Steady here) :
    Runs here (verifyStagedSnapshot manifest) fun _ there => After here there ∧
      there.shared = here.shared ∧ there.locks = here.locks := by
  refine Runs.bind_inspect ?_
  show Runs here (Async.ask TargetQuery.localColumns >>= _) _
  refine Runs.bind (Runs.ask ?_)
  intro intents grows columns _
  have reached : After here { here with world := intents } := .of_grows steady grows
  dsimp only
  split_ifs <;> exact Runs.pure ⟨reached, rfl, rfl⟩

theorem sealReceived_tame (steady : Steady here) :
    Tame here (sealReceived selfId sender handoffId) := by
  refine bind_journalGet (fun _ => Tame.pure steady) ?_
  intro record found
  have isId := handoffId_of_get found
  dsimp only
  split
  · exact Tame.pure steady
  split
  · exact Tame.pure steady
  refine Tame.bind_inspect ?_
  cases listed : here.shared.manifests handoffId with
  | none =>
    dsimp only
    split
    · exact Tame.throw steady
    · exact Tame.pure steady
  | some manifest =>
    have staged : here.shared.Staged record.handoffId manifest := by
      rw [isId]
      exact steady.sound.manifests listed
    dsimp only
    split_ifs with verified importing
    · exact acknowledge_tame steady staged
    · exact Tame.pure steady
    have importing : record.phase = .importing := by simpa using importing
    refine Tame.bind_known (verifyStagedSnapshot_known steady) ?_
    intro refusal there reached same
    have found : there.shared.get handoffId = some record := by
      rw [same.1]
      exact found
    have unguarded : ¬ there.shared.InPhase record.handoffId .activating := by
      rw [isId]
      exact not_activating found (by simp [importing])
    cases refusal with
    | some code =>
      refine Tame.bind (discardInternal_tame reached.steady
        fun activating => absurd activating unguarded) ?_
      exact fun _ _ reached => Tame.pure reached.steady
    | none =>
      show Tame there (Async.ask TargetQuery.dryRunApply >>= _)
      refine Tame.bind_ask reached.steady ?_
      intro intents grows applies _
      have steady : Steady { there with world := intents } :=
        (After.of_grows reached.steady grows).steady
      split
      · refine Tame.bind_update steady ?_ ?_
        · intro changed result _
          exact step_of_change (early_change .staged steady.sound found
            (by rw [importing]; rfl)
            ⟨by simp, by simp⟩ result fun _ => ⟨rfl, rfl, rfl⟩)
        intro changed result step
        obtain ⟨_, foundStaged, isStaged⟩ := inPhase_of_move result
        refine Tame.bind (Tame.update step.steady ?_) ?_
        · intro verified result _
          exact step_of_change (early_change .verified step.sound foundStaged
            (by rw [isStaged]; rfl)
            ⟨by simp, by simp⟩ result fun _ => ⟨rfl, rfl, rfl⟩)
        intro _ last reached'
        exact acknowledge_tame reached'.steady (reached'.base.staged
          (step.guarantee.base.staged (reached.base.staged staged)))
      refine Tame.bind (discardInternal_tame steady
        fun activating => absurd activating unguarded) ?_
      exact fun _ _ reached => Tame.pure reached.steady

/-! ## Activation -/

theorem launchOnce_tame (steady : Steady here) : Tame here (launchOnce handoffId) := by
  refine Tame.settled (bind_journalGet! steady ?_)
  intro record _
  refine Tame.bind_inspect (Tame.bind (journalUpdate_tame steady fun _ => ⟨rfl, rfl, rfl, rfl⟩) ?_)
  intro _ there reached
  refine Tame.bind (Tame.tryCatch (Tame.bind Tame.wait fun answer _ reached =>
    ofPort_tame reached.steady answer) fun _ _ reached => Tame.pure reached.steady) ?_
  intro ready there reached
  split
  · refine Tame.bind_inspect (Tame.bind (journalUpdate_tame reached.steady
      fun _ => ⟨rfl, rfl, rfl, rfl⟩) ?_)
    exact fun _ _ reached => Tame.pure reached.steady
  · exact Tame.pure reached.steady

/-- The snapshot and the host role of an activation are written. -/
structure Applied (data : TargetData) (handoffId : HandoffId) : Prop where
  activating : ∃ record, data.get handoffId = some record ∧ record.phase = .activating ∧
    (handoffId, record.manifestDigest) ∈ data.applied
  hosted : handoffId ∈ data.hosted

theorem Applied.later {later : TargetData} (grown : data.Grown later)
    (guards : data.Guards (.activation handoffId) later) (applied : Applied data handoffId) :
    Applied later handoffId := by
  obtain ⟨⟨record, found, phase, isApplied⟩, hosted⟩ := applied
  obtain ⟨next, foundNext, activating⟩ := guards ⟨record, found, phase⟩
  obtain ⟨same, foundSame, _, _, digest, _⟩ := grown.record _ _ found
  obtain rfl := mem_unique foundNext foundSame
  refine ⟨⟨next, foundNext, activating, ?_⟩, grown.hosted hosted⟩
  rw [digest]
  exact grown.applied isApplied

abbrev Answered (handoffId : HandoffId) (result : Except Fault PeerResult) (data : TargetData) :
    Prop :=
  ∀ answer, result = .ok answer →
    (answer.success = true → answer.applied ≠ some false → data.Active handoffId) ∧
      (answer.discarded = true → data.Discarded handoffId)

theorem Answered.later {later : TargetData} (grown : data.Grown later)
    {result : Except Fault PeerResult} (answered : Answered handoffId result data) :
    Answered handoffId result later := by
  intro answer isAnswer
  obtain ⟨active, gone⟩ := answered answer isAnswer
  exact ⟨fun success applied => grown.inPhase rfl (active success applied),
    fun discarded => grown.inPhase rfl (gone discarded)⟩

theorem answered_of_failure {answer : PeerResult} (fails : answer.success = false)
    (kept : answer.discarded = false) : Answered handoffId (.ok answer) here.shared := by
  rintro _ ⟨⟩
  rw [fails, kept]
  exact ⟨(fun success => by cases success), fun discarded => by cases discarded⟩

theorem finished_known (steady : Steady here) (active : here.shared.Active handoffId) :
    Runs here (do
      setFence none handoffId
      store (·.clearStage handoffId)
      let ready ← launchOnce handoffId
      pure { success := true, applied := some true, coordinatorReady := ready }) fun result there =>
        After here there ∧ Answered handoffId result there.shared := by
  have fails : ∀ {there} fault, After here there → After here there ∧
      Answered handoffId (.error fault) there.shared :=
    fun _ reached => ⟨reached, fun _ same => by cases same⟩
  have fenceDown : Tame here (setFence none handoffId) := by
    refine Tame.update steady ?_
    intro cleared result _
    exact step_of_change (TargetData.Change.drop steady.sound result fun _ => active).1
  refine Tame.runs_bind fenceDown (fun fault _ reached => fails fault reached) ?_
  intro _ there dropped
  refine Tame.runs_bind (store_tame dropped.steady (.clearStage dropped.steady.sound))
    (fun fault _ reached => fails fault (dropped.trans reached)) ?_
  intro _ there cleared
  have reached := dropped.trans cleared
  refine Tame.runs_bind (launchOnce_tame reached.steady)
    (fun fault _ launched => fails fault (reached.trans launched)) ?_
  intro ready there launched
  have reached := reached.trans launched
  refine Runs.pure ⟨reached, ?_⟩
  rintro _ ⟨⟩
  exact ⟨fun _ _ => reached.base.inPhase rfl active, fun discarded => by cases discarded⟩

theorem finishActivation_known (owned : .activation handoffId ∈ here.owned)
    (applied : Applied here.shared handoffId) :
    Runs here (finishActivation handoffId) fun result there =>
      After here there ∧ Answered handoffId result there.shared := by
  refine Runs.bind (Runs.bind (Runs.wait ?_))
  intro there sameOwned later answer _
  have reached : After here there := .of_later sameOwned later
  cases answer with
  | error fault => exact Runs.throw ⟨reached, fun _ same => by cases same⟩
  | ok ready =>
    refine Runs.pure ?_
    have applied := applied.later later.rely.base (later.rely.keeps _ owned)
    dsimp only
    split
    · obtain ⟨⟨record, found, phase, isApplied⟩, hosted⟩ := applied
      have begun := reached.steady.sound.begun found (.inl phase)
      refine Runs.bind (Runs.update ?_ ?_)
      · intro changed result _
        have active := inPhase_of_move result
        have step : Step there changed := by
          refine step_of_change ?_
          obtain ⟨same, found', rfl⟩ := put_of_modify result
          obtain rfl := mem_unique found found'
          refine .update reached.steady.sound found rfl rfl rfl rfl
            (by simp [phase, terminal]) (fun _ => rfl) (fun _ _ _ _ => by simp)
            (fun _ => begun) (fun _ => ⟨isApplied, hosted⟩) ?_
          intro _ foreign
          rw [sameOwned] at foreign
          exact absurd owned foreign
        refine ⟨step, Runs.weaken (finished_known step.steady active) ?_⟩
        exact fun result last finishes =>
          ⟨(reached.trans (.of_step step)).trans finishes.1, finishes.2⟩
      · exact fun _ _ => ⟨reached, fun _ same => by cases same⟩
    · exact Runs.pure ⟨reached, answered_of_failure rfl rfl⟩

/-- A record between its intent and its effects. -/
structure Applying (here : Moment (targetDiscipline strict selfId)) (handoffId : HandoffId)
    (manifest : HandoffManifest) (firstApply : Bool) : Prop where
  steady : Steady here
  owned : .activation handoffId ∈ here.owned
  found : ∃ record, here.shared.get handoffId = some record ∧ record.phase = .activating ∧
    record.manifestDigest = manifest
  fresh : firstApply = true →
    handoffId ∉ here.shared.hosted ∧ ∀ manifest, (handoffId, manifest) ∉ here.shared.applied

namespace Applying

variable {manifest : HandoffManifest} {firstApply : Bool}

theorem next (applying : Applying here handoffId manifest firstApply) {changed : TargetData}
    (step : Step here changed) (journal : changed.journal = here.shared.journal)
    (hosted : changed.hosted = here.shared.hosted)
    (applied : changed.applied = here.shared.applied) :
    Applying { here with shared := changed } handoffId manifest firstApply := by
  refine ⟨step.steady, applying.owned, ?_, ?_⟩
  · obtain ⟨record, found, facts⟩ := applying.found
    exact ⟨record, (get_of_journal journal handoffId).trans found, facts⟩
  · simp only [hosted, applied]
    exact applying.fresh

end Applying

theorem materialized_journal (host : DaemonId) (key : Option String) :
    (data.materializeMember host key).journal = data.journal ∧
      (data.materializeMember host key).hosted = data.hosted ∧
      (data.materializeMember host key).applied = data.applied := by
  unfold materializeMember
  split <;> exact ⟨rfl, rfl, rfl⟩

/-- The promise of the effects of an activation. -/
abbrev Outcome (handoffId : HandoffId) (result : Except Fault (Option PeerResult))
    (there : Moment (targetDiscipline strict selfId)) : Prop :=
  (∀ answer, result = .ok (some answer) →
    answer.success = false ∧ (answer.discarded = true → there.shared.Discarded handoffId)) ∧
  (result = .ok none → Applied there.shared handoffId)

theorem outcome_of_fault (fault : Fault) : Outcome handoffId (.error fault) here :=
  ⟨(fun _ same => by cases same), fun same => by cases same⟩

theorem committed_known (applying : Applying here record.handoffId manifest firstApply)
    (fenced : here.shared.fence = some record.handoffId) : Runs here (do
      store (·.commitSnapshot record.handoffId manifest)
      ofPort (← ask .applyConfig)
      ofPort (← ask .assignHost)
      Async.update .plain (·.writeHost selfId record)
      pure none) fun result there => After here there ∧ Outcome record.handoffId result there := by
  obtain ⟨current, found, phase, rfl⟩ := applying.found
  have isId := handoffId_of_get found
  refine Runs.bind (Runs.update ?_ ?_)
  · rintro changed ⟨⟩ _
    have step : Step here (here.shared.commitSnapshot record.handoffId current.manifestDigest) :=
      step_of_change (.commitSnapshot applying.steady.sound found phase)
    have reached := After.of_step step
    refine ⟨step, Runs.bind (Runs.ask ?_)⟩
    intro intents grows configured _
    have reached := reached.trans (.of_grows step.steady grows)
    cases configured with
    | error fault => exact Runs.bind (Runs.throw ⟨reached, outcome_of_fault fault⟩)
    | ok _ =>
      refine Runs.bind (Runs.pure (Runs.bind (Runs.ask ?_)))
      intro intents' grows' assigned _
      have reached := reached.trans (.of_grows reached.steady grows')
      cases assigned with
      | error fault => exact Runs.bind (Runs.throw ⟨reached, outcome_of_fault fault⟩)
      | ok _ =>
        refine Runs.bind (Runs.pure (Runs.bind (Runs.update ?_ ?_)))
        · intro hosted result _
          have found' : (here.shared.commitSnapshot record.handoffId
              current.manifestDigest).get current.handoffId = some current := by
            rw [isId]
            exact found
          obtain ⟨change, journal, isHosted, isApplied⟩ := TargetData.Change.writeHost
            reached.steady.sound found' phase (by rw [isId]; exact fenced) isId.symm result
          have step := step_of_change change
          refine ⟨step, Runs.pure ⟨reached.trans (.of_step step),
            (fun _ same => by cases same), fun _ => ⟨⟨current, ?_, phase, ?_⟩, ?_⟩⟩⟩
          · exact (get_of_journal journal _).trans found
          · simp only [isApplied]
            exact List.mem_append_right _ (.head _)
          · simp only [isHosted, isId]
            exact List.mem_append_right _ (.head _)
        · exact fun fault _ => ⟨reached, outcome_of_fault fault⟩
  · rintro fault ⟨⟩

theorem rolledBack_known (applying : Applying here record.handoffId manifest true) : Runs here (do
      setFence none record.handoffId
      discardActivation record .applyRolledBack
      pure (some (discardedReply .snapshotConflict record))) fun result there =>
        After here there ∧ Outcome record.handoffId result there := by
  obtain ⟨notHosted, notApplied⟩ := applying.fresh rfl
  have steady := applying.steady
  refine Runs.bind (Runs.update ?_ fun fault _ => ⟨.refl steady, outcome_of_fault fault⟩)
  intro dropped result _
  obtain ⟨change, journal, isHosted, isApplied⟩ := TargetData.Change.drop steady.sound result
    fun hosted => absurd hosted notHosted
  have drops := step_of_change change
  have applying := applying.next drops journal isHosted isApplied
  obtain ⟨current, found, phase, _⟩ := applying.found
  refine ⟨drops, Runs.bind (Runs.bind (Runs.update ?_ fun fault _ =>
    ⟨.of_step drops, outcome_of_fault fault⟩))⟩
  intro discarded result _
  have gone := inPhase_of_move result
  have discards : Step { here with shared := dropped } discarded := by
    refine step_of_change ?_
    obtain ⟨same, found', rfl⟩ := put_of_modify result
    obtain rfl := mem_unique found found'
    refine .update applying.steady.sound found rfl rfl rfl rfl
      (by simp [phase, terminal]) (fun _ => rfl) ?_ ?_ ?_ ?_
    · rintro _ _ _ (hosted | ⟨other, applied⟩)
      · exact absurd hosted (applying.fresh rfl).1
      · exact absurd applied ((applying.fresh rfl).2 other)
    · rintro (begun | begun) <;> cases begun
    · intro active
      cases active
    · exact fun _ foreign => absurd applying.owned foreign
  refine ⟨discards, Runs.weaken (store_tame discards.steady (.clearStage discards.sound)) ?_⟩
  intro result there cleared
  have reached := ((After.of_step drops).trans (.of_step discards)).trans cleared
  cases result with
  | error fault => exact ⟨reached, outcome_of_fault fault⟩
  | ok _ =>
    refine Runs.pure ⟨reached, ?_, fun same => by cases same⟩
    rintro _ ⟨⟩
    exact ⟨rfl, fun _ => cleared.base.inPhase rfl gone⟩

theorem applyFenced_known {there : Moment (targetDiscipline strict selfId)}
    (reached : After here there) (applying : Applying there record.handoffId manifest firstApply) :
    Runs there (applyFenced selfId record manifest firstApply) fun result last =>
      After here last ∧ Outcome record.handoffId result last := by
  have steady := applying.steady
  refine Runs.bind (Runs.update ?_ fun fault _ => ⟨reached, outcome_of_fault fault⟩)
  intro raised result _
  obtain ⟨change, fenced, journal⟩ := TargetData.Change.raise steady.sound result
  obtain ⟨_, mesh, _, isRaised⟩ := fence_of_setFence_some result
  have raises := step_of_change change
  have applying := applying.next raises journal (by rw [isRaised]) (by rw [isRaised])
  have reached := reached.trans (.of_step raises)
  refine ⟨raises, Runs.bind (Runs.update ?_ fun fault _ => ⟨reached, outcome_of_fault fault⟩)⟩
  intro frozen result _
  obtain ⟨change, journal, sameFence, isHosted, isApplied⟩ :=
    TargetData.Change.freezeWrites applying.steady.sound result
  have freezes := step_of_change change
  have applying := applying.next freezes journal isHosted isApplied
  have reached := reached.trans (.of_step freezes)
  refine ⟨freezes, ?_⟩
  show Runs _ (ask .applySnapshot >>= _) _
  refine Runs.bind (Runs.ask ?_)
  intro intents grows outcome _
  have applying : Applying { there with world := intents, shared := frozen } record.handoffId
      manifest firstApply :=
    ⟨(After.of_grows applying.steady grows).steady, applying.owned, applying.found,
      applying.fresh⟩
  have reached := reached.trans (.of_grows reached.steady grows)
  have transported : ∀ {code : TargetM (Option PeerResult)}, (Runs { there with
      world := intents, shared := frozen } code fun result last =>
        After { there with world := intents, shared := frozen } last ∧
          Outcome record.handoffId result last) →
      Runs { there with world := intents, shared := frozen } code fun result last =>
        After here last ∧ Outcome record.handoffId result last := by
    intro code runs
    exact runs.weaken fun result last known => ⟨reached.trans known.1, known.2⟩
  cases outcome with
  | rolledBack =>
    cases firstApply with
    | true => exact transported (rolledBack_known applying)
    | false => exact Runs.throw ⟨reached, outcome_of_fault _⟩
  | committed => exact transported (committed_known applying (sameFence.trans fenced))
  | failedAfterCommit =>
    obtain ⟨current, found, phase, rfl⟩ := applying.found
    refine Tame.runs_bind (store_tame applying.steady
      (.commitSnapshot applying.steady.sound found phase)) ?_ ?_
    · exact fun fault _ later => ⟨reached.trans later, outcome_of_fault fault⟩
    · exact fun _ _ later => Runs.throw ⟨reached.trans later, outcome_of_fault _⟩

theorem applyActivation_known (applying : Applying here record.handoffId manifest firstApply) :
    Runs here (applyActivation selfId record manifest firstApply) fun result there =>
      After here there ∧ Outcome record.handoffId result there := by
  have steady := applying.steady
  refine Runs.bind_inspect ?_
  dsimp only
  split
  · refine Runs.bind (Runs.update ?_ ?_)
    · rintro changed ⟨⟩ _
      have step := step_of_change (.materializeMember steady.sound record.peerDaemonId
        ((memberView here.shared record.peerDaemonId).bind (·.hostPublicKey)))
      obtain ⟨journal, isHosted, isApplied⟩ := @materialized_journal here.shared
        record.peerDaemonId
        ((memberView here.shared record.peerDaemonId).bind (·.hostPublicKey))
      exact ⟨step, applyFenced_known (.of_step step) (applying.next step journal isHosted
        isApplied)⟩
    · rintro fault ⟨⟩
  · exact applyFenced_known (.refl steady) applying

variable {certificate : HostTransferCertificate}

theorem applyStaged_known (steady : Steady here) (owned : .activation record.handoffId ∈ here.owned)
    {current : TargetRecord} (found : here.shared.get record.handoffId = some current)
    (phase : current.phase.terminal = false) (digest : current.manifestDigest = manifest)
    (fresh : record.phase ≠ .activating → current.phase.late = false)
    (begun : here.world record.handoffId selfId current.epoch) :
    Runs here (applyStaged selfId record manifest certificate) fun result there =>
      After here there ∧ Answered record.handoffId result there.shared := by
  have fails : ∀ {there} fault, After here there → After here there ∧
      Answered record.handoffId (.error fault) there.shared :=
    fun _ reached => ⟨reached, fun _ same => by cases same⟩
  refine Runs.bind (Runs.update ?_ ?_)
  · rintro certified ⟨⟩ _
    have certifies : Step here (here.shared.putCertificate record.handoffId certificate) :=
      step_of_change (.putCertificate steady.sound certificate)
    refine ⟨certifies, Runs.bind (Runs.update ?_ fun fault _ => fails fault (.of_step certifies))⟩
    intro intended result _
    have activating := inPhase_of_move result
    obtain ⟨same, found', isPut⟩ := put_of_modify result
    obtain rfl := mem_unique found found'
    have intends : Step { here with
        shared := here.shared.putCertificate record.handoffId certificate } intended := by
      subst isPut
      refine step_of_change (.update certifies.sound found rfl rfl rfl rfl ?_ (fun _ => rfl) ?_ ?_
        ?_ ?_)
      · intro terminal
        rw [phase] at terminal
        cases terminal
      · intro _ _ _ _
        simp
      · exact fun _ => begun
      · intro active
        cases active
      · exact fun _ foreign => absurd owned foreign
    have applying : Applying { here with shared := intended } record.handoffId manifest
        (record.phase != .activating) := by
      refine ⟨intends.steady, owned, ?_, ?_⟩
      · subst isPut
        exact ⟨_, get_put_self rfl, rfl, digest⟩
      intro first
      have early := fresh (by simpa using first)
      subst isPut
      refine ⟨?_, ?_⟩
      · intro hosted
        obtain ⟨record, found', late, _⟩ := steady.sound.hosted hosted
        obtain rfl := mem_unique found found'
        rw [early] at late
        cases late
      intro other applied
      obtain ⟨record, found', late, _⟩ := steady.sound.applied applied
      obtain rfl := mem_unique found found'
      rw [early] at late
      cases late
    have reached := (After.of_step certifies).trans (.of_step intends)
    refine ⟨intends, Runs.bind (Runs.tryCatch ((applyActivation_known applying).weaken ?_))⟩
    intro result there ⟨applies, outcome⟩
    have reached := reached.trans applies
    cases result with
    | error fault => exact Runs.pure (Runs.pure ⟨reached, answered_of_failure rfl rfl⟩)
    | ok outcome' =>
      cases outcome' with
      | some refusal =>
        obtain ⟨failed, gone⟩ := outcome.1 refusal rfl
        refine Runs.pure ⟨reached, ?_⟩
        rintro _ ⟨⟩
        refine ⟨?_, gone⟩
        rw [failed]
        exact fun success => by cases success
      | none =>
        refine (finishActivation_known (by rw [reached.owned]; exact owned)
          (outcome.2 rfl)).weaken ?_
        exact fun result last known => ⟨reached.trans known.1, known.2⟩
  · rintro fault ⟨⟩

theorem discardedReply_known {code : ErrorCode} {current : TargetRecord} (steady : Steady here)
    (owned : .activation record.handoffId ∈ here.owned)
    (found : here.shared.get record.handoffId = some current) (inactive : current.phase ≠ .active) :
    Runs here (do
      discardInternal record reason
      pure (discardedReply code record)) fun result there =>
        After here there ∧ Answered record.handoffId result there.shared := by
  refine Runs.bind ((discardInternal_known steady fun _ _ => owned).weaken ?_)
  intro result there ⟨reached, gone⟩
  cases result with
  | error fault => exact ⟨reached, fun _ same => by cases same⟩
  | ok _ =>
    refine Runs.pure ⟨reached, ?_⟩
    rintro _ ⟨⟩
    exact ⟨nofun, fun _ => gone rfl current found inactive⟩

theorem activateStaged_known (steady : Steady here)
    (owned : .activation record.handoffId ∈ here.owned)
    (found : here.shared.get record.handoffId = some record)
    (phase : record.phase = .verified ∨ record.phase = .acked ∨ record.phase = .activating)
    (begun : here.world record.handoffId selfId record.epoch) :
    Runs here (activateStaged selfId record certificate) fun result there =>
      After here there ∧ Answered record.handoffId result there.shared := by
  have running : record.phase.terminal = false := by
    rcases phase with phase | phase | phase <;> simp [phase, terminal]
  refine Runs.bind_inspect ?_
  cases listed : here.shared.manifests record.handoffId with
  | none => exact Runs.pure ⟨.refl steady, answered_of_failure rfl rfl⟩
  | some manifest =>
    refine Runs.bind ((verifyStagedSnapshot_known steady).weaken ?_)
    intro result there ⟨reached, same, _⟩
    have foundThere : there.shared.get record.handoffId = some record := by
      rw [same]
      exact found
    have ownedThere : .activation record.handoffId ∈ there.owned := by
      rw [reached.owned]
      exact owned
    cases result with
    | error fault => exact ⟨reached, fun _ same => by cases same⟩
    | ok refusal =>
      cases refusal with
      | some code =>
        refine (discardedReply_known reached.steady ownedThere foundThere ?_).weaken ?_
        · intro active
          simp [active, terminal] at running
        · exact fun result last known => ⟨reached.trans known.1, known.2⟩
      | none =>
        dsimp only
        split
        · exact Runs.pure ⟨reached, answered_of_failure rfl rfl⟩
        refine Runs.bind (Runs.bind (Runs.wait ?_))
        intro last sameOwned later answer _
        have ownedLast : .activation record.handoffId ∈ last.owned := by
          rw [sameOwned]
          exact ownedThere
        have reached := reached.trans (.of_later sameOwned later)
        cases answer with
        | error fault => exact Runs.throw ⟨reached, fun _ same => by cases same⟩
        | ok ready =>
          refine Runs.pure (Runs.bind_inspect ?_)
          obtain ⟨current, foundCurrent, _, epoch, digest, _⟩ := reached.base.record _ _ found
          rw [foundCurrent]
          dsimp only
          split
          · exact Runs.pure ⟨reached, answered_of_failure rfl rfl⟩
          rename_i unchanged
          have phases : current.phase = record.phase ∨
              (stillStaged current.phase = true ∧ stillStaged record.phase = true) := by
            by_cases same : current.phase = record.phase
            · exact .inl same
            · refine .inr ?_
              simpa [same] using unchanged
          have runningNow : current.phase.terminal = false := by
            rcases phases with same | staged
            · rw [same]
              exact running
            · revert staged
              cases current.phase <;> simp [stillStaged, terminal]
          split
          · have staged := steady.sound.manifests listed
            obtain ⟨same, found', isDigest⟩ := staged
            obtain rfl := mem_unique found found'
            refine (applyStaged_known reached.steady ownedLast foundCurrent runningNow
              (digest.trans isDigest) ?_ ?_).weaken ?_
            · intro notActivating
              have early : stillStaged record.phase = true := by
                rcases phase with phase | phase | phase
                · simp [phase, stillStaged]
                · simp [phase, stillStaged]
                · exact absurd phase notActivating
              have early : stillStaged current.phase = true := by
                rcases phases with same | staged
                · rw [same]
                  exact early
                · exact staged.1
              revert early
              cases current.phase <;> simp [stillStaged, late]
            · rw [epoch]
              exact reached.grows _ _ _ begun
            · exact fun result final known => ⟨reached.trans known.1, known.2⟩
          · split
            · exact Runs.pure ⟨reached, answered_of_failure rfl rfl⟩
            refine (discardedReply_known reached.steady ownedLast foundCurrent
              ?_).weaken ?_
            · intro active
              simp [active, terminal] at runningNow
            · exact fun result final known => ⟨reached.trans known.1, known.2⟩

theorem activateLocked_known {epoch : Int} (steady : Steady here)
    (owned : .activation handoffId ∈ here.owned) (begun : here.world handoffId selfId epoch) :
    Runs here (activateLocked setting selfId sender handoffId epoch certificate)
      fun result there => After here there ∧ Answered handoffId result there.shared := by
  have refuses : ∀ {answer : PeerResult}, answer.success = false → answer.discarded = false →
      Runs here (pure answer : TargetM PeerResult) fun result there =>
        After here there ∧ Answered handoffId result there.shared :=
    fun fails kept => Runs.pure ⟨.refl steady, answered_of_failure fails kept⟩
  refine Runs.bind_inspect ?_
  cases found : here.shared.get handoffId with
  | none => exact refuses rfl rfl
  | some record =>
    have isId := handoffId_of_get found
    subst isId
    dsimp only
    split
    · exact refuses rfl rfl
    split
    · exact refuses rfl rfl
    rename_i sameEpoch
    have begun : here.world record.handoffId selfId record.epoch := by
      rw [show epoch = record.epoch by simpa using sameEpoch] at begun
      exact begun
    refine Runs.bind_inspect (Runs.bind_inspect ?_)
    split
    · exact refuses rfl rfl
    split
    · exact refuses rfl rfl
    cases phase : record.phase with
    | importing | staged => exact refuses rfl rfl
    | verified => exact activateStaged_known steady owned found (.inl phase) begun
    | acked => exact activateStaged_known steady owned found (.inr (.inl phase)) begun
    | activating => exact activateStaged_known steady owned found (.inr (.inr phase)) begun
    | discarded =>
      refine Runs.pure ⟨.refl steady, ?_⟩
      rintro _ ⟨⟩
      exact ⟨nofun, fun _ => ⟨record, found, phase⟩⟩
    | active =>
      refine Runs.bind (Runs.bind (Runs.wait ?_))
      intro there sameOwned later answer _
      have reached : After here there := .of_later sameOwned later
      cases answer with
      | error fault => exact Runs.throw ⟨reached, fun _ same => by cases same⟩
      | ok observed =>
        refine Runs.pure (Runs.pure ⟨reached, ?_⟩)
        rintro _ ⟨⟩
        exact ⟨fun _ _ => reached.base.inPhase rfl ⟨record, found, phase⟩, nofun⟩

theorem activate_known {epoch : Int} (steady : Steady here) (owned : here.owned = [])
    (begun : here.world handoffId selfId epoch) :
    Runs here (activate setting selfId sender handoffId epoch certificate)
      fun result there => After here there ∧ Answered handoffId result there.shared := by
  refine Runs.bind_inspect ?_
  split
  · exact Runs.pure ⟨.refl steady, answered_of_failure rfl rfl⟩
  rename_i free
  have free : .activation handoffId ∉ here.locks := by
    simpa [List.contains_iff_mem] using free
  refine Tame.runs_locked (Answered handoffId) (fun _ => free) (by simp [owned]) (Runs.settled ?_)
  have locked : Steady { here with
      owned := here.owned.insert (.activation handoffId)
      locks := here.locks.insert (.activation handoffId) } := ⟨steady.sound, trivial⟩
  refine (activateLocked_known locked List.mem_insert_self begun).weaken ?_
  intro result there ⟨reached, answered⟩ later sameOwned found
  exact ⟨reached.trans (.of_later sameOwned found), answered.later found.rely.base⟩

/-! ## Status, discard, resume and tick -/

theorem status_known (steady : Steady here) :
    Runs here (status sender handoffId) fun result there => After here there ∧
      ∀ answer, result = .ok answer → there.shared.Truthful (.status handoffId) answer := by
  refine Runs.bind_inspect ?_
  cases found : here.shared.get handoffId with
  | none =>
    refine Runs.pure ⟨.refl steady, ?_⟩
    rintro _ ⟨⟩
    exact ⟨nofun, nofun⟩
  | some record =>
    dsimp only
    split
    · refine Runs.pure ⟨.refl steady, ?_⟩
      rintro _ ⟨⟩
      exact ⟨nofun, nofun⟩
    have observes : Tame here
        (Async.tryCatch (do let _ ← observe) fun _ => pure () : TargetM Unit) := by
      refine Tame.tryCatch (Tame.bind (Tame.bind Tame.wait fun answer _ reached =>
        ofPort_tame reached.steady answer) fun _ _ reached => Tame.pure reached.steady) ?_
      exact fun _ _ reached => Tame.pure reached.steady
    refine Tame.runs_bind observes (fun fault _ reached => ⟨reached, fun _ same => by cases same⟩)
      ?_
    intro _ there reached
    refine Runs.pure ⟨reached, ?_⟩
    rintro _ ⟨⟩
    refine ⟨?_, ?_⟩ <;>
    · intro phase
      exact reached.base.inPhase rfl ⟨record, found, some.inj phase⟩

theorem discard_tame (steady : Steady here) : Tame here (discard sender handoffId) := by
  refine Tame.bind_inspect ?_
  split
  · exact Tame.pure steady
  rename_i free
  have free : .activation handoffId ∉ here.locks := by
    simpa [List.contains_iff_mem] using free
  refine bind_journalGet (fun _ => Tame.pure steady) ?_
  intro record found
  have isId := handoffId_of_get found
  dsimp only
  split
  · exact Tame.pure steady
  split
  · exact Tame.pure steady
  refine Tame.bind (discardInternal_tame steady ?_) ?_
  · rw [isId]
    exact fun _ present => absurd present free
  · exact fun _ _ reached => Tame.pure reached.steady

theorem serve_tame {request : Request} (steady : Steady here) (owned : here.owned = [])
    (begun : ∀ handoffId epoch certificate, request = .activate handoffId epoch certificate →
      here.world handoffId selfId epoch) : Tame here (serve setting selfId request) := by
  have answers : ∀ {code : TargetM PeerResult},
      (Runs here code fun result there => After here there ∧
        ∀ answer, result = .ok answer → there.shared.Truthful request answer) →
      Tame here (do
        let result ← code
        store fun data => { data with replies := data.replies ++ [(request, result)] }) := by
    intro code runs
    refine Runs.bind (runs.weaken ?_)
    intro result there ⟨reached, truthful⟩
    cases result with
    | error fault => exact reached
    | ok answer =>
      exact Tame.from_after reached (store_tame reached.steady
        (.reply reached.steady.sound (truthful answer rfl)))
  have tame : ∀ {code : TargetM PeerResult},
      (∀ data answer, TargetData.Truthful data request answer) →
      Tame here code → Runs here code fun result there => After here there ∧
        ∀ answer, result = .ok answer → there.shared.Truthful request answer :=
    fun vacuous tame => tame.weaken fun _ _ reached => ⟨reached, fun _ _ => vacuous _ _⟩
  cases request with
  | manifest handoffId manifest =>
    exact answers (tame (fun _ _ => trivial) (manifestReceived_tame steady))
  | chunk handoffId seq contents =>
    exact answers (tame (fun _ _ => trivial) (chunkReceived_tame steady))
  | «seal» handoffId => exact answers (tame (fun _ _ => trivial) (sealReceived_tame steady))
  | activate handoffId epoch certificate =>
    exact answers (activate_known steady owned (begun handoffId epoch certificate rfl))
  | status handoffId => exact answers (status_known steady)
  | discard handoffId => exact answers (tame (fun _ _ => trivial) (discard_tame steady))

theorem convergeLaunch_tame (steady : Steady here) : Tame here (convergeLaunch record) := by
  refine Tame.bind_inspect ?_
  split
  · exact Tame.pure steady
  split
  · exact Tame.pure steady
  split
  · exact Tame.pure steady
  refine Tame.bind (Tame.bind Tame.wait fun answer _ reached =>
    ofPort_tame reached.steady answer) ?_
  intro seen there reached
  split
  · exact journalUpdate_tame reached.steady fun _ => ⟨rfl, rfl, rfl, rfl⟩
  split
  · exact Tame.pure reached.steady
  · refine Tame.bind (launchOnce_tame reached.steady) ?_
    exact fun _ _ reached => Tame.pure reached.steady

theorem others_tame (here : Moment (targetDiscipline strict selfId)) : Tame here others :=
  Tame.bind Tame.wait fun answer _ reached => ofPort_tame reached.steady answer

structure Listed (intents : Intents) (selfId : DaemonId) (data : TargetData)
    (record : TargetRecord) : Prop where
  active : record.phase = .active → data.Active record.handoffId
  begun : record.phase = .activating → intents record.handoffId selfId record.epoch

theorem Listed.later {intents later : Intents} {next : TargetData}
    (grows : ∀ handoffId peer epoch, intents handoffId peer epoch → later handoffId peer epoch)
    (grown : data.Grown next) (listed : Listed intents selfId data record) :
    Listed later selfId next record :=
  ⟨fun phase => grown.inPhase rfl (listed.active phase),
    fun phase => grows _ _ _ (listed.begun phase)⟩

theorem listed_of_mem (steady : Steady here) (member : record ∈ here.shared.journal.entries) :
    Listed here.world selfId here.shared record := by
  have found := get_of_mem member
  exact ⟨fun phase => ⟨record, found, phase⟩, fun phase => steady.sound.begun found (.inl phase)⟩

theorem tickRecord_tame {time : Int} : Tame here (tickRecord time record) := by
  refine Tame.bind (others_tame here) ?_
  intro _ there reached
  have steady := reached.steady
  refine Tame.bind_inspect ?_
  split
  · exact Tame.pure steady
  rename_i free
  have free : .activation record.handoffId ∉ there.locks := by
    simpa [List.contains_iff_mem] using free
  cases phase : record.phase with
  | active =>
    exact Tame.tryCatch (convergeLaunch_tame steady) fun _ _ reached => Tame.pure reached.steady
  | importing | staged | verified | acked =>
    dsimp only
    split
    · exact discardInternal_tame steady fun _ present => absurd present free
    · exact Tame.pure steady
  | activating | discarded => exact Tame.pure steady

theorem resumeRecord_tame (owned : here.owned = [])
    (listed : Listed here.world selfId here.shared record) :
    Tame here (resumeRecord setting selfId record) := by
  refine Tame.bind (others_tame here) ?_
  intro _ there reached
  have steady := reached.steady
  have owned := reached.owned.trans owned
  have listed := listed.later reached.grows reached.base
  cases phase : record.phase with
  | active =>
    refine Tame.bind_inspect ?_
    split
    · refine Tame.update steady ?_
      intro changed result _
      exact step_of_change
        (TargetData.Change.drop steady.sound result fun _ => listed.active phase).1
    · exact Tame.pure steady
  | activating =>
    refine Tame.bind_inspect ?_
    split
    · refine Tame.bind ((activate_known steady owned (listed.begun phase)).weaken
        fun _ _ known => known.1) ?_
      exact fun _ _ reached => Tame.pure reached.steady
    · exact Tame.pure steady
  | importing | staged | verified | acked | discarded => exact Tame.pure steady

theorem resume_tame (steady : Steady here) (owned : here.owned = []) :
    Tame here (resume setting selfId) := by
  refine Tame.bind_inspect (Runs.each (fun rest there => After here there ∧
    ∀ record ∈ rest, Listed there.world selfId there.shared record) ?_ (fun _ ready => ready.1) _
    ⟨.refl steady, fun record member => listed_of_mem steady member⟩)
  intro record rest there ready
  obtain ⟨reached, listed⟩ := ready
  refine (resumeRecord_tame (reached.owned.trans owned)
    (listed record List.mem_cons_self)).weaken ?_
  intro result later reached'
  cases result with
  | error fault => exact reached.trans reached'
  | ok _ =>
    refine ⟨reached.trans reached', ?_⟩
    exact fun other member => (listed other (.tail _ member)).later reached'.grows reached'.base

theorem tick_tame (steady : Steady here) : Tame here tick := by
  refine Tame.bind_inspect (Tame.bind_inspect (Runs.each (fun _ there => After here there) ?_
    (fun _ ready => ready) _ (.refl steady)))
  intro record rest there reached
  refine tickRecord_tame.weaken ?_
  intro result later reached'
  cases result with
  | error fault | ok _ => exact reached.trans reached'

end Target

end Adhdev.HostHandoff
