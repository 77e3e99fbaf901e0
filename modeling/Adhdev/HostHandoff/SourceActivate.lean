import Adhdev.HostHandoff.SourceAdvance

/-! # Activating, recovering and ending a handoff keeps the invariant -/

namespace Adhdev.HostHandoff.Source

open Discipline Tame SourceData SourcePhase SourceRecord Option

variable {orderly careful : Prop} {here there : Moment (sourceDiscipline orderly careful)}
variable {setting : Setting} {handoffId : HandoffId} {record : SourceRecord} {peer : DaemonId}

/-! ## Activate and commit -/

section

variable (steady : Steady here)
include steady

theorem unfinished_of_active (found : here.shared.get handoffId = some record)
    (intended : record.commitIntentAt.isSome = true)
    (active : (here.world record.peerDaemonId).Active handoffId)
    (running : record.phase ≠ .committed) : record.phase.terminal = false := by
  have notAborted : record.phase ≠ .aborted := by
    intro aborted
    have gone := (steady.sound.aborted (view_handoff found) aborted).2 intended
    exact TargetData.not_discarded_of_active active gone
  simp [terminal, running, notAborted]

section

variable (intended : Intended here.shared handoffId peer)
include intended

theorem commit_tame (active : (here.world peer).Active handoffId) : Tame here (commit handoffId) :=
    by
  obtain ⟨record, found, rfl, isIntended⟩ := intended
  refine settled (bind_journalGet! steady ?_)
  intro same found'
  obtain rfl := mem_unique found found'
  have isId := handoffId_of_get found
  split
  · exact pure steady
  rename_i running
  have unfinished := unfinished_of_active steady found isIntended active (by simpa using running)
  have foundView := view_handoff found
  refine bind_update steady ?_ ?_
  · rintro changed ⟨⟩ _
    refine step_of_change ?_
    rw [view_writeMember, isId]
    exact .follow steady.sound steady.durable foundView isIntended unfinished active
  rintro changed ⟨⟩ step
  refine bind_moveAs step.steady ?_ ?_
  · intro same found'
    obtain rfl := mem_unique found found'
    refine .settle step.sound (step.durable.except handoffId) foundView .committed rfl
      isIntended (fun _ => ⟨active, rfl⟩) (by simp) ?_ _ rfl
    intro isOrderly isCareful _ stopped open_
    exact step.durable isOrderly isCareful foundView stopped open_
  intro same changed found' moves isRecord isView
  obtain rfl := mem_unique found found'
  refine bind (update moves.steady ?_) ?_
  · intro cleared result _
    obtain ⟨free, _, isDropped⟩ := view_setFence_none result
    refine step_of_change ?_
    rw [isDropped]
    refine .drop_following moves.sound moves.durable (view_handoff isRecord) rfl ?_
      ?_ free
    · simp only [isView]
      rfl
    · simp only [isView]
      exact congrArg some isId
  · exact fun _ _ reached => store_tame reached.steady fun _ => rfl

theorem intended_settle {patch : SourceRecord → SourceRecord}
    (same : ∀ record, (patch record).handoff = record.handoff) : Tame here
    (move handoffId .uncertain patch) := by
  obtain ⟨record, found, rfl, isIntended⟩ := intended
  have foundView := view_handoff found
  refine runs_moveAs ?_ (fun _ _ _ step _ _ => .of_step step) fun _ => .refl steady
  intro again changed found' isView
  obtain rfl := mem_unique found found'
  refine step_of_change (isView ▸ .settle steady.sound (steady.durable.except handoffId) foundView
    .uncertain rfl isIntended nofun
    nofun ?_ _ ?_)
  · intro isOrderly isCareful _ stopped open_
    exact steady.durable isOrderly isCareful foundView stopped open_
  · show ({ (patch { record with updatedAt := here.shared.clock }).handoff with
      phase := .uncertain } : Handoff) = _
    rw [same]
    rfl

theorem moveUncertain_tame : Tame here (moveUncertain handoffId) := by
  refine bind_inspect (bind (intended_settle steady intended fun _ => rfl) ?_)
  exact fun _ _ reached => pure reached.steady

end

theorem abort_discarded_tame {reason : AbortReason} (intended : Intended here.shared
      record.handoffId peer) (gone : (here.world peer).Discarded
      record.handoffId) : Tame here (abortInternal record reason true) := by
  refine abortInternal_tame steady ?_ (.inl (settled_of_intended steady intended))
  intro _ current found
  obtain ⟨same, found', rfl, _⟩ := intended
  obtain rfl := mem_unique found' found
  exact gone

theorem sendActivate_tame {certificate : HostTransferCertificate}
    (found : here.shared.get record.handoffId = some record)
    (intended : record.commitIntentAt.isSome = true) : Tame here (sendActivate record certificate)
    := by
  have isIntended : Intended here.shared record.handoffId record.peerDaemonId :=
    ⟨record, found, rfl, intended⟩
  refine bind_known (attempt_known steady ?_) ?_
  · rintro _ _ _ ⟨⟩
    exact ⟨record, found, intended, rfl, rfl⟩
  intro answer there reached truthful
  have isIntended := isIntended.later reached.base
  cases answer with
  | none => exact moveUncertain_tame reached.steady isIntended
  | some result =>
    obtain ⟨active, gone⟩ := truthful result rfl
    dsimp only
    split_ifs with applied discarded
    · rw [Bool.and_eq_true, bne_iff_ne] at applied
      exact commit_tame reached.steady isIntended (active applied.1 applied.2)
    · simp only [Bool.and_eq_true] at discarded
      refine bind_journalGet! reached.steady ?_
      intro current found
      have isId := handoffId_of_get found
      rw [← isId] at isIntended gone
      exact abort_discarded_tame reached.steady isIntended (gone discarded.1.1.2)
    · exact moveUncertain_tame reached.steady isIntended

end

theorem certificate_stops {data : SourceData} (proved : data.view.proved)
    (proof : Option SourceStopProof) (time : Int) : ((data.certificates handoffId).getD
      (sourceCertificate setting record proof time)).sourceStopped = true := by
  cases found : data.certificates handoffId with
  | none => rfl
  | some certificate => exact proved handoffId certificate found

theorem intend_tame (steady : Steady here)
    (found : here.shared.view.handoff handoffId = some record.handoff)
    (phase : record.phase = .acked ∨ record.phase = .uncertain)
    (fence : here.shared.view.fence = some handoffId)
    (stopped : here.shared.view.stopped handoffId = true) :
    Tame here (intend setting handoffId record) := by
  refine Runs.bind_inspect ?_
  dsimp only
  rw [stopProved_eq steady.sound.proved, stopped, if_pos rfl]
  refine Runs.bind (Runs.pure (Runs.bind_inspect (Runs.bind_inspect ?_)))
  have certified : ∀ certificate : HostTransferCertificate, certificate.sourceStopped = true →
      (putCertificate here.shared handoffId certificate).view = here.shared.view := by
    intro certificate stops
    rw [view_putCertificate steady.sound.proved stops]
    exact SourceView.stop_of_stopped stopped
  refine bind_update steady ?_ ?_
  · rintro changed ⟨⟩ _
    exact step_of_same steady (certified _ (certificate_stops steady.sound.proved _ _))
  rintro changed ⟨⟩ step
  refine bind_moveAs step.steady ?_ ?_
  · intro current foundCurrent
    have same : current.handoff = record.handoff :=
      some.inj ((view_handoff foundCurrent).symm.trans found)
    have foundView : here.shared.view.handoff handoffId = some current.handoff := by
      rw [same]
      exact found
    have isPhase : current.handoff.phase = .acked ∨ current.handoff.phase = .uncertain := by
      rw [same]
      exact phase
    dsimp only
    rw [certified _ (certificate_stops steady.sound.proved _ _)]
    exact .intend steady.sound steady.durable foundView isPhase fence stopped _ rfl
  · intro current changed _ moves isRecord _
    exact sendActivate_tame moves.steady isRecord rfl

theorem activateLocked_tame (steady : Steady here) :
    Tame here (activateLocked setting handoffId) := by
  refine bind_journalGet (fun _ => pure steady) ?_
  intro record found
  dsimp only
  split
  · exact pure steady
  rename_i phase
  have phase : record.phase = .acked ∨ record.phase = .uncertain := by
    by_contra neither
    rw [not_or] at neither
    exact phase (by simp [neither])
  have isId := handoffId_of_get found
  refine bind_readMesh steady ?_
  intro world grows readable steady
  have foundView := view_handoff found
  have stopped : here.shared.view.stopped handoffId = true := by
    refine steady.sound.stopped foundView ?_
    rcases phase with acked | uncertain
    · exact .inl (by simp [handoff, acked, exportBegun])
    · refine .inr (steady.sound.intended foundView ?_ ?_) <;>
        simp [handoff, uncertain, beforeIntent]
  split
  · refine abortInternal_tame steady (by simp) (.inl ?_)
    rw [isId]
    refine settled_of_phase found ?_
    rcases phase with phase | phase <;> simp [phase, stopping]
  refine bind_update steady ?_ ?_
  · intro changed result _
    obtain ⟨free, isView⟩ := view_setFence_some result
    exact step_of_change (isView ▸ .raise steady.sound steady.durable free)
  intro changed result step
  obtain ⟨_, isView⟩ := view_setFence_some result
  refine intend_tame step.steady ?_ phase ?_ ?_
  · rw [isView]
    exact foundView
  · rw [isView]
    rfl
  · rw [isView]
    exact stopped

theorem activate_tame (steady : Steady here) (owned : here.owned = []) :
    Tame here (activate setting handoffId) := by
  refine settled (bind_holds (fun _ => pure steady) ?_)
  intro absent
  refine locked (fun _ => absent) (by simp [owned]) ?_
  exact activateLocked_tame ⟨steady.sound, steady.durable⟩

/-! ## ACK -/

theorem onAck_tame {ack : HandoffAck} {sender : DaemonId} (steady : Steady here)
    (staged : (here.world sender).Staged ack.handoffId ack.manifestDigest) :
    Tame here (onAck setting ack sender) := by
  refine bind_journalGet (fun _ => pure steady) ?_
  intro record found
  dsimp only
  split
  · exact pure steady
  rename_i matching
  have isPeer : record.peerDaemonId = sender := by
    by_contra differs
    exact matching (by simp [differs])
  have foundView := view_handoff found
  have isId := handoffId_of_get found
  cases phase : record.phase with
  | acked | activating | uncertain | committed =>
    dsimp only
    split <;> exact pure steady
  | preflight | freezing | frozen | exporting | exported | aborted => exact pure steady
  | awaitingAck =>
    dsimp only
    split
    · refine bind (abortInternal_tame steady (by simp)
        (.inl ?_)) fun _ _ reached => pure reached.steady
      rw [isId]
      exact settled_of_phase found (by simp [phase, stopping])
    rename_i agrees
    have digest : record.manifestDigest = some ack.manifestDigest := by
      by_contra differs
      exact agrees (by simp [ackDiffers, Ne.symm differs])
    refine bind_moveAs steady ?_ ?_
    · intro same found'
      obtain rfl := mem_unique found found'
      refine .forward steady.sound steady.durable foundView _ rfl rfl rfl rfl ?_ ?_
        (fun _ _ digest => digest) ?_ ?_ ?_ ?_
      · simp [handoff, phase, beforeIntent]
      · exact fun _ => steady.sound.stopped foundView (.inl (by simp [handoff, phase, exportBegun]))
      · intro _
        simp [moved, handoff, digest, digested]
      · refine fun _ _ => ⟨ack.manifestDigest, digest, ?_⟩
        simp only [moved, handoff, id_eq, isPeer]
        exact staged
      · intro isOrderly isCareful stopped open_
        exact (steady.durable isOrderly isCareful foundView stopped open_).2
      · simp [handoff, phase, stopping]
    intro same changed _ step _ _
    refine bind (spawn (activate_tame ⟨step.sound, step.durable⟩ rfl)) ?_
    exact fun _ _ reached => pure reached.steady

theorem serveAck_tame {ack : HandoffAck} {sender : DaemonId} (steady : Steady here)
    (staged : (here.world sender).Staged ack.handoffId ack.manifestDigest) :
    Tame here (serveAck setting ack sender) := by
  refine bind (onAck_tame steady staged) ?_
  exact fun _ _ reached => store_tame reached.steady fun _ => rfl

/-! ## Owner commands -/

theorem intended_of_phase (steady : Steady here) (found : here.shared.get handoffId = some record)
    (phase : record.phase = .activating ∨ record.phase = .uncertain) :
    Intended here.shared handoffId record.peerDaemonId := by
  refine ⟨record, found, rfl, steady.sound.intended (view_handoff found) ?_ ?_⟩ <;>
    rcases phase with phase | phase <;>
    simp [handoff, phase, beforeIntent]

theorem verifyRecoveredSourceStop_tame (steady : Steady here)
    (intended : Intended here.shared record.handoffId peer) :
    Tame here (verifyRecoveredSourceStop record) := by
  obtain ⟨current, found, _, isIntended⟩ := intended
  have stopped := steady.sound.stopped (view_handoff found) (.inr isIntended)
  refine settled (bind_inspect ?_)
  rw [stopProved_eq steady.sound.proved, stopped, if_pos rfl]
  exact pure steady

theorem status_known (steady : Steady here) :
    Runs here (Async.tryCatch (do return some (← rpc peer (.status handoffId))) fun _ => pure none)
      fun result there => After here there ∧ ∀ status, result = .ok (some status) →
        (there.world peer).Truthful (.status handoffId) status :=
  attempt_known steady nofun

theorem phase_of_confirms {phase : TargetPhase} {status : PeerResult}
    (confirmed : confirms phase status record = true) : status.phase = some phase := by
  simp only [confirms, Bool.and_eq_true, beq_iff_eq] at confirmed
  exact confirmed.1.1.2

theorem abort_tame (steady : Steady here) : Tame here (abort handoffId) := by
  refine bind_journalGet (fun _ => pure steady) ?_
  intro record found
  have isId := handoffId_of_get found
  subst isId
  dsimp only
  refine bind_inspect (bind_inspect ?_)
  split
  · exact pure steady
  rename_i free
  have idle : .busy record.handoffId ∉ here.locks := by
    intro busy
    exact free (by simp [busy])
  have recovers : ∀ phase, record.phase = phase → phase = .activating ∨ phase = .uncertain →
      Tame here (do
        if ← verifyRecoveredSourceStop record then
          let status ← Async.tryCatch
            (do return some (← rpc record.peerDaemonId (.status record.handoffId)))
            fun _ => pure none
          if status.any (confirms .active · record) then
            commit record.handoffId
            pure (OwnerResult.refused .alreadyCommitted)
          else if status.any (confirms .discarded · record) then
            abortInternal record .ownerAbort true
            pure (.ok none)
          else pure (.refused .abortRequiresTargetConfirmation)
        else pure (.refused .coordinatorNotQuiescent)) := by
    rintro phase rfl isPhase
    have intended := intended_of_phase steady found isPhase
    refine bind (verifyRecoveredSourceStop_tame steady intended) ?_
    intro proved there reached
    have intended := intended.later reached.base
    split
    · refine bind_known (status_known reached.steady) ?_
      intro status there reached' truthful
      have intended := intended.later reached'.base
      split_ifs with active gone
      · obtain ⟨answer, rfl, confirmed⟩ := (any_eq_true _ _).mp active
        refine bind (commit_tame reached'.steady intended ?_) ?_
        · exact (truthful answer rfl).1 (phase_of_confirms confirmed)
        · exact fun _ _ reached => pure reached.steady
      · obtain ⟨answer, rfl, confirmed⟩ := (any_eq_true _ _).mp gone
        refine bind (abort_discarded_tame reached'.steady intended ?_) ?_
        · exact (truthful answer rfl).2 (phase_of_confirms confirmed)
        · exact fun _ _ reached => pure reached.steady
      · exact pure reached'.steady
    · exact pure reached.steady
  cases phase : record.phase with
  | committed | aborted => exact pure steady
  | activating => exact recovers _ phase (.inl rfl)
  | uncertain => exact recovers _ phase (.inr rfl)
  | preflight | freezing | frozen | exporting | exported | awaitingAck | acked =>
    refine bind (abortInternal_tame steady (by simp) (.inr (.inr (.inl idle)))) ?_
    exact fun _ _ reached => pure reached.steady

theorem probeAnswered_tame {status : PeerResult} (steady : Steady here) (owned : here.owned = [])
    (intended : Intended here.shared record.handoffId record.peerDaemonId)
    (truthful : (here.world record.peerDaemonId).Truthful (.status record.handoffId) status) :
    Tame here (probeAnswered setting record status) := by
  unfold probeAnswered
  dsimp only
  split_ifs with failed active gone unknown activating
  · exact pure steady
  · refine bind (commit_tame steady intended (truthful.1 (phase_of_confirms active))) ?_
    exact fun _ _ reached => pure reached.steady
  · refine bind_journalGet! steady ?_
    intro current found
    have isId := handoffId_of_get found
    have gone := truthful.2 (phase_of_confirms gone)
    rw [← isId] at intended gone
    refine bind (abort_discarded_tame steady intended gone) ?_
    exact fun _ _ reached => pure reached.steady
  · exact pure steady
  · refine bind (intended_settle steady intended fun _ => rfl) ?_
    intro _ there reached
    refine bind (activate_tame reached.steady (reached.owned.trans owned)) ?_
    intro _ there reached
    exact bind_journalGet! reached.steady fun _ _ => pure reached.steady
  refine bind (activate_tame steady owned) ?_
  intro _ there reached
  exact bind_journalGet! reached.steady fun _ _ => pure reached.steady

theorem probe_tame {force : Bool} (steady : Steady here) (owned : here.owned = []) :
    Tame here (probe setting handoffId force) := by
  refine settled (bind_journalGet (fun _ => pure steady) ?_)
  intro record found
  have isId := handoffId_of_get found
  subst isId
  dsimp only
  split
  · exact pure steady
  rename_i phase
  have intended := intended_of_phase steady found (by
    by_contra neither
    rw [not_or] at neither
    exact phase (by simp [neither]))
  refine bind (verifyRecoveredSourceStop_tame steady intended) ?_
  intro proved there reached
  split
  · exact pure reached.steady
  refine bind_inspect ?_
  split
  · exact pure reached.steady
  refine bind (journalUpdate_tame reached.steady fun _ => rfl) ?_
  intro _ there reached'
  refine bind_known (status_known reached'.steady) ?_
  intro status there reached'' truthful
  have later := (reached.trans reached').trans reached''
  cases status with
  | none => exact pure later.steady
  | some status =>
    exact probeAnswered_tame later.steady (later.owned.trans owned)
      (intended.later later.base) (truthful status rfl)

/-! ## Tick and resume -/

theorem others_tame (here : Moment (sourceDiscipline orderly careful)) : Tame here others :=
  Tame.bind Tame.wait fun answer _ reached => ofPort_tame reached.steady answer

structure Listed (orderly : Prop) (data : SourceData) (record : SourceRecord) : Prop where
  intended : record.phase = .activating ∨ record.phase = .uncertain →
    Intended data record.handoffId record.peerDaemonId
  digested : record.phase = .awaitingAck → Digested orderly data record.handoffId

theorem Listed.later {data later : SourceData} (grown : data.view.Grown orderly later.view)
    (listed : Listed orderly data record) : Listed orderly later record :=
  ⟨fun phase => (listed.intended phase).later grown,
    fun phase => (listed.digested phase).later grown⟩

theorem listed_of_mem (steady : Steady here) (member : record ∈ here.shared.journal.entries) :
    Listed orderly here.shared record := by
  have found := get_of_mem member
  refine ⟨intended_of_phase steady found, ?_⟩
  intro phase isOrderly
  have agrees := (steady.sound.ordered isOrderly).digestPhase (view_handoff found)
  simp only [handoff, phase] at agrees
  exact ⟨record, found, agrees rfl⟩

theorem tickRecord_tame {time : Int} (owned : here.owned = [])
    (listed : Listed orderly here.shared record) : Tame here (tickRecord setting time record) := by
  refine bind (others_tame here) ?_
  intro _ there reached
  have steady := reached.steady
  have owned := reached.owned.trans owned
  have listed := listed.later reached.base
  have probes : Tame there (do let _ ← probe setting record.handoffId false) :=
    bind (probe_tame steady owned) fun _ _ reached => pure reached.steady
  cases phase : record.phase with
  | freezing | frozen => exact advance_tame steady (by simp [owned])
  | awaitingAck =>
    refine bind_inspect ?_
    split
    · exact abortInternal_tame steady (by simp)
        (.inl (settled_of_digested steady (listed.digested phase)))
    · exact pure steady
  | uncertain => exact probes
  | activating =>
    refine bind_inspect ?_
    split
    · exact probes
    · exact pure steady
  | preflight | exporting | exported | acked | committed | aborted => exact pure steady

theorem resumeRecord_tame (owned : here.owned = [])
    (listed : Listed orderly here.shared record) : Tame here (resumeRecord setting record) := by
  refine bind (others_tame here) ?_
  intro _ there reached
  have steady := reached.steady
  have owned := reached.owned.trans owned
  have listed := listed.later reached.base
  have probes : ∀ {later : Moment (sourceDiscipline orderly careful)}, After there later →
      Tame later (do let _ ← probe setting record.handoffId true) := by
    intro later reached
    refine bind (probe_tame reached.steady (reached.owned.trans owned)) ?_
    exact fun _ _ reached => pure reached.steady
  cases phase : record.phase with
  | committed | aborted => exact pure steady
  | frozen => exact advance_tame steady (by simp [owned])
  | acked => exact activate_tame steady owned
  | activating =>
    refine bind (intended_settle steady (listed.intended (.inl phase)) fun _ => rfl) ?_
    exact fun _ _ reached => probes reached
  | uncertain => exact probes (.refl steady)
  | preflight | freezing | exporting | exported | awaitingAck =>
    exact abortInternal_tame steady nofun (.inr (.inr (.inr rfl)))

theorem each_listed_tame {body : SourceRecord → SourceM Unit} (steady : Steady here)
    (owned : here.owned = [])
    (round : ∀ record (there : Moment (sourceDiscipline orderly careful)), there.owned = [] →
      Listed orderly there.shared record → Tame there (body record)) :
    Tame here (Async.each here.shared.journal.entries body) := by
  refine Runs.each (fun rest there => After here there ∧
    ∀ record ∈ rest, Listed orderly there.shared record) ?_ (fun _ ready => ready.1) _
    ⟨.refl steady, fun record member => listed_of_mem steady member⟩
  intro record rest there ready
  obtain ⟨reached, listed⟩ := ready
  refine (round record there (reached.owned.trans owned)
    (listed record List.mem_cons_self)).weaken ?_
  intro result later reached'
  cases result with
  | ok _ =>
    refine ⟨reached.trans reached', ?_⟩
    exact fun other member => (listed other (.tail _ member)).later reached'.base
  | error fault => exact reached.trans reached'

theorem tick_tame (steady : Steady here) (owned : here.owned = []) : Tame here (tick setting) :=
  bind_inspect (bind_inspect (each_listed_tame steady owned
    fun _ _ owned listed => tickRecord_tame owned listed))

theorem resume_tame (steady : Steady here) (owned : here.owned = []) : Tame here (resume setting) :=
  bind_inspect (each_listed_tame steady owned
    fun _ _ owned listed => resumeRecord_tame owned listed)

/-! ## Retry -/

theorem not_matters_of_digested {data : SourceData} (digested : Digested orderly data handoffId) :
    ¬ data.view.Matters orderly (.busy handoffId) := by
  rintro ⟨isOrderly, undigested⟩
  obtain ⟨record, found, isSome⟩ := digested isOrderly
  have none : record.manifestDigest = none := undigested _ (view_handoff found)
  rw [none] at isSome
  cases isSome

theorem runs_release_busy (digested : Digested orderly here.shared handoffId)
    (owned : here.owned ⊆ [.busy handoffId])
    {Post : Except Fault Unit → Moment (sourceDiscipline orderly careful) → Prop}
    (post : ∀ locks, Post (.ok ()) { here with owned := [], locks }) :
    Runs here (Async.release (.busy handoffId)) Post := by
  refine Runs.release (.inr (not_matters_of_digested digested)) ?_
  have nothing : here.owned.filter (· ≠ .busy handoffId) = [] := by
    rw [List.filter_eq_nil_iff]
    intro lock member
    simp [List.mem_singleton.mp (owned member)]
  rw [nothing]
  exact post _

theorem retryTransfer_tame (steady : Steady here) (owned : here.owned = [])
    (digested : Digested orderly here.shared record.handoffId)
    (idle : .busy record.handoffId ∉ here.locks) : Tame here (retryTransfer setting record) := by
  refine Runs.bind_acquire (fun _ => idle) (Runs.bind (Runs.ensuring ?_))
  have body : Runs { here with
      owned := here.owned.insert (.busy record.handoffId)
      locks := here.locks.insert (.busy record.handoffId) }
      (transferAgain setting record)
      fun _ there => there.owned ⊆ [.busy record.handoffId] ∧
        After here { there with owned := [] } := by
    refine Runs.bind (Runs.weaken (transfer_tame ⟨steady.sound, steady.durable⟩) ?_)
    intro result there reached
    have isOwned : there.owned ⊆ [.busy record.handoffId] := by
      rw [reached.owned, owned]
      simp
    have later : After here { there with owned := [] } :=
      ⟨owned.symm, reached.grows, reached.base, ⟨reached.steady.sound, reached.steady.durable⟩⟩
    have digested := digested.later reached.base
    cases result with
    | error fault => exact ⟨isOwned, later⟩
    | ok refused =>
      cases refused with
      | none => exact Runs.pure ⟨isOwned, later⟩
      | some reason =>
        refine Runs.bind (runs_release_busy digested isOwned fun locks => ?_)
        have steady : Steady { there with owned := [], locks } :=
          ⟨later.steady.sound, later.steady.durable⟩
        refine Runs.bind (Runs.weaken (abortInternal_tame steady nofun
          (.inl (settled_of_digested steady digested))) ?_)
        intro result last reached'
        have ended : last.owned ⊆ [.busy record.handoffId] ∧
            After here { last with owned := [] } := by
          refine ⟨by rw [reached'.owned]; simp, owned.symm, ?_, ?_, ?_⟩
          · exact (sourceDiscipline orderly careful).grows_trans later.grows reached'.grows
          · exact (sourceDiscipline orderly careful).base_trans later.base reached'.base
          · exact ⟨reached'.steady.sound, reached'.steady.durable⟩
        cases result with
        | ok _ => exact Runs.pure ended
        | error fault => exact ended
  refine body.weaken ?_
  intro result there ⟨isOwned, reached⟩
  have digested : Digested orderly there.shared record.handoffId := digested.later reached.base
  refine runs_release_busy digested isOwned fun locks => ?_
  have reached : After here { there with owned := [], locks } :=
    ⟨reached.owned, reached.grows, reached.base, ⟨reached.steady.sound, reached.steady.durable⟩⟩
  cases result with
  | error fault => exact reached
  | ok failed =>
    refine from_after reached ?_
    cases failed with
    | some reason => exact pure reached.steady
    | none =>
      refine bind_inspect (bind (touch_tame reached.steady _) ?_)
      exact fun _ _ reached => pure reached.steady

theorem retry_tame (steady : Steady here) (owned : here.owned = []) :
    Tame here (retry setting handoffId) := by
  refine bind_journalGet (fun _ => pure steady) ?_
  intro record found
  have isId := handoffId_of_get found
  subst isId
  have listed := listed_of_mem steady (KeyedMap.mem_of_lookup found)
  have phaseAfter : ∀ {code : SourceM Unit}, Tame here code → Tame here (do
      code
      pure (OwnerResult.ok (some (← journalGet! record.handoffId).phase))) := by
    intro code tame
    refine bind tame ?_
    intro _ there reached
    exact bind_journalGet! reached.steady fun _ _ => pure reached.steady
  dsimp only
  cases phase : record.phase with
  | awaitingAck =>
    refine bind_holds (fun _ => pure steady) ?_
    exact fun idle => retryTransfer_tame steady owned (listed.digested phase) idle
  | acked => exact phaseAfter (activate_tame steady owned)
  | uncertain | activating => exact probe_tame steady owned
  | freezing | frozen => exact phaseAfter (advance_tame steady (by simp [owned]))
  | preflight | exporting | exported | committed | aborted => exact pure steady

end Adhdev.HostHandoff.Source
