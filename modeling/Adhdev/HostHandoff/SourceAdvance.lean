import Adhdev.HostHandoff.SourceSafety

/-! # Starting and advancing a handoff keeps the invariant -/

namespace Adhdev.HostHandoff.Source

open Discipline List Option Bool SourceData Tame SourceRecord SourcePhase

variable {orderly careful : Prop} {here there : Moment (sourceDiscipline orderly careful)}
variable {setting : Setting} {handoffId : HandoffId} {record : SourceRecord}

/-! ## Advance -/

theorem sendChunk_tame (steady : Steady here) (contents seq : Nat) (attempts : Nat) :
    Tame here (sendChunk record contents seq attempts) := by
  induction attempts generalizing here with
  | zero => exact throw steady
  | succ attempts induction =>
    refine tryCatch ?_ ?_
    · refine bind (rpc_tame steady fun _ _ _ same => by cases same) ?_
      exact fun _ _ reached => pure reached.steady
    intro fault there reached
    split
    · exact throw reached.steady
    · exact induction reached.steady

theorem touch_tame (steady : Steady here) (time : Int) :
    Tame here (journalUpdate handoffId fun record => { record with updatedAt := time }) :=
  journalUpdate_tame steady fun _ => rfl

theorem sendChunks_tame (steady : Steady here) (contents : Nat) (seqs : List Nat) :
    Tame here (sendChunks record contents seqs) := by
  induction seqs generalizing here with
  | nil => exact pure steady
  | cons seq rest induction =>
    refine bind (sendChunk_tame steady contents seq chunkAttempts) ?_
    intro refused there reached
    refine bind_inspect (bind (touch_tame reached.steady _) ?_)
    intro _ there reached
    cases refused with
    | some reason => exact pure reached.steady
    | none => exact induction reached.steady

theorem runs_exportSnapshot (steady : Steady here)
    {Post : Except Fault HandoffManifest → Moment (sourceDiscipline orderly careful) → Prop}
    (exported : ∀ there manifest, After here there → there.locks = here.locks →
      manifest.contents = there.shared.contents →
      there.shared.get record.handoffId = here.shared.get record.handoffId →
      Post (.ok manifest) there)
    (failed : ∀ fault there, After here there → Post (.error fault) there) :
    Runs here (exportSnapshot setting record) Post := by
  refine Runs.bind (Runs.ask ?_)
  intro world grows answer _
  have reached : After here { here with world } := .of_grows steady grows
  cases answer with
  | error fault => exact Runs.bind (Runs.throw (failed fault _ reached))
  | ok tables =>
    refine Runs.bind (Runs.pure (Runs.bind_inspect (Runs.bind (Runs.update ?_ ?_))))
    · rintro changed ⟨⟩ _
      have step : Step { here with world } (here.shared.setSnapshot record.handoffId
          (some (exportedManifest setting record here.shared tables))) :=
        step_of_same reached.steady rfl
      refine ⟨step, Runs.pure (exported _ _ (reached.trans (.of_step step)) rfl rfl rfl)⟩
    · rintro fault ⟨⟩

theorem exportSnapshot_tame (steady : Steady here) : Tame here (exportSnapshot setting record) :=
  runs_exportSnapshot steady (fun _ _ reached _ _ _ => reached) fun _ _ reached => reached

theorem transferSend_tame (steady : Steady here) (record : SourceRecord)
    (snapshot : HandoffManifest) : Tame here (transferSend record snapshot) := by
  refine tryCatch ?_ fun _ _ reached => pure reached.steady
  refine bind (rpc_tame steady fun _ _ _ same => by cases same) ?_
  intro answer there reached
  split
  · exact pure reached.steady
  refine bind (sendChunks_tame reached.steady _ _) ?_
  intro refused there reached
  cases refused with
  | some reason => exact pure reached.steady
  | none =>
    refine bind (rpc_tame reached.steady fun _ _ _ same => by cases same) ?_
    intro isSealed there reached
    split
    · exact pure reached.steady
    · refine bind_inspect (bind (touch_tame reached.steady _) ?_)
      exact fun _ _ reached => pure reached.steady

theorem transfer_tame (steady : Steady here) : Tame here (transfer setting record) := by
  refine settled (bind_inspect ?_)
  split
  · exact transferSend_tame steady record _
  refine bind_readMesh steady ?_
  intro world grows readable steady
  split
  · refine bind (exportSnapshot_tame steady) ?_
    exact fun manifest _ reached => transferSend_tame reached.steady record manifest
  · exact pure steady

structure Advancing (here : Moment (sourceDiscipline orderly careful)) (record : SourceRecord)
    (phase : SourcePhase) : Prop where
  steady : Steady here
  found : here.shared.get record.handoffId = some record
  phase : record.phase = phase
  busy : .busy record.handoffId ∈ here.owned

namespace Advancing

variable {phase : SourcePhase}

theorem undigested (advancing : Advancing here record phase) (isOrderly : orderly)
    (early : phase.beforeIntent = true) : record.manifestDigest.isSome = phase.digested := by
  have agrees := (advancing.steady.sound.ordered isOrderly).digestPhase
    (view_handoff advancing.found)
  simp only [handoff, advancing.phase] at agrees
  exact agrees early

theorem abort_tame (steady : Steady here) (busy : .busy record.handoffId ∈ here.owned)
    (reason : AbortReason) : Tame here (abortInternal record reason false) :=
  abortInternal_tame steady (by simp) (.inr (.inl busy))

end Advancing

theorem advanceExported_tame (advancing : Advancing here record .exported) :
    Tame here (advanceExported setting record) := by
  have found := view_handoff advancing.found
  have stopped := advancing.steady.sound.stopped found (.inl (by
    simp [handoff, advancing.phase, exportBegun]))
  refine bind_moveAs advancing.steady ?_ ?_
  · intro same found'
    obtain rfl := mem_unique advancing.found found'
    refine .forward advancing.steady.sound advancing.steady.durable found _ rfl rfl rfl rfl ?_
      (fun _ => stopped) (fun _ _ digest => digest)
      (fun isOrderly => advancing.undigested isOrderly rfl) (fun _ acked => by cases acked) ?_
      (fun _ _ => advancing.busy)
    · simp [handoff, advancing.phase, beforeIntent]
    · intro isOrderly isCareful stopped open_
      exact (advancing.steady.durable isOrderly isCareful found stopped open_).2
  intro same changed found' step isRecord _
  refine bind (transfer_tame step.steady) ?_
  intro refused there reached
  cases refused with
  | none => exact pure reached.steady
  | some reason =>
    refine bind_journalGet! reached.steady ?_
    intro current found
    refine Advancing.abort_tame reached.steady ?_ reason
    rw [handoffId_of_get found, reached.owned]
    exact advancing.busy

theorem advanceExporting_tame (advancing : Advancing here record .exporting) :
    Tame here (advanceExporting setting record) := by
  refine bind_readMesh advancing.steady ?_
  intro world grows readable steady
  split
  · have exported : Runs { here with world } (Async.tryCatch
        (do
          let manifest ← exportSnapshot setting record
          let next ← move record.handoffId .exported fun record => { record with
            manifestDigest := some manifest, rowCounts := some manifest.rowCounts }
          pure (some next))
        fun _ => do
          abortInternal record .exportFailed false
          pure none) fun result there => After { here with world } there ∧
            ∀ next, result = .ok (some next) → Advancing there next .exported := by
      have aborts : ∀ there, After { here with world } there → Runs there
          (abortInternal record .exportFailed false >>= fun _ => pure none)
          fun result later => After { here with world } later ∧
            ∀ next, result = .ok (some next) → Advancing later next .exported := by
        intro there reached
        refine Runs.bind ((Advancing.abort_tame reached.steady ?_ _).weaken ?_)
        · rw [reached.owned]
          exact advancing.busy
        intro result later reached'
        cases result with
        | ok _ => exact Runs.pure ⟨reached.trans reached', fun _ same => by cases same⟩
        | error _ => exact ⟨reached.trans reached', fun _ same => by cases same⟩
      refine Runs.tryCatch (Runs.bind (runs_exportSnapshot steady ?_ ?_))
      · intro there manifest reached locks contents same
        have found := same.trans advancing.found
        have foundView := view_handoff found
        have stopped := reached.steady.sound.stopped foundView (.inl (by
          simp [handoff, advancing.phase, exportBegun]))
        refine Runs.bind (runs_moveAs ?_ ?_ ?_)
        · intro current changed found' isView
          obtain rfl := mem_unique found found'
          refine step_of_change (isView ▸ .forward reached.steady.sound reached.steady.durable
            foundView _ rfl rfl rfl rfl ?_ (fun _ => stopped) ?_ (fun _ => rfl)
            (fun _ acked => by cases acked) ?_ ?_)
          · simp [handoff, advancing.phase, beforeIntent]
          · intro isOrderly was digest
            have none := advancing.undigested isOrderly rfl
            simp only [handoff] at digest
            rw [digest] at none
            cases none
          · rintro _ _ _ _ _ ⟨⟩
            exact contents
          · intro _ _
            rw [reached.owned]
            exact advancing.busy
        · intro current changed _ step isRecord _
          refine Runs.pure ⟨reached.trans (.of_step step), ?_⟩
          rintro next ⟨⟩
          refine ⟨step.steady, isRecord, rfl, ?_⟩
          rw [reached.owned]
          exact advancing.busy
        intro none
        rw [found] at none
        cases none
      · exact fun _ there reached => aborts there reached
    refine bind_known exported ?_
    intro next there reached known
    cases next with
    | none => exact pure reached.steady
    | some next => exact advanceExported_tame (known next rfl)
  · exact Advancing.abort_tame steady advancing.busy _

theorem move_exporting_tame (steady : Steady here) {current : SourceRecord}
    (found : here.shared.get record.handoffId = some current)
    (frozen : orderly → current.phase = .frozen)
    (stopped : here.shared.view.stopped record.handoffId = true)
    (busy : .busy record.handoffId ∈ here.owned) :
    Tame here (do advanceExporting setting (← move record.handoffId .exporting)) := by
  have foundView := view_handoff found
  refine bind_moveAs steady ?_ ?_
  · intro same found'
    obtain rfl := mem_unique found found'
    refine .forward steady.sound steady.durable foundView _ rfl rfl rfl rfl ?_ (fun _ => stopped)
      (fun _ _ digest => digest) ?_ nofun ?_ (fun _ _ => busy)
    · intro isOrderly
      simp [handoff, frozen isOrderly, beforeIntent]
    · intro isOrderly
      have agrees := (steady.sound.ordered isOrderly).digestPhase foundView
      simp only [handoff, frozen isOrderly] at agrees
      exact agrees rfl
    · intro isOrderly isCareful stopped open_
      exact (steady.durable isOrderly isCareful foundView stopped open_).2
  · intro same changed _ step isRecord _
    exact advanceExporting_tame ⟨step.steady, isRecord, rfl, busy⟩

theorem certify_tame (steady : Steady here) {current : SourceRecord}
    (found : here.shared.get record.handoffId = some current)
    (frozen : orderly → current.phase = .frozen ∧
      here.shared.view.stopped record.handoffId = false ∧
      here.shared.view.fence = some record.handoffId)
    (busy : .busy record.handoffId ∈ here.owned) (proof : Option SourceStopProof) :
    Tame here (do
      freezeWrites record.handoffId record.epoch
      if record.targetPublicKey.isNone then abortInternal record .certificateUnavailable false
      else
        let certificate := sourceCertificate setting record proof (← now)
        store (·.putCertificate record.handoffId certificate)
        advanceExporting setting (← move record.handoffId .exporting)) := by
  refine bind_update steady ?_ ?_
  · intro changed result _
    obtain ⟨free, isView⟩ := view_freezeWrites result
    exact step_of_change (isView ▸ .freeze steady.sound steady.durable
      (view_handoff found) (fun isOrderly => (frozen isOrderly).1)
      (fun isOrderly => (frozen isOrderly).2.1) free)
  intro changed result step
  obtain ⟨_, isView⟩ := view_freezeWrites result
  split
  · exact Advancing.abort_tame step.steady busy _
  refine bind_inspect ?_
  have foundView : changed.view.handoff record.handoffId = some current.handoff := by
    rw [isView]
    exact view_handoff found
  have fenced : orderly → current.phase = .frozen ∧ changed.view.Fenced record.handoffId := by
    intro isOrderly
    obtain ⟨isFrozen, _, fence⟩ := frozen isOrderly
    rw [isView]
    exact ⟨isFrozen, rfl, .inl fence⟩
  refine bind_update step.steady ?_ ?_
  · rintro certified ⟨⟩ _
    refine step_of_change ?_
    rw [view_putCertificate step.sound.proved rfl]
    exact .stop step.sound step.durable foundView fenced busy
  rintro certified ⟨⟩ certify
  have isView : (putCertificate changed record.handoffId
      (sourceCertificate setting record proof changed.clock)).view =
        changed.view.stop record.handoffId :=
    view_putCertificate step.sound.proved rfl
  obtain ⟨next, foundNext, same⟩ := exists_of_view
    ((congrFun (congrArg SourceView.handoff isView) _).trans foundView)
  refine move_exporting_tame certify.steady foundNext ?_ ?_ busy
  · intro isOrderly
    exact (congrArg Handoff.phase same).trans (fenced isOrderly).1
  show (changed.putCertificate _ _).view.stopped record.handoffId = true
  rw [isView]
  exact Function.update_self ..

theorem busy_later {world world' : (sourceDiscipline orderly careful).World}
    {owned : List SourceLock} {data later : SourceData} {handoff : Handoff}
    (found : data.view.handoff handoffId = some handoff) (stopping : handoff.phase.stopping = true)
    (undigested : orderly → handoff.digest.isSome = false) (busy : .busy handoffId ∈ owned)
    (waited : (sourceDiscipline orderly careful).Later world owned data world' later) :
    ∃ current, later.get handoffId = some current ∧ (orderly →
      current.phase = handoff.phase ∧ later.view.stopped handoffId = data.view.stopped handoffId ∧
      (data.view.fence = some handoffId → later.view.fence = some handoffId)) := by
  obtain ⟨next, foundNext, _⟩ := waited.rely.base.handoff found
  obtain ⟨current, foundCurrent, same⟩ := exists_of_view foundNext
  refine ⟨current, foundCurrent, ?_⟩
  intro isOrderly
  have digest : handoff.digest = none := by
    simpa using undigested isOrderly
  obtain ⟨⟨kept, foundKept, _, phase⟩, stopped, fence⟩ :=
    waited.rely.keeps (.busy handoffId) busy isOrderly handoff found digest stopping
  obtain rfl := mem_unique foundNext foundKept
  exact ⟨(congrArg Handoff.phase same).trans phase, stopped, fence⟩

theorem advanceFrozen_tame (advancing : Advancing here record .frozen) :
    Tame here (advanceFrozen setting record) := by
  refine bind_update advancing.steady ?_ ?_
  · intro changed result _
    obtain ⟨free, isView⟩ := view_setFence_some result
    exact step_of_change (isView ▸ .raise advancing.steady.sound advancing.steady.durable free)
  intro changed result step
  obtain ⟨_, isView⟩ := view_setFence_some result
  have foundView : changed.view.handoff record.handoffId = some record.handoff := by
    rw [isView]
    exact view_handoff advancing.found
  refine bind_inspect ?_
  rw [stopProved_eq step.sound.proved]
  split
  · rename_i stopped
    obtain ⟨current, found, same⟩ := exists_of_view foundView
    refine move_exporting_tame step.steady found (fun _ => ?_) stopped advancing.busy
    exact (congrArg Handoff.phase same).trans advancing.phase
  rename_i running
  refine bind_wait ?_
  intro there owned later answer _
  have busy : .busy record.handoffId ∈ there.owned := by
    rw [owned]
    exact advancing.busy
  have steady : Steady there := ⟨later.sound, later.durable⟩
  cases answer with
  | error fault => exact pure steady
  | ok proof =>
    obtain ⟨current, found, kept⟩ := busy_later foundView
      (by simp [handoff, advancing.phase, stopping])
      (fun isOrderly => advancing.undigested isOrderly rfl) advancing.busy later
    refine certify_tame steady found ?_ busy proof
    intro isOrderly
    obtain ⟨phase, stopped, fence⟩ := kept isOrderly
    refine ⟨phase.trans advancing.phase, stopped.trans (by simpa using running), fence ?_⟩
    rw [isView]
    rfl

theorem advanceFreezing_tame (advancing : Advancing here record .freezing) :
    Tame here (advanceFreezing setting record) := by
  refine bind_wait ?_
  intro there owned later answer _
  have busy : .busy record.handoffId ∈ there.owned := by
    rw [owned]
    exact advancing.busy
  have steady : Steady there := ⟨later.sound, later.durable⟩
  cases answer with
  | error fault => exact Runs.bind (Runs.throw (.refl steady))
  | ok check =>
    refine Runs.bind (Runs.pure ?_)
    cases check with
    | writerCheckpointPending => exact Advancing.abort_tame steady busy _
    | coordinatorNotQuiescent =>
      refine bind_inspect ?_
      split
      · exact Advancing.abort_tame steady busy _
      · exact pure steady
    | ready =>
      obtain ⟨current, found, kept⟩ := busy_later (view_handoff advancing.found)
        (by simp [handoff, advancing.phase, stopping])
        (fun isOrderly => advancing.undigested isOrderly rfl) advancing.busy later
      have foundView := view_handoff found
      refine bind_moveAs steady ?_ ?_
      · intro same found'
        obtain rfl := mem_unique found found'
        refine .forward steady.sound steady.durable foundView _ rfl rfl rfl rfl ?_
          (by rintro ⟨⟩) (fun _ _ digest => digest) ?_
          (fun _ acked => by cases acked) ?_ (fun _ _ => busy)
        · intro isOrderly
          have phase : current.phase = .freezing := (kept isOrderly).1.trans advancing.phase
          simp [handoff, phase, beforeIntent]
        · intro isOrderly
          have phase : current.phase = .freezing := (kept isOrderly).1.trans advancing.phase
          have agrees := (steady.sound.ordered isOrderly).digestPhase foundView
          simp only [handoff, phase] at agrees
          exact agrees rfl
        · intro isOrderly isCareful stopped open_
          exact (steady.durable isOrderly isCareful foundView stopped open_).2
      · intro same changed _ step isRecord _
        exact advanceFrozen_tame ⟨step.steady, isRecord, rfl, busy⟩

theorem advance_tame (steady : Steady here) (free : .busy handoffId ∉ here.owned) :
    Tame here (advance setting handoffId) := by
  refine settled (bind_holds (fun _ => pure steady) ?_)
  intro absent
  refine locked (fun _ => absent) free ?_
  have steady : Steady { here with
      owned := here.owned.insert (.busy handoffId),
        locks := here.locks.insert (.busy handoffId) } :=
    ⟨steady.sound, steady.durable⟩
  refine bind_journalGet (fun _ => pure steady) ?_
  intro record found
  have isId := handoffId_of_get found
  subst isId
  have advancing : ∀ phase, record.phase = phase → Advancing { here with
      owned := here.owned.insert (.busy record.handoffId)
      locks := here.locks.insert (.busy record.handoffId) } record phase :=
    fun phase isPhase => ⟨steady, found, isPhase, mem_insert_self⟩
  dsimp only
  cases phase : record.phase with
  | freezing => exact advanceFreezing_tame (advancing _ phase)
  | frozen => exact advanceFrozen_tame (advancing _ phase)
  | exporting => exact advanceExporting_tame (advancing _ phase)
  | exported => exact advanceExported_tame (advancing _ phase)
  | preflight | awaitingAck | acked | activating | committed | aborted | uncertain =>
    exact pure steady

/-! ## Start -/

variable {data : SourceData}

theorem terminal_of_findActive (idle : data.findActive.isSome = false)
    (found : data.get handoffId = some record) : record.phase.terminal = true := by
  have member := KeyedMap.mem_of_lookup found
  rw [isSome_eq_false_iff, isNone_iff_eq_none, findActive, find?_eq_none] at idle
  simpa using idle record member

variable {input : StartInput}

theorem quiet_of_localChecks (steady : Steady here)
    (passed : localChecks setting input here.shared = none) : here.shared.view.Quiet := by
  unfold localChecks at passed
  split_ifs at passed with notHost self member active
  have role : here.shared.role = .host := by
    simp only [Bool.not_eq_eq_eq_not, Bool.not_true, Bool.and_eq_false_imp, not_forall,
      Bool.and_eq_true, beq_iff_eq] at notHost
    exact notHost.1.1
  refine ⟨role, ?_⟩
  intro handoffId handoff found
  obtain ⟨record, foundRecord, rfl⟩ := exists_of_view found
  have terminal := terminal_of_findActive (by simpa using active) foundRecord
  have phase : record.phase = .committed ∨ record.phase = .aborted := by
    simpa [SourcePhase.terminal] using terminal
  rcases phase with committed | aborted
  · have follows : here.shared.role = .member := (steady.sound.committed found committed).2
    rw [role] at follows
    cases follows
  · exact (steady.sound.aborted found aborted).1

/-- The starting task finds the journal without its id, and still quiet. -/
structure Opening (here : Moment (sourceDiscipline orderly careful)) (handoffId : HandoffId) :
    Prop where
  steady : Steady here
  owned : here.owned = [.starting]
  absent : here.shared.get handoffId = none
  quiet : orderly → here.shared.view.Quiet

theorem absent_of_view (absent : data.view.handoff handoffId = none) :
    data.get handoffId = none := by
  simpa [view] using absent

theorem view_absent (absent : data.get handoffId = none) : data.view.handoff handoffId = none := by
  simp [view, absent]

theorem quiet_later {data later : SourceData} (quiet : data.view.Quiet) (isOrderly : orderly)
    (grown : data.view.Grown orderly later.view)
    (guards : data.view.Guards orderly .starting later.view) : later.view.Quiet := by
  refine ⟨guards.2 isOrderly quiet, ?_⟩
  intro handoffId handoff found
  cases was : data.view.handoff handoffId with
  | none =>
    rw [guards.1 handoffId was] at found
    cases found
  | some before => exact grown.ended (quiet.2 was)

theorem preflight_known (steady : Steady here) (starting : here.owned = [.starting])
    (absent : here.shared.get handoffId = none) :
    Runs here (preflight setting input) fun result there =>
      After here there ∧ ∀ offer, result = .ok (.ok offer) → Opening there handoffId := by
  refine Runs.bind_inspect ?_
  cases checks : localChecks setting input here.shared with
  | some code => exact Runs.pure ⟨.refl steady, nofun⟩
  | none =>
    refine Runs.bind (Runs.ask ?_)
    intro world grows answer _
    have reached : After here { here with world } := .of_grows steady grows
    cases answer with
    | error code => exact Runs.pure ⟨reached, nofun⟩
    | ok launchPlan =>
      refine Runs.bind (Runs.wait ?_)
      intro there owned later answer _
      have reached : After here there := reached.trans (.of_later owned later)
      cases answer with
      | error code => exact Runs.pure ⟨reached, nofun⟩
      | ok targetPublicKey =>
        have guards := later.rely.keeps .starting (by simp [starting])
        refine Runs.pure ⟨reached, fun _ _ => ⟨reached.steady, owned.trans starting, ?_, ?_⟩⟩
        · exact absent_of_view (guards.1 handoffId (view_absent absent))
        · intro isOrderly
          exact quiet_later (quiet_of_localChecks steady checks) isOrderly later.rely.base guards

theorem hold_tame {offer : Offer} (steady : Steady here) (owned : here.owned = [.starting])
    (found : here.shared.get handoffId = some (preflightRecord input handoffId offer data)) :
    Tame here (do
      if ← acquireHold then
        let _ ← move handoffId .freezing
        advance setting handoffId
        pure (StartResult.started handoffId (← journalGet! handoffId).phase)
      else
        let _ ← move handoffId .aborted fun record =>
          { record with abortReason := some .holdFailed }
        pure (StartResult.refused .holdFailed)) := by
  show Tame here (Async.ask SourceQuery.hold >>= _)
  refine bind_ask steady ?_
  intro world grows held _
  have steady : Steady { here with world } := (After.of_grows steady grows).steady
  have foundView := view_handoff found
  split
  · refine bind_moveAs steady ?_ ?_
    · intro same found'
      obtain rfl := mem_unique found found'
      refine .forward steady.sound steady.durable foundView _ rfl rfl rfl rfl (fun _ => rfl)
        (by rintro ⟨⟩) (fun _ _ digest => digest) (fun _ => rfl)
        (by rintro _ ⟨⟩) ?_ (by rintro _ ⟨⟩)
      intro isOrderly isCareful stopped open_
      exact (steady.durable isOrderly isCareful foundView stopped open_).2
    intro same changed _ step isRecord _
    refine bind (advance_tame step.steady (by simp [owned])) ?_
    intro _ there reached
    refine bind_journalGet! reached.steady ?_
    exact fun _ _ => pure reached.steady
  refine bind_moveAs steady ?_ ?_
  · intro same found'
    obtain rfl := mem_unique found found'
    exact abort_change steady.sound (steady.durable.except handoffId) found
      (fun intended => by cases intended) fun _ stopping => by cases stopping
  · intro same changed _ step isRecord _
    exact pure step.steady

theorem startFresh_tame (steady : Steady here) (owned : here.owned = [.starting])
    (absent : here.shared.get handoffId = none) :
    Tame here (startFresh setting input handoffId) := by
  refine bind_known (preflight_known steady owned absent) ?_
  intro result there reached known
  cases result with
  | error code => exact pure reached.steady
  | ok offer =>
    have opening := known offer rfl
    have view_put : (there.shared.put
        (preflightRecord input handoffId offer there.shared)).view =
          there.shared.view.record handoffId
            (preflightRecord input handoffId offer there.shared).handoff :=
      view_put (by simp [preflightRecord])
    refine bind_update reached.steady ?_ ?_
    · rintro changed ⟨⟩ _
      refine step_of_change ?_
      rw [view_put]
      exact .begin opening.steady.sound opening.steady.durable (view_absent opening.absent) rfl
        rfl rfl (by simp [opening.owned]) opening.quiet
    rintro changed ⟨⟩ step
    have found : (there.shared.put (preflightRecord input handoffId offer there.shared)).get
        handoffId = some (preflightRecord input handoffId offer there.shared) :=
      (get_put _ _).trans (if_pos rfl)
    exact hold_tame step.steady opening.owned found

theorem startLocked_tame (steady : Steady here) (owned : here.owned = [.starting]) :
    Tame here (startLocked setting input) := by
  refine bind_inspect ?_
  dsimp only
  cases existing : input.handoffId.bind (get here.shared) with
  | some record =>
    dsimp only
    split <;> exact pure steady
  | none =>
    refine bind_inspect ?_
    split
    · exact pure steady
    cases given : input.handoffId with
    | some handoffId =>
      rw [given, bind_some] at existing
      exact startFresh_tame steady owned existing
    | none =>
      show Tame here (Async.ask SourceQuery.newId >>= startFresh setting input)
      refine bind_ask steady ?_
      intro world grows handoffId absent
      exact startFresh_tame (After.of_grows steady grows).steady owned absent

theorem start_tame (steady : Steady here) (owned : here.owned = []) :
    Tame here (start setting input) := by
  refine bind_holds (fun _ => pure steady) ?_
  intro absent
  refine locked (fun _ => absent) (by simp [owned]) (settled ?_)
  refine startLocked_tame ⟨steady.sound, steady.durable⟩ ?_
  simp [owned]

end Adhdev.HostHandoff.Source
