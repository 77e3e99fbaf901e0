import Adhdev.HostHandoff.SourceMachine

/-! # What the source's store says about its handoffs

The invariants of the protocol read less than the source stores. This is what
they read, and what each change of the store does to it. -/

namespace Adhdev.HostHandoff

structure Handoff where
  peer : DaemonId
  epoch : Int
  phase : SourcePhase
  intended : Bool
  digest : Option HandoffManifest

def SourceRecord.handoff (record : SourceRecord) : Handoff where
  peer := record.peerDaemonId
  epoch := record.epoch
  phase := record.phase
  intended := record.commitIntentAt.isSome
  digest := record.manifestDigest

/-- `stopped` says that the source's stop certificate is journalled, `proved` that
every such certificate states the stop, `ended` that the journal has said
`aborted`, and `cut` who holds the write fence. -/
structure SourceView where
  role : HostRole
  handedTo : Option HandoffId
  fence : Option HandoffId
  cut : Option HandoffId
  history : Bool
  stopped : HandoffId → Bool
  proved : Prop
  contents : Nat
  sent : List (DaemonId × Request)
  ended : HandoffId → Prop
  handoff : HandoffId → Option Handoff

namespace SourceView

def record (view : SourceView) (handoffId : HandoffId) (handoff : Handoff) : SourceView :=
  { view with
    handoff := Function.update view.handoff handoffId (some handoff)
    ended := fun other => view.ended other ∨ other = handoffId ∧ handoff.phase = .aborted }

def raise (view : SourceView) (handoffId : HandoffId) : SourceView :=
  { view with fence := some handoffId }

/-- Clear the fence. A host that has handed off keeps its history fenced. -/
def drop (view : SourceView) (handoffId : HandoffId) : SourceView :=
  { view with
    fence := none
    cut := if view.role = .member ∧ view.handedTo = some handoffId then view.cut else none
    history := if view.role = .member ∧ view.handedTo = some handoffId then view.cut.isSome
      else false }

def freeze (view : SourceView) (handoffId : HandoffId) : SourceView :=
  { view with cut := some handoffId, history := false }

def stop (view : SourceView) (handoffId : HandoffId) : SourceView :=
  { view with stopped := Function.update view.stopped handoffId true }

def follow (view : SourceView) (handoffId : HandoffId) : SourceView :=
  { view with role := .member, handedTo := some handoffId }

def sends (view : SourceView) (peer : DaemonId) (request : Request) : SourceView :=
  { view with sent := view.sent ++ [(peer, request)] }

end SourceView

namespace SourceData

def view (data : SourceData) : SourceView where
  role := data.role
  handedTo := data.handedOffTo.map (·.handoffId)
  fence := data.handoffFence.map (·.handoffId)
  cut := data.writeFence.map (·.handoffId)
  history := data.writeFence.any (·.history)
  stopped handoffId := (data.certificates handoffId).isSome
  proved := ∀ handoffId certificate, data.certificates handoffId = some certificate →
    certificate.sourceStopped = true
  contents := data.contents
  sent := data.outbox
  ended handoffId := ∃ phase, (handoffId, phase, SourcePhase.aborted) ∈ data.transitions
  handoff handoffId := (data.get handoffId).map (·.handoff)

variable {data changed : SourceData} {handoffId : HandoffId}

theorem get_put (record : SourceRecord) (wanted : HandoffId) : (data.put record).get wanted =
      if record.handoffId = wanted then some record else data.get wanted :=
  KeyedMap.lookup_insertEntry (fun _ _ => Iff.rfl) wanted

variable {record : SourceRecord}

theorem handoffId_of_get (found : data.get handoffId = some record) :
    record.handoffId = handoffId :=
  KeyedMap.label_of_lookup found

theorem get_of_mem (member : record ∈ data.journal.entries) :
    data.get record.handoffId = some record :=
  KeyedMap.lookup_of_mem (fun _ other same => KeyedMap.eq_of_key other member same) member

theorem view_handoff (found : data.get handoffId = some record) :
    data.view.handoff handoffId = some record.handoff := by
  simp [view, found]

theorem exists_of_view {handoff : Handoff} (found : data.view.handoff handoffId = some handoff) :
    ∃ record, data.get handoffId = some record ∧ record.handoff = handoff := by
  simpa [view] using found

theorem handoff_put (data : SourceData) (record : SourceRecord) : (data.put record).view.handoff =
      Function.update data.view.handoff record.handoffId (some record.handoff) := by
  funext wanted
  by_cases same : record.handoffId = wanted
  · subst wanted
    simp [view, get_put]
  · simp [view, get_put, same, Function.update_of_ne (Ne.symm same)]

theorem view_put (running : record.phase ≠ .aborted) :
    (data.put record).view = data.view.record record.handoffId record.handoff := by
  have ended : (data.put record).view.ended =
      (data.view.record record.handoffId record.handoff).ended := by
    funext other
    simp [view, put, SourceView.record, SourceRecord.handoff, running]
  have handoff := handoff_put data record
  simp only [view, put, SourceView.record] at ended handoff ⊢
  rw [ended, handoff]

variable {patch : SourceRecord → SourceRecord}

theorem view_modify (same : ∀ record, (patch record).handoff = record.handoff)
    (result : data.modify handoffId patch = .ok changed) : changed.view = data.view := by
  unfold modify at result
  split at result
  · rename_i record found
    cases result
    have unchanged : ({ patch record with handoffId } : SourceRecord).handoff = record.handoff :=
      same record
    have handoff : (data.put { patch record with handoffId }).view.handoff =
        data.view.handoff := by
      rw [handoff_put, unchanged]
      exact Function.update_eq_self_iff.mpr (view_handoff found).symm
    simp only [view, put] at handoff ⊢
    rw [handoff]
  · cases result

theorem view_move {phase : SourcePhase} (result : data.move handoffId phase patch = .ok changed) :
    ∃ record, data.get handoffId = some record ∧ changed.view = data.view.record handoffId
        ({ patch { record with updatedAt := data.clock } with phase } : SourceRecord).handoff ∧
      changed.get handoffId =
        some { patch { record with updatedAt := data.clock } with handoffId, phase } := by
  unfold move at result
  split at result
  · rename_i record found
    cases result
    refine ⟨record, found, ?_, ?_⟩
    · have handoff := handoff_put data
        { patch { record with updatedAt := data.clock } with handoffId, phase }
      simp only [view, put, SourceView.record] at handoff ⊢
      congr 1
      · funext other
        simp only [List.mem_append, List.mem_singleton, Prod.mk.injEq, SourceRecord.handoff,
          eq_iff_iff]
        constructor
        · rintro ⟨before, logged | ⟨equal, _, isAborted⟩⟩
          · exact .inl ⟨before, logged⟩
          · exact .inr ⟨equal, isAborted.symm⟩
        rintro (⟨before, logged⟩ | ⟨equal, isAborted⟩)
        · exact ⟨before, .inl logged⟩
        · exact ⟨record.phase, .inr ⟨equal, rfl, isAborted.symm⟩⟩
    · exact (get_put _ _).trans (if_pos rfl)
  · cases result

theorem view_setFence_some {fence : HandoffFence} {expected : HandoffId}
    (result : data.setFence (some fence) expected = .ok changed) :
    (data.view.fence = none ∨ data.view.fence = some fence.handoffId) ∧
      changed.view = data.view.raise fence.handoffId := by
  simp only [setFence, bind, Except.bind] at result
  cases exchanged : exchangeFence data.handoffFence (some fence) expected with
  | error fault =>
    rw [exchanged] at result
    cases result
  | ok next =>
    rw [exchanged] at result
    obtain ⟨prior, rfl⟩ := exchangeFence_some exchanged
    cases result
    exact ⟨prior, rfl⟩

theorem view_setFence_none (result : data.setFence none handoffId = .ok changed) :
    (data.view.fence = none ∨ data.view.fence = some handoffId) ∧
      (data.view.cut = none ∨ data.view.cut = some handoffId) ∧
      changed.view = data.view.drop handoffId := by
  have keeps : (data.role == .member && data.handedOffTo.any (·.handoffId == handoffId)) = true ↔
      data.view.role = .member ∧ data.view.handedTo = some handoffId := by
    cases handed : data.handedOffTo <;> simp [view, handed]
  simp only [setFence, bind, Except.bind] at result
  cases exchanged : exchangeFence data.handoffFence none handoffId with
  | error fault =>
    rw [exchanged] at result
    cases result
  | ok next =>
    rw [exchanged] at result
    obtain ⟨prior, rfl⟩ := exchangeFence_none exchanged
    simp only at result
    cases released : releaseWriteFence data.writeFence handoffId
        (data.role == .member && data.handedOffTo.any (·.handoffId == handoffId)) with
    | error fault =>
      rw [released] at result
      cases result
    | ok writeFence =>
      rw [released] at result
      obtain ⟨held, cut, history⟩ := releaseWriteFence_ok released
      simp only [keeps] at cut history
      cases result
      refine ⟨prior, held, ?_⟩
      by_cases same : data.view.role = .member ∧ data.view.handedTo = some handoffId
      · rw [if_pos same] at cut history
        simp only [SourceView.drop, if_pos same]
        simp only [view, get, cut, history, Option.map_none, Option.isSome_map]
      rw [if_neg same] at cut history
      simp only [SourceView.drop, if_neg same]
      simp only [view, get, cut, history, Option.map_none]

theorem view_freezeWrites {epoch : Int} (result : data.freezeWrites handoffId epoch = .ok changed) :
    (data.view.cut = none ∨ data.view.cut = some handoffId ∨ data.view.history = true) ∧
      changed.view = data.view.freeze handoffId := by
  simp only [freezeWrites, bind, Except.bind] at result
  cases acquired : acquireWriteFence data.writeFence handoffId epoch with
  | error fault =>
    rw [acquired] at result
    cases result
  | ok next =>
    rw [acquired] at result
    obtain ⟨held, rfl⟩ := acquireWriteFence_ok acquired
    cases result
    exact ⟨held, rfl⟩

theorem stopProved_eq (proved : data.view.proved) :
    data.stopProved handoffId = data.view.stopped handoffId := by
  simp only [stopProved, view]
  cases found : data.certificates handoffId with
  | none => rfl
  | some certificate => simpa using proved handoffId certificate found

theorem view_putCertificate (proved : data.view.proved) {certificate : HostTransferCertificate}
    (stops : certificate.sourceStopped = true) :
    (data.putCertificate handoffId certificate).view = data.view.stop handoffId := by
  have stopped : (data.putCertificate handoffId certificate).view.stopped =
      Function.update data.view.stopped handoffId true := by
    funext other
    by_cases same : other = handoffId <;> simp [view, putCertificate, same]
  have stillProved : (data.putCertificate handoffId certificate).view.proved := by
    intro other found isFound
    by_cases same : other = handoffId
    · subst other
      have same : certificate = found := by simpa [putCertificate] using isFound
      exact same ▸ stops
    · exact proved other found (by simpa [putCertificate, same] using isFound)
  have agree : (data.putCertificate handoffId certificate).view.proved = data.view.proved :=
    propext (iff_of_true stillProved proved)
  simp only [view, putCertificate, SourceView.stop, get] at stopped agree ⊢
  rw [stopped, agree]

@[simp] theorem view_writeMember (record : SourceRecord) :
    (data.writeMember record).view = data.view.follow record.handoffId := rfl

end SourceData

end Adhdev.HostHandoff
