import Adhdev.HostHandoff.TargetView

/-! # The invariant of a target

What holds of a target's store in every state of every run, given which
activations the source has announced, and what each write keeps of it. `strict`
stands for the runs in which no discard takes a record that is being activated. -/

namespace Adhdev.HostHandoff

open List Option Bool

abbrev Intents := HandoffId → DaemonId → Int → Prop

def TargetPhase.late : TargetPhase → Bool
  | .activating | .active | .discarded => true
  | _ => false

namespace TargetData

def fence (data : TargetData) : Option HandoffId :=
  (data.mesh.bind (·.handoffFence)).map (·.handoffId)

structure Sound (strict : Prop) (selfId : DaemonId) (intents : Intents) (data : TargetData) :
    Prop where
  hosted : ∀ {handoffId}, handoffId ∈ data.hosted → ∃ record, data.get handoffId = some record ∧
    record.phase.late = true ∧ (record.phase ≠ .active → data.fence = some handoffId) ∧
    (strict → record.phase ≠ .discarded)
  role : ∀ {mesh}, data.mesh = some mesh → mesh.role = .host → data.hosted ≠ []
  applied : ∀ {handoffId manifest}, (handoffId, manifest) ∈ data.applied →
    ∃ record, data.get handoffId = some record ∧ record.phase.late = true ∧
      record.manifestDigest = manifest ∧ (strict → record.phase ≠ .discarded)
  begun : ∀ {handoffId record}, data.get handoffId = some record →
    record.phase = .activating ∨ record.phase = .active → intents handoffId selfId record.epoch
  active : ∀ {handoffId record}, data.get handoffId = some record → record.phase = .active →
    (handoffId, record.manifestDigest) ∈ data.applied ∧ handoffId ∈ data.hosted
  manifests : ∀ {handoffId manifest}, data.manifests handoffId = some manifest →
    data.Staged handoffId manifest
  replies : ∀ {request result}, (request, result) ∈ data.replies → data.Truthful request result
  acks : ∀ {ack}, ack ∈ data.acks → data.Staged ack.handoffId ack.manifestDigest

/-- What the owner of an activation can rely on. -/
def Guards (lock : TargetLock) (data later : TargetData) : Prop :=
  match lock with
  | .activation handoffId =>
    data.InPhase handoffId .activating → later.InPhase handoffId .activating

/-- A step of a task that owns some of the locks. -/
structure Change (strict : Prop) (selfId : DaemonId) (intents : Intents)
    (owned locks : List TargetLock) (data later : TargetData) : Prop where
  sound : later.Sound strict selfId intents
  grown : data.Grown later
  guards : ∀ lock ∈ locks, lock ∉ owned → data.Guards lock later

variable {strict : Prop} {selfId : DaemonId} {intents later : Intents} {data next : TargetData}
variable {owned locks : List TargetLock} {handoffId : HandoffId} {old new : TargetRecord}

theorem Sound.grows (grows : ∀ handoffId peer epoch, intents handoffId peer epoch →
    later handoffId peer epoch) (sound : data.Sound strict selfId intents) :
    data.Sound strict selfId later :=
  { sound with begun := fun found phase => grows _ _ _ (sound.begun found phase) }

/-! ## Writes beside the journal -/

section Beside

section

variable (same : next.journal = data.journal)
include same

theorem get_of_journal (handoffId : HandoffId) : next.get handoffId = data.get handoffId := by
  simp only [get, same]

theorem grown_of_journal (applied : data.applied ⊆ next.applied)
    (hosted : data.hosted ⊆ next.hosted) : data.Grown next := by
  refine ⟨?_, applied, hosted⟩
  intro handoffId record found
  exact ⟨record, (get_of_journal same handoffId).trans found, rfl, rfl, rfl, fun _ => rfl⟩

theorem guards_of_journal (lock : TargetLock) : data.Guards lock next := by
  cases lock with
  | activation handoffId =>
    rintro ⟨record, found, phase⟩
    exact ⟨record, (get_of_journal same handoffId).trans found, phase⟩

end

section

variable (sound : data.Sound strict selfId intents)
include sound

theorem Change.beside (journal : next.journal = data.journal) (mesh : next.mesh = data.mesh)
    (applied : next.applied = data.applied) (hosted : next.hosted = data.hosted)
    (manifests : ∀ {handoffId manifest}, next.manifests handoffId = some manifest → data.Staged
      handoffId manifest) (replies : ∀ {request result}, (request, result) ∈ next.replies →
      data.Truthful request result) (acks : ∀ {ack}, ack ∈ next.acks → data.Staged ack.handoffId
      ack.manifestDigest) : Change strict selfId intents owned locks data next := by
  have grown : data.Grown next :=
    grown_of_journal journal (by rw [applied]; exact List.Subset.refl _)
      (by rw [hosted]; exact List.Subset.refl _)
  have same := get_of_journal journal
  have fence : next.fence = data.fence := by simp only [TargetData.fence, mesh]
  refine ⟨{
    hosted := ?_
    role := ?_
    applied := ?_
    begun := ?_
    active := ?_
    manifests := fun found => grown.staged (manifests found)
    replies := fun member => (replies member).grown grown
    acks := fun member => grown.staged (acks member) }, grown,
    fun lock _ _ => guards_of_journal journal lock⟩
  · rw [hosted, fence]
    simp only [same]
    exact sound.hosted
  · rw [mesh, hosted]
    exact sound.role
  · rw [applied]
    simp only [same]
    exact sound.applied
  · simp only [same]
    exact sound.begun
  · simp only [same, applied, hosted]
    exact sound.active

theorem Change.putChunk (seq : Nat) : Change strict selfId intents owned locks data
    (data.putChunk handoffId seq) :=
  .beside sound rfl rfl rfl rfl sound.manifests sound.replies sound.acks

theorem Change.putCertificate (certificate : HostTransferCertificate) : Change strict selfId
    intents owned locks data (data.putCertificate handoffId certificate) :=
  .beside sound rfl rfl rfl rfl sound.manifests sound.replies sound.acks

theorem Change.corrupt (seq : Nat) : Change strict selfId intents owned locks data
    (data.corrupt handoffId seq) :=
  .beside sound rfl rfl rfl rfl sound.manifests sound.replies sound.acks

theorem Change.putManifest {manifest : HandoffManifest} (staged : data.Staged handoffId manifest) :
    Change strict selfId intents owned locks data (data.putManifest handoffId manifest) := by
  refine .beside sound rfl rfl rfl rfl ?_ sound.replies sound.acks
  intro other found isFound
  by_cases same : other = handoffId
  · subst other
    have equal : manifest = found := by simpa [TargetData.putManifest] using isFound
    exact equal ▸ staged
  · exact sound.manifests (by simpa [TargetData.putManifest, same] using isFound)

theorem Change.clearStage : Change strict selfId intents owned locks data
    (data.clearStage handoffId) := by
  refine .beside sound rfl rfl rfl rfl ?_ sound.replies sound.acks
  intro other found isFound
  by_cases same : other = handoffId
  · simp [TargetData.clearStage, same] at isFound
  · exact sound.manifests (by simpa [TargetData.clearStage, same] using isFound)

theorem Change.reply {request : Request} {result : PeerResult}
    (truthful : data.Truthful request result) : Change strict selfId intents owned locks data
    { data with replies := data.replies ++ [(request, result)] } := by
  refine .beside sound rfl rfl rfl rfl sound.manifests ?_ sound.acks
  intro other answer member
  rcases mem_append.mp member with earlier | now
  · exact sound.replies earlier
  rw [mem_singleton, Prod.mk.injEq] at now
  rw [now.1, now.2]
  exact truthful

theorem Change.acknowledge {ack : HandoffAck} (staged : data.Staged ack.handoffId
      ack.manifestDigest) : Change strict selfId intents owned locks data { data with acks :=
      data.acks ++ [ack] } := by
  refine .beside sound rfl rfl rfl rfl sound.manifests sound.replies ?_
  intro other member
  rcases mem_append.mp member with earlier | now
  · exact sound.acks earlier
  · rw [mem_singleton.mp now]
    exact staged

end

end Beside

/-! ## The fence, the tables and the host role -/

section Authority

theorem Change.authority (sound : data.Sound strict selfId intents)
    (journal : next.journal = data.journal) (manifests : next.manifests = data.manifests)
    (replies : next.replies = data.replies) (acks : next.acks = data.acks)
    (appliedGrows : data.applied ⊆ next.applied) (hostedGrows : data.hosted ⊆ next.hosted)
    (hosted : ∀ {handoffId}, handoffId ∈ next.hosted → ∃ record,
      data.get handoffId = some record ∧ record.phase.late = true ∧
      (record.phase ≠ .active → next.fence = some handoffId) ∧
      (strict → record.phase ≠ .discarded))
    (role : ∀ {mesh}, next.mesh = some mesh → mesh.role = .host → next.hosted ≠ [])
    (applied : ∀ {handoffId manifest}, (handoffId, manifest) ∈ next.applied →
      ∃ record, data.get handoffId = some record ∧ record.phase.late = true ∧
        record.manifestDigest = manifest ∧ (strict → record.phase ≠ .discarded)) :
    Change strict selfId intents owned locks data next := by
  have grown := grown_of_journal journal appliedGrows hostedGrows
  have same := get_of_journal journal
  refine ⟨{
    hosted := ?_
    role := role
    applied := ?_
    begun := ?_
    active := ?_
    manifests := ?_
    replies := ?_
    acks := ?_ }, grown, fun lock _ _ => guards_of_journal journal lock⟩
  · simp only [same]
    exact hosted
  · simp only [same]
    exact applied
  · simp only [same]
    exact sound.begun
  · simp only [same]
    intro handoffId record found phase
    obtain ⟨isApplied, isHosted⟩ := sound.active found phase
    exact ⟨appliedGrows isApplied, hostedGrows isHosted⟩
  · rw [manifests]
    exact fun found => grown.staged (sound.manifests found)
  · rw [replies]
    exact fun member => (sound.replies member).grown grown
  · rw [acks]
    exact fun member => grown.staged (sound.acks member)

theorem Change.materializeMember (sound : data.Sound strict selfId intents) (host : DaemonId)
    (key : Option String) :
    Change strict selfId intents owned locks data (data.materializeMember host key) := by
  cases mesh : data.mesh with
  | some held =>
    simp only [TargetData.materializeMember, mesh]
    exact .beside sound rfl rfl rfl rfl sound.manifests sound.replies sound.acks
  | none =>
    simp only [TargetData.materializeMember, mesh]
    refine .authority sound rfl rfl rfl rfl (List.Subset.refl _) (List.Subset.refl _) ?_ ?_
      sound.applied
    · intro handoffId member
      obtain ⟨record, found, late, fenced, kept⟩ := sound.hosted member
      refine ⟨record, found, late, ?_, kept⟩
      intro inactive
      have none := fenced inactive
      simp [fence, mesh] at none
    · rintro new ⟨⟩ isHost
      cases isHost

theorem setFence_ok {fence : Option HandoffFence} {expected : HandoffId}
    (result : data.setFence fence expected = .ok next) : ∃ mesh exchanges, data.mesh = some mesh ∧
      exchangeFence mesh.handoffFence fence expected = .ok exchanges := by
  unfold setFence at result
  cases mesh : data.mesh with
  | none =>
    rw [mesh] at result
    cases result
  | some held =>
    rw [mesh] at result
    simp only [bind, Except.bind] at result
    cases exchanged : exchangeFence held.handoffFence fence expected with
    | error fault =>
      rw [exchanged] at result
      cases result
    | ok exchanges => exact ⟨held, exchanges, rfl, exchanged⟩

theorem fence_of_setFence_some {fence : HandoffFence} {expected : HandoffId}
    (result : data.setFence (some fence) expected = .ok next) :
    (data.fence = none ∨ data.fence = some fence.handoffId) ∧ ∃ mesh, data.mesh = some mesh ∧
        next = { data with mesh := some { mesh with handoffFence := some fence } } := by
  obtain ⟨held, exchanges, mesh, exchanged⟩ := setFence_ok result
  unfold setFence at result
  simp only [mesh, bind, Except.bind, exchanged] at result
  obtain ⟨prior, rfl⟩ := exchangeFence_some exchanged
  cases result
  exact ⟨by simpa [TargetData.fence, mesh] using prior, held, mesh, rfl⟩

theorem fence_of_setFence_none (result : data.setFence none handoffId = .ok next) :
    (data.fence = none ∨ data.fence = some handoffId) ∧ ∃ mesh writeFence, data.mesh = some mesh ∧
        next = { data with mesh := some { mesh with handoffFence := none }, writeFence } := by
  obtain ⟨held, exchanges, mesh, exchanged⟩ := setFence_ok result
  unfold setFence at result
  simp only [mesh, bind, Except.bind, exchanged] at result
  obtain ⟨prior, rfl⟩ := exchangeFence_none exchanged
  cases released : releaseWriteFence data.writeFence handoffId false with
  | error fault =>
    rw [released] at result
    cases result
  | ok writeFence =>
    rw [released] at result
    cases result
    exact ⟨by simpa [TargetData.fence, mesh] using prior, held, writeFence, mesh, rfl⟩

section

variable (sound : data.Sound strict selfId intents)
include sound

theorem Change.raise {fence : HandoffFence} {expected : HandoffId}
    (result : data.setFence (some fence) expected = .ok next) : Change strict selfId intents owned
    locks data next ∧ next.fence = some fence.handoffId ∧ next.journal = data.journal := by
  obtain ⟨free, mesh, isMesh, rfl⟩ := fence_of_setFence_some result
  refine ⟨.authority sound rfl rfl rfl rfl (List.Subset.refl _) (List.Subset.refl _) ?_ ?_
    sound.applied, rfl, rfl⟩
  · intro handoffId member
    obtain ⟨record, found, late, fenced, kept⟩ := sound.hosted member
    refine ⟨record, found, late, ?_, kept⟩
    intro inactive
    have held := fenced inactive
    rcases free with none | mine
    · rw [none] at held
      cases held
    · rw [← held, mine]
      rfl
  · rintro new ⟨⟩ isHost
    exact sound.role isMesh isHost

theorem Change.drop (result : data.setFence none handoffId = .ok next)
    (harmless : handoffId ∈ data.hosted → data.Active handoffId) : Change strict selfId intents
    owned locks data next ∧ next.journal = data.journal ∧ next.hosted = data.hosted ∧ next.applied
    = data.applied := by
  obtain ⟨free, mesh, writeFence, isMesh, rfl⟩ := fence_of_setFence_none result
  refine ⟨.authority sound rfl rfl rfl rfl (List.Subset.refl _) (List.Subset.refl _) ?_ ?_
    sound.applied, rfl, rfl, rfl⟩
  · intro other member
    obtain ⟨record, found, late, fenced, kept⟩ := sound.hosted member
    refine ⟨record, found, late, ?_, kept⟩
    intro inactive
    have held := fenced inactive
    rcases free with none | mine
    · rw [none] at held
      cases held
    rw [mine, some.injEq] at held
    subst held
    obtain ⟨same, found', active⟩ := harmless member
    obtain rfl := mem_unique found found'
    exact absurd active inactive
  · rintro new ⟨⟩ isHost
    exact sound.role isMesh isHost

theorem Change.freezeWrites {epoch : Int} (result : data.freezeWrites handoffId epoch = .ok next) :
    Change strict selfId intents owned locks data next ∧ next.journal = data.journal ∧ next.fence =
    data.fence ∧ next.hosted = data.hosted ∧ next.applied = data.applied := by
  simp only [TargetData.freezeWrites, bind, Except.bind] at result
  split at result
  · cases result
  cases result
  exact ⟨.beside sound rfl rfl rfl rfl sound.manifests sound.replies sound.acks, rfl, rfl, rfl,
    rfl⟩

theorem Change.commitSnapshot (found : data.get handoffId = some old)
    (phase : old.phase = .activating) : Change strict selfId intents owned locks data
    (data.commitSnapshot handoffId old.manifestDigest) := by
  refine .authority sound rfl rfl rfl rfl (subset_append_left _ _) (List.Subset.refl _)
    sound.hosted sound.role ?_
  intro other manifest member
  rcases mem_append.mp member with earlier | now
  · exact sound.applied earlier
  rw [mem_singleton, Prod.mk.injEq] at now
  rw [now.1, now.2]
  refine ⟨old, found, ?_, rfl, ?_⟩ <;> simp [phase, TargetPhase.late]

theorem Change.writeHost (found : data.get old.handoffId = some old)
    (phase : old.phase = .activating) (fenced : data.fence = some old.handoffId)
    {record : TargetRecord} (isId : record.handoffId = old.handoffId)
    (result : data.writeHost selfId record = .ok next) : Change strict selfId intents owned locks
    data next ∧ next.journal = data.journal ∧ next.hosted = data.hosted ++ [old.handoffId] ∧
    next.applied = data.applied := by
  unfold TargetData.writeHost at result
  cases isMesh : data.mesh with
  | none =>
    rw [isMesh] at result
    cases result
  | some mesh =>
    rw [isMesh] at result
    cases result
    have sameFence : ∀ other, data.fence = some other →
        (mesh.handoffFence.map (·.handoffId)) = some other := by
      intro other held
      simpa [TargetData.fence, isMesh] using held
    refine ⟨.authority sound rfl rfl rfl rfl (List.Subset.refl _)
      (subset_append_left _ _) ?_ (fun _ _ => by simp) sound.applied, rfl,
      by simp [isId], rfl⟩
    intro other member
    rcases mem_append.mp member with earlier | now
    · obtain ⟨found, isFound, late, isFenced, kept⟩ := sound.hosted earlier
      exact ⟨found, isFound, late, fun inactive => sameFence _ (isFenced inactive), kept⟩
    · rw [mem_singleton.mp now, isId]
      refine ⟨old, found, ?_, fun _ => sameFence _ fenced, ?_⟩ <;> simp [phase, TargetPhase.late]

end

end Authority

/-! ## The journal -/

section Journal

theorem get_put_self (isId : new.handoffId = handoffId) :
    (data.put new).get handoffId = some new := by
  rw [get_put, if_pos isId]

theorem get_put_of_ne (isId : new.handoffId = handoffId) {other : HandoffId}
    (differs : other ≠ handoffId) : (data.put new).get other = data.get other := by
  rw [get_put, isId, if_neg (Ne.symm differs)]

theorem Change.update (sound : data.Sound strict selfId intents)
    (found : data.get handoffId = some old) (isId : new.handoffId = handoffId)
    (peer : new.peerDaemonId = old.peerDaemonId) (epoch : new.epoch = old.epoch)
    (digest : new.manifestDigest = old.manifestDigest)
    (absorbing : old.phase.terminal = true → new.phase = old.phase)
    (late : old.phase.late = true → new.phase.late = true)
    (kept : strict → old.phase.late = true → old.phase ≠ .discarded →
      handoffId ∈ data.hosted ∨ (∃ manifest, (handoffId, manifest) ∈ data.applied) →
      new.phase ≠ .discarded)
    (begun : new.phase = .activating ∨ new.phase = .active → intents handoffId selfId old.epoch)
    (active : new.phase = .active →
      (handoffId, old.manifestDigest) ∈ data.applied ∧ handoffId ∈ data.hosted)
    (guarded : .activation handoffId ∈ locks → .activation handoffId ∉ owned →
      old.phase = .activating → new.phase = .activating) :
    Change strict selfId intents owned locks data (data.put new) := by
  have mine : (data.put new).get handoffId = some new := get_put_self isId
  have rest : ∀ {other}, other ≠ handoffId → (data.put new).get other = data.get other :=
    fun differs => get_put_of_ne isId differs
  have grown : data.Grown (data.put new) := by
    refine ⟨?_, List.Subset.refl _, List.Subset.refl _⟩
    intro other record found'
    by_cases same : other = handoffId
    · subst other
      obtain rfl := mem_unique found found'
      exact ⟨new, mine, peer, epoch, digest, absorbing⟩
    · exact ⟨record, (rest same).trans found', rfl, rfl, rfl, fun _ => rfl⟩
  refine ⟨{
    hosted := ?_
    role := sound.role
    applied := ?_
    begun := ?_
    active := ?_
    manifests := fun found => grown.staged (sound.manifests found)
    replies := fun member => (sound.replies member).grown grown
    acks := fun member => grown.staged (sound.acks member) }, grown, ?_⟩
  · intro other member
    obtain ⟨record, found', isLate, fenced, notDiscarded⟩ := sound.hosted member
    by_cases same : other = handoffId
    · subst other
      obtain rfl := mem_unique found found'
      refine ⟨new, mine, late isLate, ?_, fun isStrict =>
        kept isStrict isLate (notDiscarded isStrict) (.inl member)⟩
      intro inactive
      refine fenced ?_
      intro wasActive
      exact inactive ((absorbing (by rw [wasActive]; rfl)).trans wasActive)
    · exact ⟨record, (rest same).trans found', isLate, fenced, notDiscarded⟩
  · intro other manifest member
    obtain ⟨record, found', isLate, isDigest, notDiscarded⟩ := sound.applied member
    by_cases same : other = handoffId
    · subst other
      obtain rfl := mem_unique found found'
      exact ⟨new, mine, late isLate, digest.trans isDigest, fun isStrict =>
        kept isStrict isLate (notDiscarded isStrict) (.inr ⟨manifest, member⟩)⟩
    · exact ⟨record, (rest same).trans found', isLate, isDigest, notDiscarded⟩
  · intro other record found' phase
    by_cases same : other = handoffId
    · subst other
      obtain rfl := mem_unique mine found'
      rw [epoch]
      exact begun phase
    · exact sound.begun ((rest same).symm.trans found') phase
  · intro other record found' phase
    by_cases same : other = handoffId
    · subst other
      obtain rfl := mem_unique mine found'
      rw [digest]
      exact active phase
    · exact sound.active ((rest same).symm.trans found') phase
  · intro lock present foreign
    cases lock with
    | activation other =>
      rintro ⟨record, found', phase⟩
      by_cases same : other = handoffId
      · subst other
        obtain rfl := mem_unique found found'
        exact ⟨new, mine, guarded present foreign phase⟩
      · exact ⟨record, (rest same).trans found', phase⟩

theorem Change.begin (sound : data.Sound strict selfId intents) (absent : data.get handoffId = none)
    (isId : new.handoffId = handoffId) (phase : new.phase = .importing) :
    Change strict selfId intents owned locks data (data.put new) := by
  have mine : (data.put new).get handoffId = some new := get_put_self isId
  have rest : ∀ {other}, other ≠ handoffId → (data.put new).get other = data.get other :=
    fun differs => get_put_of_ne isId differs
  have known : ∀ {other record}, data.get other = some record →
      (data.put new).get other = some record := by
    intro other record found
    refine (rest ?_).trans found
    rintro rfl
    rw [absent] at found
    cases found
  have grown : data.Grown (data.put new) :=
    ⟨fun _ record found => ⟨record, known found, rfl, rfl, rfl, fun _ => rfl⟩,
      List.Subset.refl _, List.Subset.refl _⟩
  refine ⟨{
    hosted := ?_
    role := sound.role
    applied := ?_
    begun := ?_
    active := ?_
    manifests := fun found => grown.staged (sound.manifests found)
    replies := fun member => (sound.replies member).grown grown
    acks := fun member => grown.staged (sound.acks member) }, grown, ?_⟩
  · intro other member
    obtain ⟨record, found, holds⟩ := sound.hosted member
    exact ⟨record, known found, holds⟩
  · intro other manifest member
    obtain ⟨record, found, holds⟩ := sound.applied member
    exact ⟨record, known found, holds⟩
  · intro other record found isBegun
    by_cases same : other = handoffId
    · subst other
      obtain rfl := mem_unique mine found
      rw [phase] at isBegun
      rcases isBegun with isBegun | isBegun <;> cases isBegun
    · exact sound.begun ((rest same).symm.trans found) isBegun
  · intro other record found isActive
    by_cases same : other = handoffId
    · subst other
      obtain rfl := mem_unique mine found
      rw [phase] at isActive
      cases isActive
    · exact sound.active ((rest same).symm.trans found) isActive
  · intro lock _ _
    cases lock with
    | activation other =>
      rintro ⟨record, found, isActivating⟩
      exact ⟨record, known found, isActivating⟩

theorem put_of_modify {patch : TargetRecord → TargetRecord}
    (result : data.modify handoffId patch = .ok next) : ∃ record, data.get handoffId = some record ∧
      next = data.put { patch record with handoffId } := by
  unfold modify at result
  split at result
  · rename_i record found
    cases result
    exact ⟨record, found, rfl⟩
  · cases result

theorem Change.patch (sound : data.Sound strict selfId intents)
    {patch : TargetRecord → TargetRecord}
    (same : ∀ record, (patch record).peerDaemonId = record.peerDaemonId ∧
      (patch record).epoch = record.epoch ∧
      (patch record).manifestDigest = record.manifestDigest ∧ (patch record).phase = record.phase)
    (result : data.modify handoffId patch = .ok next) :
    Change strict selfId intents owned locks data next := by
  obtain ⟨record, found, rfl⟩ := put_of_modify result
  obtain ⟨peer, epoch, digest, phase⟩ := same record
  refine .update sound found rfl peer epoch digest (fun _ => phase) ?_ ?_ ?_ ?_ ?_
  · intro late
    simpa only [phase] using late
  · intro _ _ running _
    simpa only [phase] using running
  · intro isBegun
    simp only [phase] at isBegun
    exact sound.begun found isBegun
  · intro isActive
    simp only [phase] at isActive
    exact sound.active found isActive
  · intro _ _ isActivating
    simpa only [phase] using isActivating

end Journal

end TargetData

end Adhdev.HostHandoff
