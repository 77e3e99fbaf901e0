import Adhdev.HostHandoff.TargetMachine

/-! # What a target's store says about a handoff -/

namespace Adhdev.HostHandoff

namespace TargetData

variable {data changed : TargetData} {handoffId : HandoffId}

theorem get_put (record : TargetRecord) (wanted : HandoffId) : (data.put record).get wanted =
      if record.handoffId = wanted then some record else data.get wanted :=
  KeyedMap.lookup_insertEntry (fun _ _ => Iff.rfl) wanted

theorem handoffId_of_get {record : TargetRecord} (found : data.get handoffId = some record) :
    record.handoffId = handoffId :=
  KeyedMap.label_of_lookup found

theorem get_of_mem {record : TargetRecord} (member : record ∈ data.journal.entries) :
    data.get record.handoffId = some record :=
  KeyedMap.lookup_of_mem (fun _ other same => KeyedMap.eq_of_key other member same) member

def InPhase (data : TargetData) (handoffId : HandoffId) (phase : TargetPhase) : Prop :=
  ∃ record, data.get handoffId = some record ∧ record.phase = phase

abbrev Active (data : TargetData) (handoffId : HandoffId) : Prop :=
  data.InPhase handoffId .active

abbrev Discarded (data : TargetData) (handoffId : HandoffId) : Prop :=
  data.InPhase handoffId .discarded

def Staged (data : TargetData) (handoffId : HandoffId) (manifest : HandoffManifest) : Prop :=
  ∃ record, data.get handoffId = some record ∧ record.manifestDigest = manifest

theorem not_discarded_of_active (active : data.Active handoffId) : ¬ data.Discarded handoffId := by
  rintro ⟨record, found, phase⟩
  obtain ⟨other, found', phase'⟩ := active
  rw [found, Option.some.injEq] at found'
  subst other
  rw [phase] at phase'
  cases phase'

structure Grown (data later : TargetData) : Prop where
  record : ∀ handoffId record, data.get handoffId = some record →
    ∃ next, later.get handoffId = some next ∧ next.peerDaemonId = record.peerDaemonId ∧
      next.epoch = record.epoch ∧ next.manifestDigest = record.manifestDigest ∧
      (record.phase.terminal = true → next.phase = record.phase)
  applied : data.applied ⊆ later.applied
  hosted : data.hosted ⊆ later.hosted

namespace Grown

theorem refl (data : TargetData) : data.Grown data :=
  ⟨fun _ record found => ⟨record, found, rfl, rfl, rfl, fun _ => rfl⟩, List.Subset.refl _,
    List.Subset.refl _⟩

theorem trans {first second third : TargetData} (one : first.Grown second)
    (two : second.Grown third) : first.Grown third := by
  refine ⟨?_, fun _ member => two.applied (one.applied member),
    fun _ member => two.hosted (one.hosted member)⟩
  intro handoffId record found
  obtain ⟨between, foundBetween, peer, epoch, digest, terminal⟩ := one.record _ _ found
  obtain ⟨last, foundLast, peer', epoch', digest', terminal'⟩ := two.record _ _ foundBetween
  refine ⟨last, foundLast, peer'.trans peer, epoch'.trans epoch, digest'.trans digest, ?_⟩
  intro isTerminal
  have kept := terminal isTerminal
  exact (terminal' (by rw [kept]; exact isTerminal)).trans kept

theorem inPhase {later : TargetData} (grown : data.Grown later) {phase : TargetPhase}
    (terminal : phase.terminal = true) (reached : data.InPhase handoffId phase) :
    later.InPhase handoffId phase := by
  obtain ⟨record, found, rfl⟩ := reached
  obtain ⟨next, foundNext, _, _, _, kept⟩ := grown.record _ _ found
  exact ⟨next, foundNext, kept terminal⟩

theorem staged {later : TargetData} (grown : data.Grown later) {manifest : HandoffManifest}
    (staged : data.Staged handoffId manifest) : later.Staged handoffId manifest := by
  obtain ⟨record, found, rfl⟩ := staged
  obtain ⟨next, foundNext, _, _, digest, _⟩ := grown.record _ _ found
  exact ⟨next, foundNext, digest⟩

end Grown

def Truthful (data : TargetData) (request : Request) (result : PeerResult) : Prop :=
  match request with
  | .activate handoffId _ _ =>
    (result.success = true → result.applied ≠ some false → data.Active handoffId) ∧
      (result.discarded = true → data.Discarded handoffId)
  | .status handoffId =>
    (result.phase = some .active → data.Active handoffId) ∧
      (result.phase = some .discarded → data.Discarded handoffId)
  | _ => True

theorem Truthful.grown {later : TargetData} (grown : data.Grown later) {request : Request}
    {result : PeerResult} (truthful : data.Truthful request result) :
    later.Truthful request result := by
  cases request with
  | activate handoffId epoch certificate =>
    exact ⟨fun success applied => grown.inPhase rfl (truthful.1 success applied),
      fun discarded => grown.inPhase rfl (truthful.2 discarded)⟩
  | status handoffId =>
    exact ⟨fun phase => grown.inPhase rfl (truthful.1 phase),
      fun phase => grown.inPhase rfl (truthful.2 phase)⟩
  | _ => trivial

end TargetData

end Adhdev.HostHandoff
