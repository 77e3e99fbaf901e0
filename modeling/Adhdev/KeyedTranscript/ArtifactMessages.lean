import Adhdev.KeyedTranscript.Frame

/-! # Live artifacts are held

Every live artifact of a producer has its message, whatever was restored, built and committed.
-/

namespace Adhdev

open List KeyedMap

namespace KeyedMap

variable {α : Type u} {κ : Type v} {key : α → κ}

variable {map : KeyedMap key}

theorem key_mem_set [DecidableEq κ] {value : α} {wanted : κ} :
    wanted ∈ (map.set value).entries.map key ↔ wanted = key value ∨
      wanted ∈ map.entries.map key := by
  constructor
  · intro present
    obtain ⟨other, member, rfl⟩ := mem_map.mp present
    rcases mem_set.mp member with rfl | ⟨inside, -⟩
    · exact .inl rfl
    · exact .inr (mem_map_of_mem inside)
  rintro (rfl | present)
  · exact mem_map_of_mem (mem_set.mpr (.inl rfl))
  obtain ⟨other, member, rfl⟩ := mem_map.mp present
  by_cases same : key other = key value
  · exact same ▸ mem_map_of_mem (mem_set.mpr (.inl rfl))
  · exact mem_map_of_mem (mem_set.mpr (.inr ⟨member, same⟩))

theorem key_mem_foldl_set [DecidableEq κ] {values : List α} {wanted : κ} :
    wanted ∈ (values.foldl set map).entries.map key ↔
      wanted ∈ values.map key ∨ wanted ∈ map.entries.map key := by
  induction values generalizing map with
  | nil => simp
  | cons value values induction =>
    rw [foldl_cons, induction, key_mem_set, map_cons, mem_cons, or_left_comm, or_assoc]

theorem key_mem_keepWhere (keep : κ → Bool) {wanted : κ} :
    wanted ∈ (map.keepWhere fun value => keep (key value)).entries.map key ↔
      wanted ∈ map.entries.map key ∧ keep wanted = true := by
  constructor
  · intro present
    obtain ⟨other, member, rfl⟩ := mem_map.mp present
    have kept := mem_keepWhere.mp member
    exact ⟨mem_map_of_mem kept.1, kept.2⟩
  rintro ⟨present, keeps⟩
  obtain ⟨other, member, rfl⟩ := mem_map.mp present
  exact mem_map_of_mem (mem_keepWhere.mpr ⟨member, keeps⟩)

end KeyedMap

namespace KeyedTranscript

variable {hashes : ChatHashes}

/-! ## Runs of a producer -/

inductive ProducerStep
  | built (observation : TranscriptObservation) (context : BuildContext)
  | builtArtifact (input : ChatArtifactInput) (context : BuildContext)
  | requestedBase (reason : ChatBaseReason)

def commitResult (state : SessionState) : BuildResult → SessionState
  | .frame frame => commit state frame
  | _ => state

def producerStep (hashes : ChatHashes) (state : SessionState) : ProducerStep → SessionState
  | .built observation context => commitResult state (build hashes state observation context)
  | .builtArtifact input context =>
    commitResult state (buildArtifactFrame hashes state context input)
  | .requestedBase reason => state.requestBase reason

/-- A producer, restored by a writer or not, after its steps. -/
def reached (hashes : ChatHashes) (sessionId epoch : String)
    (persisted : Option (PersistedState × String)) (steps : List ProducerStep) : SessionState :=
  let fresh : SessionState := { sessionId, epoch }
  steps.foldl (producerStep hashes)
    (match persisted with
    | none => fresh
    | some (persisted, writerId) => restore hashes fresh persisted writerId)

def ArtifactsHeld (state : SessionState) : Prop :=
  ∀ id ∈ state.bubbles.entries.map (·.id), isArtifact id = true →
    id ∈ state.artifactMessages.entries.map (·.messageId)

/-! ## Restoring -/

section

variable (state : SessionState)
include state

theorem markTorn_live (id : String) (rev : Nat) (parts : List Nat) :
    (state.markTorn id rev parts).bubbles = state.bubbles ∧ (state.markTorn id rev
      parts).artifactMessages = state.artifactMessages := by
  rw [SessionState.markTorn]
  cases state.tornOf id <;> exact ⟨rfl, rfl⟩

theorem rememberDeleted_live (id : String) (rev : Nat) : (state.rememberDeleted id rev).bubbles =
    state.bubbles ∧ (state.rememberDeleted id rev).artifactMessages = state.artifactMessages := by
  simp only [SessionState.rememberDeleted, and_self]

theorem restoreRow_live (row : PersistedRow) : (restoreRow hashes state row).bubbles =
    state.bubbles ∧ (restoreRow hashes state row).artifactMessages = state.artifactMessages := by
  rw [restoreRow]
  cases row.row with
  | del del =>
    dsimp only
    split
    · exact rememberDeleted_live state del.id del.rev
    · exact ⟨rfl, rfl⟩
  | commit commit =>
    dsimp only
    split <;> exact ⟨rfl, rfl⟩
  | _ => exact ⟨rfl, rfl⟩

theorem restoreTorn_live (row : PersistedRow) : (restoreTorn state row).bubbles = state.bubbles ∧
    (restoreTorn state row).artifactMessages = state.artifactMessages := by
  have seen : ∀ (frame : Nat) (epoch : String) (other : SessionState),
      other = (if epoch = state.epoch then { state with frameNo := max state.frameNo frame }
        else state) →
      other.bubbles = state.bubbles ∧ other.artifactMessages = state.artifactMessages := by
    rintro frame epoch other rfl
    split <;> exact ⟨rfl, rfl⟩
  have marked : ∀ (frame : Nat) (epoch id : String) (rev : Nat) (parts : List Nat)
      (other : SessionState),
      other = (if epoch = state.epoch then { state with frameNo := max state.frameNo frame }
        else state) →
      (other.markTorn id rev parts).bubbles = state.bubbles ∧
        (other.markTorn id rev parts).artifactMessages = state.artifactMessages := by
    intro frame epoch id rev parts other same
    have live := markTorn_live other id rev parts
    have read := seen frame epoch other same
    exact ⟨live.1.trans read.1, live.2.trans read.2⟩
  rw [restoreTorn]
  cases row.row with
  | metadata metadata => exact ⟨rfl, rfl⟩
  | msg head => exact marked head.frame head.epoch _ _ _ _ rfl
  | part part => exact marked part.frame part.epoch _ _ _ _ rfl
  | del del => exact marked del.frame del.epoch _ _ _ _ rfl
  | commit commit => exact seen commit.frame commit.epoch _ rfl

end

theorem ArtifactsHeld.of_live {state other : SessionState} (held : ArtifactsHeld state)
    (live : other.bubbles = state.bubbles ∧ other.artifactMessages = state.artifactMessages) :
    ArtifactsHeld other := by
  intro id present artifact
  rw [live.1] at present
  rw [live.2]
  exact held id present artifact

variable {state : SessionState}

theorem restoreHead_held {rows : List PersistedRow} (held : ArtifactsHeld state) (head : ChatMsg) :
    ArtifactsHeld (restoreHead hashes rows state head) := by
  have onward : ∀ (marked : SessionState) (bubble : PublishedBubble) (text : String),
      ArtifactsHeld marked → bubble.id = head.id →
      ArtifactsHeld { marked with
        bubbles := marked.bubbles.set bubble
        artifactMessages :=
          if isArtifact head.id then marked.artifactMessages.set (artifactOfHead head text)
          else marked.artifactMessages } := by
    intro marked bubble text holds sameId id present artifact
    rcases key_mem_set.mp present with rfl | before
    · rw [sameId] at artifact ⊢
      simp only [artifact, if_true]
      exact key_mem_set.mpr (.inl rfl)
    have there := holds id before artifact
    by_cases newArtifact : isArtifact head.id = true
    · simp only [newArtifact, if_true]
      exact key_mem_set.mpr (.inr there)
    · simpa only [newArtifact, Bool.false_eq_true, if_false] using there
  have marked : ∀ complete : Bool, ArtifactsHeld
      (if complete then state else state.markTorn head.id head.rev
        (persistedParts rows head.id)) := by
    intro complete
    cases complete with
    | true => exact held
    | false =>
      exact held.of_live (markTorn_live state head.id head.rev (persistedParts rows head.id))
  rw [restoreHead]
  exact onward _ _ _ (marked _) rfl

theorem restore_held (held : ArtifactsHeld state) (persisted : PersistedState) (writerId : String) :
    ArtifactsHeld (restore hashes state persisted writerId) := by
  have read : ArtifactsHeld (persisted.committed.foldl (restoreRow hashes) state) :=
    foldlRecOn _ _ held fun state holds row _ => holds.of_live (restoreRow_live state row)
  have live : ∀ {state} (heads : List ChatMsg), ArtifactsHeld state →
      ArtifactsHeld (heads.foldl (restoreHead hashes persisted.committed) state) :=
    fun heads holds => foldlRecOn heads _ holds fun _ holds head _ => restoreHead_held holds head
  have torn : ∀ {state} (rows : List PersistedRow), ArtifactsHeld state →
      ArtifactsHeld (rows.foldl restoreTorn state) :=
    fun rows holds => foldlRecOn rows _ holds fun state holds row _ =>
      holds.of_live (restoreTorn_live state row)
  rw [restore]
  exact (torn _ (live _ read)).of_live ⟨rfl, rfl⟩

/-! ## Committing -/

theorem rememberAll_live (deleted : List (String × Nat)) (state : SessionState) :
    (deleted.foldl (fun state (id, rev) => state.rememberDeleted id rev) state).bubbles =
        state.bubbles ∧
      (deleted.foldl (fun state (id, rev) => state.rememberDeleted id rev) state).artifactMessages =
        state.artifactMessages := by
  induction deleted generalizing state with
  | nil => exact ⟨rfl, rfl⟩
  | cons pair deleted induction =>
    have first := rememberDeleted_live state pair.1 pair.2
    simp only [foldl_cons]
    generalize state.rememberDeleted pair.1 pair.2 = next at first ⊢
    have rest := induction next
    exact ⟨rest.1.trans first.1, rest.2.trans first.2⟩

variable {frame : ChatFrame}

theorem commit_bubbles (next : frame.frame = state.frameNo + 1) : (commit state frame).bubbles =
      liveAfter state frame.staging.staged (frame.staging.deleted.map (·.1)) := by
  rw [commit]
  simp only [next, if_true]
  exact (rememberAll_live ..).1

theorem commit_held (held : ArtifactsHeld state)
    (stages : ∀ id ∈ frame.staging.staged.map (·.id), isArtifact id = true → id ∈
      frame.staging.stagedArtifacts.map (·.messageId)) :
    ArtifactsHeld (commit state frame) := by
  rw [commit]
  by_cases next : frame.frame = state.frameNo + 1
  · simp only [next, if_true]
    refine ArtifactsHeld.of_live ?_ (rememberAll_live ..)
    intro id present artifact
    have kept := (key_mem_keepWhere
      fun id => decide (id ∉ frame.staging.deleted.map (·.1))).mp present
    refine (key_mem_keepWhere
      fun id => decide (id ∉ frame.staging.deleted.map (·.1))).mpr ⟨?_, kept.2⟩
    rw [key_mem_foldl_set]
    rcases key_mem_foldl_set.mp kept.1 with staged | before
    · exact .inl (stages id staged artifact)
    · exact .inr (held id before artifact)
  · simpa only [next, if_false] using held

theorem upsert_id {frameNo : Nat} {bubble : EncodedBubble} {up : Upsert}
    (written : upsert hashes state frameNo bubble = some up) : up.staged.id = bubble.id := by
  rw [upsert] at written
  by_cases unchanged : (state.bubble bubble.id).any (·.hash = headChangeKey hashes
      (encodeChatMessageHead bubble.message bubble.id bubble.ord 0 "" 0 (.text "")) bubble.text) ∧
      forceAll state = false ∧ isTorn state bubble.id = false
  · simp only [unchanged] at written
    simp at written
  · simp only [unchanged, if_false, Option.some.injEq] at written
    rw [← written]

theorem mem_upserts {frameNo : Nat} {wanted : Desired} {up : Upsert}
    (member : up ∈ upserts hashes state frameNo wanted) :
    ∃ bubble ∈ wanted.observed, bubble.id ∉ wanted.capped ∧
      upsert hashes state frameNo bubble = some up := by
  obtain ⟨bubble, inside, written⟩ := mem_filterMap.mp member
  have kept := mem_filter.mp inside
  exact ⟨bubble, kept.1, by simpa using kept.2, written⟩

variable {observation : TranscriptObservation}

theorem frameOf_stages {context : BuildContext} {wanted : Desired} {id : String}
    (staged : id ∈ (frameOf hashes state observation context wanted).staging.staged.map (·.id))
    (artifact : isArtifact id = true) :
    id ∈ (frameOf hashes state observation context wanted).staging.stagedArtifacts.map
      (·.messageId) := by
  obtain ⟨bubble, member, rfl⟩ := mem_map.mp staged
  obtain ⟨up, written, rfl⟩ := mem_map.mp member
  obtain ⟨source, observed, uncapped, made⟩ := mem_upserts written
  have sameId := upsert_id made
  rw [sameId] at artifact ⊢
  rw [frameOf, map_map]
  refine mem_map.mpr ⟨source, mem_filter.mpr ⟨observed, ?_⟩, rfl⟩
  simp [uncapped, artifact]

theorem build_frame {context : BuildContext}
    (built : build hashes state observation context = .frame frame) :
    ¬(context.retainMessages = true ∧ forceAll state = true) ∧
      ∃ wanted, desired hashes state observation context = some wanted ∧
        frame = frameOf hashes state observation context wanted := by
  rw [build] at built
  by_cases waits : context.retainMessages = true ∧ forceAll state = true
  · simp only [waits, and_self, if_true] at built
    cases built
  refine ⟨waits, ?_⟩
  rw [if_neg waits] at built
  cases found : desired hashes state observation context with
  | none => simp only [found] at built; cases built
  | some wanted =>
    simp only [found] at built
    split at built
    · cases built
    · cases built
      exact ⟨wanted, rfl, rfl⟩

theorem producerStep_held (held : ArtifactsHeld state) (step : ProducerStep) :
    ArtifactsHeld (producerStep hashes state step) := by
  cases step with
  | built observation context =>
    rw [producerStep]
    cases built : build hashes state observation context with
    | frame frame =>
      obtain ⟨-, wanted, -, rfl⟩ := build_frame built
      exact commit_held held fun id => frameOf_stages
    | unchanged | unidentified => exact held
  | builtArtifact input context =>
    rw [producerStep, buildArtifactFrame]
    cases input.attachment with
    | none => exact held
    | some attachment =>
      dsimp only
      split
      · exact held
      refine commit_held held fun id staged _ => ?_
      rw [artifactFrame] at staged ⊢
      simpa using staged
  | requestedBase reason => exact held

theorem reached_held (hashes : ChatHashes) (sessionId epoch : String)
    (persisted : Option (PersistedState × String)) (steps : List ProducerStep) :
    ArtifactsHeld (reached hashes sessionId epoch persisted steps) := by
  have fresh : ArtifactsHeld { sessionId, epoch } := nofun
  unfold reached
  refine foldlRecOn steps _ ?_ fun _ holds step _ => producerStep_held holds step
  cases persisted with
  | none => exact fresh
  | some persisted => exact restore_held fresh persisted.1 persisted.2

end KeyedTranscript

end Adhdev
