import Adhdev.MeshChunking.RoundTrip

/-! # Chunks of several frames -/

namespace Adhdev.MeshChunking

open Text MeshChunkAssembler List MeshChunkAcceptResult MeshChunkAssembler

structure SplitFrame where
  json : Text
  chunkId : String
  version : Nat
  chunks : List MeshChunkEnvelope
  split : splitMeshFrame chunkId version json = .ok chunks

def MeshChunkAcceptResult.isComplete {Value : Type} : MeshChunkAcceptResult Value → Bool
  | .complete _ => true
  | .incomplete _ _ => false
  | .failed _ _ _ => false

section Completions

variable {Value : Type}

def completes (chunkId : String) (outcome : Delivery × MeshChunkAcceptResult Value) : Bool :=
  outcome.1.frame.chunkId = some chunkId && outcome.2.isComplete

def completions (chunkId : String) (outcomes : List (Delivery × MeshChunkAcceptResult Value)) :
    Nat :=
  outcomes.countP (completes chunkId)

def deliveriesOf (chunk : MeshChunkEnvelope) (deliveries : List Delivery) : Nat :=
  deliveries.countP fun delivery => delivery.frame = chunk.raw

end Completions

structure MeshChunkBuffer.Counted (entry : MeshChunkBuffer) : Prop where
  received : entry.received = entry.chunks.countP fun chunk => chunk ≠ []
  bytes : entry.bytesReceived = (entry.chunks.map utf8ByteLength).sum
  capped : entry.bytesReceived ≤ meshMaxReassembledBytes

/-! ## The buffer of one frame among others -/

section Frame

variable {slices : List Text}

def HoldsSlots (slices : List Text) (buffer : Option MeshChunkBuffer) (stored : Finset Nat) :
    Prop :=
  (stored ⊆ Finset.range slices.length ∧ bytesOf slices stored ≤ meshMaxReassembledBytes ∧
      ∃ createdAt, buffer = some (bufferOf slices stored createdAt)) ∨
    buffer = none ∧ stored = ∅

theorem holdsSlots_none : HoldsSlots slices none ∅ := Or.inr ⟨rfl, rfl⟩

theorem holdsSlots_start (chunkId : String) : HoldsSlots slices (noBuffers chunkId) ∅ :=
  holdsSlots_none

theorem HoldsSlots.sweep {buffers : MeshChunkBuffers} {chunkId : String} {stored : Finset Nat}
    (holds : HoldsSlots slices (buffers chunkId) stored) (now : Int) :
    ∃ kept ⊆ stored, HoldsSlots slices (sweep now buffers chunkId) kept := by
  rcases holds with ⟨inRange, within, createdAt, held⟩ | ⟨absent, rfl⟩
  · rw [MeshChunkAssembler.sweep, held, Option.filter_some]
    split_ifs
    · exact ⟨stored, subset_refl _, Or.inl ⟨inRange, within, createdAt, rfl⟩⟩
    · exact ⟨∅, Finset.empty_subset _, holdsSlots_none⟩
  · rw [MeshChunkAssembler.sweep, absent]
    exact ⟨∅, subset_refl _, holdsSlots_none⟩

theorem HoldsSlots.counted {entry : MeshChunkBuffer} {stored : Finset Nat}
    (nonempty : ∀ slice ∈ slices, slice ≠ []) (holds : HoldsSlots slices (some entry) stored) :
    entry.Counted := by
  rcases holds with ⟨inRange, within, createdAt, held⟩ | ⟨absent, -⟩
  · cases held
    exact ⟨received_bufferOf nonempty inRange, bytes_bufferOf inRange, within⟩
  · cases absent

def heldSlot (stored : Finset Nat) (slot : Nat) : Nat := if slot ∈ stored then 1 else 0

theorem heldSlot_mono {fewer more : Finset Nat} (included : fewer ⊆ more) (slot : Nat) :
    heldSlot fewer slot ≤ heldSlot more slot := by
  rw [heldSlot, heldSlot]
  by_cases here : slot ∈ fewer
  · rw [if_pos here, if_pos (included here)]
  · rw [if_neg here]
    exact Nat.zero_le _

variable {Value : Type} {parse : Text → Except String Value} {chunkId : String} {version : Nat}
  {json : Text} {chunks : List MeshChunkEnvelope} {stored : Finset Nat} {createdAt : Int}
  {slot : Nat} {result : MeshChunkAcceptResult Value} {buffer : Option MeshChunkBuffer}

theorem MeshChunkAssembler.FillsSlot.holds
    (fills : FillsSlot parse slices chunkId stored createdAt slot result buffer)
    (inRange : stored ⊆ Finset.range slices.length) (bound : slot < slices.length)
    (within : bytesOf slices stored ≤ meshMaxReassembledBytes) :
    ∃ after, HoldsSlots slices buffer after ∧ ∀ other < slices.length,
      result.isComplete.toNat + heldSlot after other ≤
        (decide (slot = other)).toNat + heldSlot stored other := by
  cases fills with
  | again present =>
    exact ⟨stored, Or.inl ⟨inRange, within, createdAt, rfl⟩, fun other _ => by
      rw [isComplete, Bool.toNat_false]
      omega⟩
  | tooLarge fresh above =>
    exact ⟨∅, holdsSlots_none, fun other _ => by
      rw [isComplete, Bool.toNat_false]
      have fewer := heldSlot_mono (Finset.empty_subset stored) other
      omega⟩
  | more fresh within lacking =>
    refine ⟨insert slot stored, Or.inl ⟨Finset.insert_subset (Finset.mem_range.mpr bound) inRange,
      within, createdAt, rfl⟩, fun other _ => ?_⟩
    rw [isComplete, Bool.toNat_false, heldSlot, heldSlot]
    by_cases same : slot = other
    · rw [if_pos (same ▸ Finset.mem_insert_self slot stored), decide_eq_true same, Bool.toNat_true]
      omega
    · simp only [Finset.mem_insert, Ne.symm same, false_or]
      omega
  | last fresh within whole =>
    refine ⟨∅, holdsSlots_none, fun other otherBound => ?_⟩
    have once := Bool.toNat_le (finish parse chunkId slices.flatten).isComplete
    rw [heldSlot, if_neg (Finset.notMem_empty other), heldSlot]
    by_cases same : slot = other
    · rw [decide_eq_true same, Bool.toNat_true]
      omega
    have included : other ∈ insert slot stored := by
      rw [whole]
      exact Finset.mem_range.mpr otherBound
    rw [if_pos ((Finset.mem_insert.mp included).resolve_left (Ne.symm same))]
    omega

theorem MeshChunkAssembler.FillsSlot.parsed {frame : Value}
    (fills : FillsSlot parse slices chunkId stored createdAt slot (.complete frame) buffer) :
    parse slices.flatten = .ok frame := by
  generalize named : complete frame = result at fills
  cases fills with
  | again | tooLarge | more => cases named
  | last =>
    rw [finish] at named
    cases parsed : parse slices.flatten with
    | ok other =>
      rw [parsed] at named
      cases named
      rfl
    | error message =>
      rw [parsed] at named
      cases named

variable {buffers : MeshChunkBuffers} {delivery : Delivery}

structure FrameStep (parse : Text → Except String Value) (chunkId : String) (version : Nat)
    (slices : List Text) (buffers : MeshChunkBuffers) (stored : Finset Nat) (delivery : Delivery) :
    Prop where
  parsed : ∀ frame, delivery.frame.chunkId = some chunkId →
    (accept parse buffers delivery).1 = .complete frame → parse slices.flatten = .ok frame
  holds : ∃ after, HoldsSlots slices ((accept parse buffers delivery).2 chunkId) after ∧
    ∀ slot < slices.length,
      (completes chunkId (delivery, (accept parse buffers delivery).1)).toNat +
          heldSlot after slot ≤
        (decide (delivery.frame = (chunkAt chunkId version slices slot).raw)).toNat +
          heldSlot stored slot

theorem frameStep_other (holds : HoldsSlots slices (buffers chunkId) stored)
    (other : delivery.frame.chunkId ≠ some chunkId) :
    FrameStep parse chunkId version slices buffers stored delivery where
  parsed := fun frame same => absurd same other
  holds := by
    obtain ⟨kept, fewer, keptHolds⟩ := holds.sweep delivery.sweptAt
    refine ⟨kept, by rwa [accept_other other], fun slot _ => ?_⟩
    rw [completes, decide_eq_false other, Bool.false_and, Bool.toNat_false, Nat.zero_add]
    exact (heldSlot_mono fewer slot).trans (Nat.le_add_left _ _)

theorem frameStep_own (sliced : SlicesOf chunkId version json slices chunks)
    (holds : HoldsSlots slices (buffers chunkId) stored) (bound : slot < slices.length)
    (sent : delivery.frame = (chunkAt chunkId version slices slot).raw) :
    FrameStep parse chunkId version slices buffers stored delivery := by
  obtain ⟨kept, fewer, keptHolds⟩ := holds.sweep delivery.sweptAt
  by_cases named : chunkId = ""
  · have rejected : readChunk delivery.frame = none := by
      cases read : readChunk delivery.frame with
      | none => rfl
      | some chunk =>
        obtain ⟨given, chunkNamed⟩ := chunkId_of_read read
        rw [sent] at given
        exact absurd ((Option.some.inj given).symm.trans named) chunkNamed
    have accepted : accept parse buffers delivery =
        (malformed delivery.frame, sweep delivery.sweptAt buffers) := by
      rw [accept, rejected]
    constructor
    · intro frame _ complete
      rw [accepted] at complete
      cases complete
    rw [accepted]
    refine ⟨kept, keptHolds, fun other _ => ?_⟩
    rw [completes, malformed, isComplete, Bool.and_false, Bool.toNat_false, Nat.zero_add]
    exact (heldSlot_mono fewer other).trans (Nat.le_add_left _ _)
  have inRange : kept ⊆ Finset.range slices.length := by
    rcases keptHolds with ⟨inRange, -⟩ | ⟨-, rfl⟩
    · exact inRange
    · exact Finset.empty_subset _
  have within : bytesOf slices kept ≤ meshMaxReassembledBytes := by
    rcases keptHolds with ⟨-, within, -⟩ | ⟨-, rfl⟩
    · exact within
    · exact Nat.zero_le _
  obtain ⟨createdAt, held⟩ : ∃ createdAt,
      sweep delivery.sweptAt buffers chunkId =
          some (bufferOf slices kept createdAt) ∨
        sweep delivery.sweptAt buffers chunkId = none ∧ kept = ∅ ∧
          createdAt = delivery.openedAt := by
    rcases keptHolds with ⟨-, -, createdAt, held⟩ | ⟨absent, rfl⟩
    · exact ⟨createdAt, Or.inl held⟩
    · exact ⟨_, Or.inr ⟨absent, rfl, rfl⟩⟩
  obtain ⟨result, buffer, fills, accepted⟩ :=
    accept_slice parse named sliced.nonempty sliced.few inRange bound sent held
  constructor
  · intro frame _ complete
    rw [accepted] at complete
    cases complete
    exact fills.parsed
  obtain ⟨after, afterHolds, counts⟩ := fills.holds inRange bound within
  rw [accepted]
  dsimp only
  rw [Function.update_self]
  refine ⟨after, afterHolds, fun other otherBound => ?_⟩
  have counted := counts other otherBound
  have keptFewer := heldSlot_mono fewer other
  have own : (decide (slot = other)).toNat ≤
      (decide (delivery.frame = (chunkAt chunkId version slices other).raw)).toNat := by
    by_cases same : slot = other
    · subst same
      rw [decide_eq_true sent]
      exact Bool.toNat_le _
    · rw [decide_eq_false same]
      exact Nat.zero_le _
  have completed : (completes chunkId (delivery, result)).toNat ≤ result.isComplete.toNat := by
    rw [completes]
    cases result.isComplete
    · rw [Bool.and_false]
    · exact Bool.toNat_le _
  omega

def OfFrame (chunkId : String) (version : Nat) (slices : List Text) (delivery : Delivery) : Prop :=
  delivery.frame.chunkId = some chunkId →
    ∃ slot < slices.length, delivery.frame = (chunkAt chunkId version slices slot).raw

variable (parse) in
theorem frameStep (sliced : SlicesOf chunkId version json slices chunks)
    (holds : HoldsSlots slices (buffers chunkId) stored)
    (ofFrame : OfFrame chunkId version slices delivery) :
    FrameStep parse chunkId version slices buffers stored delivery := by
  by_cases own : delivery.frame.chunkId = some chunkId
  · obtain ⟨slot, bound, sent⟩ := ofFrame own
    exact frameStep_own sliced holds bound sent
  · exact frameStep_other holds own

/-! ## Runs -/

variable {deliveries : List Delivery}

variable (parse) in
theorem holdsSlots_after (sliced : SlicesOf chunkId version json slices chunks)
    (ofFrame : ∀ delivery ∈ deliveries, OfFrame chunkId version slices delivery)
    (holds : HoldsSlots slices (buffers chunkId) stored) :
    ∃ after, HoldsSlots slices (buffersAfter parse buffers deliveries chunkId) after := by
  induction deliveries generalizing buffers stored with
  | nil => exact ⟨stored, holds⟩
  | cons delivery deliveries induction =>
    obtain ⟨after, afterHolds, -⟩ :=
      (frameStep parse sliced holds (ofFrame delivery mem_cons_self)).holds
    exact induction (forall_mem_cons.mp ofFrame).2 afterHolds

theorem completions_le (sliced : SlicesOf chunkId version json slices chunks)
    (ofFrame : ∀ delivery ∈ deliveries, OfFrame chunkId version slices delivery)
    (holds : HoldsSlots slices (buffers chunkId) stored) (bound : slot < slices.length) :
    completions chunkId (resultsOf parse buffers deliveries) ≤
      deliveriesOf (chunkAt chunkId version slices slot) deliveries + heldSlot stored slot := by
  induction deliveries generalizing buffers stored with
  | nil => exact Nat.zero_le _
  | cons delivery deliveries induction =>
    obtain ⟨after, afterHolds, counts⟩ :=
      (frameStep parse sliced holds (ofFrame delivery mem_cons_self)).holds
    have rest := induction (forall_mem_cons.mp ofFrame).2 afterHolds
    have step := counts slot bound
    rw [completions, deliveriesOf] at rest
    rw [resultsOf, completions, deliveriesOf, countP_cons, countP_cons]
    rw [Bool.toNat, Bool.toNat] at step
    simp only [Bool.cond_eq_ite, decide_eq_true_eq] at step ⊢
    omega

theorem complete_parsed (sliced : SlicesOf chunkId version json slices chunks)
    (ofFrame : ∀ delivery ∈ deliveries, OfFrame chunkId version slices delivery)
    (holds : HoldsSlots slices (buffers chunkId) stored) {frame : Value}
    (own : delivery.frame.chunkId = some chunkId)
    (completed : (delivery, .complete frame) ∈ resultsOf parse buffers deliveries) :
    parse json = .ok frame := by
  induction deliveries generalizing buffers stored with
  | nil => cases completed
  | cons first deliveries induction =>
    have step := frameStep parse sliced holds (ofFrame first mem_cons_self)
    rcases mem_cons.mp completed with here | later
    · obtain ⟨rfl, result⟩ := Prod.mk.inj here
      rw [← sliced.joined]
      exact step.parsed frame own result.symm
    · obtain ⟨after, afterHolds, -⟩ := step.holds
      exact induction (forall_mem_cons.mp ofFrame).2 afterHolds later

end Frame

/-! ## Several frames -/

section Frames

variable {Value : Type} {parse : Text → Except String Value} {frames : List SplitFrame}
  {deliveries : List Delivery}

variable {buffers : MeshChunkBuffers}

theorem absent_after {chunkId : String}
    (others : ∀ delivery ∈ deliveries, delivery.frame.chunkId ≠ some chunkId)
    (absent : buffers chunkId = none) : buffersAfter parse buffers deliveries chunkId = none := by
  induction deliveries generalizing buffers with
  | nil => exact absent
  | cons delivery deliveries induction =>
    refine induction (forall_mem_cons.mp others).2 ?_
    rw [accept_other (others delivery mem_cons_self), sweep, absent]
    rfl

theorem SplitFrame.chunkId_of_mem (frame : SplitFrame) {chunk : MeshChunkEnvelope}
    (member : chunk ∈ frame.chunks) : chunk.raw.chunkId = some frame.chunkId := by
  obtain ⟨slices, sliced⟩ := splitMeshFrame_slices frame.split
  rw [sliced.chunks_eq] at member
  obtain ⟨slot, -, rfl⟩ := mem_map.mp member
  rfl

theorem mem_of_result {delivery : Delivery} {result : MeshChunkAcceptResult Value}
    (member : (delivery, result) ∈ resultsOf parse buffers deliveries) : delivery ∈ deliveries := by
  induction deliveries generalizing buffers with
  | nil => cases member
  | cons first deliveries induction =>
    rcases mem_cons.mp member with here | later
    · rw [(Prod.mk.inj here).1]
      exact mem_cons_self
    · exact .tail _ (induction later)

def ChunksOf (frames : List SplitFrame) (deliveries : List Delivery) : Prop :=
  ∀ delivery ∈ deliveries, ∃ frame ∈ frames, ∃ chunk ∈ frame.chunks, delivery.frame = chunk.raw

theorem ofFrame_of_chunks (distinct : (frames.map SplitFrame.chunkId).Nodup)
    (sent : ChunksOf frames deliveries) {frame : SplitFrame} (member : frame ∈ frames)
    {slices : List Text}
    (sliced : SlicesOf frame.chunkId frame.version frame.json slices frame.chunks) :
    ∀ delivery ∈ deliveries, OfFrame frame.chunkId frame.version slices delivery := by
  intro delivery delivered own
  obtain ⟨other, otherMember, chunk, chunkMember, shape⟩ := sent delivery delivered
  obtain ⟨otherSlices, otherSliced⟩ := splitMeshFrame_slices other.split
  rw [otherSliced.chunks_eq] at chunkMember
  obtain ⟨otherSlot, -, rfl⟩ := mem_map.mp chunkMember
  have same : other = frame := by
    rw [shape] at own
    exact inj_on_of_nodup_map distinct otherMember member (Option.some.inj own)
  subst same
  have chunkMember' : chunkAt other.chunkId other.version otherSlices otherSlot ∈ other.chunks := by
    rw [otherSliced.chunks_eq]
    exact chunkMember
  rw [sliced.chunks_eq] at chunkMember'
  obtain ⟨slot, inRange, chunkShape⟩ := mem_map.mp chunkMember'
  exact ⟨slot, mem_range.mp inRange, by rw [shape, chunkShape]⟩

/-- Chunks of frames with different identifiers, delivered in any order, any of them lost or
repeated: what completes is the frame of the identifier, a frame completes no oftener than each of
its chunks was delivered, and every buffer on the way counts what it stores. -/
theorem interleaved_frames (distinct : (frames.map SplitFrame.chunkId).Nodup)
    (sent : ChunksOf frames deliveries) :
    (∀ delivery value, (delivery, .complete value) ∈ resultsOf parse noBuffers deliveries →
        ∃ frame ∈ frames, delivery.frame.chunkId = some frame.chunkId ∧
          parse frame.json = .ok value) ∧
      (∀ frame ∈ frames, ∀ chunk ∈ frame.chunks,
        completions frame.chunkId (resultsOf parse noBuffers deliveries) ≤
          deliveriesOf chunk deliveries) ∧
      ∀ before, before <+: deliveries → ∀ chunkId entry,
        buffersAfter parse noBuffers before chunkId = some entry → entry.Counted := by
  refine ⟨?_, ?_, ?_⟩
  · intro delivery value completed
    obtain ⟨frame, member, chunk, chunkMember, shape⟩ := sent delivery (mem_of_result completed)
    obtain ⟨slices, sliced⟩ := splitMeshFrame_slices frame.split
    have own : delivery.frame.chunkId = some frame.chunkId := by
      rw [shape, frame.chunkId_of_mem chunkMember]
    exact ⟨frame, member, own, complete_parsed sliced (ofFrame_of_chunks distinct sent member
      sliced)
      (holdsSlots_start _) own completed⟩
  · intro frame member chunk chunkMember
    obtain ⟨slices, sliced⟩ := splitMeshFrame_slices frame.split
    rw [sliced.chunks_eq] at chunkMember
    obtain ⟨slot, inRange, rfl⟩ := List.mem_map.mp chunkMember
    exact completions_le sliced (ofFrame_of_chunks distinct sent member sliced)
      (holdsSlots_start _) (List.mem_range.mp inRange)
  intro before isPrefix chunkId entry found
  have sentBefore : ChunksOf frames before := fun delivery member =>
    sent delivery (isPrefix.subset member)
  by_cases known : ∃ frame ∈ frames, frame.chunkId = chunkId
  · obtain ⟨frame, member, rfl⟩ := known
    obtain ⟨slices, sliced⟩ := splitMeshFrame_slices frame.split
    obtain ⟨stored, holds⟩ := holdsSlots_after parse sliced
      (ofFrame_of_chunks distinct sentBefore member sliced) (holdsSlots_start _)
    rw [found] at holds
    exact holds.counted sliced.nonempty
  have absent : buffersAfter parse noBuffers before chunkId = none := by
    refine absent_after (fun delivery member own => known ?_) rfl
    obtain ⟨frame, frameMember, chunk, chunkMember, shape⟩ := sentBefore delivery member
    rw [shape, frame.chunkId_of_mem chunkMember] at own
    exact ⟨frame, frameMember, Option.some.inj own⟩
  cases absent.symm.trans found

def splitDigit (chunkId : String)
    (split : splitMeshFrame chunkId 1 [0x31] = .ok [buildChunkEnvelope chunkId 1 0 1 [0x31]]) :
    SplitFrame where
  json := [0x31]
  chunkId := chunkId
  version := 1
  chunks := [buildChunkEnvelope chunkId 1 0 1 [0x31]]
  split := split

def digitFrames : List SplitFrame := [splitDigit "a" (by decide), splitDigit "b" (by decide)]

theorem chunksOf_digitFrames : ChunksOf digitFrames (oneDelivery ++ oneDelivery) := by
  intro delivery member
  refine ⟨_, mem_cons_self, _, mem_cons_self, ?_⟩
  rcases mem_append.mp member with first | second
  · rw [mem_singleton.mp first]
  · rw [mem_singleton.mp second]

/-- Two frames of a digit, the chunk of the first delivered twice. -/
theorem repeated_digit_counted :
    completions "a" (resultsOf parseOne noBuffers (oneDelivery ++ oneDelivery)) ≤
      deliveriesOf (buildChunkEnvelope "a" 1 0 1 [0x31]) (oneDelivery ++ oneDelivery) :=
  have distinct : (digitFrames.map SplitFrame.chunkId).Nodup := by decide
  (interleaved_frames distinct chunksOf_digitFrames).2.1 _ List.mem_cons_self _ List.mem_cons_self

end Frames

end Adhdev.MeshChunking
