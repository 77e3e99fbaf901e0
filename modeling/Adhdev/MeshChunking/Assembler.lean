import Adhdev.MeshChunking.Split

/-! # Reassembling mesh frames

`MeshChunkAssembler` of `rpc-chunking.ts`.
-/

namespace Adhdev.MeshChunking

open Text List Function

inductive MeshChunkFailureReason
  | malformedChunk | tooManyChunks | inconsistentTotal | duplicateChunkMismatch | budgetExceeded
  | reassembledParseFailed

/-- A stored chunk of a frame that lacks others gives `incomplete`. -/
inductive MeshChunkAcceptResult (Value : Type) where
  | incomplete (received total : Nat)
  | complete (frame : Value)
  | failed (reason : MeshChunkFailureReason) (detail : String) (chunkId : String)

/-- A field as a template prints it, and the integer that `Number` makes of it, if it does. -/
structure NumberField where
  printed : String
  number : Option Int
  deriving DecidableEq

/-- A frame of any kind: its fields, where they are texts or numbers. -/
structure RawChunk where
  chunkId : Option String
  index : NumberField
  total : NumberField
  data : Option Text
  deriving DecidableEq

def numberField (number : Nat) : NumberField where
  printed := toString number
  number := some number

def MeshChunkEnvelope.raw (envelope : MeshChunkEnvelope) : RawChunk where
  chunkId := some envelope.chunkId
  index := numberField envelope.index
  total := numberField envelope.total
  data := some envelope.data

structure MeshChunkBuffer where
  total : Nat
  chunks : List Text
  received : Nat
  bytesReceived : Nat
  createdAt : Int

abbrev MeshChunkBuffers := String → Option MeshChunkBuffer

def noBuffers : MeshChunkBuffers := fun _ => none

/-- A frame, and what the clock shows when the assembler sweeps and when it opens a buffer. -/
structure Delivery where
  frame : RawChunk
  sweptAt : Int
  openedAt : Int

structure MeshChunk where
  chunkId : String
  index : Nat
  total : Nat
  data : Text

namespace MeshChunkAssembler

def sweep (now : Int) (buffers : MeshChunkBuffers) : MeshChunkBuffers := fun key =>
  (buffers key).filter fun entry => !decide (meshChunkTtlMs < now - entry.createdAt)

def readChunk (raw : RawChunk) : Option MeshChunk :=
  let chunkId := raw.chunkId.getD ""
  let data := raw.data.getD []
  match raw.index.number, raw.total.number with
  | some index, some total =>
    if chunkId = "" ∨ index < 0 ∨ total ≤ 0 ∨ total ≤ index ∨ data = [] then none
    else some { chunkId, index := index.toNat, total := total.toNat, data }
  | _, _ => none

def malformed {Value : Type} (raw : RawChunk) : MeshChunkAcceptResult Value :=
  let chunkId := raw.chunkId.getD ""
  .failed .malformedChunk
    ("malformed chunk envelope (chunkId=" ++ (if chunkId = "" then "-" else chunkId) ++ " index=" ++
      raw.index.printed ++ " total=" ++ raw.total.printed ++ ")")
    chunkId

def openBuffer (total : Nat) (now : Int) : MeshChunkBuffer where
  total := total
  chunks := List.replicate total []
  received := 0
  bytesReceived := 0
  createdAt := now

section Accept

variable {Value : Type} (parse : Text → Except String Value)

def finish (chunkId : String) (joined : Text) : MeshChunkAcceptResult Value :=
  match parse joined with
  | .ok frame => .complete frame
  | .error message =>
    .failed .reassembledParseFailed ("reassembled frame is not valid JSON: " ++ message) chunkId

def fill (buffers : MeshChunkBuffers) (entry : MeshChunkBuffer) (chunk : MeshChunk) :
    MeshChunkAcceptResult Value × MeshChunkBuffers :=
  let existing := entry.chunks.getD chunk.index []
  let dropped := Function.update buffers chunk.chunkId none
  if existing ≠ [] then
    if existing = chunk.data then (.incomplete entry.received entry.total, buffers)
    else
      (.failed .duplicateChunkMismatch s!"chunk {chunk.index} arrived twice with different content"
        chunk.chunkId, dropped)
  else
    let chunkBytes := utf8ByteLength chunk.data
    if meshMaxReassembledBytes < entry.bytesReceived + chunkBytes then
      (.failed .budgetExceeded s!"reassembled frame would exceed {meshMaxReassembledBytes} bytes"
        chunk.chunkId, dropped)
    else
      let filled :=
        { entry with
          chunks := entry.chunks.set chunk.index chunk.data
          received := entry.received + 1
          bytesReceived := entry.bytesReceived + chunkBytes }
      if filled.received < filled.total then
        (.incomplete filled.received filled.total,
          Function.update buffers chunk.chunkId (some filled))
      else (finish parse chunk.chunkId filled.chunks.flatten, dropped)

def acceptChunk (buffers : MeshChunkBuffers) (openedAt : Int) (chunk : MeshChunk) :
    MeshChunkAcceptResult Value × MeshChunkBuffers :=
  let dropped := Function.update buffers chunk.chunkId none
  if meshMaxChunks < chunk.total then
    (.failed .tooManyChunks s!"chunk total {chunk.total} exceeds the {meshMaxChunks} cap"
      chunk.chunkId, dropped)
  else
    match buffers chunk.chunkId with
    | none =>
      let entry := openBuffer chunk.total openedAt
      fill parse (Function.update buffers chunk.chunkId (some entry)) entry chunk
    | some entry =>
      if entry.total ≠ chunk.total then
        (.failed .inconsistentTotal
          (s!"chunk {chunk.index} declares total {chunk.total} but the group was opened " ++
            s!"with {entry.total}")
          chunk.chunkId, dropped)
      else fill parse buffers entry chunk

def accept (buffers : MeshChunkBuffers) (delivery : Delivery) :
    MeshChunkAcceptResult Value × MeshChunkBuffers :=
  let swept := sweep delivery.sweptAt buffers
  match readChunk delivery.frame with
  | none => (malformed delivery.frame, swept)
  | some chunk => acceptChunk parse swept delivery.openedAt chunk

/-! ## Runs -/

def buffersAfter (buffers : MeshChunkBuffers) : List Delivery → MeshChunkBuffers
  | [] => buffers
  | delivery :: rest => buffersAfter (accept parse buffers delivery).2 rest

def resultsOf (buffers : MeshChunkBuffers) :
    List Delivery → List (Delivery × MeshChunkAcceptResult Value)
  | [] => []
  | delivery :: rest =>
    (delivery, (accept parse buffers delivery).1) ::
      resultsOf (accept parse buffers delivery).2 rest

end Accept

end MeshChunkAssembler

/-! ## The buffers of a split frame -/

section Slices

variable (slices : List Text) (stored : Finset Nat)

def slotOf (slot : Nat) : Text := if slot ∈ stored then slices.getD slot [] else []

def bytesOf : Nat := ∑ slot ∈ stored, utf8ByteLength (slices.getD slot [])

def bufferOf (createdAt : Int) : MeshChunkBuffer where
  total := slices.length
  chunks := (List.range slices.length).map (slotOf slices stored)
  received := stored.card
  bytesReceived := bytesOf slices stored
  createdAt := createdAt

variable {slices stored}

theorem openBuffer_eq (now : Int) :
    MeshChunkAssembler.openBuffer slices.length now = bufferOf slices ∅ now := by
  rw [MeshChunkAssembler.openBuffer, bufferOf, bytesOf, Finset.sum_empty, Finset.card_empty]
  congr 1
  refine (eq_replicate_iff.mpr ⟨by rw [length_map, length_range], ?_⟩).symm
  intro chunk member
  obtain ⟨slot, -, rfl⟩ := mem_map.mp member
  exact if_neg (Finset.notMem_empty slot)

variable {createdAt : Int}

theorem getD_bufferOf {slot : Nat} (inRange : slot < slices.length) :
    (bufferOf slices stored createdAt).chunks.getD slot [] = slotOf slices stored slot := by
  rw [bufferOf, getD_eq_getElem?_getD, getElem?_map, getElem?_range inRange]
  rfl

theorem set_slots (slot : Nat) :
    ((range slices.length).map (slotOf slices stored)).set slot (slices.getD slot []) =
      (range slices.length).map (slotOf slices (insert slot stored)) := by
  apply ext_getElem
  · simp only [length_set, length_map]
  intro position before after
  rw [getElem_set, getElem_map, getElem_map, getElem_range, slotOf, slotOf]
  by_cases here : slot = position
  · rw [if_pos here, if_pos (here ▸ Finset.mem_insert_self slot stored), here]
  · simp only [if_neg here, Finset.mem_insert, Ne.symm here, false_or]

theorem flatten_all : ((range slices.length).map
    (slotOf slices (Finset.range slices.length))).flatten = slices.flatten := by
  congr 1
  apply ext_getElem
  · rw [length_map, length_range]
  intro position before after
  rw [getElem_map, getElem_range, slotOf, if_pos (Finset.mem_range.mpr after),
    getD_eq_getElem _ _ after]

theorem bytesOf_insert {slot : Nat} (fresh : slot ∉ stored) : bytesOf slices (insert slot stored) =
      bytesOf slices stored + utf8ByteLength (slices.getD slot []) := by
  rw [bytesOf, Finset.sum_insert fresh, Nat.add_comm, bytesOf]

theorem received_bufferOf (nonempty : ∀ slice ∈ slices, slice ≠ [])
    (inRange : stored ⊆ Finset.range slices.length) : (bufferOf slices stored createdAt).received =
      (bufferOf slices stored createdAt).chunks.countP fun chunk => chunk ≠ [] := by
  have filled : ∀ slot ∈ range slices.length,
      (decide (slotOf slices stored slot ≠ []) = true) ↔ decide (slot ∈ stored) = true := by
    intro slot member
    have bound := mem_range.mp member
    rw [slotOf]
    by_cases here : slot ∈ stored
    · rw [if_pos here, getD_eq_getElem _ _ bound]
      simp only [ne_eq, nonempty _ (getElem_mem bound), not_false_eq_true, decide_true, here]
    · rw [if_neg here]
      simp only [ne_eq, not_true_eq_false, decide_false, here]
  have counted : stored.card = (range slices.length).countP fun slot => slot ∈ stored := by
    rw [countP_eq_length_filter,
      ← toFinset_card_of_nodup (nodup_range.filter _), toFinset_filter,
      toFinset_range]
    congr 1
    ext slot
    simp only [decide_eq_true_eq, Finset.mem_filter]
    exact ⟨fun member => ⟨inRange member, member⟩, fun both => both.2⟩
  rw [bufferOf, countP_map]
  exact counted.trans (countP_congr fun slot member => (filled slot member).symm)

theorem bytes_bufferOf (inRange : stored ⊆ Finset.range slices.length) :
    (bufferOf slices stored createdAt).bytesReceived =
      ((bufferOf slices stored createdAt).chunks.map utf8ByteLength).sum := by
  have summed : ((range slices.length).map
      fun slot => utf8ByteLength (slotOf slices stored slot)).sum =
      ∑ slot ∈ Finset.range slices.length, utf8ByteLength (slotOf slices stored slot) := rfl
  rw [bufferOf, map_map]
  refine Eq.trans ?_ summed.symm
  rw [bytesOf, ← Finset.sum_subset inRange]
  · exact Finset.sum_congr rfl fun slot member => by rw [slotOf, if_pos member]
  · intro slot _ absent
    rw [slotOf, if_neg absent, utf8ByteLength]

end Slices

/-! ## What one chunk of a split frame does -/

namespace MeshChunkAssembler

section Step

variable {Value : Type} (parse : Text → Except String Value)

inductive FillsSlot (slices : List Text) (chunkId : String) (stored : Finset Nat) (createdAt : Int)
    (slot : Nat) : MeshChunkAcceptResult Value → Option MeshChunkBuffer → Prop
  | again (present : slot ∈ stored) :
      FillsSlot slices chunkId stored createdAt slot (.incomplete stored.card slices.length)
        (some (bufferOf slices stored createdAt))
  | tooLarge (fresh : slot ∉ stored)
      (above : meshMaxReassembledBytes < bytesOf slices (insert slot stored)) :
      FillsSlot slices chunkId stored createdAt slot
        (.failed .budgetExceeded s!"reassembled frame would exceed {meshMaxReassembledBytes} bytes"
          chunkId)
        none
  | more (fresh : slot ∉ stored)
      (within : bytesOf slices (insert slot stored) ≤ meshMaxReassembledBytes)
      (lacking : insert slot stored ≠ Finset.range slices.length) :
      FillsSlot slices chunkId stored createdAt slot
        (.incomplete (stored.card + 1) slices.length)
        (some (bufferOf slices (insert slot stored) createdAt))
  | last (fresh : slot ∉ stored)
      (within : bytesOf slices (insert slot stored) ≤ meshMaxReassembledBytes)
      (whole : insert slot stored = Finset.range slices.length) :
      FillsSlot slices chunkId stored createdAt slot (finish parse chunkId slices.flatten) none

variable {parse} {slices : List Text} {chunkId : String} {stored : Finset Nat} {createdAt : Int}
  {slot : Nat} {buffers : MeshChunkBuffers}

variable (parse) in
theorem fill_bufferOf (nonempty : ∀ slice ∈ slices, slice ≠ [])
    (inRange : stored ⊆ Finset.range slices.length) (bound : slot < slices.length)
    (held : buffers chunkId = some (bufferOf slices stored createdAt)) :
    ∃ result buffer, FillsSlot parse slices chunkId stored createdAt slot result buffer ∧
      fill parse buffers (bufferOf slices stored createdAt)
        { chunkId, index := slot, total := slices.length, data := slices.getD slot [] } =
          (result, update buffers chunkId buffer) := by
  have filledData : slices.getD slot [] ≠ [] := by
    rw [getD_eq_getElem _ _ bound]
    exact nonempty _ (getElem_mem bound)
  have card := Finset.card_le_card inRange
  rw [Finset.card_range] at card
  rw [fill]
  dsimp only
  rw [getD_bufferOf bound, slotOf]
  by_cases present : slot ∈ stored
  · rw [if_pos present, if_pos filledData, if_pos rfl]
    refine ⟨_, _, .again present, ?_⟩
    rw [← held, update_eq_self]
    rfl
  have bytes : bytesOf slices (insert slot stored) =
      bytesOf slices stored + utf8ByteLength (slices.getD slot []) := bytesOf_insert present
  have insertCard := Finset.card_insert_of_notMem present
  have insertRange : insert slot stored ⊆ Finset.range slices.length :=
    Finset.insert_subset (Finset.mem_range.mpr bound) inRange
  rw [if_neg present, if_neg (not_not.mpr rfl)]
  simp only [bufferOf, ← bytes, set_slots]
  by_cases above : meshMaxReassembledBytes < bytesOf slices (insert slot stored)
  · rw [if_pos above]
    exact ⟨_, _, .tooLarge present above, rfl⟩
  have within := not_lt.mp above
  rw [if_neg above]
  by_cases whole : insert slot stored = Finset.range slices.length
  · have complete : stored.card + 1 = slices.length := by
      rw [← insertCard, whole, Finset.card_range]
    rw [if_neg (by omega), whole, flatten_all]
    exact ⟨_, _, .last present within whole, rfl⟩
  have fewer := Finset.card_lt_card (insertRange.ssubset_of_ne whole)
  rw [Finset.card_range, insertCard] at fewer
  rw [if_pos fewer]
  refine ⟨_, _, .more present within whole, ?_⟩
  rw [bufferOf, insertCard]

variable (parse) in
theorem accept_slice {delivery : Delivery} {version : Nat} (named : chunkId ≠ "")
    (nonempty : ∀ slice ∈ slices, slice ≠ []) (few : slices.length ≤ meshMaxChunks)
    (inRange : stored ⊆ Finset.range slices.length) (bound : slot < slices.length)
    (sent : delivery.frame =
      (buildChunkEnvelope chunkId version slot slices.length (slices.getD slot [])).raw)
    (held : sweep delivery.sweptAt buffers chunkId = some (bufferOf slices stored createdAt) ∨
      sweep delivery.sweptAt buffers chunkId = none ∧ stored = ∅ ∧ createdAt = delivery.openedAt) :
    ∃ result buffer, FillsSlot parse slices chunkId stored createdAt slot result buffer ∧
      accept parse buffers delivery =
        (result, update (sweep delivery.sweptAt buffers) chunkId buffer) := by
  have filledData : slices.getD slot [] ≠ [] := by
    rw [getD_eq_getElem _ _ bound]
    exact nonempty _ (getElem_mem bound)
  have read : readChunk delivery.frame =
      some { chunkId, index := slot, total := slices.length, data := slices.getD slot [] } := by
    have sound : ¬(chunkId = "" ∨ (slot : Int) < 0 ∨ (slices.length : Int) ≤ 0 ∨
        (slices.length : Int) ≤ slot ∨ slices.getD slot [] = []) := by
      rintro (unnamed | below | none | beyond | empty)
      · exact named unnamed
      · omega
      · omega
      · omega
      · exact filledData empty
    rw [sent]
    exact (if_neg sound).trans rfl
  rw [accept, read]
  dsimp only
  rw [acceptChunk, if_neg (not_lt.mpr few)]
  rcases held with held | ⟨absent, rfl, rfl⟩
  · rw [held]
    dsimp only
    have total : (bufferOf slices stored createdAt).total = slices.length := rfl
    rw [if_neg (not_not.mpr total)]
    exact fill_bufferOf parse nonempty inRange bound held
  rw [absent]
  dsimp only
  rw [openBuffer_eq]
  obtain ⟨result, buffer, fills, filled⟩ :=
    fill_bufferOf parse nonempty inRange bound
      (update_self chunkId (some (bufferOf slices ∅ delivery.openedAt))
        (sweep delivery.sweptAt buffers))
  refine ⟨result, buffer, fills, filled.trans ?_⟩
  rw [update_idem]

variable {chunk : MeshChunk}

theorem fill_other {entry : MeshChunkBuffer} (other : chunkId ≠ chunk.chunkId) :
    (fill parse buffers entry chunk).2 chunkId = buffers chunkId := by
  rw [fill]
  dsimp only
  split_ifs
  · rfl
  · exact update_of_ne other _ _
  · exact update_of_ne other _ _
  · exact update_of_ne other _ _
  · exact update_of_ne other _ _

theorem acceptChunk_other {openedAt : Int} (other : chunkId ≠ chunk.chunkId) :
    (acceptChunk parse buffers openedAt chunk).2 chunkId = buffers chunkId := by
  rw [acceptChunk]
  dsimp only
  split_ifs
  · exact update_of_ne other _ _
  cases buffers chunk.chunkId with
  | none => exact (fill_other other).trans (update_of_ne other _ _)
  | some entry =>
    dsimp only
    split_ifs
    · exact update_of_ne other _ _
    · exact fill_other other

theorem chunkId_of_read {raw : RawChunk} (read : readChunk raw = some chunk) :
    raw.chunkId = some chunk.chunkId ∧ chunk.chunkId ≠ "" := by
  rw [readChunk] at read
  cases index : raw.index.number with
  | none =>
    rw [index] at read
    cases read
  | some index' =>
    cases total : raw.total.number with
    | none =>
      rw [index, total] at read
      cases read
    | some total' =>
      rw [index, total] at read
      dsimp only at read
      split_ifs at read with bad
      cases read
      cases given : raw.chunkId with
      | none => exact absurd (Or.inl (by rw [given]; rfl)) bad
      | some chunkId =>
        refine ⟨rfl, fun unnamed => bad (Or.inl ?_)⟩
        rw [given]
        exact unnamed

theorem accept_other {delivery : Delivery} (other : delivery.frame.chunkId ≠ some chunkId) :
    (accept parse buffers delivery).2 chunkId = sweep delivery.sweptAt buffers chunkId := by
  rw [accept]
  cases read : readChunk delivery.frame with
  | none => rfl
  | some chunk => exact acceptChunk_other fun same => other (by rw [(chunkId_of_read read).1, same])

end Step

end MeshChunkAssembler

end Adhdev.MeshChunking
