import Adhdev.MeshChunking.Assembler

/-! # Chunks in any order -/

namespace Adhdev.MeshChunking

open Text MeshChunkAssembler List MeshChunkEnvelope

/-! ## The chunks of a frame by their slots -/

section Slots

variable {chunkId : String} {version : Nat} {json : Text} {slices : List Text}
  {chunks : List MeshChunkEnvelope}

def chunkAt (chunkId : String) (version : Nat) (slices : List Text) (slot : Nat) :
    MeshChunkEnvelope :=
  buildChunkEnvelope chunkId version slot slices.length (slices.getD slot [])

theorem SlicesOf.chunks_eq (sliced : SlicesOf chunkId version json slices chunks) :
    chunks = (range slices.length).map (chunkAt chunkId version slices) := by
  rw [sliced.built]
  apply ext_getElem
  · rw [length_mapIdx, length_map, length_range]
  intro slot before after
  rw [length_mapIdx] at before
  rw [getElem_mapIdx, getElem_map, getElem_range, chunkAt, getD_eq_getElem _ _ before]

theorem SlicesOf.bytes_eq (sliced : SlicesOf chunkId version json slices chunks) :
    (chunks.map fun chunk => utf8ByteLength chunk.data).sum =
      bytesOf slices (Finset.range slices.length) := by
  rw [sliced.chunks_eq, map_map]
  rfl

theorem bytesOf_mono {fewer more : Finset Nat} (included : fewer ⊆ more) :
    bytesOf slices fewer ≤ bytesOf slices more :=
  Finset.sum_le_sum_of_subset included

end Slots

/-! ## Results of a whole delivery -/

section Results

variable {Value : Type}

def ReturnsFrame (frame : Value) (results : List (MeshChunkAcceptResult Value)) : Prop :=
  ∃ earlier, results = earlier ++ [.complete frame] ∧
    ∀ result ∈ earlier, ∃ received total, result = .incomplete received total

variable {rest : List (MeshChunkAcceptResult Value)} {frame : Value}

theorem returnsFrame_cons {result : MeshChunkAcceptResult Value} (more : rest ≠ []) :
    ReturnsFrame frame (result :: rest) ↔
      (∃ received total, result = .incomplete received total) ∧ ReturnsFrame frame rest := by
  constructor
  · rintro ⟨earlier, shape, lacking⟩
    cases earlier with
    | nil => exact absurd (cons.inj shape).2 more
    | cons first earlier =>
      obtain ⟨same, tail⟩ := cons.inj shape
      exact ⟨same ▸ lacking first mem_cons_self, earlier, tail, (forall_mem_cons.mp lacking).2⟩
  rintro ⟨first, earlier, tail, lacking⟩
  refine ⟨result :: earlier, by rw [tail, cons_append], ?_⟩
  intro other member
  rcases mem_cons.mp member with rfl | member
  · exact first
  · exact lacking other member

theorem not_returnsFrame_of_failed {reason : MeshChunkFailureReason} {detail chunkId : String} :
    ¬ReturnsFrame frame (.failed reason detail chunkId :: rest) := by
  rintro ⟨earlier, shape, lacking⟩
  cases earlier with
  | nil => cases (cons.inj shape).1
  | cons first earlier =>
    obtain ⟨received, total, named⟩ := lacking first mem_cons_self
    cases (cons.inj shape).1.trans named

theorem returnsFrame_singleton (frame : Value) : ReturnsFrame frame [.complete frame] :=
  ⟨[], rfl, fun _ member => (by cases member)⟩

/-! ## Delivering the slots -/

variable {parse : Text → Except String Value} {chunkId : String} {version : Nat}
  {slices : List Text}

variable {deliveries : List Delivery}

variable {buffers : MeshChunkBuffers}

theorem deliver_slots (named : chunkId ≠ "") (nonempty : ∀ slice ∈ slices, slice ≠ [])
    (few : slices.length ≤ meshMaxChunks) (parsed : parse slices.flatten = .ok frame)
    (createdAt : Int) (slots : List Nat) (stored : Finset Nat)
    (sent : deliveries.map Delivery.frame = slots.map fun slot => (chunkAt chunkId version slices
      slot).raw) (some : slots ≠ []) (distinct : slots.Nodup)
    (fresh : ∀ slot ∈ slots, slot ∉ stored)
    (all : stored ∪ slots.toFinset = Finset.range slices.length)
    (inTime : ∀ delivery ∈ deliveries, delivery.sweptAt - createdAt ≤ meshChunkTtlMs)
    (held : buffers chunkId = .some (bufferOf slices stored createdAt) ∨ buffers chunkId = none ∧
      stored = ∅ ∧ ∀ first ∈ deliveries.head?, createdAt = first.openedAt) :
    ReturnsFrame frame ((resultsOf parse buffers deliveries).map Prod.snd) ↔
      bytesOf slices (Finset.range slices.length) ≤ meshMaxReassembledBytes := by
  induction slots generalizing stored buffers deliveries with
  | nil => exact absurd rfl some
  | cons slot slots induction =>
    cases deliveries with
    | nil => cases sent
    | cons delivery deliveries =>
      obtain ⟨sentFirst, sentRest⟩ := cons.inj sent
      obtain ⟨notLater, distinctRest⟩ := nodup_cons.mp distinct
      have inRange : stored ⊆ Finset.range slices.length := by
        rw [← all]
        exact Finset.subset_union_left
      have bound : slot < slices.length := by
        rw [← Finset.mem_range, ← all]
        exact Finset.mem_union_right _ (mem_toFinset.mpr mem_cons_self)
      have insertRange := Finset.insert_subset (Finset.mem_range.mpr bound) inRange
      have young := inTime delivery mem_cons_self
      have swept : sweep delivery.sweptAt buffers chunkId =
            .some (bufferOf slices stored createdAt) ∨
          sweep delivery.sweptAt buffers chunkId = none ∧ stored = ∅ ∧
            createdAt = delivery.openedAt := by
        rcases held with held | ⟨absent, empty, opened⟩
        · refine Or.inl ?_
          rw [sweep, held, Option.filter_some, if_pos]
          rw [Bool.not_eq_true', decide_eq_false_iff_not]
          exact not_lt.mpr young
        · exact Or.inr ⟨by rw [sweep, absent]; rfl, empty, opened delivery rfl⟩
      obtain ⟨result, buffer, fills, accepted⟩ :=
        accept_slice parse named nonempty few inRange bound sentFirst swept
      rw [resultsOf, accepted, map_cons]
      cases fills with
      | again present => exact absurd present (fresh slot mem_cons_self)
      | tooLarge _ above =>
        exact iff_of_false not_returnsFrame_of_failed
          (not_le.mpr (above.trans_le (bytesOf_mono insertRange)))
      | more _ within lacking =>
        have left : slots ≠ [] := by
          rintro rfl
          exact lacking (by rw [← all]; simp)
        have freshRest : ∀ later ∈ slots, later ∉ insert slot stored := by
          intro later member
          rw [Finset.mem_insert, not_or]
          exact ⟨fun same => notLater (same ▸ member), fresh later (.tail _ member)⟩
        have allRest : insert slot stored ∪ slots.toFinset = Finset.range slices.length := by
          rw [← all, toFinset_cons, Finset.insert_union, Finset.union_insert]
        rw [returnsFrame_cons, ← induction _ sentRest left distinctRest freshRest allRest
          (forall_mem_cons.mp inTime).2
          (Or.inl (Function.update_self _ _ _))]
        · exact and_iff_right ⟨_, _, rfl⟩
        · cases deliveries with
          | nil => exact absurd (map_eq_nil_iff.mp sentRest.symm) left
          | cons next deliveries => exact cons_ne_nil _ _
      | last _ within whole =>
        have none : slots = [] := by
          refine eq_nil_iff_forall_not_mem.mpr fun later member => ?_
          have included : later ∈ insert slot stored := by
            rw [whole, ← all]
            exact Finset.mem_union_right _ (mem_toFinset.mpr (.tail _ member))
          rcases Finset.mem_insert.mp included with rfl | present
          · exact notLater member
          · exact fresh later (.tail _ member) present
        subst none
        rw [map_eq_nil_iff.mp sentRest, resultsOf, finish, parsed]
        exact iff_of_true (returnsFrame_singleton frame) (whole ▸ within)

theorem unnamed_malformed (unnamed : ∀ delivery ∈ deliveries, delivery.frame.chunkId = some "") :
    ¬ReturnsFrame frame ((resultsOf parse buffers deliveries).map Prod.snd) := by
  cases deliveries with
  | nil =>
    rintro ⟨earlier, shape, -⟩
    cases earlier <;> cases shape
  | cons delivery deliveries =>
    have rejected : readChunk delivery.frame = none := by
      cases read : readChunk delivery.frame with
      | none => rfl
      | some chunk =>
        obtain ⟨given, named⟩ := chunkId_of_read read
        exact absurd (Option.some.inj (given.symm.trans (unnamed delivery mem_cons_self))) named
    rw [resultsOf, accept, rejected]
    exact not_returnsFrame_of_failed

variable {json : Text} {chunks : List MeshChunkEnvelope}

theorem slices_round_trip (sliced : SlicesOf chunkId version json slices chunks)
    (parsed : parse json = .ok frame)
    (order : (deliveries.map Delivery.frame).Perm (chunks.map raw))
    (inTime : ∀ first ∈ deliveries.head?, ∀ delivery ∈ deliveries, delivery.sweptAt -
      first.openedAt ≤ meshChunkTtlMs) :
    ReturnsFrame frame ((resultsOf parse noBuffers deliveries).map Prod.snd) ↔
      chunkId ≠ "" ∧ (chunks.map fun chunk => utf8ByteLength chunk.data).sum ≤
        meshMaxReassembledBytes := by
  rw [sliced.bytes_eq]
  by_cases named : chunkId = ""
  · refine iff_of_false (unnamed_malformed fun delivery member => ?_) fun both => both.1 named
    have listed := order.mem_iff.mp (mem_map_of_mem (f := Delivery.frame) member)
    rw [sliced.chunks_eq] at listed
    obtain ⟨chunk, chunkMember, same⟩ := mem_map.mp listed
    obtain ⟨slot, -, rfl⟩ := mem_map.mp chunkMember
    rw [← same, ← named]
    rfl
  rw [and_iff_right named]
  rw [sliced.chunks_eq, map_map] at order
  obtain ⟨slots, sent, slotsPerm⟩ := (congrFun (congrFun (eq_map_comp_perm
    (raw ∘ chunkAt chunkId version slices)) (deliveries.map Delivery.frame))
    (range slices.length)).mpr order
  have someSlice : 0 < slices.length := length_pos_of_ne_nil sliced.some
  have someSlot : slots ≠ [] := by
    rintro rfl
    have length := slotsPerm.length_eq
    rw [length_range, length_nil] at length
    omega
  cases deliveries with
  | nil => exact absurd (map_eq_nil_iff.mp sent.symm) someSlot
  | cons first deliveries =>
    refine deliver_slots named sliced.nonempty sliced.few (by rw [sliced.joined, parsed])
      first.openedAt slots ∅ sent someSlot (slotsPerm.nodup_iff.mpr nodup_range)
      (fun slot _ => Finset.notMem_empty slot) ?_ (inTime first rfl) (Or.inr ⟨rfl, rfl, ?_⟩)
    · rw [Finset.empty_union, toFinset_eq_of_perm _ _ slotsPerm, toFinset_range]
    · intro other same
      cases same
      rfl

/-- A split frame's chunks, in whatever order they are given to a new assembler in time, come back
as the parsed frame exactly when they have an identifier and together are within the byte limit of
the receiver. -/
theorem split_frame_round_trip {frame : Value} (deliveries : List Delivery)
    (split : splitMeshFrame chunkId version json = .ok chunks) (parsed : parse json = .ok frame)
    (order : (deliveries.map Delivery.frame).Perm (chunks.map MeshChunkEnvelope.raw))
    (inTime : ∀ first ∈ deliveries.head?, ∀ delivery ∈ deliveries,
      delivery.sweptAt - first.openedAt ≤ meshChunkTtlMs) :
    ReturnsFrame frame ((resultsOf parse noBuffers deliveries).map Prod.snd) ↔
      chunkId ≠ "" ∧ (chunks.map fun chunk => utf8ByteLength chunk.data).sum ≤
        meshMaxReassembledBytes := by
  obtain ⟨slices, sliced⟩ := splitMeshFrame_slices split
  exact slices_round_trip sliced parsed order inTime

def parseOne (text : Text) : Except String Nat :=
  if text = [0x31] then .ok 1 else .error "unexpected token"

def oneDelivery : List Delivery :=
  [{ frame := (buildChunkEnvelope "a" 1 0 1 [0x31]).raw, sweptAt := 0, openedAt := 0 }]

theorem one_chunk_returns :
    ReturnsFrame 1 ((resultsOf parseOne noBuffers oneDelivery).map Prod.snd) :=
  have split : splitMeshFrame "a" 1 [0x31] = .ok [buildChunkEnvelope "a" 1 0 1 [0x31]] := by decide
  have parsed : parseOne [0x31] = .ok 1 := by decide
  (split_frame_round_trip oneDelivery split parsed (List.Perm.refl _)
    (by decide)).mpr (by decide)

end Results

/-! ## A frame that is split but not taken -/

section Digits

variable {chunkId : String} {version : Nat}

theorem quotedUnits_digits (length : Nat) :
    quotedUnits (replicate length 0x31) = replicate length 0x31 := by
  induction length using Nat.strong_induction_on with
  | _ length induction =>
    match length with
    | 0 => rfl
    | 1 => rfl
    | length + 2 =>
      have shorter := induction (length + 1) (Nat.lt_succ_self _)
      rw [replicate_succ, replicate_succ, quotedUnits, if_neg (by decide),
        ← replicate_succ, shorter]
      rfl

theorem length_le_utf8ByteLength (text : Text) : text.length ≤ utf8ByteLength text := by
  fun_induction utf8ByteLength text with
  | case1 => exact le_refl _
  | case2 unit => exact unitBytes_pos unit
  | case3 unit next rest _ induction =>
    rw [length_cons, length_cons]
    omega
  | case4 unit next rest _ induction =>
    have positive := unitBytes_pos unit
    rw [length_cons]
    omega

theorem utf8ByteLength_le (text : Text) : utf8ByteLength text ≤ 3 * text.length := by
  fun_induction utf8ByteLength text with
  | case1 => exact Nat.zero_le _
  | case2 unit => exact unitBytes_le unit
  | case3 unit next rest _ induction =>
    rw [length_cons, length_cons]
    omega
  | case4 unit next rest _ induction =>
    have bounded := unitBytes_le unit
    rw [length_cons]
    omega

theorem length_unitsOf_le (text : String) : (unitsOf text).length ≤ 2 * text.toList.length := by
  rw [unitsOf]
  induction text.toList with
  | nil => exact Nat.zero_le _
  | cons character rest induction =>
    rw [flatMap_cons, length_append, length_cons]
    split_ifs
    · rw [length_singleton]
      omega
    · rw [length_cons, length_singleton]
      omega

theorem length_unitsOf_number {number : Nat} (small : number ≤ meshMaxChunks) :
    (unitsOf (toString number)).length ≤ 8 := by
  have digits : (toString number).toList.length ≤ 4 := by
    rw [Nat.toString_eq_repr, Nat.toList_repr, Nat.length_toDigits_le_iff (by decide) (by decide)]
    exact small.trans_lt (by decide)
  have units := length_unitsOf_le (toString number)
  omega

theorem probeFits_digits {index length : Nat} (small : index ≤ meshMaxChunks)
    (short : length ≤ meshChunkPayloadChars) :
    probeFits "a" 1 index (List.replicate length 0x31) = true := by
  rw [probeFits, decide_eq_true_eq]
  refine (utf8ByteLength_le _).trans ?_
  have indexUnits := length_unitsOf_number small
  have versionUnits := length_unitsOf_number (show 1 ≤ meshMaxChunks by decide)
  have totalUnits := length_unitsOf_number (le_refl meshMaxChunks)
  have fixedUnits : (unitsOf "\x7b\"v\":").length +
      (unitsOf ",\"kind\":\"rpc_chunk\",\"chunkId\":").length +
      (quotedUnits (unitsOf "a")).length + (unitsOf ",\"index\":").length +
      (unitsOf ",\"total\":").length + (unitsOf ",\"data\":").length + (unitsOf "\x7d").length =
        63 := by
    decide
  simp only [stringifyEnvelope, quoted, quotedUnits_digits, length_append, length_cons,
    length_replicate, length_nil]
  rw [meshChunkPayloadChars] at short
  rw [meshMaxInlineFrameBytes]
  omega

theorem fitLength_digits {index : Nat} (length longest : Nat) (small : index ≤ meshMaxChunks)
    (some : 0 < longest) (short : longest ≤ meshChunkPayloadChars) (inText : longest ≤ length)
    (passes : Nat) :
    fitLength "a" 1 index (List.replicate length 0x31) (passes + 1) longest = longest := by
  rw [fitLength, if_neg some.ne', take_replicate, min_eq_left inText,
    if_pos (probeFits_digits small short)]

theorem sliceFrom_digits (json : Text) (passes length : Nat) (slices : List Text)
    (few : length ≤ (meshMaxChunks - slices.length) * meshChunkPayloadChars)
    (fewer : slices.length ≤ meshMaxChunks) :
    ∃ all, sliceFrom "a" 1 json passes slices (List.replicate length 0x31) = .ok all := by
  induction passes generalizing slices length with
  | zero => exact ⟨slices, rfl⟩
  | succ passes induction =>
    cases length with
    | zero => exact ⟨slices, rfl⟩
    | succ length =>
      have room : slices.length < meshMaxChunks := by
        by_contra full
        rw [Nat.sub_eq_zero_of_le (not_lt.mp full), Nat.zero_mul] at few
        omega
      rw [replicate_succ, sliceFrom]
      dsimp only
      rw [← replicate_succ, length_replicate]
      have positive : 0 < min (length + 1) meshChunkPayloadChars :=
        lt_min (Nat.succ_pos _) (by decide)
      obtain ⟨passes', shape⟩ : ∃ passes', min (length + 1) meshChunkPayloadChars = passes' + 1 :=
        ⟨_, (Nat.succ_pred_eq_of_pos positive).symm⟩
      have fits := fitLength_digits (length + 1) _ fewer positive (min_le_right _ _)
        (min_le_left _ _) passes'
      rw [← shape] at fits
      rw [fits, if_neg positive.ne', length_append, length_singleton,
        if_neg (not_lt.mpr room), drop_replicate]
      apply induction
      · obtain ⟨left, leftShape⟩ : ∃ left, meshMaxChunks - slices.length = left + 1 :=
          ⟨_, (Nat.succ_pred_eq_of_pos (Nat.sub_pos_of_lt room)).symm⟩
        have leftAfter : meshMaxChunks - (slices.length + 1) = left := by omega
        rw [leftShape, Nat.succ_mul] at few
        rw [length_append, length_singleton, leftAfter]
        omega
      · rw [length_append, length_singleton]
        exact room

def tooManyDigits : Text := List.replicate (meshMaxReassembledBytes + 1) 0x31

theorem length_tooManyDigits : List.length tooManyDigits = meshMaxReassembledBytes + 1 :=
  length_replicate

theorem splitMeshFrame_digits : ∃ chunks, splitMeshFrame "a" 1 tooManyDigits = .ok chunks := by
  obtain ⟨all, sliced⟩ := sliceFrom_digits tooManyDigits tooManyDigits.length
    (meshMaxReassembledBytes + 1) [] (by decide) (by decide)
  have joined := (sliceFrom_ok le_rfl sliced).1
  have shape : sliceFrom "a" 1 tooManyDigits tooManyDigits.length [] tooManyDigits = .ok all :=
    sliced
  cases all with
  | nil =>
    have empty := congrArg length joined
    rw [flatten_nil, nil_append, length_tooManyDigits] at empty
    exact absurd empty (by decide)
  | cons slice slices => exact ⟨_, by rw [splitMeshFrame, shape]⟩

theorem sum_bytes_ge {json : Text} {slices : List Text} {chunks : List MeshChunkEnvelope}
    (sliced : SlicesOf chunkId version json slices chunks) :
    json.length ≤ (chunks.map fun chunk => utf8ByteLength chunk.data).sum := by
  have data : chunks.map data = slices := by
    rw [sliced.built]
    apply ext_getElem
    · rw [length_map, length_mapIdx]
    · intro slot before after
      rw [getElem_map, getElem_mapIdx, buildChunkEnvelope]
  rw [← sliced.joined, length_flatten, ← data, map_map]
  exact sum_le_sum fun chunk _ => length_le_utf8ByteLength chunk.data

def deliveredAtOnce (chunks : List MeshChunkEnvelope) : List Delivery :=
  chunks.map fun chunk => { frame := chunk.raw, sweptAt := 0, openedAt := 0 }

theorem deliveredAtOnce_perm (chunks : List MeshChunkEnvelope) :
    ((deliveredAtOnce chunks).map Delivery.frame).Perm (chunks.map raw) := by
  rw [deliveredAtOnce, map_map]
  exact List.Perm.refl _

theorem deliveredAtOnce_inTime (chunks : List MeshChunkEnvelope) :
    ∀ first ∈ (deliveredAtOnce chunks).head?, ∀ delivery ∈ deliveredAtOnce chunks,
      delivery.sweptAt - first.openedAt ≤ meshChunkTtlMs := by
  intro first isFirst delivery member
  obtain ⟨chunk, -, rfl⟩ := mem_map.mp member
  obtain ⟨other, -, rfl⟩ := mem_map.mp (mem_of_mem_head? isFirst)
  exact (show (0 : Int) - 0 ≤ meshChunkTtlMs by decide)

/-- A frame of more digits than the receiver takes bytes, and one without an identifier: both are
split, and neither comes back. -/
theorem split_frames_rejected :
    (∃ chunks, splitMeshFrame "a" 1 tooManyDigits = .ok chunks ∧
      ∀ (Value : Type) (parse : Text → Except String Value) (frame : Value),
        parse tooManyDigits = .ok frame → ¬ReturnsFrame frame
            ((resultsOf parse noBuffers (deliveredAtOnce chunks)).map Prod.snd)) ∧
    ∃ chunks, splitMeshFrame "" 1 [0x31] = .ok chunks ∧
      ∀ (Value : Type) (parse : Text → Except String Value) (frame : Value),
        parse [0x31] = .ok frame → ¬ReturnsFrame frame
            ((resultsOf parse noBuffers (deliveredAtOnce chunks)).map Prod.snd) := by
  constructor
  · obtain ⟨chunks, split⟩ := splitMeshFrame_digits
    obtain ⟨slices, sliced⟩ := splitMeshFrame_slices split
    refine ⟨chunks, split, fun Value parse frame parsed returned => ?_⟩
    have within := ((slices_round_trip sliced parsed (deliveredAtOnce_perm chunks)
      (deliveredAtOnce_inTime chunks)).mp returned).2
    have enough := sum_bytes_ge sliced
    rw [length_tooManyDigits] at enough
    omega
  have split : splitMeshFrame "" 1 [0x31] = .ok [buildChunkEnvelope "" 1 0 1 [0x31]] := by
    decide
  obtain ⟨slices, sliced⟩ := splitMeshFrame_slices split
  refine ⟨_, split, fun Value parse frame parsed returned => ?_⟩
  exact ((slices_round_trip sliced parsed (deliveredAtOnce_perm _)
    (deliveredAtOnce_inTime _)).mp returned).1 rfl

end Digits

end Adhdev.MeshChunking
