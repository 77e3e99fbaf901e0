import Adhdev.Foundation.Octets

/-! # Bulk frames

`protocol.ts`: the frames of the bulk channel of a file transfer.
-/

namespace Adhdev.Transfer

open Octets List Option Bool

def frameHeaderBytes : Nat := 128

def maxFrameBytes : Nat := 16 * 1024

def maxFramePayloadBytes : Nat := maxFrameBytes - frameHeaderBytes

def maxSafeInteger : Nat := 2 ^ 53 - 1

/-- `ATF1`. -/
def frameMagic : Octets := [0x41, 0x54, 0x46, 0x31]

inductive FrameType
  | hello | resumeState | data | blockEnd | blockAck | fileAck | done | abort

namespace FrameType

def code : FrameType → UInt8
  | hello => 1
  | resumeState => 2
  | data => 3
  | blockEnd => 4
  | blockAck => 5
  | fileAck => 6
  | done => 7
  | abort => 8

def ofCode (code : UInt8) : Option FrameType :=
  [hello, resumeState, data, blockEnd, blockAck, fileAck, done, abort].find? (·.code = code)

theorem code_of_ofCode {code : UInt8} {type : FrameType} (found : ofCode code = some type) :
    type.code = code := by
  have same := find?_some found
  exact of_decide_eq_true same

end FrameType

structure Frame where
  type : FrameType
  transferId : String
  fileIndex : Nat
  offset : Nat
  seq : Nat
  payload : Octets

inductive FrameError
  | protocolError (message : String)
  | outOfRange

/-! ## Encoding -/

def writeNumber (buffer : Octets) (offset width value : Nat) : Except FrameError Octets :=
  if value < 256 ^ width then .ok (writeAt buffer offset (ofNumber width value))
  else .error .outOfRange

def encodeFrame (frame : Frame) : Except FrameError Octets := do
  if maxFramePayloadBytes < frame.payload.length then .error (.protocolError "payload too large")
  else
    let out := List.replicate (frameHeaderBytes + frame.payload.length) 0
    let out := writeAt out 0 frameMagic
    let out ← writeNumber out 4 1 frame.type.code.toNat
    let out := writeAt out 8 (ofHex frame.transferId.toList)
    let out ← writeNumber out 24 4 frame.fileIndex
    let out ← writeNumber out 28 8 frame.offset
    let out ← writeNumber out 36 4 frame.payload.length
    let out ← writeNumber out 40 8 frame.seq
    .ok (writeAt out frameHeaderBytes frame.payload)

/-! ## Decoding -/

def decodeFrame (bytes : Octets) : Except FrameError Frame :=
  if bytes.length < frameHeaderBytes ∨ maxFrameBytes < bytes.length then
    .error (.protocolError "bad frame size")
  else if slice bytes 0 4 ≠ frameMagic then .error (.protocolError "bad magic")
  else
    match FrameType.ofCode ((slice bytes 4 1).headD 0) with
    | none => .error (.protocolError "bad frame type")
    | some type =>
      if number (slice bytes 5 1) ≠ 0 ∨ number (slice bytes 6 2) ≠ 0 then
        .error (.protocolError "reserved bits set")
      else if (slice bytes 48 80).any (· ≠ 0) then
        .error (.protocolError "reserved header bytes set")
      else if number (slice bytes 36 4) ≠ bytes.length - frameHeaderBytes then
        .error (.protocolError "length mismatch")
      else if maxSafeInteger < number (slice bytes 28 8) ∨
          maxSafeInteger < number (slice bytes 40 8) then
        .error (.protocolError "counter overflow")
      else
        .ok
          { type
            transferId := String.ofList (toHex (slice bytes 8 16))
            fileIndex := number (slice bytes 24 4)
            offset := number (slice bytes 28 8)
            seq := number (slice bytes 40 8)
            payload := bytes.drop frameHeaderBytes }

/-! ## The layout of a frame -/

structure FrameLayout where
  magic : Octets
  type : Octets
  flags : Octets
  reserved : Octets
  transferId : Octets
  fileIndex : Octets
  offset : Octets
  length : Octets
  seq : Octets
  rest : Octets
  payload : Octets

namespace FrameLayout

variable (layout : FrameLayout)

def bytes : Octets :=
  layout.magic ++ (layout.type ++ (layout.flags ++ (layout.reserved ++ (layout.transferId ++
    (layout.fileIndex ++ (layout.offset ++ (layout.length ++ (layout.seq ++ (layout.rest ++
      layout.payload)))))))))

structure Sized : Prop where
  magic : layout.magic.length = 4
  type : layout.type.length = 1
  flags : layout.flags.length = 1
  reserved : layout.reserved.length = 2
  transferId : layout.transferId.length = 16
  fileIndex : layout.fileIndex.length = 4
  offset : layout.offset.length = 8
  length : layout.length.length = 4
  seq : layout.seq.length = 8
  rest : layout.rest.length = 80

theorem exists_cut {octets : Octets} (width : Nat) (enough : width ≤ octets.length) :
    ∃ held after, octets = held ++ after ∧ held.length = width ∧
      after.length = octets.length - width :=
  ⟨octets.take width, octets.drop width, (take_append_drop _ _).symm,
    length_take_of_le enough, length_drop⟩

theorem exists_layout {octets : Octets} (enough : frameHeaderBytes ≤ octets.length) :
    ∃ layout : FrameLayout, layout.Sized ∧ octets = layout.bytes := by
  rw [frameHeaderBytes] at enough
  obtain ⟨magic, octets, rfl, isMagic, left⟩ := exists_cut 4 (by omega : 4 ≤ octets.length)
  rw [length_append] at enough left
  obtain ⟨type, octets, rfl, isType, left⟩ := exists_cut 1 (by omega : 1 ≤ octets.length)
  rw [length_append] at enough left
  obtain ⟨flags, octets, rfl, isFlags, left⟩ := exists_cut 1 (by omega : 1 ≤ octets.length)
  rw [length_append] at enough left
  obtain ⟨reserved, octets, rfl, isReserved, left⟩ := exists_cut 2 (by omega : 2 ≤ octets.length)
  rw [length_append] at enough left
  obtain ⟨transferId, octets, rfl, isId, left⟩ := exists_cut 16 (by omega : 16 ≤ octets.length)
  rw [length_append] at enough left
  obtain ⟨fileIndex, octets, rfl, isIndex, left⟩ := exists_cut 4 (by omega : 4 ≤ octets.length)
  rw [length_append] at enough left
  obtain ⟨offset, octets, rfl, isOffset, left⟩ := exists_cut 8 (by omega : 8 ≤ octets.length)
  rw [length_append] at enough left
  obtain ⟨length, octets, rfl, isLength, left⟩ := exists_cut 4 (by omega : 4 ≤ octets.length)
  rw [length_append] at enough left
  obtain ⟨seq, octets, rfl, isSeq, left⟩ := exists_cut 8 (by omega : 8 ≤ octets.length)
  rw [length_append] at enough left
  obtain ⟨rest, payload, rfl, isRest, left⟩ := exists_cut 80 (by omega : 80 ≤ octets.length)
  exact ⟨⟨magic, type, flags, reserved, transferId, fileIndex, offset, length, seq, rest, payload⟩,
    ⟨isMagic, isType, isFlags, isReserved, isId, isIndex, isOffset, isLength, isSeq, isRest⟩, rfl⟩

variable {layout} (sized : layout.Sized)

include sized

theorem length_bytes : layout.bytes.length = frameHeaderBytes + layout.payload.length := by
  simp only [bytes, length_append, sized.magic, sized.type, sized.flags, sized.reserved,
    sized.transferId, sized.fileIndex, sized.offset, sized.length, sized.seq, sized.rest,
    frameHeaderBytes]
  omega

theorem slices : slice layout.bytes 0 4 = layout.magic ∧ slice layout.bytes 4 1 = layout.type ∧
      slice layout.bytes 5 1 = layout.flags ∧ slice layout.bytes 6 2 = layout.reserved ∧
      slice layout.bytes 8 16 = layout.transferId ∧ slice layout.bytes 24 4 = layout.fileIndex ∧
      slice layout.bytes 28 8 = layout.offset ∧ slice layout.bytes 36 4 = layout.length ∧
      slice layout.bytes 40 8 = layout.seq ∧ slice layout.bytes 48 80 = layout.rest ∧
      layout.bytes.drop frameHeaderBytes = layout.payload := by
  refine ⟨slice_head _ sized.magic, ?_, ?_, ?_, ?_, ?_, ?_, ?_, ?_, ?_, ?_⟩
  all_goals
    simp only [frameHeaderBytes, bytes, drop_append, drop_of_length_le, slice_skip,
      slice_head, sized.magic, sized.type, sized.flags, sized.reserved, sized.transferId,
      sized.fileIndex, sized.offset, sized.length, sized.seq, sized.rest, Nat.reduceLeDiff,
      Nat.reduceSub, Nat.le_refl, Nat.sub_self, drop_zero, nil_append]

theorem writes (written : Octets) :
    (written.length = 4 → writeAt layout.bytes 0 written = { layout with magic := written }.bytes) ∧
      (written.length = 1 → writeAt layout.bytes 4 written =
        { layout with type := written }.bytes) ∧
      (written.length = 16 →
        writeAt layout.bytes 8 written = { layout with transferId := written }.bytes) ∧
      (written.length = 4 →
        writeAt layout.bytes 24 written = { layout with fileIndex := written }.bytes) ∧
      (written.length = 8 →
        writeAt layout.bytes 28 written = { layout with offset := written }.bytes) ∧
      (written.length = 4 →
        writeAt layout.bytes 36 written = { layout with length := written }.bytes) ∧
      (written.length = 8 → writeAt layout.bytes 40 written =
        { layout with seq := written }.bytes) ∧
      (written.length = layout.payload.length →
        writeAt layout.bytes frameHeaderBytes written =
          { layout with payload := written }.bytes) := by
  refine ⟨fun same => writeAt_head _ (sized.magic.trans same.symm), ?_, ?_, ?_, ?_, ?_, ?_, ?_⟩
  all_goals
    intro same
    simp only [frameHeaderBytes, bytes, writeAt_skip, writeAt_head, writeAt_whole, same,
      sized.magic,
      sized.type, sized.flags, sized.reserved, sized.transferId, sized.fileIndex, sized.offset,
      sized.length, sized.seq, sized.rest, Nat.reduceLeDiff, Nat.reduceSub, Nat.le_refl,
        Nat.sub_self]

end FrameLayout

/-! ## Round trips -/

/-- What the type of a frame does not say: an identifier of 32 digits, and numbers that fit. -/
structure Frame.WellFormed (frame : Frame) : Prop where
  digits : frame.transferId.toList.all isHexDigit = true
  length : frame.transferId.toList.length = 32
  fileIndex : frame.fileIndex < 2 ^ 32
  offset : frame.offset ≤ maxSafeInteger
  seq : frame.seq ≤ maxSafeInteger
  payload : frame.payload.length ≤ maxFramePayloadBytes

def layoutOf (frame : Frame) : FrameLayout where
  magic := frameMagic
  type := ofNumber 1 frame.type.code.toNat
  flags := List.replicate 1 0
  reserved := List.replicate 2 0
  transferId := ofHex frame.transferId.toList
  fileIndex := ofNumber 4 frame.fileIndex
  offset := ofNumber 8 frame.offset
  length := ofNumber 4 frame.payload.length
  seq := ofNumber 8 frame.seq
  rest := List.replicate 80 0
  payload := frame.payload

def blankLayout (length : Nat) : FrameLayout where
  magic := List.replicate 4 0
  type := List.replicate 1 0
  flags := List.replicate 1 0
  reserved := List.replicate 2 0
  transferId := List.replicate 16 0
  fileIndex := List.replicate 4 0
  offset := List.replicate 8 0
  length := List.replicate 4 0
  seq := List.replicate 8 0
  rest := List.replicate 80 0
  payload := List.replicate length 0

theorem blankLayout_sized (length : Nat) : (blankLayout length).Sized :=
  ⟨rfl, rfl, rfl, rfl, rfl, rfl, rfl, rfl, rfl, rfl⟩

theorem blankLayout_bytes (length : Nat) :
    (blankLayout length).bytes = replicate (frameHeaderBytes + length) 0 := by
  simp only [FrameLayout.bytes, blankLayout, replicate_append_replicate, frameHeaderBytes]
  congr 1
  omega

theorem writeNumber_ok {buffer : Octets} {offset width value : Nat} (fits : value < 256 ^ width) :
    writeNumber buffer offset width value = .ok (writeAt buffer offset (ofNumber width value)) :=
  if_pos fits

section Frames

variable {frame : Frame}

theorem layoutOf_sized (wellFormed : frame.WellFormed) : (layoutOf frame).Sized where
  magic := rfl
  type := length_ofNumber _ _
  flags := rfl
  reserved := rfl
  transferId := (toHex_ofHex _ wellFormed.digits wellFormed.length).2
  fileIndex := length_ofNumber _ _
  offset := length_ofNumber _ _
  length := length_ofNumber _ _
  seq := length_ofNumber _ _
  rest := length_replicate

theorem code_lt (type : FrameType) : type.code.toNat < 256 ^ 1 := type.code.toNat_lt

theorem encodeFrame_eq (wellFormed : frame.WellFormed) :
    encodeFrame frame = .ok (layoutOf frame).bytes := by
  have idLength := (layoutOf_sized wellFormed).transferId
  have offsetFits : frame.offset < 256 ^ 8 := by
    have bound := wellFormed.offset
    rw [maxSafeInteger] at bound
    omega
  have seqFits : frame.seq < 256 ^ 8 := by
    have bound := wellFormed.seq
    rw [maxSafeInteger] at bound
    omega
  have lengthFits : frame.payload.length < 256 ^ 4 := by
    have bound := wellFormed.payload
    rw [maxFramePayloadBytes, maxFrameBytes, frameHeaderBytes] at bound
    omega
  have indexFits : frame.fileIndex < 256 ^ 4 := by
    have bound := wellFormed.fileIndex
    omega
  rw [encodeFrame, if_neg (not_lt.mpr wellFormed.payload), ← blankLayout_bytes]
  let blank := blankLayout frame.payload.length
  let magic := { blank with magic := frameMagic }
  let type := { magic with type := ofNumber 1 frame.type.code.toNat }
  let transferId := { type with transferId := ofHex frame.transferId.toList }
  let fileIndex := { transferId with fileIndex := ofNumber 4 frame.fileIndex }
  let offset := { fileIndex with offset := ofNumber 8 frame.offset }
  let length := { offset with length := ofNumber 4 frame.payload.length }
  let seq := { length with seq := ofNumber 8 frame.seq }
  have blankSized : blank.Sized := blankLayout_sized frame.payload.length
  have magicSized : magic.Sized := { blankSized with magic := rfl }
  have typeSized : type.Sized := { magicSized with type := length_ofNumber _ _ }
  have idSized : transferId.Sized := { typeSized with transferId := idLength }
  have indexSized : fileIndex.Sized := { idSized with fileIndex := length_ofNumber _ _ }
  have offsetSized : offset.Sized := { indexSized with offset := length_ofNumber _ _ }
  have lengthSized : length.Sized := { offsetSized with length := length_ofNumber _ _ }
  have seqSized : seq.Sized := { lengthSized with seq := length_ofNumber _ _ }
  have toMagic : writeAt blank.bytes 0 frameMagic = magic.bytes :=
    (FrameLayout.writes blankSized _).1 rfl
  have toType : writeAt magic.bytes 4 (ofNumber 1 frame.type.code.toNat) = type.bytes :=
    (FrameLayout.writes magicSized _).2.1 (length_ofNumber _ _)
  have toId : writeAt type.bytes 8 (ofHex frame.transferId.toList) = transferId.bytes :=
    (FrameLayout.writes typeSized _).2.2.1 idLength
  have toIndex : writeAt transferId.bytes 24 (ofNumber 4 frame.fileIndex) = fileIndex.bytes :=
    (FrameLayout.writes idSized _).2.2.2.1 (length_ofNumber _ _)
  have toOffset : writeAt fileIndex.bytes 28 (ofNumber 8 frame.offset) = offset.bytes :=
    (FrameLayout.writes indexSized _).2.2.2.2.1 (length_ofNumber _ _)
  have toLength : writeAt offset.bytes 36 (ofNumber 4 frame.payload.length) = length.bytes :=
    (FrameLayout.writes offsetSized _).2.2.2.2.2.1 (length_ofNumber _ _)
  have toSeq : writeAt length.bytes 40 (ofNumber 8 frame.seq) = seq.bytes :=
    (FrameLayout.writes lengthSized _).2.2.2.2.2.2.1 (length_ofNumber _ _)
  have toPayload : writeAt seq.bytes frameHeaderBytes frame.payload = (layoutOf frame).bytes :=
    (FrameLayout.writes seqSized _).2.2.2.2.2.2.2 length_replicate.symm
  change ((writeNumber (writeAt blank.bytes 0 frameMagic) 4 1 frame.type.code.toNat).bind _) = _
  rw [toMagic, writeNumber_ok (code_lt frame.type), toType]
  change ((writeNumber (writeAt type.bytes 8 (ofHex frame.transferId.toList)) 24 4
    frame.fileIndex).bind _) = _
  rw [toId, writeNumber_ok indexFits, toIndex]
  change ((writeNumber fileIndex.bytes 28 8 frame.offset).bind _) = _
  rw [writeNumber_ok offsetFits, toOffset]
  change ((writeNumber offset.bytes 36 4 frame.payload.length).bind _) = _
  rw [writeNumber_ok lengthFits, toLength]
  change ((writeNumber length.bytes 40 8 frame.seq).bind _) = _
  rw [writeNumber_ok seqFits, toSeq]
  change Except.ok (writeAt seq.bytes frameHeaderBytes frame.payload) = _
  rw [toPayload]

theorem ofCode_of_type (type : FrameType) :
    FrameType.ofCode ((ofNumber 1 type.code.toNat).headD 0) = some type := by
  cases type <;> rfl

theorem decodeFrame_layoutOf (wellFormed : frame.WellFormed) :
    decodeFrame (layoutOf frame).bytes = .ok frame := by
  have sized := layoutOf_sized wellFormed
  have size : (layoutOf frame).bytes.length = frameHeaderBytes + frame.payload.length :=
    FrameLayout.length_bytes sized
  have payloadFits := wellFormed.payload
  have indexNumber : number (ofNumber 4 frame.fileIndex) = frame.fileIndex :=
    number_ofNumber (by have bound := wellFormed.fileIndex; omega)
  have offsetNumber : number (ofNumber 8 frame.offset) = frame.offset :=
    number_ofNumber (by have bound := wellFormed.offset; rw [maxSafeInteger] at bound; omega)
  have seqNumber : number (ofNumber 8 frame.seq) = frame.seq :=
    number_ofNumber (by have bound := wellFormed.seq; rw [maxSafeInteger] at bound; omega)
  have lengthNumber : number (ofNumber 4 frame.payload.length) = frame.payload.length := by
    apply number_ofNumber
    rw [maxFramePayloadBytes, maxFrameBytes, frameHeaderBytes] at payloadFits
    omega
  have idText : String.ofList (toHex (ofHex frame.transferId.toList)) = frame.transferId := by
    have pairs : frame.transferId.toList.length = 2 * 16 := wellFormed.length
    rw [(toHex_ofHex _ wellFormed.digits pairs).1, String.ofList_toList]
  obtain ⟨magic, type, flags, reserved, transferId, fileIndex, offset, length, seq, rest,
    payload⟩ :=
    FrameLayout.slices sized
  have inSize : ¬((layoutOf frame).bytes.length < frameHeaderBytes ∨
      maxFrameBytes < (layoutOf frame).bytes.length) := by
    rw [size]
    rw [maxFramePayloadBytes] at payloadFits
    have room : frameHeaderBytes ≤ maxFrameBytes := by decide
    omega
  have noFlags : ¬(number (layoutOf frame).flags ≠ 0 ∨ number (layoutOf frame).reserved ≠ 0) :=
    (by decide : ¬(number (replicate 1 0) ≠ 0 ∨ number (replicate 2 0) ≠ 0))
  have noRest : ((layoutOf frame).rest.any (· ≠ 0)) = false :=
    (by decide : ((replicate 80 (0 : UInt8)).any (· ≠ 0)) = false)
  have isLength : ¬number (layoutOf frame).length ≠ (layoutOf frame).bytes.length -
      frameHeaderBytes := by
    rw [size, Nat.add_sub_cancel_left]
    exact not_not.mpr lengthNumber
  have noOverflow : ¬(maxSafeInteger < number (layoutOf frame).offset ∨
      maxSafeInteger < number (layoutOf frame).seq) := by
    rw [show (layoutOf frame).offset = ofNumber 8 frame.offset from rfl, offsetNumber,
      show (layoutOf frame).seq = ofNumber 8 frame.seq from rfl, seqNumber]
    exact not_or.mpr ⟨not_lt.mpr wellFormed.offset, not_lt.mpr wellFormed.seq⟩
  have isType : FrameType.ofCode ((layoutOf frame).type.headD 0) = some frame.type :=
    ofCode_of_type frame.type
  have isMagic : ¬(layoutOf frame).magic ≠ frameMagic := not_not.mpr rfl
  rw [decodeFrame, if_neg inSize, magic, if_neg isMagic, type, isType]
  dsimp only
  rw [flags, reserved, if_neg noFlags, rest, if_neg (by rw [noRest]; decide), length,
    if_neg isLength, offset, seq, if_neg noOverflow, transferId, fileIndex, payload]
  rw [show (layoutOf frame).transferId = ofHex frame.transferId.toList from rfl, idText,
    show (layoutOf frame).fileIndex = ofNumber 4 frame.fileIndex from rfl, indexNumber,
    show (layoutOf frame).offset = ofNumber 8 frame.offset from rfl, offsetNumber,
    show (layoutOf frame).seq = ofNumber 8 frame.seq from rfl, seqNumber]
  rfl

theorem decodeFrame_ok {bytes : Octets} (decoded : decodeFrame bytes = .ok frame) :
    frame.WellFormed ∧ bytes = (layoutOf frame).bytes := by
  rw [decodeFrame] at decoded
  split at decoded
  · cases decoded
  rename_i inSize
  obtain ⟨enough, atMost⟩ := not_or.mp inSize
  rw [not_lt] at enough atMost
  obtain ⟨layout, sized, rfl⟩ := FrameLayout.exists_layout enough
  obtain ⟨magic, type, flags, reserved, transferId, fileIndex, offset, length, seq, rest,
    payload⟩ :=
    FrameLayout.slices sized
  have size := FrameLayout.length_bytes sized
  rw [magic, type, flags, reserved, rest, length, offset, seq, transferId, fileIndex, payload]
    at decoded
  split at decoded
  · cases decoded
  rename_i isMagic
  split at decoded
  · cases decoded
  rename_i kind isKind
  split at decoded
  · cases decoded
  rename_i noFlags
  split at decoded
  · cases decoded
  rename_i noRest
  split at decoded
  · cases decoded
  rename_i isLength
  split at decoded
  · cases decoded
  rename_i noOverflow
  obtain rfl := Except.ok.inj decoded
  obtain ⟨flagsZero, reservedZero⟩ := not_or.mp noFlags
  obtain ⟨offsetSafe, seqSafe⟩ := not_or.mp noOverflow
  have idLength : (toHex layout.transferId).length = 32 := by
    rw [length_toHex, sized.transferId]
  have restZeros : layout.rest = replicate 80 0 := by
    rw [eq_replicate_iff]
    refine ⟨sized.rest, ?_⟩
    intro octet member
    by_contra nonzero
    exact noRest (any_eq_true.mpr ⟨octet, member, decide_eq_true nonzero⟩)
  have typeOctet : layout.type = ofNumber 1 kind.code.toNat := by
    obtain ⟨octet, single⟩ := length_eq_one_iff.mp sized.type
    rw [single] at isKind ⊢
    rw [FrameType.code_of_ofCode isKind]
    exact congrArg (fun octet => [octet]) UInt8.ofNat_toNat.symm
  have flagsZeros : layout.flags = replicate 1 0 := by
    rw [eq_replicate_of_number (not_not.mp flagsZero), sized.flags]
  have reservedZeros : layout.reserved = replicate 2 0 := by
    rw [eq_replicate_of_number (not_not.mp reservedZero), sized.reserved]
  have sameLength : number layout.length = layout.payload.length := by
    rw [not_not.mp isLength, size, Nat.add_sub_cancel_left]
  refine ⟨⟨?_, ?_, ?_, not_lt.mp offsetSafe, not_lt.mp seqSafe, ?_⟩, ?_⟩
  · dsimp only
    rw [String.toList_ofList]
    exact isHexDigit_toHex _
  · dsimp only
    rw [String.toList_ofList]
    exact idLength
  · have bound := number_lt layout.fileIndex
    rw [sized.fileIndex] at bound
    exact bound
  · dsimp only
    rw [size] at atMost
    rw [maxFramePayloadBytes]
    omega
  have same : layout = layoutOf
      { type := kind
        transferId := String.ofList (toHex layout.transferId)
        fileIndex := number layout.fileIndex
        offset := number layout.offset
        seq := number layout.seq
        payload := layout.payload } := by
    have indexOctets := ofNumber_number layout.fileIndex
    have offsetOctets := ofNumber_number layout.offset
    have lengthOctets := ofNumber_number layout.length
    have seqOctets := ofNumber_number layout.seq
    rw [sized.fileIndex] at indexOctets
    rw [sized.offset] at offsetOctets
    rw [sized.length, sameLength] at lengthOctets
    rw [sized.seq] at seqOctets
    rw [layoutOf, String.toList_ofList, ofHex_toHex, indexOctets, offsetOctets, lengthOctets,
      seqOctets, ← typeOctet, ← flagsZeros, ← reservedZeros, ← restZeros, ← not_not.mp isMagic]
  exact congrArg FrameLayout.bytes same

/-- Encoding and decoding are inverse to each other. -/
theorem frame_codec :
    (∀ frame : Frame, frame.WellFormed →
      ∃ bytes, encodeFrame frame = .ok bytes ∧ decodeFrame bytes = .ok frame) ∧
    (∀ bytes frame, decodeFrame bytes = .ok frame →
      frame.WellFormed ∧ encodeFrame frame = .ok bytes) ∧
    (∀ one two frame, decodeFrame one = .ok frame → decodeFrame two = .ok frame → one = two) := by
  refine ⟨?_, ?_, ?_⟩
  · intro frame wellFormed
    exact ⟨_, encodeFrame_eq wellFormed, decodeFrame_layoutOf wellFormed⟩
  · intro bytes frame decoded
    obtain ⟨wellFormed, same⟩ := decodeFrame_ok decoded
    rw [same]
    exact ⟨wellFormed, encodeFrame_eq wellFormed⟩
  · intro one two frame decodedOne decodedTwo
    rw [(decodeFrame_ok decodedOne).2, (decodeFrame_ok decodedTwo).2]

end Frames

end Adhdev.Transfer
