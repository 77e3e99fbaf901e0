import Adhdev.Foundation.Utf16

/-! # Splitting a mesh frame

`rpc-chunking.ts`: the chunk envelopes of a serialized frame.
-/

namespace Adhdev.MeshChunking

open Text List

def meshMaxInlineFrameBytes : Nat := 60000

def meshChunkPayloadChars : Nat := 16000

def meshMaxChunks : Nat := 1024

def meshMaxReassembledBytes : Nat := 16000000

def meshChunkTtlMs : Int := 60000

structure MeshChunkEnvelope where
  v : Nat
  chunkId : String
  index : Nat
  total : Nat
  data : Text
  deriving DecidableEq

/-! ## Serialized envelopes -/

def unitsOf (text : String) : Text :=
  text.toList.flatMap fun character =>
    if character.toNat < 0x10000 then [UInt16.ofNat character.toNat]
    else
      [UInt16.ofNat (0xd800 + (character.toNat - 0x10000) / 0x400),
        UInt16.ofNat (0xdc00 + (character.toNat - 0x10000) % 0x400)]

def hexDigit (value : Nat) : UInt16 :=
  UInt16.ofNat (if value < 10 then 0x30 + value else 0x57 + value)

def escapedUnit (unit : UInt16) : Text :=
  [0x5c, 0x75, hexDigit (unit.toNat / 4096), hexDigit (unit.toNat / 256 % 16),
    hexDigit (unit.toNat / 16 % 16), hexDigit (unit.toNat % 16)]

def quotedUnit (unit : UInt16) : Text :=
  if unit = 0x22 then [0x5c, 0x22]
  else if unit = 0x5c then [0x5c, 0x5c]
  else if unit = 0x08 then [0x5c, 0x62]
  else if unit = 0x0c then [0x5c, 0x66]
  else if unit = 0x0a then [0x5c, 0x6e]
  else if unit = 0x0d then [0x5c, 0x72]
  else if unit = 0x09 then [0x5c, 0x74]
  else if unit < 0x20 || isHighSurrogate unit || isLowSurrogate unit then escapedUnit unit
  else [unit]

def quotedUnits : Text → Text
  | [] => []
  | [unit] => quotedUnit unit
  | unit :: next :: rest =>
    if isHighSurrogate unit && isLowSurrogate next then unit :: next :: quotedUnits rest
    else quotedUnit unit ++ quotedUnits (next :: rest)

def quoted (text : Text) : Text := 0x22 :: quotedUnits text ++ [0x22]

/-- `JSON.stringify` of an envelope. -/
def stringifyEnvelope (envelope : MeshChunkEnvelope) : Text :=
  unitsOf "\x7b\"v\":" ++ unitsOf (toString envelope.v) ++
    unitsOf ",\"kind\":\"rpc_chunk\",\"chunkId\":" ++
    quoted (unitsOf envelope.chunkId) ++ unitsOf ",\"index\":" ++
      unitsOf (toString envelope.index) ++
    unitsOf ",\"total\":" ++ unitsOf (toString envelope.total) ++ unitsOf ",\"data\":" ++
    quoted envelope.data ++ unitsOf "\x7d"

/-! ## Splitting -/

inductive MeshChunkSplitFailure
  | tooManyChunks | chunkTooLarge
  deriving DecidableEq

structure MeshChunkSplitRefusal where
  reason : MeshChunkSplitFailure
  detail : String
  deriving DecidableEq

section Split

variable (chunkId : String) (version : Nat)

def probeFits (index : Nat) (candidate : Text) : Bool :=
  utf8ByteLength (stringifyEnvelope
    { v := version, chunkId, index, total := meshMaxChunks, data := candidate }) ≤
      meshMaxInlineFrameBytes

/-- The length of the slice that the inner loop ends with, begun with this one. Each pass makes it
smaller, so that as many passes as it has characters are enough. -/
def fitLength (index : Nat) (rest : Text) : Nat → Nat → Nat
  | 0, _ => 0
  | passes + 1, length =>
    if length = 0 then 0
    else if probeFits chunkId version index (rest.take length) then length
    else
      let shrunk := max 1 (length * 4 / 5)
      if length ≤ shrunk then fitLength index rest passes (length - 1)
      else fitLength index rest passes shrunk

/-- The outer loop: the slices so far, and those of the rest. Each pass takes a character. -/
def sliceFrom (json : Text) : Nat → List Text → Text → Except MeshChunkSplitRefusal (List Text)
  | 0, slices, _ => .ok slices
  | _ + 1, slices, [] => .ok slices
  | passes + 1, slices, unit :: units =>
    let rest := unit :: units
    let longest := min rest.length meshChunkPayloadChars
    let length := fitLength chunkId version slices.length rest longest longest
    if length = 0 then
      .error
        { reason := .chunkTooLarge
          detail := "a single character did not fit the chunk envelope budget" }
    else
      let taken := slices ++ [rest.take length]
      if meshMaxChunks < taken.length then
        .error
          { reason := .tooManyChunks
            detail := s!"frame needs more than {meshMaxChunks} chunks ({utf8ByteLength json} bytes)" }
      else sliceFrom json passes taken (rest.drop length)

def buildChunkEnvelope (index total : Nat) (data : Text) : MeshChunkEnvelope where
  v := version
  chunkId := chunkId
  index := index
  total := total
  data := data

def splitMeshFrame (json : Text) : Except MeshChunkSplitRefusal (List MeshChunkEnvelope) :=
  match sliceFrom chunkId version json json.length [] json with
  | .error refusal => .error refusal
  | .ok [] =>
    .error { reason := .chunkTooLarge, detail := "refusing to chunk an empty frame" }
  | .ok slices =>
    .ok (slices.mapIdx fun index data =>
      buildChunkEnvelope chunkId version index slices.length data)

/-! ## What splitting gives -/

variable {chunkId version}

theorem sliceFrom_ok {json rest : Text} {passes : Nat} {slices all : List Text}
    (enough : rest.length ≤ passes)
    (sliced : sliceFrom chunkId version json passes slices rest = .ok all) :
    all.flatten = slices.flatten ++ rest ∧
      (slices.length ≤ meshMaxChunks → all.length ≤ meshMaxChunks) ∧
      ((∀ slice ∈ slices, slice ≠ []) → ∀ slice ∈ all, slice ≠ []) := by
  induction passes generalizing slices rest with
  | zero =>
    obtain rfl : rest = [] := eq_nil_of_length_eq_zero (Nat.le_zero.mp enough)
    rw [sliceFrom] at sliced
    cases sliced
    exact ⟨(append_nil _).symm, id, id⟩
  | succ passes induction =>
    cases rest with
    | nil =>
      rw [sliceFrom] at sliced
      cases sliced
      exact ⟨(append_nil _).symm, id, id⟩
    | cons unit units =>
      rw [sliceFrom] at sliced
      dsimp only at sliced
      generalize fitLength chunkId version slices.length (unit :: units)
        (min (unit :: units).length meshChunkPayloadChars)
        (min (unit :: units).length meshChunkPayloadChars) = length at sliced
      split_ifs at sliced with none many
      have shorter : ((unit :: units).drop length).length ≤ passes := by
        rw [length_drop]
        simp only [length_cons] at enough ⊢
        omega
      obtain ⟨joined, few, nonempty⟩ := induction shorter sliced
      refine ⟨?_, fun _ => few (not_lt.mp many), fun some => nonempty ?_⟩
      · rw [joined, flatten_append, flatten_singleton, append_assoc, take_append_drop]
      intro slice member
      rcases mem_append.mp member with old | new
      · exact some slice old
      rw [mem_singleton.mp new]
      cases length with
      | zero => exact absurd rfl none
      | succ length => exact cons_ne_nil _ _

structure SlicesOf (chunkId : String) (version : Nat) (json : Text) (slices : List Text)
    (chunks : List MeshChunkEnvelope) : Prop where
  joined : slices.flatten = json
  nonempty : ∀ slice ∈ slices, slice ≠ []
  some : slices ≠ []
  few : slices.length ≤ meshMaxChunks
  built : chunks = slices.mapIdx fun index data =>
    buildChunkEnvelope chunkId version index slices.length data

variable {chunks : List MeshChunkEnvelope}

theorem splitMeshFrame_sliced {json : Text}
    (split : splitMeshFrame chunkId version json = .ok chunks) :
    ∃ slices, sliceFrom chunkId version json json.length [] json = .ok slices ∧
      SlicesOf chunkId version json slices chunks := by
  rw [splitMeshFrame] at split
  cases sliced : sliceFrom chunkId version json json.length [] json with
  | error refusal =>
    rw [sliced] at split
    cases split
  | ok slices =>
    rw [sliced] at split
    obtain ⟨joined, few, nonempty⟩ := sliceFrom_ok le_rfl sliced
    cases slices with
    | nil => cases split
    | cons slice slices =>
      cases split
      exact ⟨slice :: slices, rfl, joined, nonempty (fun _ member => (by cases member)),
        cons_ne_nil _ _, few (Nat.zero_le _), rfl⟩

theorem splitMeshFrame_slices {json : Text}
    (split : splitMeshFrame chunkId version json = .ok chunks) :
    ∃ slices, SlicesOf chunkId version json slices chunks := by
  obtain ⟨slices, -, sliced⟩ := splitMeshFrame_sliced split
  exact ⟨slices, sliced⟩

end Split

end Adhdev.MeshChunking
