import Adhdev.Foundation.Octets

/-! # The receiver of a transfer

`receiver.ts`: the progress of one receiver through the files of a manifest. What is
staged is read in `init` only; file operations succeed.
-/

namespace Adhdev.TransferLink

open Octets

def blockBytes : Nat := 1024 * 1024

def maxFramePayloadBytes : Nat := 16 * 1024 - 128

structure ContentFile where
  size : Nat
  blockHashes : List String
  deriving DecidableEq

def blockCount (size : Nat) : Nat :=
  if size = 0 then 0 else (size + blockBytes - 1) / blockBytes

def blockLength (size block : Nat) : Nat := min blockBytes (size - block * blockBytes)

inductive ReceiverError
  | protocolError (message : String)
  | hashMismatch (message : String)

/-- `blockData` is what the block's hash was fed. -/
structure Current where
  index : Nat
  blockData : Octets := []
  blockFill : Nat := 0
  deriving DecidableEq

structure TransferReceiver where
  files : List ContentFile
  blocksDone : List Nat
  nextFile : Nat
  current : Option Current
  deriving DecidableEq

/-- How the hash of the source is shown. -/
def digestHex (sha256 : Octets → Octets) (data : Octets) : String :=
  String.ofList (toHex (sha256 data))

section Retained

variable (sha256 : Octets → Octets) (file : ContentFile)

def validBlocks (staged : Octets) : Nat → Nat → Nat
  | 0, block => block
  | left + 1, block =>
    let length := blockLength file.size block
    let got := slice staged (block * blockBytes) length
    if got.length ≠ length ∨ file.blockHashes[block]? ≠ some (digestHex sha256 got) then block
    else validBlocks staged left (block + 1)

/-- Nothing is kept of a file that cannot be read. -/
def validateRetained (staged : Option Octets) (claimed : Nat) : Nat :=
  let want := min claimed (blockCount file.size)
  if want = 0 then 0
  else
    match staged with
    | none => 0
    | some staged => validBlocks sha256 file staged want 0

end Retained

namespace TransferReceiver

/-- The loop of `advance`: empty files and files that are there are passed. -/
def advanceWithin : Nat → TransferReceiver → TransferReceiver
  | 0, receiver => receiver
  | left + 1, receiver =>
    match receiver.files[receiver.nextFile]?, receiver.blocksDone[receiver.nextFile]? with
    | some file, some done =>
      if (blockCount file.size ≤ done ∧ 0 < file.size) ∨ file.size = 0 then
        advanceWithin left { receiver with nextFile := receiver.nextFile + 1 }
      else { receiver with current := some { index := receiver.nextFile } }
    | _, _ => receiver

def advance (receiver : TransferReceiver) : TransferReceiver :=
  advanceWithin (receiver.files.length - receiver.nextFile) { receiver with current := none }

def retained (sha256 : Octets → Octets) (files : List ContentFile) (staged : Nat → Option Octets)
    (claimedBlocks : List Nat) : List Nat :=
  files.mapIdx fun index file =>
    validateRetained sha256 file (staged index) (claimedBlocks[index]?.getD 0)

def keepFirstOpen (files : List ContentFile) (done : List Nat) : List Nat :=
  match (done.zip files).findIdx? fun entry => entry.1 < blockCount entry.2.size with
  | none => done
  | some first => done.mapIdx fun index blocks => if first < index then 0 else blocks

def init (sha256 : Octets → Octets) (files : List ContentFile) (staged : Nat → Option Octets)
    (claimedBlocks : List Nat) : TransferReceiver :=
  advance
    { files
      blocksDone := keepFirstOpen files (retained sha256 files staged claimedBlocks)
      nextFile := 0
      current := none }

def complete (receiver : TransferReceiver) : Bool :=
  receiver.files.length ≤ receiver.nextFile && receiver.current.isNone

def handleData (receiver : TransferReceiver) (fileIndex offset : Nat) (payload : Octets) :
    Except ReceiverError TransferReceiver :=
  match receiver.current with
  | none => .error (.protocolError "data for unexpected file")
  | some current =>
    if current.index ≠ fileIndex then .error (.protocolError "data for unexpected file")
    else
      let size := (receiver.files[current.index]?.map (·.size)).getD 0
      let done := receiver.blocksDone[current.index]?.getD 0
      let expected := done * blockBytes + current.blockFill
      if offset < expected then .ok receiver
      else if offset ≠ expected then .error (.protocolError "gap in data stream")
      else if blockLength size done < current.blockFill + payload.length then
        .error (.protocolError "data past block end")
      else
        .ok
          { receiver with
            current := some
              { current with
                blockData := current.blockData ++ payload
                blockFill := current.blockFill + payload.length } }

def handleBlockEnd (sha256 : Octets → Octets) (receiver : TransferReceiver)
    (fileIndex offset : Nat) (senderHashHex : String) :
    Except ReceiverError (TransferReceiver × Nat × Bool) :=
  match receiver.current with
  | none => .error (.protocolError "block end for unexpected file")
  | some current =>
    if current.index ≠ fileIndex then .error (.protocolError "block end for unexpected file")
    else
      let size := (receiver.files[current.index]?.map (·.size)).getD 0
      let hashes := (receiver.files[current.index]?.map (·.blockHashes)).getD []
      let block := receiver.blocksDone[current.index]?.getD 0
      if offset < block * blockBytes then .ok (receiver, offset / blockBytes, false)
      else if offset ≠ block * blockBytes then
        .error (.protocolError "block end out of order")
      else if current.blockFill ≠ blockLength size block then
        .error (.protocolError "block incomplete")
      else
        let got := digestHex sha256 current.blockData
        if hashes[block]? ≠ some got ∨ got ≠ senderHashHex then
          .error (.hashMismatch s!"block {block} of file {current.index} failed verification")
        else
          let receiver :=
            { receiver with
              blocksDone := receiver.blocksDone.set current.index (block + 1)
              current := some { index := current.index } }
          let fileDone : Bool := blockCount size ≤ block + 1
          let receiver :=
            if fileDone then advance { receiver with nextFile := receiver.nextFile + 1 }
            else receiver
          .ok (receiver, block, fileDone)

end TransferReceiver

/-! ## Blocks -/

theorem blockBytes_pos : 0 < blockBytes := by
  decide

theorem lt_blockCount_iff {size block : Nat} :
    block < blockCount size ↔ block * blockBytes < size := by
  have positive := blockBytes_pos
  unfold blockCount
  split_ifs with empty
  · omega
  · rw [Nat.lt_div_iff_mul_lt positive]
    omega

theorem blockCount_pos {size : Nat} (positive : 0 < size) : 0 < blockCount size := by
  rw [lt_blockCount_iff]
  omega

theorem blockLength_pos {size block : Nat} (listed : block < blockCount size) :
    0 < blockLength size block := by
  have positive := blockBytes_pos
  rw [lt_blockCount_iff] at listed
  unfold blockLength
  omega

section Retained

variable {sha256 : Octets → Octets} {file : ContentFile}

theorem validBlocks_le (staged : Octets) (left block : Nat) :
    validBlocks sha256 file staged left block ≤ block + left := by
  induction left generalizing block with
  | zero => exact le_refl _
  | succ left induction =>
    rw [validBlocks]
    split_ifs
    · omega
    · have bound := induction (block + 1)
      omega

theorem validateRetained_le (staged : Option Octets) (claimed : Nat) :
    validateRetained sha256 file staged claimed ≤ blockCount file.size := by
  unfold validateRetained
  dsimp only
  split_ifs
  · exact Nat.zero_le _
  cases staged with
  | none => exact Nat.zero_le _
  | some staged =>
    have bound := @validBlocks_le sha256 file staged (min claimed (blockCount file.size)) 0
    dsimp only
    omega

end Retained

namespace TransferReceiver

variable {sha256 : Octets → Octets} {files : List ContentFile} {staged : Nat → Option Octets}
  {claimedBlocks : List Nat}

def Counts (files : List ContentFile) (done : List Nat) : Prop :=
  done.length = files.length ∧
    ∀ (index : Nat) (file : ContentFile) (blocks : Nat), files[index]? = some file →
      done[index]? = some blocks → blocks ≤ blockCount file.size

theorem retained_counts : Counts files (retained sha256 files staged claimedBlocks) := by
  constructor
  · rw [retained, List.length_mapIdx]
  intro index file blocks isFile isBlocks
  rw [retained, List.getElem?_mapIdx, isFile, Option.map_some, Option.some.injEq] at isBlocks
  rw [← isBlocks]
  exact validateRetained_le ..

theorem keepFirstOpen_counts {done : List Nat} (counts : Counts files done) :
    Counts files (keepFirstOpen files done) := by
  unfold keepFirstOpen
  split
  · exact counts
  refine ⟨by rw [List.length_mapIdx]; exact counts.1, ?_⟩
  intro index file blocks isFile isBlocks
  rw [List.getElem?_mapIdx, Option.map_eq_some_iff] at isBlocks
  obtain ⟨before, isBefore, isBlocks⟩ := isBlocks
  have bound := counts.2 index file before isFile isBefore
  split_ifs at isBlocks <;> omega

theorem advanceWithin_fields (left : Nat) (receiver : TransferReceiver) :
    (advanceWithin left receiver).files = receiver.files ∧
      (advanceWithin left receiver).blocksDone = receiver.blocksDone := by
  induction left generalizing receiver with
  | zero => exact ⟨rfl, rfl⟩
  | succ left induction =>
    rw [advanceWithin]
    split
    · split_ifs
      · exact induction _
      · exact ⟨rfl, rfl⟩
    · exact ⟨rfl, rfl⟩

@[simp] theorem advance_blocksDone (receiver : TransferReceiver) :
    receiver.advance.blocksDone = receiver.blocksDone :=
  (advanceWithin_fields _ _).2

theorem init_counts : Counts files (init sha256 files staged claimedBlocks).blocksDone := by
  rw [init, advance_blocksDone]
  exact keepFirstOpen_counts retained_counts

end TransferReceiver

end Adhdev.TransferLink
