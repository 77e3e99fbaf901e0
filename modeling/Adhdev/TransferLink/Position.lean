import Adhdev.TransferLink.Session

/-! # Where a receiver is in what its sender sends

The sender walks the files from the resumed counts, the receiver by passing what it
has. `Expects` says that a receiver is where the remaining frames are.
-/

namespace Adhdev.TransferLink

open Octets List TransferReceiver

theorem slice_append (octets : Octets) (offset left right : Nat) :
    slice octets offset left ++ slice octets (offset + left) right =
      slice octets offset (left + right) := by
  unfold slice
  rw [take_add, drop_drop]

theorem length_slice {octets : Octets} {offset width : Nat}
    (inside : offset + width ≤ octets.length) :
    (slice octets offset width).length = width := by
  unfold slice
  rw [length_take, length_drop]
  omega

/-- What is frozen is what the manifest says, and hashes are of 32 bytes. -/
structure LinkSetup.Honest (setup : LinkSetup) : Prop where
  digestLength : ∀ data, (setup.sha256 data).length = 32
  tagLength : ∀ role, (setup.bindingTag role).length = 32
  spooled : ∀ (index : Nat) (file : ContentFile), setup.files[index]? = some file →
    (setup.spool index).length = file.size
  hashed : ∀ (index : Nat) (file : ContentFile), setup.files[index]? = some file →
    ∀ block < blockCount file.size, file.blockHashes[block]? =
      some (digestHex setup.sha256
        (slice (setup.spool index) (block * blockBytes) (blockLength file.size block)))

/-! ## The frames of the loop -/

def PumpAction.body : PumpAction → Option FrameBody
  | .waitForWindow => none
  | .sendData fileIndex offset _ read => some (.data fileIndex offset read)
  | .sendBlockEnd fileIndex start digest _ => some (.blockEnd fileIndex start (ofHex digest.toList))
  | .sendDone => some .done

def framesOf (actions : List PumpAction) : List FrameBody := actions.filterMap PumpAction.body

@[simp] theorem framesOf_append (left right : List PumpAction) :
    framesOf (left ++ right) = framesOf left ++ framesOf right :=
  filterMap_append

section Frames

variable (setup : LinkSetup)

def blockEndFrame (fileIndex : Nat) (file : ContentFile) (block : Nat) : FrameBody :=
  .blockEnd fileIndex (block * blockBytes) (setup.sha256
    (slice (setup.spool fileIndex) (block * blockBytes) (blockLength file.size block)))

def pieceFrame (fileIndex : Nat) (piece : Nat × Nat) : FrameBody :=
  .data fileIndex piece.1 (slice (setup.spool fileIndex) piece.1 piece.2)

def blockRest (fileIndex : Nat) (file : ContentFile) (block left fill : Nat) : List FrameBody :=
  (piecesFrom (block * blockBytes + blockLength file.size block) left
      (block * blockBytes + fill)).map (pieceFrame setup fileIndex) ++
    [blockEndFrame setup fileIndex file block]

def laterBlocks (fileIndex : Nat) (file : ContentFile) (first : Nat) : List FrameBody :=
  framesOf ((List.range' first (blockCount file.size - first)).flatMap
    (pumpBlock setup fileIndex file))

variable {setup}

theorem piecesFrom_read (octets : Octets) {last left offset : Nat} (enough : last - offset ≤ left) :
    (piecesFrom last left offset).flatMap (fun piece => slice octets piece.1 piece.2) =
      slice octets offset (last - offset) := by
  induction left generalizing offset with
  | zero =>
    have empty : last - offset = 0 := by omega
    rw [empty, piecesFrom]
    rfl
  | succ left induction =>
    rw [piecesFrom]
    split_ifs with inside
    · have positive : 0 < maxFramePayloadBytes := by decide
      rw [flatMap_cons, induction (by omega), slice_append]
      congr 1
      omega
    have empty : last - offset = 0 := by omega
    rw [empty]
    rfl

variable {file : ContentFile}

variable {block : Nat}

theorem blockPieces_eq (listed : block < blockCount file.size) : blockPieces file block =
      piecesFrom (block * blockBytes + blockLength file.size block) (blockLength file.size block)
        (block * blockBytes) := by
  rw [lt_blockCount_iff] at listed
  have last : min file.size (block * blockBytes + blockBytes) =
      block * blockBytes + blockLength file.size block := by
    unfold blockLength
    omega
  unfold blockPieces
  dsimp only
  rw [last, Nat.add_sub_cancel_left]

variable {fileIndex : Nat}

theorem piecesRead_block (listed : block < blockCount file.size) :
    piecesRead setup fileIndex (blockPieces file block) =
      slice (setup.spool fileIndex) (block * blockBytes) (blockLength file.size block) := by
  rw [piecesRead, blockPieces_eq listed, piecesFrom_read _ (by omega), Nat.add_sub_cancel_left]

theorem ofHex_digestHex (data : Octets) :
    ofHex (digestHex setup.sha256 data).toList = setup.sha256 data := by
  rw [digestHex, String.toList_ofList, ofHex_toHex]

theorem framesOf_pieces (fileIndex : Nat) (pieces : List (Nat × Nat)) :
    framesOf (pieces.map (sendPiece setup fileIndex)) =
      pieces.map (pieceFrame setup fileIndex) := by
  induction pieces with
  | nil => rfl
  | cons piece pieces induction => exact congrArg (pieceFrame setup fileIndex piece :: ·) induction

theorem framesOf_pumpBlock (listed : block < blockCount file.size) :
    framesOf (pumpBlock setup fileIndex file block) =
      blockRest setup fileIndex file block (blockLength file.size block) 0 := by
  have same : framesOf (pumpBlock setup fileIndex file block) =
      framesOf ((blockPieces file block).map (sendPiece setup fileIndex)) ++
        [.blockEnd fileIndex (block * blockBytes) (ofHex (digestHex setup.sha256
          (piecesRead setup fileIndex (blockPieces file block))).toList)] := by
    have waits : ∀ actions, framesOf (.waitForWindow :: actions) = framesOf actions := fun _ => rfl
    have ends : ∀ start digest expected,
        framesOf [.sendBlockEnd fileIndex start digest expected] =
          [.blockEnd fileIndex start (ofHex digest.toList)] := fun _ _ _ => rfl
    rw [pumpBlock, cons_append, waits, framesOf_append, ends]
  rw [same, framesOf_pieces, ofHex_digestHex, piecesRead_block listed, blockPieces_eq listed,
    blockRest, Nat.add_zero, blockEndFrame]

variable {first : Nat}

theorem laterBlocks_cons (listed : first < blockCount file.size) :
    laterBlocks setup fileIndex file first =
      blockRest setup fileIndex file first (blockLength file.size first) 0 ++
        laterBlocks setup fileIndex file (first + 1) := by
  have count : blockCount file.size - first = blockCount file.size - (first + 1) + 1 := by omega
  rw [laterBlocks, count, range'_succ, flatMap_cons, framesOf_append, framesOf_pumpBlock listed]
  rfl

theorem laterBlocks_nil (past : blockCount file.size ≤ first) :
    laterBlocks setup fileIndex file first = [] := by
  rw [laterBlocks, Nat.sub_eq_zero_of_le past]
  rfl

variable {resume : List Nat}

theorem pumpFiles_cons (listed : first < setup.files.length) : pumpFiles setup resume first =
      pumpFile setup resume first ++ pumpFiles setup resume (first + 1) := by
  have count : setup.files.length - first = setup.files.length - (first + 1) + 1 := by omega
  rw [pumpFiles, count, range'_succ, flatMap_cons]
  rfl

theorem pumpFiles_nil (past : setup.files.length ≤ first) : pumpFiles setup resume first = [] := by
  rw [pumpFiles, Nat.sub_eq_zero_of_le past]
  rfl

theorem framesOf_pumpFile {index : Nat} (isFile : setup.files[index]? = some file) :
    framesOf (pumpFile setup resume index) =
      laterBlocks setup index file (resume[index]?.getD 0) := by
  rw [pumpFile, isFile]
  rfl

end Frames

/-! ## The position of a receiver -/

structure AtBlock (setup : LinkSetup) (resume : List Nat) (receiver : TransferReceiver)
    (rest : List FrameBody) (file : ContentFile) (block fill left : Nat) : Prop where
  isFile : setup.files[receiver.nextFile]? = some file
  isBlock : receiver.blocksDone[receiver.nextFile]? = some block
  listed : block < blockCount file.size
  isCurrent : receiver.current = some ⟨receiver.nextFile,
    slice (setup.spool receiver.nextFile) (block * blockBytes) fill, fill⟩
  fits : fill ≤ blockLength file.size block
  enough : blockLength file.size block - fill ≤ left
  isRest : rest = blockRest setup receiver.nextFile file block left fill ++
    (laterBlocks setup receiver.nextFile file (block + 1) ++
      framesOf (pumpFiles setup resume (receiver.nextFile + 1)))

structure Expects (setup : LinkSetup) (resume : List Nat) (receiver : TransferReceiver)
    (rest : List FrameBody) : Prop where
  files : receiver.files = setup.files
  counts : receiver.blocksDone.length = setup.files.length
  later : ∀ index, receiver.nextFile < index → receiver.blocksDone[index]? = resume[index]?
  place : (rest = [] ∧ receiver.complete = true) ∨
    ∃ file block fill left, AtBlock setup resume receiver rest file block fill left

section Position

variable {setup : LinkSetup} {resume : List Nat} {receiver : TransferReceiver}

theorem expects_past (files : receiver.files = setup.files)
    (counts : receiver.blocksDone.length = setup.files.length) (closed : receiver.current = none)
    (same : ∀ index, receiver.nextFile ≤ index → receiver.blocksDone[index]? = resume[index]?)
    (past : setup.files.length ≤ receiver.nextFile) :
    Expects setup resume receiver (framesOf (pumpFiles setup resume receiver.nextFile)) := by
  refine ⟨files, counts, fun index later => same index later.le, .inl ⟨?_, ?_⟩⟩
  · rw [pumpFiles_nil past]
    rfl
  · rw [complete, files, closed, decide_eq_true past]
    rfl

theorem advanceWithin_listed {left done : Nat} {file : ContentFile}
    (isFile : receiver.files[receiver.nextFile]? = some file)
    (isDone : receiver.blocksDone[receiver.nextFile]? = some done) :
    receiver.advanceWithin (left + 1) =
      if (blockCount file.size ≤ done ∧ 0 < file.size) ∨ file.size = 0 then
        advanceWithin left { receiver with nextFile := receiver.nextFile + 1 }
      else { receiver with current := some { index := receiver.nextFile } } := by
  rw [advanceWithin, isFile, isDone]

theorem advanceWithin_expects (left : Nat) (files : receiver.files = setup.files)
    (counts : receiver.blocksDone.length = setup.files.length) (closed : receiver.current = none)
    (same : ∀ index, receiver.nextFile ≤ index → receiver.blocksDone[index]? = resume[index]?)
    (enough : setup.files.length - receiver.nextFile ≤ left) :
    Expects setup resume (receiver.advanceWithin left)
      (framesOf (pumpFiles setup resume receiver.nextFile)) := by
  induction left generalizing receiver with
  | zero =>
    rw [advanceWithin]
    exact expects_past files counts closed same (by omega)
  | succ left induction =>
    by_cases listed : receiver.nextFile < setup.files.length
    · obtain ⟨file, isFile⟩ : ∃ file, setup.files[receiver.nextFile]? = some file :=
        ⟨_, getElem?_eq_getElem listed⟩
      obtain ⟨done, isDone⟩ : ∃ done, receiver.blocksDone[receiver.nextFile]? = some done :=
        ⟨_, getElem?_eq_getElem (by omega)⟩
      have resumed : resume[receiver.nextFile]?.getD 0 = done := by
        rw [← same _ le_rfl, isDone]
        rfl
      rw [advanceWithin_listed (files ▸ isFile) isDone, pumpFiles_cons listed, framesOf_append,
        framesOf_pumpFile isFile, resumed]
      split_ifs with passed
      · have nothing : laterBlocks setup receiver.nextFile file done = [] := by
          apply laterBlocks_nil
          rcases passed with ⟨whole, -⟩ | empty
          · exact whole
          · rw [empty]
            exact Nat.zero_le _
        rw [nothing, nil_append]
        exact @induction { receiver with nextFile := receiver.nextFile + 1 } files counts
          closed (fun index later => same index (Nat.le_of_succ_le later)) (by dsimp only; omega)
      have isOpen : done < blockCount file.size := by
        rw [not_or, not_and, not_lt] at passed
        by_contra whole
        have empty := passed.1 (not_lt.mp whole)
        omega
      refine ⟨files, counts, fun index later => same index later.le,
        .inr ⟨file, done, 0, blockLength file.size done, ?_⟩⟩
      exact
        { isFile := isFile
          isBlock := isDone
          listed := isOpen
          isCurrent := rfl
          fits := Nat.zero_le _
          enough := Nat.sub_le ..
          isRest := by rw [laterBlocks_cons isOpen, append_assoc] }
    · have missing : receiver.files[receiver.nextFile]? = none := by
        rw [files]
        exact getElem?_eq_none (not_lt.mp listed)
      rw [advanceWithin, missing]
      exact expects_past files counts closed same (not_lt.mp listed)

theorem advance_expects (files : receiver.files = setup.files)
    (counts : receiver.blocksDone.length = setup.files.length)
    (same : ∀ index, receiver.nextFile ≤ index → receiver.blocksDone[index]? = resume[index]?) :
    Expects setup resume receiver.advance
      (framesOf (pumpFiles setup resume receiver.nextFile)) := by
  rw [advance]
  exact @advanceWithin_expects setup resume { receiver with current := none } _ files counts rfl
    same (files ▸ le_rfl)

theorem init_expects (setup : LinkSetup) (staged : Nat → Option Octets) (claimedBlocks : List Nat) :
    let receiver := init setup.sha256 setup.files staged claimedBlocks
    Expects setup receiver.blocksDone receiver
      (framesOf (pumpFiles setup receiver.blocksDone 0)) := by
  have counts := @init_counts setup.sha256 setup.files staged claimedBlocks
  dsimp only [init] at counts ⊢
  rw [advance_blocksDone] at counts ⊢
  exact advance_expects rfl counts.1 fun index _ => rfl

/-! ## One frame -/

theorem piecesFrom_nil {last left offset : Nat} (past : last ≤ offset) :
    piecesFrom last left offset = [] := by
  cases left with
  | zero => rfl
  | succ left => exact if_neg (not_lt.mpr past)

section Frame

variable {frame : FrameBody} {rest : List FrameBody} {file : ContentFile} {block fill left : Nat}

theorem AtBlock.cases_frame
    (place : AtBlock setup resume receiver (frame :: rest) file block fill left) :
    (fill = blockLength file.size block ∧
      frame = blockEndFrame setup receiver.nextFile file block ∧
      rest = laterBlocks setup receiver.nextFile file (block + 1) ++
        framesOf (pumpFiles setup resume (receiver.nextFile + 1))) ∨
    ∃ length less, fill + length ≤ blockLength file.size block ∧
      frame = pieceFrame setup receiver.nextFile (block * blockBytes + fill, length) ∧
      blockLength file.size block - (fill + length) ≤ less ∧
      rest = blockRest setup receiver.nextFile file block less (fill + length) ++
        (laterBlocks setup receiver.nextFile file (block + 1) ++
          framesOf (pumpFiles setup resume (receiver.nextFile + 1))) := by
  have fits := place.fits
  have enough := place.enough
  have isRest := place.isRest
  rw [blockRest] at isRest
  by_cases filled : fill = blockLength file.size block
  · rw [piecesFrom_nil (by omega), map_nil, nil_append, singleton_append, cons.injEq] at isRest
    exact .inl ⟨filled, isRest⟩
  cases left with
  | zero => omega
  | succ less =>
    have positive : 0 < maxFramePayloadBytes := by decide
    rw [piecesFrom, if_pos (by omega)] at isRest
    dsimp only at isRest
    rw [map_cons, cons_append, cons_append, cons.injEq] at isRest
    refine .inr ⟨min maxFramePayloadBytes (block * blockBytes + blockLength file.size block -
      (block * blockBytes + fill)), less, by omega, isRest.1, by omega, ?_⟩
    rw [isRest.2, blockRest, Nat.add_assoc]

theorem AtBlock.handleData (honest : setup.Honest) {length : Nat}
    (place : AtBlock setup resume receiver (frame :: rest) file block fill left)
    (files : receiver.files = setup.files) (inside : fill + length ≤ blockLength file.size block) :
    receiver.handleData receiver.nextFile (block * blockBytes + fill)
        (slice (setup.spool receiver.nextFile) (block * blockBytes + fill) length) =
      .ok { receiver with
        current := some ⟨receiver.nextFile,
          slice (setup.spool receiver.nextFile) (block * blockBytes) (fill + length),
          fill + length⟩ } := by
  have listed := lt_blockCount_iff.mp place.listed
  have spooled := honest.spooled _ _ place.isFile
  have short : block * blockBytes + fill + length ≤ (setup.spool receiver.nextFile).length := by
    rw [spooled]
    unfold blockLength at inside
    omega
  have size : (receiver.files[receiver.nextFile]?.map (·.size)).getD 0 = file.size := by
    rw [files, place.isFile]
    rfl
  have done : receiver.blocksDone[receiver.nextFile]?.getD 0 = block := by
    rw [place.isBlock]
    rfl
  rw [TransferReceiver.handleData, place.isCurrent]
  dsimp only
  rw [if_neg (not_not.mpr rfl), size, done, if_neg (lt_irrefl _), if_neg (not_not.mpr rfl),
    length_slice short, if_neg (not_lt.mpr inside), slice_append]

theorem AtBlock.handleBlockEnd (honest : setup.Honest)
    (place : AtBlock setup resume receiver (frame :: rest) file block fill left)
    (files : receiver.files = setup.files) (filled : fill = blockLength file.size block) :
    receiver.handleBlockEnd setup.sha256 receiver.nextFile (block * blockBytes)
        (digestHex setup.sha256 (slice (setup.spool receiver.nextFile) (block * blockBytes)
          (blockLength file.size block))) =
      .ok (if blockCount file.size ≤ block + 1 then
          advance
            { receiver with
              blocksDone := receiver.blocksDone.set receiver.nextFile (block + 1)
              current := some { index := receiver.nextFile }
              nextFile := receiver.nextFile + 1 }
        else
          { receiver with
            blocksDone := receiver.blocksDone.set receiver.nextFile (block + 1)
            current := some { index := receiver.nextFile } },
        block, decide (blockCount file.size ≤ block + 1)) := by
  have hashed := honest.hashed _ _ place.isFile block place.listed
  have size : (receiver.files[receiver.nextFile]?.map (·.size)).getD 0 = file.size := by
    rw [files, place.isFile]
    rfl
  have hashes : (receiver.files[receiver.nextFile]?.map (·.blockHashes)).getD [] =
      file.blockHashes := by
    rw [files, place.isFile]
    rfl
  have done : receiver.blocksDone[receiver.nextFile]?.getD 0 = block := by
    rw [place.isBlock]
    rfl
  rw [TransferReceiver.handleBlockEnd, place.isCurrent]
  dsimp only
  rw [if_neg (not_not.mpr rfl), size, hashes, done, if_neg (lt_irrefl _), if_neg (not_not.mpr rfl),
    if_neg (not_not.mpr filled), filled, hashed, if_neg (by
      rw [not_or, not_not, not_not]
      exact ⟨rfl, rfl⟩)]
  congr 3
  exact decide_eq_true_eq

end Frame

/-- What is expected is data or the end of a block. -/
inductive Taken (setup : LinkSetup) (resume : List Nat) (receiver : TransferReceiver)
    (rest : List FrameBody) : FrameBody → Prop
  | data {fileIndex offset : Nat} {payload : Octets} {next : TransferReceiver}
      (taken : receiver.handleData fileIndex offset payload = .ok next)
      (expects : Expects setup resume next rest) :
      Taken setup resume receiver rest (.data fileIndex offset payload)
  | blockEnd {fileIndex offset : Nat} {payload : Octets} {next : TransferReceiver}
      {outcome : Nat × Bool} (length : payload.length = 32)
      (taken : receiver.handleBlockEnd setup.sha256 fileIndex offset
        (String.ofList (toHex payload)) = .ok (next, outcome))
      (expects : Expects setup resume next rest) :
      Taken setup resume receiver rest (.blockEnd fileIndex offset payload)

theorem Expects.taken (honest : setup.Honest) {frame : FrameBody} {rest : List FrameBody}
    (expects : Expects setup resume receiver (frame :: rest)) :
    Taken setup resume receiver rest frame := by
  have files := expects.files
  rcases expects.place with ⟨nothing, -⟩ | ⟨file, block, fill, left, place⟩
  · cases nothing
  rcases place.cases_frame with ⟨filled, isEnd, isRest⟩ | ⟨length, less, inside, isPiece, enough,
    isRest⟩
  · rw [isEnd, blockEndFrame]
    apply Taken.blockEnd (honest.digestLength _) (place.handleBlockEnd honest files filled)
    have known : receiver.nextFile < receiver.blocksDone.length :=
      (List.getElem?_eq_some_iff.mp place.isBlock).1
    have counts : (receiver.blocksDone.set receiver.nextFile (block + 1)).length =
        setup.files.length := by
      rw [length_set]
      exact expects.counts
    have later : ∀ index, receiver.nextFile < index →
        (receiver.blocksDone.set receiver.nextFile (block + 1))[index]? = resume[index]? := by
      intro index after
      rw [getElem?_set_ne (Nat.ne_of_lt after)]
      exact expects.later index after
    split_ifs with last
    · rw [isRest, laterBlocks_nil last, nil_append]
      exact advance_expects files counts fun index after => later index after
    rw [not_le] at last
    refine ⟨files, counts, later, .inr ⟨file, block + 1, 0, blockLength file.size (block + 1), ?_⟩⟩
    exact
      { isFile := place.isFile
        isBlock := getElem?_set_self known
        listed := last
        isCurrent := rfl
        fits := Nat.zero_le _
        enough := Nat.sub_le ..
        isRest := by rw [isRest, laterBlocks_cons last, append_assoc] }
  · rw [isPiece, pieceFrame]
    apply Taken.data (place.handleData honest files inside)
    refine ⟨files, expects.counts, expects.later, .inr ⟨file, block, fill + length, less, ?_⟩⟩
    exact
      { isFile := place.isFile
        isBlock := place.isBlock
        listed := place.listed
        isCurrent := rfl
        fits := inside
        enough := enough
        isRest := isRest }

theorem Expects.complete (expects : Expects setup resume receiver []) :
    receiver.complete = true := by
  rcases expects.place with ⟨-, complete⟩ | ⟨file, block, fill, left, place⟩
  · exact complete
  have isRest := place.isRest
  rw [blockRest, append_assoc] at isRest
  have found := congrArg length isRest
  rw [length_append, length_append, length_singleton, length_nil] at found
  omega

theorem Expects.not_complete {frame : FrameBody} {rest : List FrameBody}
    (expects : Expects setup resume receiver (frame :: rest)) : receiver.complete = false := by
  rcases expects.place with ⟨nothing, -⟩ | ⟨file, block, fill, left, place⟩
  · cases nothing
  · rw [TransferReceiver.complete, place.isCurrent]
    exact Bool.and_false _

end Position

end Adhdev.TransferLink
