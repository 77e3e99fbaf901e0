import Adhdev.TransferLink.StagingRuns

/-! # A temporary file that stays

The daemon stops after the temporary file of a reopened file was created. Nothing removes
the file, and the tree is never accepted.
-/

namespace Adhdev.TransferLink

open Octets FileTree TransferReceiver List

def zerosHash (data : Octets) : Octets :=
  if data.length = blockBytes then
    [48, 225, 73, 85, 235, 241, 53, 34, 102, 220, 47, 248, 6, 126, 104, 16,
      70, 7, 231, 80, 171, 185, 211, 179, 101, 130, 184, 175, 144, 159, 203, 88]
  else if data.length = 1 then
    [110, 52, 11, 156, 255, 179, 122, 152, 156, 165, 68, 230, 187, 120, 10, 44,
      120, 144, 29, 63, 179, 55, 56, 118, 133, 17, 163, 6, 23, 175, 160, 29]
  else
    [44, 183, 78, 219, 167, 84, 168, 29, 18, 28, 157, 182, 131, 55, 4, 168,
      231, 212, 23, 229, 177, 61, 26, 25, 244, 165, 47, 0, 125, 100, 66, 100]

def zerosFile : StagedFile where
  size := blockBytes + 1
  blockHashes := [
    "30e14955ebf1352266dc2ff8067e68104607e750abb9d3b36582b8af909fcb58",
    "6e340b9cffb37a989ca544e6bb780a2c78901d3fb33738768511a30617afa01d"]
  path := ["a"]
  sha256 := "2cb74edba754a81d121c9db6833704a8e7d417e5b13d1a19f4a52f007d644264"

def zerosSetup : StagingSetup where
  files := [zerosFile]
  selection := [["a"]]
  sha256 := zerosHash
  sniffSecretContent := fun _ => false

section Zeros

variable {block last : Octets}

theorem digest_block (whole : block.length = blockBytes) : digestHex zerosHash block =
      "30e14955ebf1352266dc2ff8067e68104607e750abb9d3b36582b8af909fcb58" := by
  rw [digestHex, zerosHash, if_pos whole]
  decide

theorem digest_last (short : last.length = 1) : digestHex zerosHash last =
      "6e340b9cffb37a989ca544e6bb780a2c78901d3fb33738768511a30617afa01d" := by
  rw [digestHex, zerosHash, if_neg (by rw [short]; decide), if_pos short]
  decide

def zerosBetween : TransferReceiver where
  files := zerosSetup.contents
  blocksDone := [1]
  nextFile := 0
  current := some { index := 0 }

theorem slice_block (whole : block.length = blockBytes) :
    slice block (0 * blockBytes) (blockLength zerosFile.size 0) = block := by
  have length : blockLength zerosFile.size 0 = blockBytes := by decide
  rw [length, slice, Nat.zero_mul, drop_zero, take_of_length_le whole.le]

variable {tree : FileTree StagePath}

theorem retained_block (whole : block.length = blockBytes) (isHeld : tree.read ["a"] = some block) :
    retained zerosHash zerosSetup.contents (zerosSetup.staged tree) [1] = [1] := by
  have valid : validateRetained zerosHash zerosFile.toContentFile (some block) 1 = 1 := by
    have want : min 1 (blockCount zerosFile.size) = 1 := by decide
    have length : blockLength zerosFile.size 0 = blockBytes := by decide
    unfold validateRetained
    dsimp only
    rw [want, if_neg (by decide), validBlocks, slice_block whole, digest_block whole, if_neg (by
      rw [not_or, not_not, not_not]
      exact ⟨whole.trans length.symm, rfl⟩), validBlocks]
  have staged : zerosSetup.staged tree 0 = some block := isHeld
  have one : retained zerosHash zerosSetup.contents (zerosSetup.staged tree) [1] =
      [validateRetained zerosHash zerosFile.toContentFile (zerosSetup.staged tree 0) 1] := rfl
  rw [one, staged, valid]

theorem initReceiver_block (whole : block.length = blockBytes)
    (isHeld : tree.read ["a"] = some block) :
    zerosSetup.initReceiver tree [1] = zerosBetween := by
  have retained := retained_block whole isHeld
  rw [StagingSetup.initReceiver, init]
  change advance ⟨_, keepFirstOpen zerosSetup.contents
    (TransferReceiver.retained zerosHash zerosSetup.contents (zerosSetup.staged tree) [1]), _, _⟩ =
      _
  rw [retained]
  decide

def zerosTemporary (stamp : String) : StagePath := StagingSetup.reopenPath stamp ["a"]

theorem initOps_block (whole : block.length = blockBytes)
    (isHeld : tree.read ["a"] = some block) (stamp : String) :
    zerosSetup.initOps tree stamp [1] =
      [.create (zerosTemporary stamp), .write (zerosTemporary stamp) (0 * blockBytes) block,
        .unlink ["a"], .rename (zerosTemporary stamp) ["a"]] := by
  have retained := retained_block whole isHeld
  rw [StagingSetup.initOps, initReceiver_block whole isHeld]
  change (fun drops => drops ++ zerosSetup.advanceOps (tree.applyAll drops) stamp [1] 1 0)
    (zerosSetup.dropOps (TransferReceiver.retained zerosHash zerosSetup.contents
      (zerosSetup.staged tree) [1]) [1]) = _
  rw [retained]
  have none : zerosSetup.dropOps [1] [1] = [] := by decide
  rw [none]
  dsimp only
  rw [nil_append, applyAll_nil]
  have opens : zerosSetup.advanceOps tree stamp [1] 1 0 = zerosSetup.openOps tree stamp 0 1 := rfl
  have copies : zerosSetup.openOps tree stamp 0 1 =
      .create (zerosTemporary stamp) ::
        (.write (zerosTemporary stamp) (0 * blockBytes) (slice ((tree.read ["a"]).getD [])
          (0 * blockBytes) (blockLength zerosFile.size 0)) ::
          [.unlink ["a"], .rename (zerosTemporary stamp) ["a"]]) := rfl
  rw [opens, copies, isHeld, Option.getD_some, slice_block whole]

/-! ## The run -/

theorem reachable_ops {ops : List (FileOp StagePath)} {receiver : Option TransferReceiver}
    (reachable : StagingState.Reachable zerosSetup ⟨tree, receiver, ops⟩) :
    StagingState.Reachable zerosSetup ⟨tree.applyAll ops, receiver, []⟩ := by
  induction ops generalizing tree with
  | nil => exact reachable
  | cons op ops induction => exact induction (.step reachable (.fileOp rfl))

theorem temporary_ne (stamp : String) : zerosTemporary stamp ≠ ["a"] := by
  intro same
  have length := congrArg (fun path => (path.headD "").length) same
  rw [zerosTemporary, StagingSetup.reopenPath] at length
  dsimp only [dropLast, nil_append, headD] at length
  rw [String.length_append] at length
  have long : ".adhdev-reopen-".length = 15 := by decide
  have short : "a".length = 1 := by decide
  omega

theorem reachable_block (whole : block.length = blockBytes) : ∃ tree : FileTree StagePath,
      StagingState.Reachable zerosSetup ⟨tree, some zerosBetween, []⟩ ∧
      tree.read ["a"] = some block ∧ ∀ path, path ≠ ["a"] → tree.read path = none := by
  have started : StagingState.Reachable zerosSetup ⟨[(["a"], [])],
      some ⟨zerosSetup.contents, [0], 0, some { index := 0 }⟩, []⟩ :=
    reachable_ops (.step .start (.restart rfl "1" []))
  have taken : handleData
      ⟨zerosSetup.contents, [0], 0, some { index := 0 }⟩ 0 0 block =
      .ok ⟨zerosSetup.contents, [0], 0, some ⟨0, block, 0 + block.length⟩⟩ := by
    have fits : ¬blockLength zerosFile.size 0 < 0 + block.length := by
      rw [whole]
      decide
    exact if_neg fits
  have filled : (⟨zerosSetup.contents, [0], 0, some ⟨0, block, 0 + block.length⟩⟩ :
      TransferReceiver) ≠ ⟨zerosSetup.contents, [0], 0, some { index := 0 }⟩ := by
    intro same
    have fill := congrArg (fun receiver => receiver.current.map (·.blockFill)) same
    have zero : 0 + block.length = 0 := Option.some.inj fill
    rw [whole] at zero
    exact absurd zero (by decide)
  have received := StagingState.Reachable.step started (.data rfl rfl taken)
  rw [if_neg filled] at received
  have written := reachable_ops received
  have ended : handleBlockEnd zerosSetup.sha256
      ⟨zerosSetup.contents, [0], 0, some ⟨0, block, 0 + block.length⟩⟩ 0 (0 * blockBytes)
      (digestHex zerosHash block) = .ok (zerosBetween, 0, false) := by
    have full : 0 + block.length = blockLength zerosFile.size 0 := by
      rw [whole]
      decide
    have hash : zerosFile.blockHashes[0]? = some (digestHex zerosHash block) := by
      rw [digest_block whole]
      rfl
    have hashed : ¬(zerosFile.blockHashes[0]? ≠ some (digestHex zerosHash block) ∨
        digestHex zerosHash block ≠ digestHex zerosHash block) := by
      rw [not_or, not_not, not_not]
      exact ⟨hash, rfl⟩
    have value : ((if decide (blockCount zerosFile.size ≤ 0 + 1) = true then
          advance ⟨zerosSetup.contents, [1], 0 + 1, some { index := 0 }⟩
        else ⟨zerosSetup.contents, [1], 0, some { index := 0 }⟩, 0,
        decide (blockCount zerosFile.size ≤ 0 + 1)) : TransferReceiver × Nat × Bool) =
        (zerosBetween, 0, false) := by decide
    rw [handleBlockEnd]
    dsimp only
    rw [if_neg (not_not.mpr rfl), if_neg (by decide), if_neg (by decide)]
    exact (if_neg (not_not.mpr full)).trans ((if_neg hashed).trans (congrArg Except.ok value))
  have checked := StagingState.Reachable.step written (.blockEnd "1" rfl rfl ended)
  refine ⟨_, checked, ?_, ?_⟩
  · have there := @read_append _ _ [(["a"], [])] ["a"] ["a"] [] block 0 (by decide) rfl
    exact there.trans (if_pos rfl)
  intro path other
  have apart := @read_append _ _ [(["a"], [])] ["a"] path [] block 0 (by decide) rfl
  rw [if_neg other] at apart
  rw [applyAll_cons, applyAll_nil]
  refine apart.trans ?_
  rw [FileTree.read, find?_cons_of_neg (by simp [Ne.symm other])]
  rfl

section Resumed

variable {tree : FileTree StagePath} {receiver : Option TransferReceiver} {stamp : String}

theorem reachable_leftover (whole : block.length = blockBytes)
    (reachable : StagingState.Reachable zerosSetup ⟨tree, receiver, []⟩)
    (isHeld : tree.read ["a"] = some block) :
    StagingState.Reachable zerosSetup ⟨tree.apply (.create (zerosTemporary stamp)), none, []⟩ := by
  have restarted := StagingState.Reachable.step reachable (.restart rfl stamp [1])
  rw [StagingState.restarted, initOps_block whole isHeld] at restarted
  exact .step (.step restarted (.fileOp rfl)) .crash

theorem reachable_resumed (whole : block.length = blockBytes)
    (reachable : StagingState.Reachable zerosSetup ⟨tree, receiver, []⟩)
    (isHeld : tree.read ["a"] = some block) (absent : tree.read (zerosTemporary stamp) = none) :
    ∃ after : FileTree StagePath, StagingState.Reachable zerosSetup ⟨after, some zerosBetween, []⟩ ∧
      after.read ["a"] = some block ∧
      ∀ path, path ≠ ["a"] → path ≠ zerosTemporary stamp → after.read path = tree.read path := by
  have restarted := StagingState.Reachable.step reachable (.restart rfl stamp [1])
  rw [StagingState.restarted, initOps_block whole isHeld,
    initReceiver_block whole isHeld] at restarted
  have created := fun path => @read_create_none _ _ tree _ path absent
  have isEmpty := created (zerosTemporary stamp)
  rw [if_pos rfl] at isEmpty
  have written := fun path => @read_append _ _ _ _ path _ block (0 * blockBytes) isEmpty
    (Nat.zero_mul _)
  have unlinked := fun path => @read_unlink _ _ ((tree.apply (.create (zerosTemporary stamp))).apply
    (.write (zerosTemporary stamp) (0 * blockBytes) block)) ["a"] path
  have there := unlinked (zerosTemporary stamp)
  rw [if_neg (temporary_ne stamp), written, if_pos rfl, nil_append] at there
  have gone := unlinked ["a"]
  rw [if_pos rfl] at gone
  have renamed := fun path => @read_rename _ _ _ _ path _ _ there gone
  refine ⟨_, reachable_ops restarted, ?_, ?_⟩
  · exact (renamed ["a"]).trans (if_pos rfl)
  intro path other apart
  refine (renamed path).trans ?_
  rw [if_neg other, if_neg apart, unlinked, if_neg other, written, if_neg apart, created,
    if_neg apart]

theorem reachable_complete (short : last.length = 1) (whole : block.length = blockBytes)
    (reachable : StagingState.Reachable zerosSetup ⟨tree, some zerosBetween, []⟩)
    (isHeld : tree.read ["a"] = some block) :
    ∃ after : FileTree StagePath,
      StagingState.Reachable zerosSetup ⟨after, some ⟨zerosSetup.contents, [2], 1, none⟩, []⟩ ∧
      ∀ path, path ≠ ["a"] → after.read path = tree.read path := by
  have taken : zerosBetween.handleData 0 blockBytes last =
      .ok ⟨zerosSetup.contents, [1], 0, some ⟨0, last, 0 + last.length⟩⟩ := by
    have fits : ¬blockLength zerosFile.size 1 < 0 + last.length := by
      rw [short]
      decide
    rw [handleData, zerosBetween]
    dsimp only
    rw [if_neg (not_not.mpr rfl)]
    change (if blockBytes < 1 * blockBytes + 0 then _ else if blockBytes ≠ 1 * blockBytes + 0 then _
      else _) = _
    rw [if_neg (by decide), if_neg (by decide)]
    exact if_neg fits
  have filled : (⟨zerosSetup.contents, [1], 0, some ⟨0, last, 0 + last.length⟩⟩ :
      TransferReceiver) ≠ zerosBetween := by
    intro same
    have fill := congrArg (fun receiver => receiver.current.map (·.blockFill)) same
    have zero : 0 + last.length = 0 := Option.some.inj fill
    omega
  have received := StagingState.Reachable.step reachable (.data rfl rfl taken)
  rw [if_neg filled] at received
  have written := reachable_ops received
  have ended : handleBlockEnd zerosSetup.sha256
      ⟨zerosSetup.contents, [1], 0, some ⟨0, last, 0 + last.length⟩⟩ 0 blockBytes
      (digestHex zerosHash last) = .ok (⟨zerosSetup.contents, [2], 1, none⟩, 1, true) := by
    have full : 0 + last.length = blockLength zerosFile.size 1 := by
      rw [short]
      decide
    have hash : zerosFile.blockHashes[1]? = some (digestHex zerosHash last) := by
      rw [digest_last short]
      rfl
    have hashed : ¬(zerosFile.blockHashes[1]? ≠ some (digestHex zerosHash last) ∨
        digestHex zerosHash last ≠ digestHex zerosHash last) := by
      rw [not_or, not_not, not_not]
      exact ⟨hash, rfl⟩
    have value : ((if decide (blockCount zerosFile.size ≤ 1 + 1) = true then
          advance ⟨zerosSetup.contents, [2], 0 + 1, some { index := 0 }⟩
        else ⟨zerosSetup.contents, [2], 0, some { index := 0 }⟩, 1,
        decide (blockCount zerosFile.size ≤ 1 + 1)) : TransferReceiver × Nat × Bool) =
        (⟨zerosSetup.contents, [2], 1, none⟩, 1, true) := by decide
    rw [handleBlockEnd]
    dsimp only
    rw [if_neg (not_not.mpr rfl)]
    change (if blockBytes < 1 * blockBytes then _ else if blockBytes ≠ 1 * blockBytes then _
      else _) = _
    rw [if_neg (by decide), if_neg (by decide)]
    exact (if_neg (not_not.mpr full)).trans ((if_neg hashed).trans (congrArg Except.ok value))
  have checked := StagingState.Reachable.step written (.blockEnd "4" rfl rfl ended)
  refine ⟨_, checked, ?_⟩
  intro path other
  have long : blockBytes = block.length := whole.symm
  have apart := @read_append _ _ tree ["a"] path block last blockBytes isHeld long
  rw [if_neg other] at apart
  exact apart

end Resumed

end Zeros

/-- A run in which every block is received and the tree is rejected. -/
theorem leftover_is_rejected : ∃ (state : StagingState) (receiver : TransferReceiver),
      StagingState.Reachable zerosSetup state ∧ state.receiver = some receiver ∧
      state.pending = [] ∧ receiver.complete = true ∧
      zerosSetup.verifyAll state.tree = .error .unexpectedEntry := by
  have whole : (List.replicate blockBytes (0 : UInt8)).length = blockBytes := List.length_replicate
  have different : zerosTemporary "3" ≠ zerosTemporary "2" := by decide
  obtain ⟨first, reachable, isHeld, nothing⟩ := reachable_block whole
  have stopped := @reachable_leftover _ _ _ "2" whole reachable isHeld
  have created := fun path => @read_create_none _ _ first (zerosTemporary "2") path
    (nothing _ (temporary_ne "2"))
  obtain ⟨second, resumed, stillHeld, same⟩ := @reachable_resumed _ _ _ "3" whole stopped
    (by rw [created, if_neg (temporary_ne "2").symm]; exact isHeld)
    (by rw [created, if_neg different]; exact nothing _ (temporary_ne "3"))
  obtain ⟨third, complete, others⟩ := @reachable_complete _ [0] _ rfl whole resumed stillHeld
  have stays : third.read (zerosTemporary "2") = some [] := by
    rw [others _ (temporary_ne "2"), same _ (temporary_ne "2") different.symm, created, if_pos rfl]
  refine ⟨_, _, complete, rfl, rfl, by decide, ?_⟩
  have unexpected : ¬(third.all fun entry => zerosSetup.selection.contains entry.1) = true := by
    intro scanned
    obtain ⟨entry, member, isPath⟩ := read_isSome_iff.mp (by rw [stays]; rfl :
      (third.read (zerosTemporary "2")).isSome = true)
    have selected := List.contains_iff_mem.mp (List.all_eq_true.mp scanned entry member)
    rw [isPath] at selected
    exact temporary_ne "2" (List.mem_singleton.mp selected)
  rw [StagingSetup.verifyAll, if_neg unexpected]

end Adhdev.TransferLink
