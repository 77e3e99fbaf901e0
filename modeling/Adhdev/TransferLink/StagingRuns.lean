import Adhdev.TransferLink.StagingResume

/-! # Runs of a receiving daemon

Links are lost and the daemon stops at any file operation. Where no stop falls between the
creation of a temporary file and its renaming, a resumed transfer can finish.
-/

namespace Adhdev.TransferLink

open Octets FileTree List TransferReceiver

section Frames

variable {setup : StagingSetup} {source : Nat → Octets} {tree : FileTree StagePath}
  {receiver next : TransferReceiver} {fileIndex offset : Nat} {payload : Octets}

theorem handleData_ok (taken : receiver.handleData fileIndex offset payload = .ok next) :
    next = receiver ∨ ∃ current, receiver.current = some current ∧ current.index = fileIndex ∧
      offset = receiver.blocksDone[current.index]?.getD 0 * blockBytes + current.blockFill ∧
      current.blockFill + payload.length ≤
        blockLength ((receiver.files[current.index]?.map (·.size)).getD 0)
          (receiver.blocksDone[current.index]?.getD 0) ∧
      next = { receiver with
        current := some { current with
          blockData := current.blockData ++ payload
          blockFill := current.blockFill + payload.length } } := by
  rw [handleData] at taken
  cases isCurrent : receiver.current with
  | none =>
    rw [isCurrent] at taken
    cases taken
  | some current =>
    rw [isCurrent] at taken
    dsimp only at taken
    split_ifs at taken with other repeated gap past
    · exact .inl (Except.ok.inj taken).symm
    · exact .inr ⟨current, rfl, not_not.mp other, not_not.mp gap, not_lt.mp past,
        (Except.ok.inj taken).symm⟩

variable {file : StagedFile}

theorem current_size {current : Current} {done : Nat} {held : Octets}
    (files : receiver.files = setup.contents)
    (holds : CurrentHeld setup tree receiver current file done held) :
    (receiver.files[current.index]?.map (·.size)).getD 0 = file.size ∧
      (receiver.files[current.index]?.map (·.blockHashes)).getD [] = file.blockHashes ∧
      receiver.blocksDone[current.index]?.getD 0 = done := by
  rw [files, holds.isIndex, contents_eq holds.isFile, holds.isDone]
  exact ⟨rfl, rfl, rfl⟩

theorem safeOps_data (honest : setup.Honest source) (settled : Settled setup source receiver tree)
    (taken : receiver.handleData fileIndex offset payload = .ok next) :
    SafeOps setup (Settled setup source next) tree
      (if next = receiver then [] else [.write (setup.path fileIndex) offset payload]) := by
  obtain ⟨bounded, tidy, ready⟩ := settled
  split_ifs with repeated
  · rw [repeated]
    exact ⟨bounded, tidy, ready⟩
  rcases handleData_ok taken with same | ⟨current, isCurrent, isIndex, isOffset, inside, isNext⟩
  · exact absurd same repeated
  rcases ready.current with ⟨none, -⟩ | ⟨known, file, done, held, isKnown, holds⟩
  · rw [none] at isCurrent
    cases isCurrent
  obtain rfl := Option.mem_unique isKnown isCurrent
  obtain ⟨size, -, counted⟩ := current_size ready.files holds
  rw [size, counted] at inside
  rw [counted] at isOffset
  have isPath : setup.path fileIndex = file.path := by
    rw [← isIndex, holds.isIndex]
    exact path_eq holds.isFile
  rw [isPath]
  have written := fun other => @read_append _ _ tree file.path other held payload offset
    holds.isHeld (by rw [isOffset, holds.length])
  have others : ∀ other, other ≠ file.path →
      (tree.apply (.write file.path offset payload)).read other = tree.read other := by
    intro other otherwise
    rw [written, if_neg otherwise]
  have isHeld : (tree.apply (.write file.path offset payload)).read file.path =
      some (held ++ payload) := by
    rw [written, if_pos rfl]
  have length := holds.length
  have short := block_le_size holds.listed
  refine ⟨bounded, .inr tidy, ?_, ?_, ?_⟩
  · apply bounded.changed honest holds.isFile others
    intro content isContent
    obtain rfl := Option.mem_unique isHeld isContent
    rw [length_append]
    omega
  · exact tidy.changed (honest.listed file (mem_of_getElem? holds.isFile)) others
  rw [isNext]
  refine ⟨ready.files, ready.counts, ?_, ready.passed.changed (by rw [isHeld]; rfl) others,
    .inr ⟨_, file, done, held ++ payload, rfl, ?_⟩⟩
  · apply ready.kept.changed honest holds.isFile others
    intro entry isEntry block fewer
    obtain rfl := Option.mem_unique holds.isDone isEntry
    obtain ⟨content, isContent, isSlice⟩ := ready.kept _ _ _ holds.isFile holds.isDone block fewer
    obtain rfl := Option.mem_unique holds.isHeld isContent
    refine ⟨held ++ payload, isHeld, ?_⟩
    have whole := blockLength_of_next
      (show block + 1 < blockCount file.size by have := holds.listed; omega)
    have within : (block + 1) * blockBytes ≤ done * blockBytes := Nat.mul_le_mul_right _ fewer
    rw [Nat.succ_mul] at within
    rw [slice_front (by omega)]
    exact isSlice
  · exact
      { isFile := holds.isFile
        isDone := holds.isDone
        isIndex := holds.isIndex
        listed := holds.listed
        isHeld := isHeld
        length := by
          rw [length_append]
          dsimp only
          omega
        fits := inside
        isData := by
          rw [holds.isData, drop_append_of_le_length (by omega)] }

variable {senderHashHex : String} {outcome : Nat × Bool}

theorem handleBlockEnd_ok {sha256 : Octets → Octets}
    (taken : receiver.handleBlockEnd sha256 fileIndex offset senderHashHex = .ok (next, outcome)) :
    (next = receiver ∧ outcome.2 = false) ∨ ∃ current, receiver.current = some current ∧
      current.blockFill = blockLength ((receiver.files[current.index]?.map (·.size)).getD 0)
        (receiver.blocksDone[current.index]?.getD 0) ∧
      ((receiver.files[current.index]?.map (·.blockHashes)).getD [])[
        receiver.blocksDone[current.index]?.getD 0]? = some (digestHex sha256 current.blockData) ∧
      outcome.2 = decide (blockCount ((receiver.files[current.index]?.map (·.size)).getD 0) ≤
        receiver.blocksDone[current.index]?.getD 0 + 1) ∧
      next = if outcome.2 = true then
          advance { receiver with
            blocksDone := receiver.blocksDone.set current.index
              (receiver.blocksDone[current.index]?.getD 0 + 1)
            current := some { index := current.index }
            nextFile := receiver.nextFile + 1 }
        else { receiver with
          blocksDone := receiver.blocksDone.set current.index
            (receiver.blocksDone[current.index]?.getD 0 + 1)
          current := some { index := current.index } } := by
  rw [handleBlockEnd] at taken
  cases isCurrent : receiver.current with
  | none =>
    rw [isCurrent] at taken
    cases taken
  | some current =>
    rw [isCurrent] at taken
    dsimp only at taken
    split_ifs at taken with other repeated gap incomplete mismatch last
    · obtain ⟨rfl, rfl⟩ := Prod.mk.inj (Except.ok.inj taken)
      exact .inl ⟨rfl, rfl⟩
    · obtain ⟨rfl, rfl⟩ := Prod.mk.inj (Except.ok.inj taken)
      rw [not_or, not_not, not_not] at mismatch
      refine .inr ⟨current, rfl, not_not.mp incomplete, mismatch.1, rfl, ?_⟩
      rw [if_pos last]
    obtain ⟨rfl, rfl⟩ := Prod.mk.inj (Except.ok.inj taken)
    rw [not_or, not_not, not_not] at mismatch
    refine .inr ⟨current, rfl, not_not.mp incomplete, mismatch.1, rfl, ?_⟩
    rw [if_neg last]

theorem kept_set (honest : setup.Honest source) {current : Current} {done : Nat} {held : Octets}
    (ready : Ready setup source tree receiver)
    (holds : CurrentHeld setup tree receiver current file done held)
    (filled : current.blockFill = blockLength file.size done)
    (hash : file.blockHashes[done]? = some (digestHex setup.sha256 current.blockData)) :
    Kept setup source tree (receiver.blocksDone.set receiver.nextFile (done + 1)) := by
  have known := (List.getElem?_eq_some_iff.mp holds.isDone).1
  have exact_ : slice held (done * blockBytes) (blockLength file.size done) =
      current.blockData := by
    have length := holds.length
    unfold slice
    rw [holds.isData]
    apply take_of_length_le
    rw [length_drop]
    omega
  intro index entry count isEntry isCount block fewer
  by_cases same : index = receiver.nextFile
  · obtain rfl := same
    obtain rfl := Option.mem_unique isEntry holds.isFile
    rw [getElem?_set_self known, Option.some.injEq] at isCount
    rcases Nat.lt_succ_iff_lt_or_eq.mp (isCount ▸ fewer : block < done + 1) with before | rfl
    · exact ready.kept _ _ _ isEntry holds.isDone block before
    refine ⟨held, holds.isHeld, ?_⟩
    rw [exact_]
    apply honest.unique isEntry holds.listed
    rw [honest.hashed isEntry _ holds.listed, Option.some.injEq] at hash
    exact hash.symm
  · rw [getElem?_set_ne (Ne.symm same)] at isCount
    exact ready.kept index entry count isEntry isCount block fewer

theorem counts_set {done index : Nat}
    (counts : TransferReceiver.Counts setup.contents receiver.blocksDone)
    (isFile : setup.files[index]? = some file) (listed : done < blockCount file.size) :
    TransferReceiver.Counts setup.contents (receiver.blocksDone.set index (done + 1)) := by
  refine ⟨by rw [length_set]; exact counts.1, ?_⟩
  intro other entry blocks isEntry isBlocks
  by_cases same : index = other
  · obtain rfl := same
    obtain rfl := Option.some.inj ((contents_eq isFile).symm.trans isEntry)
    obtain ⟨inside, isLast⟩ := List.getElem?_eq_some_iff.mp isBlocks
    rw [getElem_set_self] at isLast
    omega
  · rw [getElem?_set_ne same] at isBlocks
    exact counts.2 other entry blocks isEntry isBlocks

theorem passed_set {done index : Nat} (passed : Passed setup tree receiver.blocksDone index) :
    Passed setup tree (receiver.blocksDone.set index done) index := by
  intro other entry isEntry before
  obtain ⟨counted, present⟩ := passed other entry isEntry before
  exact ⟨(getElem?_set_ne (Nat.ne_of_gt before)).trans counted, present⟩

theorem safeOps_blockEnd (honest : setup.Honest source)
    (settled : Settled setup source receiver tree) (stamp : String)
    (taken : receiver.handleBlockEnd setup.sha256 fileIndex offset senderHashHex =
      .ok (next, outcome)) :
    SafeOps setup (Settled setup source next) tree
      (if outcome.2 then
        setup.advanceOps tree stamp next.blocksDone
          (setup.files.length - (receiver.nextFile + 1)) (receiver.nextFile + 1)
      else []) := by
  obtain ⟨bounded, tidy, ready⟩ := settled
  rcases handleBlockEnd_ok taken with ⟨rfl, isFalse⟩ | ⟨current, isCurrent, filled, hash, isLast,
    isNext⟩
  · rw [isFalse, if_neg Bool.false_ne_true]
    exact ⟨bounded, tidy, ready⟩
  rcases ready.current with ⟨none, -⟩ | ⟨known, file, done, held, isKnown, holds⟩
  · rw [none] at isCurrent
    cases isCurrent
  obtain rfl := Option.mem_unique isKnown isCurrent
  obtain ⟨size, hashes, counted⟩ := current_size ready.files holds
  rw [size, counted] at filled isLast
  rw [hashes, counted] at hash
  rw [counted, holds.isIndex] at isNext
  have kept := kept_set honest ready holds filled hash
  have counts := counts_set ready.counts holds.isFile holds.listed
  have passed := @passed_set setup tree receiver (done + 1) _ ready.passed
  have inside := (List.getElem?_eq_some_iff.mp holds.isDone).1
  have isSet : (receiver.blocksDone.set receiver.nextFile (done + 1))[receiver.nextFile]? =
      some (done + 1) := getElem?_set_self inside
  split_ifs at isNext ⊢ with last
  · rw [isLast, decide_eq_true_eq] at last
    have whole : done + 1 = blockCount file.size := by
      have listed := holds.listed
      omega
    have passedNext := @passed_next setup tree file
      { receiver with
        blocksDone := receiver.blocksDone.set receiver.nextFile (done + 1) } passed holds.isFile
      (isSet.trans (congrArg some whole)) (by rw [holds.isHeld]; rfl)
    rw [isNext, advance_blocksDone, advance]
    have count : receiver.files.length = setup.files.length := by
      rw [ready.files, length_contents]
    dsimp only
    rw [count]
    exact @safeOps_advance setup source tree tree stamp honest _
      { receiver with
        blocksDone := receiver.blocksDone.set receiver.nextFile (done + 1)
        nextFile := receiver.nextFile + 1
        current := none } bounded tidy ready.files rfl counts kept passedNext
      (fun _ _ _ _ => rfl) le_rfl
  rw [isLast, decide_eq_true_eq, not_le] at last
  have length := holds.length
  have whole := blockLength_of_next last
  have more : held.length = (done + 1) * blockBytes := by
    rw [Nat.succ_mul]
    omega
  rw [isNext]
  refine ⟨bounded, tidy, ready.files, counts, kept, passed,
    .inr ⟨_, file, done + 1, held, rfl, ?_⟩⟩
  exact
    { isFile := holds.isFile
      isDone := isSet
      isIndex := rfl
      listed := last
      isHeld := holds.isHeld
      length := by
        dsimp only
        omega
      fits := Nat.zero_le _
      isData := (drop_eq_nil_of_le more.le).symm }

end Frames

/-! ## Runs -/

/-- What holds between any two file operations of a safe run. -/
def InOrder (setup : StagingSetup) (source : Nat → Octets) (state : StagingState) : Prop :=
  (state.receiver = none ∧ state.pending = [] ∧ Bounded setup state.tree ∧ Tidy setup state.tree) ∨
    ∃ receiver, state.receiver = some receiver ∧
      SafeOps setup (Settled setup source receiver) state.tree state.pending

section Runs

variable {setup : StagingSetup} {source : Nat → Octets} {state next : StagingState}

theorem InOrder.tree (inOrder : InOrder setup source state)
    (safe : ¬StagingState.reopening state.tree state.pending) :
    Bounded setup state.tree ∧ Tidy setup state.tree := by
  rcases inOrder with ⟨-, -, bounded, tidy⟩ | ⟨receiver, -, ops⟩
  · exact ⟨bounded, tidy⟩
  cases isPending : state.pending with
  | nil =>
    rw [isPending] at ops
    exact ⟨ops.bounded, ops.tidy⟩
  | cons op pending =>
    rw [isPending] at ops safe
    exact ⟨ops.1, ops.2.1.resolve_left safe⟩

theorem not_reopening_nil (tree : FileTree StagePath) : ¬StagingState.reopening tree [] := by
  rintro ⟨path, target, pending, -⟩
  cases pending

theorem inOrder_step (honest : setup.Honest source) (inOrder : InOrder setup source state)
    (isStep : StagingState.Step setup state next)
    (safe : next.receiver = none → ¬StagingState.reopening state.tree state.pending) :
    InOrder setup source next := by
  cases isStep with
  | fileOp isPending =>
    rcases inOrder with ⟨-, nothing, -⟩ | ⟨receiver, live, ops⟩
    · rw [nothing] at isPending
      cases isPending
    · rw [isPending] at ops
      exact .inr ⟨receiver, live, ops.2.2⟩
  | crash =>
    obtain ⟨bounded, tidy⟩ := inOrder.tree (safe rfl)
    exact .inl ⟨rfl, rfl, bounded, tidy⟩
  | restart idle stamp claimedBlocks =>
    obtain ⟨bounded, tidy⟩ := inOrder.tree (by rw [idle]; exact not_reopening_nil _)
    exact .inr ⟨_, rfl, safeOps_init honest bounded tidy stamp claimedBlocks⟩
  | data idle live taken =>
    rcases inOrder with ⟨none, -⟩ | ⟨receiver, isReceiver, ops⟩
    · rw [none] at live
      cases live
    obtain rfl := Option.mem_unique isReceiver live
    rw [idle] at ops
    exact .inr ⟨_, rfl, safeOps_data honest ops taken⟩
  | blockEnd stamp idle live taken =>
    rcases inOrder with ⟨none, -⟩ | ⟨receiver, isReceiver, ops⟩
    · rw [none] at live
      cases live
    obtain rfl := Option.mem_unique isReceiver live
    rw [idle] at ops
    exact .inr ⟨_, rfl, safeOps_blockEnd honest ops stamp taken⟩

theorem inOrder_run (honest : setup.Honest source)
    (reachable : StagingState.SafelyReachable setup state) : InOrder setup source state := by
  induction reachable with
  | start =>
    refine .inl ⟨rfl, rfl, ?_, ?_⟩
    · intro index file held _ isHeld
      cases isHeld
    · intro path present
      cases present
  | step reachable isStep safe induction => exact inOrder_step honest induction isStep safe

/-! ## Verification -/

theorem getElem?_slice {octets : Octets} {offset width position : Nat} (inside : position < width) :
    (slice octets offset width)[position]? = octets[offset + position]? := by
  unfold slice
  rw [getElem?_take, if_pos inside, getElem?_drop]

theorem eq_of_blocks {left right : Octets} {size : Nat} (fits : left.length ≤ size)
    (whole : right.length = size)
    (same : ∀ block < blockCount size,
      slice left (block * blockBytes) (blockLength size block) =
        slice right (block * blockBytes) (blockLength size block)) : left = right := by
  have positive := blockBytes_pos
  apply ext_getElem?
  intro position
  by_cases inside : position < size
  · have split := Nat.div_add_mod' position blockBytes
    have small := Nat.mod_lt position positive
    have within : position % blockBytes < blockLength size (position / blockBytes) := by
      unfold blockLength
      omega
    have found := congrArg (·[position % blockBytes]?)
      (same (position / blockBytes) (lt_blockCount_iff.mpr (by omega)))
    rw [getElem?_slice within, getElem?_slice within, split] at found
    exact found
  · rw [getElem?_eq_none (by omega), getElem?_eq_none (by omega)]

theorem forM_ok {Item Fault : Type} {items : List Item} {check : Item → Except Fault Unit}
    (passes : ∀ item ∈ items, check item = .ok ()) : items.forM check = .ok () := by
  induction items with
  | nil => rfl
  | cons item items induction =>
    have first : (item :: items).forM check = check item >>= fun _ => items.forM check := rfl
    rw [first, passes item (.head _)]
    exact induction (forall_mem_cons.mp passes).2

theorem verifyFile_ok (honest : setup.Honest source) {tree : FileTree StagePath} {index : Nat}
    {file : StagedFile} (isFile : setup.files[index]? = some file)
    (isHeld : tree.read file.path = some (source index)) : setup.verifyFile tree file = .ok () := by
  have plain : ¬(0 < file.size ∧
      setup.sniffSecretContent ((source index).take secretSniffBytes) = true) := by
    rintro ⟨-, secret⟩
    rw [honest.plain isFile] at secret
    cases secret
  rw [StagingSetup.verifyFile, isHeld]
  dsimp only
  rw [if_neg (not_not.mpr (honest.spooled isFile)), if_neg plain,
    if_neg (not_not.mpr (honest.whole isFile).symm)]

theorem Settled.verifyAll (honest : setup.Honest source) {receiver : TransferReceiver}
    {tree : FileTree StagePath} (settled : Settled setup source receiver tree)
    (complete : receiver.complete = true) : setup.verifyAll tree = .ok () := by
  have ready := settled.ready
  rw [TransferReceiver.complete, Bool.and_eq_true, decide_eq_true_eq, ready.files,
    length_contents] at complete
  have scanned : (tree.all fun entry => setup.selection.contains entry.1) = true := by
    rw [all_eq_true]
    intro entry member
    exact contains_iff_mem.mpr (settled.tidy entry.1 (read_isSome_iff.mpr ⟨entry, member, rfl⟩))
  rw [StagingSetup.verifyAll, if_pos scanned]
  apply forM_ok
  intro file member
  obtain ⟨index, isFile⟩ := mem_iff_getElem?.mp member
  have listed := (List.getElem?_eq_some_iff.mp isFile).1
  obtain ⟨isDone, present⟩ := ready.passed index file isFile (by omega)
  obtain ⟨held, isHeld⟩ := Option.isSome_iff_exists.mp present
  have same : held = source index := by
    apply eq_of_blocks (settled.bounded index file held isFile isHeld) (honest.spooled isFile)
    intro block counted
    obtain ⟨content, isContent, isSlice⟩ := ready.kept index file _ isFile isDone block counted
    obtain rfl := Option.mem_unique isHeld isContent
    exact isSlice
  exact verifyFile_ok honest isFile (same ▸ isHeld)

/-- In every run in which the daemon never stops between the creation of a temporary file and
its renaming, `init` returns what is verified, and a complete transfer is accepted. -/
theorem resumed_transfer_accepted (honest : setup.Honest source)
    (reachable : StagingState.SafelyReachable setup state) :
    (∀ claimedBlocks, ExactCounts setup.sha256 setup.contents (setup.staged state.tree)
      claimedBlocks (setup.initReceiver state.tree claimedBlocks).blocksDone) ∧
    ∀ receiver, state.receiver = some receiver → state.pending = [] →
      receiver.complete = true → setup.verifyAll state.tree = .ok () := by
  refine ⟨fun claimedBlocks => init_exact .., ?_⟩
  intro receiver live idle complete
  rcases inOrder_run honest reachable with ⟨none, -⟩ | ⟨known, isKnown, ops⟩
  · rw [none] at live
    cases live
  obtain rfl := Option.some.inj (isKnown.symm.trans live)
  rw [idle] at ops
  exact Settled.verifyAll honest ops complete

end Runs

/-- Digests of the octets of `a` and of `b`, and of none in place of all others. -/
def letterHash (data : Octets) : Octets :=
  if data = [97] then
    [202, 151, 129, 18, 202, 27, 189, 202, 250, 194, 49, 179, 154, 35, 220, 77, 167, 134, 239,
     248, 20, 124, 78, 114, 185, 128, 119, 133, 175, 238, 72, 187]
  else if data = [98] then
    [62, 35, 232, 22, 0, 57, 89, 74, 51, 137, 79, 101, 100, 225, 177, 52, 139, 189, 122, 0, 136,
     212, 44, 74, 203, 115, 238, 174, 213, 156, 0, 157]
  else
    [227, 176, 196, 66, 152, 252, 28, 20, 154, 251, 244, 200, 153, 111, 185, 36, 39, 174, 65,
     228, 100, 155, 147, 76, 164, 149, 153, 27, 120, 82, 184, 85]

def lettersSetup : StagingSetup where
  files := [
    { size := 1
      blockHashes := ["ca978112ca1bbdcafac231b39a23dc4da786eff8147c4e72b9807785afee48bb"]
      path := ["a"]
      sha256 := "ca978112ca1bbdcafac231b39a23dc4da786eff8147c4e72b9807785afee48bb" },
    { size := 1
      blockHashes := ["3e23e8160039594a33894f6564e1b1348bbd7a0088d42c4acb73eeaed59c009d"]
      path := ["b"]
      sha256 := "3e23e8160039594a33894f6564e1b1348bbd7a0088d42c4acb73eeaed59c009d" }]
  selection := [["a"], ["b"]]
  sha256 := letterHash
  sniffSecretContent := fun _ => false

def letters (index : Nat) : Octets := if index = 0 then [97] else [98]

theorem letterHash_injective {letter data : Octets} (listed : letter = [97] ∨ letter = [98])
    (same : digestHex letterHash data = digestHex letterHash letter) : data = letter := by
  by_cases isA : data = [97]
  · subst isA
    rcases listed with rfl | rfl
    · rfl
    · exact absurd same (by decide)
  by_cases isB : data = [98]
  · subst isB
    rcases listed with rfl | rfl
    · exact absurd same (by decide)
    · rfl
  have other : letterHash data = letterHash [] := by
    rw [letterHash, if_neg isA, if_neg isB]
    rfl
  rw [digestHex, other] at same
  rcases listed with rfl | rfl
  · exact absurd same (by decide)
  · exact absurd same (by decide)

theorem lettersSetup_getElem? {index : Nat} {file : StagedFile}
    (isFile : lettersSetup.files[index]? = some file) :
    (index = 0 ∧ lettersSetup.files[0]? = some file) ∨
      (index = 1 ∧ lettersSetup.files[1]? = some file) := by
  have listed := (List.getElem?_eq_some_iff.mp isFile).1
  dsimp only [lettersSetup, length_cons, length_nil] at listed
  obtain rfl | rfl : index = 0 ∨ index = 1 := by omega
  · exact .inl ⟨rfl, isFile⟩
  · exact .inr ⟨rfl, isFile⟩

theorem reopenPath_ne (stamp letter : String) (short : letter.length = 1) (path : StagePath) :
    [letter] ≠ StagingSetup.reopenPath stamp path := by
  intro same
  have names := congrArg getLast? same
  rw [StagingSetup.reopenPath, getLast?_append_of_ne_nil _ (cons_ne_nil _ _)] at names
  have names : letter = ".adhdev-reopen-" ++ stamp := Option.some.inj names
  have lengths := congrArg String.length names
  rw [String.length_append] at lengths
  have long : ".adhdev-reopen-".length = 15 := by decide
  omega

theorem lettersSetup_honest : lettersSetup.Honest letters where
  distinct := by
    intro left right one other isOne isOther same
    rcases lettersSetup_getElem? isOne with ⟨rfl, isOne⟩ | ⟨rfl, isOne⟩ <;>
      rcases lettersSetup_getElem? isOther with ⟨rfl, isOther⟩ | ⟨rfl, isOther⟩ <;>
      obtain rfl := Option.some.inj isOne <;> obtain rfl := Option.some.inj isOther
    · rfl
    · exact absurd same (by decide)
    · exact absurd same (by decide)
    · rfl
  listed := by
    intro file member
    rcases mem_pair.mp member with rfl | rfl
    · decide
    · decide
  ordinary := by
    intro path selected stamp other
    rcases mem_pair.mp selected with rfl | rfl
    · exact reopenPath_ne stamp "a" (by decide) other
    · exact reopenPath_ne stamp "b" (by decide) other
  spooled := by
    intro index file isFile
    rcases lettersSetup_getElem? isFile with ⟨rfl, isFile⟩ | ⟨rfl, isFile⟩ <;>
      obtain rfl := Option.some.inj isFile <;> rfl
  hashed := by
    intro index file isFile block listed
    rcases lettersSetup_getElem? isFile with ⟨rfl, isFile⟩ | ⟨rfl, isFile⟩ <;>
      obtain rfl := Option.some.inj isFile <;>
      obtain rfl := Nat.lt_one_iff.mp (lt_of_lt_of_eq listed (by decide : _ = 1)) <;> decide
  whole := by
    intro index file isFile
    rcases lettersSetup_getElem? isFile with ⟨rfl, isFile⟩ | ⟨rfl, isFile⟩ <;>
      obtain rfl := Option.some.inj isFile <;> decide
  plain := fun _ => rfl
  unique := by
    intro index file block data isFile listed
    rcases lettersSetup_getElem? isFile with ⟨rfl, isFile⟩ | ⟨rfl, isFile⟩ <;>
      obtain rfl := Option.some.inj isFile <;>
      obtain rfl := Nat.lt_one_iff.mp (lt_of_lt_of_eq listed (by decide : _ = 1))
    · exact letterHash_injective (.inl rfl)
    · exact letterHash_injective (.inr rfl)

section Letters

open TransferReceiver StagingState

def lettersReceiver (blocksDone : List Nat) (nextFile : Nat) (current : Option Current) :
    TransferReceiver :=
  ⟨lettersSetup.contents, blocksDone, nextFile, current⟩

/-- The first letter is received, and the daemon stops while it opens the second file. -/
theorem reachable_firstLetter :
    SafelyReachable lettersSetup ⟨[(["a"], [97])], none, []⟩ := by
  have fresh : lettersSetup.initReceiver [] [] =
      lettersReceiver [0, 0] 0 (some { index := 0 }) := by decide +kernel
  have taken : (lettersReceiver [0, 0] 0 (some { index := 0 })).handleData 0 0 [97] =
      .ok (lettersReceiver [0, 0] 0 (some ⟨0, [97], 1⟩)) := by
    simp [handleData, lettersReceiver, lettersSetup, StagingSetup.contents, blockLength, blockBytes]
  have digest : digestHex letterHash [97] =
      "ca978112ca1bbdcafac231b39a23dc4da786eff8147c4e72b9807785afee48bb" := by decide
  have ended : (lettersReceiver [0, 0] 0 (some ⟨0, [97], 1⟩)).handleBlockEnd letterHash 0 0
      "ca978112ca1bbdcafac231b39a23dc4da786eff8147c4e72b9807785afee48bb" =
        .ok (lettersReceiver [1, 0] 1 (some { index := 1 }), 0, true) := by
    simp [handleBlockEnd, lettersReceiver, lettersSetup, StagingSetup.contents, blockLength,
      blockBytes, digest, blockCount, advance, advanceWithin]
  have started : SafelyReachable lettersSetup (({} : StagingState).restarted lettersSetup "1" []) :=
    .step .start (.restart rfl "1" []) (fun none => by cases none)
  have created := started.step (.fileOp rfl) (fun none => by cases none)
    |>.step (.fileOp rfl) (fun none => by cases none)
    |>.step (.fileOp rfl) (fun none => by cases none)
    |>.step (.fileOp rfl) (fun none => by cases none)
  have created : SafelyReachable lettersSetup
      ⟨[(["a"], [])], some (lettersReceiver [0, 0] 0 (some { index := 0 })), []⟩ := by
    rw [← fresh]
    exact created
  have received := created.step (.data rfl rfl taken) (fun none => by cases none)
    |>.step (.fileOp rfl) (fun none => by cases none)
    |>.step (.blockEnd "1" rfl rfl ended) (fun none => by cases none)
    |>.step (.fileOp rfl) (fun none => by cases none)
  refine received.step .crash ?_
  rintro - ⟨path, target, pending, -⟩
  cases mem_singleton.mp pending

theorem resumed_transfer_accepted_letters :
    ExactCounts letterHash lettersSetup.contents (lettersSetup.staged [(["a"], [97])]) [1, 0]
      [1, 0] ∧
    lettersSetup.verifyAll [(["b"], [98]), (["a"], [97])] = .ok () := by
  have resumed : lettersSetup.initReceiver [(["a"], [97])] [1, 0] =
      lettersReceiver [1, 0] 1 (some { index := 1 }) := by decide +kernel
  have taken : (lettersReceiver [1, 0] 1 (some { index := 1 })).handleData 1 0 [98] =
      .ok (lettersReceiver [1, 0] 1 (some ⟨1, [98], 1⟩)) := by
    simp [handleData, lettersReceiver, lettersSetup, StagingSetup.contents, blockLength, blockBytes]
  have digest : digestHex letterHash [98] =
      "3e23e8160039594a33894f6564e1b1348bbd7a0088d42c4acb73eeaed59c009d" := by decide
  have ended : (lettersReceiver [1, 0] 1 (some ⟨1, [98], 1⟩)).handleBlockEnd letterHash 1 0
      "3e23e8160039594a33894f6564e1b1348bbd7a0088d42c4acb73eeaed59c009d" =
        .ok (lettersReceiver [1, 1] 2 none, 0, true) := by
    simp [handleBlockEnd, lettersReceiver, lettersSetup, StagingSetup.contents, blockLength,
      blockBytes, digest, blockCount, advance, advanceWithin]
  have restarted := reachable_firstLetter.step (.restart rfl "2" [1, 0])
    (fun none => by cases none)
  have opened := restarted.step (.fileOp rfl) (fun none => by cases none)
    |>.step (.fileOp rfl) (fun none => by cases none)
    |>.step (.fileOp rfl) (fun none => by cases none)
  have opened : SafelyReachable lettersSetup ⟨[(["b"], []), (["a"], [97])],
      some (lettersReceiver [1, 0] 1 (some { index := 1 })), []⟩ := by
    rw [← resumed]
    exact opened
  have received := opened.step (.data rfl rfl taken) (fun none => by cases none)
    |>.step (.fileOp rfl) (fun none => by cases none)
    |>.step (.blockEnd "2" rfl rfl ended) (fun none => by cases none)
  have counts := (resumed_transfer_accepted lettersSetup_honest reachable_firstLetter).1 [1, 0]
  rw [resumed] at counts
  exact ⟨counts, (resumed_transfer_accepted lettersSetup_honest received).2 _ rfl rfl rfl⟩

end Letters

end Adhdev.TransferLink
