import Adhdev.TransferLink.Staging

/-! # What a receiver leaves behind

What holds of the staging tree between any two file operations.
-/

namespace Adhdev.TransferLink

open Octets FileTree List Option Bool StagingSetup

namespace StagingSetup

/-- The manifest is the one of `source`, its paths are ordinary, and no other block has the
hash of one of its blocks. -/
structure Honest (setup : StagingSetup) (source : Nat → Octets) : Prop where
  distinct : ∀ {left right : Nat} {one other : StagedFile}, setup.files[left]? = some one →
    setup.files[right]? = some other → one.path = other.path → left = right
  listed : ∀ file ∈ setup.files, file.path ∈ setup.selection
  ordinary : ∀ path ∈ setup.selection, ∀ stamp other, path ≠ reopenPath stamp other
  spooled : ∀ {index : Nat} {file : StagedFile}, setup.files[index]? = some file →
    (source index).length = file.size
  hashed : ∀ {index : Nat} {file : StagedFile}, setup.files[index]? = some file →
    ∀ block < blockCount file.size, file.blockHashes[block]? = some (digestHex setup.sha256
      (slice (source index) (block * blockBytes) (blockLength file.size block)))
  whole : ∀ {index : Nat} {file : StagedFile}, setup.files[index]? = some file →
    file.sha256 = digestHex setup.sha256 (source index)
  plain : ∀ {index : Nat} {file : StagedFile}, setup.files[index]? = some file →
    setup.sniffSecretContent ((source index).take secretSniffBytes) = false
  unique : ∀ {index : Nat} {file : StagedFile} {block : Nat} {data : Octets},
    setup.files[index]? = some file → block < blockCount file.size →
    digestHex setup.sha256 data = digestHex setup.sha256
      (slice (source index) (block * blockBytes) (blockLength file.size block)) →
    data = slice (source index) (block * blockBytes) (blockLength file.size block)

end StagingSetup

section Trees

variable (setup : StagingSetup) (source : Nat → Octets) (post : FileTree StagePath → Prop)

def Bounded (tree : FileTree StagePath) : Prop :=
  ∀ (index : Nat) (file : StagedFile) (held : Octets), setup.files[index]? = some file →
    tree.read file.path = some held → held.length ≤ file.size

/-- Only what was selected is there. -/
def Tidy (tree : FileTree StagePath) : Prop :=
  ∀ path, (tree.read path).isSome = true → path ∈ setup.selection

def BlockHeld (tree : FileTree StagePath) (index : Nat) (file : StagedFile) (block : Nat) : Prop :=
  ∃ held, tree.read file.path = some held ∧
    slice held (block * blockBytes) (blockLength file.size block) =
      slice (source index) (block * blockBytes) (blockLength file.size block)

def Kept (tree : FileTree StagePath) (blocksDone : List Nat) : Prop :=
  ∀ (index : Nat) (file : StagedFile) (done : Nat), setup.files[index]? = some file →
    blocksDone[index]? = some done → ∀ block < done, BlockHeld source tree index file block

/-- The tree is in order between any two of these operations, and `post` holds after them. -/
def SafeOps (tree : FileTree StagePath) : List (FileOp StagePath) → Prop
  | [] => post tree
  | op :: ops =>
    Bounded setup tree ∧
    (StagingState.reopening tree (op :: ops) ∨ Tidy setup tree) ∧ SafeOps (tree.apply op) ops

def Passed (tree : FileTree StagePath) (blocksDone : List Nat) (next : Nat) : Prop :=
  ∀ (index : Nat) (file : StagedFile), setup.files[index]? = some file → index < next →
    blocksDone[index]? = some (blockCount file.size) ∧ (tree.read file.path).isSome = true

structure CurrentHeld (tree : FileTree StagePath) (receiver : TransferReceiver) (current : Current)
    (file : StagedFile) (done : Nat) (held : Octets) : Prop where
  isFile : setup.files[receiver.nextFile]? = some file
  isDone : receiver.blocksDone[receiver.nextFile]? = some done
  isIndex : current.index = receiver.nextFile
  listed : done < blockCount file.size
  isHeld : tree.read file.path = some held
  length : held.length = done * blockBytes + current.blockFill
  fits : current.blockFill ≤ blockLength file.size done
  isData : current.blockData = held.drop (done * blockBytes)

structure Ready (tree : FileTree StagePath) (receiver : TransferReceiver) : Prop where
  files : receiver.files = setup.contents
  counts : TransferReceiver.Counts setup.contents receiver.blocksDone
  kept : Kept setup source tree receiver.blocksDone
  passed : Passed setup tree receiver.blocksDone receiver.nextFile
  current : (receiver.current = none ∧ setup.files.length ≤ receiver.nextFile) ∨
    ∃ current file done held, receiver.current = some current ∧
      CurrentHeld setup tree receiver current file done held

end Trees

section Facts

variable {setup : StagingSetup} {source : Nat → Octets} {tree after : FileTree StagePath}
  {index : Nat} {file : StagedFile} {blocksDone : List Nat}

theorem safeOps_append {post : FileTree StagePath → Prop} {first second : List (FileOp StagePath)}
    (safe : SafeOps setup (fun between => SafeOps setup post between second) tree first) :
    SafeOps setup post tree (first ++ second) := by
  induction first generalizing tree with
  | nil => exact safe
  | cons op ops induction =>
    refine ⟨safe.1, ?_, induction safe.2.2⟩
    rcases safe.2.1 with ⟨path, target, pending, present⟩ | tidy
    · exact .inl ⟨path, target, mem_append_left second pending, present⟩
    · exact .inr tidy

section

variable (isFile : setup.files[index]? = some file)
include isFile

theorem contents_eq : setup.contents[index]? = some file.toContentFile := by
  rw [contents, getElem?_map, isFile]
  rfl

theorem path_eq : setup.path index = file.path := by
  rw [path, isFile]
  rfl

theorem size_eq : setup.size index = file.size := by
  rw [size, isFile]
  rfl

end

theorem length_contents (setup : StagingSetup) : setup.contents.length = setup.files.length :=
  length_map _

variable {path : StagePath}

theorem Tidy.changed (tidy : Tidy setup tree) (selected : path ∈ setup.selection)
    (same : ∀ other, other ≠ path → after.read other = tree.read other) : Tidy setup after := by
  intro other present
  by_cases isPath : other = path
  · exact isPath ▸ selected
  · rw [same other isPath] at present
    exact tidy other present

theorem Bounded.changed (honest : setup.Honest source) (bounded : Bounded setup tree)
    (isFile : setup.files[index]? = some file)
    (same : ∀ other, other ≠ file.path → after.read other = tree.read other)
    (fits : ∀ held, after.read file.path = some held → held.length ≤ file.size) :
    Bounded setup after := by
  intro other entry held isEntry isHeld
  by_cases isPath : entry.path = file.path
  · obtain rfl := honest.distinct isEntry isFile isPath
    obtain rfl := mem_unique isEntry isFile
    exact fits held isHeld
  · rw [same _ isPath] at isHeld
    exact bounded other entry held isEntry isHeld

theorem Kept.changed (honest : setup.Honest source) (kept : Kept setup source tree blocksDone)
    (isFile : setup.files[index]? = some file)
    (same : ∀ other, other ≠ file.path → after.read other = tree.read other)
    (held : ∀ done, blocksDone[index]? = some done → ∀ block < done,
      BlockHeld source after index file block) :
    Kept setup source after blocksDone := by
  intro other entry done isEntry isDone block counted
  by_cases isPath : entry.path = file.path
  · obtain rfl := honest.distinct isEntry isFile isPath
    obtain rfl := mem_unique isEntry isFile
    exact held done isDone block counted
  · obtain ⟨content, isContent, isSlice⟩ := kept other entry done isEntry isDone block counted
    exact ⟨content, (same _ isPath).trans isContent, isSlice⟩

theorem Passed.changed {next : Nat} (passed : Passed setup tree blocksDone next)
    (present : (after.read path).isSome = true)
    (same : ∀ other, other ≠ path → after.read other = tree.read other) :
    Passed setup after blocksDone next := by
  intro other entry isEntry before
  obtain ⟨counted, isThere⟩ := passed other entry isEntry before
  refine ⟨counted, ?_⟩
  by_cases isPath : entry.path = path
  · rw [isPath]
    exact present
  · rw [same _ isPath]
    exact isThere

theorem slice_take {octets : Octets} {offset width length : Nat}
    (inside : offset + width ≤ length) :
    slice (octets.take length) offset width = slice octets offset width := by
  unfold slice
  rw [drop_take, take_take, Nat.min_eq_left (by omega)]

theorem slice_front {octets more : Octets} {offset width : Nat}
    (inside : offset + width ≤ octets.length) :
    slice (octets ++ more) offset width = slice octets offset width := by
  unfold slice
  rw [drop_append_of_le_length (by omega), take_append_of_le_length (by
    rw [length_drop]
    omega)]

theorem blockLength_of_next {size block : Nat} (next : block + 1 < blockCount size) :
    blockLength size block = blockBytes := by
  rw [lt_blockCount_iff, Nat.succ_mul] at next
  unfold blockLength
  omega

theorem block_le_size {size done : Nat} (listed : done < blockCount size) :
    done * blockBytes + blockLength size done ≤ size := by
  rw [lt_blockCount_iff] at listed
  unfold blockLength
  omega

theorem Tidy.reopenPath_absent (honest : setup.Honest source) (tidy : Tidy setup tree)
    (stamp : String) (path : StagePath) : tree.read (reopenPath stamp path) = none := by
  cases isHeld : tree.read (reopenPath stamp path) with
  | none => rfl
  | some held =>
    have selected := tidy _ (by rw [isHeld]; rfl)
    exact absurd rfl (honest.ordinary _ selected stamp path)

theorem path_ne_reopenPath (honest : setup.Honest source) (isFile : setup.files[index]? = some file)
    (stamp : String) (path : StagePath) : file.path ≠ reopenPath stamp path :=
  honest.ordinary _ (honest.listed file (mem_of_getElem? isFile)) stamp path

theorem Bounded.temporary (honest : setup.Honest source) (bounded : Bounded setup tree)
    {stamp : String}
    (same : ∀ other, other ≠ reopenPath stamp path → after.read other = tree.read other) :
    Bounded setup after := by
  intro other entry held isEntry isHeld
  rw [same _ (path_ne_reopenPath honest isEntry stamp path)] at isHeld
  exact bounded other entry held isEntry isHeld

section Open

variable {post : FileTree StagePath → Prop} {stamp : String} {done : Nat} {held : Octets}
  {rest : List (FileOp StagePath)}

theorem safeOps_copies (honest : setup.Honest source) (bounded : Bounded setup tree)
    {path target : StagePath} {size count first : Nat}
    (lengths : ∀ block < first + count, blockLength size block = blockBytes)
    (long : (first + count) * blockBytes ≤ held.length)
    (same : ∀ other, other ≠ reopenPath stamp path →
      after.read other = tree.read other)
    (present : after.read (reopenPath stamp path) =
      some (held.take (first * blockBytes)))
    (renames : FileOp.rename (reopenPath stamp path) target ∈ rest)
    (goesOn : ∀ last : FileTree StagePath,
      (∀ other, other ≠ reopenPath stamp path → last.read other = tree.read other) →
      last.read (reopenPath stamp path) = some (held.take ((first + count) * blockBytes)) →
      SafeOps setup post last rest) :
    SafeOps setup post after
      ((range' first count).map (fun block => FileOp.write
        (reopenPath stamp path) (block * blockBytes)
        (slice held (block * blockBytes) (blockLength size block))) ++ rest) := by
  induction count generalizing after first with
  | zero => exact goesOn after same present
  | succ count induction =>
    have inside : first * blockBytes + blockBytes ≤ held.length := by
      rw [Nat.add_mul, Nat.succ_mul] at long
      omega
    have grown : held.take (first * blockBytes) ++
        slice held (first * blockBytes) (blockLength size first) =
        held.take ((first + 1) * blockBytes) := by
      rw [lengths first (by omega), Nat.succ_mul, take_add]
      rfl
    rw [range'_succ, map_cons, cons_append]
    refine ⟨bounded.temporary honest same, .inl ⟨_, target,
      .tail _ (mem_append_right _ renames), by rw [present]; rfl⟩, ?_⟩
    have written := fun other => @read_append _ _ after _ other _
      (slice held (first * blockBytes) (blockLength size first)) _ present
      (by rw [length_take]; omega : first * blockBytes = (held.take (first * blockBytes)).length)
    rw [grown] at written
    apply induction
    · intro block before
      exact lengths block (by omega)
    · rw [Nat.add_assoc, Nat.add_comm 1]
      exact long
    · intro other different
      rw [written, if_neg different]
      exact same other different
    · rw [written, if_pos rfl]
    intro last sameLast isLast
    apply goesOn last sameLast
    rw [isLast, Nat.add_assoc, Nat.add_comm 1]

theorem safeOps_open (honest : setup.Honest source) (bounded : Bounded setup tree)
    (tidy : Tidy setup tree) (isFile : setup.files[index]? = some file)
    (listed : done < blockCount file.size) {before : FileTree StagePath}
    (same : before.read file.path = tree.read file.path)
    (enough : 0 < done → ∃ held, tree.read file.path = some held ∧
      done * blockBytes ≤ held.length)
    (goesOn : ∀ (last : FileTree StagePath) (held : Octets),
      (∀ other, other ≠ file.path → last.read other = tree.read other) →
      last.read file.path = some held →
      held = ((tree.read file.path).getD []).take (done * blockBytes) →
      held.length = done * blockBytes → post last) :
    SafeOps setup post tree (setup.openOps before stamp index done) := by
  rw [openOps, path_eq isFile, size_eq isFile, same]
  dsimp only
  split_ifs with resumed
  · obtain ⟨held, isHeld, long⟩ := enough resumed
    rw [isHeld, getD_some] at goesOn ⊢
    have absent := tidy.reopenPath_absent honest stamp file.path
    have different := path_ne_reopenPath honest isFile stamp file.path
    refine ⟨bounded, .inr tidy, ?_⟩
    have created := fun other => @read_create_none _ _ tree _ other absent
    rw [copyOps, range_eq_range']
    apply safeOps_copies honest bounded
    · intro block before
      rw [Nat.zero_add] at before
      exact blockLength_of_next (by omega)
    · rw [Nat.zero_add]
      exact long
    · intro other otherwise
      rw [created, if_neg otherwise]
    · rw [created, if_pos rfl, Nat.zero_mul, take_zero]
    · exact .tail _ (mem_singleton.mpr rfl)
    intro last sameLast isLast
    rw [Nat.zero_add] at isLast
    have gone : ∀ other, (last.apply (.unlink file.path)).read other =
        if other = file.path then none else last.read other := fun other => read_unlink
    have unlinkedBounded : Bounded setup (last.apply (.unlink file.path)) := by
      apply (bounded.temporary honest sameLast).changed honest isFile
      · intro other otherwise
        rw [gone, if_neg otherwise]
      intro content isContent
      rw [gone, if_pos rfl] at isContent
      cases isContent
    have stillThere : (last.apply (.unlink file.path)).read
        (reopenPath stamp file.path) = some (held.take (done * blockBytes)) := by
      rw [gone, if_neg different.symm]
      exact isLast
    have renamed := fun other => @read_rename _ _ _ _ other _ _ stillThere (by
      rw [gone, if_pos rfl] :
      (last.apply (.unlink file.path)).read file.path = none)
    refine ⟨bounded.temporary honest sameLast, .inl ⟨_, file.path,
      .tail _ (mem_singleton.mpr rfl), by rw [isLast]; rfl⟩,
      unlinkedBounded, .inl ⟨_, file.path, mem_singleton.mpr rfl, by
        rw [stillThere]
        rfl⟩, ?_⟩
    apply goesOn _ (held.take (done * blockBytes))
    · intro other otherwise
      rw [renamed, if_neg otherwise]
      split_ifs with temporary
      · rw [temporary, absent]
      · rw [gone, if_neg otherwise]
        exact sameLast other temporary
    · rw [renamed, if_pos rfl]
    · rfl
    · rw [length_take]
      omega
  · have gone : ∀ other, (tree.apply (.unlink file.path)).read other =
        if other = file.path then none else tree.read other := fun other => read_unlink
    have created := fun other => @read_create_none _ _ (tree.apply (.unlink file.path)) _ other (by
      rw [gone, if_pos rfl] : (tree.apply (.unlink file.path)).read file.path = none)
    have selected := honest.listed file (mem_of_getElem? isFile)
    refine ⟨bounded, .inr tidy, ?_, .inr ?_, ?_⟩
    · apply bounded.changed honest isFile
      · intro other otherwise
        rw [gone, if_neg otherwise]
      intro content isContent
      rw [gone, if_pos rfl] at isContent
      cases isContent
    · apply tidy.changed selected
      intro other otherwise
      rw [gone, if_neg otherwise]
    have none : done = 0 := by omega
    apply goesOn _ []
    · intro other otherwise
      rw [created, if_neg otherwise, gone, if_neg otherwise]
    · rw [created, if_pos rfl]
    · rw [none, Nat.zero_mul, take_zero]
    · rw [none, Nat.zero_mul]
      rfl

end Open

end Facts

end Adhdev.TransferLink
