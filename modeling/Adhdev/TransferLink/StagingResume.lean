import Adhdev.TransferLink.StagingSteps

/-! # Resuming

What `advance` and `init` make of a tree that is in order, and the counts that `init`
returns.
-/

namespace Adhdev.TransferLink

open Octets FileTree List TransferReceiver StagingSetup Option Nat

/-! ## Advancing -/

structure Settled (setup : StagingSetup) (source : Nat → Octets) (receiver : TransferReceiver)
    (tree : FileTree StagePath) : Prop where
  bounded : Bounded setup tree
  tidy : Tidy setup tree
  ready : Ready setup source tree receiver

section Advance

variable {setup : StagingSetup} {source : Nat → Octets} {tree before : FileTree StagePath}
  {index : Nat} {file : StagedFile} {blocksDone : List Nat} {stamp : String}

theorem BlockHeld.long (honest : setup.Honest source) (isFile : setup.files[index]? = some file)
    {block : Nat} (listed : block < blockCount file.size)
    (isHeld : BlockHeld source tree index file block) : ∃ held, tree.read file.path = some held ∧
      block * blockBytes + blockLength file.size block ≤ held.length := by
  obtain ⟨held, isRead, same⟩ := isHeld
  refine ⟨held, isRead, ?_⟩
  have positive := blockLength_pos listed
  have expected : (slice (source index) (block * blockBytes) (blockLength file.size block)).length =
      blockLength file.size block :=
    length_slice (by rw [honest.spooled isFile]; exact block_le_size listed)
  have length := congrArg length same
  rw [expected] at length
  unfold slice at length
  rw [length_take, length_drop] at length
  omega

theorem Kept.long (honest : setup.Honest source) (kept : Kept setup source tree blocksDone)
    (isFile : setup.files[index]? = some file) {done : Nat}
    (isDone : blocksDone[index]? = some done) (listed : done < blockCount file.size)
    (resumed : 0 < done) :
    ∃ held, tree.read file.path = some held ∧ done * blockBytes ≤ held.length := by
  have last := kept index file done isFile isDone (done - 1) (by omega)
  obtain ⟨held, isRead, long⟩ := last.long honest isFile (by omega)
  refine ⟨held, isRead, ?_⟩
  rw [blockLength_of_next (by omega), ← succ_mul, succ_eq_add_one,
    Nat.sub_add_cancel resumed] at long
  exact long

theorem settled_open (honest : setup.Honest source) {receiver : TransferReceiver} {done : Nat}
    (bounded : Bounded setup tree) (tidy : Tidy setup tree)
    (files : receiver.files = setup.contents)
    (counts : TransferReceiver.Counts setup.contents receiver.blocksDone)
    (kept : Kept setup source tree receiver.blocksDone)
    (passed : Passed setup tree receiver.blocksDone receiver.nextFile)
    (isFile : setup.files[receiver.nextFile]? = some file)
    (isDone : receiver.blocksDone[receiver.nextFile]? = some done)
    (listed : done < blockCount file.size) {last : FileTree StagePath} {held : Octets}
    (same : ∀ other, other ≠ file.path → last.read other = tree.read other)
    (isHeld : last.read file.path = some held)
    (isTaken : held = ((tree.read file.path).getD []).take (done * blockBytes))
    (length : held.length = done * blockBytes) :
    Settled setup source { receiver with current := some { index := receiver.nextFile } } last where
  bounded := by
    apply bounded.changed honest isFile same
    intro content isContent
    obtain rfl := mem_unique isHeld isContent
    have inside := block_le_size listed
    omega
  tidy := tidy.changed (honest.listed file (mem_of_getElem? isFile)) same
  ready :=
    { files := files
      counts := counts
      kept := by
        apply kept.changed honest isFile same
        intro counted isCounted block fewer
        obtain rfl := mem_unique isDone isCounted
        obtain ⟨content, isContent, isSlice⟩ :=
          kept receiver.nextFile file done isFile isDone block fewer
        refine ⟨held, isHeld, ?_⟩
        have whole := blockLength_of_next (show block + 1 < blockCount file.size by omega)
        have inside : (block + 1) * blockBytes ≤ done * blockBytes := mul_le_mul_right _ fewer
        rw [succ_mul] at inside
        rw [isTaken, isContent, getD_some, slice_take (by omega)]
        exact isSlice
      passed := passed.changed (by rw [isHeld]; rfl) same
      current := .inr ⟨_, file, done, held, rfl,
        { isFile := isFile
          isDone := isDone
          isIndex := rfl
          listed := listed
          isHeld := isHeld
          length := by
            dsimp only
            omega
          fits := zero_le _
          isData := (drop_eq_nil_of_le length.le).symm }⟩ }

theorem passed_next {receiver : TransferReceiver}
    (passed : Passed setup tree receiver.blocksDone receiver.nextFile)
    (isFile : setup.files[receiver.nextFile]? = some file)
    (isDone : receiver.blocksDone[receiver.nextFile]? = some (blockCount file.size))
    (present : (tree.read file.path).isSome = true) :
    Passed setup tree receiver.blocksDone (receiver.nextFile + 1) := by
  intro other entry isEntry earlier
  rcases Nat.lt_succ_iff_lt_or_eq.mp earlier with before | rfl
  · exact passed other entry isEntry before
  · obtain rfl := mem_unique isEntry isFile
    exact ⟨isDone, present⟩

theorem safeOps_advance (honest : setup.Honest source) {left : Nat} {receiver : TransferReceiver}
    (bounded : Bounded setup tree) (tidy : Tidy setup tree)
    (files : receiver.files = setup.contents) (closed : receiver.current = none)
    (counts : TransferReceiver.Counts setup.contents receiver.blocksDone)
    (kept : Kept setup source tree receiver.blocksDone)
    (passed : Passed setup tree receiver.blocksDone receiver.nextFile)
    (same : ∀ (index : Nat) (file : StagedFile), setup.files[index]? = some file →
      receiver.nextFile ≤ index → before.read file.path = tree.read file.path)
    (enough : setup.files.length - receiver.nextFile ≤ left) :
    SafeOps setup (Settled setup source (receiver.advanceWithin left)) tree
      (setup.advanceOps before stamp receiver.blocksDone left receiver.nextFile) := by
  induction left generalizing receiver tree with
  | zero =>
    rw [advanceOps, advanceWithin]
    exact ⟨bounded, tidy, files, counts, kept, passed, .inl ⟨closed, by omega⟩⟩
  | succ left induction =>
    by_cases listed : receiver.nextFile < setup.files.length
    · obtain ⟨file, isFile⟩ : ∃ file, setup.files[receiver.nextFile]? = some file :=
        ⟨_, getElem?_eq_getElem listed⟩
      have known : receiver.nextFile < receiver.blocksDone.length := by
        rw [counts.1, length_contents]
        exact listed
      obtain ⟨done, isDone⟩ : ∃ done, receiver.blocksDone[receiver.nextFile]? = some done :=
        ⟨_, getElem?_eq_getElem known⟩
      have isContent : receiver.files[receiver.nextFile]? = some file.toContentFile := by
        rw [files]
        exact contents_eq isFile
      have bound := counts.2 _ _ _ (contents_eq isFile) isDone
      rw [advanceWithin_listed isContent isDone, advanceOps, isFile, isDone]
      dsimp only
      by_cases empty : file.size = 0
      · rw [if_pos empty, if_pos (.inr empty)]
        have nothing : blockCount file.size = 0 := by
          rw [empty]
          rfl
        have created : (∀ other, other ≠ file.path →
            (tree.apply (.create file.path)).read other = tree.read other) ∧
            ∃ held, (tree.apply (.create file.path)).read file.path = some held ∧
              held.length ≤ file.size := by
          cases isRead : tree.read file.path with
          | none =>
            have reads := fun other => @read_create_none _ _ tree _ other isRead
            refine ⟨fun other otherwise => ?_, [], ?_, zero_le _⟩
            · rw [reads, if_neg otherwise]
            · rw [reads, if_pos rfl]
          | some held =>
            rw [read_create_some isRead]
            exact ⟨fun _ _ => rfl, held, isRead, bounded _ _ _ isFile isRead⟩
        obtain ⟨others, held, isHeld, fits⟩ := created
        refine ⟨bounded, .inr tidy, ?_⟩
        apply @induction (tree.apply (.create file.path))
          { receiver with nextFile := receiver.nextFile + 1 }
        · apply bounded.changed honest isFile others
          intro content isContent
          obtain rfl := mem_unique isHeld isContent
          exact fits
        · exact tidy.changed (honest.listed file (mem_of_getElem? isFile)) others
        · exact files
        · exact closed
        · exact counts
        · apply kept.changed honest isFile others
          intro counted isCounted block fewer
          obtain rfl := mem_unique isDone isCounted
          omega
        · have isWhole : receiver.blocksDone[receiver.nextFile]? =
              some (blockCount file.size) := by
            rw [isDone]
            congr 1
            omega
          exact passed_next (passed.changed (by rw [isHeld]; rfl) others) isFile isWhole
            (by rw [isHeld]; rfl)
        · intro other entry isEntry later
          have apart : entry.path ≠ file.path := by
            intro samePath
            have clash := honest.distinct isEntry isFile samePath
            dsimp only at later
            omega
          rw [others _ apart]
          exact same other entry isEntry (le_of_succ_le later)
        · dsimp only
          omega
      · rw [if_neg empty]
        by_cases whole : blockCount file.size ≤ done
        · rw [if_pos whole, if_pos (.inl ⟨whole, pos_of_ne_zero empty⟩)]
          have isWhole : receiver.blocksDone[receiver.nextFile]? =
              some (blockCount file.size) := by
            rw [isDone]
            congr 1
            exact le_antisymm bound whole
          have positive := blockCount_pos (pos_of_ne_zero empty)
          obtain ⟨held, isHeld, -⟩ := kept _ _ _ isFile isDone 0 (by omega)
          apply @induction tree { receiver with nextFile := receiver.nextFile + 1 } bounded tidy
            files closed counts kept (passed_next passed isFile isWhole (by rw [isHeld]; rfl))
          · intro other entry isEntry later
            exact same other entry isEntry (le_of_succ_le later)
          · dsimp only
            omega
        have stops : ¬((blockCount file.size ≤ done ∧ 0 < file.size) ∨ file.size = 0) := by
          rintro (⟨isWhole, -⟩ | isEmpty)
          · exact whole isWhole
          · exact empty isEmpty
        rw [if_neg whole, if_neg stops]
        apply safeOps_open honest bounded tidy isFile (not_le.mp whole)
          (same _ _ isFile le_rfl) (kept.long honest isFile isDone (not_le.mp whole))
        intro last held others isHeld isTaken length
        exact settled_open honest bounded tidy files counts kept passed isFile isDone
          (not_le.mp whole) others isHeld isTaken length
    · have missing : receiver.files[receiver.nextFile]? = none := by
        rw [files, contents, getElem?_eq_none_iff, length_map]
        exact not_lt.mp listed
      have absent : setup.files[receiver.nextFile]? = none := getElem?_eq_none (not_lt.mp listed)
      rw [advanceOps, advanceWithin, missing, absent]
      exact ⟨bounded, tidy, files, counts, kept, passed, .inl ⟨closed, not_lt.mp listed⟩⟩

end Advance

/-! ## The counts of `init` -/

def Verified (sha256 : Octets → Octets) (file : ContentFile) (staged : Option Octets)
    (block : Nat) : Prop :=
  ∃ held, staged = some held ∧
    (slice held (block * blockBytes) (blockLength file.size block)).length =
      blockLength file.size block ∧
    file.blockHashes[block]? = some (digestHex sha256
      (slice held (block * blockBytes) (blockLength file.size block)))

structure LeadingVerified (sha256 : Octets → Octets) (file : ContentFile) (staged : Option Octets)
    (claimed count : Nat) : Prop where
  within : count ≤ min claimed (blockCount file.size)
  verified : ∀ block < count, Verified sha256 file staged block
  exact_ : count < min claimed (blockCount file.size) → ¬Verified sha256 file staged count

section Counts

variable {sha256 : Octets → Octets} {file : ContentFile} {held : Octets}

theorem verified_iff {block : Nat} : Verified sha256 file (some held) block ↔
      (slice held (block * blockBytes) (blockLength file.size block)).length =
        blockLength file.size block ∧
      file.blockHashes[block]? = some (digestHex sha256
        (slice held (block * blockBytes) (blockLength file.size block))) := by
  constructor
  · rintro ⟨content, isContent, isVerified⟩
    obtain rfl := some.inj isContent
    exact isVerified
  · intro isVerified
    exact ⟨held, rfl, isVerified⟩

theorem validBlocks_verified (left block : Nat) : block ≤ validBlocks sha256 file held left block ∧
      (∀ counted, block ≤ counted → counted < validBlocks sha256 file held left block →
        Verified sha256 file (some held) counted) ∧
      (validBlocks sha256 file held left block < block + left →
        ¬Verified sha256 file (some held) (validBlocks sha256 file held left block)) := by
  induction left generalizing block with
  | zero =>
    rw [validBlocks]
    exact ⟨le_rfl, fun counted after before => absurd before (not_lt.mpr after),
      fun short => absurd short (lt_irrefl _)⟩
  | succ left induction =>
    rw [validBlocks]
    split_ifs with stops
    · refine ⟨le_rfl, fun counted after before => absurd before (not_lt.mpr after), ?_⟩
      intro _ isVerified
      rw [verified_iff] at isVerified
      rcases stops with short | other
      · exact short isVerified.1
      · exact other isVerified.2
    rw [not_or, not_not, not_not] at stops
    obtain ⟨least, verified, exact_⟩ := induction (block + 1)
    refine ⟨by omega, ?_, fun short => exact_ (by omega)⟩
    intro counted after before
    rcases eq_or_lt_of_le after with rfl | later
    · exact verified_iff.mpr stops
    · exact verified counted later before

theorem validateRetained_verified (staged : Option Octets) (claimed : Nat) :
    LeadingVerified sha256 file staged claimed (validateRetained sha256 file staged claimed) := by
  unfold validateRetained
  dsimp only
  split_ifs with nothing
  · exact ⟨zero_le _, fun block before => absurd before (not_lt_zero _), fun short => by omega⟩
  cases staged with
  | none =>
    refine ⟨zero_le _, fun block before => absurd before (not_lt_zero _), ?_⟩
    rintro - ⟨content, isContent, -⟩
    cases isContent
  | some held =>
    obtain ⟨-, verified, exact_⟩ := @validBlocks_verified sha256 file held
      (min claimed (blockCount file.size)) 0
    have bound := @validBlocks_le sha256 file held (min claimed (blockCount file.size)) 0
    rw [zero_add] at exact_ bound
    exact ⟨bound, fun block before => verified block (zero_le _) before, exact_⟩

/-- The counts of `init`: what is verified of each file up to the first that is not whole, and
nothing after it. -/
def ExactCounts (sha256 : Octets → Octets) (files : List ContentFile)
    (staged : Nat → Option Octets) (claimedBlocks blocksDone : List Nat) : Prop :=
  blocksDone.length = files.length ∧
    ∀ (index : Nat) (file : ContentFile), files[index]? = some file →
      ∃ count, blocksDone[index]? = some count ∧
        ((LeadingVerified sha256 file (staged index) (claimedBlocks[index]?.getD 0) count ∧
            ∀ (earlier : Nat) (before : ContentFile), earlier < index →
              files[earlier]? = some before →
              blocksDone[earlier]? = some (blockCount before.size)) ∨
          (count = 0 ∧ ∃ (earlier : Nat) (before : ContentFile) (fewer : Nat), earlier < index ∧
            files[earlier]? = some before ∧ blocksDone[earlier]? = some fewer ∧
            fewer < blockCount before.size))

variable {files : List ContentFile} {staged : Nat → Option Octets} {claimedBlocks : List Nat}

theorem retained_verified {index : Nat} (isFile : files[index]? = some file) :
    ∃ count, (retained sha256 files staged claimedBlocks)[index]? = some count ∧
      LeadingVerified sha256 file (staged index) (claimedBlocks[index]?.getD 0) count := by
  refine ⟨_, ?_, validateRetained_verified (staged index) (claimedBlocks[index]?.getD 0)⟩
  rw [retained, getElem?_mapIdx, isFile]
  rfl

theorem whole_before {done : List Nat} (counts : TransferReceiver.Counts files done) {first : Nat}
    (before : ∀ index, index < first → ∀ entry, (done.zip files)[index]? = some entry →
      ¬entry.1 < blockCount entry.2.size) {index : Nat} {file : ContentFile}
    (earlier : index < first) (isFile : files[index]? = some file) :
    done[index]? = some (blockCount file.size) := by
  have known : index < done.length := by
    rw [counts.1]
    exact (List.getElem?_eq_some_iff.mp isFile).1
  obtain ⟨blocks, isBlocks⟩ : ∃ blocks, done[index]? = some blocks := ⟨_, getElem?_eq_getElem known⟩
  have whole := before index earlier (blocks, file) (getElem?_zip_eq_some.mpr ⟨isBlocks, isFile⟩)
  have bound := counts.2 index file blocks isFile isBlocks
  rw [isBlocks]
  congr 1
  dsimp only at whole
  omega

theorem init_exact (sha256 : Octets → Octets) (files : List ContentFile)
    (staged : Nat → Option Octets) (claimedBlocks : List Nat) :
    ExactCounts sha256 files staged claimedBlocks
      (init sha256 files staged claimedBlocks).blocksDone := by
  have counts := @retained_counts sha256 files staged claimedBlocks
  refine ⟨init_counts.1, ?_⟩
  intro index file isFile
  obtain ⟨count, isCount, verified⟩ :=
    @retained_verified sha256 file files staged claimedBlocks index isFile
  rw [init, advance_blocksDone]
  dsimp only
  unfold keepFirstOpen
  cases isFirst : ((retained sha256 files staged claimedBlocks).zip
      files).findIdx? fun entry => entry.1 < blockCount entry.2.size with
  | none =>
    rw [findIdx?_eq_none_iff] at isFirst
    refine ⟨count, isCount, .inl ⟨verified, ?_⟩⟩
    intro earlier before sooner isBefore
    apply whole_before counts _ sooner isBefore
    intro other _ entry isEntry
    exact of_decide_eq_false (isFirst entry (mem_of_getElem? isEntry))
  | some first =>
    dsimp only
    rw [findIdx?_eq_some_iff_getElem] at isFirst
    obtain ⟨inside, isOpen, sooner⟩ := isFirst
    have wholes : ∀ other, other < first → ∀ entry,
        ((retained sha256 files staged claimedBlocks).zip files)[other]? =
          some entry → ¬entry.1 < blockCount entry.2.size := by
      intro other earlier entry isEntry
      obtain ⟨listed, rfl⟩ := List.getElem?_eq_some_iff.mp isEntry
      have closed := sooner other earlier
      rw [decide_eq_true_eq] at closed
      exact closed
    rw [getElem?_mapIdx, isCount]
    by_cases after : first < index
    · refine ⟨0, by rw [map_some, if_pos after], .inr ⟨rfl, first, ?_⟩⟩
      have entry := getElem?_eq_getElem inside
      rw [getElem?_zip_eq_some] at entry
      refine ⟨_, _, after, entry.2, ?_, of_decide_eq_true isOpen⟩
      rw [getElem?_mapIdx, entry.1, map_some, if_neg (lt_irrefl _)]
    refine ⟨count, by rw [map_some, if_neg after], .inl ⟨verified, ?_⟩⟩
    intro earlier before sooner isBefore
    rw [getElem?_mapIdx, whole_before counts wholes (by omega) isBefore, map_some,
      if_neg (by omega)]

end Counts

/-! ## Initialising -/

section Init

variable {setup : StagingSetup} {source : Nat → Octets} {tree : FileTree StagePath}
  {blocksDone : List Nat}

def Drops (setup : StagingSetup) (blocksDone : List Nat) (op : FileOp StagePath) : Prop :=
  ∃ (index : Nat) (file : StagedFile), setup.files[index]? = some file ∧
    blocksDone[index]? = some 0 ∧ op = .unlink file.path

theorem safeOps_drops (honest : setup.Honest source) {post : FileTree StagePath → Prop}
    {ops : List (FileOp StagePath)} (drops : ∀ op ∈ ops, Drops setup blocksDone op)
    (bounded : Bounded setup tree) (tidy : Tidy setup tree)
    (kept : Kept setup source tree blocksDone)
    (goesOn : Bounded setup (tree.applyAll ops) → Tidy setup (tree.applyAll ops) →
      Kept setup source (tree.applyAll ops) blocksDone → post (tree.applyAll ops)) :
    SafeOps setup post tree ops := by
  induction ops generalizing tree with
  | nil => exact goesOn bounded tidy kept
  | cons op ops induction =>
    obtain ⟨index, file, isFile, isNone, rfl⟩ := drops op (.head _)
    have gone : ∀ other, (tree.apply (.unlink file.path)).read other =
        if other = file.path then none else tree.read other := fun other => read_unlink
    have others : ∀ other, other ≠ file.path →
        (tree.apply (.unlink file.path)).read other = tree.read other := by
      intro other otherwise
      rw [gone, if_neg otherwise]
    refine ⟨bounded, .inr tidy, ?_⟩
    apply induction (forall_mem_cons.mp drops).2
    · apply bounded.changed honest isFile others
      intro content isContent
      rw [gone, if_pos rfl] at isContent
      cases isContent
    · exact tidy.changed (honest.listed file (mem_of_getElem? isFile)) others
    · apply kept.changed honest isFile others
      intro done isDone block fewer
      obtain rfl := mem_unique isNone isDone
      exact absurd fewer (not_lt_zero _)
    · exact goesOn

theorem keepFirstOpen_zero {files : List ContentFile} {done : List Nat} {index : Nat}
    (none : done[index]? = some 0) : (keepFirstOpen files done)[index]? = some 0 := by
  unfold keepFirstOpen
  split
  · exact none
  · rw [getElem?_mapIdx, none, map_some]
    split_ifs <;> rfl

theorem dropOps_drops {retained : List Nat}
    (zero : ∀ index : Nat, retained[index]? = some 0 → blocksDone[index]? = some 0) :
    ∀ op ∈ setup.dropOps retained blocksDone, Drops setup blocksDone op := by
  intro op member
  rw [dropOps, mem_append] at member
  rcases member with first | second
  · obtain ⟨entry, isEntry, dropped⟩ := mem_flatMap.mp first
    obtain ⟨index, found⟩ := mem_iff_getElem?.mp isEntry
    rw [getElem?_zip_eq_some] at found
    split_ifs at dropped with none
    · rw [none] at found
      exact ⟨index, entry.1, found.1, zero index found.2, mem_singleton.mp dropped⟩
    · cases dropped
  obtain ⟨entry, isEntry, dropped⟩ := mem_flatMap.mp second
  obtain ⟨index, found⟩ := mem_iff_getElem?.mp isEntry
  rw [getElem?_zip_eq_some, getElem?_zip_eq_some] at found
  split_ifs at dropped with none
  · exact ⟨index, entry.1, found.1, none.2 ▸ found.2.2, mem_singleton.mp dropped⟩
  · cases dropped

theorem blockHeld_of_verified (honest : setup.Honest source) {index : Nat} {file : StagedFile}
    (isFile : setup.files[index]? = some file) {block : Nat} (listed : block < blockCount file.size)
    (verified : Verified setup.sha256 file.toContentFile (setup.staged tree index) block) :
    BlockHeld source tree index file block := by
  obtain ⟨held, isHeld, -, hash⟩ := verified
  rw [staged, path_eq isFile] at isHeld
  refine ⟨held, isHeld, honest.unique isFile listed ?_⟩
  rw [honest.hashed isFile block listed, some.injEq] at hash
  exact hash.symm

theorem kept_init (honest : setup.Honest source) (claimedBlocks : List Nat) :
    Kept setup source tree (setup.initReceiver tree claimedBlocks).blocksDone := by
  intro index file done isFile isDone block counted
  obtain ⟨-, counts⟩ := init_exact setup.sha256 setup.contents (setup.staged tree) claimedBlocks
  obtain ⟨count, isCount, ⟨verified, -⟩ | ⟨rfl, -⟩⟩ := counts index _ (contents_eq isFile)
  · obtain rfl := mem_unique isDone isCount
    have within := verified.within
    apply blockHeld_of_verified honest isFile _ (verified.verified block counted)
    omega
  · obtain rfl := mem_unique isDone isCount
    exact absurd counted (not_lt_zero _)

theorem safeOps_init (honest : setup.Honest source) (bounded : Bounded setup tree)
    (tidy : Tidy setup tree) (stamp : String) (claimedBlocks : List Nat) :
    SafeOps setup (Settled setup source (setup.initReceiver tree claimedBlocks)) tree
      (setup.initOps tree stamp claimedBlocks) := by
  have counts := @init_counts setup.sha256 setup.contents (setup.staged tree) claimedBlocks
  have kept := @kept_init setup source tree honest claimedBlocks
  rw [initOps]
  apply safeOps_append
  apply safeOps_drops honest (dropOps_drops _) bounded tidy kept
  · intro afterBounded afterTidy afterKept
    rw [initReceiver, init, advance_blocksDone] at *
    have passed : Passed setup
        (tree.applyAll (setup.dropOps (retained setup.sha256 setup.contents
          (setup.staged tree) claimedBlocks) (keepFirstOpen setup.contents
            (retained setup.sha256 setup.contents (setup.staged tree)
              claimedBlocks))))
        (keepFirstOpen setup.contents
          (retained setup.sha256 setup.contents (setup.staged tree)
            claimedBlocks)) 0 :=
      fun index file _ before => absurd before (not_lt_zero _)
    rw [advance, length_contents]
    exact @safeOps_advance setup source _ _ stamp honest _
      { files := setup.contents
        blocksDone := keepFirstOpen setup.contents
          (retained setup.sha256 setup.contents (setup.staged tree) claimedBlocks)
        nextFile := 0
        current := none } afterBounded afterTidy rfl rfl counts afterKept passed
      (fun _ _ _ _ => rfl) le_rfl
  intro index none
  rw [initReceiver, init, advance_blocksDone]
  exact keepFirstOpen_zero none

end Init

end Adhdev.TransferLink
