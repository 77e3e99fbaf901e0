import Adhdev.TransferLink.Position
import Adhdev.Foundation.FileTree

/-! # The staging tree of a receiver

`receiver.ts`: what `init`, `advance`, `handleData` and `handleBlockEnd` do to the files
under the staging directory, one file operation after the other, so that the process can
stop between any two. Directories are those of the selection, which lists the parents of
what it lists.
-/

namespace Adhdev.TransferLink

open Octets FileTree

abbrev StagePath := List String

structure StagedFile extends ContentFile where
  path : StagePath
  sha256 : String

/-- `selection` is the paths of the entries of the selection. -/
structure StagingSetup where
  files : List StagedFile
  selection : List StagePath
  sha256 : Octets → Octets
  sniffSecretContent : Octets → Bool

inductive VerifyError
  | unexpectedEntry | unreadable | sizeMismatch | secretContent | hashMismatch

def secretSniffBytes : Nat := 4096

namespace StagingSetup

variable (setup : StagingSetup)

def contents : List ContentFile := setup.files.map (·.toContentFile)

def path (index : Nat) : StagePath := (setup.files[index]?.map (·.path)).getD []

def size (index : Nat) : Nat := (setup.files[index]?.map (·.size)).getD 0

def reopenPath (stamp : String) (path : StagePath) : StagePath :=
  path.dropLast ++ [".adhdev-reopen-" ++ stamp]

def copyOps (temporary : StagePath) (held : Octets) (size done : Nat) : List (FileOp StagePath) :=
  (List.range done).map fun block =>
    .write temporary (block * blockBytes) (slice held (block * blockBytes) (blockLength size block))

/-- `openCurrent`. -/
def openOps (tree : FileTree StagePath) (stamp : String) (index done : Nat) :
    List (FileOp StagePath) :=
  let path := setup.path index
  if 0 < done then
    let temporary := reopenPath stamp path
    .create temporary ::
      (copyOps temporary ((tree.read path).getD []) (setup.size index) done ++
        [.unlink path, .rename temporary path])
  else [.unlink path, .create path]

/-- The loop of `advance`: an empty file is created, and the first that is not whole is opened. -/
def advanceOps (tree : FileTree StagePath) (stamp : String) (blocksDone : List Nat) :
    Nat → Nat → List (FileOp StagePath)
  | 0, _ => []
  | left + 1, index =>
    match setup.files[index]?, blocksDone[index]? with
    | some file, some done =>
      if file.size = 0 then
        .create file.path :: advanceOps tree stamp blocksDone left (index + 1)
      else if blockCount file.size ≤ done then
        advanceOps tree stamp blocksDone left (index + 1)
      else setup.openOps tree stamp index done
    | _, _ => []

/-- `dropFile`: first where nothing is retained, then after the first that is not whole. -/
def dropOps (retained kept : List Nat) : List (FileOp StagePath) :=
  (setup.files.zip retained).flatMap (fun entry =>
      if entry.2 = 0 then [.unlink entry.1.path] else []) ++
    (setup.files.zip (retained.zip kept)).flatMap (fun entry =>
      if 0 < entry.2.1 ∧ entry.2.2 = 0 then [.unlink entry.1.path] else [])

def staged (tree : FileTree StagePath) (index : Nat) : Option Octets := tree.read (setup.path index)

def initReceiver (tree : FileTree StagePath) (claimedBlocks : List Nat) : TransferReceiver :=
  TransferReceiver.init setup.sha256 setup.contents (setup.staged tree) claimedBlocks

def initOps (tree : FileTree StagePath) (stamp : String) (claimedBlocks : List Nat) :
    List (FileOp StagePath) :=
  let retained := TransferReceiver.retained setup.sha256 setup.contents (setup.staged tree)
    claimedBlocks
  let blocksDone := (setup.initReceiver tree claimedBlocks).blocksDone
  let drops := setup.dropOps retained blocksDone
  drops ++ setup.advanceOps (tree.applyAll drops) stamp blocksDone setup.files.length 0

def verifyFile (tree : FileTree StagePath) (file : StagedFile) : Except VerifyError Unit :=
  match tree.read file.path with
  | none => .error .unreadable
  | some held =>
    if held.length ≠ file.size then .error .sizeMismatch
    else if 0 < file.size ∧ setup.sniffSecretContent (held.take secretSniffBytes) = true then
      .error .secretContent
    else if digestHex setup.sha256 held ≠ file.sha256 then .error .hashMismatch
    else .ok ()

def verifyAll (tree : FileTree StagePath) : Except VerifyError Unit := do
  if tree.all fun entry => setup.selection.contains entry.1 then
    setup.files.forM (setup.verifyFile tree)
  else .error .unexpectedEntry

end StagingSetup

/-! ## Runs of the receiving daemon -/

/-- `pending` is what the running receiver has still to do before it takes another frame. -/
structure StagingState where
  tree : FileTree StagePath := []
  receiver : Option TransferReceiver := none
  pending : List (FileOp StagePath) := []

namespace StagingState

variable (setup : StagingSetup)

def reopening (tree : FileTree StagePath) (pending : List (FileOp StagePath)) : Prop :=
  ∃ path target, FileOp.rename path target ∈ pending ∧ (tree.read path).isSome = true

def restarted (state : StagingState) (stamp : String) (claimedBlocks : List Nat) : StagingState :=
  { state with
    receiver := some (setup.initReceiver state.tree claimedBlocks)
    pending := setup.initOps state.tree stamp claimedBlocks }

/-- What happens to a receiving daemon. The counts that `init` is given are whatever was
kept. -/
inductive Step : StagingState → StagingState → Prop
  | fileOp {state : StagingState} {op : FileOp StagePath} {ops : List (FileOp StagePath)}
      (isPending : state.pending = op :: ops) :
      Step state { state with tree := state.tree.apply op, pending := ops }
  | crash {state : StagingState} : Step state { state with receiver := none, pending := [] }
  | restart {state : StagingState} (idle : state.pending = []) (stamp : String)
      (claimedBlocks : List Nat) : Step state (state.restarted setup stamp claimedBlocks)
  | data {state : StagingState} {receiver next : TransferReceiver} {fileIndex offset : Nat}
      {payload : Octets} (idle : state.pending = []) (live : state.receiver = some receiver)
      (taken : receiver.handleData fileIndex offset payload = .ok next) :
      Step state { state with
        receiver := some next
        pending := if next = receiver then [] else [.write (setup.path fileIndex) offset payload] }
  | blockEnd {state : StagingState} {receiver next : TransferReceiver} {fileIndex offset : Nat}
      {senderHashHex : String} {outcome : Nat × Bool} (stamp : String) (idle : state.pending = [])
      (live : state.receiver = some receiver)
      (taken : receiver.handleBlockEnd setup.sha256 fileIndex offset senderHashHex =
        .ok (next, outcome)) :
      Step state { state with
        receiver := some next
        pending :=
          if outcome.2 then
            setup.advanceOps state.tree stamp next.blocksDone
              (setup.files.length - (receiver.nextFile + 1)) (receiver.nextFile + 1)
          else [] }

inductive SafelyReachable : StagingState → Prop
  | start : SafelyReachable {}
  | step {state next : StagingState} (reachable : SafelyReachable state)
      (isStep : Step setup state next) (safe : next.receiver = none →
        ¬reopening state.tree state.pending) :
      SafelyReachable next

inductive Reachable : StagingState → Prop
  | start : Reachable {}
  | step {state next : StagingState} (reachable : Reachable state)
      (isStep : Step setup state next) : Reachable next

end StagingState

end Adhdev.TransferLink
