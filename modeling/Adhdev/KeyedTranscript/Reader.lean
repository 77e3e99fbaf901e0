import Adhdev.KeyedTranscript.Folder
import Adhdev.MeshShared.DaemonIds
import Adhdev.MeshShared.NumberText

/-! # The reader of a keyed transcript

`KeyedTranscriptFolder` of `transcript-keyed-folder.ts`: pending rows, verification, rollback, views
and the deltas of applied commits.
-/

namespace Adhdev.KeyedTranscript

open MeshShared

/-! ## Rows as they come -/

inductive KeyedChatPayload
  | known (row : ChatRow)
  | malformed (isCommit : Bool) (frame : Option (String × Int))
  | unknown (frame : Option (String × Int))

structure KeyedChatRow where
  writer : String
  payload : KeyedChatPayload

namespace ChatMsg

/-- What `readChatMsg` asks of the identifier and of the revisions of parts. -/
def readable (head : ChatMsg) : Bool :=
  head.id ≠ "" && match head.body with
    | .text _ => true
    | .parts count revs => 1 ≤ count && revs.length = count

end ChatMsg

def ChatRow.readable : ChatRow → Bool
  | .msg head => head.readable
  | _ => true

def frameOfRow : ChatRow → String × Int
  | .msg head => (head.epoch, head.frame)
  | .part part => (part.epoch, part.frame)
  | .del del => (del.epoch, del.frame)
  | .metadata metadata => (metadata.epoch, metadata.frame)
  | .commit commit => (commit.epoch, commit.frame)

namespace KeyedChatRow

def isCommit (row : KeyedChatRow) : Bool :=
  match row.payload with
  | .known (.commit _) => true
  | .malformed isCommit _ => isCommit
  | _ => false

def frameOf (row : KeyedChatRow) : Option (String × Int) :=
  match row.payload with
  | .known row => some (frameOfRow row)
  | .malformed _ frame => frame
  | .unknown frame => frame

def readCommit (row : KeyedChatRow) : Option ChatCommit :=
  match row.payload with
  | .known (.commit commit) => if commit.writer = row.writer then some commit else none
  | _ => none

end KeyedChatRow

/-! ## Views -/

structure ReplicatedTranscriptMessage where
  messageId : String
  ord : String
  rev : Nat
  shown : ShownFields
  carried : CarriedFields
  content : String
  srcId : Option String
  deriving DecidableEq

/-- A view without its messages. -/
structure ReplicatedTranscriptMeta where
  sessionId : String
  historySessionId : Option String
  fields : MetaFields
  producerDaemonId : String
  producerWriterId : String
  epoch : String
  frame : Nat
  observedAt : String
  coverage : ChatCoverage
  totalMessageCount : Nat
  returnedMessageCount : Nat

structure ReplicatedTranscriptView where
  metadata : ReplicatedTranscriptMeta
  messages : List ReplicatedTranscriptMessage

def chatMessageFromWire (head : ChatMsg) (content : String) : ReplicatedTranscriptMessage where
  messageId := head.id
  ord := head.ord
  rev := head.rev
  shown := head.shown
  carried := head.carried
  content := content
  srcId := head.srcId

def chatOrdKey (message : ReplicatedTranscriptMessage) : List Nat ×ₗ List Nat :=
  toLex (codeUnits message.ord, codeUnits message.messageId)

/-- Whether `compareChatOrd` leaves the two in this order. -/
def chatOrdLe (one two : ReplicatedTranscriptMessage) : Prop := chatOrdKey one ≤ chatOrdKey two

instance decidableChatOrdLe : DecidableRel chatOrdLe :=
  fun one two => inferInstanceAs (Decidable (chatOrdKey one ≤ chatOrdKey two))

namespace CommittedState

variable (state : CommittedState)

def bodyOf (head : ChatMsg) : String :=
  match head.body with
  | .text text => text
  | .parts count _ =>
    (List.range count).foldl
      (fun text k => text ++ ((state.partOf head.id k).map (·.text)).getD "") ""

def messageOf (head : ChatMsg) : ReplicatedTranscriptMessage :=
  chatMessageFromWire head (state.bodyOf head)

def materializeMessage (id : String) : Option ReplicatedTranscriptMessage :=
  (state.headOf id).map state.messageOf

def materializeMessages : List ReplicatedTranscriptMessage :=
  (state.heads.entries.map state.messageOf).insertionSort chatOrdLe

/-- There is no such view without a commit and metadata: the source throws. -/
def materializeMeta : Option ReplicatedTranscriptMeta :=
  state.commit.bind fun commit => state.metadata.map fun metadata =>
    { sessionId := metadata.sessionId
      historySessionId := metadata.historySessionId
      fields := metadata.fields
      producerDaemonId := commit.producerDaemonId
      producerWriterId := commit.writer
      epoch := commit.epoch
      frame := commit.frame
      observedAt := commit.observedAt
      coverage := metadata.coverage
      totalMessageCount := state.heads.entries.length
      returnedMessageCount := state.heads.entries.length }

def materialize : Option ReplicatedTranscriptView :=
  state.materializeMeta.map fun metadata => { metadata, messages := state.materializeMessages }

end CommittedState

/-! ## The folder -/

inductive FolderRejectReason
  | malformedRow | sessionMismatch | ownerMismatch | pendingOverflow
  | verdict (reason : KeyedFoldRejectReason)

structure KeyedTranscriptFrameDelta where
  sessionId : String
  epoch : String
  frame : Nat
  reset : Bool
  upserts : List ReplicatedTranscriptMessage
  deletes : List String
  metadata : Option ReplicatedTranscriptMeta

structure KeyedTranscriptFolderOptions where
  expectedSessionId : Option String := none
  expectedOwnerDaemonId : Option String := none

structure KeyedTranscriptFolderStats where
  commitsApplied : Nat := 0
  rejectedRows : Nat := 0
  digestMismatches : Nat := 0
  tornFramesDropped : Nat := 0
  lastRejectReason : Option FolderRejectReason := none

abbrev FrameKey := String × Int

/-- Pending frames are listed from the oldest. -/
structure KeyedTranscriptFolder where
  state : CommittedState := {}
  pending : List (FrameKey × List KeyedChatRow) := []
  pendingRows : Int := 0
  cachedView : Option ReplicatedTranscriptView := none
  resync : Option FolderRejectReason := none
  counters : KeyedTranscriptFolderStats := {}

def pendingFramesMax : Nat := 8

def pendingRowsMax : Int := 50000

/-- The prior value of a touched slot. -/
inductive UndoOp
  | head (id : String) (prev : Option ChatMsg)
  | part (id : String) (k : Nat) (prev : Option ChatPart)
  | metadata (prev : Option ChatMeta)

namespace CommittedState

variable (state : CommittedState)

def undoParts (id : String) (first : Nat) : List UndoOp :=
  (state.parts.entries.filter fun part => part.id = id && first ≤ part.k).map fun part =>
    .part part.id part.k (some part)

def undoOf : ChatRow → List UndoOp
  | .msg head => .head head.id (state.headOf head.id) :: state.undoParts head.id head.body.partCount
  | .part part => [.part part.id part.k (state.partOf part.id part.k)]
  | .del del =>
    match del.k with
    | none => .head del.id (state.headOf del.id) :: state.undoParts del.id 0
    | some k => if (state.partOf del.id k).isSome then [.part del.id k (state.partOf del.id k)] else
          []
  | .metadata _ => [.metadata state.metadata]
  | .commit _ => []

def undoStep : UndoOp → CommittedState
  | .head _ (some prev) => { state with heads := state.heads.set prev }
  | .head id none => { state with heads := state.heads.keepWhere (·.id ≠ id) }
  | .part _ _ (some prev) => { state with parts := state.parts.set prev }
  | .part id k none =>
    { state with parts := state.parts.keepWhere fun part => !(part.id = id && part.k = k) }
  | .metadata prev => { state with metadata := prev }

def rollback (undo : List UndoOp) : CommittedState := undo.reverse.foldl undoStep state

end CommittedState

structure AppliedFrame where
  state : CommittedState
  undo : List UndoOp := []
  touched : List String := []
  metaChanged : Bool := false
  rejects : List FolderRejectReason := []

section Folder

variable (options : KeyedTranscriptFolderOptions) (hashes : ChatHashes)

def AppliedFrame.reject (applied : AppliedFrame) (reason : FolderRejectReason) : AppliedFrame :=
  { applied with rejects := applied.rejects ++ [reason] }

def AppliedFrame.after (applied : AppliedFrame) (row : ChatRow) (effect : String) : AppliedFrame :=
  { applied with
    state := applied.state.applyRow row
    undo := applied.undo ++ applied.state.undoOf row
    metaChanged := applied.metaChanged || effect = "meta"
    touched :=
      if effect = "meta" || effect = "" || applied.touched.any (· = effect) then applied.touched
      else applied.touched ++ [effect] }

def AppliedFrame.applyKnown (applied : AppliedFrame) : ChatRow → AppliedFrame
  | .msg head => applied.after (.msg head) head.id
  | .part part => applied.after (.part part) part.id
  | .del del => applied.after (.del del) del.id
  | .metadata metadata =>
    if options.expectedSessionId.any (· ≠ metadata.sessionId) then
      applied.reject .sessionMismatch
    else applied.after (.metadata metadata) "meta"
  | .commit _ => applied

def AppliedFrame.apply (applied : AppliedFrame) (row : KeyedChatRow) : AppliedFrame :=
  match row.payload with
  | .known known =>
    if known.readable then applied.applyKnown options known else applied.reject .malformedRow
  | .malformed isCommit _ => if isCommit then applied else applied.reject .malformedRow
  | .unknown _ => applied

def applyFrame (state : CommittedState) (rows : List KeyedChatRow) : AppliedFrame :=
  rows.foldl (AppliedFrame.apply options) { state }

namespace KeyedTranscriptFolder

variable (folder : KeyedTranscriptFolder)

def reject (reason : FolderRejectReason) (needsResync : Bool) : KeyedTranscriptFolder :=
  { folder with
    counters :=
      { folder.counters with
        rejectedRows := folder.counters.rejectedRows + 1
        lastRejectReason := some reason }
    resync := if needsResync then some reason else folder.resync }

def rejectAll (reasons : List FolderRejectReason) : KeyedTranscriptFolder :=
  reasons.foldl (fun folder reason => folder.reject reason false) folder

def rejectCommit (reason : KeyedFoldRejectReason) : KeyedTranscriptFolder :=
  { folder with
    counters :=
      { folder.counters with
        digestMismatches :=
          folder.counters.digestMismatches +
            if reason = KeyedFoldRejectReason.digestMismatch then 1 else 0 } }.reject
    (.verdict reason) true

def view : Option ReplicatedTranscriptView × KeyedTranscriptFolder :=
  match folder.state.materialize with
  | none => (none, folder)
  | some materialized =>
    let shown := folder.cachedView.getD materialized
    (some shown, { folder with cachedView := some shown })

def lastCommit : Option ChatCommit := folder.state.commit

def stash (row : KeyedChatRow) : KeyedTranscriptFolder :=
  if row.isCommit then folder
  else
    match row.frameOf with
    | none => folder.reject .malformedRow false
    | some key =>
      let known := folder.pending.any (·.1 = key)
      let opened := if known then folder.pending else folder.pending ++ [(key, [])]
      let dropped := if known then [] else opened.take (opened.length - pendingFramesMax)
      let kept := if known then opened else opened.drop (opened.length - pendingFramesMax)
      let pendingRows :=
        folder.pendingRows - (dropped.map fun frame => (frame.2.length : Int)).sum + 1
      let stashed : KeyedTranscriptFolder :=
        { folder with
          pending :=
            kept.map fun frame => if frame.1 = key then (frame.1, frame.2 ++ [row]) else frame
          pendingRows
          counters :=
            { folder.counters with
              tornFramesDropped := folder.counters.tornFramesDropped + dropped.length } }
      if pendingRowsMax < pendingRows then
        { stashed with pending := [], pendingRows := 0 }.reject .pendingOverflow true
      else stashed

def stashAll (rows : List KeyedChatRow) : KeyedTranscriptFolder := rows.foldl stash folder

def checkCommitIdentity (commit : ChatCommit) : Option FolderRejectReason :=
  if options.expectedSessionId.any (· ≠ commit.sessionId) then some .sessionMismatch
  else if options.expectedOwnerDaemonId.any
      (fun owner => !daemonIdsEquivalent commit.producerDaemonId owner) then
    some .ownerMismatch
  else none

/-- The key is split at its first two separators, of which the epoch may hold one. -/
def settles (commit : ChatCommit) (key : FrameKey) : Bool :=
  match key.1.splitOn "\x00" with
  | epoch :: frameText :: _ => epoch ≠ commit.epoch || numberAtMost frameText commit.frame
  | _ => key.1 ≠ commit.epoch || key.2 ≤ (commit.frame : Int)

def settlePending (commit : ChatCommit) : KeyedTranscriptFolder :=
  let settled := folder.pending.filter fun frame => settles commit frame.1
  { folder with
    pending := folder.pending.filter fun frame => !settles commit frame.1
    pendingRows := folder.pendingRows - (settled.map fun frame => (frame.2.length : Int)).sum
    counters :=
      { folder.counters with
        tornFramesDropped :=
          folder.counters.tornFramesDropped +
            (settled.filter fun frame => frame.1 ≠ (commit.epoch, (commit.frame : Int))).length } }

def frameRows (commit : ChatCommit) : List KeyedChatRow :=
  (((folder.pending.find? fun frame => frame.1 = (commit.epoch, (commit.frame : Int))).map
    Prod.snd).getD []).filter fun row => row.writer = commit.writer

def adopt (state : CommittedState) (commit : ChatCommit) : KeyedTranscriptFolder :=
  { folder with
    state := { state with commit := some commit }
    cachedView := none
    resync := none
    counters := { folder.counters with commitsApplied := folder.counters.commitsApplied + 1 } }

def resetDelta (commit : ChatCommit) : KeyedTranscriptFrameDelta × KeyedTranscriptFolder :=
  let shown := folder.view
  ({ sessionId := commit.sessionId
     epoch := commit.epoch
     frame := commit.frame
     reset := true
     upserts := (shown.1.map (·.messages)).getD []
     deletes := []
     metadata := if shown.1.isSome then folder.state.materializeMeta else none },
    shown.2)

inductive CommitOutcome
  | rejected
  | applied (delta : KeyedTranscriptFrameDelta)
  | thrown

def commitInPlace (rows : List KeyedChatRow) (commit : ChatCommit) :
    CommitOutcome × KeyedTranscriptFolder :=
  let frame := applyFrame options folder.state rows
  let counted := folder.rejectAll frame.rejects
  match frame.state.verify hashes commit with
  | some reason =>
    (.rejected, { counted with state := frame.state.rollback frame.undo }.rejectCommit reason)
  | none =>
    let first := folder.state.commit.isNone
    let adopted := counted.adopt frame.state commit
    let upserts :=
      (frame.touched.filterMap adopted.state.materializeMessage).insertionSort chatOrdLe
    let deletes := frame.touched.filter fun id => (adopted.state.materializeMessage id).isNone
    let shown := if first then adopted.view else (none, adopted)
    if first || frame.metaChanged then
      match adopted.state.materializeMeta with
      | none => (.thrown, shown.2)
      | some metadata =>
        (.applied
          { sessionId := commit.sessionId
            epoch := commit.epoch
            frame := commit.frame
            reset := first
            upserts := (shown.1.map (·.messages)).getD upserts
            deletes := if first then [] else deletes
            metadata := some metadata },
          shown.2)
    else
      (.applied
        { sessionId := commit.sessionId
          epoch := commit.epoch
          frame := commit.frame
          reset := false
          upserts
          deletes
          metadata := none },
        adopted)

def commitAnew (rows : List KeyedChatRow) (commit : ChatCommit) :
    CommitOutcome × KeyedTranscriptFolder :=
  let frame := applyFrame options {} rows
  let counted := folder.rejectAll frame.rejects
  match frame.state.verify hashes commit with
  | some reason => (.rejected, counted.rejectCommit reason)
  | none =>
    let emitted := (counted.adopt frame.state commit).resetDelta commit
    (.applied emitted.1, emitted.2)

def ingestCommit (row : KeyedChatRow) : CommitOutcome × KeyedTranscriptFolder :=
  match row.readCommit with
  | none => (.rejected, folder.reject .malformedRow false)
  | some commit =>
    match checkCommitIdentity options commit with
    | some reason => (.rejected, folder.reject reason false)
    | none =>
      let settled := folder.settlePending commit
      if folder.state.writerChanged commit then
        commitAnew options hashes settled (folder.frameRows commit) commit
      else commitInPlace options hashes settled (folder.frameRows commit) commit

/-- The deltas that are emitted, until a commit throws. -/
def ingestRows : KeyedTranscriptFolder → List KeyedChatRow →
    List KeyedTranscriptFrameDelta × KeyedTranscriptFolder
  | folder, [] => ([], folder)
  | folder, row :: rest =>
    if row.isCommit then
      match ingestCommit options hashes folder row with
      | (.rejected, next) => ingestRows next rest
      | (.applied delta, next) => (delta :: (ingestRows next rest).1, (ingestRows next rest).2)
      | (.thrown, next) => ([], next)
    else ingestRows (folder.stash row) rest

def splitAtLastCommit :
    List KeyedChatRow → Option (List KeyedChatRow × ChatCommit × List KeyedChatRow)
  | [] => none
  | row :: rest =>
    match splitAtLastCommit rest with
    | some (before, commit, after) => some (row :: before, commit, after)
    | none => row.readCommit.map fun commit => ([], commit, rest)

def ingestSnapshot (rows : List KeyedChatRow) : CommitOutcome × KeyedTranscriptFolder :=
  let cleared := { folder with pending := [], pendingRows := 0 }
  match splitAtLastCommit rows with
  | none =>
    let emptied : KeyedTranscriptFolder :=
      if rows.isEmpty then { cleared with state := {}, cachedView := none, resync := none }
      else cleared
    (.rejected, emptied.stashAll rows)
  | some (before, commit, after) =>
    match checkCommitIdentity options commit with
    | some reason => (.rejected, cleared.reject reason true)
    | none =>
      let frame := applyFrame options {} (before.filter fun row => row.writer = commit.writer)
      let counted := cleared.rejectAll frame.rejects
      match frame.state.verify hashes commit with
      | some reason => (.rejected, counted.rejectCommit reason)
      | none =>
        let emitted := ((counted.adopt frame.state commit).stashAll after).resetDelta commit
        (.applied emitted.1, emitted.2)

/-! ## Runs -/

inductive Call
  | rows (rows : List KeyedChatRow)
  | snapshot (rows : List KeyedChatRow)
  | view

def call (folder : KeyedTranscriptFolder) :
    Call → List KeyedTranscriptFrameDelta × KeyedTranscriptFolder
  | .rows rows => ingestRows options hashes folder rows
  | .snapshot rows =>
    match ingestSnapshot options hashes folder rows with
    | (.applied delta, next) => ([delta], next)
    | (_, next) => ([], next)
  | .view => ([], folder.view.2)

def callAll : KeyedTranscriptFolder → List Call →
    List KeyedTranscriptFrameDelta × KeyedTranscriptFolder
  | folder, [] => ([], folder)
  | folder, one :: rest =>
    let next := call options hashes folder one
    let later := callAll next.2 rest
    (next.1 ++ later.1, later.2)

end KeyedTranscriptFolder

end Folder

end Adhdev.KeyedTranscript
