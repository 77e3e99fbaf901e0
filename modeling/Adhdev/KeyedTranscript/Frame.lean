import Adhdev.KeyedTranscript.Codec

/-! # Keyed frames

`transcript-keyed-frame.ts`: the producer of one session.
-/

namespace Adhdev.KeyedTranscript

structure TranscriptMessage where
  messageId : String
  ord : String
  srcId : Option String
  content : String
  shown : ShownFields
  carried : CarriedFields
  deriving DecidableEq

structure TranscriptObservation where
  sessionId : String
  historySessionId : Option String
  fields : MetaFields
  ledgerEpoch : String
  coverage : ChatCoverage
  retainedMessageIds : List String
  messages : List TranscriptMessage

structure BuildContext where
  writerId : String
  producerDaemonId : String
  observedAt : String
  verifiedClear : Bool := false
  retainMessages : Bool := false

structure PublishedBubble where
  id : String
  rev : Nat
  hash : String
  ord : String
  partHashes : List String
  partRevs : List Nat
  bytes : Nat
  deriving DecidableEq

structure MetaCandidate where
  providerType : String
  status : String
  title : Option String
  historySessionId : Option String
  deriving DecidableEq

/-- What is above the watermark at restore: the highest revision of an id and its part indexes. -/
structure TornKeys where
  id : String
  rev : Nat
  parts : List Nat

abbrev Bubbles := KeyedMap PublishedBubble.id

abbrev ArtifactMessages := KeyedMap TranscriptMessage.messageId

structure SessionState where
  sessionId : String
  epoch : String
  bubbles : Bubbles := .empty
  artifactMessages : ArtifactMessages := .empty
  metaRev : Nat := 0
  metaHash : Option String := none
  coverage : Option ChatCoverage := none
  historySessionId : Option String := none
  lastMetaCandidate : Option MetaCandidate := none
  frameNo : Nat := 0
  /-- The latest of the ids that were deleted, the oldest first. -/
  deletedRevs : List (String × Nat) := []
  torn : List TornKeys := []
  tornMetaRev : Option Nat := none
  pendingBase : Option ChatBaseReason := none
  restoredNonEmpty : Bool := false
  firstFrame : Bool := true

def isArtifact (id : String) : Bool := "artifact:".toList.isPrefixOf id.toList

namespace SessionState

variable (state : SessionState)

def bubble (id : String) : Option PublishedBubble := state.bubbles.entries.find? (·.id = id)

def isLive (id : String) : Bool := state.bubbles.entries.any (·.id = id)

def artifactMessage (id : String) : Option TranscriptMessage :=
  state.artifactMessages.entries.find? (·.messageId = id)

def tornOf (id : String) : Option TornKeys := state.torn.find? (·.id = id)

/-- Only two positively identified, different histories establish a switch. -/
def isLineageSwitch (observation : TranscriptObservation) : Bool :=
  match state.historySessionId, observation.historySessionId with
  | some held, some observed => held ≠ "" && observed ≠ "" && held ≠ observed
  | _, _ => false

def requestBase (reason : ChatBaseReason) : SessionState :=
  { state with pendingBase := some reason }

def deletedRevMemory : Nat := 256

def rememberDeleted (id : String) (rev : Nat) : SessionState :=
  let remembered := state.deletedRevs.filter (·.1 ≠ id) ++ [(id, rev)]
  { state with deletedRevs := remembered.drop (remembered.length - deletedRevMemory) }

def markTorn (id : String) (rev : Nat) (parts : List Nat) : SessionState :=
  match state.tornOf id with
  | none => { state with torn := state.torn ++ [{ id, rev, parts := parts.eraseDups }] }
  | some held =>
    { state with torn := state.torn.map fun keys =>
        if keys.id = id then
          { id, rev := max held.rev rev, parts := (held.parts ++ parts).eraseDups }
        else keys }

def nextRev (id : String) (prior : Option PublishedBubble) : Nat :=
  max (max ((prior.map (·.rev)).getD 0) (((state.tornOf id).map (·.rev)).getD 0))
    ((state.deletedRevs.lookup id).getD 0) + 1

end SessionState

section Frames

variable (hashes : ChatHashes)

def headOverheadBytes : Nat := 256

/-- `encodeChatMessageHead`. -/
def encodeChatMessageHead (message : TranscriptMessage) (id ord : String) (rev : Nat)
    (epoch : String) (frame : Nat) (body : ChatMsgBody) : ChatMsg where
  id := id
  rev := rev
  epoch := epoch
  frame := frame
  ord := ord
  shown := message.shown
  carried := message.carried
  srcId := message.srcId
  body := body

def headChangeKey (head : ChatMsg) (text : String) : String :=
  hashes.headKey head.ord head.shown head.srcId text

def metaChangeKey (metadata : ChatMeta) : String :=
  hashes.metaKey { metadata with rev := 0, epoch := "", frame := 0 }

/-! ## Restore -/

structure PersistedRow where
  writer : String
  row : ChatRow

structure PersistedState where
  committed : List PersistedRow
  torn : List PersistedRow

def restoreRow (state : SessionState) (persisted : PersistedRow) : SessionState :=
  match persisted.row with
  | .del del => if del.k.isNone then state.rememberDeleted del.id del.rev else state
  | .metadata metadata =>
    { state with
      metaRev := metadata.rev
      metaHash := some (metaChangeKey hashes metadata)
      coverage := some metadata.coverage
      historySessionId := metadata.historySessionId
      lastMetaCandidate := some
        { providerType := metadata.fields.providerType
          status := metadata.fields.status
          title := metadata.fields.title
          historySessionId := metadata.historySessionId } }
  | .commit commit =>
    if commit.epoch = state.epoch then { state with frameNo := max state.frameNo commit.frame }
    else state
  | _ => state

def persistedPart (rows : List PersistedRow) (id : String) (k : Nat) : Option ChatPart :=
  (rows.filterMap fun persisted =>
    match persisted.row with
    | .part part => if part.id = id ∧ part.k = k then some part else none
    | _ => none).getLast?

def persistedParts (rows : List PersistedRow) (id : String) : List Nat :=
  (rows.filterMap fun persisted =>
    match persisted.row with
    | .part part => if part.id = id then some part.k else none
    | _ => none).eraseDups

def persistedHeads (rows : List PersistedRow) : KeyedMap ChatMsg.id :=
  (rows.filterMap fun persisted =>
    match persisted.row with
    | .msg head => some head
    | _ => none).foldl KeyedMap.set .empty

def artifactOfHead (head : ChatMsg) (text : String) : TranscriptMessage where
  messageId := head.id
  ord := head.ord
  srcId := head.srcId
  content := text
  shown := { head.shown with streaming := none }
  carried := { sourceMessageId := none, runtimeInputAck := false, outgoingReceipt := none }

/-- The parts of the head are all there, of the revisions that it names. -/
def isComplete (rows : List PersistedRow) (head : ChatMsg) : Bool :=
  match head.body with
  | .text _ => true
  | .parts parts partRevs => (List.range parts).all fun k =>
    (persistedPart rows head.id k).any fun part => partRevs[k]? = some part.rev

def restoreHead (rows : List PersistedRow) (state : SessionState) (head : ChatMsg) : SessionState :=
  let pieces : List String :=
    match head.body with
    | .text text => [text]
    | .parts parts _ => (List.range parts).map fun k =>
      ((persistedPart rows head.id k).map (·.text)).getD ""
  let text := String.join pieces
  let marked :=
    if isComplete rows head then state
    else state.markTorn head.id head.rev (persistedParts rows head.id)
  let bubble : PublishedBubble :=
    { id := head.id
      rev := head.rev
      hash := headChangeKey hashes head text
      ord := head.ord
      partHashes :=
        match head.body with
        | .text _ => []
        | .parts .. => pieces.map hashes.sha1
      partRevs := head.body.partRevs
      bytes := text.utf8ByteSize + headOverheadBytes }
  { marked with
    bubbles := marked.bubbles.set bubble
    artifactMessages :=
      if isArtifact head.id then marked.artifactMessages.set (artifactOfHead head text)
      else marked.artifactMessages }

def restoreTorn (state : SessionState) (persisted : PersistedRow) : SessionState :=
  let seen (frame : Nat) (epoch : String) : SessionState :=
    if epoch = state.epoch then { state with frameNo := max state.frameNo frame } else state
  match persisted.row with
  | .metadata metadata =>
    { state with
      tornMetaRev := some (max (max (state.tornMetaRev.getD 0) metadata.rev) state.metaRev) }
  | .msg head => (seen head.frame head.epoch).markTorn head.id head.rev []
  | .part part => (seen part.frame part.epoch).markTorn part.id part.rev [part.k]
  | .del del => (seen del.frame del.epoch).markTorn del.id del.rev del.k.toList
  | .commit commit => seen commit.frame commit.epoch

def hasOtherWriter (persisted : PersistedState) (writerId : String) : Bool :=
  persisted.committed.any fun row =>
    match row.row with
    | .msg _ => row.writer ≠ writerId
    | _ => false

def commitWriter (persisted : PersistedState) : Option String :=
  (persisted.committed.filterMap fun row =>
    match row.row with
    | .commit commit => some commit.writer
    | _ => none).getLast?

def restore (state : SessionState) (persisted : PersistedState) (writerId : String) :
    SessionState :=
  let read := persisted.committed.foldl (restoreRow hashes) state
  let live := (persistedHeads persisted.committed).entries.foldl
    (restoreHead hashes persisted.committed) read
  let marked := persisted.torn.foldl restoreTorn live
  { marked with
    pendingBase :=
      if hasOtherWriter persisted writerId || (commitWriter persisted).any (· ≠ writerId) then
        some .writerChange
      else marked.pendingBase
    restoredNonEmpty := marked.bubbles.entries ≠ [] }

/-! ## Building a frame -/

structure StagedFrame where
  staged : List PublishedBubble
  stagedArtifacts : List TranscriptMessage
  deleted : List (String × Nat)
  metaRev : Nat
  metaHash : String
  historySessionId : Option String
  metaCandidate : Option MetaCandidate
  deriving DecidableEq

structure ChatFrame where
  epoch : String
  frame : Nat
  /-- In append order, without the commit. -/
  rows : List ChatRow
  commit : ChatCommit
  staging : StagedFrame
  deriving DecidableEq

inductive BuildResult
  | frame (frame : ChatFrame)
  | unchanged
  | unidentified
  deriving DecidableEq

def BuildResult.built : BuildResult → Option ChatFrame
  | .frame given => some given
  | _ => none

structure EncodedBubble where
  message : TranscriptMessage
  id : String
  ord : String
  text : String
  bytes : Nat

variable (state : SessionState) (observation : TranscriptObservation) (context : BuildContext)

/-- A full rewrite was asked for. -/
def forceAll : Bool :=
  state.pendingBase = some .resyncRequest || state.pendingBase = some .writerChange

def nextArtifactOrd (extraOrds : List String) : String :=
  hashes.generateKeyAfter (state.bubbles.entries.map (·.ord) ++ extraOrds)

def encodeText (message : TranscriptMessage) (id ord : String) : EncodedBubble where
  message := message
  id := id
  ord := ord
  text := message.content
  bytes := message.content.utf8ByteSize + headOverheadBytes

def ordOf (observed : List EncodedBubble) (message : TranscriptMessage) : String :=
  let priorOrd :=
    if isArtifact message.messageId then ((state.bubble message.messageId).map (·.ord)).getD ""
    else ""
  if priorOrd ≠ "" then priorOrd
  else if message.ord ≠ "" then message.ord
  else if isArtifact message.messageId then nextArtifactOrd hashes state (observed.map (·.ord))
  else ""

def encodeObserved : List EncodedBubble → List TranscriptMessage → Option (List EncodedBubble)
  | observed, [] => some observed
  | observed, message :: messages =>
    let ord := ordOf hashes state observed message
    if message.messageId = "" ∨ ord = "" then none
    else if message.messageId ∈ observed.map (·.id) then encodeObserved observed messages
    else
      encodeObserved (observed ++ [encodeText message message.messageId ord]) messages

def startsOver : Bool := context.verifiedClear || state.isLineageSwitch observation

def rewrittenArtifacts (observed : List EncodedBubble) : List EncodedBubble :=
  if startsOver state observation context ∨ forceAll state = false then []
  else
    state.bubbles.entries.filterMap fun bubble =>
      if isArtifact bubble.id ∧ bubble.id ∉ observed.map (·.id) then
        (state.artifactMessage bubble.id).map fun message =>
          encodeText message bubble.id bubble.ord
      else none

def windowRetained (observed : List EncodedBubble) : List String :=
  if startsOver state observation context then []
  else observation.retainedMessageIds.eraseDups.filter fun id =>
    id ∉ observed.map (·.id) && state.isLive id

def keptArtifacts (observed : List EncodedBubble) : List String :=
  (state.bubbles.entries.map (·.id)).filter fun id =>
    isArtifact id && id ∉ observed.map (·.id) &&
      !(forceAll state && (state.artifactMessage id).isSome)

def retainedIds (observed : List EncodedBubble) : List String :=
  if startsOver state observation context then []
  else
    let all := if context.retainMessages then state.bubbles.entries.map (·.id) else []
    (all ++ windowRetained state observation context observed ++
      keptArtifacts state observed).eraseDups

structure CapEntry where
  id : String
  ord : String
  bytes : Nat

def overCap (total : Nat) (entries : List CapEntry) : Bool :=
  chatLiveBytesMax < total || chatLiveBubblesMax < entries.length

def capOldest : Nat → List CapEntry → List String
  | total, entry :: next :: entries =>
    if overCap total (entry :: next :: entries) then
      entry.id :: capOldest (total - entry.bytes) (next :: entries)
    else []
  | _, _ => []

def capEntries (observed : List EncodedBubble) (retained : List String) : List CapEntry :=
  observed.map (fun bubble => { id := bubble.id, ord := bubble.ord, bytes := bubble.bytes }) ++
    retained.filterMap fun id => (state.bubble id).map fun bubble =>
      { id, ord := bubble.ord, bytes := bubble.bytes }

def cappedIds (observed : List EncodedBubble) (retained : List String) : List String :=
  let entries := capEntries state observed retained
  capOldest (entries.map (·.bytes)).sum
    (entries.insertionSort fun one two =>
      codeUnits one.ord < codeUnits two.ord ∨
        (codeUnits one.ord = codeUnits two.ord ∧ codeUnits one.id ≤ codeUnits two.id))

/-- The bubbles that are to be live: written anew or kept. -/
structure Desired where
  observed : List EncodedBubble
  windowRetained : List String
  retained : List String
  capped : List String

def desired : Option Desired :=
  (encodeObserved hashes state [] observation.messages).map fun observed =>
    let all := observed ++ rewrittenArtifacts state observation context observed
    let retained := retainedIds state observation context observed
    { observed := all
      windowRetained := windowRetained state observation context observed
      retained
      capped := cappedIds state all retained }

def bodyPieces (text : String) : Option (List String) :=
  if chatJcsTextBytes text ≤ chatPartMaxJcsBytes then none else some (splitChatBody text)

def headBody (text : String) (partRevs : List Nat) : ChatMsgBody :=
  match bodyPieces text with
  | none => .text text
  | some pieces => .parts pieces.length partRevs

structure Upsert where
  partRows : List ChatRow
  headRows : List ChatRow
  staged : PublishedBubble

def isTorn (id : String) : Bool := (state.tornOf id).isSome

def tornPartsOf (id : String) : List Nat := ((state.tornOf id).map (·.parts)).getD []

def partRevOf (prior : Option PublishedBubble) (rev : Nat) (torn : Bool) (k : Nat)
    (piece : String) : Nat :=
  match prior with
  | some held =>
    if forceAll state = false ∧ torn = false ∧ held.partHashes[k]? = some (hashes.sha1 piece) then
      (held.partRevs[k]?).getD 0
    else rev
  | none => rev

def isPartKept (prior : Option PublishedBubble) (torn : Bool) (k : Nat) (piece : String) : Bool :=
  !forceAll state && !torn && prior.any fun held => held.partHashes[k]? = some (hashes.sha1 piece)

def upsert (frameNo : Nat) (bubble : EncodedBubble) : Option Upsert :=
  let prior := state.bubble bubble.id
  let probe := encodeChatMessageHead bubble.message bubble.id bubble.ord 0 "" 0 (.text "")
  let hash := headChangeKey hashes probe bubble.text
  let torn := isTorn state bubble.id
  if prior.any (·.hash = hash) ∧ forceAll state = false ∧ torn = false then none
  else
    let rev := state.nextRev bubble.id prior
    let pieces := (bodyPieces bubble.text).getD []
    let partRevs := pieces.mapIdx fun k piece => partRevOf hashes state prior rev torn k piece
    let partRows := (pieces.mapIdx fun k piece =>
      if isPartKept hashes state prior torn k piece then none
      else some (ChatRow.part
        {
          id := bubble.id, k, rev, epoch := state.epoch, frame := frameNo, text := piece })).filterMap
          id
    let staleParts := ((List.range ((prior.map (·.partHashes.length)).getD 0) ++
      tornPartsOf state bubble.id).filter fun k => pieces.length ≤ k).eraseDups
    let delRows := staleParts.map fun k => ChatRow.del
      { id := bubble.id, k := some k, rev, epoch := state.epoch, frame := frameNo }
    let body := headBody bubble.text partRevs
    some
      { partRows
        headRows := delRows ++
          [.msg (encodeChatMessageHead bubble.message bubble.id bubble.ord rev state.epoch frameNo
            body)]
        staged :=
          { id := bubble.id
            rev
            hash
            ord := bubble.ord
            partHashes := pieces.map hashes.sha1
            partRevs
            bytes := bubble.bytes } }

def upserts (frameNo : Nat) (wanted : Desired) : List Upsert :=
  (wanted.observed.filter (·.id ∉ wanted.capped)).filterMap (upsert hashes state frameNo)

def tombstone (frameNo : Nat) (id : String) (prior : Option PublishedBubble) : List ChatRow :=
  let rev := state.nextRev id prior
  let parts := (List.range ((prior.map (·.partHashes.length)).getD 0) ++
    tornPartsOf state id).eraseDups
  parts.map (fun k => .del { id, k := some k, rev, epoch := state.epoch, frame := frameNo }) ++
    [.del { id, k := none, rev, epoch := state.epoch, frame := frameNo }]

/-- The live bubbles that are not to be live any more. -/
def removedIds (wanted : Desired) : List String :=
  (state.bubbles.entries.map (·.id)).filter fun id =>
    !((id ∈ wanted.observed.map (·.id) && id ∉ wanted.capped) ||
      (id ∈ wanted.retained && id ∉ wanted.capped))

def tornIds (wanted : Desired) (staged : List PublishedBubble) : List String :=
  (state.torn.map (·.id)).filter fun id =>
    !(id ∈ staged.map (·.id) || id ∈ removedIds state wanted || state.isLive id ||
      (id ∈ wanted.observed.map (·.id) && id ∉ wanted.capped))

def metaProbe (wanted : Desired) : ChatMeta where
  rev := 0
  epoch := ""
  frame := 0
  sessionId := observation.sessionId
  historySessionId :=
    if context.retainMessages then
      ((observation.historySessionId.filter (· ≠ "")).orElse fun _ => state.historySessionId)
    else observation.historySessionId
  producerDaemonId := context.producerDaemonId
  fields := observation.fields
  coverage :=
    { mode :=
        if context.retainMessages then
          (state.coverage.map (·.mode)).getD observation.coverage.mode
        else observation.coverage.mode
      omittedBefore :=
        let omitted := wanted.capped ≠ [] ||
          wanted.windowRetained ≠ [] || observation.coverage.omittedBefore
        if context.retainMessages then (state.coverage.map (·.omittedBefore)).getD omitted
        else omitted }
  ledgerEpoch := observation.ledgerEpoch

def liveAfter (staged : List PublishedBubble) (deleted : List String) : Bubbles :=
  (staged.foldl KeyedMap.set state.bubbles).keepWhere fun bubble => bubble.id ∉ deleted

def baseReasonOf (rewritten : Nat) : Option ChatBaseReason :=
  match state.pendingBase with
  | some reason => some reason
  | none =>
    if state.isLineageSwitch observation then some .lineageSwitch
    else if state.firstFrame ∧ state.restoredNonEmpty ∧ state.bubbles.entries ≠ [] ∧
        state.bubbles.entries.length < 2 * rewritten then
      some .epochStart
    else none

def tombstones (frameNo : Nat) (wanted : Desired) (staged : List PublishedBubble) : List ChatRow :=
  (removedIds state wanted).flatMap (fun id => tombstone state frameNo id (state.bubble id)) ++
    (tornIds state wanted staged).flatMap fun id => tombstone state frameNo id none

def deletions (wanted : Desired) (staged : List PublishedBubble) : List (String × Nat) :=
  (removedIds state wanted).map (fun id => (id, state.nextRev id (state.bubble id))) ++
    (tornIds state wanted staged).map fun id => (id, state.nextRev id none)

def writesMeta (probe : ChatMeta) : Bool :=
  state.metaHash ≠ some (metaChangeKey hashes probe) || forceAll state || state.tornMetaRev.isSome

def nextMetaRev (probe : ChatMeta) : Nat :=
  if writesMeta hashes state probe then max state.metaRev (state.tornMetaRev.getD 0) + 1
  else state.metaRev

def metaRows (frameNo : Nat) (probe : ChatMeta) : List ChatRow :=
  if writesMeta hashes state probe then
    [.metadata { probe with
      rev := nextMetaRev hashes state probe, epoch := state.epoch, frame := frameNo }]
  else []

def livePairs (live : Bubbles) : List (String × Nat) :=
  live.entries.map fun bubble => (bubble.id, bubble.rev)

def frameOf (wanted : Desired) : ChatFrame :=
  let frameNo := state.frameNo + 1
  let writes := upserts hashes state frameNo wanted
  let staged := writes.map (·.staged)
  let deleted := deletions state wanted staged
  let probe := metaProbe state observation context wanted
  let metaRev := nextMetaRev hashes state probe
  let live := livePairs (liveAfter state staged (deleted.map (·.1)))
  { epoch := state.epoch
    frame := frameNo
    rows := writes.flatMap (·.partRows) ++
      (writes.flatMap (·.headRows) ++ tombstones state frameNo wanted staged) ++
        metaRows hashes state frameNo probe
    commit :=
      { sessionId := observation.sessionId
        writer := context.writerId
        producerDaemonId := context.producerDaemonId
        epoch := state.epoch
        frame := frameNo
        observedAt := context.observedAt
        liveCount := live.length
        metaRev
        digest := computeChatCommitDigest hashes live metaRev
        baseReason := baseReasonOf state observation
          (staged.countP fun bubble => state.isLive bubble.id) }
    staging :=
      { staged
        stagedArtifacts := (wanted.observed.filter fun bubble =>
          bubble.id ∉ wanted.capped && isArtifact bubble.id).map fun bubble =>
            { bubble.message with messageId := bubble.id, ord := bubble.ord }
        deleted
        metaRev
        metaHash := metaChangeKey hashes probe
        historySessionId := observation.historySessionId.orElse fun _ => state.historySessionId
        metaCandidate := some
          { providerType := probe.fields.providerType
            status := probe.fields.status
            title := probe.fields.title
            historySessionId := probe.historySessionId } } }

def build : BuildResult :=
  if context.retainMessages ∧ forceAll state then .unchanged
  else
    match desired hashes state observation context with
    | none => .unidentified
    | some wanted =>
      let frame := frameOf hashes state observation context wanted
      if frame.rows = [] then .unchanged else .frame frame

/-! ## Artifact frames -/

/-- The attachment is as `readChatAttachment` gives it, its title cut to the bound. -/
structure ChatArtifactInput where
  attachment : Option ChatAttachment
  titleFits : ∀ read ∈ attachment, read.title.length ≤ chatMetaLabelMax
  providerType : Option String
  status : Option String
  title : Option (Option String)
  historySessionId : Option (Option String)
  forceUpsert : Bool

def artifactId (attachment : ChatAttachment) : String := "artifact:" ++ attachment.artifactId

def artifactMessageOf (attachment : ChatAttachment) (ord : String) : TranscriptMessage where
  messageId := artifactId attachment
  ord := ord
  srcId := none
  content := attachment.title
  shown :=
    { role := "system"
      kind := "artifact"
      turnKey := none
      bubbleState := some "final"
      streaming := none
      senderName := none
      toolName := none
      attachment := some attachment
      receivedAt := attachment.createdAt
      timestamp := attachment.updatedAt
      expandable := false }
  carried := { sourceMessageId := none, runtimeInputAck := false, outgoingReceipt := none }

def needsMeta : Bool := state.metaHash.isNone || state.tornMetaRev.isSome

def artifactMetaCandidate (input : ChatArtifactInput) : MetaCandidate where
  providerType :=
    (input.providerType.orElse fun _ => state.lastMetaCandidate.map (·.providerType)).getD "unknown"
  status := (input.status.orElse fun _ => state.lastMetaCandidate.map (·.status)).getD "running"
  title := input.title.getD (state.lastMetaCandidate.bind (·.title))
  historySessionId := input.historySessionId.getD
    ((state.lastMetaCandidate.bind (·.historySessionId)).orElse fun _ => state.historySessionId)

def artifactMetaProbe (candidate : MetaCandidate) : ChatMeta where
  rev := 0
  epoch := ""
  frame := 0
  sessionId := state.sessionId
  historySessionId := candidate.historySessionId
  producerDaemonId := context.producerDaemonId
  fields :=
    { providerType := candidate.providerType
      status := candidate.status
      title := candidate.title
      details := "" }
  coverage := state.coverage.getD { mode := "full", omittedBefore := false }
  ledgerEpoch := ""

def artifactFrame (input : ChatArtifactInput) (message : TranscriptMessage) (hash : String) :
    ChatFrame :=
  let frameNo := state.frameNo + 1
  let rev := state.nextRev message.messageId (state.bubble message.messageId)
  let head := encodeChatMessageHead message message.messageId message.ord rev state.epoch frameNo
    (.text message.content)
  let candidate := artifactMetaCandidate state input
  let probe := artifactMetaProbe state context candidate
  let metaRev :=
    if needsMeta state then max state.metaRev (state.tornMetaRev.getD 0) + 1 else state.metaRev
  let staged : PublishedBubble :=
    { id := message.messageId
      rev
      hash
      ord := message.ord
      partHashes := []
      partRevs := []
      bytes := message.content.utf8ByteSize + headOverheadBytes }
  let live := livePairs (state.bubbles.set staged)
  { epoch := state.epoch
    frame := frameNo
    rows := .msg head :: if needsMeta state then
      [.metadata { probe with rev := metaRev, epoch := state.epoch, frame := frameNo }] else []
    commit :=
      { sessionId := state.sessionId
        writer := context.writerId
        producerDaemonId := context.producerDaemonId
        epoch := state.epoch
        frame := frameNo
        observedAt := context.observedAt
        liveCount := live.length
        metaRev
        digest := computeChatCommitDigest hashes live metaRev
        baseReason := none }
    staging :=
      { staged := [staged]
        stagedArtifacts := [message]
        deleted := []
        metaRev
        metaHash := if needsMeta state then metaChangeKey hashes probe else state.metaHash.getD ""
        historySessionId :=
          if needsMeta state then candidate.historySessionId.orElse fun _ => state.historySessionId
          else (state.lastMetaCandidate.bind (·.historySessionId)).orElse fun _ =>
            state.historySessionId
        metaCandidate := if needsMeta state then some candidate else state.lastMetaCandidate } }

def buildArtifactFrame (input : ChatArtifactInput) : BuildResult :=
  match input.attachment with
  | none => .unidentified
  | some attachment =>
    let prior := state.bubble (artifactId attachment)
    let ord := (prior.map (·.ord)).getD (nextArtifactOrd hashes state [])
    let message := artifactMessageOf attachment ord
    let probe := encodeChatMessageHead message message.messageId ord 0 "" 0 (.text "")
    let hash := headChangeKey hashes probe message.content
    if prior.any (·.hash = hash) ∧ isTorn state message.messageId = false ∧
        input.forceUpsert = false ∧ needsMeta state = false then .unchanged
    else .frame (artifactFrame hashes state context input message hash)

end Frames

/-! ## Committing a frame -/

def ChatFrame.coverage (frame : ChatFrame) : Option ChatCoverage :=
  (frame.rows.filterMap fun row =>
    match row with
    | .metadata metadata => some metadata.coverage
    | _ => none).head?

def commit (state : SessionState) (frame : ChatFrame) : SessionState :=
  let staging := frame.staging
  if frame.frame = state.frameNo + 1 then
    let staged : SessionState :=
      { state with
        bubbles := liveAfter state staging.staged (staging.deleted.map (·.1))
        artifactMessages := (staging.stagedArtifacts.foldl KeyedMap.set
          state.artifactMessages).keepWhere
          fun message => message.messageId ∉ staging.deleted.map (·.1)
        deletedRevs := state.deletedRevs.filter (·.1 ∉ staging.staged.map (·.id))
        metaRev := staging.metaRev
        metaHash := some staging.metaHash
        lastMetaCandidate := staging.metaCandidate.orElse fun _ => state.lastMetaCandidate
        coverage := frame.coverage.orElse fun _ => state.coverage
        historySessionId := staging.historySessionId
        frameNo := frame.frame
        torn := []
        tornMetaRev := none
        pendingBase := none
        firstFrame := false }
    staging.deleted.foldl (fun state (id, rev) => state.rememberDeleted id rev) staged
  else state

end Adhdev.KeyedTranscript
