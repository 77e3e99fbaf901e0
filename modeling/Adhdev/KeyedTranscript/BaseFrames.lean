import Adhdev.KeyedTranscript.ArtifactMessages
import Adhdev.KeyedTranscript.Folder

/-! # Base frames

Whether a frame for a changed writer or for a resync holds every live bubble.
-/

namespace Adhdev.KeyedTranscript

open List

variable {hashes : ChatHashes} {state : SessionState} {observation : TranscriptObservation}
  {context : BuildContext}

/-- The frame has the head and the parts of every bubble that it leaves live, and a reader of
another writer's frames takes it. -/
def SelfContained (hashes : ChatHashes) (state : SessionState) (frame : ChatFrame) : Prop :=
  (∀ bubble ∈ (commit state frame).bubbles, ∃ head, .msg head ∈ frame.rows ∧
    (head.id, head.rev) = (bubble.id, bubble.rev) ∧
    ∀ k < head.body.partCount, ∃ part, .part part ∈ frame.rows ∧
      partKey part = (head.id, k) ∧ head.body.partRevs[k]? = some part.rev) ∧
  ∀ reader : CommittedState, reader.writerChanged frame.commit = true →
    ∃ next, reader.ingestCommit hashes frame.rows frame.commit = .ok next

/-- The live bubbles that the observation names without showing them are beyond the live cap. -/
def OmittedAreCapped (hashes : ChatHashes) (state : SessionState)
    (observation : TranscriptObservation) (context : BuildContext) : Prop :=
  startsOver state observation context = false →
    ∀ wanted, desired hashes state observation context = some wanted →
      ∀ id ∈ observation.retainedMessageIds, state.isLive id = true → isArtifact id = false →
        id ∉ observation.messages.map (·.messageId) → id ∈ wanted.capped

/-! ## Observed bubbles -/

variable {messages : List TranscriptMessage} {all : List EncodedBubble}

theorem encodeObserved_ids {observed : List EncodedBubble}
    (encoded : encodeObserved hashes state observed messages = some all) (id : String) :
    id ∈ all.map (·.id) ↔ id ∈ observed.map (·.id) ∨ id ∈ messages.map (·.messageId) := by
  induction messages generalizing observed with
  | nil =>
    rw [encodeObserved, Option.some.injEq] at encoded
    simp [encoded]
  | cons message messages induction =>
    rw [encodeObserved] at encoded
    split at encoded
    · cases encoded
    split at encoded
    · rename_i seen
      rw [induction encoded, map_cons, mem_cons]
      constructor
      · rintro (before | later)
        · exact .inl before
        · exact .inr (.inr later)
      rintro (before | rfl | later)
      · exact .inl before
      · exact .inl seen
      · exact .inr later
    rw [induction encoded, map_append, mem_append, map_singleton,
      mem_singleton, map_cons, mem_cons, or_assoc]
    rfl

theorem encodeObserved_nodup {observed : List EncodedBubble} (once : (observed.map (·.id)).Nodup)
    (encoded : encodeObserved hashes state observed messages = some all) :
    (all.map (·.id)).Nodup := by
  induction messages generalizing observed with
  | nil =>
    rw [encodeObserved, Option.some.injEq] at encoded
    exact encoded ▸ once
  | cons message messages induction =>
    rw [encodeObserved] at encoded
    split at encoded
    · cases encoded
    split at encoded
    · exact induction once encoded
    rename_i unseen
    refine induction ?_ encoded
    rw [map_append, map_singleton]
    exact nodup_append.mpr ⟨once, nodup_singleton _, by
      intro left before right added equal
      rw [mem_singleton] at added
      rw [equal, added] at before
      exact unseen before⟩

theorem mem_rewrittenArtifacts {observed : List EncodedBubble} {bubble : EncodedBubble}
    (member : bubble ∈ rewrittenArtifacts state observation context observed) :
    isArtifact bubble.id = true ∧ bubble.id ∉ observed.map (·.id) := by
  rw [rewrittenArtifacts] at member
  split at member
  · cases member
  obtain ⟨held, -, made⟩ := mem_filterMap.mp member
  split at made
  · rename_i artifact
    obtain ⟨message, -, rfl⟩ := Option.map_eq_some_iff.mp made
    exact artifact
  · cases made

theorem rewrittenArtifacts_nodup (observed : List EncodedBubble) :
    ((rewrittenArtifacts state observation context observed).map (·.id)).Nodup := by
  rw [rewrittenArtifacts]
  split
  · exact nodup_nil
  refine List.Nodup.sublist ?_ state.bubbles.nodup
  induction state.bubbles.entries with
  | nil => exact .slnil
  | cons bubble bubbles induction =>
    rw [filterMap_cons, map_cons]
    split
    · exact induction.cons _
    rename_i made
    split at made
    · obtain ⟨message, -, rfl⟩ := Option.map_eq_some_iff.mp made
      exact induction.cons_cons _
    · cases made

section Wanted

variable {wanted : Desired}

section

variable (found : desired hashes state observation context = some wanted)
include found

theorem desired_parts : ∃ observed, encodeObserved hashes state [] observation.messages = some
    observed ∧ wanted.observed = observed ++ rewrittenArtifacts state observation context observed
    ∧ wanted.retained = retainedIds state observation context observed := by
  obtain ⟨observed, encoded, rfl⟩ := Option.map_eq_some_iff.mp found
  exact ⟨observed, encoded, rfl, rfl⟩

theorem desired_nodup : (wanted.observed.map (·.id)).Nodup := by
  obtain ⟨observed, encoded, all, -⟩ := desired_parts found
  rw [all, map_append]
  refine nodup_append.mpr
    ⟨encodeObserved_nodup (show (([] : List EncodedBubble).map (·.id)).Nodup from nodup_nil)
      encoded, rewrittenArtifacts_nodup observed, ?_⟩
  intro left before right added equal
  obtain ⟨bubble, member, rfl⟩ := mem_map.mp added
  exact (mem_rewrittenArtifacts member).2 (equal ▸ before)

end

end Wanted

/-! ## What a full rewrite writes -/

def piecesOf (bubble : EncodedBubble) : List String := (bodyPieces bubble.text).getD []

structure WrittenWhole (state : SessionState) (frameNo : Nat) (bubble : EncodedBubble)
    (up : Upsert) (head : ChatMsg) : Prop where
  key : (head.id, head.rev) = (up.staged.id, up.staged.rev)
  partCount : head.body.partCount = (piecesOf bubble).length
  partRevs : ∀ k < (piecesOf bubble).length, head.body.partRevs[k]? = some head.rev
  parts : ∀ row, row ∈ up.partRows ↔ ∃ k piece, (piecesOf bubble)[k]? = some piece ∧
    row = .part { id := bubble.id, k, rev := head.rev, epoch := state.epoch, frame := frameNo,
                  text := piece }
  headRow : .msg head ∈ up.headRows
  headRows : ∀ row ∈ up.headRows, row = .msg head ∨ ∃ del k, row = .del del ∧ del.id = bubble.id ∧
    del.k = some k ∧ (piecesOf bubble).length ≤ k

theorem upsert_forced (hashes : ChatHashes) (forced : forceAll state = true) (frameNo : Nat)
    (bubble : EncodedBubble) : ∃ up head, upsert hashes state frameNo bubble = some up ∧
      WrittenWhole state frameNo bubble up head := by
  have rewrites : ¬((state.bubble bubble.id).any (·.hash = headChangeKey hashes
      (encodeChatMessageHead bubble.message bubble.id bubble.ord 0 "" 0 (.text "")) bubble.text) ∧
      forceAll state = false ∧ isTorn state bubble.id = false) := by
    rintro ⟨-, unforced, -⟩
    simp [forced] at unforced
  have newRev : ∀ k piece, partRevOf hashes state (state.bubble bubble.id)
      (state.nextRev bubble.id (state.bubble bubble.id)) (isTorn state bubble.id) k piece =
        state.nextRev bubble.id (state.bubble bubble.id) := by
    intro k piece
    unfold partRevOf
    cases state.bubble bubble.id with
    | none => rfl
    | some held => simp [forced]
  refine ⟨_, encodeChatMessageHead bubble.message bubble.id bubble.ord
    (state.nextRev bubble.id (state.bubble bubble.id)) state.epoch frameNo
    (headBody bubble.text ((piecesOf bubble).mapIdx fun k piece =>
      partRevOf hashes state (state.bubble bubble.id)
        (state.nextRev bubble.id (state.bubble bubble.id)) (isTorn state bubble.id) k piece)),
    if_neg rewrites, ?_⟩
  constructor
  · rfl
  · rw [encodeChatMessageHead, headBody, piecesOf]
    cases bodyPieces bubble.text <;> rfl
  · intro k small
    rw [encodeChatMessageHead, headBody]
    rw [piecesOf] at small ⊢
    cases long : bodyPieces bubble.text with
    | none => simp [long] at small
    | some pieces =>
      simp only [long, Option.getD_some] at small ⊢
      simp [ChatMsgBody.partRevs, newRev, small]
  · intro row
    constructor
    · intro member
      obtain ⟨made, inside, same⟩ := mem_filterMap.mp member
      obtain ⟨k, small, rfl⟩ := mem_mapIdx.mp inside
      refine ⟨k, _, getElem?_eq_getElem small, ?_⟩
      simpa [isPartKept, forced, eq_comm, encodeChatMessageHead] using same
    rintro ⟨k, piece, found, rfl⟩
    obtain ⟨small, rfl⟩ := List.getElem?_eq_some_iff.mp found
    refine mem_filterMap.mpr ⟨_, mem_mapIdx.mpr ⟨k, small, rfl⟩, ?_⟩
    simp only [isPartKept, forced, Bool.not_true, Bool.false_and, Bool.false_eq_true, if_false]
    rfl
  · exact mem_append_right _ mem_cons_self
  intro row member
  rcases mem_append.mp member with stale | isHead
  · right
    obtain ⟨k, beyond, rfl⟩ := mem_map.mp stale
    have filtered := mem_filter.mp (mem_eraseDups.mp beyond)
    exact ⟨_, k, rfl, rfl, rfl, by simpa [piecesOf] using filtered.2⟩
  · exact .inl (mem_singleton.mp isHead)

section Forced

variable {wanted : Desired}

abbrev writes (hashes : ChatHashes) (state : SessionState) (wanted : Desired) : List Upsert :=
  upserts hashes state (state.frameNo + 1) wanted

abbrev stagedBubbles (hashes : ChatHashes) (state : SessionState) (wanted : Desired) :
    List PublishedBubble :=
  (writes hashes state wanted).map (·.staged)

abbrev frameRows (hashes : ChatHashes) (state : SessionState) (observation : TranscriptObservation)
    (context : BuildContext) (wanted : Desired) : List ChatRow :=
  (frameOf hashes state observation context wanted).rows

theorem mem_writes (forced : forceAll state = true) {up : Upsert}
    (member : up ∈ writes hashes state wanted) :
    ∃ bubble ∈ wanted.observed, bubble.id ∉ wanted.capped ∧ up.staged.id = bubble.id ∧
      ∃ head, WrittenWhole state (state.frameNo + 1) bubble up head ∧
        upsert hashes state (state.frameNo + 1) bubble = some up := by
  obtain ⟨bubble, observed, uncapped, made⟩ := mem_upserts member
  obtain ⟨other, head, written, whole⟩ := upsert_forced hashes forced (state.frameNo + 1) bubble
  obtain rfl := Option.mem_unique written made
  exact ⟨bubble, observed, uncapped, upsert_id made, head, whole, made⟩

theorem exists_write (hashes : ChatHashes) (forced : forceAll state = true) {bubble : EncodedBubble}
    (observed : bubble ∈ wanted.observed) (uncapped : bubble.id ∉ wanted.capped) :
    ∃ up ∈ writes hashes state wanted, up.staged.id = bubble.id := by
  obtain ⟨up, head, written, -⟩ := upsert_forced hashes forced (state.frameNo + 1) bubble
  refine ⟨up, mem_filterMap.mpr ⟨bubble, mem_filter.mpr ⟨observed, ?_⟩, written⟩, upsert_id written⟩
  simpa using uncapped

variable {row : ChatRow}

theorem mem_frameRows : row ∈ frameRows hashes state observation context wanted ↔
      (∃ up ∈ writes hashes state wanted, row ∈ up.partRows ∨ row ∈ up.headRows) ∨
      row ∈ tombstones state (state.frameNo + 1) wanted (stagedBubbles hashes state wanted) ∨
      row ∈ metaRows hashes state (state.frameNo + 1)
        (metaProbe state observation context wanted) := by
  rw [frameRows, frameOf]
  simp only [mem_append, mem_flatMap]
  constructor
  · rintro ((⟨up, member, inParts⟩ | ⟨up, member, inHeads⟩ | dead) | inMeta)
    · exact .inl ⟨up, member, .inl inParts⟩
    · exact .inl ⟨up, member, .inr inHeads⟩
    · exact .inr (.inl dead)
    · exact .inr (.inr inMeta)
  rintro (⟨up, member, inParts | inHeads⟩ | dead | inMeta)
  · exact .inl (.inl ⟨up, member, inParts⟩)
  · exact .inl (.inr (.inl ⟨up, member, inHeads⟩))
  · exact .inl (.inr (.inr dead))
  · exact .inr inMeta

variable {frameNo : Nat}

theorem tombstone_del {id : String} {prior : Option PublishedBubble}
    (member : row ∈ tombstone state frameNo id prior) : ∃ del, row = .del del ∧ del.id = id := by
  rcases mem_append.mp member with part | whole
  · obtain ⟨k, -, rfl⟩ := mem_map.mp part
    exact ⟨_, rfl, rfl⟩
  · exact ⟨_, mem_singleton.mp whole, rfl⟩

theorem deletions_ids (wanted : Desired) (staged : List PublishedBubble) :
    (deletions state wanted staged).map (·.1) =
      removedIds state wanted ++ tornIds state wanted staged := by
  simp [deletions, Function.comp_def]

theorem tombstones_del {staged : List PublishedBubble}
    (member : row ∈ tombstones state frameNo wanted staged) :
    ∃ del, row = .del del ∧ del.id ∈ (deletions state wanted staged).map (·.1) := by
  rw [deletions_ids]
  rcases mem_append.mp member with removed | torn
  · obtain ⟨id, inside, dead⟩ := mem_flatMap.mp removed
    obtain ⟨del, rfl, rfl⟩ := tombstone_del dead
    exact ⟨del, rfl, mem_append_left _ inside⟩
  obtain ⟨id, inside, dead⟩ := mem_flatMap.mp torn
  obtain ⟨del, rfl, rfl⟩ := tombstone_del dead
  exact ⟨del, rfl, mem_append_right _ inside⟩

theorem metaRows_forced (hashes : ChatHashes) (forced : forceAll state = true) (frameNo : Nat)
    (probe : ChatMeta) : ∃ metadata, metaRows hashes state frameNo probe = [.metadata metadata] ∧
      metadata.rev = nextMetaRev hashes state probe := by
  have written : writesMeta hashes state probe = true := by simp [writesMeta, forced]
  rw [metaRows, if_pos written]
  exact ⟨_, rfl, rfl⟩

section

variable (forced : forceAll state = true)
include forced

theorem staged_not_deleted {id : String} (staged : id ∈ (stagedBubbles hashes state wanted).map
      (·.id)) : id ∉ (deletions state wanted (stagedBubbles hashes state wanted)).map (·.1) := by
  intro deleted
  obtain ⟨bubble, inside, rfl⟩ := mem_map.mp staged
  obtain ⟨up, member, rfl⟩ := mem_map.mp inside
  obtain ⟨source, observed, uncapped, same, -⟩ := mem_writes forced member
  rw [deletions_ids] at deleted
  rcases mem_append.mp deleted with removed | torn
  · have gone := (mem_filter.mp removed).2
    have seen : up.staged.id ∈ wanted.observed.map (·.id) := same ▸ mem_map_of_mem observed
    rw [same] at gone seen
    simp [seen, uncapped] at gone
  have gone := (mem_filter.mp torn).2
  simp only [Bool.not_eq_true', Bool.or_eq_false_iff, decide_eq_false_iff_not] at gone
  exact gone.1.1.1 staged

theorem head_mem_frameRows {head : ChatMsg} (member : .msg head ∈ frameRows hashes state
      observation context wanted) : ∃ up ∈ writes hashes state wanted, ∃ bubble ∈ wanted.observed,
    bubble.id ∉ wanted.capped ∧ up.staged.id = bubble.id ∧ WrittenWhole state (state.frameNo + 1)
    bubble up head ∧ upsert hashes state (state.frameNo + 1) bubble = some up := by
  rcases mem_frameRows.mp member with ⟨up, written, inRows⟩ | dead | inMeta
  · obtain ⟨bubble, observed, uncapped, same, whole, isWhole, made⟩ := mem_writes forced written
    rcases inRows with inParts | inHeads
    · obtain ⟨k, piece, -, isPart⟩ := (isWhole.parts _).mp inParts
      cases isPart
    rcases isWhole.headRows _ inHeads with isHead | ⟨del, k, isDel, -⟩
    · cases isHead
      exact ⟨up, written, bubble, observed, uncapped, same, isWhole, made⟩
    · cases isDel
  · obtain ⟨del, isDel, -⟩ := tombstones_del dead
    cases isDel
  obtain ⟨metadata, rows, -⟩ := metaRows_forced hashes forced (state.frameNo + 1)
    (metaProbe state observation context wanted)
  rw [rows] at inMeta
  cases mem_singleton.mp inMeta

theorem part_mem_frameRows {part : ChatPart} (member : .part part ∈ frameRows hashes state
      observation context wanted) : ∃ bubble ∈ wanted.observed, ∃ up head, upsert hashes state
    (state.frameNo + 1) bubble = some up ∧ WrittenWhole state (state.frameNo + 1) bubble up head ∧
    part.id = bubble.id ∧ .part part ∈ up.partRows := by
  rcases mem_frameRows.mp member with ⟨up, written, inRows⟩ | dead | inMeta
  · obtain ⟨bubble, observed, -, -, head, isWhole, made⟩ := mem_writes forced written
    rcases inRows with inParts | inHeads
    · obtain ⟨k, piece, -, isPart⟩ := (isWhole.parts _).mp inParts
      refine ⟨bubble, observed, up, head, made, isWhole, ?_, inParts⟩
      cases isPart
      rfl
    rcases isWhole.headRows _ inHeads with isHead | ⟨del, k, isDel, -⟩
    · cases isHead
    · cases isDel
  · obtain ⟨del, isDel, -⟩ := tombstones_del dead
    cases isDel
  obtain ⟨metadata, rows, -⟩ := metaRows_forced hashes forced (state.frameNo + 1)
    (metaProbe state observation context wanted)
  rw [rows] at inMeta
  cases mem_singleton.mp inMeta

end

theorem bubble_eq (once : (wanted.observed.map (·.id)).Nodup) {one two : EncodedBubble}
    (first : one ∈ wanted.observed) (second : two ∈ wanted.observed) (same : one.id = two.id) :
    one = two :=
  inj_on_of_nodup_map once first second same

theorem head_eq {bubble : EncodedBubble} {up : Upsert} {one two : ChatMsg}
    (first : WrittenWhole state frameNo bubble up one)
    (second : WrittenWhole state frameNo bubble up two) : one = two := by
  rcases second.headRows _ first.headRow with same | ⟨del, k, isDel, -⟩
  · cases same
    rfl
  · cases isDel

theorem mem_live (forced : forceAll state = true) (once : (wanted.observed.map (·.id)).Nodup)
    (noneStays : ∀ bubble ∈ state.bubbles,
      bubble.id ∉ (stagedBubbles hashes state wanted).map (·.id) →
      bubble.id ∈ (deletions state wanted (stagedBubbles hashes state wanted)).map (·.1))
    (bubble : PublishedBubble) : bubble ∈ liveAfter state (stagedBubbles hashes state wanted)
        ((deletions state wanted (stagedBubbles hashes state wanted)).map (·.1)) ↔
      bubble ∈ stagedBubbles hashes state wanted := by
  have distinct : ((stagedBubbles hashes state wanted).map (·.id)).Nodup := by
    have sources : ∀ (bubbles : List EncodedBubble), (bubbles.map (·.id)).Nodup →
        (((bubbles.filterMap (upsert hashes state (state.frameNo + 1))).map (·.staged)).map
          (·.id)).Nodup := by
      intro bubbles nodup
      refine List.Nodup.sublist ?_ nodup
      clear nodup
      induction bubbles with
      | nil => exact .slnil
      | cons bubble bubbles induction =>
        rw [filterMap_cons]
        split
        · exact induction.cons _
        rename_i up made
        rw [map_cons, map_cons, map_cons, upsert_id made]
        exact induction.cons_cons _
    exact sources _ (once.sublist (filter_sublist.map _))
  rw [liveAfter, KeyedMap.mem_keepWhere, KeyedMap.mem_foldl_set distinct]
  constructor
  · rintro ⟨written | ⟨before, unwritten⟩, kept⟩
    · exact written
    · exact absurd (noneStays bubble before unwritten) (by simpa using kept)
  intro written
  refine ⟨.inl written, ?_⟩
  simpa using staged_not_deleted forced (mem_map_of_mem written)

theorem holdsLive (hashes : ChatHashes) (observation : TranscriptObservation)
    (context : BuildContext) (forced : forceAll state = true)
    (once : (wanted.observed.map (·.id)).Nodup)
    (noneStays : ∀ bubble ∈ state.bubbles,
      bubble.id ∉ (stagedBubbles hashes state wanted).map (·.id) →
      bubble.id ∈ (deletions state wanted (stagedBubbles hashes state wanted)).map (·.1)) :
    HoldsLive hashes (frameRows hashes state observation context wanted)
      (frameOf hashes state observation context wanted).commit
      (livePairs (liveAfter state (stagedBubbles hashes state wanted)
        ((deletions state wanted (stagedBubbles hashes state wanted)).map (·.1)))) where
  headOnce := by
    intro head other member inside same
    obtain ⟨up, -, bubble, observed, -, upId, whole, made⟩ := head_mem_frameRows forced member
    obtain ⟨next, -, source, seen, -, nextId, isWhole, built⟩ := head_mem_frameRows forced inside
    have keys := (Prod.mk.inj whole.key).1
    have otherKeys := (Prod.mk.inj isWhole.key).1
    obtain rfl : bubble = source := bubble_eq once observed seen
      (by rw [← upId, ← keys, ← same, otherKeys, nextId])
    obtain rfl := Option.mem_unique made built
    exact head_eq isWhole whole
  keepsHeads := by
    intro head del member inside same
    obtain ⟨up, written, bubble, observed, -, upId, whole, made⟩ := head_mem_frameRows forced member
    have headId : head.id = bubble.id := (Prod.mk.inj whole.key).1.trans upId
    rcases mem_frameRows.mp inside with ⟨next, nextWritten, inRows⟩ | dead | inMeta
    · obtain ⟨source, seen, -, -, other, isWhole, built⟩ := mem_writes forced nextWritten
      rcases inRows with inParts | inHeads
      · obtain ⟨k, piece, -, isPart⟩ := (isWhole.parts _).mp inParts
        cases isPart
      rcases isWhole.headRows _ inHeads with isHead | ⟨found, k, isDel, id, isPart, beyond⟩
      · cases isHead
      cases isDel
      obtain rfl : bubble = source := bubble_eq once observed seen (by rw [← headId, ← same, id])
      exact ⟨k, isPart, whole.partCount ▸ beyond⟩
    · obtain ⟨found, isDel, deleted⟩ := tombstones_del dead
      cases isDel
      have staged : up.staged.id ∈ (stagedBubbles hashes state wanted).map (·.id) :=
        mem_map_of_mem (mem_map_of_mem written)
      rw [same, (Prod.mk.inj whole.key).1] at deleted
      exact absurd deleted (staged_not_deleted forced staged)
    obtain ⟨metadata, rows, -⟩ := metaRows_forced hashes forced (state.frameNo + 1)
      (metaProbe state observation context wanted)
    rw [rows] at inMeta
    cases mem_singleton.mp inMeta
  wholeBodies := by
    intro head member k small
    obtain ⟨up, written, bubble, -, -, upId, whole, -⟩ := head_mem_frameRows forced member
    rw [whole.partCount] at small
    refine ⟨_, mem_frameRows.mpr (.inl ⟨up, written, .inl ((whole.parts _).mpr
      ⟨k, _, getElem?_eq_getElem small, rfl⟩)⟩), ?_, whole.partRevs k small⟩
    rw [partKey, (Prod.mk.inj whole.key).1, upId]
  partOnce := by
    intro part other member inside same
    obtain ⟨bubble, observed, up, head, made, whole, id, inParts⟩ :=
      part_mem_frameRows forced member
    obtain ⟨source, seen, next, found, built, isWhole, otherId, inOthers⟩ :=
      part_mem_frameRows forced inside
    obtain ⟨sameId, sameK⟩ := Prod.mk.inj same
    obtain rfl : bubble = source := bubble_eq once observed seen (by rw [← id, ← sameId, otherId])
    obtain rfl := Option.mem_unique made built
    obtain ⟨k, piece, atK, isPart⟩ := (whole.parts _).mp inParts
    obtain ⟨j, text, atJ, isOther⟩ := (whole.parts _).mp inOthers
    cases isPart
    cases isOther
    obtain rfl : j = k := sameK
    obtain rfl := Option.mem_unique atJ atK
    rfl
  metaRow := by
    obtain ⟨metadata, rows, rev⟩ := metaRows_forced hashes forced (state.frameNo + 1)
      (metaProbe state observation context wanted)
    exact ⟨metadata, mem_frameRows.mpr (.inr (.inr (rows ▸ .head _))), rev⟩
  metaOnce := by
    intro metadata other member inside
    obtain ⟨written, rows, -⟩ := metaRows_forced hashes forced (state.frameNo + 1)
      (metaProbe state observation context wanted)
    have only : ∀ found, .metadata found ∈ frameRows hashes state observation context wanted →
        found = written := by
      intro found inRows
      rcases mem_frameRows.mp inRows with ⟨up, made, inUp⟩ | dead | inMeta
      · obtain ⟨bubble, -, -, -, head, whole, -⟩ := mem_writes forced made
        rcases inUp with inParts | inHeads
        · obtain ⟨k, piece, -, isPart⟩ := (whole.parts _).mp inParts
          cases isPart
        rcases whole.headRows _ inHeads with isHead | ⟨del, k, isDel, -⟩
        · cases isHead
        · cases isDel
      · obtain ⟨del, isDel, -⟩ := tombstones_del dead
        cases isDel
      rw [rows] at inMeta
      cases mem_singleton.mp inMeta
      rfl
    rw [only other inside, only metadata member]
  liveOnce := by
    rw [livePairs, map_map]
    exact (liveAfter state _ _).nodup
  liveIff := by
    intro pair
    constructor
    · intro member
      obtain ⟨bubble, inside, rfl⟩ := mem_map.mp member
      obtain ⟨up, written, rfl⟩ := mem_map.mp ((mem_live forced once noneStays bubble).mp inside)
      obtain ⟨_, _, _, _, head, whole, _⟩ := mem_writes forced written
      exact ⟨head, mem_frameRows.mpr (.inl ⟨up, written, .inr whole.headRow⟩), whole.key⟩
    rintro ⟨head, member, rfl⟩
    obtain ⟨up, written, _, _, _, _, whole, _⟩ := head_mem_frameRows forced member
    rw [whole.key]
    exact mem_map.mpr ⟨up.staged, (mem_live forced once noneStays _).mpr
      (mem_map_of_mem written), rfl⟩
  count := rfl
  digest := rfl

end Forced

/-! ## Which bubbles stay without being written -/

variable {id : String} {wanted : Desired}

theorem isLive_iff : state.isLive id = true ↔ ∃ bubble ∈ state.bubbles, bubble.id = id := by
  simp [SessionState.isLive, KeyedMap.mem_def]

theorem mem_retained {observed : List EncodedBubble} (held : ArtifactsHeld state)
    (forced : forceAll state = true) (plain : context.retainMessages = false)
    (retained : id ∈ retainedIds state observation context observed) :
    startsOver state observation context = false ∧
      id ∈ windowRetained state observation context observed := by
  rw [retainedIds] at retained
  split at retained
  · cases retained
  rename_i unswitched
  have goesOn : startsOver state observation context = false := by simpa using unswitched
  refine ⟨goesOn, ?_⟩
  simp only [plain, Bool.false_eq_true, if_false, nil_append] at retained
  rcases mem_append.mp (mem_eraseDups.mp retained) with window | artifact
  · exact window
  have filtered := mem_filter.mp artifact
  have isKept := filtered.2
  simp only [forced, Bool.true_and, Bool.and_eq_true, Bool.not_eq_true',
    Option.isSome_eq_false_iff] at isKept
  obtain ⟨message, inside, same⟩ := mem_map.mp (held id filtered.1 isKept.1.1)
  have absent := find?_eq_none.mp (Option.isNone_iff_eq_none.mp isKept.2) message inside
  simp [same] at absent

variable {bubble : PublishedBubble}

theorem exists_rewritten {observed : List EncodedBubble} (held : ArtifactsHeld state)
    (forced : forceAll state = true) (goesOn : startsOver state observation context = false)
    (present : bubble ∈ state.bubbles) (artifact : isArtifact bubble.id = true)
    (unseen : bubble.id ∉ observed.map (·.id)) :
    ∃ source ∈ rewrittenArtifacts state observation context observed, source.id = bubble.id := by
  obtain ⟨message, inside, same⟩ := mem_map.mp (held bubble.id (mem_map_of_mem present) artifact)
  have hasMessage : (state.artifactMessage bubble.id).isSome = true := by
    rw [SessionState.artifactMessage, find?_isSome]
    exact ⟨message, inside, decide_eq_true same⟩
  obtain ⟨kept, isMessage⟩ := Option.isSome_iff_exists.mp hasMessage
  refine ⟨encodeText kept bubble.id bubble.ord, ?_, rfl⟩
  have goes : ¬(startsOver state observation context = true ∨ forceAll state = false) := by
    rw [goesOn, forced]
    simp
  rw [rewrittenArtifacts, if_neg goes]
  refine mem_filterMap.mpr ⟨bubble, present, ?_⟩
  rw [if_pos ⟨artifact, unseen⟩, isMessage]
  rfl

theorem mem_foldl_set_of_absent {staged : List PublishedBubble} {map : Bubbles}
    (present : bubble ∈ map) (absent : bubble.id ∉ staged.map (·.id)) :
    bubble ∈ staged.foldl KeyedMap.set map := by
  induction staged generalizing map with
  | nil => exact present
  | cons next staged induction =>
    rw [map_cons, mem_cons, not_or] at absent
    exact induction (KeyedMap.mem_set.mpr (.inr ⟨present, absent.1⟩)) absent.2

theorem forceAll_of_base {rewritten : Nat}
    (isBase : baseReasonOf state observation rewritten = some .writerChange ∨
      baseReasonOf state observation rewritten = some .resyncRequest) :
    forceAll state = true := by
  rw [baseReasonOf] at isBase
  cases pending : state.pendingBase with
  | some reason =>
    simp only [pending, Option.some.injEq] at isBase
    rcases isBase with rfl | rfl <;> simp [forceAll, pending]
  | none =>
    simp only [pending] at isBase
    split at isBase
    · simp at isBase
    · split at isBase <;> simp at isBase

theorem omitted_not_written (hashes : ChatHashes) (forced : forceAll state = true)
    (found : desired hashes state observation context = some wanted)
    (plainBubble : isArtifact id = false) (unseen : id ∉ observation.messages.map (·.messageId)) :
    id ∉ (stagedBubbles hashes state wanted).map (·.id) := by
  intro staged
  obtain ⟨bubble, inside, rfl⟩ := mem_map.mp staged
  obtain ⟨up, written, rfl⟩ := mem_map.mp inside
  obtain ⟨source, observed, -, same, -⟩ := mem_writes forced written
  obtain ⟨first, encoded, all, -⟩ := desired_parts found
  rw [same] at plainBubble unseen
  rw [all] at observed
  rcases mem_append.mp observed with shown | artifact
  · rcases (encodeObserved_ids encoded source.id).mp (mem_map_of_mem shown) with none | seen
    · cases none
    · exact unseen seen
  · rw [(mem_rewrittenArtifacts artifact).1] at plainBubble
    cases plainBubble

theorem omitted_stays (found : desired hashes state observation context = some wanted)
    (goesOn : startsOver state observation context = false)
    (named : bubble.id ∈ observation.retainedMessageIds) (isLive : state.isLive bubble.id = true)
    (unseen : bubble.id ∉ observation.messages.map (·.messageId))
    (uncapped : bubble.id ∉ wanted.capped)
    (unwritten : bubble.id ∉ (stagedBubbles hashes state wanted).map (·.id))
    (present : bubble ∈ state.bubbles) :
    bubble ∈ liveAfter state (stagedBubbles hashes state wanted)
      ((deletions state wanted (stagedBubbles hashes state wanted)).map (·.1)) := by
  obtain ⟨first, encoded, -, retained⟩ := desired_parts found
  have notShown : bubble.id ∉ first.map (·.id) := by
    intro shown
    rcases (encodeObserved_ids encoded bubble.id).mp shown with nothing | seen
    · cases nothing
    · exact unseen seen
  have window : bubble.id ∈ windowRetained state observation context first := by
    rw [windowRetained, goesOn, if_neg Bool.false_ne_true]
    refine mem_filter.mpr ⟨mem_eraseDups.mpr named, ?_⟩
    rw [isLive, Bool.and_true]
    exact decide_eq_true notShown
  have stays : bubble.id ∈ wanted.retained := by
    rw [retained, retainedIds, goesOn, if_neg Bool.false_ne_true]
    exact mem_eraseDups.mpr (mem_append_left _ (mem_append_right _ window))
  rw [liveAfter, KeyedMap.mem_keepWhere]
  constructor
  · exact mem_foldl_set_of_absent present unwritten
  rw [deletions_ids]
  simp only [decide_eq_true_eq, mem_append, not_or]
  constructor
  · intro removed
    have gone := (mem_filter.mp removed).2
    simp [stays, uncapped] at gone
  intro torn
  have gone := (mem_filter.mp torn).2
  simp [isLive] at gone

theorem noneStays_of_capped (held : ArtifactsHeld state)
    (forced : forceAll state = true) (plain : context.retainMessages = false)
    (found : desired hashes state observation context = some wanted)
    (capped : OmittedAreCapped hashes state observation context) :
    ∀ bubble ∈ state.bubbles, bubble.id ∉ (stagedBubbles hashes state wanted).map (·.id) →
      bubble.id ∈ (deletions state wanted (stagedBubbles hashes state wanted)).map (·.1) := by
  intro bubble present unwritten
  obtain ⟨first, encoded, all, retained⟩ := desired_parts found
  have notShown : ∀ source ∈ wanted.observed, source.id = bubble.id →
      bubble.id ∈ wanted.capped := by
    intro source observed same
    by_contra uncapped
    obtain ⟨up, written, id⟩ := exists_write hashes forced observed (same ▸ uncapped)
    exact unwritten (mem_map.mpr ⟨up.staged, mem_map_of_mem written, id.trans same⟩)
  have isGone : bubble.id ∉ wanted.retained ∨ bubble.id ∈ wanted.capped := by
    by_contra stays
    obtain ⟨stays, uncapped⟩ := not_or.mp stays
    rw [not_not, retained] at stays
    obtain ⟨goesOn, window⟩ := mem_retained held forced plain stays
    have filtered := by
      rw [windowRetained, goesOn, if_neg Bool.false_ne_true] at window
      exact mem_filter.mp window
    have named := mem_eraseDups.mp filtered.1
    have unseen : bubble.id ∉ first.map (·.id) := by
      have both := filtered.2
      rw [Bool.and_eq_true] at both
      exact of_decide_eq_true both.1
    have isLive := isLive_iff.mpr ⟨bubble, present, rfl⟩
    cases artifact : isArtifact bubble.id with
    | false =>
      refine uncapped (capped goesOn wanted found bubble.id named isLive artifact fun seen => ?_)
      exact unseen ((encodeObserved_ids encoded bubble.id).mpr (.inr seen))
    | true =>
      obtain ⟨source, rewritten, same⟩ :=
        exists_rewritten held forced goesOn present artifact unseen
      exact uncapped (notShown source (all ▸ mem_append_right _ rewritten) same)
  rw [deletions_ids]
  refine mem_append_left _ (mem_filter.mpr ⟨mem_map_of_mem present, ?_⟩)
  have shown : ¬(bubble.id ∈ wanted.observed.map (·.id) ∧ bubble.id ∉ wanted.capped) := by
    rintro ⟨seen, uncapped⟩
    obtain ⟨source, observed, same⟩ := mem_map.mp seen
    exact uncapped (notShown source observed same)
  have kept : ¬(bubble.id ∈ wanted.retained ∧ bubble.id ∉ wanted.capped) := by
    rintro ⟨stays, uncapped⟩
    exact isGone.elim (fun gone => gone stays) uncapped
  rw [Bool.not_eq_true', Bool.eq_false_iff]
  intro stays
  simp only [Bool.or_eq_true, Bool.and_eq_true, decide_eq_true_eq] at stays
  exact stays.elim shown kept

/-! ## A window after a restart -/

def plainHashes : ChatHashes where
  sha1 text := text
  headKey ord shown srcId text := ord ++ shown.role ++ shown.kind ++ srcId.getD "" ++ text
  metaKey metadata := metadata.sessionId ++ metadata.fields.status
  digest live metaRev := String.join (live.map fun pair => pair.1 ++ toString pair.2) ++
    toString metaRev
  generateKeyAfter ords := String.join ords ++ "z"

def plainShown (role : String) : ShownFields where
  role := role
  kind := "standard"
  turnKey := none
  bubbleState := some "final"
  streaming := none
  senderName := none
  toolName := none
  attachment := none
  receivedAt := none
  timestamp := none
  expandable := false

def plainCarried : CarriedFields where
  sourceMessageId := none
  runtimeInputAck := false
  outgoingReceipt := none

def questionHead : ChatMsg where
  id := "m1"
  rev := 1
  epoch := "e1"
  frame := 1
  ord := "a"
  shown := plainShown "user"
  carried := plainCarried
  srcId := none
  body := .text "question"

def questionCommit : ChatCommit where
  sessionId := "s"
  writer := "writer_1"
  producerDaemonId := "d"
  epoch := "e1"
  frame := 1
  observedAt := "t1"
  liveCount := 1
  metaRev := 0
  digest := "m110"
  baseReason := none

def writtenBefore : PersistedState where
  committed := [⟨"writer_1", .msg questionHead⟩, ⟨"writer_1", .commit questionCommit⟩]
  torn := []

/-- The producer of the process after the restart. -/
def restored : SessionState :=
  reached plainHashes "s" "e2" (some (writtenBefore, "writer_2")) []

def answerMessage : TranscriptMessage where
  messageId := "m2"
  ord := "b"
  srcId := none
  content := "answer"
  shown := plainShown "assistant"
  carried := plainCarried

def observed (messages : List TranscriptMessage) (retainedMessageIds : List String) :
    TranscriptObservation where
  sessionId := "s"
  historySessionId := none
  fields := { providerType := "cli", status := "idle", title := none, details := "" }
  ledgerEpoch := "l"
  coverage := { mode := "tail", omittedBefore := true }
  retainedMessageIds := retainedMessageIds
  messages := messages

def restarted : BuildContext where
  writerId := "writer_2"
  producerDaemonId := "d"
  observedAt := "t2"

/-! ## Self-contained frames -/

/-- A base frame for a changed writer or a resync is self-contained exactly when the live bubbles
that the observation names without showing them are all beyond the live cap. -/
theorem base_frame_self_contained (hashes : ChatHashes) (sessionId epoch : String)
    (persisted : Option (PersistedState × String)) (steps : List ProducerStep)
    (observation : TranscriptObservation) (context : BuildContext) (frame : ChatFrame)
    (built : build hashes (reached hashes sessionId epoch persisted steps) observation context =
      .frame frame)
    (isBase : frame.commit.baseReason = some .writerChange ∨
      frame.commit.baseReason = some .resyncRequest) :
    SelfContained hashes (reached hashes sessionId epoch persisted steps) frame ↔
      OmittedAreCapped hashes (reached hashes sessionId epoch persisted steps) observation
        context := by
  have held := reached_held hashes sessionId epoch persisted steps
  generalize reached hashes sessionId epoch persisted steps = state at built held
  obtain ⟨waits, wanted, found, rfl⟩ := build_frame built
  have forced : forceAll state = true := forceAll_of_base isBase
  have plain : context.retainMessages = false := by
    cases retains : context.retainMessages with
    | false => rfl
    | true => exact absurd ⟨retains, forced⟩ waits
  have once := desired_nodup found
  have live : (commit state (frameOf hashes state observation context wanted)).bubbles =
      liveAfter state (stagedBubbles hashes state wanted)
        ((deletions state wanted (stagedBubbles hashes state wanted)).map (·.1)) :=
    commit_bubbles rfl
  constructor
  · rintro ⟨allWritten, -⟩ goesOn other isWanted id named isLive plainBubble unseen
    obtain rfl : wanted = other := Option.some.inj (found.symm.trans isWanted)
    by_contra uncapped
    obtain ⟨bubble, present, rfl⟩ := isLive_iff.mp isLive
    have unwritten := omitted_not_written hashes forced found plainBubble unseen
    have stays : bubble ∈ liveAfter state (stagedBubbles hashes state wanted)
        ((deletions state wanted (stagedBubbles hashes state wanted)).map (·.1)) :=
      omitted_stays found goesOn named isLive unseen uncapped unwritten present
    obtain ⟨head, inRows, key, -⟩ := allWritten bubble (live ▸ stays)
    obtain ⟨up, written, _, _, _, _, whole, _⟩ := head_mem_frameRows forced inRows
    refine unwritten (List.mem_map.mpr ⟨up.staged, List.mem_map_of_mem written, ?_⟩)
    rw [← (Prod.mk.inj whole.key).1, (Prod.mk.inj key).1]
  intro capped
  have noneStays := noneStays_of_capped held forced plain found capped
  have holds := holdsLive hashes observation context forced once noneStays
  refine ⟨?_, fun reader changed => holds.ingestCommit changed⟩
  intro bubble present
  rw [live] at present
  obtain ⟨head, inRows, key⟩ := (holds.liveIff (bubble.id, bubble.rev)).mp
    (List.mem_map.mpr ⟨bubble, present, rfl⟩)
  exact ⟨head, inRows, key, holds.wholeBodies head inRows⟩

/-- Of the same restart with no bubble named beside the shown one. -/
theorem nothing_omitted_is_self_contained :
    ∃ frame, build plainHashes (reached plainHashes "s" "e2" (some (writtenBefore, "writer_2")) [])
        (observed [answerMessage] []) restarted = .frame frame ∧ SelfContained plainHashes
        (reached plainHashes "s" "e2" (some (writtenBefore, "writer_2")) []) frame := by
  have facts : (build plainHashes restored (observed [answerMessage] []) restarted).built.any
      (fun frame => decide (frame.commit.baseReason = some .writerChange)) = true := by decide
  cases built : build plainHashes restored (observed [answerMessage] []) restarted with
  | unchanged | unidentified =>
    rw [built] at facts
    cases facts
  | frame frame =>
    rw [built] at facts
    refine ⟨frame, built, (base_frame_self_contained plainHashes "s" "e2" _ [] _ _ frame built
      (.inl (of_decide_eq_true facts))).mpr ?_⟩
    intro _ wanted _ id named
    cases named

/-- The bubble outside the window stays live, and the base frame does not have it. -/
theorem omitted_bubble_is_missing :
    ∃ frame, build plainHashes restored (observed [answerMessage] ["m1"]) restarted =
        .frame frame ∧ frame.commit.baseReason = some .writerChange ∧ frame.commit.liveCount = 2 ∧
      (CommittedState.applyRows {} frame.rows).verify plainHashes frame.commit =
        some .digestMismatch ∧ ¬SelfContained plainHashes restored frame := by
  have facts : (build plainHashes restored (observed [answerMessage] ["m1"]) restarted).built.any
      (fun frame => decide (frame.commit.baseReason = some .writerChange ∧
        frame.commit.liveCount = 2 ∧ frame.commit.writer ≠ "writer_1" ∧
          (CommittedState.applyRows {} frame.rows).verify plainHashes frame.commit =
            some .digestMismatch)) = true := by decide
  cases built : build plainHashes restored (observed [answerMessage] ["m1"]) restarted with
  | unchanged | unidentified =>
    rw [built] at facts
    cases facts
  | frame frame =>
    rw [built] at facts
    obtain ⟨reason, count, writer, rejected⟩ := of_decide_eq_true facts
    refine ⟨frame, rfl, reason, count, rejected, ?_⟩
    rintro ⟨-, readers⟩
    have changed : ({ commit := some questionCommit } : CommittedState).writerChanged
        frame.commit = true := by
      rw [CommittedState.writerChanged]
      exact decide_eq_true fun same => writer same.symm
    obtain ⟨next, taken⟩ := readers _ changed
    rw [CommittedState.ingestCommit] at taken
    simp only [changed, if_true, rejected] at taken
    cases taken

end Adhdev.KeyedTranscript
