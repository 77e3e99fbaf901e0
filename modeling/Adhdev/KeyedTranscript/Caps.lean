import Adhdev.KeyedTranscript.BaseFrames

/-! # The caps of a transcript

Of the observed and retained bubbles a frame leaves out the oldest ones.
-/

namespace Adhdev.KeyedTranscript

open List PublishedBubble

/-! ## The oldest entries -/

theorem capOldest_cut (entries : List CapEntry) {total : Nat}
    (isTotal : total = (entries.map (·.bytes)).sum) :
    ∃ dropped kept, entries = dropped ++ kept ∧ capOldest total entries = dropped.map (·.id) ∧
      (entries ≠ [] → kept ≠ []) ∧
      (kept.length ≤ 1 ∨ overCap (kept.map (·.bytes)).sum kept = false) := by
  induction entries generalizing total with
  | nil => exact ⟨[], [], rfl, rfl, id, .inl (Nat.zero_le _)⟩
  | cons entry entries induction =>
    cases entries with
    | nil => exact ⟨[], [entry], rfl, rfl, id, .inl le_rfl⟩
    | cons next entries =>
      rw [capOldest]
      by_cases full : overCap total (entry :: next :: entries) = true
      · have rest : total - entry.bytes = ((next :: entries).map (·.bytes)).sum := by
          rw [isTotal, map_cons, sum_cons, Nat.add_sub_cancel_left]
        obtain ⟨dropped, kept, cut, capped, some, fits⟩ := induction rest
        rw [if_pos full, capped, cut]
        exact ⟨entry :: dropped, kept, rfl, rfl, fun _ => some (cons_ne_nil _ _), fits⟩
      rw [if_neg full]
      refine ⟨[], entry :: next :: entries, rfl, rfl, id, .inr ?_⟩
      rw [← isTotal]
      exact Bool.eq_false_iff.mpr full

/-! ## The entries of a frame -/

structure Published (observation : TranscriptObservation) (context : BuildContext) : Prop where
  quiet : context.retainMessages = true → observation.messages = []
  ledger : ∀ id ∈ observation.retainedMessageIds, isArtifact id = false

section Entries

variable {hashes : ChatHashes} {state : SessionState} {observation : TranscriptObservation}
  {context : BuildContext}

def EncodedBubble.Encoded (bubble : EncodedBubble) : Prop :=
  bubble = encodeText bubble.message bubble.id bubble.ord

theorem encodeObserved_encoded {messages : List TranscriptMessage}
    {observed all : List EncodedBubble}
    (encoded : encodeObserved hashes state observed messages = some all)
    (before : ∀ bubble ∈ observed, bubble.Encoded) : ∀ bubble ∈ all, bubble.Encoded := by
  induction messages generalizing observed with
  | nil =>
    obtain rfl := Option.some.inj encoded
    exact before
  | cons message messages induction =>
    rw [encodeObserved] at encoded
    split at encoded
    · cases encoded
    split at encoded
    · exact induction encoded before
    apply induction encoded
    intro bubble member
    rcases mem_append.mp member with old | new
    · exact before bubble old
    · rw [mem_singleton.mp new]
      rfl

variable {id : String} {bubble : PublishedBubble}

theorem bubble_some (found : state.bubble id = some bubble) :
    bubble ∈ state.bubbles ∧ bubble.id = id := by
  refine ⟨mem_of_find?_eq_some found, ?_⟩
  have same := find?_some found
  exact of_decide_eq_true same

theorem bubble_of_mem (member : bubble ∈ state.bubbles) : state.bubble bubble.id = some bubble := by
  cases found : state.bubble bubble.id with
  | none =>
    have absent := find?_eq_none.mp found bubble member
    exact absurd (decide_eq_true rfl) absent
  | some other =>
    obtain ⟨otherMember, same⟩ := bubble_some found
    rw [KeyedMap.eq_of_key otherMember member same]

variable {observed : List EncodedBubble}

theorem rewrittenArtifacts_encoded {bubble : EncodedBubble}
    (member : bubble ∈ rewrittenArtifacts state observation context observed) :
    forceAll state = true ∧ bubble.Encoded ∧ (state.artifactMessage bubble.id).isSome = true := by
  rw [rewrittenArtifacts] at member
  split at member
  · cases member
  rename_i rewrites
  have forced := (not_or.mp rewrites).2
  obtain ⟨held, -, made⟩ := mem_filterMap.mp member
  split at made
  · obtain ⟨message, found, rfl⟩ := Option.map_eq_some_iff.mp made
    refine ⟨Bool.of_not_eq_false forced, rfl, ?_⟩
    change (state.artifactMessage held.id).isSome = true
    rw [found]
    rfl
  · cases made

theorem mem_retainedIds : id ∈ retainedIds state observation context observed ↔
      startsOver state observation context = false ∧
        ((context.retainMessages = true ∧ id ∈ state.bubbles.entries.map (·.id)) ∨
          id ∈ windowRetained state observation context observed ∨
            id ∈ keptArtifacts state observed) := by
  rw [retainedIds]
  cases startsOver state observation context with
  | true => simp
  | false =>
    cases context.retainMessages with
    | true => simp
    | false => simp

theorem nodup_eraseDups {α : Type} [DecidableEq α] (values : List α) : values.eraseDups.Nodup := by
  induction length : values.length using Nat.strong_induction_on generalizing values with
  | _ length induction =>
    cases values with
    | nil => exact nodup_nil
    | cons value values =>
      rw [eraseDups_cons]
      apply nodup_cons.mpr
      constructor
      · intro listed
        have kept := (mem_filter.mp (mem_eraseDups.mp listed)).2
        simp at kept
      have shorter := length_filter_le (fun other => !other == value) values
      rw [length_cons] at length
      exact induction _ (by omega) _ rfl

theorem nodup_retainedIds (observed : List EncodedBubble) :
    (retainedIds state observation context observed).Nodup := by
  rw [retainedIds]
  split
  · exact nodup_nil
  · exact nodup_eraseDups _

theorem retained_apart (published : Published observation context)
    (builds : ¬(context.retainMessages = true ∧ forceAll state = true))
    (encoded : encodeObserved hashes state [] observation.messages = some observed)
    (retained : id ∈ retainedIds state observation context observed) : state.isLive id = true ∧
      id ∉ (observed ++ rewrittenArtifacts state observation context observed).map (·.id) := by
  obtain ⟨-, kinds⟩ := mem_retainedIds.mp retained
  have split : ∀ id, id ∈ (observed ++ rewrittenArtifacts state observation context observed).map
      (·.id) → id ∈ observed.map (·.id) ∨
        (forceAll state = true ∧ isArtifact id = true ∧ (state.artifactMessage id).isSome =
          true) := by
    intro id listed
    rw [map_append, mem_append] at listed
    rcases listed with seen | rewritten
    · exact .inl seen
    obtain ⟨bubble, member, rfl⟩ := mem_map.mp rewritten
    obtain ⟨forced, -, held⟩ := rewrittenArtifacts_encoded member
    exact .inr ⟨forced, (mem_rewrittenArtifacts member).1, held⟩
  rcases kinds with ⟨quiet, live⟩ | window | artifact
  · obtain ⟨bubble, member, same⟩ := mem_map.mp live
    refine ⟨isLive_iff.mpr ⟨bubble, member, same⟩, fun listed => ?_⟩
    rcases split id listed with seen | ⟨forced, -, -⟩
    · rw [published.quiet quiet] at encoded
      rw [← Option.some.inj encoded] at seen
      cases seen
    · exact builds ⟨quiet, forced⟩
  · rw [windowRetained] at window
    split at window
    · cases window
    obtain ⟨named, kept⟩ := mem_filter.mp window
    rw [Bool.and_eq_true, decide_eq_true_eq] at kept
    refine ⟨kept.2, fun listed => ?_⟩
    rcases split id listed with seen | ⟨-, artifact, -⟩
    · exact kept.1 seen
    · rw [published.ledger id (mem_eraseDups.mp named)] at artifact
      cases artifact
  obtain ⟨live, kept⟩ := mem_filter.mp artifact
  rw [Bool.and_eq_true, Bool.and_eq_true, decide_eq_true_eq, Bool.not_eq_true'] at kept
  obtain ⟨bubble, member, same⟩ := mem_map.mp live
  refine ⟨isLive_iff.mpr ⟨bubble, member, same⟩, fun listed => ?_⟩
  rcases split id listed with seen | ⟨forced, -, held⟩
  · exact kept.1.2 seen
  · rw [forced, held] at kept
    cases kept.2

end Entries

/-! ## What bubbles weigh -/

/-- Heads with one key are one head. -/
def CollisionFree (hashes : ChatHashes) : Prop :=
  ∀ {ord ord' : String} {shown shown' : ShownFields} {srcId srcId' : Option String}
    {text text' : String},
    hashes.headKey ord shown srcId text = hashes.headKey ord' shown' srcId' text' →
      ord = ord' ∧ shown = shown' ∧ srcId = srcId' ∧ text = text'

def PublishedBubble.Weighed (hashes : ChatHashes) (bubble : PublishedBubble) : Prop :=
  ∃ shown srcId text, bubble.hash = hashes.headKey bubble.ord shown srcId text ∧
    bubble.bytes = text.utf8ByteSize + headOverheadBytes

def AllWeighed (hashes : ChatHashes) (state : SessionState) : Prop :=
  ∀ bubble ∈ state.bubbles, bubble.Weighed hashes

section Weights

variable {hashes : ChatHashes} {state : SessionState} {observation : TranscriptObservation}
  {context : BuildContext}

theorem mem_liveAfter {staged : List PublishedBubble} {deleted : List String}
    (distinct : (staged.map (·.id)).Nodup) {bubble : PublishedBubble} :
    bubble ∈ liveAfter state staged deleted ↔
      (bubble ∈ staged ∨ bubble ∈ state.bubbles ∧ bubble.id ∉ staged.map (·.id)) ∧
        bubble.id ∉ deleted := by
  rw [liveAfter, KeyedMap.mem_keepWhere, KeyedMap.mem_foldl_set distinct, decide_eq_true_eq]

theorem allWeighed_commit (weighed : AllWeighed hashes state) {frame : ChatFrame}
    (stages : ∀ bubble ∈ frame.staging.staged, bubble.Weighed hashes) :
    AllWeighed hashes (commit state frame) := by
  by_cases next : frame.frame = state.frameNo + 1
  · intro bubble member
    rw [commit_bubbles next, liveAfter] at member
    have kept := (KeyedMap.mem_keepWhere.mp member).1
    rcases KeyedMap.mem_or_of_mem_foldl_set kept with staged | live
    · exact stages bubble staged
    · exact weighed bubble live
  · rw [commit, if_neg next]
    exact weighed

variable {bubble : EncodedBubble} {frameNo : Nat}

variable {up : Upsert}

theorem upsert_staged (written : upsert hashes state frameNo bubble = some up) :
    up.staged.id = bubble.id ∧ up.staged.ord = bubble.ord ∧ up.staged.bytes = bubble.bytes ∧
      up.staged.hash =
        hashes.headKey bubble.ord bubble.message.shown bubble.message.srcId bubble.text := by
  rw [upsert] at written
  dsimp only at written
  split at written
  · cases written
  · rw [← Option.some.inj written]
    exact ⟨rfl, rfl, rfl, rfl⟩

theorem upsert_none (unwritten : upsert hashes state frameNo bubble = none) :
    forceAll state = false ∧ isTorn state bubble.id = false ∧
      ∃ held, state.bubble bubble.id = some held ∧ held.hash =
        hashes.headKey bubble.ord bubble.message.shown bubble.message.srcId bubble.text := by
  rw [upsert] at unwritten
  dsimp only at unwritten
  split at unwritten
  · rename_i same
    obtain ⟨sameHash, notForced, notTorn⟩ := same
    cases found : state.bubble bubble.id with
    | none =>
      rw [found] at sameHash
      cases sameHash
    | some held =>
      rw [found] at sameHash
      exact ⟨notForced, notTorn, held, rfl, of_decide_eq_true sameHash⟩
  · cases unwritten

theorem upsert_headRows (written : upsert hashes state frameNo bubble = some up) :
    up.headRows ≠ [] := by
  rw [upsert] at written
  dsimp only at written
  split at written
  · cases written
  · rw [← Option.some.inj written]
    exact append_ne_nil_of_right_ne_nil _ (cons_ne_nil _ _)

variable {wanted : Desired}

theorem build_of_written (found : desired hashes state observation context = some wanted)
    (observed : bubble ∈ wanted.observed) (uncapped : bubble.id ∉ wanted.capped)
    (written : upsert hashes state (state.frameNo + 1) bubble ≠ none)
    (builds : ¬(context.retainMessages = true ∧ forceAll state = true)) :
    build hashes state observation context =
      .frame (frameOf hashes state observation context wanted) := by
  obtain ⟨up, isWritten⟩ := Option.ne_none_iff_exists'.mp written
  have listed : up ∈ upserts hashes state (state.frameNo + 1) wanted :=
    mem_filterMap.mpr ⟨bubble, mem_filter.mpr ⟨observed, decide_eq_true uncapped⟩, isWritten⟩
  have rows : (frameOf hashes state observation context wanted).rows ≠ [] := by
    apply append_ne_nil_of_left_ne_nil
    apply append_ne_nil_of_right_ne_nil
    apply append_ne_nil_of_left_ne_nil
    obtain ⟨row, member⟩ := exists_mem_of_ne_nil _ (upsert_headRows isWritten)
    exact ne_nil_of_mem (mem_flatMap.mpr ⟨up, listed, member⟩)
  rw [build, if_neg builds, found]
  exact if_neg rows

theorem EncodedBubble.Encoded.bytes (encoded : bubble.Encoded) :
    bubble.bytes = bubble.text.utf8ByteSize + headOverheadBytes := by
  rw [encoded]
  rfl

section

variable (found : desired hashes state observation context = some wanted)
include found

theorem desired_capped : wanted.capped = cappedIds state wanted.observed wanted.retained := by
  obtain ⟨observed, -, rfl⟩ := Option.map_eq_some_iff.mp found
  rfl

theorem desired_encoded : ∀ bubble ∈ wanted.observed, bubble.Encoded := by
  obtain ⟨observed, encoded, isObserved, -⟩ := desired_parts found
  intro bubble member
  rw [isObserved] at member
  rcases mem_append.mp member with seen | rewritten
  · exact encodeObserved_encoded encoded (fun _ absent => absurd absent not_mem_nil) bubble seen
  · exact (rewrittenArtifacts_encoded rewritten).2.1

end

theorem staged_frameOf {staged : PublishedBubble}
    (member : staged ∈ (frameOf hashes state observation context wanted).staging.staged) :
    ∃ bubble ∈ wanted.observed, bubble.id ∉ wanted.capped ∧ ∃ up,
      upsert hashes state (state.frameNo + 1) bubble = some up ∧ up.staged = staged := by
  obtain ⟨up, written, same⟩ := mem_map.mp member
  obtain ⟨bubble, observed, uncapped, made⟩ := mem_upserts written
  exact ⟨bubble, observed, uncapped, up, made, same⟩

theorem weighed_of_upsert (encoded : bubble.Encoded)
    (written : upsert hashes state frameNo bubble = some up) : up.staged.Weighed hashes := by
  obtain ⟨-, ord, bytes, hash⟩ := upsert_staged written
  exact ⟨bubble.message.shown, bubble.message.srcId, bubble.text, by rw [hash, ord],
    by rw [bytes, encoded.bytes]⟩

theorem allWeighed_step (weighed : AllWeighed hashes state) (step : ProducerStep) :
    AllWeighed hashes (producerStep hashes state step) := by
  cases step with
  | built observation context =>
    rw [producerStep]
    cases built : build hashes state observation context with
    | frame frame =>
      obtain ⟨-, wanted, found, rfl⟩ := build_frame built
      apply allWeighed_commit weighed
      intro bubble staged
      obtain ⟨source, observed, -, up, written, rfl⟩ := staged_frameOf staged
      exact weighed_of_upsert (desired_encoded found source observed) written
    | unchanged | unidentified => exact weighed
  | builtArtifact input context =>
    rw [producerStep, buildArtifactFrame]
    cases input.attachment with
    | none => exact weighed
    | some attachment =>
      dsimp only
      split
      · exact weighed
      apply allWeighed_commit weighed
      intro bubble staged
      rw [mem_singleton.mp staged]
      exact ⟨_, _, _, rfl, rfl⟩
  | requestedBase reason => exact weighed

theorem allWeighed_restore {fresh : SessionState} (weighed : AllWeighed hashes fresh)
    (persisted : PersistedState) (writerId : String) :
    AllWeighed hashes (restore hashes fresh persisted writerId) := by
  have same : ∀ {state other : SessionState}, AllWeighed hashes state →
      other.bubbles = state.bubbles → AllWeighed hashes other := by
    intro state other holds bubbles bubble member
    rw [bubbles] at member
    exact holds bubble member
  have read : AllWeighed hashes (persisted.committed.foldl (restoreRow hashes) fresh) :=
    foldlRecOn _ _ weighed fun state holds row _ => same holds (restoreRow_live state row).1
  have torn : ∀ {state} (rows : List PersistedRow), AllWeighed hashes state →
      AllWeighed hashes (rows.foldl restoreTorn state) :=
    fun rows holds => foldlRecOn rows _ holds fun state holds row _ =>
      same holds (restoreTorn_live state row).1
  have headWeighed : ∀ (state : SessionState) (head : ChatMsg), AllWeighed hashes state →
      AllWeighed hashes (restoreHead hashes persisted.committed state head) := by
    intro state head holds bubble member
    rw [restoreHead] at member
    rcases KeyedMap.mem_set.mp member with rfl | ⟨old, -⟩
    · exact ⟨_, _, _, rfl, rfl⟩
    apply holds bubble
    split at old
    · exact old
    · rw [(markTorn_live ..).1] at old
      exact old
  have live : ∀ {state} (heads : List ChatMsg), AllWeighed hashes state →
      AllWeighed hashes (heads.foldl (restoreHead hashes persisted.committed) state) :=
    fun heads holds => foldlRecOn heads _ holds fun state holds head _ =>
      headWeighed state head holds
  exact torn _ (live _ read)

theorem reached_weighed (hashes : ChatHashes) (sessionId epoch : String)
    (persisted : Option (PersistedState × String)) (steps : List ProducerStep) :
    AllWeighed hashes (reached hashes sessionId epoch persisted steps) := by
  have fresh : AllWeighed hashes { sessionId, epoch } := nofun
  unfold reached
  refine foldlRecOn steps _ ?_ fun _ holds step _ => allWeighed_step holds step
  cases persisted with
  | none => exact fresh
  | some persisted => exact allWeighed_restore fresh persisted.1 persisted.2

end Weights

/-! ## What is left out -/

/-- By order, and by id where the order is the same. -/
def Older (one two : CapEntry) : Prop :=
  codeUnits one.ord < codeUnits two.ord ∨
    (codeUnits one.ord = codeUnits two.ord ∧ codeUnits one.id ≤ codeUnits two.id)

instance decidableOlder : DecidableRel Older := fun one two =>
  inferInstanceAs (Decidable (codeUnits one.ord < codeUnits two.ord ∨
    (codeUnits one.ord = codeUnits two.ord ∧ codeUnits one.id ≤ codeUnits two.id)))

theorem older_iff {one two : CapEntry} : Older one two ↔
    toLex (codeUnits one.ord, codeUnits one.id) ≤ toLex (codeUnits two.ord, codeUnits two.id) := by
  rw [Prod.Lex.toLex_le_toLex]
  rfl

instance totalOlder : Std.Total Older where
  total one two := by
    rw [older_iff, older_iff]
    exact le_total _ _

instance transOlder : IsTrans CapEntry Older where
  trans one two three first second := by
    rw [older_iff] at first second ⊢
    exact first.trans second

def PublishedBubble.entry (bubble : PublishedBubble) : CapEntry where
  id := bubble.id
  ord := bubble.ord
  bytes := bubble.bytes

section Frames

variable {hashes : ChatHashes} {state : SessionState} {observation : TranscriptObservation}
  {context : BuildContext} {wanted : Desired}

variable {observed : List EncodedBubble}

theorem mem_capEntries {retained : List String} {entry : CapEntry} :
    entry ∈ capEntries state observed retained ↔
      (∃ bubble ∈ observed, entry = ⟨bubble.id, bubble.ord, bubble.bytes⟩) ∨
        ∃ bubble, entry.id ∈ retained ∧ state.bubble entry.id = some bubble ∧ entry =
          bubble.entry := by
  rw [capEntries, mem_append, mem_map, mem_filterMap]
  constructor
  · rintro (⟨bubble, member, rfl⟩ | ⟨id, member, made⟩)
    · exact .inl ⟨bubble, member, rfl⟩
    obtain ⟨bubble, found, rfl⟩ := Option.map_eq_some_iff.mp made
    refine .inr ⟨bubble, member, found, ?_⟩
    rw [entry, (bubble_some found).2]
  rintro (⟨bubble, member, rfl⟩ | ⟨bubble, member, found, same⟩)
  · exact .inl ⟨bubble, member, rfl⟩
  refine .inr ⟨entry.id, member, Option.map_eq_some_iff.mpr ⟨bubble, found, ?_⟩⟩
  rw [same]
  rfl

theorem nodup_capEntries {retained : List String} (observedNodup : (observed.map (·.id)).Nodup)
    (retainedNodup : retained.Nodup) (apart : ∀ id ∈ retained, id ∉ observed.map (·.id)) :
    ((capEntries state observed retained).map (·.id)).Nodup := by
  have kept : ((retained.filterMap fun id => (state.bubble id).map fun bubble =>
      ({ id, ord := bubble.ord, bytes := bubble.bytes } : CapEntry)).map (·.id)).Sublist
        retained := by
    clear retainedNodup apart
    induction retained with
    | nil => exact List.Sublist.refl _
    | cons id retained induction =>
      rw [filterMap_cons]
      cases state.bubble id with
      | none => exact induction.cons _
      | some bubble => exact induction.cons_cons _
  rw [capEntries, map_append, map_map]
  refine nodup_append.mpr ⟨observedNodup, retainedNodup.sublist kept, ?_⟩
  rintro id listed other member rfl
  exact apart id (kept.subset member) listed

theorem nodup_staged (found : desired hashes state observation context = some wanted) :
    ((frameOf hashes state observation context wanted).staging.staged.map (·.id)).Nodup := by
  have kept : ∀ observed : List EncodedBubble,
      (((observed.filterMap (upsert hashes state (state.frameNo + 1))).map (·.staged)).map
        (·.id)).Sublist (observed.map (·.id)) := by
    intro observed
    induction observed with
    | nil => exact List.Sublist.refl _
    | cons bubble observed induction =>
      rw [filterMap_cons]
      cases written : upsert hashes state (state.frameNo + 1) bubble with
      | none => exact induction.cons _
      | some up =>
        dsimp only
        rw [map_cons, map_cons, map_cons, upsert_id written]
        exact induction.cons_cons _
  have sources : ((wanted.observed.filter (·.id ∉ wanted.capped)).map (·.id)).Nodup :=
    (desired_nodup found).sublist (filter_sublist.map EncodedBubble.id)
  exact sources.sublist (kept _)

variable {staged : List PublishedBubble}

theorem mem_deleted {id : String} : id ∈ (deletions state wanted staged).map (·.1) ↔
      id ∈ removedIds state wanted ∨ id ∈ tornIds state wanted staged := by
  rw [deletions_ids, mem_append]

theorem mem_removedIds {id : String} : id ∈ removedIds state wanted ↔ state.isLive id = true ∧
      ¬((id ∈ wanted.observed.map (·.id) ∨ id ∈ wanted.retained) ∧ id ∉ wanted.capped) := by
  rw [removedIds, mem_filter, isLive_iff, mem_map]
  simp only [Bool.not_eq_true', Bool.or_eq_false_iff, Bool.and_eq_false_iff,
    decide_eq_false_iff_not, not_and_or, not_or]
  tauto

theorem not_deleted {id : String}
    (isWanted : id ∈ wanted.observed.map (·.id) ∨ id ∈ wanted.retained ∧ state.isLive id = true)
    (uncapped : id ∉ wanted.capped) : id ∉ (deletions state wanted staged).map (·.1) := by
  rw [mem_deleted, not_or]
  constructor
  · rw [mem_removedIds, not_and, not_not]
    exact fun _ => ⟨isWanted.imp_right And.left, uncapped⟩
  intro torn
  have kept := (mem_filter.mp torn).2
  rw [Bool.not_eq_true', Bool.or_eq_false_iff, Bool.or_eq_false_iff, Bool.or_eq_false_iff] at kept
  rcases isWanted with observed | ⟨-, live⟩
  · have notBoth := kept.2
    rw [Bool.and_eq_false_iff, decide_eq_false_iff_not, decide_eq_false_iff_not] at notBoth
    rcases notBoth with unseen | capped
    · exact unseen observed
    · exact capped uncapped
  · rw [live] at kept
    cases kept.1.2

theorem live_iff_entry (collisionFree : CollisionFree hashes) (weighed : AllWeighed hashes state)
    (published : Published observation context)
    (builds : ¬(context.retainMessages = true ∧ forceAll state = true))
    (found : desired hashes state observation context = some wanted) (entry : CapEntry) :
    (∃ bubble ∈ (commit state (frameOf hashes state observation context wanted)).bubbles,
      bubble.entry = entry) ↔
      entry ∈ capEntries state wanted.observed wanted.retained ∧ entry.id ∉ wanted.capped := by
  obtain ⟨observed, encoded, isObserved, isRetained⟩ := desired_parts found
  have observedNodup := desired_nodup found
  have allEncoded := desired_encoded found
  have stagedNodup := nodup_staged found
  have live : ∀ bubble, bubble ∈ (commit state (frameOf hashes state observation context
      wanted)).bubbles ↔
      (bubble ∈ (frameOf hashes state observation context wanted).staging.staged ∨
        bubble ∈ state.bubbles ∧ bubble.id ∉
          (frameOf hashes state observation context wanted).staging.staged.map (·.id)) ∧
      bubble.id ∉ (deletions state wanted
        (frameOf hashes state observation context wanted).staging.staged).map (·.1) := by
    intro bubble
    rw [commit_bubbles rfl]
    exact mem_liveAfter stagedNodup
  have stagedIds : ∀ id, id ∈ (frameOf hashes state observation context wanted).staging.staged.map
      (·.id) → id ∈ wanted.observed.map (·.id) := by
    intro id listed
    obtain ⟨staged, member, rfl⟩ := mem_map.mp listed
    obtain ⟨source, observed, -, up, written, rfl⟩ := staged_frameOf member
    rw [upsert_id written]
    exact mem_map_of_mem observed
  have apart : ∀ id ∈ wanted.retained, state.isLive id = true ∧
      id ∉ wanted.observed.map (·.id) := by
    intro id retained
    rw [isRetained] at retained
    rw [isObserved]
    exact retained_apart published builds encoded retained
  rw [mem_capEntries]
  constructor
  · rintro ⟨bubble, member, rfl⟩
    obtain ⟨kind, notDeleted⟩ := (live bubble).mp member
    rcases kind with staged | ⟨old, unstaged⟩
    · obtain ⟨source, observed, uncapped, up, written, rfl⟩ := staged_frameOf staged
      obtain ⟨sameId, sameOrd, sameBytes, -⟩ := upsert_staged written
      refine ⟨.inl ⟨source, observed, ?_⟩, ?_⟩
      · rw [entry, sameId, sameOrd, sameBytes]
      change up.staged.id ∉ wanted.capped
      rw [sameId]
      exact uncapped
    have isLive : state.isLive bubble.id = true := isLive_iff.mpr ⟨bubble, old, rfl⟩
    have notRemoved : bubble.id ∉ removedIds state wanted :=
      fun removed => notDeleted (mem_deleted.mpr (.inl removed))
    rw [mem_removedIds, not_and, not_not] at notRemoved
    obtain ⟨isWanted, uncapped⟩ := notRemoved isLive
    refine ⟨?_, uncapped⟩
    rcases isWanted with seen | retained
    · obtain ⟨source, observed, same⟩ := mem_map.mp seen
      have unwritten : upsert hashes state (state.frameNo + 1) source = none := by
        cases written : upsert hashes state (state.frameNo + 1) source with
        | none => rfl
        | some up =>
          refine absurd ?_ unstaged
          rw [← same, ← upsert_id written]
          refine mem_map_of_mem (mem_map_of_mem (mem_filterMap.mpr ⟨source, ?_, written⟩))
          exact mem_filter.mpr ⟨observed, decide_eq_true (same ▸ uncapped)⟩
      obtain ⟨-, -, held, isHeld, sameHash⟩ := upsert_none unwritten
      rw [same, bubble_of_mem old] at isHeld
      obtain rfl := Option.some.inj isHeld
      obtain ⟨shown, srcId, text, isHash, isBytes⟩ := weighed bubble old
      obtain ⟨sameOrd, -, -, sameText⟩ := collisionFree (isHash.symm.trans sameHash)
      refine .inl ⟨source, observed, ?_⟩
      rw [entry, same, sameOrd, isBytes, (allEncoded source observed).bytes, sameText]
    · exact .inr ⟨bubble, retained, bubble_of_mem old, rfl⟩
  · rintro ⟨kind, uncapped⟩
    rcases kind with ⟨source, observed, rfl⟩ | ⟨bubble, retained, isHeld, rfl⟩
    · have seen : source.id ∈ wanted.observed.map (·.id) := mem_map_of_mem observed
      cases written : upsert hashes state (state.frameNo + 1) source with
      | some up =>
        obtain ⟨sameId, sameOrd, sameBytes, -⟩ := upsert_staged written
        refine ⟨up.staged, (live up.staged).mpr ⟨.inl ?_, ?_⟩, ?_⟩
        · exact mem_map_of_mem (mem_filterMap.mpr ⟨source,
            mem_filter.mpr ⟨observed, decide_eq_true uncapped⟩, written⟩)
        · rw [sameId]
          exact not_deleted (.inl seen) uncapped
        · rw [entry, sameId, sameOrd, sameBytes]
      | none =>
        obtain ⟨-, -, held, isHeld, sameHash⟩ := upsert_none written
        obtain ⟨old, sameId⟩ := bubble_some isHeld
        obtain ⟨shown, srcId, text, isHash, isBytes⟩ := weighed held old
        obtain ⟨sameOrd, -, -, sameText⟩ := collisionFree (isHash.symm.trans sameHash)
        have unstaged : held.id ∉ (frameOf hashes state observation context
            wanted).staging.staged.map (·.id) := by
          intro listed
          obtain ⟨staged, member, same⟩ := mem_map.mp listed
          obtain ⟨other, otherObserved, -, up, otherWritten, rfl⟩ := staged_frameOf member
          rw [upsert_id otherWritten, sameId] at same
          rw [inj_on_of_nodup_map observedNodup otherObserved observed same, written]
            at otherWritten
          cases otherWritten
        refine ⟨held, (live held).mpr ⟨.inr ⟨old, unstaged⟩, ?_⟩, ?_⟩
        · rw [sameId]
          exact not_deleted (.inl seen) uncapped
        · rw [entry, sameId, sameOrd, isBytes, (allEncoded source observed).bytes, sameText]
    · obtain ⟨old, -⟩ := bubble_some isHeld
      have isApart := apart bubble.id retained
      refine ⟨bubble, (live bubble).mpr ⟨.inr ⟨old, fun listed => isApart.2 (stagedIds _ listed)⟩,
        ?_⟩,
        rfl⟩
      exact not_deleted (.inr ⟨retained, isApart.1⟩) uncapped

structure DropsOldest (state : SessionState) (wanted : Desired) (frame : ChatFrame)
    (dropped live : List CapEntry) : Prop where
  union : (dropped ++ live).Perm (capEntries state wanted.observed wanted.retained)
  older : ∀ entry ∈ dropped, ∀ kept ∈ live, Older entry kept
  few : live.length ≤ chatLiveBubblesMax
  light : live.length ≤ 1 ∨ (live.map (·.bytes)).sum ≤ chatLiveBytesMax
  newest : dropped ++ live ≠ [] → ∃ kept ∈ live, ∀ entry ∈ dropped ++ live, Older entry kept
  tombstones : ∀ entry ∈ dropped, state.isLive entry.id = true →
    ∃ rev, .del { id := entry.id, k := none, rev, epoch := frame.epoch, frame := frame.frame } ∈
      frame.rows

theorem tombstone_mem (frameNo : Nat) (id : String) (prior : Option PublishedBubble) :
    .del { id, k := none, rev := state.nextRev id prior, epoch := state.epoch, frame := frameNo } ∈
      tombstone state frameNo id prior := by
  rw [tombstone]
  exact mem_append_right _ (.head _)

theorem dropsOldest_frameOf (collisionFree : CollisionFree hashes)
    (weighed : AllWeighed hashes state) (published : Published observation context)
    (builds : ¬(context.retainMessages = true ∧ forceAll state = true))
    (found : desired hashes state observation context = some wanted) :
    ∃ dropped, DropsOldest state wanted (frameOf hashes state observation context wanted) dropped
      ((commit state (frameOf hashes state observation context wanted)).bubbles.entries.map
        entry) := by
  obtain ⟨observed, encoded, isObserved, isRetained⟩ := desired_parts found
  have unionNodup : ((capEntries state wanted.observed wanted.retained).map (·.id)).Nodup := by
    apply nodup_capEntries (desired_nodup found)
    · rw [isRetained]
      exact nodup_retainedIds observed
    intro id retained
    rw [isRetained] at retained
    rw [isObserved]
    exact (retained_apart published builds encoded retained).2
  have sameTotal : ((capEntries state wanted.observed wanted.retained).map (·.bytes)).sum =
      (((capEntries state wanted.observed wanted.retained).insertionSort Older).map
        (·.bytes)).sum :=
    ((perm_insertionSort Older _).map CapEntry.bytes).sum_eq.symm
  obtain ⟨dropped, kept, cut, capped, some, fits⟩ := capOldest_cut _ sameTotal
  have cappedIds : wanted.capped = dropped.map (·.id) := (desired_capped found).trans capped
  have union : (dropped ++ kept).Perm (capEntries state wanted.observed wanted.retained) := by
    rw [← cut]
    exact perm_insertionSort Older _
  have sorted : (dropped ++ kept).Pairwise Older := by
    rw [← cut]
    exact pairwise_insertionSort Older _
  have idsNodup : ((dropped ++ kept).map (·.id)).Nodup :=
    (union.map CapEntry.id).nodup_iff.mpr unionNodup
  have isKept : ∀ entry, entry ∈ kept ↔
      entry ∈ capEntries state wanted.observed wanted.retained ∧ entry.id ∉ wanted.capped := by
    intro entry
    rw [← union.mem_iff, cappedIds, mem_append]
    rw [map_append] at idsNodup
    obtain ⟨-, -, apart⟩ := nodup_append.mp idsNodup
    constructor
    · intro member
      exact ⟨.inr member, fun listed =>
        apart entry.id listed entry.id (mem_map_of_mem member) rfl⟩
    rintro ⟨member | member, uncapped⟩
    · exact absurd (mem_map_of_mem member) uncapped
    · exact member
  have liveNodup : ((commit state (frameOf hashes state observation context
      wanted)).bubbles.entries.map entry).Nodup := by
    have ids := (commit state (frameOf hashes state observation context wanted)).bubbles.nodup
    apply List.Nodup.of_map CapEntry.id
    rw [map_map]
    exact ids
  have keptNodup : kept.Nodup := by
    rw [map_append] at idsNodup
    exact List.Nodup.of_map CapEntry.id (nodup_append.mp idsNodup).2.1
  have live : ((commit state (frameOf hashes state observation context
      wanted)).bubbles.entries.map entry).Perm kept := by
    rw [perm_ext_iff_of_nodup liveNodup keptNodup]
    intro entry
    rw [mem_map, isKept]
    exact live_iff_entry collisionFree weighed published builds found entry
  obtain ⟨-, keptSorted, older⟩ := pairwise_append.mp sorted
  refine ⟨dropped, (live.append_left dropped).trans union, ?_, ?_, ?_, ?_, ?_⟩
  · exact fun entry member one listed => older entry member one (live.mem_iff.mp listed)
  · rw [live.length_eq]
    rcases fits with single | within
    · exact single.trans (by decide)
    · rw [overCap, Bool.or_eq_false_iff, decide_eq_false_iff_not, decide_eq_false_iff_not] at within
      exact not_lt.mp within.2
  · rw [live.length_eq, (live.map CapEntry.bytes).sum_eq]
    refine fits.imp_right fun within => ?_
    rw [overCap, Bool.or_eq_false_iff, decide_eq_false_iff_not] at within
    exact not_lt.mp within.1
  · intro nonempty
    have keptSome : kept ≠ [] := by
      apply some
      rw [cut]
      intro empty
      apply nonempty
      rw [append_eq_nil_iff] at empty ⊢
      exact ⟨empty.1, length_eq_zero_iff.mp (by rw [live.length_eq, empty.2]; rfl)⟩
    obtain ⟨before, newest, rfl⟩ := eq_nil_or_concat kept |>.resolve_left keptSome
    refine ⟨newest, live.mem_iff.mpr (by simp), ?_⟩
    intro entry member
    rcases mem_append.mp member with left | stays
    · exact older entry left newest (by simp)
    have listed := live.mem_iff.mp stays
    rw [concat_eq_append, mem_append, mem_singleton] at listed
    rw [concat_eq_append] at keptSorted
    rcases listed with earlier | rfl
    · exact (pairwise_append.mp keptSorted).2.2 entry earlier newest (by simp)
    · exact .inr ⟨rfl, le_refl _⟩
  intro entry member isLive
  have isRemoved : entry.id ∈ removedIds state wanted := by
    rw [mem_removedIds, cappedIds]
    exact ⟨isLive, fun both => both.2 (mem_map_of_mem member)⟩
  refine ⟨state.nextRev entry.id (state.bubble entry.id), ?_⟩
  apply mem_append_left
  apply mem_append_right
  apply mem_append_right
  apply mem_append_left
  exact mem_flatMap.mpr ⟨entry.id, isRemoved, tombstone_mem _ _ _⟩

end Frames

/-- A frame leaves out the oldest bubbles only, and keeps within the caps. -/
theorem caps_drop_oldest (hashes : ChatHashes) (collisionFree : CollisionFree hashes)
    (sessionId epoch : String) (persisted : Option (PersistedState × String))
    (steps : List ProducerStep) (observation : TranscriptObservation) (context : BuildContext)
    (published : Published observation context) (frame : ChatFrame)
    (built : build hashes (reached hashes sessionId epoch persisted steps) observation context =
      .frame frame) :
    ∃ wanted dropped,
      desired hashes (reached hashes sessionId epoch persisted steps) observation context =
        some wanted ∧
      DropsOldest (reached hashes sessionId epoch persisted steps) wanted frame dropped
        ((commit (reached hashes sessionId epoch persisted steps) frame).bubbles.entries.map
          PublishedBubble.entry) := by
  obtain ⟨builds, wanted, found, rfl⟩ := build_frame built
  obtain ⟨dropped, drops⟩ := dropsOldest_frameOf collisionFree
    (reached_weighed hashes sessionId epoch persisted steps) published builds found
  exact ⟨wanted, dropped, found, drops⟩

/-! ## A run -/

instance countableCharacter : Countable Char := by
  apply Function.Injective.countable (f := Char.toNat)
  intro one two same
  exact Char.toNat_inj.mp same

instance countableText : Countable String := by
  apply Function.Injective.countable (f := String.toList)
  intro one two same
  exact String.toList_inj.mp same

instance countableAttachment : Countable ChatAttachment := by
  apply Function.Injective.countable
    (f := fun attachment : ChatAttachment => (attachment.artifactId, attachment.title,
      attachment.createdAt, attachment.updatedAt, attachment.details))
  rintro ⟨⟩ ⟨⟩ same
  simpa using same

instance countableShown : Countable ShownFields := by
  apply Function.Injective.countable
    (f := fun shown : ShownFields => (shown.role, shown.kind, shown.turnKey, shown.bubbleState,
      shown.streaming, shown.senderName, shown.toolName, shown.attachment, shown.receivedAt,
      shown.timestamp, shown.expandable))
  rintro ⟨⟩ ⟨⟩ same
  simpa using same

theorem exists_collisionFree : ∃ hashes : ChatHashes, CollisionFree hashes := by
  obtain ⟨number, injective⟩ := exists_injective_nat (String × ShownFields × Option String × String)
  refine ⟨
    { sha1 := fun text => text
      headKey := fun ord shown srcId text => toString (number (ord, shown, srcId, text))
      metaKey := fun metadata => metadata.sessionId
      digest := fun live metaRev => toString live ++ toString metaRev
      generateKeyAfter := fun ords => String.join ords ++ "z" }, ?_⟩
  intro ord ord' shown shown' srcId srcId' text text' same
  have sameHead := injective (Nat.repr_inj.mp same)
  simpa using sameHead

def questionMessage : TranscriptMessage where
  messageId := "m1"
  ord := "a"
  srcId := none
  content := "question"
  shown := plainShown "user"
  carried := plainCarried

theorem published_question : Published (observed [questionMessage] []) restarted :=
  ⟨fun quiet => (by cases quiet), fun _ named => absurd named not_mem_nil⟩

theorem caps_drop_oldest_question : ∃ hashes frame, CollisionFree hashes ∧
      build hashes (reached hashes "s" "e" none []) (observed [questionMessage] []) restarted =
        .frame frame ∧
      ∃ wanted dropped,
        desired hashes (reached hashes "s" "e" none []) (observed [questionMessage] []) restarted =
          some wanted ∧
        DropsOldest (reached hashes "s" "e" none []) wanted frame dropped
          ((commit (reached hashes "s" "e" none []) frame).bubbles.entries.map
            PublishedBubble.entry) := by
  obtain ⟨hashes, collisionFree⟩ := exists_collisionFree
  have found : desired hashes (reached hashes "s" "e" none []) (observed [questionMessage] [])
      restarted =
      some
        { observed := [encodeText questionMessage "m1" "a"]
          windowRetained := []
          retained := []
          capped := [] } := rfl
  have written : upsert hashes (reached hashes "s" "e" none []) 1
      (encodeText questionMessage "m1" "a") ≠
      none := by
    intro unwritten
    obtain ⟨-, -, held, isHeld, -⟩ := upsert_none unwritten
    cases isHeld
  have built := build_of_written found (List.mem_singleton_self _) List.not_mem_nil written
    (by rintro ⟨quiet, -⟩; cases quiet)
  exact ⟨hashes, _, collisionFree, built, caps_drop_oldest hashes collisionFree "s" "e" none []
    (observed [questionMessage] []) restarted published_question _ built⟩

end Adhdev.KeyedTranscript
