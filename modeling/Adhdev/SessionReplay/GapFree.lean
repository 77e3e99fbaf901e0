import Adhdev.SessionReplay.RingBuffer

/-! # Which replays have no gap -/

namespace Adhdev.SessionReplay

open Text List Option Bool

theorem dropEncodingDamage_suffix (text : Text) : dropEncodingDamage text <:+ text := by
  induction text with
  | nil => exact suffix_refl _
  | cons unit rest induction =>
    have later := induction.trans (suffix_cons unit rest)
    rw [dropEncodingDamage]
    split_ifs
    · exact later
    · exact suffix_refl _
    · exact later
    · exact later
    · exact suffix_refl _

theorem stripDanglingPrefix_suffix (text : Text) : stripDanglingPrefix text <:+ text :=
  (drop_suffix _ _).trans (dropEncodingDamage_suffix text)

namespace SessionRingBuffer

/-! ## What the chunks are -/

def chunkOf (seq : Nat) (data : Text) : BufferChunk where
  seq := seq
  data := data
  bytes := utf8ByteLength data

def chunksFrom : Nat → List Text → List BufferChunk
  | _, [] => []
  | seq, data :: rest => chunkOf seq data :: chunksFrom (seq + 1) rest

def chunksAfter (evicted : Nat) : List Text → List BufferChunk
  | [] => []
  | data :: rest =>
    chunkOf (evicted + 1) (if evicted = 0 then data else stripDanglingPrefix data) ::
      chunksFrom (evicted + 2) rest

def bytesOf (chunks : List BufferChunk) : Int := (chunks.map fun chunk => (chunk.bytes : Int)).sum

theorem chunksFrom_append (seq : Nat) (first second : List Text) :
    chunksFrom seq (first ++ second) =
      chunksFrom seq first ++ chunksFrom (seq + first.length) second := by
  induction first generalizing seq with
  | nil => rfl
  | cons data rest induction =>
    rw [cons_append, chunksFrom, chunksFrom, induction, length_cons, cons_append,
      Nat.add_right_comm, Nat.add_assoc]

theorem length_chunksFrom (seq : Nat) (kept : List Text) :
    (chunksFrom seq kept).length = kept.length := by
  induction kept generalizing seq with
  | nil => rfl
  | cons data rest induction => rw [chunksFrom, length_cons, induction, length_cons]

theorem length_chunksAfter (evicted : Nat) (kept : List Text) :
    (chunksAfter evicted kept).length = kept.length := by
  cases kept with
  | nil => rfl
  | cons data rest => rw [chunksAfter, length_cons, length_chunksFrom, length_cons]

theorem drop_chunksFrom (seq count : Nat) (kept : List Text) :
    (chunksFrom seq kept).drop count = chunksFrom (seq + count) (kept.drop count) := by
  induction count generalizing seq kept with
  | zero => rfl
  | succ count induction =>
    cases kept with
    | nil => rfl
    | cons data rest =>
      rw [chunksFrom, drop_succ_cons, induction, drop_succ_cons, Nat.add_right_comm, Nat.add_assoc]

theorem drop_chunksAfter (evicted count : Nat) (kept : List Text) :
    (chunksAfter evicted kept).drop (count + 1) =
      chunksFrom (evicted + count + 2) (kept.drop (count + 1)) := by
  cases kept with
  | nil => rfl
  | cons data rest =>
    rw [chunksAfter, drop_succ_cons, drop_chunksFrom, drop_succ_cons, Nat.add_right_comm]

theorem chunksAfter_append {evicted : Nat} {kept : List Text} (data : Text)
    (left : kept ≠ [] ∨ evicted = 0) : chunksAfter evicted (kept ++ [data]) =
      chunksAfter evicted kept ++ [chunkOf (evicted + kept.length + 1) data] := by
  cases kept with
  | nil =>
    obtain rfl : evicted = 0 := left.resolve_left fun some => some rfl
    rfl
  | cons first rest =>
    rw [cons_append, chunksAfter, chunksFrom_append, chunksAfter, cons_append,
      length_cons, chunksFrom, chunksFrom, Nat.add_right_comm evicted 2, Nat.add_assoc evicted]
    rfl

/-! ## What an append leaves -/

theorem evict_spec (maxBytes : Nat) (totalBytes : Int) (chunks : List BufferChunk)
    (total : totalBytes = bytesOf chunks) :
    ∃ count, (evict maxBytes totalBytes chunks).2 = chunks.drop count ∧
      (chunks ≠ [] → count < chunks.length) ∧
      (evict maxBytes totalBytes chunks).1 = bytesOf (chunks.drop count) ∧
      ((evict maxBytes totalBytes chunks).1 ≤ maxBytes ∨ (chunks.drop count).length ≤ 1) := by
  induction chunks generalizing totalBytes with
  | nil => exact ⟨0, rfl, fun some => absurd rfl some, total, .inr (Nat.zero_le _)⟩
  | cons removed chunks induction =>
    cases chunks with
    | nil => exact ⟨0, rfl, fun _ => Nat.one_pos, total, .inr le_rfl⟩
    | cons next chunks =>
      rw [evict]
      split
      · have rest : totalBytes - removed.bytes = bytesOf (next :: chunks) := by
          rw [total, bytesOf, map_cons, sum_cons, add_sub_cancel_left]
          rfl
        obtain ⟨count, left, short, bytes, capped⟩ := induction _ rest
        exact ⟨count + 1, left, fun _ => Nat.succ_lt_succ (short (cons_ne_nil _ _)), bytes, capped⟩
      · rename_i fits
        exact ⟨0, rfl, fun _ => Nat.succ_pos _, total, .inl (not_lt.mp fits)⟩

structure Holds (buffer : SessionRingBuffer) (maxBytes : Nat) (appended : List Text)
    (evicted : Nat) : Prop where
  limit : buffer.maxBytes = maxBytes
  nextSeq : buffer.nextSeq = appended.length + 1
  left : evicted < appended.length ∨ appended = [] ∧ evicted = 0
  chunks : buffer.chunks = chunksAfter evicted (appended.drop evicted)
  total : buffer.totalBytes = bytesOf buffer.chunks
  capped : buffer.totalBytes ≤ maxBytes ∨ buffer.chunks.length = 1

theorem healHead_chunk (buffer : SessionRingBuffer) {seq : Nat} {data : Text}
    {chunks : List BufferChunk} (isHead : buffer.chunks = chunkOf seq data :: chunks)
    (total : buffer.totalBytes = bytesOf buffer.chunks) :
    (healHead buffer).maxBytes = buffer.maxBytes ∧ (healHead buffer).nextSeq = buffer.nextSeq ∧
      (healHead buffer).chunks = chunkOf seq (stripDanglingPrefix data) :: chunks ∧
      (healHead buffer).totalBytes = bytesOf (healHead buffer).chunks ∧
      (healHead buffer).totalBytes ≤ buffer.totalBytes := by
  rw [healHead, isHead]
  dsimp only
  split
  · rename_i whole
    rw [chunkOf] at whole
    dsimp only at whole
    rw [whole]
    exact ⟨rfl, rfl, isHead, total, le_refl _⟩
  refine ⟨rfl, rfl, rfl, ?_, ?_⟩
  · rw [total, isHead]
    simp only [bytesOf, map_cons, sum_cons, chunkOf]
    omega
  have smaller := utf8ByteLength_suffix (stripDanglingPrefix_suffix data)
  simp only [chunkOf]
  omega

variable {buffer : SessionRingBuffer}

theorem trim_holds {maxBytes evicted : Nat} {appended : List Text}
    (limit : buffer.maxBytes = maxBytes) (nextSeq : buffer.nextSeq = appended.length + 1)
    (left : evicted < appended.length)
    (chunks : buffer.chunks = chunksAfter evicted (appended.drop evicted))
    (total : buffer.totalBytes = bytesOf buffer.chunks) :
    ∃ count, Holds buffer.trim maxBytes appended count := by
  have length : buffer.chunks.length = appended.length - evicted := by
    rw [chunks, length_chunksAfter, length_drop]
  have some : buffer.chunks ≠ [] := ne_nil_of_length_pos (by omega)
  obtain ⟨count, kept, short, bytes, capped⟩ :=
    evict_spec buffer.maxBytes buffer.totalBytes buffer.chunks total
  have few := short some
  rw [trim]
  dsimp only
  rw [kept]
  rw [limit] at capped
  cases count with
  | zero =>
    rw [drop_zero] at bytes capped ⊢
    rw [if_neg (lt_irrefl _)]
    refine ⟨evicted, ⟨limit, nextSeq, .inl left, chunks, bytes, ?_⟩⟩
    dsimp only
    rcases capped with fits | one
    · exact .inl (limit ▸ fits)
    · exact .inr (by omega)
  | succ count =>
    have further : evicted + (count + 1) < appended.length := by omega
    have remain : buffer.chunks.drop (count + 1) =
        chunksFrom (evicted + (count + 1) + 1) (appended.drop (evicted + (count + 1))) := by
      rw [chunks, drop_chunksAfter, drop_drop, ← Nat.add_assoc]
    rw [drop_eq_getElem_cons further, chunksFrom] at remain
    have fewer : (buffer.chunks.drop (count + 1)).length < buffer.chunks.length := by
      rw [length_drop]
      omega
    rw [if_pos fewer]
    obtain ⟨sameLimit, sameSeq, healed, healedBytes, smaller⟩ := healHead_chunk
      { buffer with
        totalBytes := (evict buffer.maxBytes buffer.totalBytes buffer.chunks).1
        chunks := buffer.chunks.drop (count + 1) } remain bytes
    refine ⟨evicted + (count + 1), ⟨sameLimit.trans limit, sameSeq.trans nextSeq, .inl further, ?_,
      healedBytes, ?_⟩⟩
    · rw [healed, drop_eq_getElem_cons further, chunksAfter, if_neg (by omega)]
    · rcases capped with fits | one
      · rw [← limit] at fits
        exact .inl (limit ▸ smaller.trans fits)
      right
      rw [healed, length_cons]
      rw [remain, length_cons] at one
      omega

theorem append_holds {maxBytes evicted : Nat} {appended : List Text}
    (holds : Holds buffer maxBytes appended evicted) (data : Text) :
    ∃ count, Holds (buffer.append data) maxBytes (appended ++ [data]) count := by
  have bounded : evicted ≤ appended.length := by
    rcases holds.left with less | ⟨rfl, rfl⟩
    · exact less.le
    · exact le_refl _
  have split : (appended ++ [data]).drop evicted = appended.drop evicted ++ [data] :=
    drop_append_of_le_length bounded
  have some : appended.drop evicted ≠ [] ∨ evicted = 0 := by
    rcases holds.left with less | ⟨-, none⟩
    · exact .inl (ne_nil_of_length_pos (by rw [length_drop]; omega))
    · exact .inr none
  have longer : evicted < (appended ++ [data]).length := by
    rw [length_append, length_singleton]
    omega
  refine trim_holds holds.limit ?_ longer ?_ ?_
  · rw [length_append, holds.nextSeq]
    rfl
  · rw [split, chunksAfter_append data some, ← holds.chunks, holds.nextSeq, length_drop,
      Nat.add_sub_cancel' bounded]
    rfl
  · simp only [bytesOf, map_append, sum_append, map_singleton, sum_singleton]
    rw [holds.total, bytesOf]

theorem appendAll_holds (maxBytes : Nat) (appended : List Text) :
    ∃ evicted, Holds (appendAll maxBytes appended) maxBytes appended evicted := by
  induction appended using reverseRecOn with
  | nil => exact ⟨0, rfl, rfl, .inr ⟨rfl, rfl⟩, rfl, rfl, .inl (Int.natCast_nonneg _)⟩
  | append_singleton appended data induction =>
    obtain ⟨evicted, holds⟩ := induction
    obtain ⟨count, next⟩ := append_holds holds data
    refine ⟨count, ?_⟩
    rw [appendAll, foldl_append]
    exact next

/-! ## Replaying -/

def appendedAfter (since : Int) (appended : List Text) : Text :=
  ((appended.zipIdx 1).filter fun append => since < append.2).flatMap (·.1)

def ReplaysAll (maxBytes : Nat) (appended : List Text) (since : Int) : Prop :=
  ((appendAll maxBytes appended).snapshot (some since)).truncated = false →
    ((appendAll maxBytes appended).snapshot (some since)).text = appendedAfter since appended

/-- After every append the total is of the stored chunks and within the limit, unless one chunk is
all there is. -/
def CountsBytes (maxBytes : Nat) (appended : List Text) : Prop :=
  ∀ earlier, earlier <+: appended →
    let buffer := appendAll maxBytes earlier
    buffer.totalBytes = bytesOf buffer.chunks ∧
      (buffer.totalBytes ≤ maxBytes ∨ buffer.chunks.length = 1)

def HeadWhole (maxBytes : Nat) (appended : List Text) (since : Int) : Prop :=
  ∀ head ∈ (appendAll maxBytes appended).chunks.head?, (head.seq : Int) = since + 1 →
    appended[head.seq - 1]? = some head.data

theorem countsBytes (maxBytes : Nat) (appended : List Text) : CountsBytes maxBytes appended := by
  intro earlier _
  obtain ⟨evicted, holds⟩ := appendAll_holds maxBytes earlier
  exact ⟨holds.total, holds.capped⟩

theorem replay_chunksFrom (seq : Nat) (since : Int) (kept : List Text) :
    ((chunksFrom seq kept).filter fun chunk => since < chunk.seq).flatMap (·.data) =
      ((kept.zipIdx seq).filter fun append => since < append.2).flatMap (·.1) := by
  induction kept generalizing seq with
  | nil => rfl
  | cons data rest induction =>
    rw [chunksFrom, zipIdx_cons, filter_cons, filter_cons, chunkOf]
    by_cases later : since < seq <;> simp [later, induction]

theorem appendedAfter_drop {since : Int} {evicted : Nat} (reached : (evicted : Int) ≤ since)
    (appended : List Text) : appendedAfter since appended =
      (((appended.drop evicted).zipIdx (evicted + 1)).filter fun append =>
        since < append.2).flatMap (·.1) := by
  have before : ∀ (count seq : Nat) (texts : List Text), ((seq + count : Nat) : Int) ≤ since + 1 →
      ((texts.zipIdx seq).filter fun append => since < append.2).flatMap (·.1) =
        (((texts.drop count).zipIdx (seq + count)).filter fun append =>
          since < append.2).flatMap (·.1) := by
    intro count
    induction count with
    | zero => exact fun seq texts _ => rfl
    | succ count induction =>
      intro seq texts small
      cases texts with
      | nil => rfl
      | cons data rest =>
        have old : ¬ since < (seq : Int) := by omega
        rw [zipIdx_cons, filter_cons, if_neg (by simpa using old),
          induction (seq + 1) rest (by omega), drop_succ_cons, Nat.add_right_comm,
          Nat.add_assoc]
  rw [appendedAfter, before evicted 1 appended (by omega), Nat.add_comm]

/-- The replay of an append-only run has no gap, and its bytes are counted, exactly when the oldest
stored chunk was not cut where the replay begins with it. -/
theorem replay_has_no_gap (maxBytes : Nat) (appended : List Text) (since : Int)
    (reached : since ≤ ((appendAll maxBytes appended).snapshot none).seq) :
    (ReplaysAll maxBytes appended since ∧ CountsBytes maxBytes appended) ↔
      HeadWhole maxBytes appended since := by
  obtain ⟨evicted, holds⟩ := appendAll_holds maxBytes appended
  have counts := countsBytes maxBytes appended
  rw [and_iff_left counts, ReplaysAll, HeadWhole]
  have sameChunks := holds.chunks
  cases kept : appended.drop evicted with
  | nil =>
    obtain ⟨rfl, rfl⟩ : appended = [] ∧ evicted = 0 := by
      refine holds.left.resolve_left fun less => ?_
      rw [List.drop_eq_nil_iff] at kept
      omega
    exact ⟨fun _ head member => (by cases member), fun _ _ => rfl⟩
  | cons first rest =>
    rw [kept, chunksAfter] at sameChunks
    have atHead : appended[evicted]? = some first := by
      rw [← List.head?_drop, kept]
      rfl
    generalize (if evicted = 0 then first else stripDanglingPrefix first) = shown at sameChunks
    rw [snapshot, sameChunks]
    simp only [List.head?_cons, Option.mem_def, Option.some.injEq, Option.all_some, Option.any_some]
    rcases lt_trichotomy since (evicted : Int) with before | now | later
    · constructor
      · rintro - head rfl begins
        simp only [chunkOf] at begins
        omega
      intro _ whole
      have cut : since < ((evicted + 1 : Nat) : Int) - 1 := by omega
      exact absurd cut (of_decide_eq_false whole)
    · subst now
      have text := appendedAfter_drop (le_refl (evicted : Int)) appended
      rw [kept, List.zipIdx_cons, List.filter_cons, if_pos (by simp), List.flatMap_cons,
        ← replay_chunksFrom] at text
      rw [text, List.filter_cons, if_pos (by simp [chunkOf]), List.flatMap_cons]
      constructor
      · rintro same head rfl -
        have whole : shown = first := List.append_cancel_right (same (by simp [chunkOf]))
        simp only [chunkOf, Nat.add_sub_cancel, atHead, whole]
      intro whole _
      have found := whole _ rfl (by simp [chunkOf])
      simp only [chunkOf, Nat.add_sub_cancel, atHead, Option.some.injEq] at found
      rw [chunkOf, found]
    have text := appendedAfter_drop later.le appended
    have old : ¬ since < ((evicted + 1 : Nat) : Int) := by omega
    rw [kept, List.zipIdx_cons, List.filter_cons, if_neg (by simpa using old),
      ← replay_chunksFrom] at text
    rw [text, List.filter_cons, if_neg (by simpa [chunkOf] using old)]
    constructor
    · rintro - head rfl begins
      simp only [chunkOf] at begins
      omega
    · exact fun _ _ => rfl

/-- The oldest of three chunks is evicted whole. -/
def evictedWhole : List Text := [[0x61, 0x62, 0x63], [0x64, 0x65], [0x66, 0x67]]

theorem uncut_replay_has_no_gap : ReplaysAll 6 evictedWhole 1 ∧ CountsBytes 6 evictedWhole := by
  refine (replay_has_no_gap 6 evictedWhole 1 (by decide)).mpr ?_
  intro head member begins
  have isHead : (appendAll 6 evictedWhole).chunks.head? = some ⟨2, [0x64, 0x65], 2⟩ := by decide
  rw [isHead, Option.mem_def, Option.some.injEq] at member
  subst member
  rfl

/-- Five letters, and a sequence that clears the screen in two chunks: the second begins without its
escape character. -/
def torn : List Text := [[0x61, 0x62, 0x63, 0x64, 0x1b], [0x5b, 0x32, 0x4a, 0x65, 0x66]]

/-- Who has seen the first chunk gets the second one without its beginning, and is not told so. -/
theorem cut_head_is_not_replayed :
    (1 : Int) ≤ ((appendAll 6 torn).snapshot none).seq ∧ ¬ ReplaysAll 6 torn 1 := by
  refine ⟨by decide, fun replays => ?_⟩
  exact absurd (replays (by decide)) (by decide)

end SessionRingBuffer

end Adhdev.SessionReplay
