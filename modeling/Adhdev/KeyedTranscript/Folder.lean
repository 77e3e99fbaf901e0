import Adhdev.KeyedTranscript.Codec

/-! # Folding rows

`transcript-keyed-folder.ts`: how a reader takes the rows of a frame. Options, counters and the
buffer of rows that wait for their commit are left out.
-/

namespace Adhdev.KeyedTranscript

open List Bool KeyedMap

abbrev partKey (part : ChatPart) : String × Nat := (part.id, part.k)

structure CommittedState where
  heads : KeyedMap ChatMsg.id := .empty
  parts : KeyedMap partKey := .empty
  metadata : Option ChatMeta := none
  commit : Option ChatCommit := none

inductive KeyedFoldRejectReason
  | digestMismatch | incompleteBubble
  deriving DecidableEq

namespace CommittedState

variable (state : CommittedState)

def headOf (id : String) : Option ChatMsg := KeyedMap.lookup ChatMsg.id state.heads.entries id

def partOf (id : String) (k : Nat) : Option ChatPart :=
  KeyedMap.lookup partKey state.parts.entries (id, k)

def dropParts (id : String) (first : Nat) : CommittedState :=
  { state with parts := state.parts.keepWhere fun part => !(part.id = id && first ≤ part.k) }

def applyRow : ChatRow → CommittedState
  | .msg head => ({ state with heads := state.heads.set head }).dropParts head.id
        head.body.partCount
  | .part part => { state with parts := state.parts.set part }
  | .del del =>
    match del.k with
    | none => ({ state with heads := state.heads.keepWhere (·.id ≠ del.id) }).dropParts del.id 0
    | some k =>
      { state with parts := state.parts.keepWhere fun part => !(part.id = del.id && part.k = k) }
  | .metadata metadata => { state with metadata := some metadata }
  | .commit _ => state

def applyRows (rows : List ChatRow) : CommittedState := rows.foldl applyRow state

def isComplete (head : ChatMsg) : Bool :=
  (List.range head.body.partCount).all fun k =>
    (state.partOf head.id k).map (·.rev) = head.body.partRevs[k]?

def verify (hashes : ChatHashes) (commit : ChatCommit) : Option KeyedFoldRejectReason :=
  let metaRev := (state.metadata.map (·.rev)).getD 0
  if state.heads.entries.any fun head => !state.isComplete head then some .incompleteBubble
  else if state.heads.entries.length ≠ commit.liveCount ∨ metaRev ≠ commit.metaRev then
    some .digestMismatch
  else if computeChatCommitDigest hashes (state.heads.entries.map fun head => (head.id, head.rev))
      metaRev = commit.digest then none
  else some .digestMismatch

def writerChanged (commit : ChatCommit) : Bool := state.commit.any (·.writer ≠ commit.writer)

def ingestCommit (hashes : ChatHashes) (rows : List ChatRow) (commit : ChatCommit) :
    Except KeyedFoldRejectReason CommittedState :=
  let next := (if state.writerChanged commit then {} else state).applyRows rows
  match next.verify hashes commit with
  | some reason => .error reason
  | none => .ok { next with commit := some commit }

end CommittedState

/-! ## What rows leave of a head and of a part -/

def headStep (id : String) (held : Option ChatMsg) : ChatRow → Option ChatMsg
  | .msg head => if head.id = id then some head else held
  | .del del => if del.k = none ∧ del.id = id then none else held
  | _ => held

def partStep (id : String) (k : Nat) (held : Option ChatPart) : ChatRow → Option ChatPart
  | .msg head => if head.id = id ∧ head.body.partCount ≤ k then none else held
  | .part part => if partKey part = (id, k) then some part else held
  | .del del => if del.id = id ∧ del.k.all (· = k) then none else held
  | _ => held

def metaStep (held : Option ChatMeta) : ChatRow → Option ChatMeta
  | .metadata metadata => some metadata
  | _ => held

namespace CommittedState

variable {state : CommittedState}

@[simp] theorem headOf_dropParts (id other : String) (first : Nat) :
    (state.dropParts other first).headOf id = state.headOf id := rfl

theorem partOf_dropParts (id other : String) (first k : Nat) :
    (state.dropParts other first).partOf id k =
      if other = id ∧ first ≤ k then none else state.partOf id k := by
  have filtered := @lookup_filter ChatPart _ _ partKey state.parts.entries
    (fun key => !(decide (key.1 = other) && decide (first ≤ key.2))) (id, k)
  rw [partOf, dropParts, keepWhere]
  refine filtered.trans ?_
  by_cases dropped : other = id ∧ first ≤ k
  · simp [dropped]
  have apart := Decidable.not_and_iff_not_or_not.mp
    fun both : id = other ∧ first ≤ k => dropped ⟨both.1.symm, both.2⟩
  rw [if_neg dropped, partOf, if_pos]
  simpa using apart

theorem headOf_applyRow (id : String) (row : ChatRow) :
    (state.applyRow row).headOf id = headStep id (state.headOf id) row := by
  cases row with
  | msg head =>
    rw [applyRow, headOf_dropParts, headStep]
    exact lookup_insertEntry (fun _ _ => Iff.rfl) id
  | del del =>
    cases part : del.k with
    | some k => simp [applyRow, part, headStep, headOf]
    | none =>
      have filtered := @lookup_filter ChatMsg _ _ ChatMsg.id state.heads.entries
        (fun key => decide (key ≠ del.id)) id
      have read : (state.applyRow (.del del)).headOf id =
          if decide (id ≠ del.id) = true then state.headOf id else none := by
        rw [applyRow, part]
        exact filtered
      rw [read, headStep]
      by_cases asked : del.id = id
      · simp [part, asked]
      · simp [part, asked, Ne.symm asked]
  | part part => rfl
  | metadata metadata => rfl
  | commit commit => rfl

theorem partOf_applyRow (id : String) (k : Nat) (row : ChatRow) :
    (state.applyRow row).partOf id k = partStep id k (state.partOf id k) row := by
  cases row with
  | msg head =>
    rw [applyRow, partOf_dropParts, partStep]
    rfl
  | part part => exact lookup_insertEntry (fun _ _ => Iff.rfl) (id, k)
  | del del =>
    cases part : del.k with
    | none =>
      have dropped := @partOf_dropParts
        { state with heads := state.heads.keepWhere (·.id ≠ del.id) } id del.id 0 k
      have read : (state.applyRow (.del del)).partOf id k =
          if del.id = id ∧ 0 ≤ k then none else state.partOf id k := by
        rw [applyRow, part]
        exact dropped
      rw [read, partStep]
      simp [part]
    | some deleted =>
      have filtered := @lookup_filter ChatPart _ _ partKey state.parts.entries
        (fun key => !(decide (key.1 = del.id) && decide (key.2 = deleted))) (id, k)
      have read : (state.applyRow (.del del)).partOf id k =
          if (!(decide (id = del.id) && decide (k = deleted))) = true then state.partOf id k
          else none := by
        rw [applyRow, part]
        exact filtered
      rw [read, partStep]
      by_cases hit : del.id = id ∧ deleted = k
      · simp [part, hit]
      have apart := Decidable.not_and_iff_not_or_not.mp
        fun both : id = del.id ∧ k = deleted => hit ⟨both.1.symm, both.2.symm⟩
      rw [if_neg (c := del.id = id ∧ _) (by simpa [part] using hit), if_pos]
      simpa using apart
  | metadata metadata => rfl
  | commit commit => rfl

theorem metadata_applyRow (row : ChatRow) :
    (state.applyRow row).metadata = metaStep state.metadata row := by
  cases row with
  | del del => cases part : del.k <;> simp [applyRow, part, metaStep, dropParts]
  | _ => rfl

theorem read_applyRows {β : Type} (read : CommittedState → β) (step : β → ChatRow → β)
    (each : ∀ (state : CommittedState) row, read (state.applyRow row) = step (read state) row)
    (rows : List ChatRow) (state : CommittedState) :
    read (state.applyRows rows) = rows.foldl step (read state) := by
  induction rows generalizing state with
  | nil => rfl
  | cons row rows induction =>
    have rest := induction (state.applyRow row)
    rw [each] at rest
    exact rest

end CommittedState

theorem foldl_settles {α ρ : Type} {step : Option α → ρ → Option α} {settled : Option α}
    {rows : List ρ} (each : ∀ row ∈ rows, ∀ held, step held row = held ∨ step held row = settled)
    (held : Option α) (settles : held = settled ∨ ∃ row ∈ rows, ∀ held, step held row = settled) :
    rows.foldl step held = settled := by
  induction rows generalizing held with
  | nil => exact settles.resolve_right fun ⟨_, member, _⟩ => not_mem_nil member
  | cons row rows induction =>
    refine induction (forall_mem_cons.mp each).2 _ ?_
    rcases settles with rfl | ⟨one, member, sets⟩
    · exact .inl ((each row mem_cons_self held).elim id id)
    rcases mem_cons.mp member with rfl | later
    · exact .inl (sets held)
    · exact .inr ⟨one, later, sets⟩

/-! ## Frames that need no state before them -/

structure HoldsLive (hashes : ChatHashes) (rows : List ChatRow) (commit : ChatCommit)
    (live : List (String × Nat)) : Prop where
  headOnce : ∀ head other, .msg head ∈ rows → .msg other ∈ rows → other.id = head.id → other = head
  keepsHeads : ∀ head del, .msg head ∈ rows → .del del ∈ rows → del.id = head.id →
    ∃ k, del.k = some k ∧ head.body.partCount ≤ k
  wholeBodies : ∀ head, .msg head ∈ rows → ∀ k < head.body.partCount, ∃ part, .part part ∈ rows ∧
    partKey part = (head.id, k) ∧ head.body.partRevs[k]? = some part.rev
  partOnce : ∀ part other, .part part ∈ rows → .part other ∈ rows →
    partKey other = partKey part → other = part
  metaRow : ∃ metadata, .metadata metadata ∈ rows ∧ metadata.rev = commit.metaRev
  metaOnce : ∀ metadata other, .metadata metadata ∈ rows → .metadata other ∈ rows → other = metadata
  liveOnce : (live.map (·.1)).Nodup
  liveIff : ∀ pair, pair ∈ live ↔ ∃ head, .msg head ∈ rows ∧ (head.id, head.rev) = pair
  count : commit.liveCount = live.length
  digest : commit.digest = computeChatCommitDigest hashes live commit.metaRev

namespace HoldsLive

variable {hashes : ChatHashes} {rows : List ChatRow} {commit : ChatCommit}
  {live : List (String × Nat)}

variable {head : ChatMsg}

theorem headOf_of_mem (holds : HoldsLive hashes rows commit live) (member : .msg head ∈ rows) :
    (CommittedState.applyRows {} rows).headOf head.id = some head := by
  rw [CommittedState.read_applyRows (CommittedState.headOf · head.id) _
    (fun _ row => CommittedState.headOf_applyRow head.id row)]
  refine foldl_settles ?_ _ (.inr ⟨.msg head, member, fun _ => by simp [headStep]⟩)
  intro row inside held
  cases row with
  | msg other =>
    by_cases same : other.id = head.id
    · right
      simp [headStep, holds.headOnce head other member inside same]
    · left
      simp [headStep, same]
  | del del =>
    left
    rw [headStep, if_neg]
    rintro ⟨noPart, same⟩
    obtain ⟨k, isPart, -⟩ := holds.keepsHeads head del member inside same
    simp [noPart] at isPart
  | part part | metadata metadata | commit commit => exact .inl rfl

theorem mem_of_headOf {id : String}
    (found : (CommittedState.applyRows {} rows).headOf id = some head) : .msg head ∈ rows := by
  rw [CommittedState.read_applyRows (CommittedState.headOf · id) _
    (fun _ row => CommittedState.headOf_applyRow id row)] at found
  have source : ∀ (rows : List ChatRow) (held : Option ChatMsg),
      rows.foldl (headStep id) held = some head → held = some head ∨ .msg head ∈ rows := by
    intro rows
    induction rows with
    | nil => exact fun held same => .inl same
    | cons row rows induction =>
      intro held same
      rcases induction _ same with settled | later
      · cases row with
        | msg other =>
          by_cases asked : other.id = id
          · simp only [headStep, asked, if_true, Option.some.injEq] at settled
            exact .inr (settled ▸ mem_cons_self)
          · exact .inl (by simpa [headStep, asked] using settled)
        | del del =>
          by_cases gone : del.k = none ∧ del.id = id
          · simp [headStep, gone] at settled
          · exact .inl (by simpa [headStep, gone] using settled)
        | part part | metadata metadata | commit commit => exact .inl settled
      · exact .inr (.tail _ later)
  refine (source rows _ found).resolve_left fun held => ?_
  cases held

section

variable (holds : HoldsLive hashes rows commit live)
include holds

theorem partOf_of_mem (member : .msg head ∈ rows) {part : ChatPart} (inRows : .part part ∈ rows)
    {k : Nat} (small : k < head.body.partCount) (key : partKey part = (head.id, k)) :
    (CommittedState.applyRows {} rows).partOf head.id k = some part := by
  rw [CommittedState.read_applyRows (CommittedState.partOf · head.id k) _
    (fun _ row => CommittedState.partOf_applyRow head.id k row)]
  refine foldl_settles ?_ _ (.inr ⟨.part part, inRows, fun _ => by rw [partStep, if_pos key]⟩)
  intro row inside held
  cases row with
  | msg other =>
    left
    rw [partStep, if_neg]
    rintro ⟨same, dropped⟩
    rw [holds.headOnce head other member inside same] at dropped
    omega
  | part other =>
    by_cases same : partKey other = (head.id, k)
    · right
      rw [partStep, if_pos same, holds.partOnce part other inRows inside (same.trans key.symm)]
    · left
      rw [partStep, if_neg same]
  | del del =>
    left
    rw [partStep, if_neg]
    rintro ⟨same, hit⟩
    obtain ⟨deleted, isPart, beyond⟩ := holds.keepsHeads head del member inside same
    have equal : deleted = k := by simpa [isPart] using hit
    omega
  | metadata metadata | commit commit => exact .inl rfl

theorem metadata_rev : ((CommittedState.applyRows {} rows).metadata.map (·.rev)).getD 0 =
    commit.metaRev := by
  obtain ⟨metadata, member, rev⟩ := holds.metaRow
  have settled : (CommittedState.applyRows {} rows).metadata = some metadata := by
    rw [CommittedState.read_applyRows CommittedState.metadata _
      (fun _ row => CommittedState.metadata_applyRow row)]
    refine foldl_settles ?_ _ (.inr ⟨.metadata metadata, member, fun _ => rfl⟩)
    intro row inside held
    cases row with
    | metadata other => exact .inr (by rw [metaStep, holds.metaOnce metadata other member inside])
    | _ => exact .inl rfl
  rw [settled]
  exact rev

theorem perm_live : ((CommittedState.applyRows {} rows).heads.entries.map fun head => (head.id,
      head.rev)).Perm live := by
  have headsOnce := (CommittedState.applyRows {} rows).heads.nodup
  have pairsOnce : ((CommittedState.applyRows {} rows).heads.entries.map
      fun head => (head.id, head.rev)).Nodup := by
    refine List.Nodup.of_map Prod.fst ?_
    rw [map_map]
    exact headsOnce
  refine (perm_ext_iff_of_nodup pairsOnce (List.Nodup.of_map _ holds.liveOnce)).mpr fun pair => ?_
  rw [holds.liveIff, mem_map]
  constructor
  · rintro ⟨head, member, same⟩
    have found : (CommittedState.applyRows {} rows).headOf head.id = some head :=
      lookup_of_mem
        (fun entry inside equal => inj_on_of_nodup_map headsOnce inside member equal) member
    exact ⟨head, mem_of_headOf found, same⟩
  · rintro ⟨head, member, same⟩
    exact ⟨head, mem_of_lookup (holds.headOf_of_mem member), same⟩

theorem verify : (CommittedState.applyRows {} rows).verify hashes commit = none := by
  have complete : ((CommittedState.applyRows {} rows).heads.entries.any
      fun head => !(CommittedState.applyRows {} rows).isComplete head) = false := by
    rw [any_eq_false]
    intro head inside
    have found : (CommittedState.applyRows {} rows).headOf head.id = some head :=
      lookup_of_mem (fun entry member equal => inj_on_of_nodup_map
        (CommittedState.applyRows {} rows).heads.nodup member inside equal) inside
    have member := mem_of_headOf found
    have all : (CommittedState.applyRows {} rows).isComplete head = true := by
      refine all_eq_true.mpr fun k small => ?_
      obtain ⟨part, inRows, key, rev⟩ := holds.wholeBodies head member k (mem_range.mp small)
      rw [holds.partOf_of_mem member inRows (mem_range.mp small) key, rev]
      simp
    simp [all]
  have length : (CommittedState.applyRows {} rows).heads.entries.length = commit.liveCount := by
    rw [holds.count, ← holds.perm_live.length_eq, length_map]
  have digest : computeChatCommitDigest hashes ((CommittedState.applyRows {} rows).heads.entries.map
      fun head => (head.id, head.rev)) commit.metaRev = commit.digest := by
    rw [holds.digest, computeChatCommitDigest_perm holds.perm_live]
  rw [CommittedState.verify]
  simp only [complete, holds.metadata_rev, length, digest]
  simp

theorem ingestCommit {reader : CommittedState} (changed : reader.writerChanged commit = true) : ∃
    next, reader.ingestCommit hashes rows commit = .ok next := by
  rw [CommittedState.ingestCommit]
  simp only [changed, if_true, holds.verify]
  exact ⟨_, rfl⟩

end

end HoldsLive

end Adhdev.KeyedTranscript
