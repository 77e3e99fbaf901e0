import Adhdev.KeyedTranscript.Reader

/-! # Taking back a rejected frame

A rolled back state may list its bubbles in another order. It reads as before.
-/

namespace Adhdev.KeyedTranscript

open List Option Bool CommittedState KeyedMap

structure SameReads (one two : CommittedState) : Prop where
  heads : ∀ id, one.headOf id = two.headOf id
  parts : ∀ id k, one.partOf id k = two.partOf id k
  metadata : one.metadata = two.metadata
  commit : one.commit = two.commit

namespace SameReads

variable {one two three : CommittedState}

theorem refl (state : CommittedState) : SameReads state state :=
  ⟨fun _ => rfl, fun _ _ => rfl, rfl, rfl⟩

theorem trans (first : SameReads one two) (second : SameReads two three) : SameReads one three :=
  ⟨fun id => (first.heads id).trans (second.heads id),
    fun id k => (first.parts id k).trans (second.parts id k),
    first.metadata.trans second.metadata, first.commit.trans second.commit⟩

end SameReads

namespace CommittedState

variable {state : CommittedState}

/-! ## What an undo step reads -/

variable {id : String}

theorem id_of_headOf {head : ChatMsg} (found : state.headOf id = some head) : head.id = id :=
  label_of_lookup found

theorem key_of_partOf {k : Nat} {part : ChatPart} (found : state.partOf id k = some part) :
    partKey part = (id, k) :=
  label_of_lookup found

theorem mem_heads {head : ChatMsg} :
    head ∈ state.heads.entries ↔ state.headOf head.id = some head := by
  constructor
  · intro member
    exact lookup_of_mem
      (fun entry inside same => inj_on_of_nodup_map state.heads.nodup inside member same) member
  · exact mem_of_lookup

theorem mem_parts {part : ChatPart} :
    part ∈ state.parts.entries ↔ state.partOf part.id part.k = some part := by
  constructor
  · intro member
    exact lookup_of_mem
      (fun entry inside same => inj_on_of_nodup_map state.parts.nodup inside member same) member
  · exact mem_of_lookup

theorem headOf_setHead (head : ChatMsg) (id : String) :
    ({ state with heads := state.heads.set head } : CommittedState).headOf id =
      if head.id = id then some head else state.headOf id :=
  lookup_insertEntry (fun _ _ => Iff.rfl) id

theorem headOf_dropHead (dropped id : String) :
    ({ state with heads := state.heads.keepWhere (·.id ≠ dropped) } : CommittedState).headOf id =
      if dropped = id then none else state.headOf id := by
  have filtered := @lookup_filter ChatMsg _ _ ChatMsg.id state.heads.entries
    (fun key => decide (key ≠ dropped)) id
  refine filtered.trans ?_
  by_cases asked : dropped = id
  · simp [asked]
  · rw [if_neg asked, if_pos (decide_eq_true (Ne.symm asked))]
    rfl

theorem partOf_setPart (part : ChatPart) (id : String) (k : Nat) :
    ({ state with parts := state.parts.set part } : CommittedState).partOf id k =
      if partKey part = (id, k) then some part else state.partOf id k :=
  lookup_insertEntry (fun _ _ => Iff.rfl) (id, k)

theorem partOf_dropPart (dropped : String) (slot : Nat) (id : String) (k : Nat) : ({ state with
        parts := state.parts.keepWhere fun part => !(part.id = dropped && part.k = slot) } :
      CommittedState).partOf id k =
      if dropped = id ∧ slot = k then none else state.partOf id k := by
  have filtered := @lookup_filter ChatPart _ _ partKey state.parts.entries
    (fun key => !(decide (key.1 = dropped) && decide (key.2 = slot))) (id, k)
  refine filtered.trans ?_
  by_cases asked : dropped = id ∧ slot = k
  · simp [asked]
  have apart := Decidable.not_and_iff_not_or_not.mp
    fun both : id = dropped ∧ k = slot => asked ⟨both.1.symm, both.2.symm⟩
  rw [if_neg asked, if_pos]
  · rfl
  · simpa using apart

variable {one two : CommittedState}

theorem undoStep_congr (same : SameReads one two) (op : UndoOp) :
    SameReads (one.undoStep op) (two.undoStep op) := by
  cases op with
  | head id prev =>
    cases prev with
    | some prev =>
      exact ⟨fun id => by rw [undoStep, undoStep, headOf_setHead, headOf_setHead, same.heads],
        same.parts, same.metadata, same.commit⟩
    | none =>
      exact ⟨fun id => by rw [undoStep, undoStep, headOf_dropHead, headOf_dropHead, same.heads],
        same.parts, same.metadata, same.commit⟩
  | part id k prev =>
    cases prev with
    | some prev =>
      exact ⟨same.heads,
        fun id k => by rw [undoStep, undoStep, partOf_setPart, partOf_setPart, same.parts],
        same.metadata, same.commit⟩
    | none =>
      exact ⟨same.heads,
        fun id k => by rw [undoStep, undoStep, partOf_dropPart, partOf_dropPart, same.parts],
        same.metadata, same.commit⟩
  | metadata prev => exact ⟨same.heads, same.parts, rfl, same.commit⟩

theorem rollback_nil : state.rollback [] = state := rfl

theorem rollback_cons (op : UndoOp) (undo : List UndoOp) :
    state.rollback (op :: undo) = (state.rollback undo).undoStep op := by
  rw [rollback, rollback, reverse_cons, foldl_append]
  rfl

theorem rollback_append (first second : List UndoOp) :
    state.rollback (first ++ second) = (state.rollback second).rollback first := by
  rw [rollback, rollback, rollback, reverse_append, foldl_append]

theorem rollback_congr (same : SameReads one two) (undo : List UndoOp) :
    SameReads (one.rollback undo) (two.rollback undo) := by
  induction undo with
  | nil => exact same
  | cons op undo induction =>
    rw [rollback_cons, rollback_cons]
    exact undoStep_congr induction op

/-! ## Taking back one row -/

theorem rollback_parts (restored : CommittedState) {parts : List ChatPart}
    (held : ∀ part ∈ parts, restored.partOf part.id part.k = some part) :
    let undone := state.rollback (parts.map fun part => .part part.id part.k (some part))
    (∀ id, undone.headOf id = state.headOf id) ∧ undone.metadata = state.metadata ∧
      undone.commit = state.commit ∧
      ∀ id k, undone.partOf id k = restored.partOf id k ∨
        (∀ part ∈ parts, partKey part ≠ (id, k)) ∧ undone.partOf id k = state.partOf id k := by
  induction parts with
  | nil => exact ⟨fun _ => rfl, rfl, rfl, fun _ _ => .inr ⟨fun _ member => (by cases member), rfl⟩⟩
  | cons part parts induction =>
    obtain ⟨heads, metadata, commit, slots⟩ := induction (forall_mem_cons.mp held).2
    rw [map_cons, rollback_cons]
    refine ⟨heads, metadata, commit, fun id k => ?_⟩
    rw [undoStep, partOf_setPart]
    by_cases here : partKey part = (id, k)
    · rw [if_pos here, ← held part mem_cons_self]
      obtain ⟨rfl, rfl⟩ := Prod.mk.inj here
      exact .inl rfl
    rw [if_neg here]
    refine (slots id k).imp_right fun ⟨absent, same⟩ => ⟨?_, same⟩
    intro other member
    rcases mem_cons.mp member with rfl | later
    · exact here
    · exact absent other later

theorem rollback_undoParts {dropped undone : CommittedState} {first : Nat}
    (isUndone : undone = dropped.rollback (state.undoParts id first))
    (drops : ∀ other k, dropped.partOf other k = if id = other ∧ first ≤ k then none else
      state.partOf other k) :
    (∀ other, undone.headOf other = dropped.headOf other) ∧
      undone.metadata = dropped.metadata ∧ undone.commit = dropped.commit ∧
      ∀ other k, undone.partOf other k = state.partOf other k := by
  have held : ∀ part ∈ state.parts.entries.filter fun part => part.id = id && first ≤ part.k,
      state.partOf part.id part.k = some part :=
    fun part member => mem_parts.mp (mem_filter.mp member).1
  obtain ⟨heads, metadata, commit, slots⟩ := @rollback_parts dropped state _ held
  rw [undoParts] at isUndone
  rw [isUndone]
  refine ⟨heads, metadata, commit, fun other k => ?_⟩
  rcases slots other k with same | ⟨absent, same⟩
  · exact same
  refine same.trans ((drops other k).trans ?_)
  by_cases inside : id = other ∧ first ≤ k
  · rw [if_pos inside]
    cases found : state.partOf other k with
    | none => rfl
    | some part =>
      have key := key_of_partOf found
      obtain ⟨sameId, sameK⟩ := Prod.mk.inj key
      have member : part ∈ state.parts.entries := mem_of_lookup found
      refine absurd key (absent part (mem_filter.mpr ⟨member, ?_⟩))
      rw [and_eq_true, decide_eq_true_eq, decide_eq_true_eq, sameId, sameK]
      exact ⟨inside.1.symm, inside.2⟩
  · rw [if_neg inside]

theorem undoStep_head {undone : CommittedState}
    (heads : ∀ other, undone.headOf other = if id = other then undone.headOf other else
      state.headOf other) (parts : ∀ other k, undone.partOf other k = state.partOf other k)
    (metadata : undone.metadata = state.metadata) (commit : undone.commit = state.commit) :
    SameReads (undone.undoStep (.head id (state.headOf id))) state := by
  cases found : state.headOf id with
  | none =>
    refine ⟨fun other => ?_, parts, metadata, commit⟩
    rw [undoStep, headOf_dropHead]
    by_cases here : id = other
    · rw [if_pos here, ← here, found]
    · rw [if_neg here, heads, if_neg here]
  | some head =>
    refine ⟨fun other => ?_, parts, metadata, commit⟩
    rw [undoStep, headOf_setHead, id_of_headOf found]
    by_cases here : id = other
    · rw [if_pos here, ← here, found]
    · rw [if_neg here, heads, if_neg here]

theorem rollback_undoOf (row : ChatRow) :
    SameReads ((state.applyRow row).rollback (state.undoOf row)) state := by
  cases row with
  | msg head =>
    have drops : ∀ other k, (state.applyRow (.msg head)).partOf other k =
        if head.id = other ∧ head.body.partCount ≤ k then none else state.partOf other k :=
      fun other k => partOf_applyRow other k (.msg head)
    obtain ⟨heads, metadata, commit, parts⟩ := rollback_undoParts rfl drops
    rw [undoOf, rollback_cons]
    refine undoStep_head (fun other => ?_) parts metadata commit
    by_cases here : head.id = other
    · rw [if_pos here]
    · rw [if_neg here, heads, headOf_applyRow, headStep, if_neg here]
  | part part =>
    have parts : ∀ other k, (state.applyRow (.part part)).partOf other k =
        if partKey part = (other, k) then some part else state.partOf other k :=
      fun other k => partOf_applyRow other k (.part part)
    rw [undoOf, rollback_cons, rollback_nil]
    cases found : state.partOf part.id part.k with
    | none =>
      refine ⟨fun _ => rfl, fun other k => ?_, rfl, rfl⟩
      rw [undoStep, partOf_dropPart, parts]
      by_cases here : part.id = other ∧ part.k = k
      · rw [if_pos here, ← here.1, ← here.2, found]
      · rw [if_neg here, if_neg fun same => here (Prod.mk.inj same)]
    | some prev =>
      refine ⟨fun _ => rfl, fun other k => ?_, rfl, rfl⟩
      rw [undoStep, partOf_setPart, parts, key_of_partOf found]
      by_cases here : (part.id, part.k) = (other, k)
      · obtain ⟨rfl, rfl⟩ := Prod.mk.inj here
        rw [if_pos rfl, found]
      · rw [if_neg here, if_neg here]
  | del del =>
    cases slot : del.k with
    | none =>
      have drops : ∀ other k, (state.applyRow (.del del)).partOf other k =
          if del.id = other ∧ 0 ≤ k then none else state.partOf other k := by
        intro other k
        rw [partOf_applyRow, partStep, slot]
        simp
      obtain ⟨heads, metadata, commit, parts⟩ := rollback_undoParts rfl drops
      rw [undoOf, slot]
      dsimp only
      rw [rollback_cons]
      refine undoStep_head (fun other => ?_) parts ?_ ?_
      · by_cases here : del.id = other
        · rw [if_pos here]
        · rw [if_neg here, heads, headOf_applyRow, headStep, if_neg fun both => here both.2]
      · rw [metadata, metadata_applyRow]
        rfl
      · rw [commit, applyRow, slot]
        rfl
    | some k =>
      have applied : state.applyRow (.del del) =
          { state with
            parts := state.parts.keepWhere fun part => !(part.id = del.id && part.k = k) } := by
        rw [applyRow, slot]
      rw [undoOf, slot, applied]
      dsimp only
      cases found : state.partOf del.id k with
      | none =>
        refine ⟨fun _ => rfl, fun other other' => ?_, rfl, rfl⟩
        refine (partOf_dropPart del.id k other other').trans ?_
        by_cases here : del.id = other ∧ k = other'
        · rw [if_pos here, ← here.1, ← here.2, found]
        · rw [if_neg here]
      | some prev =>
        rw [if_pos (isSome_some), rollback_cons, rollback_nil]
        refine ⟨fun _ => rfl, fun other other' => ?_, rfl, rfl⟩
        rw [undoStep, partOf_setPart, key_of_partOf found, partOf_dropPart]
        by_cases here : del.id = other ∧ k = other'
        · rw [if_pos (Prod.ext here.1 here.2), ← here.1, ← here.2, found]
        · rw [if_neg here, if_neg fun same => here (Prod.mk.inj same)]
  | metadata metadata => exact ⟨fun _ => rfl, fun _ _ => rfl, rfl, rfl⟩
  | commit commit => exact SameReads.refl state

end CommittedState

/-! ## Taking back a frame -/

section Frame

variable {options : KeyedTranscriptFolderOptions} {state : CommittedState} {applied : AppliedFrame}

def Undoes (state : CommittedState) (applied : AppliedFrame) : Prop :=
  SameReads (applied.state.rollback applied.undo) state

section

variable (undoes : Undoes state applied)
include undoes

theorem undoes_after (row : ChatRow) (effect : String) : Undoes state (applied.after row effect) :=
    by
  rw [Undoes, AppliedFrame.after, rollback_append]
  exact (rollback_congr (rollback_undoOf row) applied.undo).trans undoes

theorem undoes_apply (row : KeyedChatRow) : Undoes state (applied.apply options row) := by
  rw [AppliedFrame.apply]
  cases row.payload with
  | unknown frame => exact undoes
  | malformed isCommit frame =>
    dsimp only
    split_ifs <;> exact undoes
  | known known =>
    dsimp only
    split_ifs
    · cases known with
      | msg head | part part | del del => exact undoes_after undoes _ _
      | metadata metadata =>
        rw [AppliedFrame.applyKnown]
        split_ifs
        · exact undoes
        · exact undoes_after undoes _ _
      | commit commit => exact undoes
    · exact undoes

theorem undoes_foldl (rows : List KeyedChatRow) : Undoes state
    (rows.foldl (AppliedFrame.apply options) applied) := by
  induction rows generalizing applied with
  | nil => exact undoes
  | cons row rows induction => exact induction (undoes_apply undoes row)

end

theorem rollback_applyFrame (state : CommittedState) (rows : List KeyedChatRow) :
    SameReads ((applyFrame options state rows).state.rollback (applyFrame options state rows).undo)
      state :=
  @undoes_foldl options state { state } (SameReads.refl state) rows

end Frame

/-! ## What a state shows -/

def charUnits (character : Char) : List Nat :=
  if character.toNat < 0x10000 then [character.toNat]
  else
    [0xd800 + (character.toNat - 0x10000) / 0x400, 0xdc00 + (character.toNat - 0x10000) % 0x400]

theorem toNat_valid (character : Char) :
    character.toNat < 0xd800 ∨ 0xdfff < character.toNat ∧ character.toNat < 0x110000 :=
  character.valid

theorem charUnits_append {one two : Char} {ones twos : List Nat}
    (same : charUnits one ++ ones = charUnits two ++ twos) : one = two ∧ ones = twos := by
  have oneValid := toNat_valid one
  have twoValid := toNat_valid two
  rw [charUnits, charUnits] at same
  split_ifs at same
  · obtain ⟨first, rest⟩ := cons.inj same
    exact ⟨Char.toNat_inj.mp first, rest⟩
  · have first := (cons.inj same).1
    omega
  · have first := (cons.inj same).1
    omega
  obtain ⟨first, later⟩ := cons.inj same
  obtain ⟨second, rest⟩ := cons.inj later
  exact ⟨Char.toNat_inj.mp (by omega), rest⟩

theorem charUnits_ne_nil (character : Char) : charUnits character ≠ [] := by
  rw [charUnits]
  split_ifs <;> exact cons_ne_nil _ _

theorem flatMap_charUnits_injective {ones twos : List Char}
    (same : ones.flatMap charUnits = twos.flatMap charUnits) : ones = twos := by
  induction ones generalizing twos with
  | nil =>
    cases twos with
    | nil => rfl
    | cons two twos =>
      rw [flatMap_nil, flatMap_cons] at same
      exact absurd (append_eq_nil_iff.mp same.symm).1 (charUnits_ne_nil two)
  | cons one ones induction =>
    cases twos with
    | nil =>
      rw [flatMap_nil, flatMap_cons] at same
      exact absurd (append_eq_nil_iff.mp same).1 (charUnits_ne_nil one)
    | cons two twos =>
      rw [flatMap_cons, flatMap_cons] at same
      obtain ⟨rfl, rest⟩ := charUnits_append same
      rw [induction rest]

theorem codeUnits_injective {one two : String} (same : codeUnits one = codeUnits two) : one = two :=
  String.toList_injective (flatMap_charUnits_injective same)

instance totalChatOrdLe : Std.Total chatOrdLe where
  total one two := le_total (chatOrdKey one) (chatOrdKey two)

instance transChatOrdLe : IsTrans ReplicatedTranscriptMessage chatOrdLe where
  trans _ _ _ first second := le_trans (α := List Nat ×ₗ List Nat) first second

theorem messageId_of_chatOrdLe {one two : ReplicatedTranscriptMessage} (first : chatOrdLe one two)
    (second : chatOrdLe two one) : one.messageId = two.messageId := by
  have keys : chatOrdKey one = chatOrdKey two := le_antisymm first second
  exact codeUnits_injective (congrArg Prod.snd (toLex.injective keys))

theorem sorted_perm {one two : List ReplicatedTranscriptMessage} (perm : one.Perm two)
    (distinct : (one.map (·.messageId)).Nodup) :
    one.insertionSort chatOrdLe = two.insertionSort chatOrdLe := by
  refine List.Perm.eq_of_pairwise (fun a b inOne inTwo first second => ?_)
    (pairwise_insertionSort chatOrdLe one) (pairwise_insertionSort chatOrdLe two)
    (((perm_insertionSort chatOrdLe one).trans perm).trans
      (perm_insertionSort chatOrdLe two).symm)
  rw [mem_insertionSort] at inOne inTwo
  exact inj_on_of_nodup_map distinct inOne (perm.mem_iff.mpr inTwo)
    (messageId_of_chatOrdLe first second)

namespace SameReads

variable {one two : CommittedState}

section

variable (same : SameReads one two)
include same

theorem heads_perm : one.heads.entries.Perm two.heads.entries := by
  refine (perm_ext_iff_of_nodup one.heads.nodup.of_map two.heads.nodup.of_map).mpr ?_
  intro head
  rw [mem_heads, mem_heads, same.heads]

theorem isComplete (head : ChatMsg) : one.isComplete head = two.isComplete head := by
  rw [CommittedState.isComplete, CommittedState.isComplete]
  simp only [same.parts]

theorem verify (hashes : ChatHashes) (commit : ChatCommit) : one.verify hashes commit = two.verify
    hashes commit := by
  have complete : (one.heads.entries.any fun head => !one.isComplete head) =
      two.heads.entries.any fun head => !two.isComplete head := by
    simp only [same.isComplete]
    exact same.heads_perm.any_eq
  have digest := fun metaRev =>
    @computeChatCommitDigest_perm hashes _ _
      (same.heads_perm.map fun head => (head.id, head.rev)) metaRev
  rw [CommittedState.verify, CommittedState.verify]
  simp only [complete, same.metadata, same.heads_perm.length_eq, digest]

theorem messageOf (head : ChatMsg) : one.messageOf head = two.messageOf head := by
  rw [CommittedState.messageOf, CommittedState.messageOf, CommittedState.bodyOf, bodyOf]
  simp only [same.parts]

theorem materializeMessages : one.materializeMessages = two.materializeMessages := by
  have distinct : ((one.heads.entries.map one.messageOf).map (·.messageId)).Nodup := by
    rw [List.map_map]
    exact one.heads.nodup
  refine (sorted_perm ?_ distinct)
  rw [funext same.messageOf]
  exact same.heads_perm.map _

theorem materialize : one.materialize = two.materialize := by
  rw [CommittedState.materialize, CommittedState.materialize, CommittedState.materializeMeta,
    materializeMeta, same.materializeMessages, same.metadata, same.commit,
    same.heads_perm.length_eq]

end

end SameReads

end Adhdev.KeyedTranscript
