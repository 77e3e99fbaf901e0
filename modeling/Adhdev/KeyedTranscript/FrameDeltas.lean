import Adhdev.KeyedTranscript.BaseFrames
import Adhdev.KeyedTranscript.RejectedCommits

/-! # Frame deltas and the view -/

namespace Adhdev.KeyedTranscript

open List CommittedState AppliedFrame

/-! ## Applying deltas -/

/-- What a consumer of deltas holds. -/
abbrev MessageMap := String → Option ReplicatedTranscriptMessage

def deleteAll (map : MessageMap) (ids : List String) : MessageMap :=
  ids.foldl (fun held id => Function.update held id none) map

variable {target map : MessageMap}

variable {delta : KeyedTranscriptFrameDelta}

namespace CommittedState

variable {state : CommittedState}

variable {message : ReplicatedTranscriptMessage}

theorem materializeMessage_of_reads {one two : CommittedState} {id : String}
    (head : one.headOf id = two.headOf id) (parts : ∀ k, one.partOf id k = two.partOf id k) :
    one.materializeMessage id = two.materializeMessage id := by
  rw [materializeMessage, materializeMessage, head]
  cases held : two.headOf id with
  | none => rfl
  | some found =>
    have body : one.bodyOf found = two.bodyOf found := by
      rw [bodyOf, bodyOf, id_of_headOf held]
      simp only [parts]
    rw [Option.map_some, Option.map_some, messageOf, messageOf, body]

end CommittedState

theorem SameReads.materializeMessage {one two : CommittedState} (same : SameReads one two) :
    one.materializeMessage = two.materializeMessage :=
  funext fun id => materializeMessage_of_reads (same.heads id) (same.parts id)

/-! ## What a frame touches -/

section Frame

variable {options : KeyedTranscriptFolderOptions} {start : CommittedState} {applied : AppliedFrame}

structure Tracks (start : CommittedState) (applied : AppliedFrame) : Prop where
  heads : ∀ id, id ≠ "" → id ∉ applied.touched → applied.state.headOf id = start.headOf id
  parts : ∀ id, id ≠ "" → id ∉ applied.touched → ∀ k,
    applied.state.partOf id k = start.partOf id k
  metadata : applied.metaChanged = true → applied.state.metadata.isSome = true

theorem touched_after {row : ChatRow} {effect id : String} (ordinary : effect ≠ "meta")
    (named : id ≠ "") (untouched : id ∉ (applied.after row effect).touched) :
    id ∉ applied.touched ∧ effect ≠ id := by
  rw [AppliedFrame.after] at untouched
  dsimp only at untouched
  split_ifs at untouched with skipped
  · refine ⟨untouched, ?_⟩
    rintro rfl
    rw [Bool.or_eq_true, Bool.or_eq_true, decide_eq_true_eq, decide_eq_true_eq] at skipped
    rcases skipped with (special | empty) | present
    · exact ordinary special
    · exact named empty
    · obtain ⟨other, member, same⟩ := any_eq_true.mp present
      exact untouched (of_decide_eq_true same ▸ member)
  · rw [mem_append, mem_singleton, not_or] at untouched
    exact ⟨untouched.1, Ne.symm untouched.2⟩

theorem Tracks.after {row : ChatRow} {effect : String} (tracks : Tracks start applied)
    (ordinary : effect ≠ "meta")
    (heads : ∀ id, effect ≠ id → (applied.state.applyRow row).headOf id = applied.state.headOf id)
    (parts : ∀ id, effect ≠ id → ∀ k,
      (applied.state.applyRow row).partOf id k = applied.state.partOf id k)
    (metadata : (applied.state.applyRow row).metadata = applied.state.metadata) :
    Tracks start (applied.after row effect) where
  heads := by
    intro id named untouched
    obtain ⟨before, other⟩ := touched_after ordinary named untouched
    exact (heads id other).trans (tracks.heads id named before)
  parts := by
    intro id named untouched k
    obtain ⟨before, other⟩ := touched_after ordinary named untouched
    exact (parts id other k).trans (tracks.parts id named before k)
  metadata := by
    intro changed
    rw [AppliedFrame.after] at changed ⊢
    dsimp only at changed ⊢
    rw [decide_eq_false ordinary, Bool.or_false] at changed
    rw [metadata]
    exact tracks.metadata changed

variable {rows : List KeyedChatRow}

end Frame

/-! ## Which frames are shown whole -/

namespace KeyedTranscriptFolder

section Shows

variable (options : KeyedTranscriptFolderOptions) (hashes : ChatHashes)

end Shows

/-! ## What the deltas of a folder make up -/

section Mirrors

variable {options : KeyedTranscriptFolderOptions} {hashes : ChatHashes}
  {folder next : KeyedTranscriptFolder} {map : MessageMap}

structure Mirrors (folder : KeyedTranscriptFolder) (map : MessageMap) : Prop where
  unnamed : folder.state.headOf "" = none
  shown : folder.state.commit.isSome = true → map = folder.state.materializeMessage

theorem Mirrors.of_restores (mirrors : Mirrors folder map) (restores : Restores folder next) :
    Mirrors next map where
  unnamed := (restores.state.heads "").trans mirrors.unnamed
  shown := by
    intro committed
    rw [restores.state.commit] at committed
    rw [restores.state.materializeMessage]
    exact mirrors.shown committed

variable {state : CommittedState}

theorem Tracks.materializeMessage {start : CommittedState} {applied : AppliedFrame}
    (tracks : Tracks start applied) (unnamedStart : start.headOf "" = none)
    (unnamed : applied.state.headOf "" = none) {id : String} (untouched : id ∉ applied.touched) :
    start.materializeMessage id = applied.state.materializeMessage id := by
  by_cases named : id = ""
  · subst named
    rw [CommittedState.materializeMessage, CommittedState.materializeMessage, unnamed, unnamedStart]
    rfl
  · exact (materializeMessage_of_reads (tracks.heads id named untouched)
      (tracks.parts id named untouched)).symm

variable {commit : ChatCommit}

variable {rows : List KeyedChatRow}

section

variable (mirrors : Mirrors folder map)
include mirrors

end

end Mirrors

end KeyedTranscriptFolder

end Adhdev.KeyedTranscript
