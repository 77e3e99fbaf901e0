import Adhdev.MeshChunking.Split

/-! # The bounds of a split frame

`splitMeshFrame`: both loops end, and every envelope fits in a message.
-/

namespace Adhdev.MeshChunking

open Text List Option Bool

/-! ## The loops -/

section Loops

variable (chunkId : String) (version : Nat)

/-- A run of the inner loop, from a length to the one it ends with. -/
inductive Fitting (index : Nat) (rest : Text) : Nat → Nat → Prop
  | empty : Fitting index rest 0 0
  | fits {length : Nat} : length ≠ 0 →
      probeFits chunkId version index (rest.take length) = true → Fitting index rest length length
  | byOne {length result : Nat} : length ≠ 0 →
      ¬probeFits chunkId version index (rest.take length) = true →
      length ≤ max 1 (length * 4 / 5) → Fitting index rest (length - 1) result →
      Fitting index rest length result
  | shrinks {length result : Nat} : length ≠ 0 →
      ¬probeFits chunkId version index (rest.take length) = true →
      ¬length ≤ max 1 (length * 4 / 5) → Fitting index rest (max 1 (length * 4 / 5)) result →
      Fitting index rest length result

def chunkTooLarge : MeshChunkSplitRefusal where
  reason := .chunkTooLarge
  detail := "a single character did not fit the chunk envelope budget"

def tooManyChunks (json : Text) : MeshChunkSplitRefusal where
  reason := .tooManyChunks
  detail := s!"frame needs more than {meshMaxChunks} chunks ({utf8ByteLength json} bytes)"

def longestSlice (rest : Text) : Nat := min rest.length meshChunkPayloadChars

inductive Slicing (json : Text) :
    List Text → Text → Except MeshChunkSplitRefusal (List Text) → Prop
  | done (slices : List Text) : Slicing json slices [] (.ok slices)
  | tooLarge {slices : List Text} {rest : Text} : rest ≠ [] →
      Fitting chunkId version slices.length rest (longestSlice rest) 0 →
      Slicing json slices rest (.error chunkTooLarge)
  | tooMany {slices : List Text} {rest : Text} {length : Nat} : rest ≠ [] →
      Fitting chunkId version slices.length rest (longestSlice rest) length → length ≠ 0 →
      meshMaxChunks < (slices ++ [rest.take length]).length →
      Slicing json slices rest (.error (tooManyChunks json))
  | next {slices : List Text} {rest : Text} {length : Nat}
      {result : Except MeshChunkSplitRefusal (List Text)} : rest ≠ [] →
      Fitting chunkId version slices.length rest (longestSlice rest) length → length ≠ 0 →
      ¬meshMaxChunks < (slices ++ [rest.take length]).length →
      Slicing json (slices ++ [rest.take length]) (rest.drop length) result →
      Slicing json slices rest result

variable {chunkId version}

theorem fitting_fitLength (index : Nat) (rest : Text) {passes length : Nat}
    (enough : length ≤ passes) : Fitting chunkId version index rest length
      (fitLength chunkId version index rest passes length) := by
  induction passes generalizing length with
  | zero =>
    obtain rfl := Nat.le_zero.mp enough
    exact .empty
  | succ passes induction =>
    rw [fitLength]
    by_cases empty : length = 0
    · rw [if_pos empty, empty]
      exact .empty
    rw [if_neg empty]
    by_cases fits : probeFits chunkId version index (rest.take length) = true
    · rw [if_pos fits]
      exact .fits empty fits
    rw [if_neg fits]
    dsimp only
    by_cases byOne : length ≤ max 1 (length * 4 / 5)
    · rw [if_pos byOne]
      apply Fitting.byOne empty fits byOne
      apply induction
      omega
    rw [if_neg byOne]
    apply Fitting.shrinks empty fits byOne
    apply induction
    omega

theorem slicing_sliceFrom {json : Text} {passes : Nat} (slices : List Text) {rest : Text}
    (enough : rest.length ≤ passes) : Slicing chunkId version json slices rest
      (sliceFrom chunkId version json passes slices rest) := by
  induction passes generalizing slices rest with
  | zero =>
    obtain rfl := eq_nil_of_length_eq_zero (Nat.le_zero.mp enough)
    exact .done slices
  | succ passes induction =>
    cases rest with
    | nil => exact .done slices
    | cons unit units =>
      rw [sliceFrom]
      dsimp only
      have some : unit :: units ≠ [] := cons_ne_nil _ _
      have fitting : Fitting chunkId version slices.length (unit :: units)
          (longestSlice (unit :: units)) _ :=
        fitting_fitLength slices.length (unit :: units) le_rfl
      rw [longestSlice] at fitting
      generalize fitLength chunkId version slices.length (unit :: units)
        (min (unit :: units).length meshChunkPayloadChars)
        (min (unit :: units).length meshChunkPayloadChars) = length at fitting ⊢
      by_cases empty : length = 0
      · rw [if_pos empty]
        rw [empty] at fitting
        exact .tooLarge some fitting
      rw [if_neg empty]
      by_cases many : meshMaxChunks < (slices ++ [(unit :: units).take length]).length
      · rw [if_pos many]
        exact .tooMany some fitting empty many
      rw [if_neg many]
      apply Slicing.next some fitting empty many
      apply induction
      rw [length_drop]
      rw [length_cons] at enough ⊢
      omega

/-! ## Slices that fit -/

theorem Fitting.probe {index : Nat} {rest : Text} {start length : Nat}
    (fitting : Fitting chunkId version index rest start length) (some : length ≠ 0) :
    probeFits chunkId version index (rest.take length) = true := by
  induction fitting with
  | empty => exact absurd rfl some
  | fits _ fits => exact fits
  | byOne _ _ _ _ induction | shrinks _ _ _ _ induction => exact induction some

def AllFit (chunkId : String) (version : Nat) (slices : List Text) : Prop :=
  ∀ index slice, slices[index]? = some slice → probeFits chunkId version index slice = true

theorem AllFit.append {slices : List Text} {slice : Text} (fit : AllFit chunkId version slices)
    (fits : probeFits chunkId version slices.length slice = true) :
    AllFit chunkId version (slices ++ [slice]) := by
  intro index found listed
  rcases Nat.lt_trichotomy index slices.length with before | rfl | after
  · rw [getElem?_append_left before] at listed
    exact fit index found listed
  · rw [getElem?_concat_length] at listed
    rw [← some.inj listed]
    exact fits
  · rw [getElem?_eq_none (by rw [length_append, length_singleton]; omega)] at listed
    cases listed

theorem Slicing.allFit {json : Text} {slices rest : List _} {result : Except _ (List Text)}
    (slicing : Slicing chunkId version json slices rest result)
    (fit : AllFit chunkId version slices) {all : List Text} (finished : result = .ok all) :
    AllFit chunkId version all := by
  induction slicing with
  | done slices =>
    cases finished
    exact fit
  | tooLarge _ _ | tooMany _ _ _ _ => cases finished
  | next _ fitting some _ _ induction => exact induction (fit.append (fitting.probe some)) finished

end Loops

/-! ## Envelopes that fit -/

theorem unitsOf_ascii {text : String} (ascii : ∀ character ∈ text.toList, character.toNat < 0x80) :
    (∀ unit ∈ unitsOf text, unit < 0x80) ∧ (unitsOf text).length = text.toList.length := by
  rw [unitsOf]
  revert ascii
  induction text.toList with
  | nil =>
    intro _
    exact ⟨fun _ member => absurd member not_mem_nil, rfl⟩
  | cons character rest induction =>
    intro ascii
    have small := ascii character (.head _)
    obtain ⟨units, length⟩ := induction (forall_mem_cons.mp ascii).2
    rw [flatMap_cons, if_pos (by omega)]
    constructor
    · intro unit member
      rcases mem_cons.mp member with rfl | later
      · rw [UInt16.lt_iff_toNat_lt, UInt16.toNat_ofNat']
        simp
        omega
      · exact units unit later
    · rw [singleton_append, length_cons, length_cons, length]

theorem toString_ascii (number : Nat) :
    ∀ character ∈ (toString number).toList, character.toNat < 0x80 := by
  intro character member
  rw [Nat.toString_eq_repr, Nat.toList_repr] at member
  have digit := Nat.isDigit_of_mem_toDigits (by decide) (by decide) member
  rw [Char.isDigit, and_eq_true, decide_eq_true_eq, decide_eq_true_eq] at digit
  have below := UInt32.le_iff_toNat_le.mp digit.2
  exact lt_of_le_of_lt below (by decide)

theorem numberBytes (number : Nat) :
    utf8ByteLength (unitsOf (toString number)) = (toString number).toList.length := by
  obtain ⟨ascii, length⟩ := unitsOf_ascii (toString_ascii number)
  rw [utf8ByteLength_ascii ascii, length]

theorem notLow_unitsOf_number (number : Nat) (after : Text)
    (whole : ∀ unit ∈ after.head?, isLowSurrogate unit = false) :
    ∀ unit ∈ (unitsOf (toString number) ++ after).head?, isLowSurrogate unit = false := by
  intro unit member
  have ascii := (unitsOf_ascii (toString_ascii number)).1
  cases digits : unitsOf (toString number) with
  | nil =>
    rw [digits, nil_append] at member
    exact whole unit member
  | cons digit digits' =>
    rw [digits] at member ascii
    obtain rfl := some.inj member
    have small := ascii digit (.head _)
    rw [UInt16.lt_iff_toNat_lt] at small
    rw [isLowSurrogate, and_eq_false_iff, decide_eq_false_iff_not, UInt16.le_iff_toNat_le]
    left
    simp at small ⊢
    omega

theorem stringifyEnvelope_le (envelope : MeshChunkEnvelope) (few : envelope.total ≤ meshMaxChunks) :
    utf8ByteLength (stringifyEnvelope envelope) ≤
      utf8ByteLength (stringifyEnvelope { envelope with total := meshMaxChunks }) := by
  let before := unitsOf "\x7b\"v\":" ++ unitsOf (toString envelope.v) ++
    unitsOf ",\"kind\":\"rpc_chunk\",\"chunkId\":" ++ quoted (unitsOf envelope.chunkId) ++
    unitsOf ",\"index\":" ++ unitsOf (toString envelope.index) ++ unitsOf ",\"total\":"
  let after := unitsOf ",\"data\":" ++ (quoted envelope.data ++ unitsOf "\x7d")
  have whole : ∀ unit ∈ after.head?, isLowSurrogate unit = false := by
    intro unit member
    obtain rfl : 0x2c = unit := some.inj member
    decide
  have bytes : ∀ total : Nat, utf8ByteLength (before ++ (unitsOf (toString total) ++ after)) =
      utf8ByteLength before + ((toString total).toList.length + utf8ByteLength after) := by
    intro total
    rw [utf8ByteLength_append (notLow_unitsOf_number total after whole),
      utf8ByteLength_append whole, numberBytes]
  have shape : ∀ total : Nat, stringifyEnvelope { envelope with total := total } =
      before ++ (unitsOf (toString total) ++ after) := by
    intro total
    simp only [stringifyEnvelope, before, after, append_assoc]
  have digits : (toString envelope.total).toList.length ≤
      (toString meshMaxChunks).toList.length := by
    have wide : (toString meshMaxChunks).toList.length = 4 := by decide
    rw [wide, Nat.toString_eq_repr, Nat.toList_repr,
      Nat.length_toDigits_le_iff (by decide) (by decide)]
    exact few.trans_lt (by decide)
  calc utf8ByteLength (stringifyEnvelope envelope)
      = utf8ByteLength (before ++ (unitsOf (toString envelope.total) ++ after)) := by
        rw [← shape]
    _ ≤ utf8ByteLength (before ++ (unitsOf (toString meshMaxChunks) ++ after)) := by
        rw [bytes, bytes]
        omega
    _ = _ := by rw [shape]

/-! ## A split frame -/

/-- Splitting ends, with chunks that make up the frame, few enough, each fitting in a message. -/
theorem splitMeshFrame_exact_and_bounded (chunkId : String) (version : Nat) (json : Text) :
    Slicing chunkId version json [] json (sliceFrom chunkId version json json.length [] json) ∧
    ∀ chunks, splitMeshFrame chunkId version json = .ok chunks →
      (chunks.map MeshChunkEnvelope.data).flatten = json ∧
      chunks.map MeshChunkEnvelope.index = List.range chunks.length ∧
      (∀ chunk ∈ chunks, chunk.total = chunks.length) ∧ chunks.length ≤ meshMaxChunks ∧
      ∀ chunk ∈ chunks, utf8ByteLength (stringifyEnvelope chunk) ≤ meshMaxInlineFrameBytes := by
  have slicing : Slicing chunkId version json [] json
      (sliceFrom chunkId version json json.length [] json) :=
    slicing_sliceFrom [] (le_refl json.length)
  refine ⟨slicing, ?_⟩
  intro chunks split
  obtain ⟨slices, sliced, fit⟩ : ∃ slices, SlicesOf chunkId version json slices chunks ∧
      AllFit chunkId version slices := by
    obtain ⟨slices, listed, sliced⟩ := splitMeshFrame_sliced split
    refine ⟨slices, sliced, ?_⟩
    exact slicing.allFit (fun _ _ listed => by cases listed) listed
  have length : chunks.length = slices.length := by
    rw [sliced.built, List.length_mapIdx]
  have chunkAt : ∀ chunk ∈ chunks, ∃ index data, slices[index]? = some data ∧
      chunk = buildChunkEnvelope chunkId version index slices.length data := by
    intro chunk member
    rw [sliced.built] at member
    obtain ⟨index, data, listed, rfl⟩ := List.mem_mapIdx.mp member
    exact ⟨index, _, List.getElem?_eq_getElem _, rfl⟩
  refine ⟨?_, ?_, ?_, ?_, ?_⟩
  · have data : chunks.map MeshChunkEnvelope.data = slices := by
      rw [sliced.built]
      apply List.ext_getElem
      · rw [List.length_map, List.length_mapIdx]
      · intro slot before after
        rw [List.getElem_map, List.getElem_mapIdx, buildChunkEnvelope]
    rw [data, sliced.joined]
  · rw [sliced.built]
    apply List.ext_getElem
    · rw [List.length_map, List.length_range]
    · intro slot before after
      rw [List.getElem_map, List.getElem_mapIdx, List.getElem_range, buildChunkEnvelope]
  · intro chunk member
    obtain ⟨index, data, listed, rfl⟩ := chunkAt chunk member
    rw [length]
    rfl
  · rw [length]
    exact sliced.few
  intro chunk member
  obtain ⟨index, data, listed, rfl⟩ := chunkAt chunk member
  exact (stringifyEnvelope_le _ sliced.few).trans (of_decide_eq_true (fit index data listed))

end Adhdev.MeshChunking
