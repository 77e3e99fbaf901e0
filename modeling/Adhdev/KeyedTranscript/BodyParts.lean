import Adhdev.Foundation.Packing
import Adhdev.Foundation.Utf16

/-! # The parts of a body

`transcript-keyed-codec.ts`: `splitChatBody`, over the code units of a text.
-/

namespace Adhdev.KeyedTranscript.BodyParts

open Text Packing List Option Bool

/-! ## Bytes -/

def jcsCodePointBytes (unit : UInt16) : Nat :=
  if unit = 0x22 ∨ unit = 0x5c then 2
  else if unit < 0x20 then
    if unit = 0x08 ∨ unit = 0x09 ∨ unit = 0x0a ∨ unit = 0x0c ∨ unit = 0x0d then 2 else 6
  else if unit < 0x80 then 1
  else if unit < 0x800 then 2
  else if 0xd800 ≤ unit ∧ unit ≤ 0xdfff then 6
  else 3

def chatJcsTextBytes : Text → Nat
  | [] => 0
  | [unit] => jcsCodePointBytes unit
  | unit :: next :: rest =>
    if isHighSurrogate unit && isLowSurrogate next then 4 + chatJcsTextBytes rest
    else jcsCodePointBytes unit + chatJcsTextBytes (next :: rest)

/-! ## Splitting -/

section Split

variable (maxBytes : Nat)

def cutsBefore (current : Text) (bytes cpBytes : Nat) : Bool :=
  maxBytes < bytes + cpBytes && !current.isEmpty

def splitFrom (parts : List Text) (current : Text) (bytes : Nat) : Text → List Text
  | [] => parts ++ [current]
  | [unit] =>
    let cpBytes := jcsCodePointBytes unit
    if cutsBefore maxBytes current bytes cpBytes then splitFrom (parts ++ [current]) [unit] cpBytes
      []
    else splitFrom parts (current ++ [unit]) (bytes + cpBytes) []
  | unit :: next :: rest =>
    if isHighSurrogate unit && isLowSurrogate next then
      if cutsBefore maxBytes current bytes 4 then splitFrom (parts ++ [current]) [unit, next] 4 rest
      else splitFrom parts (current ++ [unit, next]) (bytes + 4) rest
    else
      let cpBytes := jcsCodePointBytes unit
      if cutsBefore maxBytes current bytes cpBytes then
        splitFrom (parts ++ [current]) [unit] cpBytes (next :: rest)
      else splitFrom parts (current ++ [unit]) (bytes + cpBytes) (next :: rest)

def splitChatBody (text : Text) : List Text := splitFrom maxBytes [] [] 0 text

end Split

/-! ## Code points -/

def codePoints : Text → List Text
  | [] => []
  | [unit] => [[unit]]
  | unit :: next :: rest =>
    if isHighSurrogate unit && isLowSurrogate next then [unit, next] :: codePoints rest
    else [unit] :: codePoints (next :: rest)

def cpBytes : Text → Nat
  | [unit] => jcsCodePointBytes unit
  | _ => 4

theorem cpBytes_le (point : Text) : cpBytes point ≤ 6 := by
  rw [cpBytes.eq_def]
  split
  · rw [jcsCodePointBytes]
    split_ifs <;> omega
  · omega

theorem flatten_codePoints (text : Text) : (codePoints text).flatten = text := by
  fun_induction codePoints text with
  | case1 => rfl
  | case2 unit => rfl
  | case3 unit next rest _ induction | case4 unit next rest _ induction =>
        rw [flatten_cons, induction]; rfl

theorem total_codePoints (text : Text) : total cpBytes (codePoints text) =
    chatJcsTextBytes text := by
  fun_induction codePoints text with
  | case1 => rfl
  | case2 unit => rfl
  | case3 unit next rest paired induction =>
    rw [chatJcsTextBytes, if_pos paired, ← induction]
    rfl
  | case4 unit next rest unpaired induction =>
    rw [chatJcsTextBytes, if_neg unpaired, ← induction]
    rfl

variable {text point : Text}

theorem codePoints_ne_nil (member : point ∈ codePoints text) : point ≠ [] := by
  fun_induction codePoints text with
  | case1 => cases member
  | case2 unit =>
    rw [mem_singleton.mp member]
    exact cons_ne_nil _ _
  | case3 unit next rest _ induction | case4 unit next rest _ induction =>
    rcases mem_cons.mp member with rfl | later
    · exact cons_ne_nil _ _
    · exact induction later

theorem splitFrom_point (maxBytes : Nat) (parts : List Text) (current : Text) (bytes : Nat)
    {points : List Text} (shape : codePoints text = point :: points) :
    ∃ rest, codePoints rest = points ∧ splitFrom maxBytes parts current bytes text =
        if cutsBefore maxBytes current bytes (cpBytes point) then
          splitFrom maxBytes (parts ++ [current]) point (cpBytes point) rest
        else splitFrom maxBytes parts (current ++ point) (bytes + cpBytes point) rest := by
  cases text with
  | nil => cases shape
  | cons unit text =>
    cases text with
    | nil =>
      cases shape
      exact ⟨[], rfl, rfl⟩
    | cons next rest =>
      rw [codePoints] at shape
      by_cases paired : (isHighSurrogate unit && isLowSurrogate next) = true
      · rw [if_pos paired] at shape
        cases shape
        refine ⟨rest, rfl, ?_⟩
        rw [splitFrom, if_pos paired]
        rfl
      rw [if_neg paired] at shape
      cases shape
      refine ⟨next :: rest, rfl, ?_⟩
      rw [splitFrom, if_neg paired]
      rfl

theorem codePoints_eq_nil (empty : codePoints text = []) : text = [] := by
  rw [← flatten_codePoints text, empty]
  rfl

theorem splitFrom_eq (maxBytes : Nat) (points : List Text) :
    ∀ (parts bin : List Text) (text : Text), codePoints text = points →
      (∀ point ∈ bin ++ points, point ≠ []) →
      splitFrom maxBytes parts bin.flatten (total cpBytes bin) text =
        parts ++ (pack maxBytes cpBytes bin points).map flatten := by
  induction points with
  | nil =>
    intro parts bin text shape _
    rw [codePoints_eq_nil shape, splitFrom, pack, map_singleton]
  | cons point points induction =>
    intro parts bin text shape nonempty
    obtain ⟨rest, restShape, split⟩ := splitFrom_point maxBytes parts bin.flatten
      (total cpBytes bin) shape
    have cuts : cutsBefore maxBytes bin.flatten (total cpBytes bin) (cpBytes point) = true ↔
        maxBytes < total cpBytes bin + cpBytes point ∧ bin ≠ [] := by
      have empty : bin.flatten = [] ↔ bin = [] := by
        constructor
        · intro flat
          cases bin with
          | nil => rfl
          | cons first bin => exact absurd (append_eq_nil_iff.mp flat).1 (nonempty first (.head _))
        · rintro rfl
          rfl
      rw [cutsBefore, and_eq_true, decide_eq_true_eq, not_eq_true', ne_eq, ← empty,
        ← Bool.not_eq_true, List.isEmpty_iff]
    rw [split, pack]
    by_cases full : maxBytes < total cpBytes bin + cpBytes point ∧ bin ≠ []
    · have single := induction (parts ++ [bin.flatten]) [point] rest restShape
        fun one member => nonempty one (mem_append_right _ member)
      rw [flatten_singleton, total_singleton] at single
      rw [if_pos (cuts.mpr full), if_pos full, single, map_cons, append_assoc, singleton_append]
    have longer := induction parts (bin ++ [point]) rest restShape fun one member =>
      nonempty one (by rw [append_assoc] at member; exact member)
    rw [flatten_append, flatten_singleton, total_append, total_singleton] at longer
    rw [if_neg (fun cut => full (cuts.mp cut)), if_neg full, longer]

theorem splitChatBody_eq (maxBytes : Nat) (text : Text) : splitChatBody maxBytes text =
      (pack maxBytes cpBytes [] (codePoints text)).map flatten := by
  have all := splitFrom_eq maxBytes (codePoints text) [] [] text rfl fun point member =>
    codePoints_ne_nil member
  rw [nil_append] at all
  exact all

/-! ## Points that stay apart -/

/-- Whether the first point does not run into the second one. -/
def Apart (before after : Text) : Prop :=
  ∀ high ∈ before.getLast?, ∀ low ∈ after.head?,
    (isHighSurrogate high && isLowSurrogate low) = false

def IsPoint (point : Text) : Prop := codePoints point = [point]

theorem isPoint_of_mem (member : point ∈ codePoints text) : IsPoint point := by
  fun_induction codePoints text with
  | case1 => cases member
  | case2 unit =>
    rw [mem_singleton.mp member]
    rfl
  | case3 unit next rest paired induction =>
    rcases mem_cons.mp member with rfl | later
    · rw [IsPoint, codePoints, if_pos paired, codePoints]
    · exact induction later
  | case4 unit next rest _ induction =>
    rcases mem_cons.mp member with rfl | later
    · rfl
    · exact induction later

theorem codePoints_append {before after : Text} (apart : Apart before after) :
    codePoints (before ++ after) = codePoints before ++ codePoints after := by
  fun_induction codePoints before with
  | case1 => rfl
  | case2 unit =>
    cases after with
    | nil => rfl
    | cons next rest =>
      rw [List.singleton_append, codePoints, apart unit rfl next rfl, if_neg Bool.false_ne_true]
      rfl
  | case3 unit next rest paired induction =>
    have restApart : Apart rest after := by
      intro high last low first
      cases rest with
      | nil => cases last
      | cons one rest =>
        exact apart high (by rw [getLast?_cons_cons, getLast?_cons_cons]; exact last) low first
    rw [cons_append, cons_append, codePoints, if_pos paired, induction restApart]
    rfl
  | case4 unit next rest unpaired induction =>
    have restApart : Apart (next :: rest) after := by
      intro high last low first
      exact apart high (by rw [getLast?_cons_cons]; exact last) low first
    have points := induction restApart
    rw [cons_append] at points ⊢
    rw [cons_append, codePoints, if_neg unpaired, points]
    rfl

theorem codePoints_flatten {points : List Text} (arePoints : ∀ point ∈ points, IsPoint point)
    (apart : points.IsChain Apart) (nonempty : ∀ point ∈ points, point ≠ []) :
    codePoints points.flatten = points := by
  induction points with
  | nil => rfl
  | cons point points induction =>
    have restPoints := induction (forall_mem_cons.mp arePoints).2
      (List.IsChain.tail apart) (forall_mem_cons.mp nonempty).2
    have pointApart : Apart point points.flatten := by
      cases points with
      | nil =>
        intro high _ low first
        cases first
      | cons next points =>
        intro high last low first
        have nextSome := nonempty next (.tail _ (.head _))
        rw [flatten_cons, head?_append_of_ne_nil _ nextSome] at first
        exact (isChain_cons_cons.mp apart).1 high last low first
    rw [flatten_cons, codePoints_append pointApart, restPoints, arePoints point (.head _)]
    rfl

theorem head?_of_codePoints {unit : UInt16} {rest : Text}
    (first : point ∈ (codePoints (unit :: rest)).head?) : point.head? = some unit := by
  cases rest with
  | nil =>
    obtain rfl := some.inj first
    rfl
  | cons next rest =>
    rw [codePoints] at first
    split at first
    · obtain rfl := some.inj first
      rfl
    · obtain rfl := some.inj first
      rfl

theorem codePoints_apart (text : Text) : (codePoints text).IsChain Apart := by
  fun_induction codePoints text with
  | case1 => exact isChain_nil
  | case2 unit => exact isChain_singleton _
  | case3 unit next rest paired induction =>
    apply isChain_cons.mpr
    refine ⟨?_, induction⟩
    intro point first high last low lowFirst
    have isLow := (and_eq_true _ _ ▸ paired).2
    obtain rfl : next = high := some.inj last
    rw [isHighSurrogate_of_low isLow, Bool.false_and]
  | case4 unit next rest unpaired induction =>
    apply isChain_cons.mpr
    refine ⟨?_, induction⟩
    intro point first high last low lowFirst
    obtain rfl : unit = high := some.inj last
    obtain rfl : next = low := by
      rw [head?_of_codePoints first] at lowFirst
      exact some.inj lowFirst
    exact eq_false_iff.mpr unpaired

variable {before after : List Text}

theorem apart_flatten (apart : (before ++ after).IsChain Apart)
    (nonempty : ∀ point ∈ before ++ after, point ≠ []) : Apart before.flatten after.flatten := by
  intro high last low first
  rcases eq_nil_or_concat before with rfl | ⟨points, point, rfl⟩
  · cases last
  cases after with
  | nil => cases first
  | cons next after =>
    have pointSome : point ≠ [] := nonempty point (by simp)
    have nextSome : next ≠ [] := nonempty next (by simp)
    rw [concat_eq_append, flatten_append, flatten_singleton,
      getLast?_append_of_ne_nil _ pointSome] at last
    rw [flatten_cons, head?_append_of_ne_nil _ nextSome] at first
    rw [concat_eq_append] at apart
    exact (isChain_append.mp apart).2.2 point (by simp) next rfl high last low first

/-! ## The parts of a text -/

section Parts

variable (maxBytes : Nat) (text : Text)

theorem codePoints_of_bin {bin : List Text}
    (member : bin ∈ pack maxBytes cpBytes [] (codePoints text)) : codePoints bin.flatten = bin := by
  have inText : bin <:+: codePoints text := by
    have isInfix := infix_of_mem_flatten member
    rw [flatten_pack, nil_append] at isInfix
    exact isInfix
  obtain ⟨before, after, whole⟩ := inText
  have apart := codePoints_apart text
  rw [← whole, append_assoc] at apart
  have listedAt : ∀ point ∈ bin, point ∈ codePoints text := by
    intro point listed
    rw [← whole]
    exact mem_append_left _ (mem_append_right _ listed)
  exact codePoints_flatten (fun point listed => isPoint_of_mem (listedAt point listed))
    apart.right_of_append.left_of_append fun point listed =>
      codePoints_ne_nil (listedAt point listed)

theorem bytes_of_bin {bin : List Text} (member : bin ∈ pack maxBytes cpBytes [] (codePoints text)) :
    chatJcsTextBytes bin.flatten = total cpBytes bin := by
  rw [← total_codePoints, codePoints_of_bin maxBytes text member]

theorem sum_total (bins : List (List Text)) :
    (bins.map (total cpBytes)).sum = total cpBytes bins.flatten := by
  induction bins with
  | nil => rfl
  | cons bin bins induction => rw [map_cons, sum_cons, induction, flatten_cons, total_append]

theorem splitChatBody_cuts (cut : splitChatBody maxBytes text = before ++ after) :
    Apart before.flatten after.flatten := by
  rw [splitChatBody_eq] at cut
  obtain ⟨beforeBins, afterBins, bins, rfl, rfl⟩ := map_eq_append_iff.mp cut
  have points : codePoints text = beforeBins.flatten ++ afterBins.flatten := by
    rw [← flatten_append, ← bins, flatten_pack]
    rfl
  rw [← flatten_flatten, ← flatten_flatten]
  apply apart_flatten
  · rw [← points]
    exact codePoints_apart text
  · rw [← points]
    exact fun point member => codePoints_ne_nil member

/-- Parts make up the text, none too long, no pair is cut, and all but the last one stay when more
is appended. -/
theorem splitChatBody_exact_and_bounded (atLeast : 6 ≤ maxBytes) :
    (splitChatBody maxBytes text).flatten = text ∧
    (∀ part ∈ splitChatBody maxBytes text, chatJcsTextBytes part ≤ maxBytes) ∧
    ((splitChatBody maxBytes text).map chatJcsTextBytes).sum = chatJcsTextBytes text ∧
    (∀ before after, splitChatBody maxBytes text = before ++ after →
      Apart before.flatten after.flatten) ∧
    ((splitChatBody maxBytes text).length = 1 ↔ chatJcsTextBytes text ≤ maxBytes) ∧
    ∀ suffix, (∀ last ∈ text.getLast?, isHighSurrogate last = false) →
      (splitChatBody maxBytes text).dropLast <+: splitChatBody maxBytes (text ++ suffix) := by
  have small : ∀ point ∈ codePoints text, cpBytes point ≤ maxBytes :=
    fun point _ => (cpBytes_le point).trans atLeast
  refine ⟨?_, ?_, ?_, fun before after => splitChatBody_cuts maxBytes text, ?_, ?_⟩
  · rw [splitChatBody_eq, ← List.flatten_flatten, flatten_pack, List.nil_append, flatten_codePoints]
  · intro part member
    rw [splitChatBody_eq] at member
    obtain ⟨bin, packed, rfl⟩ := List.mem_map.mp member
    have room : total cpBytes ([] : List Text) ≤ maxBytes := Nat.zero_le _
    rw [bytes_of_bin maxBytes text packed]
    exact total_le_of_mem_pack small room bin packed
  · have eachBin : (pack maxBytes cpBytes [] (codePoints text)).map
        (chatJcsTextBytes ∘ List.flatten) =
          (pack maxBytes cpBytes [] (codePoints text)).map (total cpBytes) :=
      List.map_congr_left fun bin packed => bytes_of_bin maxBytes text packed
    rw [splitChatBody_eq, List.map_map, eachBin, sum_total, flatten_pack, List.nil_append,
      total_codePoints]
  · rw [splitChatBody_eq, List.length_map, length_pack_eq_one small, total_codePoints]
  intro suffix whole
  have apart : Apart text suffix := by
    intro high last low _
    rw [whole high last, Bool.false_and]
  rw [splitChatBody_eq, splitChatBody_eq, codePoints_append apart, ← List.map_dropLast]
  exact (dropLast_pack_begins [] (codePoints text) (codePoints suffix)).map _

end Parts

theorem splitChatBody_exact_and_bounded_six :
    splitChatBody 6 [0x61, 0xd83d, 0xde00, 0x62, 0xd83d] =
      [[0x61, 0xd83d, 0xde00, 0x62], [0xd83d]] ∧
    chatJcsTextBytes [0xd83d] ≤ 6 := by
  have split : splitChatBody 6 [0x61, 0xd83d, 0xde00, 0x62, 0xd83d] =
      [[0x61, 0xd83d, 0xde00, 0x62], [0xd83d]] := by decide
  have bounded := (splitChatBody_exact_and_bounded 6 [0x61, 0xd83d, 0xde00, 0x62, 0xd83d]
    (le_refl 6)).2.1 [0xd83d]
  rw [split] at bounded
  exact ⟨split, bounded (by decide)⟩

end Adhdev.KeyedTranscript.BodyParts
