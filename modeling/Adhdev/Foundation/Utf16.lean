import Mathlib

/-! # Texts of UTF-16 code units

A text is its code units, paired surrogates or not. Its UTF-8 length counts a lone surrogate as the
replacement character.
-/

namespace Adhdev

abbrev Text := List UInt16

namespace Text

def isHighSurrogate (unit : UInt16) : Bool := 0xd800 ≤ unit && unit ≤ 0xdbff

def isLowSurrogate (unit : UInt16) : Bool := 0xdc00 ≤ unit && unit ≤ 0xdfff

def unitBytes (unit : UInt16) : Nat :=
  if unit < 0x80 then 1 else if unit < 0x800 then 2 else 3

def utf8ByteLength : Text → Nat
  | [] => 0
  | [unit] => unitBytes unit
  | unit :: next :: rest =>
    if isHighSurrogate unit && isLowSurrogate next then 4 + utf8ByteLength rest
    else unitBytes unit + utf8ByteLength (next :: rest)

theorem isHighSurrogate_of_low {unit : UInt16} (low : isLowSurrogate unit = true) :
    isHighSurrogate unit = false := by
  simp only [isLowSurrogate, isHighSurrogate, Bool.and_eq_true, decide_eq_true_eq,
    UInt16.le_iff_toNat_le, Bool.and_eq_false_iff, decide_eq_false_iff_not] at low ⊢
  simp at low ⊢
  omega

theorem unitBytes_le (unit : UInt16) : unitBytes unit ≤ 3 := by
  rw [unitBytes]
  split_ifs <;> omega

theorem unitBytes_pos (unit : UInt16) : 0 < unitBytes unit := by
  rw [unitBytes]
  split_ifs <;> omega

theorem utf8ByteLength_low {unit : UInt16} (low : isLowSurrogate unit = true) (rest : Text) :
    utf8ByteLength (unit :: rest) = unitBytes unit + utf8ByteLength rest := by
  cases rest with
  | nil => rfl
  | cons next rest =>
    rw [utf8ByteLength, isHighSurrogate_of_low low, Bool.false_and, if_neg Bool.false_ne_true]

theorem utf8ByteLength_tail (unit : UInt16) (rest : Text) :
    utf8ByteLength rest ≤ utf8ByteLength (unit :: rest) := by
  cases rest with
  | nil => exact Nat.zero_le _
  | cons next rest =>
    rw [utf8ByteLength]
    split
    · rename_i paired
      have low := (Bool.and_eq_true _ _ ▸ paired).2
      have bytes := unitBytes_le next
      rw [utf8ByteLength_low low]
      omega
    · omega

theorem utf8ByteLength_suffix {suffix text : Text} (isSuffix : suffix <:+ text) :
    utf8ByteLength suffix ≤ utf8ByteLength text := by
  obtain ⟨before, rfl⟩ := isSuffix
  induction before with
  | nil => exact le_refl _
  | cons unit before induction => exact induction.trans (utf8ByteLength_tail unit _)

theorem utf8ByteLength_append {before after : Text}
    (whole : ∀ unit ∈ after.head?, isLowSurrogate unit = false) :
    utf8ByteLength (before ++ after) = utf8ByteLength before + utf8ByteLength after := by
  fun_induction utf8ByteLength before with
  | case1 => rw [List.nil_append, Nat.zero_add]
  | case2 unit =>
    cases after with
    | nil => rfl
    | cons next rest =>
      have notLow := whole next rfl
      rw [List.singleton_append, utf8ByteLength, notLow, Bool.and_false, if_neg Bool.false_ne_true]
  | case3 unit next rest paired induction =>
    rw [List.cons_append, List.cons_append, utf8ByteLength, if_pos paired, induction]
    omega
  | case4 unit next rest unpaired induction =>
    rw [List.cons_append] at induction ⊢
    rw [List.cons_append, utf8ByteLength, if_neg unpaired, induction]
    omega

theorem utf8ByteLength_ascii {text : Text} (ascii : ∀ unit ∈ text, unit < 0x80) :
    utf8ByteLength text = text.length := by
  induction text with
  | nil => rfl
  | cons unit rest induction =>
    have notHigh : isHighSurrogate unit = false := by
      have small := ascii unit (.head _)
      rw [UInt16.lt_iff_toNat_lt] at small
      rw [isHighSurrogate, Bool.and_eq_false_iff, decide_eq_false_iff_not, UInt16.le_iff_toNat_le]
      left
      simp at small ⊢
      omega
    have restLength := induction (List.forall_mem_cons.mp ascii).2
    have one : unitBytes unit = 1 := if_pos (ascii unit (.head _))
    cases rest with
    | nil => exact one
    | cons next rest =>
      rw [utf8ByteLength, notHigh, Bool.false_and, if_neg Bool.false_ne_true, restLength, one]
      simp only [List.length_cons]
      omega

end Text

end Adhdev
