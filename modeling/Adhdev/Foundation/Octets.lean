import Mathlib

/-! # Octets

Numbers in big-endian order, hexadecimal texts, and writing into a buffer.
-/

namespace Adhdev

open List Option Bool

abbrev Octets := List UInt8

namespace Octets

/-! ## Numbers -/

def ofNumber : Nat → Nat → Octets
  | 0, _ => []
  | width + 1, value => ofNumber width (value / 256) ++ [UInt8.ofNat value]

def number (octets : Octets) : Nat :=
  octets.foldl (fun value octet => value * 256 + octet.toNat) 0

@[simp] theorem length_ofNumber (width value : Nat) : (ofNumber width value).length = width := by
  induction width generalizing value with
  | zero => rfl
  | succ width induction => rw [ofNumber, length_append, induction, length_singleton]

theorem number_append_one (octets : Octets) (octet : UInt8) :
    number (octets ++ [octet]) = number octets * 256 + octet.toNat := by
  rw [number, foldl_append]
  rfl

theorem number_ofNumber {width value : Nat} (fits : value < 256 ^ width) :
    number (ofNumber width value) = value := by
  induction width generalizing value with
  | zero =>
    rw [pow_zero, Nat.lt_one_iff] at fits
    rw [fits]
    rfl
  | succ width induction =>
    have shorter : value / 256 < 256 ^ width := by
      rw [Nat.div_lt_iff_lt_mul (by omega), ← pow_succ]
      exact fits
    rw [ofNumber, number_append_one, induction shorter, UInt8.toNat_ofNat']
    omega

theorem ofNumber_number (octets : Octets) : ofNumber octets.length (number octets) = octets := by
  induction octets using reverseRecOn with
  | nil => rfl
  | append_singleton octets octet induction =>
    have small := octet.toNat_lt
    have high : number (octets ++ [octet]) / 256 = number octets := by
      rw [number_append_one]
      omega
    have low : UInt8.ofNat (number (octets ++ [octet])) = octet := by
      apply UInt8.toNat_inj.mp
      rw [UInt8.toNat_ofNat', number_append_one]
      omega
    rw [length_append, length_singleton, ofNumber, high, low, induction]

theorem number_lt (octets : Octets) : number octets < 256 ^ octets.length := by
  induction octets using reverseRecOn with
  | nil => decide
  | append_singleton octets octet induction =>
    have small := octet.toNat_lt
    rw [number_append_one, length_append, length_singleton, pow_succ]
    omega

theorem eq_replicate_of_number {octets : Octets} (zero : number octets = 0) :
    octets = replicate octets.length 0 := by
  induction octets using reverseRecOn with
  | nil => rfl
  | append_singleton octets octet induction =>
    rw [number_append_one] at zero
    have isZero : octet = 0 := by
      apply UInt8.toNat_inj.mp
      rw [UInt8.toNat_zero]
      omega
    rw [length_append, length_singleton, replicate_add, ← induction (by omega), isZero]
    rfl

/-! ## Hexadecimal texts -/

def hexDigit (value : Nat) : Char := Char.ofNat (if value < 10 then 48 + value else 87 + value)

def hexValue (digit : Char) : Option Nat :=
  if 48 ≤ digit.toNat ∧ digit.toNat ≤ 57 then some (digit.toNat - 48)
  else if 97 ≤ digit.toNat ∧ digit.toNat ≤ 102 then some (digit.toNat - 87)
  else if 65 ≤ digit.toNat ∧ digit.toNat ≤ 70 then some (digit.toNat - 55)
  else none

def isHexDigit (digit : Char) : Bool :=
  (48 ≤ digit.toNat && digit.toNat ≤ 57) || (97 ≤ digit.toNat && digit.toNat ≤ 102)

def toHex (octets : Octets) : List Char :=
  octets.flatMap fun octet => [hexDigit (octet.toNat / 16), hexDigit (octet.toNat % 16)]

/-- Reading stops where there is no pair of digits. -/
def ofHex : List Char → Octets
  | one :: two :: digits =>
    match hexValue one, hexValue two with
    | some high, some low => UInt8.ofNat (high * 16 + low) :: ofHex digits
    | _, _ => []
  | _ => []

theorem hexValue_hexDigit : ∀ value < 16, hexValue (hexDigit value) = some value := by
  decide

theorem isHexDigit_hexDigit : ∀ value < 16, isHexDigit (hexDigit value) = true := by
  decide

theorem hexDigit_of_value {digit : Char} (isDigit : isHexDigit digit = true) :
    ∃ value < 16, hexValue digit = some value ∧ hexDigit value = digit := by
  rw [isHexDigit, or_eq_true, and_eq_true, and_eq_true, decide_eq_true_eq,
    decide_eq_true_eq, decide_eq_true_eq, decide_eq_true_eq] at isDigit
  have same : ∀ code, code = digit.toNat → Char.ofNat code = digit := by
    rintro code rfl
    exact Char.ofNat_toNat digit
  rcases isDigit with decimal | letter
  · refine ⟨digit.toNat - 48, by omega, ?_, ?_⟩
    · rw [hexValue, if_pos decimal]
    · rw [hexDigit, if_pos (by omega)]
      exact same _ (by omega)
  refine ⟨digit.toNat - 87, by omega, ?_, ?_⟩
  · rw [hexValue, if_neg (by omega), if_pos letter]
  · rw [hexDigit, if_neg (by omega)]
    exact same _ (by omega)

theorem ofHex_toHex (octets : Octets) : ofHex (toHex octets) = octets := by
  induction octets with
  | nil => rfl
  | cons octet octets induction =>
    have small := octet.toNat_lt
    have whole : octet.toNat / 16 * 16 + octet.toNat % 16 = octet.toNat := by omega
    rw [toHex] at induction ⊢
    rw [flatMap_cons]
    dsimp only [cons_append, nil_append]
    rw [ofHex, hexValue_hexDigit _ (by omega), hexValue_hexDigit _ (by omega)]
    dsimp only
    rw [induction, whole, UInt8.ofNat_toNat]

theorem length_toHex (octets : Octets) : (toHex octets).length = 2 * octets.length := by
  induction octets with
  | nil => rfl
  | cons octet octets induction =>
    rw [toHex] at induction ⊢
    rw [flatMap_cons, length_append, induction]
    simp only [length_cons, length_nil]
    omega

theorem isHexDigit_toHex (octets : Octets) : (toHex octets).all isHexDigit = true := by
  rw [List.all_eq_true]
  intro digit member
  obtain ⟨octet, -, listed⟩ := mem_flatMap.mp member
  have small := octet.toNat_lt
  rcases mem_cons.mp listed with rfl | listed
  · exact isHexDigit_hexDigit _ (by omega)
  · rw [mem_singleton.mp listed]
    exact isHexDigit_hexDigit _ (by omega)

theorem toHex_ofHex (digits : List Char) (areDigits : digits.all isHexDigit = true)
    {pairs : Nat} (even : digits.length = 2 * pairs) :
    toHex (ofHex digits) = digits ∧ (ofHex digits).length = pairs := by
  induction pairs generalizing digits with
  | zero =>
    obtain rfl := eq_nil_of_length_eq_zero (even.trans (Nat.mul_zero 2))
    exact ⟨rfl, rfl⟩
  | succ pairs induction =>
    cases digits with
    | nil => cases even
    | cons one digits =>
      cases digits with
      | nil =>
        rw [length_singleton] at even
        omega
      | cons two digits =>
        rw [all_cons, all_cons, and_eq_true, and_eq_true] at areDigits
        rw [length_cons, length_cons] at even
        obtain ⟨high, highSmall, isHigh, highDigit⟩ := hexDigit_of_value areDigits.1
        obtain ⟨low, lowSmall, isLow, lowDigit⟩ := hexDigit_of_value areDigits.2.1
        obtain ⟨same, length⟩ := induction digits areDigits.2.2 (by omega)
        have read : (UInt8.ofNat (high * 16 + low)).toNat = high * 16 + low := by
          rw [UInt8.toNat_ofNat']
          omega
        have highPart : (high * 16 + low) / 16 = high := by omega
        have lowPart : (high * 16 + low) % 16 = low := by omega
        rw [ofHex, isHigh, isLow]
        dsimp only
        rw [toHex] at same ⊢
        rw [flatMap_cons, same, read, highPart, lowPart, highDigit, lowDigit, length_cons, length]
        exact ⟨rfl, rfl⟩

/-! ## Buffers -/

def writeAt (buffer : Octets) (offset : Nat) (written : Octets) : Octets :=
  buffer.take offset ++ written.take (buffer.length - offset) ++
    buffer.drop (offset + written.length)

def slice (buffer : Octets) (offset width : Nat) : Octets := (buffer.drop offset).take width

section Parts

variable {part written : Octets} (after : Octets) {offset width : Nat}

theorem slice_head (isWidth : part.length = width) : slice (part ++ after) 0 width = part := by
  rw [slice, drop_zero, ← isWidth, take_left]

theorem slice_skip (passed : part.length ≤ offset) :
    slice (part ++ after) offset width = slice after (offset - part.length) width := by
  rw [slice, slice, drop_append, drop_of_length_le passed, nil_append]

theorem writeAt_head (same : part.length = written.length) :
    writeAt (part ++ after) 0 written = written ++ after := by
  have fits : written.length ≤ (part ++ after).length - 0 := by
    rw [length_append]
    omega
  rw [writeAt, take_zero, nil_append, take_of_length_le fits, Nat.zero_add, ← same, drop_left]

theorem writeAt_whole (same : part.length = written.length) : writeAt part 0 written = written := by
  simpa using writeAt_head [] same

theorem writeAt_skip (passed : part.length ≤ offset) : writeAt (part ++ after) offset written =
      part ++ writeAt after (offset - part.length) written := by
  have left : (part ++ after).length - offset = after.length - (offset - part.length) := by
    rw [length_append]
    omega
  have beyond : offset + written.length - part.length = offset - part.length + written.length := by
    omega
  rw [writeAt, writeAt, left, take_append, take_of_length_le passed, drop_append,
    drop_of_length_le (passed.trans (Nat.le_add_right _ _)), nil_append, beyond]
  simp only [append_assoc]

end Parts

end Octets

end Adhdev
